/-
  Fdbus.Server.Monitors — monitors are told addresses, and not tokens but for one way.

  Five paths build address lists: a service comes online or goes away, a client subscribes, a
  list comes from another name server, and external services are told.  Each clears the tokens
  at a place of its own before the list goes to a monitor.  The fourth clears them by the
  publisher that the list comes from, and sends an answer by the object of the subscription.

    * `Clean` — of the lists that are sent at once, none for a monitor has tokens; there is one
      lemma for each path,
    * `monitors_get_no_tokens` — over every run in which no list for normal subscribers answers a
      monitor, no list that was sent to a monitor has tokens,
    * `token_for_monitor` — a list that does gives the monitor a token.
-/
import Fdbus.Server.NameServer
import Fdbus.Library.Run

namespace Fdbus.Server

open Fdbus.OrderedMap Fdbus.Security Fdbus.Subscribe Fdbus.Run List Option

/-! ## §1. What is sent at once. -/

/-- The publishers of monitors. -/
def SubscribeType.IsMonitor (type : SubscribeType) : Prop :=
  type = .intraMonitor ∨ type = .interMonitor

/-- No list for a monitor has tokens. -/
def Clean (lists : List Sent) : Prop := ∀ m ∈ lists, m.type.IsMonitor → m.list.dumpTokens = []

theorem clean_nil : Clean [] := fun _ hm => absurd hm not_mem_nil

theorem Clean.append {lists lists' : List Sent} (h : Clean lists) (h' : Clean lists') :
    Clean (lists ++ lists') :=
  forall_mem_append.mpr ⟨h, h'⟩

theorem clean_flatMap {α : Type} {l : List α} {f : α → List Sent} (h : ∀ a ∈ l, Clean (f a)) :
    Clean (l.flatMap f) := by
  intro m hm
  obtain ⟨a, ha, hm⟩ := mem_flatMap.mp hm
  exact h a ha m hm

theorem clean_elim {α : Type} {o : Option α} {f : α → List Sent} (h : ∀ a, o = some a → Clean (f a)) :
    Clean (o.elim [] f) := by
  intro m hm
  obtain ⟨a, ha, hm⟩ := mem_elim.mp hm
  exact h a ha m hm

section Publishers

variable {pubs : Publishers} {type : SubscribeType} {code : FdbInstanceId} {topic : Text}
  {list : FdbMsgAddressList}

theorem clean_broadcastAll (h : type.IsMonitor → list.dumpTokens = []) :
    Clean (broadcastAll pubs type code topic list) := by
  intro m hm hmonitor
  rw [(mem_broadcastAll.mp hm).2] at hmonitor ⊢
  exact h hmonitor

theorem clean_broadcastSession {session : SessionPtr} {sender : FdbObjectId}
    (h : type.IsMonitor → list.dumpTokens = []) :
    Clean (broadcastSession pubs type session sender code topic list) := by
  intro m hm hmonitor
  rw [(mem_broadcastSession.mp hm).2] at hmonitor ⊢
  exact h hmonitor

variable {cfg : NsConfig} {sessions : Sessions} {tokens : List Token}

theorem clean_broadcastSvcAddr (h : ¬ type.IsMonitor) :
    Clean (broadcastSvcAddr pubs type cfg sessions tokens list) := by
  refine clean_flatMap fun session _ => ?_
  split
  · exact clean_broadcastSession fun hmonitor => absurd hmonitor h
  · exact clean_nil

end Publishers

open SubscribeType

theorem not_isMonitor_intraNormal : ¬ intraNormal.IsMonitor := by
  rintro (h | h) <;> cases h

theorem not_isMonitor_interNormal : ¬ interNormal.IsMonitor := by
  rintro (h | h) <;> cases h

theorem not_isMonitor_moreAddress : ¬ moreAddress.IsMonitor := by
  rintro (h | h) <;> cases h

/-! ## §2. The five paths. -/

/-- A list that comes from `INTER_NORMAL` and has tokens answers no subscription of a monitor. -/
def AnswersOwnKind (monitor : Bool) (list : FdbMsgAddressList)
    (initial : Option (SessionPtr × FdbObjectId)) : Prop :=
  monitor = false → list.dumpTokens ≠ [] → ∀ p ∈ initial, ∀ type, ofObject p.2 = some type →
    ¬ type.IsMonitor

section Paths

variable (cfg : NsConfig) (ns : NameServer)

variable {entry : CSvcRegistryEntry} {list : FdbMsgAddressList} {type : SubscribeType}

theorem dumpTokens_onlineAddress (hmonitor : type.IsMonitor)
    (h : onlineAddress cfg entry type = some list) : list.dumpTokens = [] := by
  rcases hmonitor with rfl | rfl
  · obtain ⟨rfl, -⟩ := unlessEmpty_some h
    rfl
  · obtain ⟨rfl, -⟩ := unlessEmpty_some h
    rfl

/-- A service comes online. -/
theorem clean_onlineLists (entry : CSvcRegistryEntry) (svcName : Text) (instanceId : FdbInstanceId) :
    Clean (onlineLists cfg ns entry svcName instanceId) := by
  have hmonitors : ∀ type, Clean ((onlineAddress cfg entry type).elim []
      (broadcastAll ns.publishers type instanceId svcName)) := fun type =>
    clean_elim fun list hlist => clean_broadcastAll fun hmonitor =>
      dumpTokens_onlineAddress cfg hmonitor hlist
  have hclients : ∀ type : SubscribeType, ¬ type.IsMonitor → Clean ((onlineAddress cfg entry type).elim
      [] (broadcastSvcAddr ns.publishers type cfg ns.sessions entry.mTokens)) := fun type htype =>
    clean_elim fun _ _ => clean_broadcastSvcAddr htype
  exact (((hmonitors _).append (hmonitors _)).append (hclients _ not_isMonitor_intraNormal)).append
    (hclients _ not_isMonitor_interNormal)

/-- A service goes away. -/
theorem clean_offlineLists (entry : CSvcRegistryEntry) (svcName : Text)
    (instanceId : FdbInstanceId) : Clean (offlineLists cfg ns entry svcName instanceId) :=
  (((clean_broadcastSvcAddr not_isMonitor_intraNormal).append
    (clean_broadcastAll fun _ => rfl)).append
    (clean_broadcastSvcAddr not_isMonitor_interNormal)).append (clean_broadcastAll fun _ => rfl)

theorem dumpTokens_subscribeList (hmonitor : type.IsMonitor) {info : SessionInfo}
    (h : subscribeList cfg entry type info = some list) : list.dumpTokens = [] := by
  unfold subscribeList serviceAddress at h
  obtain ⟨l, hl, rfl⟩ := map_eq_some_iff.mp h
  -- a monitor's list is sent as it was made, and it was made without tokens
  have hdress : dress cfg entry.mTokens type info l = l := by
    rcases hmonitor with rfl | rfl <;> rfl
  rw [hdress]
  split at hl
  · cases hl
  · split at hl
    · cases hl
    · obtain ⟨rfl, -⟩ := unlessEmpty_some hl
      rfl

/-- External services are told. -/
theorem clean_broadcastExternalService (connected : Bool) (svcs : List CFdbSvcAddress)
    (remove : Bool) (type : SubscribeType) (instanceId : FdbInstanceId) (svcName : Text)
    (msg : Option (SessionPtr × FdbObjectId)) :
    Clean (broadcastExternalService cfg ns.mRegistryTbl ns.publishers ns.sessions connected svcs
      remove type instanceId svcName msg) := by
  have hone : ∀ svc, Clean (broadcastOneExtService cfg ns.mRegistryTbl ns.publishers ns.sessions
      connected svc remove type msg) := by
    intro svc
    unfold broadcastOneExtService
    split
    · exact clean_nil
    · rcases msg with _ | ⟨session, obj⟩
      · by_cases htype : type = .intraNormal
        · subst htype
          exact clean_broadcastSvcAddr not_isMonitor_intraNormal
        · simp only [if_neg htype]
          exact clean_broadcastAll fun _ => rfl
      · by_cases htype : type = .intraNormal
        · subst htype
          simp only [if_true, answerSvcAddr]
          split
          · exact clean_broadcastSession fun h => absurd h not_isMonitor_intraNormal
          · exact clean_nil
        · simp only [if_neg htype]
          exact clean_broadcastSession fun _ => rfl
  unfold broadcastExternalService
  split
  · refine clean_flatMap fun svc _ => ?_
    split
    · exact hone svc
    · exact clean_nil
  · exact clean_flatMap fun svc _ => hone svc

/-- A client subscribes. -/
theorem clean_onServiceOnlineReg (type : SubscribeType) (session : SessionPtr) (info : SessionInfo)
    (obj : FdbObjectId) (item : CFdbMsgSubscribeItem) :
    Clean (onServiceOnlineReg cfg ns type session info obj item) := by
  refine Clean.append ?_ ?_
  · exact clean_flatMap fun m _ => clean_elim fun list hlist => clean_broadcastSession fun hmonitor =>
      dumpTokens_subscribeList cfg hmonitor hlist
  · exact clean_flatMap fun p _ => clean_broadcastExternalService cfg ns _ _ _ _ _ _ _

/-- A list comes from another name server.  An answer goes to the publisher of the subscription's
object, which is not a monitor's if the list has tokens and is not one for monitors. -/
theorem clean_onServiceBroadcast {monitor : Bool} {initial : Option (SessionPtr × FdbObjectId)}
    {list : FdbMsgAddressList} (hown : AnswersOwnKind monitor list initial) (code : FdbInstanceId)
    (peerIp : Text) : Clean (onServiceBroadcast cfg ns monitor code peerIp list initial) := by
  unfold onServiceBroadcast
  by_cases hnone : subscribedSessions ns.publishers
      (if monitor = true then intraMonitor else .intraNormal) code list.serviceName = []
  · rw [if_pos hnone]
    exact clean_nil
  · rw [if_neg hnone]
    cases initial with
    | none =>
      cases monitor with
      | true => exact clean_broadcastAll fun _ => rfl
      | false => exact clean_broadcastSvcAddr not_isMonitor_intraNormal
    | some p =>
      simp only
      split
      · next type htype =>
        cases monitor with
        | true => exact clean_broadcastSession fun _ => rfl
        | false =>
          refine clean_elim fun info _ => clean_broadcastSession fun hmonitor => ?_
          -- a monitor is answered, so no tokens came
          have hempty : list.dumpTokens = [] := by
            by_contra htokens
            exact hown rfl htokens _ rfl type htype hmonitor
          have hkept : (validateUrl peerIp list).dumpTokens = [] := by
            unfold validateUrl
            simp only
            split_ifs <;> exact hempty
          rw [hkept]
          exact tokensLocal_nil _
      · exact clean_nil

end Paths

/-! ## §3. Over every run. -/

/-- What every state of a run satisfies: the lists that were sent are clean. -/
def NoTokens (ns : NameServer) : Prop := Clean ns.sent

section Steps

variable (cfg : NsConfig) {ns : NameServer}

/-- Clean lists are sent. -/
theorem NoTokens.sends (h : NoTokens ns) {ns' : NameServer} {lists : List Sent}
    (hsent : ns'.sent = ns.sent ++ lists) (hlists : Clean lists) : NoTokens ns' := by
  unfold NoTokens
  rw [hsent]
  exact Clean.append h hlists

theorem NoTokens.connectToHostServer (h : NoTokens ns) (url : Text) :
    NoTokens (ns.connectToHostServer url) := by
  unfold NameServer.connectToHostServer
  split
  · exact h
  · exact h

theorem NoTokens.online (params : OnlineParams) :
    NoTokens (NameServer.online cfg params) := by
  have hfold : ∀ (urls : List Text) (ns : NameServer), NoTokens ns →
      NoTokens (urls.foldl NameServer.connectToHostServer ns) := by
    intro urls
    induction urls with
    | nil => exact fun _ h => h
    | cons url urls ih => exact fun ns h => ih _ (h.connectToHostServer url)
  exact hfold _ _ clean_nil

theorem NoTokens.removeService (h : NoTokens ns) (svcName : Text) (instanceId : FdbInstanceId) :
    NoTokens (removeService cfg ns svcName instanceId).1 := by
  unfold Server.removeService
  split
  · exact h
  · exact h.sends rfl (clean_offlineLists cfg ns _ _ _)

theorem NoTokens.reported (h : NoTokens ns) (m : RegistryMatch) (entry : CSvcRegistryEntry)
    (b : Binding) : NoTokens (reported ns m entry b) :=
  h.sends rfl (clean_flatMap fun _ _ =>
    clean_broadcastAll fun hmonitor => absurd hmonitor not_isMonitor_moreAddress)

theorem NoTokens.connectIfHostServer (h : NoTokens ns) (entry : CSvcRegistryEntry)
    (svcName : Text) : NoTokens (connectIfHostServer cfg ns entry svcName) := by
  unfold Server.connectIfHostServer
  split
  · exact h.connectToHostServer _
  · exact h

theorem NoTokens.register (h : NoTokens ns) (session : SessionPtr) (req : FdbMsgAddrBindResults)
    (realloc : CFdbAddressDesc → Option CAllocatedAddress) :
    NoTokens (onRegisterServiceReq cfg ns session req realloc).1 := by
  unfold onRegisterServiceReq
  split
  · exact h
  · split
    · exact h
    · split
      · exact h
      · simp only
        split
        · exact h.reported _ _ _
        · exact ((h.reported _ _ _).connectIfHostServer cfg _ _).sends rfl
            (clean_onlineLists cfg _ _ _ _)

theorem NoTokens.handle (h : NoTokens ns) (session : SessionPtr) (req : Request) :
    NoTokens (ns.handle cfg session req).1 := by
  cases req with
  | alloc req allocated tokens =>
    show NoTokens (onAllocServiceAddressReq cfg ns session req allocated tokens).1
    unfold onAllocServiceAddressReq
    split <;> exact h
  | register req realloc => exact h.register cfg session req realloc
  | unregister svcName instanceId =>
    show NoTokens (onUnegisterServiceReq cfg ns svcName instanceId).1
    unfold onUnegisterServiceReq
    split
    · exact h
    · exact h.removeService cfg svcName instanceId

theorem NoTokens.removeOwned (session : SessionPtr) (ms : List RegistryMatch) (h : NoTokens ns) :
    NoTokens (removeOwned cfg session ms ns).1 := by
  induction ms generalizing ns with
  | nil => exact h
  | cons m ms ih =>
    unfold Server.removeOwned
    split
    · have hone := h.removeService cfg m.entry.mSvcName m.entry.mInstanceId
      simp only
      split
      · exact hone
      · exact ih hone
    · exact ih h

theorem NoTokens.removeAllOwned (session : SessionPtr) (fuel : Nat) (h : NoTokens ns) :
    NoTokens (removeAllOwned cfg session fuel ns) := by
  induction fuel generalizing ns with
  | zero => exact h
  | succ fuel ih =>
    unfold Server.removeAllOwned
    have hscan := NoTokens.removeOwned cfg session ns.mRegistryTbl.all h
    simp only
    split
    · exact ih hscan
    · exact hscan

theorem NoTokens.onSubscribe (h : NoTokens ns) (type : SubscribeType) (obj : FdbObjectId)
    (session : SessionPtr) (info : SessionInfo) (items : List CFdbMsgSubscribeItem) :
    NoTokens (onSubscribe cfg ns type session info obj items) := by
  unfold Server.onSubscribe
  simp only
  split
  · exact h
  · exact Clean.append h (clean_flatMap fun item _ =>
      clean_onServiceOnlineReg cfg _ type session info obj item)

/-- The lists that come from other name servers answer their own kind of subscription. -/
def Event.AnswersOwnKind : Event → Prop
  | .serviceBroadcast monitor _ _ list initial => Server.AnswersOwnKind monitor list initial
  | _ => True

/-- **One step.** -/
theorem NoTokens.step {ns' : NameServer} (h : NoTokens ns) {e : Event} (hown : e.AnswersOwnKind)
    (hstep : step cfg ns e = some ns') : NoTokens ns' := by
  cases e with
  | online info =>
    cases hstep
    exact h
  | offline session =>
    obtain ⟨-, rfl⟩ := of_guard hstep
    exact NoTokens.removeAllOwned cfg session _ h
  | request session req =>
    obtain ⟨-, rfl⟩ := of_guard hstep
    exact h.handle cfg session req
  | subscribe session obj items =>
    obtain ⟨info, -, hrest⟩ := bind_eq_some_iff.mp hstep
    obtain ⟨type, -, rfl⟩ := map_eq_some_iff.mp hrest
    exact h.onSubscribe cfg type obj session info items
  | hostConnected url connected =>
    obtain ⟨proxy, -, rfl⟩ := map_eq_some_iff.mp hstep
    exact h
  | hostOnline allocated bind =>
    cases hstep
    unfold onHostOnline
    split
    · exact h
    · refine h.sends rfl (clean_flatMap fun m _ => ?_)
      simp only
      split
      · exact clean_nil
      · exact clean_broadcastAll fun hmonitor => absurd hmonitor not_isMonitor_moreAddress
  | exportedServices url svcAddressTbl =>
    obtain ⟨proxy, -, rfl⟩ := map_eq_some_iff.mp hstep
    have htell := fun svcs remove type =>
      clean_broadcastExternalService cfg ns proxy.connected svcs remove type 0#32 [] none
    exact h.sends rfl
      ((((htell _ _ _).append (htell _ _ _)).append (htell _ _ _)).append (htell _ _ _))
  | serviceBroadcast monitor code peerIp list initial =>
    obtain ⟨-, rfl⟩ := of_guard hstep
    exact h.sends rfl (clean_onServiceBroadcast cfg ns hown code peerIp)
  | nameServerDrop =>
    cases hstep
    exact h.sends rfl (clean_broadcastAll fun _ => rfl)

end Steps

/-- **When tokens are not leaked to monitors.**  Over every run of the name server in which no list
from `INTER_NORMAL` with tokens answers a monitor's subscription, no list that was sent to a
subscriber of a monitors' publisher has tokens. -/
theorem monitors_get_no_tokens (cfg : NsConfig) (params : OnlineParams) {es : List Event}
    {ns : NameServer} (hrun : run (step cfg) (NameServer.online cfg params) es = some ns)
    (hown : ∀ e ∈ es, e.AnswersOwnKind) {m : Sent} (hm : m ∈ ns.sent)
    (hmonitor : m.type.IsMonitor) : m.list.dumpTokens = [] :=
  run_along (G := fun _ e => e.AnswersOwnKind) (fun _ _ _ hown h hstep => h.step cfg hown hstep)
    (NoTokens.online cfg params) (along_of_forall hown _) hrun m hm hmonitor

/-- An IPC address for inside the node. -/
def ipcAddress : CAllocatedAddress := ⟨ipcDesc.mAddress, fdbExportableNodeInternal, fdbInvalidId⟩

/-- The name server itself listens on an IPC address. -/
def ipcParams : OnlineParams where
  allocated := [⟨⟨[110], .ipc, [110], 0, false⟩, fdbExportableNodeInternal, fdbInvalidId⟩]

/-- A server and a monitor come online; the monitor subscribes everything, and the server brings
service "a" with two tokens online. -/
def monitoredRun : List Event :=
  [.online ipcSession, .online ipcSession,
    .subscribe 1 SubscribeType.intraMonitor.objId [⟨fdbAllGroupsEvent, none, 0#32⟩],
    .request 0 (.alloc { name := [97] } [ipcAddress] [[1], [2]]),
    .request 0 (.register ⟨[97], 0#32, [⟨[105], [105], fdbInetPortInvalid⟩]⟩ fun _ => none)]

/-- What another name server tells: service "b", with a token. -/
def remoteList : FdbMsgAddressList where
  serviceName := [98]
  addressList := []
  tokenList := some [[1]]

/-- After that, another name server answers the monitor's subscription from `INTER_MONITOR`. -/
def answeredRun : List Event :=
  monitoredRun
    ++ [.serviceBroadcast true 0#32 [] remoteList (some (1, SubscribeType.intraMonitor.objId))]

/-- The monitor is told both services, and no tokens. -/
theorem monitors_get_no_tokens_answered :
    ∃ sent, (run (step plainConfig) (NameServer.online plainConfig ipcParams) answeredRun).map
        NameServer.sent = some sent
      ∧ (∃ m ∈ sent, m.type = .intraMonitor ∧ m.list.serviceName = [97] ∧ m.list.addressList ≠ [])
      ∧ (∃ m ∈ sent, m.type = .intraMonitor ∧ m.list.serviceName = [98])
      ∧ ∀ m ∈ sent, m.type.IsMonitor → m.list.dumpTokens = [] := by
  obtain ⟨ns, hrun⟩ := isSome_iff_exists.mp (show (run (step plainConfig)
    (NameServer.online plainConfig ipcParams) answeredRun).isSome = true by decide +kernel)
  have hmonitor : ∀ name ∈ [[97], [98]], ∃ m ∈ (run (step plainConfig)
      (NameServer.online plainConfig ipcParams) answeredRun).elim [] NameServer.sent,
      m.type = .intraMonitor ∧ m.list.serviceName = name
        ∧ (name = [97] → m.list.addressList ≠ []) := by
    decide +kernel
  have hown : ∀ e ∈ answeredRun, e.AnswersOwnKind := by
    simp [answeredRun, monitoredRun, Event.AnswersOwnKind, AnswersOwnKind]
  rw [hrun] at hmonitor ⊢
  obtain ⟨m, hm, htype, hname, hne⟩ := hmonitor [97] (by decide)
  obtain ⟨m', hm', htype', hname', -⟩ := hmonitor [98] (by decide)
  exact ⟨ns.sent, rfl, ⟨m, hm, htype, hname, hne rfl⟩, ⟨m', hm', htype', hname'⟩, fun m hm =>
    monitors_get_no_tokens plainConfig ipcParams hrun hown hm⟩

/-- Every client has the lowest level that gets a token. -/
def leveledConfig : NsConfig := { plainConfig with securityLevel := fun _ _ => 0 }

/-- The same list from `INTER_NORMAL`: with a client of normal subscriptions online it is not
dropped, it answers the monitor, and the monitor gets the token. -/
theorem token_for_monitor :
    ∃ m ∈ (run (step leveledConfig) (NameServer.online leveledConfig ipcParams)
        [.online ipcSession, .online ipcSession,
          .subscribe 0 SubscribeType.intraNormal.objId [⟨fdbAllGroupsEvent, none, 0#32⟩],
          .subscribe 1 SubscribeType.intraMonitor.objId [⟨fdbAllGroupsEvent, none, 0#32⟩],
          .serviceBroadcast false 0#32 [] remoteList
            (some (1, SubscribeType.intraMonitor.objId))]).elim [] NameServer.sent,
      m.type = .intraMonitor ∧ m.session = 1 ∧ m.list.dumpTokens = [[1]] := by
  decide +kernel

end Fdbus.Server

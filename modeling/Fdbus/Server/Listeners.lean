/-
  Fdbus.Server.Listeners — what a name server listens to at the other name servers.

  Each connection to another name server, a `CInterNameProxy`, has two subscribers: one for the
  services that local clients wait for, one for those that local monitors watch.  A local
  subscription is passed on to every connection; when a notification comes that nobody here
  subscribed, the listener is recalled.

    * `CInterNameProxy`, `NameProxyTbl` — the connections of one container,
    * `Listening` and `step` — local subscriptions, notifications, and connections that come and go,
    * `Listens` — every connection listens to what is subscribed here,
    * `listens_iff` — the listeners for monitors are always there; those for clients stay exactly
      if no notification for monitors, that no monitor waits for, is about a service that a client
      subscribed.

  `recallServiceListener` is called with the type of the remote subscription and compares it with
  the type of a local one: it is always the listener for clients that is removed.
-/
import Fdbus.Server.NameServer
import Fdbus.Library.Run

namespace Fdbus.Server

open Fdbus.OrderedMap Fdbus.Security Fdbus.Subscribe Fdbus.Run List Option Function Std.ExtTreeMap

/-! ## §1. The subscriptions of a publisher. -/

/-- Some object of a session subscribed the code and topic. -/
def HasSubscription (table : CFdbBaseObject) (code : FdbInstanceId) (topic : Text) : Prop :=
  ∃ session obj, (table.lookup code session obj topic).isSome = true

/-- `getSubscribeTable(table)` of one handle: the codes, and the topics of each. -/
def subscribedTopics (t : SubscribeTable) : List (FdbInstanceId × Text) :=
  t.toList.flatMap fun c => c.2.toList.flatMap fun s => s.2.toList.flatMap fun o =>
    o.2.toList.map fun topic => (c.1, topic.1)

/-- `getSubscribeTable(table)`. -/
def getSubscribeTable (table : CFdbBaseObject) : List (FdbInstanceId × Text) :=
  subscribedTopics table.mEventSubscribeHandle ++ subscribedTopics table.mGroupSubscribeHandle

theorem mem_subscribedTopics (t : SubscribeTable) (code : FdbInstanceId) (topic : Text) :
    (code, topic) ∈ subscribedTopics t
      ↔ ∃ session obj, (t.lookup code session obj topic).isSome = true := by
  unfold subscribedTopics SubscribeTable.lookup
  simp only [List.mem_flatMap, List.mem_map, Prod.mk.injEq]
  constructor
  · intro h
    obtain ⟨c, hc, s, hs, o, ho, item, hitem, rfl, rfl⟩ := h
    refine ⟨s.1, o.1, ?_⟩
    rw [Std.ExtTreeMap.mem_toList_iff_getElem?_eq_some.mp hc, Option.bind_some,
      Std.ExtTreeMap.mem_toList_iff_getElem?_eq_some.mp hs, Option.bind_some,
      mem_toList_iff_getElem?_eq_some.mp ho, bind_some,
      mem_toList_iff_getElem?_eq_some.mp hitem]
    rfl
  · intro h
    obtain ⟨session, obj, hsome⟩ := h
    obtain ⟨item, hitem⟩ := isSome_iff_exists.mp hsome
    obtain ⟨sessions, hsessions, hitem⟩ := Option.bind_eq_some_iff.mp hitem
    obtain ⟨objects, hobjects, hitem⟩ := Option.bind_eq_some_iff.mp hitem
    obtain ⟨items, hitems, hitem⟩ := Option.bind_eq_some_iff.mp hitem
    exact ⟨(code, sessions), Std.ExtTreeMap.mem_toList_iff_getElem?_eq_some.mpr hsessions,
      (session, objects), Std.ExtTreeMap.mem_toList_iff_getElem?_eq_some.mpr hobjects,
      (obj, items), Std.ExtTreeMap.mem_toList_iff_getElem?_eq_some.mpr hitems,
      (topic, item), Std.ExtTreeMap.mem_toList_iff_getElem?_eq_some.mpr hitem, rfl, rfl⟩

/-- The table lists what is subscribed. -/
theorem mem_getSubscribeTable (table : CFdbBaseObject) (code : FdbInstanceId) (topic : Text) :
    (code, topic) ∈ getSubscribeTable table ↔ HasSubscription table code topic := by
  unfold getSubscribeTable HasSubscription CFdbBaseObject.lookup CFdbBaseObject.handleFor
  rw [mem_append, mem_subscribedTopics, mem_subscribedTopics]
  -- the other handle has nothing under the code
  by_cases hgroup : fdbIsGroup code = true
  · have hnone := table.events_only code hgroup
    simp [hgroup, SubscribeTable.lookup, hnone]
  · have hnone := table.groups_only code (Bool.eq_false_iff.mpr hgroup)
    simp [hgroup, SubscribeTable.lookup, hnone]

/-- A code and a topic that nobody hears an event of are not subscribed. -/
theorem not_hasSubscription {pubs : Publishers} {type : SubscribeType} {code : FdbInstanceId}
    {topic : Text} (h : subscribedSessions pubs type code topic = []) :
    ¬ HasSubscription (pubs type) code topic := by
  intro hsub
  obtain ⟨session, obj, hsome⟩ := hsub
  have hmem : session ∈ subscribedSessions pubs type code topic :=
    mem_subscribedSessions.mpr ⟨obj, code, topic, hsome, .inr rfl,
      (instanceMatches_iff code code).mpr (.inl rfl)⟩
  rw [h] at hmem
  exact not_mem_nil hmem

/-! ## §2. A connection to another name server. -/

/-- `CInterNameProxy`, under the address of its host in the table of a container.  `listens` is
what its two subscribers have subscribed there: `true` for `mInterMonitorSubscriber`, `false` for
`mInterNormalSubscriber`. -/
structure CInterNameProxy where
  mNsUrl : Text := []
  mHostName : Text := []
  mTokens : List Token := []
  connected : Bool := false
  listens : Bool → List (FdbInstanceId × Text) := fun _ => []

namespace CInterNameProxy

/-- One of the subscribers subscribes, if there is a connection. -/
def addListener (monitor : Bool) (instanceId : FdbInstanceId) (svcName : Text)
    (proxy : CInterNameProxy) : CInterNameProxy :=
  if proxy.connected then
    { proxy with
      listens := Function.update proxy.listens monitor
        ((proxy.listens monitor).insert (instanceId, svcName)) }
  else proxy

/-- One of the subscribers unsubscribes. -/
def removeListener (monitor : Bool) (instanceId : FdbInstanceId) (svcName : Text)
    (proxy : CInterNameProxy) : CInterNameProxy :=
  if proxy.connected then
    { proxy with
      listens := Function.update proxy.listens monitor
        ((proxy.listens monitor).filter (· ≠ (instanceId, svcName))) }
  else proxy

/-- `addServiceListener(instance_id, svc_name)`. -/
def addServiceListener := addListener false

/-- `addServiceMonitorListener(instance_id, svc_name)`. -/
def addServiceMonitorListener := addListener true

/-- `removeServiceListener(instance_id, svc_name)`. -/
def removeServiceListener := removeListener false

/-- `removeServiceMonitorListener(instance_id, svc_name)`. -/
def removeServiceMonitorListener := removeListener true

variable (monitor : Bool) (instanceId : FdbInstanceId) (svcName : Text) (proxy : CInterNameProxy)

@[simp] theorem connected_addListener :
    (proxy.addListener monitor instanceId svcName).connected = proxy.connected := by
  unfold addListener
  split
  · rfl
  · rfl

theorem mem_addListener (m : Bool) (instanceId : FdbInstanceId) (svcName : Text)
    (proxy : CInterNameProxy) (x : FdbInstanceId × Text) :
    x ∈ (proxy.addListener monitor instanceId svcName).listens m
      ↔ x ∈ proxy.listens m
        ∨ proxy.connected = true ∧ m = monitor ∧ x = (instanceId, svcName) := by
  unfold addListener
  by_cases hconnected : proxy.connected = true
  · rw [if_pos hconnected]
    by_cases hm : m = monitor
    · subst hm
      simp [hconnected, or_comm]
    · simp [hm]
  · simp [hconnected]

theorem connected_removeListener :
    (proxy.removeListener monitor instanceId svcName).connected = proxy.connected := by
  unfold removeListener
  split
  · rfl
  · rfl

theorem mem_removeListener {monitor m : Bool} {instanceId : FdbInstanceId} {svcName : Text}
    {proxy : CInterNameProxy} (hconnected : proxy.connected = true) (x : FdbInstanceId × Text) :
    x ∈ (proxy.removeListener monitor instanceId svcName).listens m
      ↔ x ∈ proxy.listens m ∧ ¬ (m = monitor ∧ x = (instanceId, svcName)) := by
  unfold removeListener
  rw [if_pos hconnected]
  by_cases hm : m = monitor
  · subst hm
    simp
  · simp [hm]

end CInterNameProxy

/-! ## §3. The connections of a container. -/

/-- `mNameProxyTbl` of a `CNameProxyContainer`. -/
abbrev NameProxyTbl := Map Text CInterNameProxy

/-- A change of every connection but the one whose host stands for all interfaces. -/
def NameProxyTbl.forEach (f : CInterNameProxy → CInterNameProxy) (tbl : NameProxyTbl) :
    NameProxyTbl :=
  tbl.map fun ip proxy => if ip = fdbIpAllInterface then proxy else f proxy

/-- `forwardServiceListener(subscribe_type, instance_id, service_name)`. -/
def NameProxyTbl.forwardServiceListener (type : SubscribeType) (instanceId : FdbInstanceId)
    (svcName : Text) : NameProxyTbl → NameProxyTbl :=
  NameProxyTbl.forEach fun proxy =>
    if type = .intraMonitor then proxy.addServiceMonitorListener instanceId svcName
    else proxy.addServiceListener instanceId svcName

/-- `recallServiceListener(instance_id, service_name, subscribe_type)`. -/
def NameProxyTbl.recallServiceListener (instanceId : FdbInstanceId) (svcName : Text)
    (type : SubscribeType) : NameProxyTbl → NameProxyTbl :=
  NameProxyTbl.forEach fun proxy =>
    if type = .intraMonitor then proxy.removeServiceMonitorListener instanceId svcName
    else proxy.removeServiceListener instanceId svcName

theorem get_forEach (f : CInterNameProxy → CInterNameProxy) (tbl : NameProxyTbl) (ip : Text) :
    (tbl.forEach f)[ip]?
      = tbl[ip]?.map fun proxy => if ip = fdbIpAllInterface then proxy else f proxy := by
  unfold NameProxyTbl.forEach
  rw [Std.ExtTreeMap.getElem?_map]

/-! ## §4. The machine. -/

/-- The publishers, and the containers: that of the host proxy for a URL, and
`mStaticNameProxy` under `none`. -/
structure Listening where
  publishers : Publishers := fun _ => CFdbBaseObject.empty
  containers : Option Text → NameProxyTbl := fun _ => ∅

/-- The publisher for local monitors, or for local clients. -/
def localType (monitor : Bool) : SubscribeType :=
  if monitor then .intraMonitor else .intraNormal

/-- The type of a subscription of a name server at another one. -/
def remoteType (monitor : Bool) : SubscribeType :=
  if monitor then .interMonitor else .interNormal

section Machine

variable (cfg : NsConfig)

/-- The end of `onServiceOnlineReg`: a local subscription is passed on, unless it is for the name
server itself. -/
def forwardItem (type : SubscribeType) (containers : Option Text → NameProxyTbl)
    (item : CFdbMsgSubscribeItem) : Option Text → NameProxyTbl :=
  if (type = .intraNormal ∨ type = .intraMonitor) ∧ item.topic.getD [] ≠ cfg.nsName then fun c =>
    (containers c).forwardServiceListener type item.msgCode (item.topic.getD [])
  else containers

/-- A client or a monitor subscribes. -/
def subscribe (type : SubscribeType) (session : SessionPtr) (obj : FdbObjectId)
    (items : List CFdbMsgSubscribeItem) (s : Listening) : Listening where
  publishers := Function.update s.publishers type (enterItems session obj items (s.publishers type))
  containers := items.foldl (forwardItem cfg type) s.containers

/-- Items are unsubscribed; the other name servers are not told. -/
def leaveItems (session : SessionPtr) (obj : FdbObjectId) (items : List CFdbMsgSubscribeItem)
    (table : CFdbBaseObject) : CFdbBaseObject :=
  items.foldl (fun table item => table.unsubscribe session item.msgCode obj item.topic) table

/-- The first part of `onServiceBroadcast(msg, subscribe_type)`: "if no client is connected to the
server, unsubscrie it from name server of other hosts". -/
def recallUnused (monitor : Bool) (code : FdbInstanceId) (svcName : Text) (s : Listening) :
    Listening :=
  if subscribedSessions s.publishers (localType monitor) code svcName = [] then
    { s with
      containers := fun c =>
        (s.containers c).recallServiceListener code svcName (remoteType monitor) }
  else s

/-- `forwardServiceSubscription(proxy)`. -/
def forwardServiceSubscription (pubs : Publishers) (proxy : CInterNameProxy) : CInterNameProxy :=
  (getSubscribeTable (pubs .intraMonitor)).foldl
    (fun proxy x => proxy.addServiceMonitorListener x.1 x.2)
    ((getSubscribeTable (pubs .intraNormal)).foldl
      (fun proxy x => proxy.addServiceListener x.1 x.2) proxy)

/-- What can happen. -/
inductive Listening.Event where
  | subscribe (type : SubscribeType) (session : SessionPtr) (obj : FdbObjectId)
      (items : List CFdbMsgSubscribeItem)
  | unsubscribe (type : SubscribeType) (session : SessionPtr) (obj : FdbObjectId)
      (items : List CFdbMsgSubscribeItem)
  | unsubscribeObject (type : SubscribeType) (obj : FdbObjectId)
  | offline (session : SessionPtr)
  | notified (monitor : Bool) (code : FdbInstanceId) (svcName : Text)
  | proxyAdded (container : Option Text) (ip nsUrl hostName : Text) (tokens : List Token)
  | proxyDeleted (container : Option Text) (ip : Text)
  | proxyOnline (container : Option Text) (ip : Text)
  | proxyOffline (container : Option Text) (ip : Text)

/-- The table of one container is replaced. -/
def Listening.setContainer (s : Listening) (container : Option Text) (tbl : NameProxyTbl) :
    Listening :=
  { s with containers := Function.update s.containers container tbl }

/-- One event; `none` if it cannot happen: no connection is lost that there is not. -/
def Listening.step (s : Listening) : Listening.Event → Option Listening
  | .subscribe type session obj items => some (Server.subscribe cfg type session obj items s)
  | .unsubscribe type session obj items =>
    some { s with
      publishers := Function.update s.publishers type
        (leaveItems session obj items (s.publishers type)) }
  | .unsubscribeObject type obj =>
    some { s with
      publishers :=
        Function.update s.publishers type ((s.publishers type).unsubscribeObject obj) }
  | .offline session =>
    some { s with publishers := fun type => (s.publishers type).unsubscribeSession session }
  | .notified monitor code svcName => some (recallUnused monitor code svcName s)
  | .proxyAdded container ip nsUrl hostName tokens =>
    some (s.setContainer container ((s.containers container).insert ip
      { mNsUrl := nsUrl, mHostName := hostName, mTokens := tokens }))
  | .proxyDeleted container ip =>
    some (s.setContainer container ((s.containers container).erase ip))
  | .proxyOnline container ip =>
    (s.containers container)[ip]?.map fun proxy =>
      s.setContainer container ((s.containers container).insert ip
        (forwardServiceSubscription s.publishers
          { proxy with connected := true, listens := fun _ => [] }))
  | .proxyOffline container ip =>
    (s.containers container)[ip]?.map fun proxy =>
      s.setContainer container ((s.containers container).insert ip
        { proxy with connected := false, listens := fun _ => [] })

end Machine

/-! ## §5. The invariant. -/

/-- What local monitors, or local clients, subscribed is listened to at every name server that is
connected. -/
def ListensFor (cfg : NsConfig) (monitor : Bool) (s : Listening) : Prop :=
  ∀ (c : Option Text) (ip : Text) (proxy : CInterNameProxy), (s.containers c)[ip]? = some proxy →
    proxy.connected = true → ip ≠ fdbIpAllInterface →
    ∀ code topic, HasSubscription (s.publishers (localType monitor)) code topic →
      topic ≠ cfg.nsName → (code, topic) ∈ proxy.listens monitor

/-- **A remote listener lives as long as its local users.** -/
def Listens (cfg : NsConfig) (s : Listening) : Prop := ∀ monitor, ListensFor cfg monitor s

/-- The event is not a notification for monitors, which no monitor waits for, about a service that
a client subscribed. -/
def Harmless (cfg : NsConfig) (s : Listening) : Listening.Event → Prop
  | .notified true code svcName =>
    subscribedSessions s.publishers .intraMonitor code svcName = [] → svcName ≠ cfg.nsName →
    HasSubscription (s.publishers .intraNormal) code svcName →
    ∀ (c : Option Text) (ip : Text) (proxy : CInterNameProxy),
      (s.containers c)[ip]? = some proxy → ip ≠ fdbIpAllInterface → proxy.connected = false
  | _ => True

section Step

variable {cfg : NsConfig} {s : Listening}

variable {item : CFdbMsgSubscribeItem} {proxy : CInterNameProxy} {obj : FdbObjectId}
  {container : Option Text} {pubs : Publishers} {session : SessionPtr}

/-- Fewer local subscriptions need fewer listeners. -/
theorem Listens.publishers_mono (h : Listens cfg s)
    (hpubs : ∀ type code topic, HasSubscription (pubs type) code topic →
      HasSubscription (s.publishers type) code topic) :
    Listens cfg { s with publishers := pubs } := by
  intro monitor c ip proxy hproxy hconnected hip code topic hsub hname
  exact h monitor c ip proxy hproxy hconnected hip code topic (hpubs _ code topic hsub) hname

theorem hasSubscription_update {type : SubscribeType} {table : CFdbBaseObject}
    (htable : ∀ code topic, HasSubscription table code topic →
      HasSubscription (pubs type) code topic)
    (type' : SubscribeType) (code : FdbInstanceId) (topic : Text)
    (h : HasSubscription (update pubs type table type') code topic) :
    HasSubscription (pubs type') code topic := by
  by_cases htype : type' = type
  · subst htype
    rw [update_self] at h
    exact htable code topic h
  · rw [update_of_ne htype] at h
    exact h

/-- Subscriptions that are removed are not added. -/
theorem hasSubscription_of_lookup {table table' : CFdbBaseObject} {code : FdbInstanceId}
    {topic : Text} {gone : SessionPtr → FdbObjectId → Prop} [∀ s o, Decidable (gone s o)]
    (hlookup : ∀ s o, table'.lookup code s o topic
      = if gone s o then none else table.lookup code s o topic)
    (h : HasSubscription table' code topic) : HasSubscription table code topic := by
  obtain ⟨s, o, hsome⟩ := h
  rw [hlookup] at hsome
  split at hsome
  · cases hsome
  · exact ⟨s, o, hsome⟩

theorem hasSubscription_leaveItems (items : List CFdbMsgSubscribeItem) :
    ∀ (table : CFdbBaseObject) (code : FdbInstanceId) (topic : Text),
      HasSubscription (leaveItems session obj items table) code topic →
      HasSubscription table code topic := by
  induction items with
  | nil =>
    intro table code topic h
    exact h
  | cons item items ih =>
    intro table code topic h
    exact hasSubscription_of_lookup (fun s o => CFdbBaseObject.lookup_unsubscribe ..)
      (ih _ code topic h)

variable {table : CFdbBaseObject} (type : SubscribeType) (monitor : Bool) (code : FdbInstanceId)
  (containers : Option Text → NameProxyTbl) (instanceId : FdbInstanceId) (svcName : Text)

/-- One connection of a container changes. -/
theorem Listens.setContainer (h : Listens cfg s) {tbl : NameProxyTbl}
    (htbl : ∀ (ip : Text) (proxy : CInterNameProxy), tbl[ip]? = some proxy →
      (s.containers container)[ip]? = some proxy ∨ proxy.connected = false
        ∨ ∀ monitor code topic, HasSubscription (s.publishers (localType monitor)) code topic →
          (code, topic) ∈ proxy.listens monitor) :
    Listens cfg (s.setContainer container tbl) := by
  intro monitor c ip proxy hproxy hconnected hip code topic hsub hname
  replace hproxy : (update s.containers container tbl c)[ip]? = some proxy := hproxy
  by_cases hc : c = container
  · subst hc
    rw [update_self] at hproxy
    rcases htbl ip proxy hproxy with hold | hoff | hall
    · exact h monitor c ip proxy hold hconnected hip code topic hsub hname
    · rw [hoff] at hconnected
      cases hconnected
    · exact hall monitor code topic hsub
  · rw [update_of_ne hc] at hproxy
    exact h monitor c ip proxy hproxy hconnected hip code topic hsub hname

/-- A connection that is inserted. -/
theorem Listens.insert (h : Listens cfg s) {ip : Text}
    (hproxy : proxy.connected = false ∨ ∀ monitor code topic,
      HasSubscription (s.publishers (localType monitor)) code topic →
        (code, topic) ∈ proxy.listens monitor) :
    Listens cfg (s.setContainer container ((s.containers container).insert ip proxy)) := by
  refine h.setContainer ?_
  intro ip' proxy' hget
  rw [get_insert] at hget
  split at hget
  · cases hget
    exact .inr hproxy
  · exact .inl hget

/-! ## §6. A local subscription. -/

/-- Every connection is an old one, and listens to no less. -/
def Grown (containers containers' : Option Text → NameProxyTbl) : Prop :=
  ∀ (c : Option Text) (ip : Text) (proxy' : CInterNameProxy), (containers' c)[ip]? = some proxy' →
    ∃ proxy : CInterNameProxy, (containers c)[ip]? = some proxy
      ∧ proxy'.connected = proxy.connected
      ∧ ∀ monitor x, x ∈ proxy.listens monitor → x ∈ proxy'.listens monitor

/-- Every connection listens to the code and topic. -/
def AllListen (monitor : Bool) (x : FdbInstanceId × Text)
    (containers : Option Text → NameProxyTbl) : Prop :=
  ∀ (c : Option Text) (ip : Text) (proxy : CInterNameProxy), (containers c)[ip]? = some proxy →
    proxy.connected = true → ip ≠ fdbIpAllInterface → x ∈ proxy.listens monitor

theorem Grown.refl : Grown containers containers := by
  intro c ip proxy hproxy
  exact ⟨proxy, hproxy, rfl, fun _ _ hx => hx⟩

theorem Grown.trans {containers₁ containers₂ containers₃ : Option Text → NameProxyTbl}
    (h₁ : Grown containers₁ containers₂) (h₂ : Grown containers₂ containers₃) :
    Grown containers₁ containers₃ := by
  intro c ip proxy₃ hproxy₃
  obtain ⟨proxy₂, hproxy₂, hconnected₂, hlistens₂⟩ := h₂ c ip proxy₃ hproxy₃
  obtain ⟨proxy₁, hproxy₁, hconnected₁, hlistens₁⟩ := h₁ c ip proxy₂ hproxy₂
  exact ⟨proxy₁, hproxy₁, hconnected₂.trans hconnected₁,
    fun monitor x hx => hlistens₂ monitor x (hlistens₁ monitor x hx)⟩

theorem AllListen.grown {monitor : Bool} {x : FdbInstanceId × Text}
    {containers containers' : Option Text → NameProxyTbl} (h : AllListen monitor x containers)
    (hgrown : Grown containers containers') : AllListen monitor x containers' := by
  intro c ip proxy' hproxy' hconnected hip
  obtain ⟨proxy, hproxy, hsame, hlistens⟩ := hgrown c ip proxy' hproxy'
  rw [hsame] at hconnected
  exact hlistens monitor x (h c ip proxy hproxy hconnected hip)

/-- A subscription that is passed on adds a listener of its own kind. -/
theorem forwardServiceListener_localType (tbl : NameProxyTbl) :
    tbl.forwardServiceListener (localType monitor) instanceId svcName
      = tbl.forEach (CInterNameProxy.addListener monitor instanceId svcName) := by
  cases monitor
  · rfl
  · rfl

theorem grown_forward (containers : Option Text → NameProxyTbl) :
    Grown containers fun c =>
      (containers c).forwardServiceListener (localType monitor) instanceId svcName := by
  intro c ip proxy' hproxy'
  beta_reduce at hproxy'
  rw [forwardServiceListener_localType, get_forEach] at hproxy'
  obtain ⟨proxy, hproxy, rfl⟩ := map_eq_some_iff.mp hproxy'
  refine ⟨proxy, hproxy, ?_, ?_⟩
  · split
    · rfl
    · exact proxy.connected_addListener monitor instanceId svcName
  · intro m x hx
    split
    · exact hx
    · exact (proxy.mem_addListener monitor m instanceId svcName x).mpr (.inl hx)

theorem allListen_forward (containers : Option Text → NameProxyTbl) :
    AllListen monitor (instanceId, svcName) fun c =>
      (containers c).forwardServiceListener (localType monitor) instanceId svcName := by
  intro c ip proxy' hproxy' hconnected hip
  beta_reduce at hproxy'
  rw [forwardServiceListener_localType, get_forEach] at hproxy'
  obtain ⟨proxy, hproxy, rfl⟩ := map_eq_some_iff.mp hproxy'
  rw [if_neg hip] at hconnected ⊢
  rw [proxy.connected_addListener] at hconnected
  exact (proxy.mem_addListener monitor monitor instanceId svcName _).mpr
    (.inr ⟨hconnected, rfl, rfl⟩)

theorem grown_forwardItem
    (item : CFdbMsgSubscribeItem) : Grown containers (forwardItem cfg type containers item) := by
  unfold forwardItem
  split
  · next hfwd =>
      rcases hfwd.1 with rfl | rfl
      · exact grown_forward false _ _ containers
      · exact grown_forward true _ _ containers
  · exact Grown.refl containers

theorem allListen_forwardItem (hname : item.topic.getD [] ≠ cfg.nsName) :
    AllListen monitor (item.msgCode, item.topic.getD [])
      (forwardItem cfg (localType monitor) containers item) := by
  unfold forwardItem
  have htype : localType monitor = .intraNormal ∨ localType monitor = .intraMonitor := by
    cases monitor
    · exact .inl rfl
    · exact .inr rfl
  rw [if_pos ⟨htype, hname⟩]
  exact allListen_forward monitor item.msgCode (item.topic.getD []) containers

theorem grown_forwardItems (items : List CFdbMsgSubscribeItem) :
    ∀ containers, Grown containers (items.foldl (forwardItem cfg type) containers) := by
  induction items with
  | nil => exact Grown.refl
  | cons item items ih =>
    intro containers
    exact (grown_forwardItem type containers item).trans (ih _)

/-- Every item of a request is listened to afterwards. -/
theorem allListen_forwardItems (hname : item.topic.getD [] ≠ cfg.nsName)
    (items : List CFdbMsgSubscribeItem) :
    ∀ containers, item ∈ items → AllListen monitor (item.msgCode, item.topic.getD [])
      (items.foldl (forwardItem cfg (localType monitor)) containers) := by
  induction items with
  | nil =>
    intro containers hitem
    cases hitem
  | cons first items ih =>
    intro containers hitem
    rcases mem_cons.mp hitem with rfl | hitem
    · exact (allListen_forwardItem monitor containers hname).grown (grown_forwardItems _ items _)
    · exact ih _ hitem

/-- **A subscription** is listened to from then on. -/
theorem listens_subscribe (h : Listens cfg s) (type : SubscribeType) (session : SessionPtr)
    (obj : FdbObjectId) (items : List CFdbMsgSubscribeItem) :
    Listens cfg (Server.subscribe cfg type session obj items s) := by
  intro monitor c ip proxy' hproxy' hconnected hip code topic hsub hname
  -- subscribed before, or by an item of the request
  have hcases : HasSubscription (s.publishers (localType monitor)) code topic
      ∨ type = localType monitor
        ∧ ∃ item ∈ items, item.msgCode = code ∧ item.topic.getD [] = topic := by
    obtain ⟨s', o, hsome⟩ := hsub
    replace hsome : ((update s.publishers type
      (enterItems session obj items (s.publishers type)) (localType monitor)).lookup code s' o
        topic).isSome = true := hsome
    by_cases htype : localType monitor = type
    · rw [← htype, update_self, lookup_enterItems] at hsome
      rcases hsome with hold | ⟨-, -, hitem⟩
      · exact .inl ⟨s', o, hold⟩
      · exact .inr ⟨htype.symm, hitem⟩
    · rw [update_of_ne htype] at hsome
      exact .inl ⟨s', o, hsome⟩
  rcases hcases with hold | ⟨rfl, item, hitem, rfl, rfl⟩
  · obtain ⟨proxy, hproxy, hsame, hlistens⟩ :=
      grown_forwardItems type items s.containers c ip proxy'
      hproxy'
    rw [hsame] at hconnected
    exact hlistens monitor _ (h monitor c ip proxy hproxy hconnected hip code topic hold hname)
  · exact allListen_forwardItems monitor hname items s.containers hitem c ip proxy' hproxy'
      hconnected hip

/-! ## §7. A connection comes up. -/

theorem connected_foldl_addListener (xs : List (FdbInstanceId × Text)) :
    ∀ proxy : CInterNameProxy,
      (xs.foldl (fun proxy x => proxy.addListener monitor x.1 x.2) proxy).connected
        = proxy.connected := by
  induction xs with
  | nil =>
    intro proxy
    rfl
  | cons x xs ih =>
    intro proxy
    rw [foldl_cons, ih, proxy.connected_addListener]

theorem mem_foldl_addListener (m : Bool) (x : FdbInstanceId × Text)
    (xs : List (FdbInstanceId × Text)) :
    ∀ proxy : CInterNameProxy, proxy.connected = true →
      (x ∈ (xs.foldl (fun proxy x => proxy.addListener monitor x.1 x.2) proxy).listens m
        ↔ x ∈ proxy.listens m ∨ m = monitor ∧ x ∈ xs) := by
  induction xs with
  | nil =>
    simp
  | cons y xs ih =>
    intro proxy hconnected
    rw [foldl_cons, ih _ (by rw [proxy.connected_addListener]; exact hconnected),
      proxy.mem_addListener, mem_cons]
    tauto

/-- **All subscriptions are passed on** to a name server that is connected. -/
theorem mem_forwardServiceSubscription (pubs : Publishers) (hconnected : proxy.connected = true)
    {monitor : Bool} {code : FdbInstanceId} {topic : Text}
    (hsub : HasSubscription (pubs (localType monitor)) code topic) :
    (code, topic) ∈ (forwardServiceSubscription pubs proxy).listens monitor := by
  have hlisted := (mem_getSubscribeTable _ code topic).mpr hsub
  have hconnected' :=
    connected_foldl_addListener false (getSubscribeTable (pubs .intraNormal)) proxy
  rw [hconnected] at hconnected'
  apply (mem_foldl_addListener true monitor _ _ _ hconnected').mpr
  rw [mem_foldl_addListener false monitor _ _ _ hconnected]
  cases monitor
  · exact .inl (.inr ⟨rfl, hlisted⟩)
  · exact .inr ⟨rfl, hlisted⟩

/-! ## §8. A notification. -/

/-- **A notification that nobody waits for** leaves the listeners in place exactly if the service
is not one that a client subscribed, or there is no connection. -/
theorem listens_recalled_iff (h : Listens cfg s) (monitor : Bool) (code : FdbInstanceId)
    (svcName : Text) :
    Listens cfg { s with
        containers := fun c => (s.containers c).recallServiceListener code svcName
          (remoteType monitor) }
      ↔ (svcName ≠ cfg.nsName → HasSubscription (s.publishers .intraNormal) code svcName →
        ∀ (c : Option Text) (ip : Text) (proxy : CInterNameProxy),
          (s.containers c)[ip]? = some proxy → ip ≠ fdbIpAllInterface →
          proxy.connected = false) := by
  have hget : ∀ (c : Option Text) (ip : Text),
      ((s.containers c).recallServiceListener code svcName (remoteType monitor))[ip]?
        = (s.containers c)[ip]?.map fun proxy =>
          if ip = fdbIpAllInterface then proxy else proxy.removeListener false code svcName := by
    intro c ip
    cases monitor <;> exact get_forEach _ _ ip
  constructor
  · intro hlistens hname hsub c ip proxy hproxy hip
    by_contra hconnected
    rw [Bool.not_eq_false] at hconnected
    -- the connection would listen to what it was just told to leave
    have hproxy' := hget c ip
    rw [hproxy, map_some, if_neg hip] at hproxy'
    have hmem := hlistens false c ip _ hproxy'
      (by rw [proxy.connected_removeListener]; exact hconnected) hip code svcName hsub hname
    rw [CInterNameProxy.mem_removeListener hconnected] at hmem
    exact hmem.2 ⟨rfl, rfl⟩
  · intro hsafe m c ip proxy' hproxy' hconnected hip code' topic hsub hname
    rw [hget] at hproxy'
    obtain ⟨proxy, hproxy, rfl⟩ := map_eq_some_iff.mp hproxy'
    rw [if_neg hip] at hconnected ⊢
    rw [proxy.connected_removeListener] at hconnected
    rw [CInterNameProxy.mem_removeListener hconnected]
    refine ⟨h m c ip proxy hproxy hconnected hip code' topic hsub hname, ?_⟩
    intro hrecalled
    obtain ⟨rfl, hx⟩ := hrecalled
    obtain ⟨rfl, rfl⟩ := Prod.mk.inj hx
    rw [hsafe hname hsub c ip proxy hproxy hip] at hconnected
    cases hconnected

/-- **A notification** leaves the listeners in place exactly if it is harmless. -/
theorem listens_recallUnused_iff (h : Listens cfg s) (monitor : Bool) (code : FdbInstanceId)
    (svcName : Text) :
    Listens cfg (recallUnused monitor code svcName s)
      ↔ Harmless cfg s (.notified monitor code svcName) := by
  unfold recallUnused
  by_cases hnone : subscribedSessions s.publishers (localType monitor) code svcName = []
  · rw [if_pos hnone, listens_recalled_iff h]
    cases monitor with
    | false =>
      refine iff_of_true ?_ trivial
      intro _ hsub
      exact absurd hsub (not_hasSubscription hnone)
    | true =>
      constructor
      · intro hsafe _
        exact hsafe
      · intro hharmless
        exact hharmless hnone
  · rw [if_neg hnone]
    refine iff_of_true h ?_
    cases monitor with
    | false => trivial
    | true =>
      intro hempty
      exact absurd hempty hnone

/-! ## §9. The run. -/

/-- **One event** keeps the listeners exactly if it is harmless. -/
theorem listens_step_iff {s' : Listening} {e : Listening.Event} (h : Listens cfg s)
    (hstep : s.step cfg e = some s') : Listens cfg s' ↔ Harmless cfg s e := by
  cases e with
  | subscribe type session obj items =>
    cases hstep
    exact iff_of_true (listens_subscribe h type session obj items) trivial
  | unsubscribe type session obj items =>
    cases hstep
    exact iff_of_true (h.publishers_mono
      (hasSubscription_update (hasSubscription_leaveItems items _))) trivial
  | unsubscribeObject type obj =>
    cases hstep
    exact iff_of_true (h.publishers_mono
      (hasSubscription_update fun _ _ => hasSubscription_of_lookup fun _ _ =>
        CFdbBaseObject.lookup_unsubscribeObject ..)) trivial
  | offline session =>
    cases hstep
    exact iff_of_true (h.publishers_mono fun _ _ _ => hasSubscription_of_lookup fun _ _ =>
      CFdbBaseObject.lookup_unsubscribeSession ..) trivial
  | notified monitor code svcName =>
    cases hstep
    exact listens_recallUnused_iff h monitor code svcName
  | proxyAdded container ip nsUrl hostName tokens =>
    cases hstep
    exact iff_of_true (h.insert (.inl rfl)) trivial
  | proxyDeleted container ip =>
    cases hstep
    refine iff_of_true (h.setContainer ?_) trivial
    intro ip' proxy' hget
    rw [get_erase] at hget
    split at hget
    · cases hget
    · exact .inl hget
  | proxyOnline container ip =>
    obtain ⟨proxy, -, rfl⟩ := map_eq_some_iff.mp hstep
    refine iff_of_true (h.insert (.inr ?_)) trivial
    intro monitor code topic hsub
    exact mem_forwardServiceSubscription s.publishers rfl hsub
  | proxyOffline container ip =>
    obtain ⟨proxy, -, rfl⟩ := map_eq_some_iff.mp hstep
    exact iff_of_true (h.insert (.inl rfl)) trivial

end Step

/-- **Listeners and their users.**  In a run of the name server everything that local clients and
monitors subscribed is listened to at every name server that is connected, after every event,
exactly if every event is harmless. -/
theorem listens_iff (cfg : NsConfig) (es : List Listening.Event) {s : Listening}
    (hrun : run (Listening.step cfg) {} es = some s) :
    Throughout (Listening.step cfg) (Listens cfg) {} es
      ↔ Along (Listening.step cfg) (Harmless cfg) {} es := by
  refine throughout_iff ?_ es {} s ?_ hrun
  · intro s e s' h hstep
    exact listens_step_iff h hstep
  · intro monitor c ip proxy hproxy
    simp at hproxy

/-- A connection, a monitor and a client that subscribe one service. -/
def bothSubscribed : List Listening.Event :=
  [.proxyAdded none [49] [] [] [], .proxyOnline none [49],
    .subscribe .intraMonitor 0 SubscribeType.intraMonitor.objId [⟨1#32, some [97], 0#32⟩],
    .subscribe .intraNormal 1 SubscribeType.intraNormal.objId [⟨1#32, some [97], 0#32⟩]]

/-- The monitor is told about the service: nothing is recalled. -/
theorem listens_iff_monitor_told :
    Throughout (Listening.step plainConfig) (Listens plainConfig) {}
      (bothSubscribed ++ [.notified true 1#32 [97]]) := by
  obtain ⟨s, hrun⟩ : ∃ s, run (Listening.step plainConfig) {}
      (bothSubscribed ++ [.notified true 1#32 [97]]) = some s :=
    isSome_iff_exists.mp (by decide +kernel)
  have hmonitor : (run (Listening.step plainConfig) {} bothSubscribed).map
      (fun s => subscribedSessions s.publishers .intraMonitor 1#32 [97]) = some [0] := by
    decide +kernel
  refine (listens_iff plainConfig _ hrun).mpr ⟨trivial, fun s₁ h₁ => ⟨trivial, fun s₂ h₂ =>
    ⟨trivial, fun s₃ h₃ => ⟨trivial, fun s₄ h₄ => ⟨?_, fun _ _ => trivial⟩⟩⟩⟩⟩
  intro hnone
  have hlast : run (Listening.step plainConfig) {} bothSubscribed = some s₄ := by
    simp only [bothSubscribed, run, h₁, h₂, h₃, h₄, bind_some]
  rw [hlast, map_some, hnone] at hmonitor
  cases hmonitor

/-- The monitor unsubscribes, and then the other name server tells it about the service. -/
def monitorLeaves : List Listening.Event :=
  bothSubscribed
    ++ [.unsubscribe .intraMonitor 0 SubscribeType.intraMonitor.objId [⟨1#32, some [97], 0#32⟩],
      .notified true 1#32 [97]]

/-- The monitor has unsubscribed when the other name server tells it about the service: the client
is not listened for any more. -/
theorem client_listener_recalled :
    ∃ s, run (Listening.step plainConfig) {} monitorLeaves = some s ∧ ¬ Listens plainConfig s := by
  have hsubscribed : (run (Listening.step plainConfig) {} monitorLeaves).map (fun s =>
      getSubscribeTable (s.publishers .intraNormal)) = some [(1#32, [97])] := by decide +kernel
  have hproxy : (run (Listening.step plainConfig) {} monitorLeaves).map (fun s =>
        (s.containers none)[([49] : Text)]?.map fun proxy => (proxy.connected, proxy.listens false))
      = some (some (true, [])) := by decide +kernel
  obtain ⟨s, hrun, hsubscribed⟩ := map_eq_some_iff.mp hsubscribed
  rw [hrun, map_some, some.injEq] at hproxy
  obtain ⟨proxy, hproxy, hlistens⟩ := map_eq_some_iff.mp hproxy
  obtain ⟨hconnected, hlistens⟩ := Prod.mk.inj hlistens
  refine ⟨s, hrun, fun h => ?_⟩
  have hsub : HasSubscription (s.publishers (localType false)) 1#32 [97] := by
    apply (mem_getSubscribeTable _ 1#32 [97]).mp
    show (1#32, [97]) ∈ getSubscribeTable (s.publishers .intraNormal)
    rw [hsubscribed]
    exact mem_singleton.mpr rfl
  have hmem := h false none [49] proxy hproxy hconnected (by decide) 1#32 [97] hsub (by decide)
  rw [hlistens] at hmem
  exact not_mem_nil hmem

end Fdbus.Server

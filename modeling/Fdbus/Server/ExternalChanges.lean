/-
  Fdbus.Server.ExternalChanges — do clients hear about a new list of external services?

  The host server sends the services of other domains as a whole.  `compareSvcTable` sorts out which
  are new and which are gone; these are announced to clients and monitors, and then the list takes
  the place of the old one.

    * `SameContent` — a service has the same addresses and tokens in two lists,
    * `ReachesClients` — every change has been announced, and nothing else as gone,
    * `mem_sentChanges` — the announcements,
    * `exportSvcAddress_iff` — the changes reach the clients exactly if every service that has
      changed is new or gone, and not one that is registered here.

  Services are compared by name and instance: one that is in both lists, with other addresses, is
  not announced.  A new list without addresses is announced as a service without a name.
-/
import Fdbus.Server.Announce

namespace Fdbus.Server

open Fdbus.OrderedMap Fdbus.Security Fdbus.Subscribe List

/-! ## §1. Two lists of external services. -/

/-- The name and instance of a service. -/
def CFdbSvcAddress.key (svc : CFdbSvcAddress) : Text × FdbInstanceId :=
  (svc.mSvcName, svc.mInstanceId)

/-- The service is in the list. -/
def Lists (svcs : List CFdbSvcAddress) (k : Text × FdbInstanceId) : Prop :=
  ∃ svc ∈ svcs, svc.key = k

/-- The service is in both lists or in none, with the same addresses and tokens. -/
structure SameContent (current next : List CFdbSvcAddress) (k : Text × FdbInstanceId) : Prop where
  listed : Lists current k ↔ Lists next k
  addresses : ∀ addr, (∃ svc ∈ current, svc.key = k ∧ addr ∈ svc.mAddrTbl)
    ↔ ∃ svc ∈ next, svc.key = k ∧ addr ∈ svc.mAddrTbl
  tokens : ∀ token, (∃ svc ∈ current, svc.key = k ∧ token ∈ svc.mTokens)
    ↔ ∃ svc ∈ next, svc.key = k ∧ token ∈ svc.mTokens

/-- What a list says of its service. -/
def FdbMsgAddressList.told (list : FdbMsgAddressList) : CFdbSvcAddress where
  mSvcName := list.serviceName
  mEndpointName := list.endpointName
  mHostName := list.hostName
  mDomainName := list.domainName
  mInstanceId := list.instanceId
  mTokens := list.dumpTokens
  mAddrTbl := list.addressList.map fun item =>
    ⟨item.address, item.udpPort.getD fdbInetPortInvalid, item.exportableLevel, item.interfaceId⟩

/-- The services of the new list. -/
def toldList (svcAddressTbl : List FdbMsgAddressList) : List CFdbSvcAddress :=
  svcAddressTbl.map FdbMsgAddressList.told

/-- The entry that is made for a list without addresses. -/
def blankService : CFdbSvcAddress := {}

section Compare

variable {new : List FdbMsgAddressList} {current : List CFdbSvcAddress}

theorem populateToHostInfo_eq (list : FdbMsgAddressList) :
    list.populateToHostInfo = if list.addressList = [] then blankService else list.told := rfl

/-- **The services that are new**: those whose name and instance are not in the current list. -/
theorem mem_added (svc : CFdbSvcAddress) :
    svc ∈ (compareSvcTable new current).1
      ↔ ∃ list ∈ new, ¬ Lists current list.told.key ∧ list.populateToHostInfo = svc := by
  unfold compareSvcTable
  simp only [mem_map, mem_filter, and_assoc]
  apply exists_congr
  intro list
  apply and_congr_right
  intro _
  apply and_congr_left
  simp [Lists, CFdbSvcAddress.key, FdbMsgAddressList.told]

/-- **The services that are gone.** -/
theorem mem_removed (svc : CFdbSvcAddress) :
    svc ∈ (compareSvcTable new current).2 ↔ svc ∈ current ∧ ¬ Lists (toldList new) svc.key := by
  unfold compareSvcTable
  rw [mem_filter]
  apply and_congr_right
  simp [Lists, CFdbSvcAddress.key, FdbMsgAddressList.told, toldList]

end Compare

/-! ## §2. What is announced. -/

/-- The session holds a subscription, of an object of the publisher's class, that covers the
service. -/
def Hears (ns : NameServer) (type : SubscribeType) (session : SessionPtr) (info : SessionInfo)
    (k : Text × FdbInstanceId) : Prop :=
  ns.sessions[session]? = some info
    ∧ ∃ obj, fdbObjectGetClass obj = type.cls ∧ Subscribed ns.publishers type session obj k.1 k.2

/-- Somebody is sent what is announced about the service.  A list for the monitors is sent to each
object that holds a subscription. -/
def Reached (ns : NameServer) (type : SubscribeType) (k : Text × FdbInstanceId) : Prop :=
  if type = .intraNormal then ∃ session info, Hears ns type session info k
  else ∃ session obj, Subscribed ns.publishers type session obj k.1 k.2

/-- The list that a session is sent about a service that is there, or gone. -/
def announcement (cfg : NsConfig) (type : SubscribeType) (info : SessionInfo) (svc : CFdbSvcAddress)
    (remove : Bool) : FdbMsgAddressList :=
  let list := svc.populateFromHostInfo cfg.mMaxDomainExportableLevel remove
  dress cfg list.dumpTokens type info list.clearTokens

/-- The list is about the service. -/
def Sent.IsFor (m : Sent) (k : Text × FdbInstanceId) : Prop :=
  (m.list.serviceName, m.list.instanceId) = k

/-- A list was sent to the session. -/
def SentTo (sent : List Sent) (type : SubscribeType) (session : SessionPtr)
    (list : FdbMsgAddressList) : Prop :=
  ∃ m ∈ sent, m.type = type ∧ m.session = session ∧ m.list = list

/-- **The changes reach the clients**: clients and monitors are told about every service that has
changed, with its addresses or without, and about no other that it is gone. -/
structure ReachesClients (cfg : NsConfig) (ns : NameServer) (current next : List CFdbSvcAddress)
    (sent : List Sent) : Prop where
  changed : ∀ svc ∈ next, ¬ SameContent current next svc.key →
    ∀ type session info, type.IsIntra → Hears ns type session info svc.key →
      SentTo sent type session (announcement cfg type info svc false)
  gone : ∀ svc ∈ current, ¬ Lists next svc.key →
    ∀ type session info, type.IsIntra → Hears ns type session info svc.key →
      SentTo sent type session (announcement cfg type info svc true)
  others : ∀ m ∈ sent, m.list.addressList = [] →
    ¬ SameContent current next (m.list.serviceName, m.list.instanceId)

/-- What `exportSvcAddress` sends. -/
def sentChanges (cfg : NsConfig) (ns : NameServer) (proxy : HostProxy)
    (svcAddressTbl : List FdbMsgAddressList) : List Sent :=
  let changes := compareSvcTable svcAddressTbl proxy.mSvcAddrTbl
  let tell (svcs : List CFdbSvcAddress) (remove : Bool) (type : SubscribeType) : List Sent :=
    broadcastExternalService cfg ns.mRegistryTbl ns.publishers ns.sessions proxy.connected svcs
      remove type 0#32 [] none
  tell changes.1 false .intraNormal ++ tell changes.2 true .intraNormal
    ++ tell changes.1 false .intraMonitor ++ tell changes.2 true .intraMonitor

section Sending

variable {cfg : NsConfig} {ns : NameServer} {proxy : HostProxy}

theorem announcement_key (cfg : NsConfig) (type : SubscribeType) (info : SessionInfo)
    (svc : CFdbSvcAddress) (remove : Bool) :
    ((announcement cfg type info svc remove).serviceName,
      (announcement cfg type info svc remove).instanceId) = svc.key := by
  obtain ⟨hname, hinst⟩ := populateFromHostInfo_service svc cfg.mMaxDomainExportableLevel remove
  unfold announcement
  rw [dress_serviceName, dress_instanceId]
  show (_, _) = (svc.mSvcName, svc.mInstanceId)
  rw [← hname, ← hinst]
  rfl

variable {svc : CFdbSvcAddress} {new : List FdbMsgAddressList} {remove : Bool}
  {type : SubscribeType} {m : Sent} {session : SessionPtr} {info : SessionInfo}

/-- What is sent about a service. -/
theorem mem_broadcastOne (htype : type.IsIntra)
    (hm : m ∈ broadcastOneExtService cfg ns.mRegistryTbl ns.publishers ns.sessions proxy.connected
      svc remove type none) :
    proxy.connected = true ∧ ns.mRegistryTbl.isLocalService svc = false ∧ m.type = type
      ∧ Reached ns type svc.key ∧ m.IsFor svc.key
      ∧ ∀ info, ns.sessions[m.session]? = some info →
        m.list = announcement cfg type info svc remove := by
  unfold broadcastOneExtService at hm
  split at hm
  · cases hm
  · next hsends =>
      rw [Bool.or_eq_true, not_or, Bool.not_eq_true', Bool.not_eq_false, Bool.not_eq_true] at hsends
      refine ⟨hsends.1, hsends.2, ?_⟩
      obtain ⟨hname, hinst⟩ :=
        populateFromHostInfo_service svc cfg.mMaxDomainExportableLevel remove
      dsimp only at hm
      rcases htype with rfl | rfl
      · obtain ⟨session, -, hm⟩ := mem_flatMap.mp hm
        split at hm
        · next info' hinfo' =>
            have heq := (mem_broadcastSession.mp hm).2
            obtain ⟨obj, hclass, hsub⟩ := ((exists_broadcastSession
              SubscribeType.intraNormal.class_objId _ _ _ fun _ => True).mp ⟨m, hm, trivial⟩).2
            change Subscribed _ _ _ _ (svc.populateFromHostInfo _ _).serviceName
              (svc.populateFromHostInfo _ _).instanceId at hsub
            rw [hname, hinst] at hsub
            rw [heq]
            refine ⟨rfl, ⟨session, info', hinfo', obj, hclass, hsub⟩,
              announcement_key cfg .intraNormal info' svc remove, ?_⟩
            intro info hinfo
            obtain rfl := Option.some.inj (hinfo'.symm.trans hinfo)
            rfl
        · cases hm
      · obtain ⟨hsub, heq⟩ := mem_broadcastAll.mp hm
        rw [heq]
        -- monitors all get the same list
        exact ⟨rfl, ⟨m.session, m.obj, hsub⟩,
          announcement_key cfg .intraMonitor ⟨.ipc, 0, 0⟩ svc remove, fun _ _ => rfl⟩

/-- A session with a subscription is sent a list of its own. -/
theorem sentTo_broadcastSvcAddr {pubs : Publishers} {sessions : Sessions} {type : SubscribeType}
    {session : SessionPtr} {info : SessionInfo} {obj : FdbObjectId} {list : FdbMsgAddressList}
    (hsession : sessions[session]? = some info) (hclass : fdbObjectGetClass obj = type.cls)
    (hsub : Subscribed pubs type session obj list.serviceName list.instanceId)
    (tokens : List Token) :
    SentTo (broadcastSvcAddr pubs type cfg sessions tokens list) type session
      (dress cfg tokens type info list) := by
  have hsent : ∃ m ∈ broadcastSession pubs type session type.objId list.instanceId list.serviceName
      (dress cfg tokens type info list), m.list = dress cfg tokens type info list := by
    apply (exists_broadcastSession type.class_objId _ _ _
      fun l => l = dress cfg tokens type info list).mpr
    exact ⟨rfl, obj, hclass, hsub⟩
  obtain ⟨m, hm, hlist⟩ := hsent
  have heq := (mem_broadcastSession.mp hm).2
  refine ⟨m, mem_flatMap.mpr ⟨session, mem_subscribedSessions.mpr ⟨obj, hsub⟩, ?_⟩, ?_, ?_,
    hlist⟩
  · rw [hsession]
    exact hm
  · rw [heq]
  · rw [heq]

/-- Who hears of a service is told. -/
theorem sentTo_broadcastOne (htype : type.IsIntra) (hconnected : proxy.connected = true)
    (hlocal : ns.mRegistryTbl.isLocalService svc = false)
    (hears : Hears ns type session info svc.key) (remove : Bool) :
    SentTo (broadcastOneExtService cfg ns.mRegistryTbl ns.publishers ns.sessions proxy.connected svc
      remove type none) type session (announcement cfg type info svc remove) := by
  obtain ⟨hsession, obj, hclass, hsub⟩ := hears
  obtain ⟨hname, hinst⟩ := populateFromHostInfo_service svc cfg.mMaxDomainExportableLevel remove
  unfold broadcastOneExtService
  rw [hconnected, hlocal, if_neg (by decide)]
  dsimp only
  rcases htype with rfl | rfl
  · refine sentTo_broadcastSvcAddr hsession hclass ?_ _
    show Subscribed _ _ _ _ (svc.populateFromHostInfo _ _).serviceName
      (svc.populateFromHostInfo _ _).instanceId
    rw [hname, hinst]
    exact hsub
  · refine ⟨⟨.intraMonitor, session, obj, svc.mInstanceId, svc.mSvcName,
      announcement cfg .intraMonitor info svc remove⟩, ?_, rfl, rfl, rfl⟩
    exact mem_broadcastAll.mpr ⟨hsub, rfl⟩

/-- Whoever is reached is told. -/
theorem exists_broadcastOne (htype : type.IsIntra)
    (hconnected : proxy.connected = true) (hlocal : ns.mRegistryTbl.isLocalService svc = false)
    (hreached : Reached ns type svc.key) (remove : Bool) :
    ∃ m ∈ broadcastOneExtService cfg ns.mRegistryTbl ns.publishers ns.sessions proxy.connected svc
      remove type none, ∃ info, m.list = announcement cfg type info svc remove := by
  rcases htype with rfl | rfl
  · obtain ⟨session, info, hears⟩ := hreached
    obtain ⟨m, hm, -, -, hlist⟩ := sentTo_broadcastOne (.inl rfl) hconnected hlocal hears remove
    exact ⟨m, hm, info, hlist⟩
  · obtain ⟨session, obj, hsub⟩ := hreached
    unfold broadcastOneExtService
    rw [hconnected, hlocal, if_neg (by decide)]
    exact ⟨⟨.intraMonitor, session, obj, svc.mInstanceId, svc.mSvcName,
      announcement cfg .intraMonitor ⟨.ipc, 0, 0⟩ svc remove⟩,
      mem_broadcastAll.mpr ⟨hsub, rfl⟩, ⟨.ipc, 0, 0⟩, rfl⟩

/-- The services of one kind that are announced: new, or gone. -/
def changedList (proxy : HostProxy) (new : List FdbMsgAddressList) (remove : Bool) :
    List CFdbSvcAddress :=
  if remove then (compareSvcTable new proxy.mSvcAddrTbl).2
  else (compareSvcTable new proxy.mSvcAddrTbl).1

/-- **The announcements**: each is about a service that is new or gone, and not registered here. -/
theorem mem_sentChanges (hm : m ∈ sentChanges cfg ns proxy new) :
    proxy.connected = true ∧ m.type.IsIntra ∧ ∃ remove, ∃ svc ∈ changedList proxy new remove,
      ns.mRegistryTbl.isLocalService svc = false ∧ Reached ns m.type svc.key ∧ m.IsFor svc.key
        ∧ ∀ info, ns.sessions[m.session]? = some info →
          m.list = announcement cfg m.type info svc remove := by
  obtain ⟨remove, type, htype, hone⟩ : ∃ remove type, type.IsIntra ∧
      m ∈ broadcastExternalService cfg ns.mRegistryTbl ns.publishers ns.sessions proxy.connected
        (changedList proxy new remove) remove type 0#32 [] none := by
    unfold sentChanges at hm
    simp only [mem_append] at hm
    rcases hm with ((hm | hm) | hm) | hm
    · exact ⟨false, .intraNormal, .inl rfl, hm⟩
    · exact ⟨true, .intraNormal, .inl rfl, hm⟩
    · exact ⟨false, .intraMonitor, .inr rfl, hm⟩
    · exact ⟨true, .intraMonitor, .inr rfl, hm⟩
  obtain ⟨svc, hsvc, hone⟩ := mem_flatMap.mp hone
  obtain ⟨hconnected, hlocal, rfl, hrest⟩ := mem_broadcastOne htype hone
  exact ⟨hconnected, htype, remove, svc, hsvc, hlocal, hrest⟩

/-- What is told about a service that is new or gone is among the announcements. -/
theorem mem_sentChanges_of_one {svc : CFdbSvcAddress} {type : SubscribeType} {m : Sent}
    (hsvc : svc ∈ changedList proxy new remove) (htype : type.IsIntra)
    (hone : m ∈ broadcastOneExtService cfg ns.mRegistryTbl ns.publishers ns.sessions
      proxy.connected svc remove type none) : m ∈ sentChanges cfg ns proxy new := by
  have hm : m ∈ broadcastExternalService cfg ns.mRegistryTbl ns.publishers ns.sessions
      proxy.connected (changedList proxy new remove) remove type 0#32 [] none := by
    exact mem_flatMap.mpr ⟨svc, hsvc, hone⟩
  unfold sentChanges
  simp only [mem_append]
  cases remove with
  | false =>
    rcases htype with rfl | rfl
    · exact .inl (.inl (.inl hm))
    · exact .inl (.inr hm)
  | true =>
    rcases htype with rfl | rfl
    · exact .inl (.inl (.inr hm))
    · exact .inr hm

/-- **Which announcement a session is sent.** -/
theorem sentTo_sentChanges_iff {svc : CFdbSvcAddress} {remove : Bool}
    (htype : type.IsIntra) (hears : Hears ns type session info svc.key) :
    SentTo (sentChanges cfg ns proxy new) type session (announcement cfg type info svc remove)
      ↔ proxy.connected = true ∧ ∃ remove', ∃ svc' ∈ changedList proxy new remove',
        ns.mRegistryTbl.isLocalService svc' = false
          ∧ announcement cfg type info svc' remove' = announcement cfg type info svc remove := by
  constructor
  · intro hsent
    obtain ⟨m, hm, rfl, rfl, hlist⟩ := hsent
    obtain ⟨hconnected, -, remove', svc', hsvc', hlocal, -, -, hlist'⟩ := mem_sentChanges hm
    rw [← hlist, hlist' info hears.1]
    exact ⟨hconnected, remove', svc', hsvc', hlocal, rfl⟩
  · intro h
    obtain ⟨hconnected, remove', svc', hsvc', hlocal, heq⟩ := h
    have hkey : svc'.key = svc.key := by
      rw [← announcement_key cfg type info svc' remove', heq, announcement_key]
    rw [← heq]
    rw [← hkey] at hears
    obtain ⟨m, hm, hto⟩ := sentTo_broadcastOne htype hconnected hlocal hears remove'
    exact ⟨m, mem_sentChanges_of_one hsvc' htype hm, hto⟩

end Sending

/-! ## §3. When the changes reach the clients. -/

section Conditions

variable (cfg : NsConfig) (ns : NameServer) (current : List CFdbSvcAddress)
  (new : List FdbMsgAddressList)

/-- A list of a name and instance that were not there, which is not registered here, is announced
as `list`. -/
def NewAs (type : SubscribeType) (info : SessionInfo) (list : FdbMsgAddressList) : Prop :=
  ∃ l ∈ new, ¬ Lists current l.told.key
    ∧ ns.mRegistryTbl.isLocalService l.populateToHostInfo = false
    ∧ announcement cfg type info l.populateToHostInfo false = list

/-- A service of a name and instance that are gone, which is not registered here, is announced as
`list`. -/
def GoneAs (type : SubscribeType) (info : SessionInfo) (list : FdbMsgAddressList) : Prop :=
  ∃ svc ∈ current, ¬ Lists (toldList new) svc.key
    ∧ ns.mRegistryTbl.isLocalService svc = false ∧ announcement cfg type info svc true = list

/-- The host server is connected, and every service that has changed, and that somebody hears of, is
new or gone, and not one that is registered here.  A new list without addresses, which is announced
as the blank service, does no harm: nobody hears of that one, or it is not the same as before. -/
structure Announceable (connected : Bool) : Prop where
  changed : ∀ svc ∈ toldList new, ¬ SameContent current (toldList new) svc.key →
    ∀ type session info, type.IsIntra → Hears ns type session info svc.key →
      connected = true ∧ NewAs cfg ns current new type info (announcement cfg type info svc false)
  gone : ∀ svc ∈ current, ¬ Lists (toldList new) svc.key →
    ∀ type session info, type.IsIntra → Hears ns type session info svc.key →
      connected = true ∧ (NewAs cfg ns current new type info (announcement cfg type info svc true)
        ∨ GoneAs cfg ns current new type info (announcement cfg type info svc true))
  blank : connected = true → ∀ l ∈ new, l.addressList = [] → ¬ Lists current l.told.key →
    ∀ type, type.IsIntra → Reached ns type blankService.key →
      ¬ SameContent current (toldList new) blankService.key

end Conditions

section Reach

variable {cfg : NsConfig} {ns : NameServer} {proxy : HostProxy} {new : List FdbMsgAddressList}

theorem announcement_blank (type : SubscribeType) (info : SessionInfo) (remove : Bool) :
    (announcement cfg type info blankService remove).addressList = [] := by
  unfold announcement
  rw [dress_addressList]
  unfold CFdbSvcAddress.populateFromHostInfo
  split
  · rfl
  · split
    · rfl
    · rfl

variable {remove : Bool} {svc : CFdbSvcAddress} {info : SessionInfo} {type : SubscribeType}

/-- **Which announcement a session is sent**, said of the two lists. -/
theorem sentTo_iff {session : SessionPtr} (htype : type.IsIntra)
    (hears : Hears ns type session info svc.key) :
    SentTo (sentChanges cfg ns proxy new) type session (announcement cfg type info svc remove)
      ↔ proxy.connected = true
        ∧ (NewAs cfg ns proxy.mSvcAddrTbl new type info (announcement cfg type info svc remove)
          ∨ GoneAs cfg ns proxy.mSvcAddrTbl new type info
            (announcement cfg type info svc remove)) := by
  rw [sentTo_sentChanges_iff htype hears]
  apply and_congr_right
  intro _
  constructor
  · intro h
    obtain ⟨remove', svc', hsvc', hlocal, heq⟩ := h
    cases remove' with
    | false =>
      obtain ⟨l, hl, hnew, rfl⟩ := (mem_added svc').mp hsvc'
      exact .inl ⟨l, hl, hnew, hlocal, heq⟩
    | true =>
      obtain ⟨hmem, hgone⟩ := (mem_removed svc').mp hsvc'
      exact .inr ⟨svc', hmem, hgone, hlocal, heq⟩
  · intro h
    rcases h with ⟨l, hl, hnew, hlocal, heq⟩ | ⟨svc', hmem, hgone, hlocal, heq⟩
    · exact ⟨false, l.populateToHostInfo, (mem_added _).mpr ⟨l, hl, hnew, rfl⟩, hlocal, heq⟩
    · exact ⟨true, svc', (mem_removed svc').mpr ⟨hmem, hgone⟩, hlocal, heq⟩

/-- A service of the new list is not announced as one that is gone. -/
theorem not_goneAs {current : List CFdbSvcAddress} (hsvc : svc ∈ toldList new) :
    ¬ GoneAs cfg ns current new type info (announcement cfg type info svc remove) := by
  intro h
  obtain ⟨svc', -, hgone, -, heq⟩ := h
  have hkey := announcement_key cfg type info svc' true
  rw [heq, announcement_key] at hkey
  exact hgone ⟨svc, hsvc, hkey⟩

/-- **A service that is announced** is in one of the lists only, or it is the blank one. -/
theorem changedList_cases (h : svc ∈ changedList proxy new remove) :
    ¬ SameContent proxy.mSvcAddrTbl (toldList new) svc.key
      ∨ svc = blankService
        ∧ ∃ l ∈ new, l.addressList = [] ∧ ¬ Lists proxy.mSvcAddrTbl l.told.key := by
  cases remove with
  | false =>
    obtain ⟨l, hl, hnew, rfl⟩ := (mem_added svc).mp h
    rw [populateToHostInfo_eq]
    split
    · next hnil => exact .inr ⟨rfl, l, hl, hnil, hnew⟩
    · left
      intro hsame
      exact hnew (hsame.listed.mpr ⟨l.told, mem_map_of_mem hl, rfl⟩)
  | true =>
    obtain ⟨hmem, hgone⟩ := (mem_removed svc).mp h
    left
    intro hsame
    exact hgone (hsame.listed.mp ⟨svc, hmem, rfl⟩)

/-- The blank service is announced to everybody that it reaches. -/
theorem exists_sent_blank (hconnected : proxy.connected = true) {l : FdbMsgAddressList}
    (hl : l ∈ new) (hnil : l.addressList = []) (hnew : ¬ Lists proxy.mSvcAddrTbl l.told.key)
    (htype : type.IsIntra) (hreached : Reached ns type blankService.key) :
    ∃ m ∈ sentChanges cfg ns proxy new, m.list.addressList = [] ∧ m.IsFor blankService.key := by
  have hsvc : blankService ∈ changedList proxy new false := by
    apply (mem_added blankService).mpr
    refine ⟨l, hl, hnew, ?_⟩
    rw [populateToHostInfo_eq, if_pos hnil]
  obtain ⟨m, hm, info, hlist⟩ := exists_broadcastOne htype hconnected
    (by simp [RegistryTbl.isLocalService, blankService]) hreached false
  refine ⟨m, mem_sentChanges_of_one hsvc htype hm, ?_, ?_⟩
  · rw [hlist]
    exact announcement_blank type info false
  · unfold Sent.IsFor
    rw [hlist]
    exact announcement_key cfg type info blankService false

end Reach

/-- **Changes of external services.**  For every current and every new list: the changes reach the
clients and monitors exactly if every service that has changed is new or gone, and not one that is
registered here. -/
theorem exportSvcAddress_iff (cfg : NsConfig) (ns : NameServer) (url : Text) (proxy : HostProxy)
    (new : List FdbMsgAddressList) :
    ∃ sent, (exportSvcAddress cfg ns url proxy new).sent = ns.sent ++ sent
      ∧ (ReachesClients cfg ns proxy.mSvcAddrTbl (toldList new) sent
        ↔ Announceable cfg ns proxy.mSvcAddrTbl new proxy.connected) := by
  refine ⟨sentChanges cfg ns proxy new, rfl, ?_, ?_⟩
  · intro h
    refine ⟨?_, ?_, ?_⟩
    · intro svc hsvc hchanged type session info htype hears
      obtain ⟨hconnected, hor⟩ := (sentTo_iff htype hears).mp
        (h.changed svc hsvc hchanged type session info htype hears)
      exact ⟨hconnected, hor.resolve_right (not_goneAs hsvc)⟩
    · intro svc hsvc hgone type session info htype hears
      exact (sentTo_iff htype hears).mp (h.gone svc hsvc hgone type session info htype hears)
    · intro hconnected l hl hnil hnew type htype hreached
      obtain ⟨m, hm, hempty, hfor⟩ :=
        exists_sent_blank hconnected hl hnil hnew htype hreached
      have hothers := h.others m hm hempty
      rw [hfor] at hothers
      exact hothers
  · intro h
    refine ⟨?_, ?_, ?_⟩
    · intro svc hsvc hchanged type session info htype hears
      obtain ⟨hconnected, hnew⟩ := h.changed svc hsvc hchanged type session info htype hears
      exact (sentTo_iff htype hears).mpr ⟨hconnected, .inl hnew⟩
    · intro svc hsvc hgone type session info htype hears
      exact (sentTo_iff htype hears).mpr (h.gone svc hsvc hgone type session info htype hears)
    · -- whatever is announced has changed, or it is the blank service
      intro m hm _
      obtain ⟨hconnected, htype, remove, svc, hsvc, -, hreached, habout, -⟩ := mem_sentChanges hm
      rw [habout]
      rcases changedList_cases hsvc with hchanged | ⟨rfl, l, hl, hnil, hnew⟩
      · exact hchanged
      · exact h.blank hconnected l hl hnil hnew m.type htype hreached

/-- Service "a" at a URL. -/
def listAt (url : Text) : FdbMsgAddressList where
  serviceName := [97]
  addressList := [⟨⟨url, .tcp, [49], 80, false⟩, 1, 0, none⟩]

/-- A client that subscribed the service. -/
def oneClient : NameServer where
  sessions := oneSession
  publishers := fun type =>
    CFdbBaseObject.empty.subscribe 1 0#32 type.objId (some [97]) 0#32

theorem hears_oneClient (type : SubscribeType) :
    Hears oneClient type 1 ipcSession ([97], 0#32) := by
  refine ⟨by decide +kernel, type.objId, type.class_objId, 0#32, [97], ?_, .inr rfl, by decide⟩
  show ((CFdbBaseObject.empty.subscribe 1 0#32 type.objId (some [97]) 0#32).lookup 0#32 1 type.objId
    [97]).isSome = true
  rw [CFdbBaseObject.lookup_subscribe, if_pos ⟨rfl, rfl, rfl, rfl⟩]
  rfl

/-- The service moves to another URL: nobody is told. -/
theorem moved_service_not_announced :
    ∃ sent, (exportSvcAddress plainConfig oneClient [] ⟨true, toldList [listAt [117]]⟩
        [listAt [118]]).sent = oneClient.sent ++ sent
      ∧ ¬ ReachesClients plainConfig oneClient (toldList [listAt [117]]) (toldList [listAt [118]])
        sent := by
  refine ⟨[], by decide +kernel, ?_⟩
  intro h
  have hchanged : ¬ SameContent (toldList [listAt [117]]) (toldList [listAt [118]])
      ([97], 0#32) := by
    intro hsame
    have hold := (hsame.addresses ⟨⟨[118], .tcp, [49], 80, false⟩, fdbInetPortInvalid, 1, 0⟩).mpr
      ⟨_, mem_singleton.mpr rfl, rfl, by decide⟩
    obtain ⟨svc, hsvc, -, haddr⟩ := hold
    obtain rfl := mem_singleton.mp hsvc
    revert haddr
    decide
  obtain ⟨m, hm, -⟩ := h.changed _ (mem_singleton.mpr rfl) hchanged .intraNormal 1 ipcSession
    (.inl rfl) (hears_oneClient .intraNormal)
  exact not_mem_nil hm

end Fdbus.Server

/-
  Fdbus.Server.NameServer — the name server as a state machine.

  Servers ask for addresses under a name, report which of them they could bind, and give the
  name back; clients subscribe names; host servers and other name servers tell about services
  elsewhere.  `step` is one such message, `NameServer.sent` is everything that was sent to
  subscribers so far.

    * `onAllocServiceAddressReq`, `onRegisterServiceReq`, `onUnegisterServiceReq` — the requests
      of servers,
    * `onSubscribe`, `onOffline` — a client subscribes, a session ends,
    * `exportSvcAddress`, `onServiceBroadcast` — what host proxies and name proxies hear,
    * `ownership_iff` — exactly when a request leaves the services of other sessions alone.

  Requests that cannot be decoded change nothing and are left out.  What the system decides is
  part of the event: the addresses that the allocators give, the tokens, which sockets could be
  bound.  Names are C strings, so none contains a NUL.  Subscriptions are not restricted by an
  API security file.  Another name server may send any list at any time; which subscription a
  list answers is part of the event, and it is one that was passed on before.
-/
import Fdbus.Server.ExternalService

namespace Fdbus.Server

open Fdbus.OrderedMap Fdbus.Security Fdbus.Subscribe Option

/-! ## §1. Messages and state. -/

/-- `FdbMsgServerName`. -/
structure FdbMsgServerName where
  name : Text
  instanceId : FdbInstanceId := 0#32
  endpointName : Text := []
  flag : BitVec 32 := 0#32
  exportableLevel : Int := fdbExportableNodeInternal

/-- `CAllocatedAddress`. -/
structure CAllocatedAddress where
  mSocketAddr : CFdbSocketAddr
  mExportableLevel : Int
  mInterfaceId : Int

/-- `FdbAddrBindStatus`: an address that was asked to be bound, and the one that was; the latter
is empty if binding failed. -/
structure FdbAddrBindStatus where
  requestAddress : Text
  bindAddress : Text
  udpPort : Int

/-- `FdbMsgAddrBindResults`. -/
structure FdbMsgAddrBindResults where
  serviceName : Text
  instanceId : FdbInstanceId
  addressList : List FdbAddrBindStatus

/-- The statuses that requests are answered with. -/
inductive NsStatus where
  | alreadyExist
  | noResource
  | notAvailable
  | badParameter
  | nonExist
  deriving Repr, DecidableEq

/-- The answer to a request. -/
inductive NsReply where
  | silent
  | status (code : NsStatus)
  | addresses (list : FdbMsgAddressList)
  deriving DecidableEq

/-- What the name server keeps of a `CIntraHostProxy`. -/
structure HostProxy where
  connected : Bool := false
  mSvcAddrTbl : List CFdbSvcAddress := []

/-- `FDB_AUTO_INSTANCE_BEGIN`. -/
def fdbAutoInstanceBegin : Nat := 0x00ff0000

/-- `FDB_AUTO_INSTANCE_END`. -/
def fdbAutoInstanceEnd : Nat := 0x00fffffe

/-- The state of the name server.  `forwarded` are the subscriptions that were passed on to
other name servers, `sent` the lists that were handed to subscribers. -/
structure NameServer where
  mRegistryTbl : RegistryTbl := ∅
  mInstanceIdAllocator : Nat := fdbAutoInstanceBegin
  publishers : Publishers := fun _ => CFdbBaseObject.empty
  sessions : Sessions := ∅
  nextSid : Nat := 0
  hasTCPAllocators : Bool := false
  mHostProxyTbl : Map Text HostProxy := ∅
  forwarded : List (SubscribeType × SessionPtr × FdbObjectId) := []
  sent : List Sent := []

/-- The lists are handed to the subscribers. -/
def NameServer.send (ns : NameServer) (lists : List Sent) : NameServer :=
  { ns with sent := ns.sent ++ lists }

/-! ## §2. A server asks for addresses. -/

/-- The loop over the instances from `next` on, for as many as there are: the first one that is
free. -/
def searchInstance (reg : RegistryTbl) (svcName : Text) (group : FdbInstanceId) :
    Nat → Nat → Option Nat
  | 0, _ => none
  | count + 1, next =>
    if reg.findService svcName (fdbMergeEventCode group next) = [] then some next
    else searchInstance reg svcName group count (next + 1)

/-- The instance of a new service, or why there is none, and the allocator afterwards: for a
group the next free one, going round once. -/
def NameServer.allocateInstance (ns : NameServer) (svcName : Text) (instanceId : FdbInstanceId) :
    Nat × Except NsStatus FdbInstanceId :=
  if fdbIsGroup instanceId then
    match searchInstance ns.mRegistryTbl svcName instanceId
        (fdbAutoInstanceEnd + 1 - ns.mInstanceIdAllocator) ns.mInstanceIdAllocator with
    | some next => (next + 1, .ok (fdbMergeEventCode instanceId next))
    | none =>
      match searchInstance ns.mRegistryTbl svcName instanceId
          (fdbAutoInstanceEnd + 1 - fdbAutoInstanceBegin) fdbAutoInstanceBegin with
      | some next => (next + 1, .ok (fdbMergeEventCode instanceId next))
      | none => (fdbAutoInstanceBegin, .error .noResource)
  else if ns.mRegistryTbl.findService svcName instanceId ≠ [] then
    (ns.mInstanceIdAllocator, .error .alreadyExist)
  else (ns.mInstanceIdAllocator, .ok instanceId)

/-- `addressRegistered(addr_list, sckt_addr)`. -/
def addressRegistered (addrTbl : List CFdbAddressDesc) (addr : CFdbSocketAddr) : Bool :=
  addrTbl.any fun desc => desc.mAddress.mUrl = addr.mUrl

/-- The descriptor of an address that is to be bound. -/
def CAllocatedAddress.pendingDesc (a : CAllocatedAddress) : CFdbAddressDesc where
  mAddress := a.mSocketAddr
  mUDPPort := if a.mSocketAddr.mType = .ipc then fdbInetPortInvalid else fdbInetPortAuto
  mExportableLevel := a.mExportableLevel
  mInterfaceId := a.mInterfaceId
  mStatus := .pending

/-- `addServiceAddress`: the table with the addresses that the allocators gave. -/
def addServiceAddress (addrTbl : List CFdbAddressDesc) (allocated : List CAllocatedAddress) :
    List CFdbAddressDesc :=
  allocated.foldl (fun tbl a =>
    if addressRegistered tbl a.mSocketAddr then tbl else tbl ++ [a.pendingDesc]) addrTbl

/-- The list of the addresses that `addServiceAddress` adds to a table. -/
def addedList (cfg : NsConfig) (entry : CSvcRegistryEntry) (allocated : List CAllocatedAddress) :
    FdbMsgAddressList :=
  setServiceInfo cfg entry true (if entry.mSvcName = cfg.nsName then cfg.pid else 0)
    { addressList := ((addServiceAddress entry.mAddrTbl allocated).drop
        entry.mAddrTbl.length).flatMap (prepareAddress fdbExportableAny) }

/-- The entry of a new service, before its addresses are added. -/
def newEntry (session : SessionPtr) (req : FdbMsgServerName) (inst : FdbInstanceId)
    (tokens : List Token) : CSvcRegistryEntry where
  mSid := session
  mTokens := tokens
  mAllowTcpSecure := req.flag &&& 4#32 ≠ 0#32
  mAllowTcpNormal := req.flag &&& 2#32 ≠ 0#32
  mExportableLevel := req.exportableLevel
  mEndpointName := req.endpointName
  mSvcName := req.name
  mInstanceId := inst

section Requests

variable (cfg : NsConfig) (ns : NameServer)

/-- `onAllocServiceAddressReq`. -/
def onAllocServiceAddressReq (session : SessionPtr) (req : FdbMsgServerName)
    (allocated : List CAllocatedAddress) (tokens : List Token) : NameServer × NsReply :=
  match ns.allocateInstance req.name req.instanceId with
  | (allocator, .error status) => ({ ns with mInstanceIdAllocator := allocator }, .status status)
  | (allocator, .ok inst) =>
    let entry := newEntry session req inst tokens
    let list : FdbMsgAddressList :=
      { addedList cfg entry allocated with tokenList := some tokens }
    ({ ns with
        mInstanceIdAllocator := allocator
        mRegistryTbl := ns.mRegistryTbl.put req.name inst
          { entry with mAddrTbl := addServiceAddress entry.mAddrTbl allocated } },
      if list.addressList = [] then .status .notAvailable else .addresses list)

/-! ## §3. A server reports what it could bind. -/

/-- Replace the first element that satisfies `p`, or remove it. -/
def replaceFirst {α : Type} (p : α → Bool) (f : α → Option α) : List α → List α
  | [] => []
  | a :: l => if p a then (f a).toList ++ l else a :: replaceFirst p f l

/-- `rebindToAddress(addr_desc, addr_tbl)`: the descriptor with another address and the list that
is broadcast for it, unless the result is false.  `realloc` is what the allocator gives. -/
def rebindToAddress (realloc : CFdbAddressDesc → Option CAllocatedAddress)
    (entry : CSvcRegistryEntry) (desc : CFdbAddressDesc) :
    Option (CFdbAddressDesc × FdbMsgAddressList) :=
  if desc.mRebindCount ≥ cfg.addressBindRetryCnt then none
  else
    (realloc desc).bind fun a => (cfg.parseUrl a.mSocketAddr.mUrl).map fun addr =>
      let udpPort := if desc.mAddress.mType = .ipc then fdbInetPortInvalid else fdbInetPortAuto
      ({ desc with
          mAddress := addr
          mUDPPort := udpPort
          mExportableLevel := a.mExportableLevel
          mInterfaceId := a.mInterfaceId
          mRebindCount := desc.mRebindCount + 1 },
        setServiceInfo cfg entry true 0
          { addressList := [populateAddressItem
              ⟨{ a.mSocketAddr with mSecure := addr.mSecure }, udpPort, a.mExportableLevel,
                a.mInterfaceId⟩] })

/-- The descriptor of an address that was bound. -/
def boundDesc (report : FdbAddrBindStatus) (desc : CFdbAddressDesc) : CFdbAddressDesc :=
  { desc with
    mStatus := .bound
    mUDPPort := report.udpPort
    mAddress :=
      if desc.mAddress.mType ≠ .ipc ∧ report.bindAddress ≠ desc.mAddress.mUrl then
        (cfg.parseUrl report.bindAddress).getD desc.mAddress
      else desc.mAddress }

/-- What the loop over the reported addresses changes: the addresses of the service, the new
ones, and the lists for servers that are to bind another address. -/
structure Binding where
  addrTbl : List CFdbAddressDesc
  newAddrTbl : List CFdbAddressDesc := []
  more : List FdbMsgAddressList := []

/-- The report is about this descriptor. -/
def FdbAddrBindStatus.isAbout (report : FdbAddrBindStatus) (desc : CFdbAddressDesc) : Bool :=
  report.requestAddress = desc.mAddress.mUrl

/-- The body of the loop over the reported addresses. -/
def bindAddress (realloc : CFdbAddressDesc → Option CAllocatedAddress) (entry : CSvcRegistryEntry)
    (b : Binding) (report : FdbAddrBindStatus) : Binding :=
  match b.addrTbl.find? report.isAbout with
  | some desc =>
    if report.bindAddress ≠ [] then
      { b with
        addrTbl := replaceFirst report.isAbout (fun desc => some (boundDesc cfg report desc))
          b.addrTbl }
    else if desc.mStatus = .bound then b
    else
      match rebindToAddress cfg realloc entry desc with
      | some (desc', list) =>
        { b with
          addrTbl := replaceFirst report.isAbout (fun _ => some desc') b.addrTbl
          more := b.more ++ [list] }
      | none => { b with addrTbl := replaceFirst report.isAbout (fun _ => none) b.addrTbl }
  | none =>
    match cfg.parseUrl report.bindAddress with
    | some addr =>
      { b with newAddrTbl := b.newAddrTbl ++ [{ mAddress := addr, mStatus := .bound }] }
    | none => b

/-- The loop over the reported addresses. -/
def bindAddresses (realloc : CFdbAddressDesc → Option CAllocatedAddress)
    (entry : CSvcRegistryEntry) (reports : List FdbAddrBindStatus) : Binding :=
  reports.foldl (bindAddress cfg realloc entry) { addrTbl := entry.mAddrTbl }

/-- The entry after the loop: it belongs to the session that reported. -/
def registeredEntry (session : SessionPtr) (entry : CSvcRegistryEntry) (b : Binding) :
    CSvcRegistryEntry :=
  { entry with mSid := session, mAddrTbl := b.addrTbl ++ b.newAddrTbl }

/-- What is sent when all addresses of a service are bound.  The monitors' lists are sent under
the name and instance of the request, the others under those of the service. -/
def onlineLists (entry : CSvcRegistryEntry) (svcName : Text) (instanceId : FdbInstanceId) :
    List Sent :=
  let toMonitors (type : SubscribeType) : List Sent :=
    (onlineAddress cfg entry type).elim [] (broadcastAll ns.publishers type instanceId svcName)
  let toClients (type : SubscribeType) : List Sent :=
    (onlineAddress cfg entry type).elim []
      (broadcastSvcAddr ns.publishers type cfg ns.sessions entry.mTokens)
  toMonitors .intraMonitor ++ toMonitors .interMonitor ++ toClients .intraNormal
    ++ toClients .interNormal

/-- `connectToHostServer(hs_url, is_local)`: the proxy is made; it connects later. -/
def NameServer.connectToHostServer (url : Text) : NameServer :=
  if url ≠ [] ∧ ns.mHostProxyTbl[url]?.isNone then
    { ns with mHostProxyTbl := ns.mHostProxyTbl.insert url {} }
  else ns

/-- The host server is connected to as soon as it is registered. -/
def connectIfHostServer (entry : CSvcRegistryEntry) (svcName : Text) : NameServer :=
  if svcName = cfg.hostServerName then ns.connectToHostServer (bestLocalUrl entry.mAddrTbl) else ns

/-- The state after the loop over the reported addresses: servers have been told which other
addresses to bind. -/
def reported (m : RegistryMatch) (entry : CSvcRegistryEntry) (b : Binding) : NameServer :=
  { ns with mRegistryTbl := ns.mRegistryTbl.put m.name m.inst entry }.send
    (b.more.flatMap fun (list : FdbMsgAddressList) =>
      broadcastAll ns.publishers .moreAddress list.instanceId entry.mSvcName list)

/-- `onRegisterServiceReq`. -/
def onRegisterServiceReq (session : SessionPtr) (req : FdbMsgAddrBindResults)
    (realloc : CFdbAddressDesc → Option CAllocatedAddress) : NameServer × NsReply :=
  if fdbIsGroup req.instanceId then (ns, .status .badParameter)
  else
    match (ns.mRegistryTbl.findService req.serviceName req.instanceId).head? with
    | none => (ns, .status .nonExist)
    | some m =>
      if req.addressList = [] then
        ({ ns with mRegistryTbl := ns.mRegistryTbl.eraseService req.serviceName req.instanceId },
          .silent)
      else
        let b := bindAddresses cfg realloc m.entry req.addressList
        let entry := registeredEntry session m.entry b
        let ns := reported ns m entry b
        if hasPendingAddress entry then (ns, .silent)
        else
          ((connectIfHostServer cfg ns entry req.serviceName).send
            (onlineLists cfg ns entry req.serviceName req.instanceId), .silent)

/-! ## §4. A service goes away. -/

/-- What is sent when a service goes away. -/
def offlineLists (entry : CSvcRegistryEntry) (svcName : Text) (instanceId : FdbInstanceId) :
    List Sent :=
  let localList := setServiceInfo cfg entry true 0 {}
  let remoteList := setServiceInfo cfg entry false 0 {}
  broadcastSvcAddr ns.publishers .intraNormal cfg ns.sessions entry.mTokens localList
    -- "never broadcast token to monitors!!!"
    ++ broadcastAll ns.publishers .intraMonitor instanceId svcName localList.clearTokens
    ++ broadcastSvcAddr ns.publishers .interNormal cfg ns.sessions entry.mTokens remoteList
    ++ broadcastAll ns.publishers .interMonitor instanceId svcName remoteList.clearTokens

/-- `removeService(svc_name, instance_id)`, and whether an entry was erased. -/
def removeService (svcName : Text) (instanceId : FdbInstanceId) : NameServer × Bool :=
  match (ns.mRegistryTbl.findService svcName instanceId).head? with
  | none => (ns, false)
  | some m =>
    ({ ns with mRegistryTbl := ns.mRegistryTbl.eraseService svcName instanceId }.send
        (offlineLists cfg ns m.entry svcName instanceId),
      (ns.mRegistryTbl.get svcName instanceId).isSome)

/-- `onUnegisterServiceReq`. -/
def onUnegisterServiceReq (svcName : Text) (instanceId : FdbInstanceId) : NameServer × NsReply :=
  if fdbIsGroup instanceId then (ns, .status .badParameter)
  else ((removeService cfg ns svcName instanceId).1, .silent)

end Requests

/-- The requests of servers. -/
inductive Request where
  | alloc (req : FdbMsgServerName) (allocated : List CAllocatedAddress) (tokens : List Token)
  | register (req : FdbMsgAddrBindResults) (realloc : CFdbAddressDesc → Option CAllocatedAddress)
  | unregister (svcName : Text) (instanceId : FdbInstanceId)

/-- `onInvoke`: a request from a session. -/
def NameServer.handle (cfg : NsConfig) (ns : NameServer) (session : SessionPtr) :
    Request → NameServer × NsReply
  | .alloc req allocated tokens => onAllocServiceAddressReq cfg ns session req allocated tokens
  | .register req realloc => onRegisterServiceReq cfg ns session req realloc
  | .unregister svcName instanceId => onUnegisterServiceReq cfg ns svcName instanceId

/-- One scan of the registry in `onOffline`: up to the first service of the session that could be
removed. -/
def removeOwned (cfg : NsConfig) (session : SessionPtr) :
    List RegistryMatch → NameServer → NameServer × Bool
  | [], ns => (ns, false)
  | m :: ms, ns =>
    if m.entry.mSid = session then
      let r := removeService cfg ns m.entry.mSvcName m.entry.mInstanceId
      if r.2 then r else removeOwned cfg session ms r.1
    else removeOwned cfg session ms ns

/-- The scans of `onOffline`: until one removes nothing.  Each of the others removes an entry, so
`fuel` is one more than there are entries. -/
def removeAllOwned (cfg : NsConfig) (session : SessionPtr) : Nat → NameServer → NameServer
  | 0, ns => ns
  | fuel + 1, ns =>
    let r := removeOwned cfg session ns.mRegistryTbl.all ns
    if r.2 then removeAllOwned cfg session fuel r.1 else r.1

/-- A session ends: it is unsubscribed everywhere, and then `onOffline` removes its services. -/
def onOffline (cfg : NsConfig) (ns : NameServer) (session : SessionPtr) : NameServer :=
  removeAllOwned cfg session (ns.mRegistryTbl.all.length + 1)
    { ns with
      sessions := ns.sessions.erase session
      publishers := fun type => (ns.publishers type).unsubscribeSession session }

/-! ## §5. A client subscribes. -/

/-- The items are entered before `onSubscribe` is called. -/
def enterItems (session : SessionPtr) (obj : FdbObjectId) (items : List CFdbMsgSubscribeItem)
    (table : CFdbBaseObject) : CFdbBaseObject :=
  items.foldl (fun table item => table.subscribe session item.msgCode obj item.topic item.flag) table

theorem lookup_enterItems {session : SessionPtr} {obj : FdbObjectId}
    (items : List CFdbMsgSubscribeItem) (table : CFdbBaseObject)
    (code : FdbMsgCode) (s : SessionPtr) (o : FdbObjectId) (topic : Text) :
    ((enterItems session obj items table).lookup code s o topic).isSome = true
      ↔ (table.lookup code s o topic).isSome = true
        ∨ (session = s ∧ obj = o
          ∧ ∃ item ∈ items, item.msgCode = code ∧ item.topic.getD [] = topic) := by
  unfold enterItems
  induction items generalizing table with
  | nil => simp
  | cons item items ih =>
    rw [List.foldl_cons, ih, CFdbBaseObject.lookup_subscribe]
    by_cases hitem : item.msgCode = code ∧ session = s ∧ obj = o ∧ item.topic.getD [] = topic
    · obtain ⟨hcode, rfl, rfl, htopic⟩ := hitem
      simp [hcode, htopic]
    · rw [if_neg hitem]
      simp only [List.mem_cons, exists_eq_or_imp]
      tauto

/-- `onServiceOnlineReg(svc_name, instance_id, msg, subscribe_type)`: what is sent. -/
def onServiceOnlineReg (cfg : NsConfig) (ns : NameServer) (type : SubscribeType)
    (session : SessionPtr) (info : SessionInfo) (obj : FdbObjectId) (item : CFdbMsgSubscribeItem) :
    List Sent :=
  let svcName := item.topic.getD []
  ((ns.mRegistryTbl.findService svcName item.msgCode).flatMap fun m =>
      (subscribeList cfg m.entry type info).elim []
        (broadcastSession ns.publishers type session obj m.entry.mInstanceId m.entry.mSvcName))
    ++ ns.mHostProxyTbl.toList.flatMap fun p =>
      broadcastExternalService cfg ns.mRegistryTbl ns.publishers ns.sessions p.2.connected
        p.2.mSvcAddrTbl false type item.msgCode svcName (some (session, obj))

/-- The items that are passed on to the other name servers. -/
def forwardedItems (cfg : NsConfig) (type : SubscribeType) (session : SessionPtr)
    (obj : FdbObjectId) (items : List CFdbMsgSubscribeItem) :
    List (SubscribeType × SessionPtr × FdbObjectId) :=
  if type = .intraNormal ∨ type = .intraMonitor then
    (items.filter fun item => item.topic.getD [] ≠ cfg.nsName).map fun _ => (type, session, obj)
  else []

/-- A subscription to one of the publishers, and `ConnectAddrPublisher::onSubscribe`; the
publisher of more addresses has no such handler. -/
def onSubscribe (cfg : NsConfig) (ns : NameServer) (type : SubscribeType) (session : SessionPtr)
    (info : SessionInfo) (obj : FdbObjectId) (items : List CFdbMsgSubscribeItem) : NameServer :=
  let ns := { ns with
    publishers := Function.update ns.publishers type
      (enterItems session obj items (ns.publishers type)) }
  if type = .moreAddress then ns
  else
    { ns with forwarded := ns.forwarded ++ forwardedItems cfg type session obj items }.send
      (items.flatMap (onServiceOnlineReg cfg ns type session info obj))

/-! ## §6. What host proxies and name proxies hear. -/

/-- `NTF_EXPORT_SVC_ADDRESS_INTERNAL`: the list of external services of a host server. -/
def exportSvcAddress (cfg : NsConfig) (ns : NameServer) (url : Text) (proxy : HostProxy)
    (svcAddressTbl : List FdbMsgAddressList) : NameServer :=
  let changes := compareSvcTable svcAddressTbl proxy.mSvcAddrTbl
  let tell (svcs : List CFdbSvcAddress) (remove : Bool) (type : SubscribeType) : List Sent :=
    broadcastExternalService cfg ns.mRegistryTbl ns.publishers ns.sessions proxy.connected svcs
      remove type 0#32 [] none
  { ns with
    mHostProxyTbl := ns.mHostProxyTbl.insert url
      { proxy with mSvcAddrTbl := svcAddressTbl.map FdbMsgAddressList.populateToHostInfo } }.send
    (tell changes.1 false .intraNormal ++ tell changes.2 true .intraNormal
      ++ tell changes.1 false .intraMonitor ++ tell changes.2 true .intraMonitor)

/-- `bindNsAddress(addr_tbl)`: an address that cannot be bound is dropped. -/
def bindNsAddress (bind : Text → Option Int) (addrTbl : List CFdbAddressDesc) :
    List CFdbAddressDesc :=
  addrTbl.filterMap fun desc =>
    if desc.mStatus = .bound then some desc
    else (bind desc.mAddress.mUrl).map fun port => { desc with mStatus := .bound, mUDPPort := port }

/-- The entry of a service when the first host server comes online: it gets TCP addresses. -/
def withInetAddresses (cfg : NsConfig) (allocated : Text → FdbInstanceId → List CAllocatedAddress)
    (bind : Text → Option Int) (name : Text) (inst : FdbInstanceId) (entry : CSvcRegistryEntry) :
    CSvcRegistryEntry :=
  let added := { entry with mAddrTbl := addServiceAddress entry.mAddrTbl (allocated name inst) }
  if entry.mSvcName = cfg.hostServerName then entry
  else if entry.mSvcName = cfg.nsName ∧ (addedList cfg entry (allocated name inst)).addressList ≠ []
  then { added with mAddrTbl := bindNsAddress bind added.mAddrTbl }
  else added

/-- `onHostOnline(true, host_proxy)`: the servers are told which addresses to bind as well. -/
def onHostOnline (cfg : NsConfig) (ns : NameServer)
    (allocated : Text → FdbInstanceId → List CAllocatedAddress) (bind : Text → Option Int) :
    NameServer :=
  if ns.hasTCPAllocators then ns
  else
    { ns with
      hasTCPAllocators := true
      mRegistryTbl := ns.mRegistryTbl.map fun name (tbl : SvcRegistryTbl) =>
        tbl.map fun inst entry => withInetAddresses cfg allocated bind name inst entry }.send
      (ns.mRegistryTbl.all.flatMap fun (m : RegistryMatch) =>
        let list := addedList cfg m.entry (allocated m.name m.inst)
        if m.entry.mSvcName = cfg.hostServerName ∨ m.entry.mSvcName = cfg.nsName
          ∨ list.addressList = [] then []
        else broadcastAll ns.publishers .moreAddress m.entry.mInstanceId m.entry.mSvcName list)

/-- `CSvcAddrUtils::validateUrl(msg_addr_list, session)` for a session with this peer. -/
def validateUrl (peerIp : Text) (list : FdbMsgAddressList) : FdbMsgAddressList :=
  let usable := list.addressList.filter fun item =>
    item.address.mType ≠ .ipc ∧ item.address.mAddr ≠ fdbLocalHost
  let best := usable.filter fun item => item.address.mAddr = peerIp
  let allIf := (usable.filter fun item => item.address.mAddr ≠ peerIp
    ∧ item.address.mAddr = fdbIpAllInterface ∧ peerIp ≠ []).map fun item =>
      { item with address := { item.address with mAddr := peerIp }.buildUrl }
  let fallback := usable.filter fun item => item.address.mAddr ≠ peerIp
    ∧ ¬ (item.address.mAddr = fdbIpAllInterface ∧ peerIp ≠ [])
  if best ≠ [] then { list with addressList := best }
  else if allIf ≠ [] then { list with addressList := allIf }
  else if fallback ≠ [] then { list with addressList := fallback }
  else list

/-- `CInterNameProxy::onServiceBroadcast(msg, subscribe_type)`: a list from another name server,
about a normal subscription or one of a monitor.  If it answers a subscription that was passed
on, `initial` is the session and the object of that subscription. -/
def onServiceBroadcast (cfg : NsConfig) (ns : NameServer) (monitor : Bool) (code : FdbInstanceId)
    (peerIp : Text) (list : FdbMsgAddressList) (initial : Option (SessionPtr × FdbObjectId)) :
    List Sent :=
  let forwardType := if monitor then SubscribeType.intraMonitor else .intraNormal
  if subscribedSessions ns.publishers forwardType code list.serviceName = [] then []
  else
    let list := validateUrl peerIp list
    let tokens := list.dumpTokens
    let list := list.clearTokens
    match initial with
    | some (session, obj) =>
      -- the subscription's own object decides which publisher answers
      match SubscribeType.ofObject obj with
      | some type =>
        if monitor then
          broadcastSession ns.publishers type session obj code list.serviceName list
        else
          ns.sessions[session]?.elim [] fun info =>
            broadcastSession ns.publishers type session obj list.instanceId list.serviceName
              (forLocal cfg tokens info list)
      | none => []
    | none =>
      if monitor then broadcastAll ns.publishers .intraMonitor code list.serviceName list
      else broadcastSvcAddr ns.publishers .intraNormal cfg ns.sessions tokens list

/-- `notifyRemoteNameServerDrop(host_name)`. -/
def notifyRemoteNameServerDrop (cfg : NsConfig) (ns : NameServer) : List Sent :=
  broadcastAll ns.publishers .intraMonitor 0#32 cfg.nsName
    { serviceName := cfg.nsName
      endpointName := cfg.mHostName
      hostName := cfg.mHostName
      domainName := cfg.mDomainName
      isLocal := false }

/-! ## §7. The machine. -/

/-- What the name server starts with: the tokens and addresses of its own service, the UDP ports
that these were bound with, and the host servers to connect to. -/
structure OnlineParams where
  tokens : List Token := []
  allocated : List CAllocatedAddress
  udpPort : Text → Int := fun _ => fdbInetPortInvalid
  exportableLevel : Int := fdbExportableDomain
  tcpSecure : Bool := false
  hostServerUrls : List Text := []

/-- The name server's own service: it belongs to no session, and all its addresses are bound. -/
def ownEntry (cfg : NsConfig) (params : OnlineParams) : CSvcRegistryEntry where
  mSid := fdbInvalidId
  mAddrTbl := bindNsAddress (fun url => some (params.udpPort url))
    (addServiceAddress [] params.allocated)
  mTokens := params.tokens
  mAllowTcpSecure := params.tcpSecure
  mAllowTcpNormal := true
  mExportableLevel := params.exportableLevel
  mEndpointName := cfg.mHostName
  mSvcName := cfg.nsName

/-- `online(params)`. -/
def NameServer.online (cfg : NsConfig) (params : OnlineParams) : NameServer :=
  params.hostServerUrls.foldl NameServer.connectToHostServer
    { mRegistryTbl := RegistryTbl.put ∅ cfg.nsName 0#32 (ownEntry cfg params) }

/-- What can happen. -/
inductive Event where
  | online (info : SessionInfo)
  | offline (session : SessionPtr)
  | request (session : SessionPtr) (req : Request)
  | subscribe (session : SessionPtr) (obj : FdbObjectId) (items : List CFdbMsgSubscribeItem)
  | hostConnected (url : Text) (connected : Bool)
  | hostOnline (allocated : Text → FdbInstanceId → List CAllocatedAddress) (bind : Text → Option Int)
  | exportedServices (url : Text) (svcAddressTbl : List FdbMsgAddressList)
  | serviceBroadcast (monitor : Bool) (code : FdbInstanceId) (peerIp : Text)
      (list : FdbMsgAddressList) (initial : Option (SessionPtr × FdbObjectId))
  | nameServerDrop

/-- A list from another name server answers a subscription only if that one was passed on: the
serial number of the list is looked up among what is pending on the session, of type
`FDB_MSG_TYPE_SUBSCRIBE`.  Neither the publisher that the list comes from nor the one that the
subscription was for is looked at. -/
def AnswersForwarded (ns : NameServer) (initial : Option (SessionPtr × FdbObjectId)) : Prop :=
  ∀ p ∈ initial, p ∈ ns.forwarded.map Prod.snd

instance (ns : NameServer) (initial : Option (SessionPtr × FdbObjectId)) :
    Decidable (AnswersForwarded ns initial) :=
  inferInstanceAs (Decidable (∀ p ∈ initial, _))

/-- One event; `none` if it cannot happen: a session that is not online sends nothing, nothing is
heard from a host server that there is no proxy for, and only a subscription that was passed on
is answered (`AnswersForwarded`). -/
def step (cfg : NsConfig) (ns : NameServer) : Event → Option NameServer
  | .online info =>
    some { ns with sessions := ns.sessions.insert ns.nextSid info, nextSid := ns.nextSid + 1 }
  | .offline session =>
    if ns.sessions[session]?.isSome then some (onOffline cfg ns session) else none
  | .request session req =>
    if ns.sessions[session]?.isSome then some (ns.handle cfg session req).1 else none
  | .subscribe session obj items =>
    ns.sessions[session]?.bind fun info => (SubscribeType.ofObject obj).map fun type =>
      onSubscribe cfg ns type session info obj items
  | .hostConnected url connected =>
    ns.mHostProxyTbl[url]?.map fun proxy =>
      { ns with mHostProxyTbl := ns.mHostProxyTbl.insert url { proxy with connected := connected } }
  | .hostOnline allocated bind => some (onHostOnline cfg ns allocated bind)
  | .exportedServices url svcAddressTbl =>
    ns.mHostProxyTbl[url]?.map fun proxy => exportSvcAddress cfg ns url proxy svcAddressTbl
  | .serviceBroadcast monitor code peerIp list initial =>
    if AnswersForwarded ns initial then
      some (ns.send (onServiceBroadcast cfg ns monitor code peerIp list initial))
    else none
  | .nameServerDrop => some (ns.send (notifyRemoteNameServerDrop cfg ns))

/-! ## §8. Who owns a service. -/

variable {inst : FdbInstanceId} {reg : RegistryTbl} {svcName : Text}

theorem searchInstance_some {group : FdbInstanceId} {count next k : Nat}
    (h : searchInstance reg svcName group count next = some k) :
    reg.findService svcName (fdbMergeEventCode group k) = [] ∧ next ≤ k ∧ k < next + count := by
  induction count generalizing next with
  | zero => cases h
  | succ count ih =>
    unfold searchInstance at h
    split at h
    · next hfree =>
        obtain rfl := some.inj h
        exact ⟨hfree, le_refl next, by omega⟩
    · obtain ⟨hfree, hle, hlt⟩ := ih h
      exact ⟨hfree, by omega, by omega⟩

/-- The instance of a new service is one, and it is free. -/
theorem allocateInstance_ok {ns : NameServer} {instanceId : FdbInstanceId} {allocator : Nat}
    (h : ns.allocateInstance svcName instanceId = (allocator, .ok inst)) :
    ns.mRegistryTbl.findService svcName inst = [] ∧ fdbIsGroup inst = false := by
  unfold NameServer.allocateInstance at h
  -- a group: whichever round found the instance
  have hfound : ∀ count next k, searchInstance ns.mRegistryTbl svcName instanceId count next = some k →
      next + count ≤ fdbAutoInstanceEnd + 1 ∨ count = 0 → fdbMergeEventCode instanceId k = inst →
      ns.mRegistryTbl.findService svcName inst = [] ∧ fdbIsGroup inst = false := by
    intro count next k hk hcount hinst
    obtain ⟨hfree, hle, hlt⟩ := searchInstance_some hk
    have hend : fdbAutoInstanceEnd = 0x00fffffe := rfl
    subst hinst
    exact ⟨hfree, fdbIsGroup_mergeEventCode instanceId (by omega)⟩
  split at h
  · split at h
    · next k hk =>
        cases h
        exact hfound _ _ k hk (by omega) rfl
    · split at h
      · next k hk =>
          cases h
          exact hfound _ _ k hk (by decide) rfl
      · cases h
  · next hgroup =>
      split at h
      · cases h
      · next hfree =>
          cases h
          exact ⟨not_not.mp hfree, Bool.eq_false_iff.mpr hgroup⟩

/-- Nothing is registered where nothing is found. -/
theorem get_of_findService_nil (h : reg.findService svcName inst = []) :
    reg.get svcName inst = none := by
  rw [eq_none_iff_forall_ne_some]
  intro entry hget
  have hmem := (mem_findService reg svcName inst ⟨svcName, inst, entry⟩).mpr
    ⟨.inr rfl, (instanceMatches_iff inst inst).mpr (.inl rfl), hget⟩
  rw [h] at hmem
  cases hmem

/-- The entry belongs to another session. -/
def Foreign (session : SessionPtr) (entry : CSvcRegistryEntry) : Prop :=
  entry.mSid ≠ fdbInvalidId ∧ entry.mSid ≠ session

instance (session : SessionPtr) (entry : CSvcRegistryEntry) : Decidable (Foreign session entry) :=
  inferInstanceAs (Decidable (_ ∧ _))

/-- The entries of other sessions are as they were. -/
def OthersUnchanged (session : SessionPtr) (before after : RegistryTbl) : Prop :=
  ∀ n i entry, before.get n i = some entry → Foreign session entry → after.get n i = some entry

/-- What a request touches belongs to another session: a report touches the first service that is
found for its name and instance, or, if it is empty, the service of just that name and
instance; giving a name back touches the latter. -/
def TouchesForeign (reg : RegistryTbl) (session : SessionPtr) : Request → Prop
  | .alloc _ _ _ => False
  | .register req _ =>
    fdbIsGroup req.instanceId = false
      ∧ ∃ m ∈ (reg.findService req.serviceName req.instanceId).head?,
        if req.addressList = [] then
          ∃ entry ∈ reg.get req.serviceName req.instanceId, Foreign session entry
        else Foreign session m.entry
  | .unregister svcName instanceId =>
    fdbIsGroup instanceId = false ∧ ∃ entry ∈ reg.get svcName instanceId, Foreign session entry

section Ownership

variable {session : SessionPtr} {reg : RegistryTbl} {n : Text} {i : FdbInstanceId}

theorem othersUnchanged_refl (session : SessionPtr) (reg : RegistryTbl) :
    OthersUnchanged session reg reg := fun _ _ _ hget _ => hget

theorem othersUnchanged_put_new {entry : CSvcRegistryEntry} (h : reg.get n i = none) :
    OthersUnchanged session reg (reg.put n i entry) := by
  intro n' i' e hget _
  rw [get_put, if_neg]
  · exact hget
  · rintro ⟨rfl, rfl⟩
    rw [h] at hget
    cases hget

theorem othersUnchanged_put_iff {old entry : CSvcRegistryEntry} (h : reg.get n i = some old)
    (hsid : entry.mSid = session) :
    OthersUnchanged session reg (reg.put n i entry) ↔ ¬ Foreign session old := by
  constructor
  · intro hall hforeign
    have hget := hall n i old h hforeign
    rw [get_put, if_pos ⟨rfl, rfl⟩, some.injEq] at hget
    exact hforeign.2 (hget ▸ hsid)
  · intro hown n' i' e hget hforeign
    rw [get_put, if_neg]
    · exact hget
    · rintro ⟨rfl, rfl⟩
      rw [h, some.injEq] at hget
      exact hown (hget ▸ hforeign)

theorem othersUnchanged_erase_iff :
    OthersUnchanged session reg (reg.eraseService n i)
      ↔ ¬ ∃ entry ∈ reg.get n i, Foreign session entry := by
  constructor
  · rintro hall ⟨entry, hget, hforeign⟩
    have hkept := hall n i entry hget hforeign
    rw [get_eraseService, if_pos ⟨rfl, rfl⟩] at hkept
    cases hkept
  · intro hown n' i' e hget hforeign
    rw [get_eraseService, if_neg]
    · exact hget
    · rintro ⟨rfl, rfl⟩
      exact hown ⟨e, hget, hforeign⟩

/-- A service that is found is registered. -/
theorem get_of_head_findService {svcName : Text} {inst : FdbInstanceId} {m : RegistryMatch}
    (h : (reg.findService svcName inst).head? = some m) : reg.get m.name m.inst = some m.entry :=
  ((mem_findService reg svcName inst m).mp (List.mem_of_head? h)).2.2

end Ownership

section Registry

variable (cfg : NsConfig) (ns : NameServer) (session : SessionPtr)

/-- Asking for addresses changes nothing or enters a new service. -/
theorem registry_alloc (req : FdbMsgServerName) (allocated : List CAllocatedAddress)
    (tokens : List Token) :
    (onAllocServiceAddressReq cfg ns session req allocated tokens).1.mRegistryTbl = ns.mRegistryTbl
      ∨ ∃ inst, fdbIsGroup inst = false ∧ ns.mRegistryTbl.findService req.name inst = []
        ∧ (onAllocServiceAddressReq cfg ns session req allocated tokens).1.mRegistryTbl
          = ns.mRegistryTbl.put req.name inst { newEntry session req inst tokens with
              mAddrTbl := addServiceAddress [] allocated } := by
  unfold onAllocServiceAddressReq
  split
  · exact .inl rfl
  · next allocator inst h =>
      obtain ⟨hfree, hgroup⟩ := allocateInstance_ok h
      exact .inr ⟨inst, hgroup, hfree, rfl⟩

/-- A report changes the service that is found for it, or erases the one it names. -/
theorem registry_register (req : FdbMsgAddrBindResults)
    (realloc : CFdbAddressDesc → Option CAllocatedAddress) :
    (onRegisterServiceReq cfg ns session req realloc).1.mRegistryTbl
      = if fdbIsGroup req.instanceId then ns.mRegistryTbl
        else
          match (ns.mRegistryTbl.findService req.serviceName req.instanceId).head? with
          | none => ns.mRegistryTbl
          | some m =>
            if req.addressList = [] then
              ns.mRegistryTbl.eraseService req.serviceName req.instanceId
            else ns.mRegistryTbl.put m.name m.inst
              (registeredEntry session m.entry
                (bindAddresses cfg realloc m.entry req.addressList)) := by
  unfold onRegisterServiceReq
  split
  · rfl
  · cases (ns.mRegistryTbl.findService req.serviceName req.instanceId).head? with
    | none => rfl
    | some m =>
      by_cases hempty : req.addressList = []
      · simp only [if_pos hempty]
      · simp only [if_neg hempty]
        split
        · rfl
        · unfold connectIfHostServer NameServer.connectToHostServer
          split_ifs <;> rfl

theorem registry_removeService (svcName : Text) (instanceId : FdbInstanceId) :
    (removeService cfg ns svcName instanceId).1.mRegistryTbl
      = if ns.mRegistryTbl.findService svcName instanceId = [] then ns.mRegistryTbl
        else ns.mRegistryTbl.eraseService svcName instanceId := by
  unfold removeService
  cases h : ns.mRegistryTbl.findService svcName instanceId with
  | nil => rfl
  | cons m ms => rfl

end Registry

/-- **Ownership.**  A request leaves every service of another session as it is, exactly if what
it touches does not belong to another session. -/
theorem ownership_iff (cfg : NsConfig) (ns : NameServer) (session : SessionPtr) (req : Request) :
    OthersUnchanged session ns.mRegistryTbl (ns.handle cfg session req).1.mRegistryTbl
      ↔ ¬ TouchesForeign ns.mRegistryTbl session req := by
  cases req with
  | alloc req allocated tokens =>
    refine iff_of_true ?_ id
    show OthersUnchanged session _
      (onAllocServiceAddressReq cfg ns session req allocated tokens).1.mRegistryTbl
    rcases registry_alloc cfg ns session req allocated tokens with h | ⟨inst, -, hfree, h⟩
    · rw [h]
      exact othersUnchanged_refl session _
    · rw [h]
      exact othersUnchanged_put_new (get_of_findService_nil hfree)
  | register req realloc =>
    show OthersUnchanged session _ (onRegisterServiceReq cfg ns session req realloc).1.mRegistryTbl
      ↔ ¬ (_ ∧ _)
    rw [registry_register]
    cases hgroup : fdbIsGroup req.instanceId with
    | true => simp [othersUnchanged_refl]
    | false =>
      cases hfind : (ns.mRegistryTbl.findService req.serviceName req.instanceId).head? with
      | none => simp [othersUnchanged_refl]
      | some m =>
        simp only [Bool.false_eq_true, if_false, true_and, mem_def, some.injEq,
          exists_eq_left']
        by_cases hempty : req.addressList = []
        · simp only [if_pos hempty]
          exact othersUnchanged_erase_iff
        · simp only [if_neg hempty]
          exact othersUnchanged_put_iff (get_of_head_findService hfind) rfl
  | unregister svcName instanceId =>
    show OthersUnchanged session _ (onUnegisterServiceReq cfg ns svcName instanceId).1.mRegistryTbl
      ↔ ¬ (_ ∧ _)
    unfold onUnegisterServiceReq
    cases hgroup : fdbIsGroup instanceId with
    | true => simp [othersUnchanged_refl]
    | false =>
      simp only [Bool.false_eq_true, if_false, true_and]
      rw [registry_removeService]
      by_cases hfind : ns.mRegistryTbl.findService svcName instanceId = []
      · rw [if_pos hfind, get_of_findService_nil hfind]
        simp [othersUnchanged_refl]
      · rw [if_neg hfind]
        exact othersUnchanged_erase_iff

/-- Session 1 owns service "a". -/
def ownedService : NameServer where
  mRegistryTbl := RegistryTbl.put ∅ [97] 0#32
    { mSid := 1, mAddrTbl := [ipcDesc], mSvcName := [97] }

/-- A server on session 2 that was refused the name gives it back: the service of session 1 is
gone. -/
theorem refused_server_unregisters_owner :
    (ownedService.handle plainConfig 2 (.alloc { name := [97] } [] [])).2 = .status .alreadyExist
      ∧ (ownedService.handle plainConfig 2 (.alloc { name := [97] } [] [])).1.mRegistryTbl.get [97]
          0#32 = some { mSid := 1, mAddrTbl := [ipcDesc], mSvcName := [97] }
      ∧ (ownedService.handle plainConfig 2 (.unregister [97] 0#32)).1.mRegistryTbl.get [97] 0#32
        = none := by
  refine ⟨?_, ?_, ?_⟩
  · decide +kernel
  · decide +kernel
  · decide +kernel

end Fdbus.Server

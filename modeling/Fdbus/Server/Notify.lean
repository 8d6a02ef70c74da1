/-
  Fdbus.Server.Notify — which addresses of a service a subscriber is told.

  A subscriber learns the addresses of a service in one of two ways.  When the service comes
  online, `prepareAddressesToNotify` makes one list for the local subscribers, one for the
  remote ones and one for the monitors.  When the service is online and somebody subscribes it,
  `broadServiceAddress` makes a list for this subscriber.  The two choose the addresses by
  different rules.

    * `onlineList` and `subscribeList` are what a session is sent on either way,
    * `mem_localAddresses`, `mem_chooseAddresses` — which addresses they hold, as a condition on
      the address,
    * `early_late_agree_iff` — exactly when the two ways agree.
-/
import Fdbus.Server.Registry

namespace Fdbus.Server

open Fdbus.Security Fdbus.Subscribe List Option

/-! ## §1. The name server's configuration and its sessions. -/

/-- `SubscribeType`: the publishers that a client subscribes to. -/
inductive SubscribeType where
  | intraNormal
  | intraMonitor
  | interNormal
  | interMonitor
  | moreAddress
  deriving Repr, DecidableEq

/-- What does not change while the name server runs.  `securityLevel` is
`CServerSecurityConfig::getSecurityLevel(svc_name, uid)`, and `parseUrl` the parser of
`CBaseSocketFactory`. -/
structure NsConfig where
  nsName : Text
  hostServerName : Text
  pid : Int
  mHostName : Text
  mDomainName : Text
  mMaxDomainExportableLevel : Int
  addressBindRetryCnt : Int
  securityLevel : Text → Nat → Int
  parseUrl : Text → Option CFdbSocketAddr

/-- What the name server asks of a session: the type of its socket, the user at the other end,
and `securityLevel()`. -/
structure SessionInfo where
  socketType : EFdbSocketType
  uid : Nat
  securityLevel : Int
  deriving DecidableEq

/-- `setServiceInfo(addr_list, registry, is_local, pid)`. -/
def setServiceInfo (cfg : NsConfig) (entry : CSvcRegistryEntry) (isLocal : Bool) (pid : Int)
    (list : FdbMsgAddressList) : FdbMsgAddressList :=
  { list with
    serviceName := entry.mSvcName
    endpointName := entry.mEndpointName
    hostName := cfg.mHostName
    domainName := cfg.mDomainName
    isLocal := isLocal
    pid := pid
    instanceId := entry.mInstanceId }

/-- The list as `broadcastSvcAddrLocal` sends it to a session. -/
def forLocal (cfg : NsConfig) (tokens : List Token) (session : SessionInfo)
    (list : FdbMsgAddressList) : FdbMsgAddressList :=
  allocateUDPPortForClients
    (list.populateTokensLocal tokens (cfg.securityLevel list.serviceName session.uid))

/-- The list as `broadcastSvcAddrRemote` sends it to a session. -/
def forRemote (tokens : List Token) (session : SessionInfo) (list : FdbMsgAddressList) :
    FdbMsgAddressList :=
  list.populateTokensRemote tokens session.securityLevel

/-- The list as a session is sent it by one of the publishers: local and remote clients get
tokens, monitors get none. -/
def dress (cfg : NsConfig) (tokens : List Token) (type : SubscribeType) (session : SessionInfo)
    (list : FdbMsgAddressList) : FdbMsgAddressList :=
  match type with
  | .intraNormal => forLocal cfg tokens session list
  | .interNormal => forRemote tokens session list
  | _ => list

/-! ## §2. When a service comes online. -/

/-- The address of an all-interface descriptor, moved to the local host. -/
def CFdbAddressDesc.onLocalHost (desc : CFdbAddressDesc) : CFdbAddressDesc :=
  { desc with mAddress := { desc.mAddress with mAddr := fdbLocalHost }.buildUrl }

/-- What `prepareAddressesToNotify` gives back. -/
structure AddressesToNotify where
  bestLocalUrl : Text
  localAddrList : FdbMsgAddressList
  remoteTcpAddrList : FdbMsgAddressList
  allAddrList : FdbMsgAddressList

section Prepare

variable (addrTbl : List CFdbAddressDesc)

/-- `best_local_ipc`: the last IPC address. -/
def bestLocalIpc : Option CFdbAddressDesc :=
  (addrTbl.filter fun desc => desc.mAddress.mType = .ipc).getLast?

/-- `best_local_host_tcp`. -/
def bestLocalHostTcp : List CFdbAddressDesc :=
  addrTbl.filter fun desc => desc.mAddress.mType ≠ .ipc ∧ desc.mAddress.mAddr = fdbLocalHost

/-- The addresses that are neither IPC nor on the local host. -/
def remoteTcp : List CFdbAddressDesc :=
  addrTbl.filter fun desc => desc.mAddress.mType ≠ .ipc ∧ desc.mAddress.mAddr ≠ fdbLocalHost

/-- `best_all_interface_tcp`, each moved to the local host. -/
def bestAllInterfaceTcp : List CFdbAddressDesc :=
  ((remoteTcp addrTbl).filter fun desc => desc.mAddress.mAddr = fdbIpAllInterface).map
    CFdbAddressDesc.onLocalHost

/-- The addresses for the local subscribers. -/
def localAddresses : List FdbMsgAddressItem :=
  match bestLocalIpc addrTbl with
  | some desc => prepareAddress fdbExportableNodeInternal desc
  | none =>
    if bestLocalHostTcp addrTbl ≠ [] then
      (bestLocalHostTcp addrTbl).flatMap (prepareAddress fdbExportableNodeInternal)
    else (bestAllInterfaceTcp addrTbl).flatMap (prepareAddress fdbExportableDomain)

/-- The URL of the last secure (or not secure) one of some descriptors. -/
def lastUrl (secure : Bool) (descs : List CFdbAddressDesc) : Text :=
  (descs.filter fun desc => desc.mAddress.mSecure = secure).getLast?.elim [] fun desc =>
    desc.mAddress.mUrl

/-- The URL of the first secure (or not secure) one of some descriptors whose URL is not
empty. -/
def firstUrl (secure : Bool) (descs : List CFdbAddressDesc) : Text :=
  (descs.find? fun desc => desc.mAddress.mSecure = secure ∧ desc.mAddress.mUrl ≠ []).elim []
    fun desc => desc.mAddress.mUrl

/-- `best_local_url`: the IPC one, else a secure one, else another. -/
def bestLocalUrl : Text :=
  let ipcUrl := (bestLocalIpc addrTbl).elim [] fun desc => desc.mAddress.mUrl
  let tcpUrl (secure : Bool) : Text :=
    if (bestLocalIpc addrTbl).isSome then []
    else if bestLocalHostTcp addrTbl ≠ [] then lastUrl secure (bestLocalHostTcp addrTbl)
    else firstUrl secure (bestAllInterfaceTcp addrTbl)
  if ipcUrl ≠ [] then ipcUrl
  else if tcpUrl true ≠ [] then tcpUrl true
  else tcpUrl false

end Prepare

/-- `prepareAddressesToNotify(..)`. -/
def prepareAddressesToNotify (cfg : NsConfig) (entry : CSvcRegistryEntry) : AddressesToNotify where
  bestLocalUrl := bestLocalUrl entry.mAddrTbl
  localAddrList := setServiceInfo cfg entry true 0 { addressList := localAddresses entry.mAddrTbl }
  remoteTcpAddrList := setServiceInfo cfg entry false 0
    { addressList :=
        (remoteTcp entry.mAddrTbl).flatMap (prepareAddress cfg.mMaxDomainExportableLevel) }
  allAddrList := (setServiceInfo cfg entry true 0
    { addressList := entry.mAddrTbl.flatMap (prepareAddress fdbExportableAny) }).clearTokens

/-- A list without addresses is not sent. -/
def unlessEmpty (list : FdbMsgAddressList) : Option FdbMsgAddressList :=
  if list.addressList = [] then none else some list

/-- The list for the subscribers of a publisher when the service comes online. -/
def onlineAddress (cfg : NsConfig) (entry : CSvcRegistryEntry) (type : SubscribeType) :
    Option FdbMsgAddressList :=
  let lists := prepareAddressesToNotify cfg entry
  match type with
  | .intraNormal => unlessEmpty lists.localAddrList
  | .interNormal => unlessEmpty lists.remoteTcpAddrList
  | .intraMonitor => unlessEmpty { lists.allAddrList with isLocal := true }
  | .interMonitor => unlessEmpty { lists.allAddrList with isLocal := false }
  | .moreAddress => none

/-- What a session is sent when the service comes online. -/
def onlineList (cfg : NsConfig) (entry : CSvcRegistryEntry) (type : SubscribeType)
    (session : SessionInfo) : Option FdbMsgAddressList :=
  (onlineAddress cfg entry type).map (dress cfg entry.mTokens type session)

/-! ## §3. When a service is subscribed. -/

/-- `hasPendingAddress(reg_entry)`. -/
def hasPendingAddress (entry : CSvcRegistryEntry) : Bool :=
  entry.mAddrTbl.any fun desc => desc.mStatus = .pending

/-- The addresses that `broadServiceAddress` chooses for a socket type and a level: IPC falls
back to TCP. -/
def chooseAddresses (addrTbl : List CFdbAddressDesc) (type : EFdbSocketType)
    (maxExportedLevel maxDomain : Int) : List FdbMsgAddressItem :=
  let items := populateAddrList addrTbl type maxExportedLevel
  if type = .ipc ∧ items = [] then populateAddrList addrTbl .tcp maxDomain else items

/-- The list that `broadServiceAddress(reg_entry, msg, subscribe_type)` makes, unless it returns
without sending anything. -/
def serviceAddress (cfg : NsConfig) (entry : CSvcRegistryEntry) (type : SubscribeType)
    (session : SessionInfo) : Option FdbMsgAddressList :=
  if type = .interNormal ∧ entry.mSvcName = cfg.nsName then none
  else if hasPendingAddress entry then none
  else
    let items :=
      match type with
      | .intraMonitor | .interMonitor =>
        chooseAddresses entry.mAddrTbl .max fdbExportableAny cfg.mMaxDomainExportableLevel
      | .intraNormal =>
        chooseAddresses entry.mAddrTbl session.socketType fdbExportableNodeInternal
          cfg.mMaxDomainExportableLevel
      | _ =>
        chooseAddresses entry.mAddrTbl session.socketType cfg.mMaxDomainExportableLevel
          cfg.mMaxDomainExportableLevel
    unlessEmpty (setServiceInfo cfg entry (type ≠ .interNormal ∧ type ≠ .interMonitor) 0
      { addressList := items })

/-- What a session is sent by `broadServiceAddress`. -/
def subscribeList (cfg : NsConfig) (entry : CSvcRegistryEntry) (type : SubscribeType)
    (session : SessionInfo) : Option FdbMsgAddressList :=
  (serviceAddress cfg entry type session).map (dress cfg entry.mTokens type session)

/-! ## §4. What a subscriber sees of an address. -/

/-- An address without its UDP port. -/
structure AddressView where
  address : CFdbSocketAddr
  exportableLevel : Int
  interfaceId : Int
  deriving DecidableEq

def FdbMsgAddressItem.view (item : FdbMsgAddressItem) : AddressView :=
  ⟨item.address, item.exportableLevel, item.interfaceId⟩

def CFdbAddressDesc.view (desc : CFdbAddressDesc) : AddressView :=
  ⟨desc.mAddress, desc.mExportableLevel, desc.mInterfaceId⟩

/-- The addresses of a service. -/
def CSvcRegistryEntry.views (entry : CSvcRegistryEntry) : List AddressView :=
  entry.mAddrTbl.map CFdbAddressDesc.view

/-- The addresses of a list that may have been sent. -/
def addressesOf (list : Option FdbMsgAddressList) : List AddressView :=
  (list.elim [] (·.addressList)).map FdbMsgAddressItem.view

/-- The tokens of a list that may have been sent. -/
def tokensOf (list : Option FdbMsgAddressList) : List Token := list.elim [] (·.dumpTokens)

namespace AddressView

variable (a : AddressView)

def IsIpc : Prop := a.address.mType = .ipc

def IsTcp : Prop := a.address.mType = .tcp

/-- The address may be exported to this level. -/
def Exportable (level : Int) : Prop := checkExportable a.exportableLevel level = true

/-- The address is on the local host, but not IPC. -/
def OnLocalHost : Prop := ¬ a.IsIpc ∧ a.address.mAddr = fdbLocalHost

/-- The address is neither IPC nor on the local host. -/
def Remote : Prop := ¬ a.IsIpc ∧ a.address.mAddr ≠ fdbLocalHost

/-- The address is for all interfaces. -/
def AllInterfaces : Prop := ¬ a.IsIpc ∧ a.address.mAddr = fdbIpAllInterface

instance : Decidable a.IsIpc := inferInstanceAs (Decidable (_ = _))
instance : Decidable a.IsTcp := inferInstanceAs (Decidable (_ = _))
instance (level : Int) : Decidable (a.Exportable level) := inferInstanceAs (Decidable (_ = _))
instance : Decidable a.OnLocalHost := inferInstanceAs (Decidable (_ ∧ _))
instance : Decidable a.Remote := inferInstanceAs (Decidable (_ ∧ _))
instance : Decidable a.AllInterfaces := inferInstanceAs (Decidable (_ ∧ _))

/-- The address moved to the local host. -/
def onLocalHost : AddressView :=
  { a with address := { a.address with mAddr := fdbLocalHost }.buildUrl }

end AddressView

/-- The last IPC address. -/
def lastIpc (views : List AddressView) : Option AddressView :=
  (views.filter fun a => a.IsIpc).getLast?

theorem lastIpc_spec {views : List AddressView} {b : AddressView} (h : lastIpc views = some b) :
    b ∈ views ∧ b.IsIpc := by
  obtain ⟨hmem, hipc⟩ := mem_filter.mp (mem_of_getLast? h)
  exact ⟨hmem, of_decide_eq_true hipc⟩

theorem lastIpc_none {views : List AddressView} (h : lastIpc views = none) :
    ∀ a ∈ views, ¬ a.IsIpc := by
  intro a ha hipc
  have hnil : views.filter (fun a => a.IsIpc) = [] := getLast?_eq_none_iff.mp h
  have hmem : a ∈ views.filter fun a => a.IsIpc :=
    mem_filter.mpr ⟨ha, decide_eq_true hipc⟩
  rw [hnil] at hmem
  cases hmem

/-! ## §5. The two ways, as conditions on an address. -/

variable (level : Int) (entry : CSvcRegistryEntry) (a : AddressView)

open FdbMsgAddressItem

theorem mem_view_prepareAddress (desc : CFdbAddressDesc) (a : AddressView) :
    a ∈ (prepareAddress level desc).map view
      ↔ desc.view = a ∧ desc.view.Exportable level := by
  rw [List.mem_map]
  constructor
  · rintro ⟨item, hitem, rfl⟩
    obtain ⟨hexp, rfl⟩ := mem_prepareAddress.mp hitem
    exact ⟨rfl, hexp⟩
  · rintro ⟨rfl, hexp⟩
    exact ⟨_, mem_prepareAddress.mpr ⟨hexp, rfl⟩, rfl⟩

/-- The addresses of some descriptors that may be exported. -/
theorem mem_view_flatMap_prepareAddress (descs : List CFdbAddressDesc) (a : AddressView) :
    a ∈ (descs.flatMap (prepareAddress level)).map view
      ↔ a ∈ descs.map CFdbAddressDesc.view ∧ a.Exportable level := by
  rw [List.map_flatMap, List.mem_flatMap, List.mem_map]
  constructor
  · rintro ⟨desc, hmem, ha⟩
    obtain ⟨rfl, hexp⟩ := (mem_view_prepareAddress level desc a).mp ha
    exact ⟨⟨desc, hmem, rfl⟩, hexp⟩
  · rintro ⟨⟨desc, hmem, rfl⟩, hexp⟩
    exact ⟨desc, hmem, (mem_view_prepareAddress level desc _).mpr ⟨rfl, hexp⟩⟩

/-- The views of the descriptors that satisfy a condition on their view. -/
theorem mem_map_view_filter (addrTbl : List CFdbAddressDesc) (p : AddressView → Prop)
    [DecidablePred p] (a : AddressView) :
    a ∈ (addrTbl.filter fun desc => p desc.view).map CFdbAddressDesc.view
      ↔ a ∈ addrTbl.map CFdbAddressDesc.view ∧ p a := by
  simp only [List.mem_map, List.mem_filter, decide_eq_true_eq]
  constructor
  · rintro ⟨desc, ⟨hmem, hp⟩, rfl⟩
    exact ⟨⟨desc, hmem, rfl⟩, hp⟩
  · rintro ⟨⟨desc, hmem, rfl⟩, hp⟩
    exact ⟨desc, ⟨hmem, hp⟩, rfl⟩

theorem bestLocalIpc_view :
    (bestLocalIpc entry.mAddrTbl).map CFdbAddressDesc.view = lastIpc entry.views := by
  unfold bestLocalIpc lastIpc CSvcRegistryEntry.views
  rw [List.filter_map, List.getLast?_map]
  rfl

theorem mem_bestLocalHostTcp :
    a ∈ (bestLocalHostTcp entry.mAddrTbl).map CFdbAddressDesc.view
      ↔ a ∈ entry.views ∧ a.OnLocalHost :=
  mem_map_view_filter entry.mAddrTbl AddressView.OnLocalHost a

theorem mem_remoteTcp :
    a ∈ (remoteTcp entry.mAddrTbl).map CFdbAddressDesc.view ↔ a ∈ entry.views ∧ a.Remote :=
  mem_map_view_filter entry.mAddrTbl AddressView.Remote a

theorem mem_bestAllInterfaceTcp :
    a ∈ (bestAllInterfaceTcp entry.mAddrTbl).map CFdbAddressDesc.view
      ↔ ∃ b ∈ entry.views, b.AllInterfaces ∧ b.onLocalHost = a := by
  unfold bestAllInterfaceTcp
  simp only [List.map_map, List.mem_map, Function.comp, List.mem_filter, decide_eq_true_eq]
  constructor
  · rintro ⟨desc, ⟨hremote, haddr⟩, rfl⟩
    obtain ⟨hmem, hne⟩ := mem_filter.mp hremote
    exact ⟨desc.view, mem_map_of_mem hmem, ⟨(of_decide_eq_true hne).1, haddr⟩, rfl⟩
  · rintro ⟨b, hb, hall, rfl⟩
    obtain ⟨desc, hmem, rfl⟩ := mem_map.mp hb
    refine ⟨desc, ⟨mem_filter.mpr ⟨hmem, decide_eq_true ⟨hall.1, ?_⟩⟩, hall.2⟩, rfl⟩
    intro hlocal
    exact absurd (hall.2.symm.trans hlocal) (by decide)

/-- What the local subscribers are told when the service comes online. -/
theorem mem_localAddresses :
    a ∈ (localAddresses entry.mAddrTbl).map view
      ↔ match lastIpc entry.views with
        | some b => b = a ∧ b.Exportable fdbExportableNodeInternal
        | none =>
          if ∃ c ∈ entry.views, c.OnLocalHost then
            a ∈ entry.views ∧ a.OnLocalHost ∧ a.Exportable fdbExportableNodeInternal
          else ∃ b ∈ entry.views, b.AllInterfaces ∧ b.Exportable fdbExportableDomain
            ∧ b.onLocalHost = a := by
  unfold localAddresses
  rw [← bestLocalIpc_view]
  cases bestLocalIpc entry.mAddrTbl with
  | some desc => exact mem_view_prepareAddress _ desc a
  | none =>
    have hsome : bestLocalHostTcp entry.mAddrTbl ≠ [] ↔ ∃ c ∈ entry.views, c.OnLocalHost := by
      rw [Ne, ← map_eq_nil_iff (f := CFdbAddressDesc.view), eq_nil_iff_forall_not_mem]
      simp only [mem_bestLocalHostTcp, not_forall, not_not]
    simp only [map_none]
    by_cases hlocal : bestLocalHostTcp entry.mAddrTbl ≠ []
    · rw [if_pos hlocal, if_pos (hsome.mp hlocal), mem_view_flatMap_prepareAddress,
        mem_bestLocalHostTcp, and_assoc]
    · rw [if_neg hlocal, if_neg fun h => hlocal (hsome.mpr h), mem_view_flatMap_prepareAddress,
        mem_bestAllInterfaceTcp]
      constructor
      · rintro ⟨⟨b, hb, hall, rfl⟩, hexp⟩
        exact ⟨b, hb, hall, hexp, rfl⟩
      · rintro ⟨b, hb, hall, hexp, rfl⟩
        exact ⟨⟨b, hb, hall, rfl⟩, hexp⟩

/-- The address is one for a socket: one on IPC falls back to TCP. -/
def Chosen (views : List AddressView) (type : EFdbSocketType) (level maxDomain : Int)
    (a : AddressView) : Prop :=
  if type = .ipc ∧ ∀ b ∈ views, b.IsIpc → ¬ b.Exportable level then
    a.IsTcp ∧ a.Exportable maxDomain
  else a.address.mType = type ∧ a.Exportable level

section

variable {entry : CSvcRegistryEntry} (hbound : ∀ desc ∈ entry.mAddrTbl, desc.mStatus = .bound)
  {type : EFdbSocketType} (htype : type ≠ .max)

include hbound htype

/-- The addresses of a bound service that `populateAddrList` takes. -/
theorem mem_view_populateAddrList (level : Int) (a : AddressView) :
    a ∈ (populateAddrList entry.mAddrTbl type level).map view
      ↔ a ∈ entry.views ∧ a.address.mType = type ∧ a.Exportable level := by
  unfold CSvcRegistryEntry.views
  simp only [List.mem_map]
  constructor
  · rintro ⟨item, hitem, rfl⟩
    obtain ⟨desc, hmem, htypes, -, hexp, rfl⟩ := mem_populateAddrList.mp hitem
    exact ⟨⟨desc, hmem, rfl⟩, (htypes.resolve_left htype).symm, hexp⟩
  · rintro ⟨⟨desc, hmem, rfl⟩, rfl, hexp⟩
    exact ⟨_, mem_populateAddrList.mpr ⟨desc, hmem, .inr rfl, hbound desc hmem, hexp, rfl⟩, rfl⟩

/-- The addresses that are chosen for a socket of a bound service. -/
theorem mem_chooseAddresses (level maxDomain : Int) (a : AddressView) :
    a ∈ (chooseAddresses entry.mAddrTbl type level maxDomain).map view
      ↔ a ∈ entry.views ∧ Chosen entry.views type level maxDomain a := by
  unfold chooseAddresses Chosen
  have hempty : (type = .ipc ∧ populateAddrList entry.mAddrTbl type level = [])
      ↔ type = .ipc ∧ ∀ b ∈ entry.views, b.IsIpc → ¬ b.Exportable level := by
    refine and_congr_right fun hipc => ?_
    rw [← map_eq_nil_iff (f := view), eq_nil_iff_forall_not_mem]
    simp only [mem_view_populateAddrList hbound htype, not_and]
    rw [hipc]
    rfl
  by_cases hfall : type = .ipc ∧ populateAddrList entry.mAddrTbl type level = []
  · simp only [if_pos hfall, if_pos (hempty.mp hfall)]
    exact mem_view_populateAddrList hbound (by decide) maxDomain a
  · simp only [if_neg hfall, if_neg fun h => hfall (hempty.mpr h)]
    exact mem_view_populateAddrList hbound htype level a

end

/-! ## §6. Early and late subscribers. -/

/-- The addresses and the tokens are the same. -/
def Agree (early late : Option FdbMsgAddressList) : Prop :=
  (∀ a, a ∈ addressesOf early ↔ a ∈ addressesOf late) ∧ tokensOf early = tokensOf late

/-- The security level that decides on the tokens of a session. -/
def levelFor (cfg : NsConfig) (svcName : Text) (type : SubscribeType) (session : SessionInfo) : Int :=
  if type = .intraNormal then cfg.securityLevel svcName session.uid else session.securityLevel

/-- When the two ways agree for local subscribers on a socket of this type.  If there is an IPC
address the last one is told early; a late subscriber on IPC is told all that may be exported
inside the node.  If there is none, early subscribers are told the addresses on the local host,
or else those of all interfaces, moved there; late ones are told TCP addresses. -/
def AgreesLocally (maxDomain : Int) (views : List AddressView) (socket : EFdbSocketType) : Prop :=
  let lateLevel := if socket = .ipc then maxDomain else fdbExportableNodeInternal
  match lastIpc views with
  | some b =>
    if b.Exportable fdbExportableNodeInternal then
      socket = .ipc ∧ ∀ a ∈ views, a.IsIpc → a.Exportable fdbExportableNodeInternal → a = b
    else
      ∀ a ∈ views, ¬ (a.IsTcp ∧ a.Exportable lateLevel)
        ∧ ¬ (socket = .ipc ∧ a.IsIpc ∧ a.Exportable fdbExportableNodeInternal)
  | none =>
    if ∃ c ∈ views, c.OnLocalHost then
      ∀ a ∈ views, a.OnLocalHost ∧ a.Exportable fdbExportableNodeInternal
        ↔ a.IsTcp ∧ a.Exportable lateLevel
    else
      ∀ a ∈ views, ¬ (a.AllInterfaces ∧ a.Exportable fdbExportableDomain)
        ∧ ¬ (a.IsTcp ∧ a.Exportable lateLevel)

/-- When the two ways agree for remote subscribers: early ones are told every address that is
neither IPC nor on the local host, late ones are told TCP addresses, or IPC ones if they are on
IPC; the name server's own addresses are not told late. -/
def AgreesRemotely (maxDomain : Int) (views : List AddressView) (isNs : Prop) [Decidable isNs]
    (socket : EFdbSocketType) : Prop :=
  if isNs then ∀ a ∈ views, ¬ (a.Remote ∧ a.Exportable maxDomain)
  else ∀ a ∈ views, a.Exportable maxDomain → (a.Remote ↔ a.IsTcp) ∧ ¬ (socket = .ipc ∧ a.IsIpc)

/-- When the two ways agree. -/
def Agrees (cfg : NsConfig) (entry : CSvcRegistryEntry) (type : SubscribeType)
    (socket : EFdbSocketType) : Prop :=
  if type = .intraNormal then AgreesLocally cfg.mMaxDomainExportableLevel entry.views socket
  else AgreesRemotely cfg.mMaxDomainExportableLevel entry.views (entry.mSvcName = cfg.nsName) socket

section Agreement

variable {cfg : NsConfig} {entry : CSvcRegistryEntry}

theorem addressesOf_unlessEmpty (list : FdbMsgAddressList) :
    addressesOf (unlessEmpty list) = list.addressList.map view := by
  unfold unlessEmpty
  split
  · next h =>
      rw [h]
      rfl
  · rfl

variable {socket : EFdbSocketType} {l : FdbMsgAddressList} {q : SessionInfo}

theorem unlessEmpty_some {list : FdbMsgAddressList} (h : unlessEmpty list = some l) :
    l = list ∧ l.addressList ≠ [] := by
  unfold unlessEmpty at h
  split at h
  · cases h
  · next hne =>
      cases h
      exact ⟨rfl, hne⟩

/-- Neither tokens nor a UDP port for the client change the addresses that it sees. -/
theorem addressesOf_dress (tokens : List Token) (type : SubscribeType) (p : SessionInfo)
    (o : Option FdbMsgAddressList) :
    addressesOf (o.map (dress cfg tokens type p)) = addressesOf o := by
  have hudp : ∀ list : FdbMsgAddressList,
      (allocateUDPPortForClients list).addressList.map view
        = list.addressList.map view := by
    intro list
    unfold allocateUDPPortForClients
    rw [List.map_map]
    refine map_congr_left fun item _ => ?_
    rw [Function.comp_apply]
    split <;> rfl
  cases o with
  | none => rfl
  | some list =>
    cases type with
    | intraNormal => exact hudp _
    | _ => rfl

/-- The tokens for a level. -/
def tokensFor (type : SubscribeType) (tokens : List Token) (level : Int) : List Token :=
  if type = .intraNormal then tokensLocal tokens level else tokensRemote tokens level

variable {type : SubscribeType}

theorem tokensOf_dress (htype : type = .intraNormal ∨ type = .interNormal)
    (tokens : List Token) (p : SessionInfo) (list : FdbMsgAddressList) :
    tokensOf (some (dress cfg tokens type p list))
      = tokensFor type tokens (levelFor cfg list.serviceName type p) := by
  rcases htype with rfl | rfl
  · rfl
  · rfl

/-- For sessions of the same level the tokens agree if the addresses do: whoever is sent
addresses is sent tokens, and nobody else. -/
theorem agree_iff (htype : type = .intraNormal ∨ type = .interNormal)
    {o₁ o₂ : Option FdbMsgAddressList} {svcName : Text}
    (h₁ : ∀ l, o₁ = some l → l.addressList ≠ [] ∧ l.serviceName = svcName)
    (h₂ : ∀ l, o₂ = some l → l.addressList ≠ [] ∧ l.serviceName = svcName) (tokens : List Token)
    {p : SessionInfo} (hlevel : levelFor cfg svcName type p = levelFor cfg svcName type q) :
    Agree (o₁.map (dress cfg tokens type p)) (o₂.map (dress cfg tokens type q))
      ↔ ∀ a, a ∈ addressesOf o₁ ↔ a ∈ addressesOf o₂ := by
  unfold Agree
  rw [addressesOf_dress, addressesOf_dress]
  refine and_iff_left_of_imp fun hsame => ?_
  have hempty : ∀ l : FdbMsgAddressList, l.addressList ≠ [] →
      ∃ a, a ∈ addressesOf (some l) := by
    intro l hne
    obtain ⟨item, hitem⟩ := exists_mem_of_ne_nil _ hne
    exact ⟨item.view, mem_map_of_mem hitem⟩
  cases o₁ with
  | none =>
    cases o₂ with
    | none => rfl
    | some l =>
      obtain ⟨a, ha⟩ := hempty l (h₂ l rfl).1
      exact absurd ((hsame a).mpr ha) not_mem_nil
  | some l₁ =>
    cases o₂ with
    | none =>
      obtain ⟨a, ha⟩ := hempty l₁ (h₁ l₁ rfl).1
      exact absurd ((hsame a).mp ha) not_mem_nil
    | some l₂ =>
      rw [map_some, map_some, tokensOf_dress htype, tokensOf_dress htype,
        (h₁ l₁ rfl).2, (h₂ l₂ rfl).2, hlevel]

theorem onlineAddress_some (h : onlineAddress cfg entry type = some l) :
    l.addressList ≠ [] ∧ l.serviceName = entry.mSvcName ∧ l.instanceId = entry.mInstanceId := by
  cases type with
  | moreAddress => cases h
  | _ =>
    obtain ⟨rfl, hne⟩ := unlessEmpty_some h
    exact ⟨hne, rfl, rfl⟩

theorem serviceAddress_some (h : serviceAddress cfg entry type q = some l) :
    l.addressList ≠ [] ∧ l.serviceName = entry.mSvcName := by
  unfold serviceAddress at h
  split at h
  · cases h
  · split at h
    · cases h
    · obtain ⟨rfl, hne⟩ := unlessEmpty_some h
      exact ⟨hne, rfl⟩

section

variable (hbound : ∀ desc ∈ entry.mAddrTbl, desc.mStatus = .bound)

include hbound

theorem not_pending_of_bound : hasPendingAddress entry = false := by
  unfold hasPendingAddress
  rw [List.any_eq_false]
  intro desc hmem
  rw [hbound desc hmem]
  decide

theorem addressesOf_serviceAddress_local (q : SessionInfo) :
    addressesOf (serviceAddress cfg entry .intraNormal q)
      = (chooseAddresses entry.mAddrTbl q.socketType fdbExportableNodeInternal
          cfg.mMaxDomainExportableLevel).map view := by
  unfold serviceAddress
  rw [if_neg (by simp), not_pending_of_bound hbound, if_neg (by simp)]
  exact addressesOf_unlessEmpty _

theorem addressesOf_serviceAddress_remote (q : SessionInfo) :
    addressesOf (serviceAddress cfg entry .interNormal q)
      = if entry.mSvcName = cfg.nsName then []
        else (chooseAddresses entry.mAddrTbl q.socketType cfg.mMaxDomainExportableLevel
          cfg.mMaxDomainExportableLevel).map view := by
  unfold serviceAddress
  by_cases hns : entry.mSvcName = cfg.nsName
  · rw [if_pos ⟨rfl, hns⟩, if_pos hns]
    rfl
  · rw [if_neg fun h => hns h.2, not_pending_of_bound hbound, if_neg (by simp), if_neg hns]
    exact addressesOf_unlessEmpty _

end

/-- With an IPC address, the last of which is `b`. -/
theorem agreesLocally_some {views : List AddressView} {b : AddressView}
    (hlast : lastIpc views = some b) (hsocket : socket = .ipc ∨ socket = .tcp) (maxDomain : Int) :
    (∀ a, b = a ∧ b.Exportable fdbExportableNodeInternal
        ↔ a ∈ views ∧ Chosen views socket fdbExportableNodeInternal maxDomain a)
      ↔ AgreesLocally maxDomain views socket := by
  obtain ⟨hb, hipc⟩ := lastIpc_spec hlast
  simp only [AgreesLocally, hlast, Chosen]
  by_cases hexp : b.Exportable fdbExportableNodeInternal
  · -- `b` itself keeps a late subscriber on IPC from falling back to TCP
    have hfall : ¬ (socket = .ipc
        ∧ ∀ c ∈ views, c.IsIpc → ¬ c.Exportable fdbExportableNodeInternal) :=
      fun h => h.2 b hb hipc hexp
    simp only [if_pos hexp, if_neg hfall]
    constructor
    · intro h
      have hsame : b.address.mType = socket := ((h b).mp ⟨rfl, hexp⟩).2.1
      have htype : socket = .ipc := hsame.symm.trans hipc
      refine ⟨htype, fun a ha haipc haexp => ?_⟩
      exact (((h a).mpr ⟨ha, haipc.trans htype.symm, haexp⟩).1).symm
    · rintro ⟨rfl, hall⟩ a
      constructor
      · rintro ⟨rfl, -⟩
        exact ⟨hb, hipc, hexp⟩
      · rintro ⟨ha, haipc, haexp⟩
        exact ⟨(hall a ha haipc haexp).symm, hexp⟩
  · -- nothing is told early, so nothing may be told late
    simp only [hexp, and_false, if_false, false_iff, not_and]
    rcases hsocket with rfl | rfl
    · simp only [true_and, if_true, forall_true_left]
      by_cases hfall : ∀ c ∈ views, c.IsIpc → ¬ c.Exportable fdbExportableNodeInternal
      · simp only [if_pos hfall]
        exact ⟨fun h a ha => ⟨fun htcp hexp => h a ha ⟨htcp, hexp⟩, hfall a ha⟩,
          fun h a ha hand => (h a ha).1 hand.1 hand.2⟩
      · simp only [if_neg hfall]
        constructor
        · intro h
          exact absurd (fun c hc hcipc hcexp => h c hc ⟨hcipc, hcexp⟩) hfall
        · intro h a ha hand
          exact (h a ha).2 hand.1 hand.2
    · simp only [reduceCtorEq, false_and, if_false, IsEmpty.forall_iff, and_true]
      exact ⟨fun h a ha htcp hexp => h a ha ⟨htcp, hexp⟩, fun h a ha hand => h a ha hand.1 hand.2⟩

/-- Without an IPC address. -/
theorem agreesLocally_none {views : List AddressView} (hlast : lastIpc views = none)
    (hsocket : socket = .ipc ∨ socket = .tcp) (maxDomain : Int) :
    (∀ a, (if ∃ c ∈ views, c.OnLocalHost then
            a ∈ views ∧ a.OnLocalHost ∧ a.Exportable fdbExportableNodeInternal
          else ∃ b ∈ views, b.AllInterfaces ∧ b.Exportable fdbExportableDomain
            ∧ b.onLocalHost = a)
        ↔ a ∈ views ∧ Chosen views socket fdbExportableNodeInternal maxDomain a)
      ↔ AgreesLocally maxDomain views socket := by
  -- late subscribers are told TCP addresses: those on IPC fall back
  have hlate : ∀ a, Chosen views socket fdbExportableNodeInternal maxDomain a
      ↔ a.IsTcp ∧ a.Exportable (if socket = .ipc then maxDomain else fdbExportableNodeInternal) := by
    intro a
    unfold Chosen
    rcases hsocket with rfl | rfl
    · rw [if_pos ⟨rfl, fun c hc hcipc => absurd hcipc (lastIpc_none hlast c hc)⟩, if_pos rfl]
    · rfl
  simp only [AgreesLocally, hlast, hlate]
  by_cases hlocal : ∃ c ∈ views, c.OnLocalHost
  · simp only [if_pos hlocal]
    exact ⟨fun h a ha => ⟨fun hand => ((h a).mp ⟨ha, hand⟩).2, fun hand => ((h a).mpr ⟨ha, hand⟩).2⟩,
      fun h a => and_congr_right fun ha => h a ha⟩
  · simp only [if_neg hlocal]
    constructor
    · -- an address that is told early is on the local host, and no address of the service is
      intro h
      have hearly : ∀ b ∈ views, ¬ (b.AllInterfaces ∧ b.Exportable fdbExportableDomain) := by
        rintro b hb ⟨hall, hexp⟩
        have hmem := ((h b.onLocalHost).mp ⟨b, hb, hall, hexp, rfl⟩).1
        exact hlocal ⟨_, hmem, hall.1, rfl⟩
      refine fun a ha => ⟨hearly a ha, fun hand => ?_⟩
      obtain ⟨b, hb, hall, hexp, -⟩ := (h a).mpr ⟨ha, hand⟩
      exact hearly b hb ⟨hall, hexp⟩
    · intro h a
      constructor
      · rintro ⟨b, hb, hall, hexp, -⟩
        exact absurd ⟨hall, hexp⟩ (h b hb).1
      · rintro ⟨ha, hand⟩
        exact absurd hand (h a ha).2

section

variable (hbound : ∀ desc ∈ entry.mAddrTbl, desc.mStatus = .bound) {socket : EFdbSocketType}
  (hsocket : socket = .ipc ∨ socket = .tcp)

include hbound hsocket

/-- The local subscribers: what is told early against what is told late. -/
theorem agreesLocally_iff (maxDomain : Int) :
    (∀ a, a ∈ (localAddresses entry.mAddrTbl).map view
        ↔ a ∈ (chooseAddresses entry.mAddrTbl socket fdbExportableNodeInternal
            maxDomain).map view)
      ↔ AgreesLocally maxDomain entry.views socket := by
  have hmax : socket ≠ .max := by rcases hsocket with rfl | rfl <;> decide
  simp only [mem_localAddresses, mem_chooseAddresses hbound hmax]
  cases hlast : lastIpc entry.views with
  | some b => exact agreesLocally_some hlast hsocket maxDomain
  | none => exact agreesLocally_none hlast hsocket maxDomain

/-- The remote subscribers. -/
theorem agreesRemotely_iff (maxDomain : Int) :
    (∀ a, a ∈ ((remoteTcp entry.mAddrTbl).flatMap (prepareAddress maxDomain)).map
          view
        ↔ a ∈ if entry.mSvcName = cfg.nsName then []
            else (chooseAddresses entry.mAddrTbl socket maxDomain maxDomain).map
              view)
      ↔ AgreesRemotely maxDomain entry.views (entry.mSvcName = cfg.nsName) socket := by
  have hmax : socket ≠ .max := by rcases hsocket with rfl | rfl <;> decide
  unfold AgreesRemotely
  simp only [mem_view_flatMap_prepareAddress, mem_remoteTcp]
  by_cases hns : entry.mSvcName = cfg.nsName
  · simp only [if_pos hns, not_mem_nil, iff_false, not_and]
    exact ⟨fun h a ha hrem => h a ⟨ha, hrem⟩, fun h a ha => h a ha.1 ha.2⟩
  · simp only [if_neg hns, mem_chooseAddresses hbound hmax, Chosen]
    have htcp : (∀ a ∈ entry.views, a.Exportable maxDomain → ¬ (socket = .ipc ∧ a.IsIpc)) →
        ((∀ a, (a ∈ entry.views ∧ a.Remote) ∧ a.Exportable maxDomain
            ↔ a ∈ entry.views ∧ a.IsTcp ∧ a.Exportable maxDomain)
          ↔ ∀ a ∈ entry.views, a.Exportable maxDomain →
            (a.Remote ↔ a.IsTcp) ∧ ¬ (socket = .ipc ∧ a.IsIpc)) := by
      intro hnot
      constructor
      · intro h a ha hexp
        exact ⟨⟨fun hrem => ((h a).mp ⟨⟨ha, hrem⟩, hexp⟩).2.1,
          fun htcp => ((h a).mpr ⟨ha, htcp, hexp⟩).1.2⟩, hnot a ha hexp⟩
      · intro h a
        constructor
        · rintro ⟨⟨ha, hrem⟩, hexp⟩
          exact ⟨ha, (h a ha hexp).1.mp hrem, hexp⟩
        · rintro ⟨ha, htcp, hexp⟩
          exact ⟨⟨ha, (h a ha hexp).1.mpr htcp⟩, hexp⟩
    by_cases hfall : socket = .ipc ∧ ∀ c ∈ entry.views, c.IsIpc → ¬ c.Exportable maxDomain
    · simp only [if_pos hfall]
      exact htcp fun a ha hexp hand => hfall.2 a ha hand.2 hexp
    · simp only [if_neg hfall]
      rcases hsocket with rfl | rfl
      · -- an IPC address is told late, and no IPC address is told early
        rw [not_and] at hfall
        have hex := hfall rfl
        simp only [not_forall, not_not] at hex
        obtain ⟨c, hc, hcipc, hcexp⟩ := hex
        constructor
        · intro h
          exact absurd hcipc ((h c).mpr ⟨hc, hcipc, hcexp⟩).1.2.1
        · intro h
          exact absurd ⟨rfl, hcipc⟩ (h c hc hcexp).2
      · exact htcp fun _ _ _ hand => nomatch hand.1

end

end Agreement

/-- **Early and late subscribers.**  Of two sessions with the same kind of socket and the same
security level, one that subscribed a service before it came online and one that subscribes it
afterwards are told the same addresses and tokens if and only if `Agrees` holds of the service's
addresses. -/
theorem early_late_agree_iff (cfg : NsConfig) (entry : CSvcRegistryEntry)
    (hbound : ∀ desc ∈ entry.mAddrTbl, desc.mStatus = .bound) {type : SubscribeType}
    (htype : type = .intraNormal ∨ type = .interNormal) {p q : SessionInfo}
    (hsame : p.socketType = q.socketType) (hsocket : q.socketType = .ipc ∨ q.socketType = .tcp)
    (hlevel : levelFor cfg entry.mSvcName type p = levelFor cfg entry.mSvcName type q) :
    Agree (onlineList cfg entry type p) (subscribeList cfg entry type q)
      ↔ Agrees cfg entry type p.socketType := by
  unfold onlineList subscribeList Agrees
  rw [agree_iff htype (fun l h => (onlineAddress_some h).imp_right And.left)
    (fun l => serviceAddress_some) entry.mTokens hlevel, hsame]
  rcases htype with rfl | rfl
  · rw [if_pos rfl, addressesOf_serviceAddress_local hbound, ← agreesLocally_iff hbound hsocket]
    show (∀ a, a ∈ addressesOf (unlessEmpty _) ↔ _) ↔ _
    rw [addressesOf_unlessEmpty]
    rfl
  · rw [if_neg (by simp), addressesOf_serviceAddress_remote hbound,
      ← agreesRemotely_iff hbound hsocket]
    show (∀ a, a ∈ addressesOf (unlessEmpty _) ↔ _) ↔ _
    rw [addressesOf_unlessEmpty]
    rfl

/-- A configuration without security. -/
def plainConfig : NsConfig where
  nsName := [110, 115]
  hostServerName := [104, 115]
  pid := 1
  mHostName := []
  mDomainName := []
  mMaxDomainExportableLevel := fdbExportableDomain
  addressBindRetryCnt := 1
  securityLevel _ _ := fdbSecurityLevelNone
  parseUrl _ := none

/-- A bound IPC address for inside the node. -/
def ipcDesc : CFdbAddressDesc where
  mAddress := ⟨[105], .ipc, [105], 0, false⟩
  mExportableLevel := fdbExportableNodeInternal
  mStatus := .bound

/-- A bound TCP address on one interface. -/
def tcpDesc : CFdbAddressDesc where
  mAddress := ⟨[116], .tcp, [49, 48, 46, 48, 46, 48, 46, 49], 60000, false⟩
  mExportableLevel := fdbExportableDomain
  mStatus := .bound

/-- A local client on IPC. -/
def ipcSession : SessionInfo := ⟨.ipc, 0, fdbSecurityLevelNone⟩

/-- With an IPC and a TCP address, as they are usually allocated, the two ways agree. -/
theorem early_late_agree_usual :
    Agree (onlineList plainConfig { mAddrTbl := [ipcDesc, tcpDesc] } .intraNormal ipcSession)
      (subscribeList plainConfig { mAddrTbl := [ipcDesc, tcpDesc] } .intraNormal ipcSession) := by
  refine (early_late_agree_iff plainConfig _ (by decide) (.inl rfl) rfl (.inl rfl) rfl).mpr ?_
  show _ ∧ _
  decide

/-- Without an IPC address nothing is told early to a local client, and the TCP address late. -/
theorem early_told_nothing :
    onlineList plainConfig { mAddrTbl := [tcpDesc] } .intraNormal ipcSession = none
      ∧ addressesOf (subscribeList plainConfig { mAddrTbl := [tcpDesc] } .intraNormal ipcSession)
        = [tcpDesc.view]
      ∧ ¬ Agree (onlineList plainConfig { mAddrTbl := [tcpDesc] } .intraNormal ipcSession)
        (subscribeList plainConfig { mAddrTbl := [tcpDesc] } .intraNormal ipcSession) := by
  refine ⟨by decide, by decide, fun h => ?_⟩
  have hlate := (h.1 tcpDesc.view).mpr (by decide)
  revert hlate
  decide

end Fdbus.Server

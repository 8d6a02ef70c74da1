/-
  Fdbus.Host.HostServer — the host server as a state machine.

  Hosts register with the host server of their domain, report their name server's addresses and
  the services that they export, and are told about each other; domains below and host servers
  above exchange service tables with it.  `step` is one message or one change of a connection.

    * `onRegisterLocalHostReq`, `onLocalHostReady`, `onPostLocalSvcAddress`,
      `onUnregisterLocalHostReq` — the hosts of the domain,
    * `onRegisterExternalDomainReq`, `onExternalHostReady`, `onPostDomainSvcAddress` — the
      domains below,
    * `updateUpstreamSvcTable` — a table from a host server above, without the services that are
      local ones (`removeDuplicateService`),
    * `onOffline` — a session ends,
    * `broadcastSingleHost`, `onHostOnlineReg` — what the hosts are told about each other.

  Of the tables that were sent the state keeps the last ones: `CInterHostProxy.posted` for each
  host server above, `lastLocal` and `lastDownstream` for the two broadcasts.  A subscription to
  one of the broadcasts is answered to the subscriber alone, with the table as it is then; it
  changes nothing here.  Messages that cannot be decoded change nothing and are left out, and so
  are heart beats: a host that misses them is kicked out, which ends its session.
-/
import Fdbus.Host.ExportTables

namespace Fdbus.Host

open Fdbus.OrderedMap Fdbus.Security Fdbus.Server Fdbus.Subscribe

/-! ## §1. Messages and state. -/

/-- What the host server is configured with: its name, its limits, the security of hosts, and the
addresses of its own interfaces (`mInterfaceTable.findByIp`). -/
structure HsConfig extends ExportLimits where
  name : Text
  getCred : Text → Option Text := fun _ => none
  getSecurityLevel : Text → Text → Int := fun _ _ => -1
  findByIp : Text → Bool := fun _ => false

/-- `FdbMsgHostRegisterReq`. -/
structure FdbMsgHostRegisterReq where
  ipAddress : Text
  hostName : Text := []
  cred : Option Text := none

/-- `FdbMsgHostAddress`. -/
structure FdbMsgHostAddress where
  ipAddress : Text
  hostName : Text
  addressList : List FdbMsgAddressItem := []
  tokenList : Option (List Token) := none
  deriving DecidableEq

/-- `FdbMsgHostAddressList`. -/
structure FdbMsgHostAddressList where
  addressList : List FdbMsgHostAddress
  exportSvcAddress : ExportableSvcAddress := []
  deriving DecidableEq

/-- The two ends of a session; both are empty on a local socket. -/
structure SessionIps where
  hostIp : Text := []
  peerIp : Text := []

/-- `NTF_HOST_ONLINE`, to one session or to all that subscribed it. -/
structure HostNotification where
  receiver : Option SessionPtr
  list : FdbMsgHostAddressList
  deriving DecidableEq

/-- The state of the host server. -/
structure HostServer extends HostTables where
  sessions : Map SessionPtr SessionIps := ∅
  nextSid : Nat := 0
  hostSubscribers : List SessionPtr := []
  notified : List HostNotification := []
  lastLocal : Option ExportableSvcAddress := none
  lastDownstream : Option ExportableSvcAddress := none

/-- `online(upstream_host_array, num_upstream_hosts)`. -/
def HostServer.online (urls : List Text) : HostServer where
  mHostProxyTbl := urls.foldl (fun tbl url =>
    if url = [] ∨ tbl[url]?.isSome then tbl else tbl.insert url {}) ∅

/-! ## §2. What is sent when a table has changed. -/

section Send

variable (cfg : HsConfig) (hs : HostServer)

/-- `broadcastToLocalHost()`. -/
def broadcastToLocalHost : HostServer :=
  { hs with lastLocal := some (buildAddrTblForLocalHost cfg.toExportLimits hs.toHostTables) }

/-- `broadcastToDownstreamHost()`. -/
def broadcastToDownstreamHost : HostServer :=
  { hs with
    lastDownstream := some (buildAddrTblForDownstreamHost cfg.toExportLimits hs.toHostTables) }

/-- `postSvcTable(svc_address_tbl)`: only to a host server that is connected. -/
def CInterHostProxy.postSvcTable (tbl : ExportableSvcAddress) (proxy : CInterHostProxy) :
    CInterHostProxy :=
  if proxy.connected then { proxy with posted := some tbl } else proxy

/-- `postToUpstreamHost()`. -/
def postToUpstreamHost : HostServer :=
  { hs with
    mHostProxyTbl := hs.mHostProxyTbl.map fun _ proxy => proxy.postSvcTable
      (buildAddrTblForUpstreamHost cfg.toExportLimits hs.toHostTables) }

/-- "table 1 is changed: should 1 - broadcast to downstream host; 2 - post to upstream host". -/
def broadcastOnLocalSvcTableChanged : HostServer :=
  postToUpstreamHost cfg (broadcastToDownstreamHost cfg hs)

/-- "table-2 is changed: should notify local hosts and downstream hosts meanwhile sync upstream
hosts". -/
def broadcastOnDomainSvcTableChanged : HostServer :=
  postToUpstreamHost cfg (broadcastToDownstreamHost cfg (broadcastToLocalHost cfg hs))

/-- "table-3 is changed: should 1-broadcast to local hosts; 2-broadcast to downstream hosts". -/
def broadcastOnUpstreamSvcTableChanged : HostServer :=
  broadcastToDownstreamHost cfg (broadcastToLocalHost cfg hs)

/-! ## §3. What the hosts are told about each other. -/

/-- `addToken(this_host, that_host, host_addr)`: the token of `this_host` for the level that
`that_host` has there. -/
def addToken (thisHost thatHost : CLocalHostInfo) (addr : FdbMsgHostAddress) : FdbMsgHostAddress :=
  let level :=
    if thatHost.mAuthorized then cfg.getSecurityLevel thisHost.mHostName thatHost.mHostName
    else -1
  let token := if 0 ≤ level then (thisHost.mTokens[level.toNat]?.map cStr) else none
  { addr with tokenList := some token.toList }

/-- `populateHostAddressList(session, addr_list, info)`: the address that it adds.  Level and
interface of its addresses are not set; nobody reads them. -/
def populateHostAddressList (session : Option SessionIps) (info : CLocalHostInfo) :
    FdbMsgHostAddress where
  hostName := info.mHostName
  ipAddress :=
    if info.mIpAddress = [] ∨ info.mIpAddress = fdbIpAllInterface then
      (session.map SessionIps.hostIp).getD info.mIpAddress
    else info.mIpAddress
  addressList := info.mAddressTbl.map fun addr =>
    { address := addr
      exportableLevel := 0
      interfaceId := 0
      udpPort := some fdbInetPortInvalid }

/-- `broadcastSingleHost(true, info)` for the host of session `sid`: every other host that is
ready, and every subscriber that is no host, is told about it. -/
def broadcastHostOnline (sid : SessionPtr) (info : CLocalHostInfo) : List HostNotification :=
  hs.hostSubscribers.filterMap fun session =>
    let addr := populateHostAddressList hs.sessions[session]? info
    let tbl := buildAddrTblForLocalHost cfg.toExportLimits hs.toHostTables
    match hs.mLocalHostTbl[session]? with
    | none => some ⟨some session, ⟨[addr], tbl⟩⟩
    | some that =>
      if session = sid ∨ !that.mReady then none
      else some ⟨some session, ⟨[addToken cfg info that addr], tbl⟩⟩

/-- `broadcastSingleHost(false, info)`: everybody is told about the host with the addresses that
it has. -/
def broadcastHostOffline (info : CLocalHostInfo) : HostNotification :=
  ⟨none, ⟨[populateHostAddressList none info], []⟩⟩

/-- `onHostOnlineReg`: a subscriber is told about the other hosts that are ready. -/
def onHostOnlineReg (session : SessionPtr) : List HostNotification :=
  let addrs := hs.mLocalHostTbl.toList.filterMap fun e =>
    if e.1 = session ∨ !e.2.mReady then none
    else
      let addr := populateHostAddressList hs.sessions[session]? e.2
      some (hs.mLocalHostTbl[session]?.elim addr fun that => addToken cfg e.2 that addr)
  if addrs = [] then []
  else [⟨some session, ⟨addrs, buildAddrTblForLocalHost cfg.toExportLimits hs.toHostTables⟩⟩]

end Send

/-! ## §4. The handlers. -/

/-- `verifyUrl(addr_pool, session)` for a session with this peer: local addresses are dropped, and
the peer's address stands for all its interfaces. -/
def verifyUrl (peerIp : Text) (items : List FdbMsgAddressItem) : List FdbMsgAddressItem :=
  if peerIp = fdbLocalHost then items
  else
    items.filterMap fun item =>
      if item.address.mType = .ipc ∨ item.address.mAddr = fdbLocalHost then none
      else if item.address.mAddr = fdbIpAllInterface ∧ peerIp ≠ [] then
        some { item with address := { item.address with mAddr := peerIp }.buildUrl }
      else some item

/-- `verifyUrl(msg_addr_tbl, session)`. -/
def verifyUrls (peerIp : Text) (tbl : ExportableSvcAddress) : ExportableSvcAddress :=
  tbl.map fun list => { list with addressList := verifyUrl peerIp list.addressList }

/-- `validateUrl(msg_addr_tbl, session)`. -/
def validateUrls (peerIp : Text) (tbl : ExportableSvcAddress) : ExportableSvcAddress :=
  tbl.map (validateUrl peerIp)

/-- One address of a service from above and one of a local service: the same URL, or, if the
local one is on all interfaces, the same port on one of them. -/
def sameAddress (cfg : HsConfig) (orig dup : CFdbSocketAddr) : Bool :=
  if dup.mAddr = fdbIpAllInterface then cfg.findByIp orig.mAddr && orig.mPort == dup.mPort
  else orig.mUrl == dup.mUrl

/-- "if any address in list equal, the two services are regarded as the same". -/
def sameService (cfg : HsConfig) (orig dup : CFdbSvcAddress) : Bool :=
  orig.mSvcName == dup.mSvcName && orig.mAddrTbl.any fun origItem => dup.mAddrTbl.any fun dupItem =>
    sameAddress cfg origItem.mAddress dupItem.mAddress

/-- `removeDuplicateService(original, duplicate)`. -/
def removeDuplicateService (cfg : HsConfig) (original duplicate : List CFdbSvcAddress) :
    List CFdbSvcAddress :=
  original.filter fun orig => !duplicate.any (sameService cfg orig)

/-- The services of a table, as the host server keeps them. -/
def populateToHostInfo (tbl : ExportableSvcAddress) : List CFdbSvcAddress :=
  tbl.map FdbMsgAddressList.populateToHostInfo

/-- The table of a local host: "for local service, domain name is endpoint name of host
server". -/
def localSvcTable (cfg : HsConfig) (peerIp : Text) (tbl : ExportableSvcAddress) :
    List CFdbSvcAddress :=
  (populateToHostInfo (verifyUrls peerIp tbl)).map fun svc => { svc with mDomainName := cfg.name }

/-- The table of a host server above, without the services of local hosts. -/
def upstreamSvcTable (cfg : HsConfig) (hosts : Map SessionPtr CLocalHostInfo)
    (tbl : ExportableSvcAddress) : List CFdbSvcAddress :=
  hosts.foldl (fun svcs _ host => removeDuplicateService cfg svcs host.mSvcAddrTbl)
    (populateToHostInfo tbl)

section Handlers

variable (cfg : HsConfig) (hs : HostServer)

/-- The host is authorized: no credential is configured for it, or it has the right one. -/
def authorized (hostName : Text) (cred : Option Text) : Bool :=
  match cfg.getCred hostName with
  | none => true
  | some expected => expected = [] ∨ cred = some expected

/-- `onRegisterLocalHostReq`.  A host that was registered on the session before keeps its
addresses and services, but is not ready any more. -/
def onRegisterLocalHostReq (session : SessionPtr) (req : FdbMsgHostRegisterReq)
    (tokens : List Token) : HostServer :=
  let hostName := if req.hostName = [] then req.ipAddress else req.hostName
  { hs with
    mLocalHostTbl := upsert hs.mLocalHostTbl session {} fun info =>
      { info with
        mHostName := hostName
        mIpAddress := req.ipAddress
        mReady := false
        mAuthorized := authorized cfg hostName req.cred
        mTokens := tokens } }

/-- `onRegisterExternalDomainReq`. -/
def onRegisterExternalDomainReq (session : SessionPtr) (domainName : Text) (tokens : List Token) :
    HostServer :=
  { hs with
    mExternalDomainTbl := upsert hs.mExternalDomainTbl session {} fun info =>
      { info with mDomainName := domainName, mReady := false, mTokens := tokens } }

/-- `updateLocalSvcTable(host_info, svc_address_tbl)` for the host of a session. -/
def updateLocalSvcTable (session : SessionPtr) (info : CLocalHostInfo) (peerIp : Text)
    (tbl : ExportableSvcAddress) : HostServer :=
  broadcastOnLocalSvcTableChanged cfg { hs with
    mLocalHostTbl := hs.mLocalHostTbl.insert session
      { info with mSvcAddrTbl := localSvcTable cfg peerIp tbl } }

/-- `onLocalHostReady`. -/
def onLocalHostReady (session : SessionPtr) (peerIp : Text) (items : List FdbMsgAddressItem)
    (tbl : ExportableSvcAddress) : HostServer :=
  match hs.mLocalHostTbl[session]? with
  | none => hs
  | some info =>
    let info := { info with
      mReady := true
      mAddressTbl := info.mAddressTbl ++ (verifyUrl peerIp items).map FdbMsgAddressItem.address }
    let hs := updateLocalSvcTable cfg hs session info peerIp tbl
    { hs with notified := hs.notified ++ broadcastHostOnline cfg hs session info }

/-- `onPostLocalSvcAddress`. -/
def onPostLocalSvcAddress (session : SessionPtr) (peerIp : Text) (tbl : ExportableSvcAddress) :
    HostServer :=
  match hs.mLocalHostTbl[session]? with
  | none => hs
  | some info => updateLocalSvcTable cfg hs session info peerIp tbl

/-- `updateDomainSvcTable(domain_info, svc_address_tbl)` for the domain of a session. -/
def updateDomainSvcTable (session : SessionPtr) (info : CExternalDomainInfo) (peerIp : Text)
    (tbl : ExportableSvcAddress) : HostServer :=
  broadcastOnDomainSvcTableChanged cfg { hs with
    mExternalDomainTbl := hs.mExternalDomainTbl.insert session
      { info with mSvcAddrTbl := populateToHostInfo (verifyUrls peerIp tbl) } }

/-- `onExternalHostReady`. -/
def onExternalHostReady (session : SessionPtr) (peerIp : Text) (tbl : ExportableSvcAddress) :
    HostServer :=
  match hs.mExternalDomainTbl[session]? with
  | none => hs
  | some info => updateDomainSvcTable cfg hs session { info with mReady := true } peerIp tbl

/-- `onPostDomainSvcAddress`. -/
def onPostDomainSvcAddress (session : SessionPtr) (peerIp : Text) (tbl : ExportableSvcAddress) :
    HostServer :=
  match hs.mExternalDomainTbl[session]? with
  | none => hs
  | some info => updateDomainSvcTable cfg hs session info peerIp tbl

/-- The first host with this address, in the order of the table. -/
def HostTables.findHost (hs : HostTables) (ip : Text) : Option (SessionPtr × CLocalHostInfo) :=
  hs.mLocalHostTbl.toList.find? fun e => e.2.mIpAddress = ip

/-- `onUnregisterLocalHostReq`: the host is dropped, the tables are not sent again. -/
def onUnregisterLocalHostReq (ip : Text) : HostServer :=
  match hs.findHost ip with
  | none => hs
  | some (session, info) =>
    { hs with
      mLocalHostTbl := hs.mLocalHostTbl.erase session
      notified := hs.notified ++ [broadcastHostOffline info] }

/-- `updateUpstreamSvcTable(svc_desc_tbl, svc_address_tbl)` for the proxy of a host server. -/
def updateUpstreamSvcTable (url : Text) (proxy : CInterHostProxy) (tbl : ExportableSvcAddress) :
    HostServer :=
  broadcastOnUpstreamSvcTableChanged cfg { hs with
    mHostProxyTbl := hs.mHostProxyTbl.insert url
      { proxy with mSvcAddrTbl := upstreamSvcTable cfg hs.mLocalHostTbl tbl } }

/-- `onOffline`: a host or a domain is dropped.  The domain's services are not taken back from
the host servers above. -/
def onOffline (session : SessionPtr) : HostServer :=
  match hs.mLocalHostTbl[session]? with
  | some info =>
    broadcastOnLocalSvcTableChanged cfg { hs with
      mLocalHostTbl := hs.mLocalHostTbl.erase session
      notified := hs.notified ++ [broadcastHostOffline info] }
  | none =>
    match hs.mExternalDomainTbl[session]? with
    | some _ =>
      broadcastOnUpstreamSvcTableChanged cfg { hs with
        mExternalDomainTbl := hs.mExternalDomainTbl.erase session }
    | none => hs

end Handlers

/-! ## §5. The machine. -/

/-- What can happen. -/
inductive Event where
  | online (ips : SessionIps)
  | offline (session : SessionPtr)
  | registerLocalHost (session : SessionPtr) (req : FdbMsgHostRegisterReq) (tokens : List Token)
  | localHostReady (session : SessionPtr) (items : List FdbMsgAddressItem)
      (tbl : ExportableSvcAddress)
  | postLocalSvcAddress (session : SessionPtr) (tbl : ExportableSvcAddress)
  | unregisterLocalHost (session : SessionPtr) (ip : Text)
  | registerExternalDomain (session : SessionPtr) (domainName : Text) (tokens : List Token)
  | externalHostReady (session : SessionPtr) (tbl : ExportableSvcAddress)
  | postDomainSvcAddress (session : SessionPtr) (tbl : ExportableSvcAddress)
  | subscribeHostOnline (session : SessionPtr)
  | upstreamOnline (url : Text)
  | upstreamRegistered (url : Text)
  | upstreamTable (url : Text) (peerIp : Text) (tbl : ExportableSvcAddress)
  | upstreamOffline (url : Text)

/-- The host server above has registered this one: it is sent the services as
`REQ_EXTERNAL_HOST_READY`. -/
def sendExternalHostReady (cfg : HsConfig) (hs : HostServer) (url : Text)
    (proxy : CInterHostProxy) :
    HostServer :=
  { hs with
    mHostProxyTbl := hs.mHostProxyTbl.insert url { proxy with
      posted := some (buildAddrTblForUpstreamHost cfg.toExportLimits hs.toHostTables) } }

/-- One event; `none` if it cannot happen: nothing comes from a session that is not online, or from
a host server above that is not connected. -/
def step (cfg : HsConfig) (hs : HostServer) : Event → Option HostServer
  | .online ips =>
    some { hs with sessions := hs.sessions.insert hs.nextSid ips, nextSid := hs.nextSid + 1 }
  | .offline session =>
    hs.sessions[session]?.map fun _ => onOffline cfg { hs with
      sessions := hs.sessions.erase session
      hostSubscribers := hs.hostSubscribers.filter (· ≠ session) } session
  | .registerLocalHost session req tokens =>
    hs.sessions[session]?.map fun _ => onRegisterLocalHostReq cfg hs session req tokens
  | .localHostReady session items tbl =>
    hs.sessions[session]?.map fun ips => onLocalHostReady cfg hs session ips.peerIp items tbl
  | .postLocalSvcAddress session tbl =>
    hs.sessions[session]?.map fun ips => onPostLocalSvcAddress cfg hs session ips.peerIp tbl
  | .unregisterLocalHost session ip =>
    hs.sessions[session]?.map fun _ => onUnregisterLocalHostReq hs ip
  | .registerExternalDomain session domainName tokens =>
    hs.sessions[session]?.map fun _ => onRegisterExternalDomainReq hs session domainName tokens
  | .externalHostReady session tbl =>
    hs.sessions[session]?.map fun ips => onExternalHostReady cfg hs session ips.peerIp tbl
  | .postDomainSvcAddress session tbl =>
    hs.sessions[session]?.map fun ips => onPostDomainSvcAddress cfg hs session ips.peerIp tbl
  | .subscribeHostOnline session =>
    hs.sessions[session]?.map fun _ => { hs with
      hostSubscribers := session :: hs.hostSubscribers.filter (· ≠ session)
      notified := hs.notified ++ onHostOnlineReg cfg hs session }
  | .upstreamOnline url =>
    (hs.mHostProxyTbl[url]?.filter fun proxy => !proxy.connected).map fun proxy => { hs with
      mHostProxyTbl := hs.mHostProxyTbl.insert url
        { proxy with connected := true, posted := none } }
  | .upstreamRegistered url =>
    (hs.mHostProxyTbl[url]?.filter fun proxy => proxy.connected).map fun proxy =>
      sendExternalHostReady cfg hs url proxy
  | .upstreamTable url peerIp tbl =>
    (hs.mHostProxyTbl[url]?.filter fun proxy => proxy.connected).map fun proxy =>
      updateUpstreamSvcTable cfg hs url proxy (validateUrls peerIp tbl)
  | .upstreamOffline url =>
    (hs.mHostProxyTbl[url]?.filter fun proxy => proxy.connected).map fun proxy =>
      updateUpstreamSvcTable cfg hs url { proxy with connected := false, posted := none } []

/-- A host server with both limits at 1. -/
def plainHostServer : HsConfig where
  name := [104]
  mMaxDomainExportableLevel := 1
  mMinUpstreamExportableLevel := 1

end Fdbus.Host

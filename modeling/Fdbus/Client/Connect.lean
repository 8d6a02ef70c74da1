/-
  Fdbus.Client.Connect — which announced services a client connects to.

  The name server announces a service with its name, its instance and its addresses.
  `doConnectToServer` goes through the endpoints of a context: a client of that name connects, or,
  if there are no addresses, disconnects from the host.  A client asks for an instance, for a group
  of instances, or for all groups.

    * `CBaseClient`, `doConnect`, `doConnectToAddress`, `doConnectToServer` — as the source has
      them,
    * `Event`, `step` — announcements, and clients that connect, disconnect and lose a connection,
    * `ConnectsAsAsked` — an announcement makes the client connect exactly if it asked for the
      instance,
    * `connects_iff` — so it is in a run, exactly if the first instance that a client of a group
      connects to lies in the group, and afterwards no other one of the group is announced.

  A client of a group accepts every instance, whatever the group, and takes over the instance that
  it connects to; it never returns to the group.
-/
import Fdbus.Library.Run
import Fdbus.Server.Registry

namespace Fdbus.Client

open Fdbus.OrderedMap Fdbus.Run Fdbus.Security Fdbus.Server List Option Std.ExtTreeMap

/-! ## §1. Clients. -/

/-- `FdbEndpointId_t`. -/
abbrev FdbEndpointId := Int

/-- `EFdbEndpointRole`. -/
inductive EFdbEndpointRole where
  | server
  | nsServer
  | client
  | unknown
  deriving DecidableEq

/-- `CClientSocket` with its session: the address, the peer, and the port of the UDP session. -/
structure CClientSocket where
  mAddress : CFdbSocketAddr
  mPeerIp : Text
  mPeerPort : Int
  mConnectedHost : Text := []
  mPendingUDPPort : Int := fdbInetPortInvalid
  mUDPPort : Option Int := none
  mInterfaceId : Int := fdbInvalidId

/-- `CConnectionInfo`. -/
structure CConnectionInfo where
  mServiceName : Text
  mInstanceId : FdbInstanceId
  mEndpointName : Text
  mHostName : Text
  mDomainName : Text
  mIsLocal : Bool

/-- What an announcement tells `connectionEnabled`. -/
def connectionInfo (list : FdbMsgAddressList) : CConnectionInfo where
  mServiceName := list.serviceName
  mInstanceId := list.instanceId
  mEndpointName := list.endpointName
  mHostName := list.hostName
  mDomainName := list.domainName
  mIsLocal := list.isLocal

/-- `CBaseClient`; the endpoints with another role are in the same table.  `requested` is the
service and the instance that it last asked the name server for. -/
structure CBaseClient where
  role : EFdbEndpointRole := .client
  mNsName : Text := []
  mInstanceId : FdbInstanceId := 0#32
  mTokens : List Token := []
  mIsLocal : Bool := true
  TCPSecureEnabled : Bool := false
  UDPEnabled : Bool := false
  reconnectEnabled : Bool := false
  reconnectActivated : Bool := false
  connectionEnabled : CConnectionInfo → Bool := fun _ => true
  sockets : Map Nat CClientSocket := ∅
  nextSkid : Nat := 0
  requested : Option (Text × FdbInstanceId) := none

/-- What the network does for an endpoint: the peer of a connection to an address, if there is one
(`createClientSocket`, `connect` and `addConnectedSession`), and the UDP port that is bound. -/
structure Network where
  parseUrl : Text → Option CFdbSocketAddr
  connect : FdbEndpointId → CFdbSocketAddr → Option (Text × Int)
  bindUDP : FdbEndpointId → CFdbSocketAddr → Int → Option Int

/-- `FDB_INET_PORT_NOBIND`. -/
def fdbInetPortNobind : Int := -1

namespace CClientSocket

/-- `CFdbSession::connected(addr)`. -/
def connected (addr : CFdbSocketAddr) (sk : CClientSocket) : Bool :=
  if sk.mAddress.mType ≠ addr.mType then false
  else if sk.mAddress.mType = .ipc then sk.mAddress.mAddr = addr.mAddr
  else sk.mPeerIp = addr.mAddr ∧ sk.mPeerPort = addr.mPort

/-- `getUDPSocketInfo`, and the port is a `FDB_VALID_PORT`. -/
def udpValid (sk : CClientSocket) : Bool := sk.mUDPPort.any fun port => fdbInetPortAuto < port

/-- `bindUDPSocket(ip_address)` with `mPendingUDPPort`. -/
def bindUDPSocket (net : Network) (epid : FdbEndpointId) (udpEnabled : Bool) (sk : CClientSocket) :
    CClientSocket :=
  if !udpEnabled ∨ sk.mPendingUDPPort = fdbInetPortInvalid ∨ sk.mAddress.mType = .ipc
    ∨ sk.mUDPPort = some sk.mPendingUDPPort then sk
  else { sk with mUDPPort := net.bindUDP epid sk.mAddress sk.mPendingUDPPort }

/-- `updateSessionInfo(session)` of a client. -/
def updateSessionInfo (net : Network) (epid : FdbEndpointId) (udpEnabled : Bool)
    (sk : CClientSocket) : CClientSocket :=
  if sk.mAddress.mType = .tcp then sk.bindUDPSocket net epid udpEnabled else sk

end CClientSocket

namespace CBaseClient

variable (net : Network) (epid : FdbEndpointId)

/-- `requestServiceAddress(server_name, instance_id)` with a name. -/
def requestServiceAddress (client : CBaseClient) (serverName : Text)
    (instanceId : FdbInstanceId) : CBaseClient :=
  if client.role = .nsServer then client
  else
    { client with
      mNsName := serverName
      mInstanceId := instanceId
      requested := some (serverName, instanceId) }

/-- `connectedSession(addr)`, and if there is none, `connectedSession(sec_type)`: "for the same
address, only one secure and one inscure connect; for different addresses, only one for secure and
another for insecure". -/
def connectedSession (client : CBaseClient) (addr : CFdbSocketAddr) :
    Option (Nat × CClientSocket) :=
  (client.sockets.toList.find? fun p => p.2.connected addr).or
    (client.sockets.toList.find? fun p => p.2.mAddress.mSecure = addr.mSecure)

/-- A connection that is there already may still get a UDP port. -/
def reuse (client : CBaseClient) (addr : CFdbSocketAddr) (udpPort : Int) (skid : Nat)
    (sk : CClientSocket) : CBaseClient :=
  if addr.mType ≠ .ipc ∧ fdbInetPortAuto ≤ udpPort ∧ !sk.udpValid then
    { client with
      sockets := client.sockets.insert skid
        ({ sk with mPendingUDPPort := udpPort }.updateSessionInfo net epid client.UDPEnabled) }
  else client

/-- `doConnect(url, host_name, udp_port)`, and the socket that it returns. -/
def doConnect (client : CBaseClient) (url : Text) (hostName : Text) (udpPort : Int) :
    CBaseClient × Option Nat :=
  match net.parseUrl url with
  | none => (client, none)
  | some addr =>
    if addr.mType = .svc then
      (client.requestServiceAddress addr.mAddr (BitVec.ofInt 32 addr.mPort), none)
    else if addr.mType ≠ .ipc ∧ addr.mSecure ∧ !client.TCPSecureEnabled then (client, none)
    else
      match client.connectedSession addr with
      | some (skid, sk) => (client.reuse net epid addr udpPort skid sk, some skid)
      | none =>
        match net.connect epid addr with
        | none => (client, none)
        | some (peerIp, peerPort) =>
          let sk : CClientSocket := ⟨addr, peerIp, peerPort, hostName, udpPort, none,
            fdbInvalidId⟩
          ({ client with
              sockets := client.sockets.insert client.nextSkid
                (sk.updateSessionInfo net epid client.UDPEnabled)
              nextSkid := client.nextSkid + 1
              reconnectActivated := true },
            some client.nextSkid)

/-- `hostConnected(host_name)`. -/
def hostConnected (client : CBaseClient) (hostName : Text) : Bool :=
  client.sockets.toList.any fun p => p.2.mConnectedHost = hostName

/-- `doDisconnect()`. -/
def doDisconnect (client : CBaseClient) : CBaseClient := { client with sockets := ∅ }

/-- `cbDisconnect` for all sessions: the service is no longer asked for. -/
def cbDisconnect (client : CBaseClient) : CBaseClient :=
  { client.doDisconnect with reconnectActivated := false, mNsName := [], requested := none }

/-- `CClientSocket::onSessionDeleted(session)`: the name server is asked again, or, if no service
is asked for, the address is tried again. -/
def onSessionDeleted (client : CBaseClient) (skid : Nat) (sk : CClientSocket) : CBaseClient :=
  let client := { client with sockets := client.sockets.erase skid }
  if client.reconnectEnabled && client.reconnectActivated
    && (client.role = .nsServer || client.mNsName = []) then
    (client.doConnect net epid sk.mAddress.mUrl [] fdbInetPortInvalid).1
  else client

end CBaseClient

/-! ## §2. An announcement. -/

section Announcement

variable (net : Network) (list : FdbMsgAddressList)

/-- A client after `doConnectToAddress`, and its three flags. -/
structure ConnectResult where
  client : CBaseClient
  udpFailure : Bool := false
  udpSuccess : Bool := false
  tcpFailure : Bool := false

/-- One address in `doConnectToAddress`. -/
def connectAddress (epid : FdbEndpointId) (r : ConnectResult) (item : FdbMsgAddressItem) :
    ConnectResult :=
  let udpPort := item.udpPort.getD fdbInetPortInvalid
  let (client, skid) := r.client.doConnect net epid item.address.mUrl list.hostName udpPort
  match skid.bind fun skid => client.sockets[skid]?.map fun sk => (skid, sk) with
  | none => { r with client := client, tcpFailure := true }
  | some (skid, sk) =>
    let client := { client with
      sockets := client.sockets.insert skid { sk with mInterfaceId := item.interfaceId } }
    if client.UDPEnabled ∧ item.address.mType ≠ .ipc ∧ fdbInetPortNobind < udpPort then
      if sk.udpValid then { r with client := client, udpSuccess := true }
      else { r with client := client, udpFailure := true }
    else { r with client := client }

/-- What `doConnectToAddress` does before it connects: a client of a group takes over the
instance. -/
def adopt (client : CBaseClient) : CBaseClient :=
  { client with
    mInstanceId := if fdbIsGroup client.mInstanceId then list.instanceId else client.mInstanceId
    mTokens := list.tokenList.getD client.mTokens
    mIsLocal := list.isLocal }

/-- `doConnectToAddress(client, msg_addr_list, ..)`. -/
def doConnectToAddress (epid : FdbEndpointId) (client : CBaseClient) : ConnectResult :=
  list.addressList.foldl (connectAddress net list epid) { client := adopt list client }

/-- The client is one for the announcement. -/
def isFor (epId epid : FdbEndpointId) (client : CBaseClient) : Bool :=
  client.role = .client
    && (client.mNsName = list.serviceName
      && (fdbIsGroup client.mInstanceId || client.mInstanceId = list.instanceId))
    && (epId = fdbInvalidId || epId = epid)

/-- `doConnectToAddress` is called for the client. -/
def connects (epId epid : FdbEndpointId) (client : CBaseClient) : Bool :=
  isFor list epId epid client && (list.addressList ≠ []
    && client.connectionEnabled (connectionInfo list))

/-- One endpoint in the loop of `doConnectToServer`. -/
def announceTo (epId epid : FdbEndpointId) (client : CBaseClient) : ConnectResult :=
  if connects list epId epid client then doConnectToAddress net list epid client
  else if isFor list epId epid client && (list.addressList = []
    && client.hostConnected list.hostName) then { client := client.doDisconnect }
  else { client := client }

/-- How often the service is asked for again, so that each client gets a UDP port. -/
def nrRequest (isInitResponse : Bool) (rs : List ConnectResult) : Nat :=
  let udpFailureCount := rs.countP (·.udpFailure)
  let udpSuccessCount := rs.countP (·.udpSuccess)
  let tcpFailureCount := rs.countP (·.tcpFailure)
  if list.addressList ≠ [] ∧ udpFailureCount ≠ 0 then
    let nr := if !isInitResponse then udpFailureCount
      else if udpSuccessCount = 0 then 1 else 0
    if tcpFailureCount ≠ 0 ∧ nr = 0 then 1 else nr
  else 0

/-- The endpoints of a context. -/
abbrev Endpoints := Map FdbEndpointId CBaseClient

/-- What `doConnectToServer` does: the endpoints afterwards, those that `doConnectToAddress` was
called for, and how often `listenOnService` is called. -/
structure ServerResult where
  endpoints : Endpoints
  connected : List FdbEndpointId
  listens : Nat

/-- `doConnectToServer(context, ep_id, msg_addr_list, is_init_response)`. -/
def doConnectToServer (eps : Endpoints) (epId : FdbEndpointId) (isInitResponse : Bool) :
    ServerResult where
  endpoints := eps.map fun epid client => (announceTo net list epId epid client).client
  connected := (eps.toList.filter fun p => connects list epId p.1 p.2).map (·.1)
  listens := nrRequest list isInitResponse
    (eps.toList.map fun p => announceTo net list epId p.1 p.2)

end Announcement

/-! ## §3. Runs. -/

/-- What happens to the endpoints of a context: an announcement that is not for one endpoint only, a
call of `connect` or `disconnect`, and the loss of a session. -/
inductive Event where
  | announce (net : Network) (list : FdbMsgAddressList) (isInitResponse : Bool)
  | connect (net : Network) (epid : FdbEndpointId) (url : Text)
  | disconnect (epid : FdbEndpointId)
  | lost (net : Network) (epid : FdbEndpointId) (skid : Nat)

/-- One event; `none` if there is no such endpoint or socket. -/
def step (eps : Endpoints) : Event → Option Endpoints
  | .announce net list isInitResponse =>
    some (doConnectToServer net list eps fdbInvalidId isInitResponse).endpoints
  | .connect net epid url =>
    eps[epid]?.map fun client =>
      eps.insert epid (client.doConnect net epid url [] fdbInetPortInvalid).1
  | .disconnect epid => eps[epid]?.map fun client => eps.insert epid client.cbDisconnect
  | .lost net epid skid =>
    eps[epid]?.bind fun client => client.sockets[skid]?.map fun sk =>
      eps.insert epid (client.onSessionDeleted net epid skid sk)

/-- An announcement with addresses reaches the client, which has asked for this service and
instance, and does not refuse it. -/
structure Hears (eps : Endpoints) (epid : FdbEndpointId) (list : FdbMsgAddressList)
    (client : CBaseClient) (name : Text) (pattern : FdbInstanceId) : Prop where
  get : eps[epid]? = some client
  role : client.role = .client
  requested : client.requested = some (name, pattern)
  online : list.addressList ≠ []
  enabled : client.connectionEnabled (connectionInfo list) = true

/-- An announcement makes the client connect exactly if it asked for the service and the
instance. -/
def ConnectsAsAsked (epid : FdbEndpointId) (eps : Endpoints) : Event → Prop
  | .announce net list isInitResponse =>
    ∀ client name pattern, Hears eps epid list client name pattern →
      (epid ∈ (doConnectToServer net list eps fdbInvalidId isInitResponse).connected
        ↔ list.serviceName = name ∧ instanceMatches pattern list.instanceId = true)
  | _ => True

/-- If the client asked for a group, and the service is announced: as long as the client has taken
over no instance, the one that is announced lies in the group; afterwards no other one of the group
is announced. -/
def OneOfGroup (epid : FdbEndpointId) (eps : Endpoints) : Event → Prop
  | .announce _ list _ =>
    ∀ client name pattern, Hears eps epid list client name pattern →
      fdbIsGroup pattern = true → list.serviceName = name →
      if fdbIsGroup client.mInstanceId then instanceMatches pattern list.instanceId = true
      else instanceMatches pattern list.instanceId = true →
        list.instanceId = client.mInstanceId
  | _ => True

/-! ## §4. What a client keeps of its request. -/

/-- The client has the name that it asked for, and an instance that is one of those. -/
def Tracks (client : CBaseClient) : Prop :=
  client.role = .client → ∀ name pattern, client.requested = some (name, pattern) →
    client.mNsName = name ∧ instanceMatches pattern client.mInstanceId = true

/-- A pattern stands for itself. -/
theorem instanceMatches_self (pattern : FdbInstanceId) :
    instanceMatches pattern pattern = true := by
  unfold instanceMatches fdbSameGroup
  split
  · simp
  · simp

variable {list : FdbMsgAddressList} {epid : FdbEndpointId} {eps : Endpoints} {client : CBaseClient}
  (net : Network)

theorem tracks_requestServiceAddress (h : Tracks client) (name : Text)
    (inst : FdbInstanceId) : Tracks (client.requestServiceAddress name inst) := by
  unfold CBaseClient.requestServiceAddress
  split
  · exact h
  · intro _ name' pattern hreq
    obtain ⟨rfl, rfl⟩ := Prod.mk.inj (some.inj hreq)
    exact ⟨rfl, instanceMatches_self _⟩

theorem tracks_doConnect (h : Tracks client) (net : Network)
    (epid : FdbEndpointId) (url hostName : Text) (udpPort : Int) :
    Tracks (client.doConnect net epid url hostName udpPort).1 := by
  unfold CBaseClient.doConnect
  split
  · exact h
  · split
    · exact tracks_requestServiceAddress h _ _
    · split
      · exact h
      · split
        · unfold CBaseClient.reuse
          split
          · exact h
          · exact h
        · split
          · exact h
          · exact h

theorem tracks_connectAddress {r : ConnectResult} (h : Tracks r.client) (net : Network)
    (list : FdbMsgAddressList) (epid : FdbEndpointId) (item : FdbMsgAddressItem) :
    Tracks (connectAddress net list epid r item).client := by
  have hconnect := tracks_doConnect h net epid item.address.mUrl list.hostName
    (item.udpPort.getD fdbInetPortInvalid)
  unfold connectAddress
  dsimp only
  split
  · exact hconnect
  · split
    · split
      · exact hconnect
      · exact hconnect
    · exact hconnect

/-- Connecting keeps what `adopt` has set. -/
theorem tracks_doConnectToAddress
    (list : FdbMsgAddressList) (epid : FdbEndpointId) (h : Tracks (adopt list client)) :
    Tracks (doConnectToAddress net list epid client).client := by
  refine foldlRecOn (motive := fun r : ConnectResult => Tracks r.client) _ _ h ?_
  intro r hr item _
  exact tracks_connectAddress hr net list epid item

/-- The client at a key after `doConnectToServer`. -/
theorem get_doConnectToServer (list : FdbMsgAddressList) (eps : Endpoints)
    (epId : FdbEndpointId) (isInitResponse : Bool) (epid : FdbEndpointId) :
    (doConnectToServer net list eps epId isInitResponse).endpoints[epid]?
      = eps[epid]?.map fun client => (announceTo net list epId epid client).client :=
  getElem?_map

theorem mem_connected {net : Network} {list : FdbMsgAddressList} {eps : Endpoints}
    {epId epid : FdbEndpointId} {isInitResponse : Bool} {client : CBaseClient}
    (hget : eps[epid]? = some client) :
    epid ∈ (doConnectToServer net list eps epId isInitResponse).connected
      ↔ connects list epId epid client = true := by
  show epid ∈ (eps.toList.filter fun p => connects list epId p.1 p.2).map (·.1) ↔ _
  constructor
  · intro h
    obtain ⟨p, hp, rfl⟩ := mem_map.mp h
    obtain ⟨hmem, hconnects⟩ := mem_filter.mp hp
    have hp := mem_toList_iff_getElem?_eq_some.mp hmem
    rw [hget, some.injEq] at hp
    rwa [hp]
  · intro h
    exact mem_map.mpr ⟨(epid, client), mem_filter.mpr
      ⟨mem_toList_iff_getElem?_eq_some.mpr hget, h⟩, rfl⟩

/-- A client that hears an announcement connects if it has the name, and a group or the
instance. -/
theorem connects_iff_has {epid : FdbEndpointId}
    {client : CBaseClient} {name : Text} {pattern : FdbInstanceId}
    (h : Hears eps epid list client name pattern) :
    connects list fdbInvalidId epid client = true
      ↔ client.mNsName = list.serviceName
        ∧ (fdbIsGroup client.mInstanceId = true ∨ client.mInstanceId = list.instanceId) := by
  simp [connects, isFor, h.role, h.online, h.enabled]

/-- **One announcement**: the client connects as it asked to, exactly if what it has heard of is
the group, or its own instance and no other one of the group. -/
theorem connectsAsAsked_iff (hI : ∀ client, eps[epid]? = some client → Tracks client) (e : Event) :
    ConnectsAsAsked epid eps e ↔ OneOfGroup epid eps e := by
  cases e with
  | announce net list isInitResponse =>
    refine forall_congr' fun client => forall_congr' fun name => forall_congr' fun pattern =>
      forall_congr' fun hhears => ?_
    obtain ⟨hname, hmatches⟩ := hI client hhears.get hhears.role name pattern hhears.requested
    rw [mem_connected hhears.get, connects_iff_has hhears, hname, eq_comm (a := name)]
    by_cases hsvc : list.serviceName = name
    · simp only [hsvc, true_and, forall_const]
      by_cases hpattern : fdbIsGroup pattern = true
      · simp only [hpattern, forall_const]
        by_cases hgroup : fdbIsGroup client.mInstanceId = true
        · simp [hgroup]
        · rw [if_neg hgroup, or_iff_right hgroup]
          constructor
          · intro h hinst
            exact (h.mpr hinst).symm
          · intro h
            refine ⟨?_, fun hinst => (h hinst).symm⟩
            intro heq
            rwa [← heq]
      · -- an exact instance stays as it was asked for
        have hinst : pattern = client.mInstanceId := by
          simpa [instanceMatches, hpattern] using hmatches
        rw [← hinst]
        simp [instanceMatches, hpattern]
    · simp [hsvc]
  | connect net epid url => exact Iff.rfl
  | disconnect epid => exact Iff.rfl
  | lost net epid skid => exact Iff.rfl

/-- An announcement that meets the condition keeps the client on what it asked for. -/
theorem tracks_announceTo {net : Network}
    {list : FdbMsgAddressList} {isInitResponse : Bool} {client : CBaseClient}
    (hget : eps[epid]? = some client) (h : Tracks client)
    (hone : OneOfGroup epid eps (.announce net list isInitResponse)) :
    Tracks (announceTo net list fdbInvalidId epid client).client := by
  unfold announceTo
  split
  · next hconnects =>
      apply tracks_doConnectToAddress
      intro hrole name pattern hreq
      obtain ⟨hname, hmatches⟩ := h hrole name pattern hreq
      refine ⟨hname, ?_⟩
      show instanceMatches pattern (if _ then _ else _) = true
      split
      · next hgroup =>
          -- the client has a group, so it asked for one, and the instance lies in it
          have hhears : Hears eps epid list client name pattern := by
            simp only [connects, Bool.and_eq_true, decide_eq_true_eq] at hconnects
            exact ⟨hget, hrole, hreq, hconnects.2.1, hconnects.2.2⟩
          have hsvc : list.serviceName = name :=
            ((connects_iff_has hhears).mp hconnects).1 ▸ hname
          have hpattern : fdbIsGroup pattern = true := by
            by_contra hexact
            have heq : pattern = client.mInstanceId := by
              simpa [instanceMatches, hexact] using hmatches
            rw [heq] at hexact
            exact hexact hgroup
          have hin := hone client name pattern hhears hpattern hsvc
          rwa [if_pos hgroup] at hin
      · exact hmatches
  · split
    · exact h
    · exact h

/-- **One step** that meets the condition keeps the client on what it asked for. -/
theorem tracks_step {eps' : Endpoints} {e : Event}
    (hI : ∀ client, eps[epid]? = some client → Tracks client) (hone : OneOfGroup epid eps e)
    (hstep : step eps e = some eps') : ∀ client, eps'[epid]? = some client → Tracks client := by
  -- an event of one endpoint: that one keeps track, the others are as they were
  have hinsert : ∀ (epid' : FdbEndpointId) (client client' : CBaseClient),
      eps[epid']? = some client → (Tracks client → Tracks client') →
      ∀ c, (eps.insert epid' client')[epid]? = some c → Tracks c := by
    intro epid' client client' hget hkeep c hc
    rw [get_insert] at hc
    split at hc
    · next heq =>
        subst heq
        cases hc
        exact hkeep (hI client hget)
    · exact hI c hc
  cases e with
  | announce net list isInitResponse =>
    cases hstep
    intro client' hget'
    rw [get_doConnectToServer] at hget'
    obtain ⟨client, hget, rfl⟩ := map_eq_some_iff.mp hget'
    exact tracks_announceTo hget (hI client hget) hone
  | connect net epid' url =>
    obtain ⟨client, hget, rfl⟩ := map_eq_some_iff.mp hstep
    exact hinsert epid' client _ hget fun h => tracks_doConnect h _ _ _ _ _
  | disconnect epid' =>
    obtain ⟨client, hget, rfl⟩ := map_eq_some_iff.mp hstep
    refine hinsert epid' client _ hget fun _ => ?_
    intro _ name pattern hreq
    cases hreq
  | lost net epid' skid =>
    obtain ⟨client, hget, hmap⟩ := bind_eq_some_iff.mp hstep
    obtain ⟨sk, -, rfl⟩ := map_eq_some_iff.mp hmap
    refine hinsert epid' client _ hget fun h => ?_
    unfold CBaseClient.onSessionDeleted
    dsimp only
    split
    · apply tracks_doConnect
      exact h
    · exact h

/-- **Connecting to what was asked for.**  From a connect call for a service and an instance, a
group or all groups on, in every run: every announcement makes the client connect exactly if it
asked for the service and the instance, if and only if each announcement to a client that asked for
a group is one of the group as long as the client has taken over no instance, and no other one of
the group than that instance afterwards. -/
theorem connects_iff (eps : Endpoints) (epid : FdbEndpointId) (client : CBaseClient) (name : Text)
    (pattern : FdbInstanceId) (es : List Event) :
    Along step (ConnectsAsAsked epid)
        (eps.insert epid ({ client with role := .client }.requestServiceAddress name pattern)) es
      ↔ Along step (OneOfGroup epid)
        (eps.insert epid ({ client with role := .client }.requestServiceAddress name pattern))
        es := by
  refine along_iff_of_inv (I := fun eps => ∀ client, eps[epid]? = some client → Tracks client)
    (fun eps e hI => connectsAsAsked_iff hI e)
    (fun eps e eps' hI hone hstep => tracks_step hI hone hstep) es _ ?_
  intro client' hget
  rw [get_insert, if_pos rfl, some.injEq] at hget
  subst hget
  intro _ name' pattern' hreq
  obtain ⟨rfl, rfl⟩ := Prod.mk.inj (some.inj hreq)
  exact ⟨rfl, instanceMatches_self _⟩

/-- A network where every URL is that of a local socket, and can be connected to. -/
def localNetwork : Network where
  parseUrl := fun url => some { mUrl := url, mType := .ipc, mAddr := url }
  connect := fun _ _ => some ([], 0)
  bindUDP := fun _ _ _ => none

/-- Service "a" with this instance is announced, on host "h", with an address or with none. -/
def announcement (inst : FdbInstanceId) (online : Bool) : FdbMsgAddressList where
  serviceName := [97]
  hostName := [104]
  instanceId := inst
  addressList := if online then [⟨{}, fdbExportableDomain, fdbInvalidId, none⟩] else []

/-- Client 1 has asked for group 1 of service "a". -/
def groupClient : Endpoints :=
  (∅ : Endpoints).insert 1
    ({ ({} : CBaseClient) with role := .client }.requestServiceAddress [97] 0x01ffffff#32)

/-- An instance of group 2 is announced, and the client connects; and when it has been connected to
instance 1 of group 1, and disconnected, it does not connect to instance 2. -/
theorem group_client_misconnects :
    ¬ Along step (ConnectsAsAsked 1) groupClient
        [.announce localNetwork (announcement 0x02000001#32 true) false]
      ∧ ¬ Along step (ConnectsAsAsked 1) groupClient
        [.announce localNetwork (announcement 0x01000001#32 true) false,
          .announce localNetwork (announcement 0x01000001#32 false) false,
          .announce localNetwork (announcement 0x01000002#32 true) false] := by
  have hget : groupClient[(1 : Int)]? = some
      ({ ({} : CBaseClient) with role := .client }.requestServiceAddress [97] 0x01ffffff#32) := by
    rw [groupClient, get_insert, if_pos rfl]
  constructor
  · intro h
    have hiff := h.1 _ [97] 0x01ffffff#32 ⟨hget, rfl, rfl, by decide, rfl⟩
    have hmatches := (hiff.mp (by decide +kernel)).2
    revert hmatches
    decide +kernel
  · intro h
    have hlast := ((h.2 _ rfl).2 _ rfl).1
    have hget₁ := get_doConnectToServer localNetwork (announcement 0x01000001#32 true) groupClient
      fdbInvalidId false 1
    have hget₂ := get_doConnectToServer localNetwork (announcement 0x01000001#32 false)
      (doConnectToServer localNetwork (announcement 0x01000001#32 true) groupClient fdbInvalidId
        false).endpoints fdbInvalidId false 1
    have hiff := hlast _ [97] 0x01ffffff#32 ⟨hget₂, by rfl, by rfl, by decide, by rfl⟩
    have hcalled := hiff.mpr ⟨rfl, by decide +kernel⟩
    revert hcalled
    decide +kernel

end Fdbus.Client

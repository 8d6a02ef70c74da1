/-
  Fdbus.Host.HostOnline — how a name server hears about the other hosts of its domain.

  The host server sends `NTF_HOST_ONLINE` with the addresses of a host when it comes and when it
  goes.  A name server picks one address, and has a `CInterNameProxy` for each host under it.

    * `getNsAddress` — the address that is picked, and its URL,
    * `onHostOnlineNotify` — connections are made, and dropped for a host without addresses,
    * `getNsAddress_nil` — without addresses none is picked,
    * `hasProxy_onHostOnlineNotify` — no connection is dropped,
    * `no_proxy_after_offline_iff` — what a name server has for a host whose session has ended.

  "Offline" is a host without addresses to the receiver.  The sender lists the host's addresses in
  either case, and for an empty list the receiver gives up before it looks: no connection is ever
  dropped.
-/
import Fdbus.Host.HostServer
import Fdbus.Server.Listeners

namespace Fdbus.Host

open Fdbus.OrderedMap Fdbus.Security Fdbus.Server Fdbus.Subscribe Fdbus.Run Option

/-! ## §1. Which address is picked. -/

/-- What a name server knows: its own host, the subnets of its interfaces, and whether it has a
secure channel. -/
structure NsEnvironment where
  hostName : Text
  sameSubnet : Text → Bool
  tcpSecureEnabled : Bool

/-- The candidates of one kind, secure or not: the first address of each class with its URL. -/
structure NsCandidates where
  mostBest : Option (Text × Text) := none
  secondBest : Option (Text × Text) := none
  allInterface : Option (Text × Text) := none
  fallback : Option (Text × Text) := none

/-- The best candidate. -/
def NsCandidates.select (c : NsCandidates) : Option (Text × Text) :=
  c.mostBest <|> c.secondBest <|> c.allInterface <|> c.fallback

section Pick

variable (env : NsEnvironment) (peerIp hostIp : Text)

/-- One address of the list. -/
def NsCandidates.consider (c : NsCandidates) (addr : CFdbSocketAddr) : NsCandidates :=
  if addr.mAddr = fdbIpAllInterface ∧ peerIp ≠ [] ∧ peerIp ≠ fdbLocalHost then
    { c with
      allInterface := c.allInterface <|> some (peerIp, buildUrl peerIp addr.mPort addr.mSecure) }
  else if env.sameSubnet addr.mAddr then
    { c with mostBest := c.mostBest <|> some (addr.mAddr, addr.mUrl) }
  else if addr.mAddr = hostIp then
    { c with secondBest := c.secondBest <|> some (addr.mAddr, addr.mUrl) }
  else { c with fallback := c.fallback <|> some (addr.mAddr, addr.mUrl) }

/-- The loop over the addresses: the candidates that are secure, and those that are not. -/
def considerAll (addrs : List CFdbSocketAddr) : NsCandidates × NsCandidates :=
  addrs.foldl (fun c addr =>
    if addr.mAddr = fdbLocalHost then c
    else if addr.mSecure then (c.1.consider env peerIp hostIp addr, c.2)
    else (c.1, c.2.consider env peerIp hostIp addr)) ({}, {})

end Pick

/-- `getNsAddress(host_addr, session, ns_ip, ns_url)`: "connect with other name server with secure
channel if enabled". -/
def getNsAddress (env : NsEnvironment) (peerIp : Text) (addr : FdbMsgHostAddress) :
    Option (Text × Text) :=
  let c := considerAll env peerIp addr.ipAddress (addr.addressList.map FdbMsgAddressItem.address)
  if env.tcpSecureEnabled then c.1.select <|> c.2.select else c.2.select

/-! ## §2. The notification. -/

/-- What a name server keeps for a host server: the connections to the name servers of other
hosts, what it sent as `NTF_HOST_ONLINE_LOCAL`, and the hosts that it reported as dropped. -/
structure CIntraHostProxy where
  mNameProxyTbl : NameProxyTbl := ∅
  sentLocal : List FdbMsgHostAddressList := []
  dropped : List Text := []

/-- A connection is deleted: `deleteNameProxy(proxy)` reports it and erases it. -/
def CIntraHostProxy.deleteNameProxy (hp : CIntraHostProxy) (ip : Text) (proxy : CInterNameProxy) :
    CIntraHostProxy :=
  { hp with
    mNameProxyTbl := hp.mNameProxyTbl.erase ip
    dropped := hp.dropped ++ [proxy.mHostName] }

section Notify

variable (env : NsEnvironment) (ips : SessionIps)

/-- "don't connect to self." -/
def isSelf (addr : FdbMsgHostAddress) (nsIp : Text) : Bool :=
  nsIp = ips.hostIp ∨ addr.hostName = env.hostName ∨ nsIp = fdbLocalHost ∨ nsIp = fdbIpAllInterface

/-- One host of the list, and the addresses of those that are online so far. -/
def hostOnline (s : CIntraHostProxy × List Text) (addr : FdbMsgHostAddress) :
    CIntraHostProxy × List Text :=
  match getNsAddress env ips.peerIp addr with
  | none => s
  | some (nsIp, nsUrl) =>
    if isSelf env ips addr nsIp then s
    else if addr.addressList = [] then
      match s.1.mNameProxyTbl[nsIp]? with
      | some proxy =>
        ({ s.1 with dropped := s.1.dropped ++ [proxy.mHostName] }.deleteNameProxy nsIp proxy,
          s.2)
      | none => s
    else
      match s.1.mNameProxyTbl[nsIp]? with
      | some _ => (s.1, s.2 ++ [nsIp])
      | none =>
        ({ s.1 with
            mNameProxyTbl := s.1.mNameProxyTbl.insert nsIp
              { mNsUrl := nsUrl, mHostName := addr.hostName
                mTokens := addr.tokenList.getD [] } },
          s.2 ++ [nsIp])

/-- The other connections are dropped: `isolate(it)` for each host that is not online. -/
def isolateOthers (hp : CIntraHostProxy) (online : List Text) : CIntraHostProxy :=
  hp.mNameProxyTbl.toList.foldl (fun hp e =>
    if online.contains e.1 then hp else hp.deleteNameProxy e.1 e.2) hp

/-- `onHostOnlineNotify(msg)`; `initial` if the message answers the subscription. -/
def onHostOnlineNotify (initial : Bool) (list : FdbMsgHostAddressList) (hp : CIntraHostProxy) :
    CIntraHostProxy :=
  let s := list.addressList.foldl (hostOnline env ips)
    ({ hp with sentLocal := hp.sentLocal ++ [list] }, [])
  if initial ∧ s.2 ≠ [] then isolateOthers s.1 s.2 else s.1

end Notify

/-! ## §3. No connection is dropped. -/

/-- The name server has a connection for the host. -/
def HasProxy (hostName : Text) (hp : CIntraHostProxy) : Prop :=
  ∃ (ip : Text) (proxy : CInterNameProxy), hp.mNameProxyTbl[ip]? = some proxy
    ∧ proxy.mHostName = hostName

section Keep

variable (env : NsEnvironment) (ips : SessionIps)

/-- **A host without addresses** is not looked at. -/
theorem getNsAddress_nil (peerIp : Text) {addr : FdbMsgHostAddress} (h : addr.addressList = []) :
    getNsAddress env peerIp addr = none := by
  unfold getNsAddress
  rw [h]
  cases env.tcpSecureEnabled
  · rfl
  · rfl

/-- The address that a connection for the host is made under, if there is none yet. -/
def newAddress (addr : FdbMsgHostAddress) : Option (Text × Text) :=
  (getNsAddress env ips.peerIp addr).filter fun a => !isSelf env ips addr a.1

/-- **One host of the list**: a connection is made, or nothing happens. -/
theorem mNameProxyTbl_hostOnline (s : CIntraHostProxy × List Text) (addr : FdbMsgHostAddress) :
    (hostOnline env ips s addr).1.mNameProxyTbl
      = match newAddress env ips addr with
        | none => s.1.mNameProxyTbl
        | some (nsIp, nsUrl) =>
          if s.1.mNameProxyTbl[nsIp]?.isSome then s.1.mNameProxyTbl
          else s.1.mNameProxyTbl.insert nsIp
            { mNsUrl := nsUrl, mHostName := addr.hostName
              mTokens := addr.tokenList.getD [] } := by
  unfold hostOnline newAddress
  cases hns : getNsAddress env ips.peerIp addr with
  | none => rfl
  | some a =>
    obtain ⟨nsIp, nsUrl⟩ := a
    -- an address was picked, so the list is not empty
    have hne : addr.addressList ≠ [] := by
      intro hnil
      rw [getNsAddress_nil env ips.peerIp hnil] at hns
      cases hns
    by_cases hself : isSelf env ips addr nsIp = true
    · simp [hself, Option.filter]
    · simp only [hself, hne, Option.filter, if_false, Bool.not_false, if_true]
      cases hget : s.1.mNameProxyTbl[nsIp]? with
      | none => simp
      | some proxy => simp

/-- A connection stays, whichever host is announced. -/
theorem hasProxy_hostOnline {hostName : Text} {s : CIntraHostProxy × List Text}
    (h : HasProxy hostName s.1) (addr : FdbMsgHostAddress) :
    HasProxy hostName (hostOnline env ips s addr).1 := by
  obtain ⟨ip, proxy, hget, hname⟩ := h
  refine ⟨ip, proxy, ?_, hname⟩
  rw [mNameProxyTbl_hostOnline]
  split
  · exact hget
  · next nsIp nsUrl _ =>
      split
      · exact hget
      · next hfree =>
          -- the new connection is under another address
          have hne : nsIp ≠ ip := by
            intro heq
            rw [heq, hget] at hfree
            exact hfree rfl
          rw [get_insert, if_neg hne]
          exact hget

/-- **No connection is dropped** by a notification that does not answer the subscription. -/
theorem hasProxy_onHostOnlineNotify {hostName : Text} {hp : CIntraHostProxy}
    (h : HasProxy hostName hp) (list : FdbMsgHostAddressList) :
    HasProxy hostName (onHostOnlineNotify env ips false list hp) := by
  refine List.foldlRecOn
    (motive := fun s : CIntraHostProxy × List Text => HasProxy hostName s.1) _ _ h ?_
  intro s hs addr _
  exact hasProxy_hostOnline env ips hs addr

end Keep

/-! ## §4. A host goes. -/

/-- **A host that is dropped.**  When the session of a host ends, everybody is told.  A name server
that handles this loses its connection for the host exactly if it has none. -/
theorem no_proxy_after_offline_iff (cfg : HsConfig) {hs hs' : HostServer} {session : SessionPtr}
    {info : CLocalHostInfo} (hinfo : hs.mLocalHostTbl[session]? = some info)
    (hstep : step cfg hs (.offline session) = some hs') (env : NsEnvironment) (ips : SessionIps)
    (hp : CIntraHostProxy) :
    ∃ note, hs'.notified = hs.notified ++ [note] ∧ note.receiver = none
      ∧ ((HasProxy info.mHostName hp →
          ¬ HasProxy info.mHostName (onHostOnlineNotify env ips false note.list hp))
        ↔ ¬ HasProxy info.mHostName hp) := by
  obtain ⟨_, -, rfl⟩ := map_eq_some_iff.mp hstep
  refine ⟨broadcastHostOffline info, ?_, rfl, ?_⟩
  · unfold onOffline
    rw [hinfo]
    rfl
  · constructor
    · intro hdrops hproxy
      exact hdrops hproxy (hasProxy_onHostOnlineNotify env ips hproxy _)
    · intro hnone hproxy
      exact absurd hproxy hnone

/-- The name server of host "a", which knows no subnet. -/
def plainNameServer : NsEnvironment := ⟨[97], fun _ => false, false⟩

/-- Hosts "a" and "b" register, the name server of "a" subscribes, and "b" is ready with an
address. -/
def otherHostComes (items : List FdbMsgAddressItem) : List Event :=
  [.online {}, .registerLocalHost 0 ⟨[49], [97], none⟩ [], .localHostReady 0 [] [],
    .subscribeHostOnline 0, .online {}, .registerLocalHost 1 ⟨[50], [98], none⟩ [],
    .localHostReady 1 items []]

/-- The name server of "a" hears everything. -/
def hearAll (hs : HostServer) : CIntraHostProxy :=
  hs.notified.foldl (fun hp note => onHostOnlineNotify plainNameServer {} false note.list hp) {}

/-- Host "b" is ready with an address and goes; the connection that the name server of "a" has for
it stays. -/
theorem no_proxy_after_offline_iff_kept :
    ∃ hs hs' note, run (step plainHostServer) (HostServer.online [])
        (otherHostComes [⟨⟨[117], .tcp, [50], 80, false⟩, 1, 0, none⟩]) = some hs
      ∧ step plainHostServer hs (.offline 1) = some hs' ∧ hs'.notified = hs.notified ++ [note]
      ∧ HasProxy [98] (hearAll hs)
      ∧ HasProxy [98] (onHostOnlineNotify plainNameServer {} false note.list (hearAll hs)) := by
  have hview : (run (step plainHostServer) (HostServer.online [])
      (otherHostComes [⟨⟨[117], .tcp, [50], 80, false⟩, 1, 0, none⟩])).map
      (fun hs => (hs.mLocalHostTbl[1]?.map fun host => host.mHostName,
        (step plainHostServer hs (.offline 1)).isSome,
        (hearAll hs).mNameProxyTbl[([50] : Text)]?.map fun proxy => proxy.mHostName))
      = some (some [98], true, some [98]) := by
    decide +kernel
  obtain ⟨hs, hrun, hview⟩ := map_eq_some_iff.mp hview
  rw [Prod.mk.injEq, Prod.mk.injEq] at hview
  obtain ⟨info, hinfo, hname⟩ := map_eq_some_iff.mp hview.1
  obtain ⟨hs', hstep⟩ := isSome_iff_exists.mp hview.2.1
  obtain ⟨proxy, hproxy, hproxyName⟩ := map_eq_some_iff.mp hview.2.2
  have hheld : HasProxy [98] (hearAll hs) := ⟨[50], proxy, hproxy, hproxyName⟩
  obtain ⟨note, hnote, -, hiff⟩ := no_proxy_after_offline_iff plainHostServer hinfo hstep
    plainNameServer {} (hearAll hs)
  rw [hname] at hiff
  refine ⟨hs, hs', note, hrun, hstep, hnote, hheld, ?_⟩
  by_contra hdropped
  exact hiff.mp (fun _ => hdropped) hheld

/-- The name server of "a" hears everything: it has a connection for "b" when "b" is ready, and
still has it when the session of "b" has ended and "b" is not registered any more. -/
theorem dropped_host_keeps_proxy :
    let comes := otherHostComes [⟨⟨[117], .tcp, [50], 80, false⟩, 1, 0, none⟩]
    let view (hs : HostServer) := (hs.mLocalHostTbl.toList.map (fun e => e.2.mHostName),
      (hearAll hs).mNameProxyTbl.toList.map fun e => (e.1, e.2.mHostName))
    (run (step plainHostServer) (HostServer.online []) comes).map view
        = some ([[97], [98]], [([50], [98])])
      ∧ (run (step plainHostServer) (HostServer.online []) (comes ++ [.offline 1])).map view
        = some ([[97]], [([50], [98])]) := by
  refine ⟨?_, ?_⟩
  · decide +kernel
  · decide +kernel

end Fdbus.Host

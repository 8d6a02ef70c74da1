/-
  Fdbus.Client.SessionClasses — one secure and one insecure session per client.

  "Address connection policy: for the same address, only one secure and one inscure connect; for
  different addresses, only one for secure and another for insecure": `doConnect` opens a session
  only if there is none for the address and none of its security class.  Here an attempt to connect
  can also end with a session that is rejected; it is destroyed like any other, and its socket may
  try to connect again before `doConnect` returns.

    * `doConnectWith_ofAnswer` — with the answer of a network, this is the `doConnect` of a client,
    * `one_session_per_class` — in every run a client has at most one secure and at most one
      insecure session.

  Socket ids are counted up and never used again; the `int32_t` of the source cannot come round
  without an overflow.
-/
import Fdbus.Client.Answers
import Fdbus.Library.MultiMap
import Fdbus.Library.Run

namespace Fdbus.Client

open Fdbus.OrderedMap Fdbus.Run Fdbus.Security Fdbus.Server List

/-! ## §1. Attempts to connect. -/

/-- How an attempt to connect ends: without a socket, without a connection, with a session that
`addConnectedSession` rejects, or with one that it takes. -/
inductive Attempt where
  | noSocket
  | failed
  | rejected
  | accepted (peerIp : Text) (peerPort : Int)

/-- The attempt that a network answers. -/
def Attempt.ofAnswer : Option (Text × Int) → Attempt
  | none => .noSocket
  | some (peerIp, peerPort) => .accepted peerIp peerPort

namespace CBaseClient

variable (net : Network) (epid : FdbEndpointId)

/-- `onSessionDeleted` connects again: the client is to reconnect, and there is no service to ask
the name server for. -/
def reconnects (client : CBaseClient) : Bool :=
  client.reconnectEnabled && client.reconnectActivated
    && (client.role = .nsServer || client.mNsName = [])

/-- A session that is taken. -/
def accept (client : CBaseClient) (addr : CFdbSocketAddr) (peerIp : Text) (peerPort : Int)
    (hostName : Text) (udpPort : Int) : CBaseClient :=
  let sk : CClientSocket := ⟨addr, peerIp, peerPort, hostName, udpPort, none, fdbInvalidId⟩
  { client with
    sockets := client.sockets.insert client.nextSkid
      (sk.updateSessionInfo net epid client.UDPEnabled)
    nextSkid := client.nextSkid + 1
    reconnectActivated := true }

/-- `doConnect(url, host_name, udp_port)`, with the outcome of the attempts it makes. -/
def doConnectWith : List Attempt → CBaseClient → Text → Text → Int → CBaseClient × Option Nat
  | attempts, client, url, hostName, udpPort =>
    match net.parseUrl url with
    | none => (client, none)
    | some addr =>
      if addr.mType = .svc then
        (client.requestServiceAddress addr.mAddr (BitVec.ofInt 32 addr.mPort), none)
      else if addr.mType ≠ .ipc ∧ addr.mSecure ∧ !client.TCPSecureEnabled then (client, none)
      else
        match client.connectedSession addr with
        | some (skid, sk) => (client.reuse net epid addr udpPort skid sk, some skid)
        | none =>
          match attempts with
          | [] => (client, none)
          | .noSocket :: _ => (client, none)
          | .failed :: _ => ({ client with nextSkid := client.nextSkid + 1 }, none)
          | .accepted peerIp peerPort :: _ =>
            (client.accept net epid addr peerIp peerPort hostName udpPort,
              some client.nextSkid)
          | .rejected :: rest =>
            -- `delete session` takes its socket with it; `deleteSocket(skid)` finds nothing
            let client := { client with nextSkid := client.nextSkid + 1 }
            (if client.reconnects then
                (doConnectWith rest client addr.mUrl [] fdbInetPortInvalid).1
              else client, none)

/-- `CClientSocket::onSessionDeleted(session)`. -/
def onSessionDeletedWith (attempts : List Attempt) (client : CBaseClient) (skid : Nat)
    (sk : CClientSocket) : CBaseClient :=
  let client := { client with sockets := client.sockets.erase skid }
  if client.reconnects then
    (doConnectWith net epid attempts client sk.mAddress.mUrl [] fdbInetPortInvalid).1
  else client

/-- Without rejections this is the `doConnect` of the client: an attempt ends as the network
answers. -/
theorem doConnectWith_ofAnswer (client : CBaseClient) (url hostName : Text) (udpPort : Int)
    (answer : Option (Text × Int))
    (h : ∀ addr, net.parseUrl url = some addr → net.connect epid addr = answer) :
    doConnectWith net epid [.ofAnswer answer] client url hostName udpPort
      = client.doConnect net epid url hostName udpPort := by
  unfold doConnectWith doConnect
  cases hurl : net.parseUrl url with
  | none => rfl
  | some addr =>
    dsimp only
    rw [h addr hurl]
    cases client.connectedSession addr with
    | some found => rfl
    | none => cases answer <;> rfl

/-! ## §2. Runs. -/

end CBaseClient

/-- What happens to the sessions of a client: it connects, loses a session, gives up one or all of
them, or is set up in another way. -/
inductive SessionEvent where
  | doConnect (url hostName : Text) (udpPort : Int) (attempts : List Attempt)
  | lost (skid : Nat) (attempts : List Attempt)
  | doDisconnect (skid : Option Nat)
  | cbDisconnect
  | configure (other : CBaseClient)

namespace CBaseClient

variable (net : Network) (epid : FdbEndpointId)

/-- One event. -/
def sessionStep (client : CBaseClient) : SessionEvent → Option CBaseClient
  | .doConnect url hostName udpPort attempts =>
    some (doConnectWith net epid attempts client url hostName udpPort).1
  | .lost skid attempts =>
    client.sockets[skid]?.map (onSessionDeletedWith net epid attempts client skid)
  | .doDisconnect (some skid) => some { client with sockets := client.sockets.erase skid }
  | .doDisconnect none => some client.doDisconnect
  | .cbDisconnect => some client.cbDisconnect
  | .configure other => some { other with sockets := client.sockets, nextSkid := client.nextSkid }

/-- The connected sessions whose container is secure, or those whose container is not. -/
def sessions (client : CBaseClient) (secure : Bool) : List (Nat × CClientSocket) :=
  client.sockets.toList.filter fun p => p.2.mAddress.mSecure == secure

/-- Two sessions of one class are the same. -/
def OnePerClass (client : CBaseClient) : Prop :=
  ∀ (k k' : Nat) (sk sk' : CClientSocket), client.sockets[k]? = some sk →
    client.sockets[k']? = some sk' → sk.mAddress.mSecure = sk'.mAddress.mSecure → k = k'

/-- The invariant in numbers. -/
theorem OnePerClass.length_sessions {client : CBaseClient} (h : client.OnePerClass)
    (secure : Bool) : (client.sessions secure).length ≤ 1 := by
  have hmem : ∀ p ∈ client.sessions secure,
      client.sockets[p.1]? = some p.2 ∧ p.2.mAddress.mSecure = secure := by
    intro p hp
    obtain ⟨hlist, hclass⟩ := mem_filter.mp hp
    exact ⟨Std.ExtTreeMap.mem_toList_iff_getElem?_eq_some.mp hlist, beq_iff_eq.mp hclass⟩
  have hnodup : ((client.sessions secure).map Prod.fst).Nodup :=
    (filter_sublist.map Prod.fst).nodup (nodup_map_fst client.sockets)
  cases hlist : client.sessions secure with
  | nil => exact Nat.zero_le 1
  | cons p rest =>
    cases rest with
    | nil => exact Nat.le_refl 1
    | cons q rest =>
      -- two of them would have one key
      rw [hlist] at hmem hnodup
      obtain ⟨hp, hpclass⟩ := hmem p mem_cons_self
      obtain ⟨hq, hqclass⟩ := hmem q (mem_cons_of_mem _ mem_cons_self)
      have hkey : p.1 = q.1 := h p.1 q.1 p.2 q.2 hp hq (hpclass.trans hqclass.symm)
      simp [hkey] at hnodup

/-! ## §3. What the events keep. -/

section Kept

variable {client : CBaseClient}

variable {client' : CBaseClient} {sk s : CClientSocket}

theorem onePerClass_of_sockets (h : client.OnePerClass)
    (hsockets : client'.sockets = client.sockets) : client'.OnePerClass := by
  unfold OnePerClass
  rw [hsockets]
  exact h

theorem OnePerClass.erase (h : client.OnePerClass) (skid : Nat) :
    OnePerClass { client with sockets := client.sockets.erase skid } := by
  have hsub : ∀ (k : Nat) (sk : CClientSocket), (client.sockets.erase skid)[k]? = some sk →
      client.sockets[k]? = some sk := by
    intro k sk hk
    rw [get_erase] at hk
    split at hk
    · cases hk
    · exact hk
  intro k k' sk sk' hk hk' hclass
  exact h k k' sk sk' (hsub k sk hk) (hsub k' sk' hk') hclass

/-- A session that stays in its class can be replaced. -/
theorem OnePerClass.put (h : client.OnePerClass) {skid : Nat}
    (hget : client.sockets[skid]? = some sk) (hsame : s.mAddress.mSecure = sk.mAddress.mSecure) :
    OnePerClass { client with sockets := client.sockets.insert skid s } := by
  -- whatever is in the table now, one of the same class was there before
  have hold : ∀ (k : Nat) (t : CClientSocket), (client.sockets.insert skid s)[k]? = some t →
      ∃ t', client.sockets[k]? = some t' ∧ t'.mAddress.mSecure = t.mAddress.mSecure := by
    intro k t hk
    rw [get_insert] at hk
    split at hk
    · next hkey =>
        cases hk
        exact ⟨sk, hkey ▸ hget, hsame.symm⟩
    · exact ⟨t, hk, rfl⟩
  intro k k' t t' hk hk' hclass
  obtain ⟨u, hu, huclass⟩ := hold k t hk
  obtain ⟨u', hu', huclass'⟩ := hold k' t' hk'
  exact h k k' u u' hu hu' (by rw [huclass, huclass', hclass])

/-- A session of a class that is not there can be added. -/
theorem OnePerClass.add (h : client.OnePerClass) (skid : Nat)
    (hnew : ∀ (k : Nat) (sk : CClientSocket), client.sockets[k]? = some sk →
      sk.mAddress.mSecure ≠ s.mAddress.mSecure) :
    OnePerClass { client with sockets := client.sockets.insert skid s } := by
  intro k k' t t' hk hk' hclass
  change (client.sockets.insert skid s)[k]? = some t at hk
  change (client.sockets.insert skid s)[k']? = some t' at hk'
  rw [get_insert] at hk hk'
  split at hk
  · next hkey =>
      cases hk
      split at hk'
      · next hkey' => exact hkey.symm.trans hkey'
      · exact absurd hclass.symm (hnew k' t' hk')
  · split at hk'
    · cases hk'
      exact absurd hclass (hnew k t hk)
    · exact h k k' t t' hk hk' hclass

theorem mAddress_updateSessionInfo (udpEnabled : Bool) (sk : CClientSocket) :
    (sk.updateSessionInfo net epid udpEnabled).mAddress = sk.mAddress := by
  unfold CClientSocket.updateSessionInfo CClientSocket.bindUDPSocket
  split
  · split <;> rfl
  · rfl

/-- A session is accepted only if there is none of its class. -/
theorem onePerClass_accept (h : client.OnePerClass) {addr : CFdbSocketAddr}
    (hnone : client.connectedSession addr = none) (peerIp : Text) (peerPort : Int)
    (hostName : Text) (udpPort : Int) :
    (client.accept net epid addr peerIp peerPort hostName udpPort).OnePerClass := by
  refine onePerClass_of_sockets (h.add client.nextSkid ?_) rfl
  intro k sk hget hclass
  rw [mAddress_updateSessionInfo] at hclass
  apply (connectedSession_none_iff client addr).mp hnone
  exact ⟨k, sk, hget, Bool.or_eq_true_iff.mpr (.inr (decide_eq_true hclass))⟩

/-- `doConnect`, with all that its attempts may lead to. -/
theorem onePerClass_doConnectWith (attempts : List Attempt) (client : CBaseClient)
    (url hostName : Text) (udpPort : Int) (h : client.OnePerClass) :
    (doConnectWith net epid attempts client url hostName udpPort).1.OnePerClass := by
  fun_induction doConnectWith net epid attempts client url hostName udpPort with
  | case1 | case3 | case5 | case6 => exact h
  | case2 =>
    -- the name server is asked for the service
    unfold requestServiceAddress
    split
    · exact h
    · exact onePerClass_of_sockets h rfl
  | case4 attempts client url hostName udpPort addr _ _ _ skid sk hfound =>
    unfold reuse
    split
    · apply h.put (get_of_connectedSession hfound)
      rw [mAddress_updateSessionInfo]
    · exact h
  | case7 => exact onePerClass_of_sockets h rfl
  | case8 client url hostName udpPort addr _ _ _ hnone peerIp peerPort =>
    exact onePerClass_accept net epid h hnone peerIp peerPort hostName udpPort
  | case9 client url hostName udpPort addr _ _ _ _ rest client' ih =>
    -- a rejected session is gone when its socket tries again
    have h' : client'.OnePerClass := onePerClass_of_sockets h rfl
    split
    · exact ih h'
    · exact h'

theorem onePerClass_of_empty (h : client.sockets = ∅) : client.OnePerClass := by
  intro k k' sk sk' hk
  rw [h] at hk
  simp at hk

/-- One event keeps the invariant. -/
theorem onePerClass_sessionStep (h : client.OnePerClass) (e : SessionEvent)
    (hstep : client.sessionStep net epid e = some client') : client'.OnePerClass := by
  cases e with
  | doConnect url hostName udpPort attempts =>
    cases hstep
    exact onePerClass_doConnectWith net epid attempts client url hostName udpPort h
  | lost skid attempts =>
    obtain ⟨sk, -, rfl⟩ := Option.map_eq_some_iff.mp hstep
    unfold onSessionDeletedWith
    dsimp only
    split
    · exact onePerClass_doConnectWith net epid attempts _ _ _ _ (h.erase skid)
    · exact h.erase skid
  | doDisconnect skid =>
    cases skid with
    | some skid =>
      cases hstep
      exact h.erase skid
    | none =>
      cases hstep
      exact onePerClass_of_empty rfl
  | cbDisconnect =>
    cases hstep
    exact onePerClass_of_empty rfl
  | configure other =>
    cases hstep
    exact onePerClass_of_sockets h rfl

end Kept

/-- **One secure and one insecure session**: whatever connects, fails, is rejected or is lost, a
client never has two sessions of one class. -/
theorem one_session_per_class {client client' : CBaseClient} (hstart : client.sockets = ∅)
    {es : List SessionEvent} (hrun : run (sessionStep net epid) client es = some client')
    (secure : Bool) : (client'.sessions secure).length ≤ 1 := by
  have hinv : client'.OnePerClass := by
    refine run_along (G := fun _ _ => True) (P := OnePerClass) ?_ (onePerClass_of_empty hstart)
      (along_true _ es client) hrun
    intro s e s' _ hs hstep
    exact onePerClass_sessionStep net epid hs e hstep
  exact hinv.length_sessions secure

/-- Two insecure addresses and a secure one. -/
def threeAddresses : Network where
  parseUrl url :=
    if url = [97] then some ⟨[97], .tcp, [97], 1, false⟩
    else if url = [98] then some ⟨[98], .tcp, [98], 2, false⟩
    else some ⟨[99], .tcp, [99], 3, true⟩
  connect _ _ := none
  bindUDP _ _ _ := none

/-- A client that may use secure addresses and reconnects. -/
def secureClient : CBaseClient := { TCPSecureEnabled := true, reconnectEnabled := true }

/-- The client connects to the first address and to the secure one, finds the second one served,
and loses the first session; the new session is rejected, and the next one taken. -/
def lostAndRejected : List SessionEvent :=
  [.doConnect [97] [] 0 [.accepted [97] 1], .doConnect [99] [] 0 [.accepted [99] 3],
    .doConnect [98] [] 0 [.accepted [98] 2], .lost 0 [.rejected, .accepted [97] 1]]

theorem one_session_per_class_reconnected :
    ∃ client', run (sessionStep threeAddresses 0) secureClient lostAndRejected = some client'
      ∧ client'.sockets.toList.map Prod.fst = [1, 3]
      ∧ ∀ secure, (client'.sessions secure).length ≤ 1 := by
  have hkeys : (run (sessionStep threeAddresses 0) secureClient lostAndRejected).map
      (fun client' => client'.sockets.toList.map Prod.fst) = some [1, 3] := by
    decide +kernel
  obtain ⟨client', hrun, hkeys⟩ := Option.map_eq_some_iff.mp hkeys
  exact ⟨client', hrun, hkeys, one_session_per_class threeAddresses 0 rfl hrun⟩

end CBaseClient

end Fdbus.Client

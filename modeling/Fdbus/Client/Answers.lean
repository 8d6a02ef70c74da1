/-
  Fdbus.Client.Answers — when a client gets a session for every address of a list.

  `doConnectToAddress` goes through the addresses of an announcement and reports `tcp_failure` if
  there is one that it has no session for.  A session that is there serves an address if it is
  connected to it, and also if it is of the same security class.

    * `reach` — what one address needs: it can be read and used, and a session serves it or the
      network answers,
    * `answered` — every address of a list has what it needs, one after the other,
    * `tcpFailure_iff` — a client without sessions has no `tcp_failure` exactly if the list is
      answered.
-/
import Fdbus.Client.Connect

namespace Fdbus.Client

open Fdbus.OrderedMap Fdbus.Security Fdbus.Server List Std.ExtTreeMap

/-! ## §1. What a list needs of the network. -/

/-- `doConnect` uses the session for the address. -/
def CClientSocket.serves (addr : CFdbSocketAddr) (sk : CClientSocket) : Bool :=
  sk.connected addr || sk.mAddress.mSecure = addr.mSecure

/-- `doConnect` tries the address: it is not the name of a service, and secure TCP only if that is
enabled. -/
def usable (secure : Bool) (addr : CFdbSocketAddr) : Bool :=
  addr.mType ≠ .svc && !(addr.mType ≠ .ipc && addr.mSecure && !secure)

theorem usable_iff (secure : Bool) (addr : CFdbSocketAddr) :
    usable secure addr = true
      ↔ addr.mType ≠ .svc
        ∧ ¬(addr.mType ≠ .ipc ∧ addr.mSecure = true ∧ (!secure) = true) := by
  unfold usable
  rw [Bool.and_eq_true, Bool.not_eq_true', Bool.eq_false_iff]
  simp only [decide_eq_true_eq, Bool.and_eq_true, ne_eq, and_assoc]

section Reach

variable (net : Network) (epid : FdbEndpointId) (secure : Bool)

/-- One address, with the sessions that were opened so far. -/
def reach (opened : List CClientSocket) (item : FdbMsgAddressItem) : Option (List CClientSocket) :=
  match net.parseUrl item.address.mUrl with
  | none => none
  | some addr =>
    if !usable secure addr then none
    else if opened.any (·.serves addr) then some opened
    else
      match net.connect epid addr with
      | none => none
      | some (peerIp, peerPort) =>
        some ({ mAddress := addr, mPeerIp := peerIp, mPeerPort := peerPort } :: opened)

/-- Every address of a list has a session in the end. -/
def answered (items : List FdbMsgAddressItem) : Bool :=
  (items.foldlM (reach net epid secure) []).isSome

end Reach

/-! ## §2. The sessions of a client. -/

/-- The sessions of a client serve what the opened ones serve. -/
structure Holds (secure : Bool) (client : CBaseClient) (opened : List CClientSocket) : Prop where
  secure : client.TCPSecureEnabled = secure
  fresh : ∀ (k : Nat) (sk : CClientSocket), client.sockets[k]? = some sk → k < client.nextSkid
  serves : ∀ addr, (∃ (k : Nat) (sk : CClientSocket), client.sockets[k]? = some sk
    ∧ sk.serves addr = true) ↔ ∃ s ∈ opened, s.serves addr = true

section Sockets

variable {client : CBaseClient} {secure : Bool} {opened : List CClientSocket}

variable {sk s : CClientSocket}

theorem get_of_connectedSession {addr : CFdbSocketAddr} {k : Nat}
    (h : client.connectedSession addr = some (k, sk)) : client.sockets[k]? = some sk := by
  unfold CBaseClient.connectedSession at h
  rw [Option.or_eq_some_iff] at h
  rw [← mem_toList_iff_getElem?_eq_some]
  rcases h with hfirst | ⟨_, hsecond⟩
  · exact mem_of_find?_eq_some hfirst
  · exact mem_of_find?_eq_some hsecond

theorem connectedSession_none_iff (client : CBaseClient) (addr : CFdbSocketAddr) :
    client.connectedSession addr = none
      ↔ ¬∃ (k : Nat) (sk : CClientSocket), client.sockets[k]? = some sk
        ∧ sk.serves addr = true := by
  unfold CBaseClient.connectedSession
  rw [Option.or_eq_none_iff, find?_eq_none, find?_eq_none]
  constructor
  · intro h hserves
    obtain ⟨k, sk, hget, hsk⟩ := hserves
    have hmem := mem_toList_iff_getElem?_eq_some.mpr hget
    rcases Bool.or_eq_true_iff.mp hsk with hconnected | hclass
    · exact h.1 (k, sk) hmem hconnected
    · exact h.2 (k, sk) hmem hclass
  · intro h
    constructor
    · intro p hp hconnected
      exact h ⟨p.1, p.2, mem_toList_iff_getElem?_eq_some.mp hp,
        Bool.or_eq_true_iff.mpr (.inl hconnected)⟩
    · intro p hp hclass
      exact h ⟨p.1, p.2, mem_toList_iff_getElem?_eq_some.mp hp,
        Bool.or_eq_true_iff.mpr (.inr hclass)⟩

/-- Whether there is a session for an address, read off the opened ones. -/
theorem Holds.connectedSession_none_iff (h : Holds secure client opened) (addr : CFdbSocketAddr) :
    client.connectedSession addr = none ↔ opened.any (·.serves addr) = false := by
  rw [Client.connectedSession_none_iff, h.serves addr, ← any_eq_true, Bool.not_eq_true]

theorem holds_empty (hempty : client.sockets = ∅) : Holds client.TCPSecureEnabled client [] := by
  have hnone : ∀ (k : Nat) (sk : CClientSocket), client.sockets[k]? ≠ some sk := by
    rw [hempty]
    simp
  refine ⟨rfl, ?_, ?_⟩
  · intro k sk hk
    exact absurd hk (hnone k sk)
  · intro addr
    constructor
    · intro h
      obtain ⟨k, sk, hk, _⟩ := h
      exact absurd hk (hnone k sk)
    · intro h
      obtain ⟨s, hs, _⟩ := h
      cases hs

/-- A session changes, but not what it serves. -/
theorem Holds.put (h : Holds secure client opened) {k : Nat} (hget : client.sockets[k]? = some sk)
    (hsame : ∀ addr, s.serves addr = sk.serves addr) :
    Holds secure { client with sockets := client.sockets.insert k s } opened := by
  refine ⟨h.secure, ?_, ?_⟩
  · intro k' sk' hk'
    change (client.sockets.insert k s)[k']? = some sk' at hk'
    rw [get_insert] at hk'
    split at hk'
    · next heq => exact heq ▸ h.fresh k sk hget
    · exact h.fresh k' sk' hk'
  · intro addr
    show (∃ (k' : Nat) (sk' : CClientSocket), (client.sockets.insert k s)[k']? = some sk'
      ∧ sk'.serves addr = true) ↔ _
    rw [exists_get_insert, hsame addr, ← h.serves addr]
    constructor
    · intro hfound
      rcases hfound with hserves | ⟨k', sk', _, hk', hserves⟩
      · exact ⟨k, sk, hget, hserves⟩
      · exact ⟨k', sk', hk', hserves⟩
    · intro hfound
      obtain ⟨k', sk', hk', hserves⟩ := hfound
      by_cases hk : k = k'
      · rw [← hk, hget, Option.some.injEq] at hk'
        exact .inl (hk' ▸ hserves)
      · exact .inr ⟨k', sk', hk, hk', hserves⟩

/-- A new session. -/
theorem Holds.add (h : Holds secure client opened)
    (hsame : ∀ addr, sk.serves addr = s.serves addr) (activated : Bool) :
    Holds secure { client with
      sockets := client.sockets.insert client.nextSkid sk
      nextSkid := client.nextSkid + 1
      reconnectActivated := activated } (s :: opened) := by
  refine ⟨h.secure, ?_, ?_⟩
  · intro k sk' hk
    change (client.sockets.insert client.nextSkid sk)[k]? = some sk' at hk
    show k < client.nextSkid + 1
    rw [get_insert] at hk
    split at hk
    · omega
    · have := h.fresh k sk' hk
      omega
  · intro addr
    rw [exists_mem_cons_iff, ← h.serves addr, ← hsame addr]
    show (∃ (k : Nat) (sk' : CClientSocket),
      (client.sockets.insert client.nextSkid sk)[k]? = some sk' ∧ sk'.serves addr = true) ↔ _
    rw [exists_get_insert]
    apply or_congr_right
    constructor
    · intro hfound
      obtain ⟨k, sk', _, hk, hserves⟩ := hfound
      exact ⟨k, sk', hk, hserves⟩
    · intro hfound
      obtain ⟨k, sk', hk, hserves⟩ := hfound
      have := h.fresh k sk' hk
      exact ⟨k, sk', by omega, hk, hserves⟩

end Sockets

/-! ## §3. One address, and the list. -/

section Addresses

variable (net : Network) (epid : FdbEndpointId) {secure : Bool}

/-- Binding a UDP port changes nothing about whom a session serves. -/
theorem serves_updateSessionInfo (udpEnabled : Bool) (sk : CClientSocket) (addr : CFdbSocketAddr) :
    (sk.updateSessionInfo net epid udpEnabled).serves addr = sk.serves addr := by
  unfold CClientSocket.updateSessionInfo
  split
  · unfold CClientSocket.bindUDPSocket
    split
    · rfl
    · rfl
  · rfl

variable {r : ConnectResult} (list : FdbMsgAddressList) {client : CBaseClient}
  {opened : List CClientSocket}

theorem holds_reuse
    (h : Holds secure client opened) (addr : CFdbSocketAddr) (udpPort : Int) {k : Nat}
    {sk : CClientSocket} (hget : client.sockets[k]? = some sk) :
    Holds secure (client.reuse net epid addr udpPort k sk) opened
      ∧ ((client.reuse net epid addr udpPort k sk).sockets[k]?).isSome = true := by
  unfold CBaseClient.reuse
  split
  · refine ⟨h.put hget ?_, ?_⟩
    · intro addr'
      rw [serves_updateSessionInfo]
      rfl
    · show ((client.sockets.insert k _)[k]?).isSome = true
      rw [get_insert, if_pos rfl]
      rfl
  · refine ⟨h, ?_⟩
    rw [hget]
    rfl

/-- An address that `doConnect` does not try. -/
theorem doConnect_unusable {addr : CFdbSocketAddr} {url : Text}
    (hurl : net.parseUrl url = some addr) (huse : ¬ usable client.TCPSecureEnabled addr = true)
    (hostName : Text) (udpPort : Int) :
    (client.doConnect net epid url hostName udpPort).2 = none := by
  unfold CBaseClient.doConnect
  rw [hurl]
  dsimp only
  by_cases hsvc : addr.mType = .svc
  · rw [if_pos hsvc]
  · rw [if_neg hsvc, if_pos]
    by_contra hallowed
    exact huse ((usable_iff client.TCPSecureEnabled addr).mpr ⟨hsvc, hallowed⟩)

/-- **One call of `doConnect`**: there is a session exactly if the address is reached. -/
theorem doConnect_reach
    (h : Holds secure client opened) (item : FdbMsgAddressItem) (hostName : Text) (udpPort : Int) :
    match reach net epid secure opened item with
    | none => (client.doConnect net epid item.address.mUrl hostName udpPort).2 = none
    | some opened' =>
      Holds secure (client.doConnect net epid item.address.mUrl hostName udpPort).1 opened'
        ∧ ∃ k, (client.doConnect net epid item.address.mUrl hostName udpPort).2 = some k
          ∧ ((client.doConnect net epid item.address.mUrl hostName udpPort).1.sockets[k]?).isSome
            = true := by
  unfold reach
  cases hurl : net.parseUrl item.address.mUrl with
  | none =>
    unfold CBaseClient.doConnect
    rw [hurl]
  | some addr =>
    by_cases huse : usable secure addr = true
    · obtain ⟨hsvc, hallowed⟩ := (usable_iff secure addr).mp huse
      rw [← h.secure] at hallowed
      unfold CBaseClient.doConnect
      rw [hurl]
      dsimp only
      rw [if_neg hsvc, if_neg hallowed]
      simp only [huse, Bool.not_true, Bool.false_eq_true, if_false]
      have hsession := h.connectedSession_none_iff addr
      cases hany : opened.any (·.serves addr) with
      | true =>
        -- a session serves the address
        rw [hany] at hsession
        obtain ⟨⟨k, sk⟩, hfound⟩ :=
          Option.ne_none_iff_exists'.mp (mt hsession.mp Bool.true_eq_false.mp)
        obtain ⟨hholds, hget⟩ :=
          holds_reuse net epid h addr udpPort (get_of_connectedSession hfound)
        simp only [if_true, hfound]
        exact ⟨hholds, k, rfl, hget⟩
      | false =>
        simp only [Bool.false_eq_true, if_false, hsession.mpr hany]
        cases net.connect epid addr with
        | none => rfl
        | some peer =>
          refine ⟨h.add ?_ true, client.nextSkid, rfl, ?_⟩
          · intro addr'
            rw [serves_updateSessionInfo]
            rfl
          · show ((client.sockets.insert client.nextSkid _)[client.nextSkid]?).isSome = true
            rw [get_insert, if_pos rfl]
            rfl
    · simp only [huse, Bool.not_false, if_true]
      rw [← h.secure] at huse
      exact doConnect_unusable net epid hurl huse hostName udpPort

/-- One address in `doConnectToAddress`. -/
theorem connectAddress_reach
    (h : Holds secure r.client opened) (list : FdbMsgAddressList) (item : FdbMsgAddressItem) :
    match reach net epid secure opened item with
    | none => (connectAddress net list epid r item).tcpFailure = true
    | some opened' =>
      Holds secure (connectAddress net list epid r item).client opened'
        ∧ (connectAddress net list epid r item).tcpFailure = r.tcpFailure := by
  have hconnect := doConnect_reach net epid h item list.hostName
    (item.udpPort.getD fdbInetPortInvalid)
  unfold connectAddress
  cases hreach : reach net epid secure opened item with
  | none =>
    rw [hreach] at hconnect
    dsimp only at hconnect ⊢
    rw [hconnect]
    rfl
  | some opened' =>
    rw [hreach] at hconnect
    dsimp only at hconnect ⊢
    obtain ⟨hholds, k, hk, hsome⟩ := hconnect
    obtain ⟨sk, hsk⟩ := Option.isSome_iff_exists.mp hsome
    have hput : Holds secure _ opened' :=
      hholds.put (s := { sk with mInterfaceId := item.interfaceId }) hsk fun _ => rfl
    rw [hk]
    simp only [Option.bind_some, hsk, Option.map_some]
    split
    · split
      · exact ⟨hput, rfl⟩
      · exact ⟨hput, rfl⟩
    · exact ⟨hput, rfl⟩

/-- A failure is not taken back. -/
theorem tcpFailure_foldl (items : List FdbMsgAddressItem) (h : r.tcpFailure = true) :
    (items.foldl (connectAddress net list epid) r).tcpFailure = true := by
  refine foldlRecOn (motive := fun r : ConnectResult => r.tcpFailure = true) _ _ h ?_
  intro r hr item _
  unfold connectAddress
  dsimp only
  split
  · rfl
  · split
    · split
      · exact hr
      · exact hr
    · exact hr

/-- The loop, from a state in which nothing has failed: by induction over the addresses that are
left, with the sessions that were opened. -/
theorem tcpFailure_foldl_iff (items : List FdbMsgAddressItem)
    {r : ConnectResult} {opened : List CClientSocket} (h : Holds secure r.client opened)
    (hr : r.tcpFailure = false) :
    (items.foldl (connectAddress net list epid) r).tcpFailure = false
      ↔ (items.foldlM (reach net epid secure) opened).isSome = true := by
  induction items generalizing r opened with
  | nil => exact ⟨fun _ => rfl, fun _ => hr⟩
  | cons item items ih =>
    have hone := connectAddress_reach net epid h list item
    rw [foldl_cons, foldlM_cons]
    cases hreach : reach net epid secure opened item with
    | none =>
      rw [hreach] at hone
      rw [tcpFailure_foldl net epid list items hone]
      constructor
      · intro hfalse
        cases hfalse
      · intro hsome
        cases hsome
    | some opened' =>
      rw [hreach] at hone
      exact ih hone.1 (hone.2.trans hr)

/-- **A client without sessions** has one for every address of an announcement exactly if the list
is answered. -/
theorem tcpFailure_iff (hempty : client.sockets = ∅) (list : FdbMsgAddressList) :
    (doConnectToAddress net list epid client).tcpFailure = false
      ↔ answered net epid client.TCPSecureEnabled list.addressList = true := by
  have hstart : (adopt list client).sockets = ∅ := hempty
  exact tcpFailure_foldl_iff net epid list list.addressList (holds_empty hstart) rfl

end Addresses

end Fdbus.Client

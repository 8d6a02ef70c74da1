/-
  Fdbus.DataPool.ClientTable — which clients `mDpClientTbl` names.

  A pool is told the addresses of the servers of other pools.  `connect` makes a client for a
  server that it does not know, and connects again to one that it knows; a client that loses its
  last session is destroyed.

    * `connect`, `hup` — as the source has them, over `doConnectToAddress` of a client,
    * `Exact` — the table names every client that exists once, and no other,
    * `exact_iff` — so it is in each state of a run, exactly if every list with addresses that is
      for a known server cannot be connected to, and every other one can.

  The client is entered each time it has been connected, known or not, and only then.
-/
import Fdbus.Client.Answers
import Fdbus.DataPool.Pool

namespace Fdbus.DataPool

open Fdbus.OrderedMap Fdbus.Run Fdbus.Client Fdbus.Security Fdbus.Server Fdbus.Subscribe
open List Option Bool

/-! ## §1. Connecting. -/

/-- `fdbEventGroup(_event)`. -/
def fdbEventGroup (event : FdbMsgCode) : FdbDomainId := (event >>> 24).setWidth 8

/-- `FDB_DATAPOOL_SERVER_NAME`: "org.fdbus.datapool". -/
def fdbDatapoolServerName : Text :=
  [111, 114, 103, 46, 102, 100, 98, 117, 115, 46, 100, 97, 116, 97, 112, 111, 111, 108]

/-- "This is just a workaround since we are not able to get UDP from NS monitor". -/
def autoUdpPort (item : FdbMsgAddressItem) : FdbMsgAddressItem :=
  { item with udpPort := item.udpPort.map fun _ => fdbInetPortAuto }

namespace CDataPool

variable {L : Type}

/-- The list is of another domain, or the pool's own server: "do not connect to self". -/
def ignores (p : CDataPool L) (list : FdbMsgAddressList) : Bool :=
  fdbEventGroup list.instanceId ≠ p.mDomainId
    || (list.isLocal && p.mDpServer = some list.instanceId)

/-- `findClient(host_name, svc_name, instance_id)`. -/
def findClient (p : CDataPool L) (list : FdbMsgAddressList) : Option (ClientPtr × CDpClient) :=
  p.mDpClientTbl.findSome? fun c =>
    (p.clients[c]?.filter fun client => client.mInstanceId = list.instanceId
      && client.mNsName = list.serviceName && client.mHostName = list.hostName).map fun client =>
        (c, client)

/-- The client that `connect` makes; `secure` says whether there is an SSL context. -/
def newClient (secure : Bool) (list : FdbMsgAddressList) : CDpClient where
  mNsName := fdbDatapoolServerName
  mInstanceId := list.instanceId
  UDPEnabled := true
  TCPSecureEnabled := secure
  mHostName := list.hostName

/-- A client is replaced. -/
def setClient (p : CDataPool L) (c : ClientPtr) (client : CDpClient) : CDataPool L :=
  { p with clients := p.clients.insert c client }

/-- `doDisconnect()` of a client. -/
def disconnected (client : CDpClient) : CDpClient :=
  { client with toCBaseClient := client.doDisconnect }

/-- The end of `connect`: a client that has been connected is entered in the table. -/
def connectClient (p : CDataPool L) (net : Network) (c : ClientPtr) (client : CDpClient)
    (list : FdbMsgAddressList) : CDataPool L :=
  let r := doConnectToAddress net { list with addressList := list.addressList.map autoUdpPort } c
    client.toCBaseClient
  let p := p.setClient c { client with toCBaseClient := r.client }
  -- nothing asks whether `findClient` found the client in the table
  if r.tcpFailure then p else { p with mDpClientTbl := p.mDpClientTbl ++ [c] }

/-- `connect(msg_addr_list)`; a new client gets the address `new`. -/
def connect (p : CDataPool L) (net : Network) (secure : Bool) (new : ClientPtr)
    (list : FdbMsgAddressList) : CDataPool L :=
  if p.ignores list then p
  else
    match p.findClient list with
    | some (c, client) =>
      if list.addressList = [] then p.setClient c (disconnected client)
      else p.connectClient net c (disconnected client) list
    | none =>
      if list.addressList = [] then p
      else p.connectClient net new (newClient secure list) list

/-- `CFdbSession::onHup()`: the session is deleted, and then the client, if it has no other
one. -/
def hup (p : CDataPool L) (net : Network) (c : ClientPtr) (client : CDpClient) (skid : Nat)
    (sk : CClientSocket) : CDataPool L :=
  let client := { client with toCBaseClient := client.onSessionDeleted net c skid sk }
  let p := p.setClient c client
  if client.sockets.isEmpty then p.destroyClient c client else p

/-! ## §2. Events. -/

/-- A list of addresses, the loss of a session, or what else happens to a pool. -/
inductive ClientEvent (L : Type) where
  | connect (net : Network) (secure : Bool) (new : ClientPtr) (list : FdbMsgAddressList)
  | hup (net : Network) (c : ClientPtr) (skid : Nat)
  | pool (e : PoolEvent L)

/-- One event; `none` if there is no such client or session, or a client at the address where a new
one is made. -/
def clientStep (p : CDataPool L) : ClientEvent L → Option (CDataPool L)
  | .connect net secure new list =>
    if p.live new = false then some (p.connect net secure new list) else none
  | .hup net c skid =>
    p.clients[c]?.bind fun client => client.sockets[skid]?.map fun sk =>
      p.hup net c client skid sk
  | .pool e => p.step e

/-- A pool that has just been started. -/
def start (mDomainId : FdbDomainId) (mDpServer : Option FdbInstanceId) (nc : NotificationCenter) :
    CDataPool L where
  mDomainId := mDomainId
  mDpServer := mDpServer
  clients := ∅
  mDpClientTbl := []
  mPendingSubscriptionHandle := ∅
  mClientSubscriptionHandle := ∅
  mTopicAvailableNtfCenter := nc

/-- The table names every client that exists exactly once, and no other one. -/
structure Exact (p : CDataPool L) : Prop where
  nodup : p.mDpClientTbl.Nodup
  live : ∀ c, c ∈ p.mDpClientTbl ↔ p.live c = true

/-- A list with addresses that the pool does not ignore: if there is a client for the server, not
all addresses can be connected to, and if there is none, they all can. -/
def ConnectsNew (p : CDataPool L) : ClientEvent L → Prop
  | .connect net secure new list =>
    p.ignores list = false → list.addressList ≠ [] →
      match p.findClient list with
      | some (c, client) => answered net c client.TCPSecureEnabled list.addressList = false
      | none => answered net new secure list.addressList = true
  | _ => True

/-! ## §3. The steps. -/

section Steps

variable {p : CDataPool L}

theorem live_setClient (c : ClientPtr) (client : CDpClient) (c' : ClientPtr) :
    (p.setClient c client).live c' = if c = c' then true else p.live c' := by
  unfold live setClient
  rw [get_insert]
  split <;> rfl

/-- The UDP ports do not matter. -/
theorem answered_autoUdpPort (net : Network) (epid : FdbEndpointId) (secure : Bool)
    (items : List FdbMsgAddressItem) :
    answered net epid secure (items.map autoUdpPort) = answered net epid secure items := by
  unfold answered
  rw [foldlM_map]
  rfl

/-- A client without sessions is entered in the table exactly if the list is answered. -/
theorem connectClient_eq (p : CDataPool L) (net : Network) (c : ClientPtr) {client : CDpClient}
    (hempty : client.sockets = ∅) (list : FdbMsgAddressList) :
    (∀ c', (p.connectClient net c client list).live c' = if c = c' then true else p.live c')
      ∧ (p.connectClient net c client list).mDpClientTbl
        = if answered net c client.TCPSecureEnabled list.addressList = true
          then p.mDpClientTbl ++ [c] else p.mDpClientTbl := by
  have hflag := tcpFailure_iff net c hempty
    { list with addressList := list.addressList.map autoUdpPort }
  rw [answered_autoUdpPort] at hflag
  unfold connectClient
  dsimp only
  by_cases hanswered : answered net c client.TCPSecureEnabled list.addressList = true
  · rw [hflag.mpr hanswered, if_pos hanswered]
    exact ⟨fun c' => live_setClient c _ c', rfl⟩
  · have hfailed := eq_true_of_not_eq_false fun h => hanswered (hflag.mp h)
    rw [if_neg hanswered, if_pos hfailed]
    exact ⟨fun c' => live_setClient c _ c', rfl⟩

theorem live_of_get {c : ClientPtr} {client : CDpClient} (h : p.clients[c]? = some client) :
    p.live c = true := by
  unfold live
  rw [h]
  rfl

theorem live_of_findClient {list : FdbMsgAddressList} {found : ClientPtr × CDpClient}
    (h : p.findClient list = some found) : p.live found.1 = true := by
  obtain ⟨c, _, hfound⟩ := exists_of_findSome?_eq_some h
  obtain ⟨client, hfilter, rfl⟩ := map_eq_some_iff.mp hfound
  exact live_of_get (filter_eq_some_iff.mp hfilter).1

/-- The same table and the same clients. -/
theorem Exact.congr {q : CDataPool L} (h : p.Exact) (htable : q.mDpClientTbl = p.mDpClientTbl)
    (hlive : ∀ c, q.live c = p.live c) : q.Exact := by
  refine ⟨by rw [htable]; exact h.nodup, ?_⟩
  intro c
  rw [htable, hlive]
  exact h.live c

/-- If a client that exists is set, the same ones exist. -/
theorem live_kept {c : ClientPtr} (hlive : p.live c = true) (c' : ClientPtr) :
    (if c = c' then true else p.live c') = p.live c' := by
  split
  · next heq => rw [← heq, hlive]
  · rfl

section

variable (h : p.Exact)

include h

variable {p' : CDataPool L} {client : CDpClient} {c : ClientPtr}

theorem Exact.setClient (hlive : p.live c = true) (client : CDpClient) :
    (p.setClient c client).Exact := by
  refine h.congr rfl ?_
  intro c'
  rw [live_setClient, live_kept hlive]

/-- A client of the table that is connected again is in the table twice. -/
theorem exact_connectClient_known (hlive : p.live c = true) (net : Network)
    (hempty : client.sockets = ∅) (list : FdbMsgAddressList) :
    (p.connectClient net c client list).Exact
      ↔ answered net c client.TCPSecureEnabled list.addressList = false := by
  obtain ⟨hlive', htable⟩ := p.connectClient_eq net c hempty list
  constructor
  · intro hexact
    by_contra hanswered
    rw [not_eq_false] at hanswered
    rw [if_pos hanswered] at htable
    have hnodup := hexact.nodup
    rw [htable] at hnodup
    exact (nodup_append.mp hnodup).2.2 c ((h.live c).mpr hlive) c (mem_singleton_self c)
      rfl
  · intro hanswered
    rw [hanswered, if_neg Bool.false_ne_true] at htable
    refine h.congr htable ?_
    intro c'
    rw [hlive', live_kept hlive]

/-- A client that is not connected exists without being in the table. -/
theorem exact_connectClient_new (hlive : p.live c = false) (net : Network)
    (hempty : client.sockets = ∅) (list : FdbMsgAddressList) :
    (p.connectClient net c client list).Exact
      ↔ answered net c client.TCPSecureEnabled list.addressList = true := by
  obtain ⟨hlive', htable⟩ := p.connectClient_eq net c hempty list
  have hnew : c ∉ p.mDpClientTbl := by
    intro hmem
    rw [(h.live c).mp hmem] at hlive
    cases hlive
  constructor
  · intro hexact
    by_contra hanswered
    rw [if_neg hanswered] at htable
    have hmem := (hexact.live c).mpr (by rw [hlive', if_pos rfl])
    rw [htable] at hmem
    exact hnew hmem
  · intro hanswered
    rw [if_pos hanswered] at htable
    refine ⟨?_, ?_⟩
    · rw [htable]
      exact nodup_append.mpr ⟨h.nodup, nodup_singleton _,
        fun a ha b hb hab => hnew (mem_singleton.mp hb ▸ hab ▸ ha)⟩
    · intro c'
      rw [htable, hlive', mem_append, mem_singleton, h.live c']
      split
      · next heq => simp [heq]
      · next hne => exact or_iff_left (Ne.symm hne)

/-- **A list of addresses** keeps the table exact exactly if it brings a new client that is
connected, or a known one that is not. -/
theorem exact_connect (net : Network) (secure : Bool) {new : ClientPtr}
    (hnew : p.live new = false) (list : FdbMsgAddressList) :
    (p.connect net secure new list).Exact ↔ p.ConnectsNew (.connect net secure new list) := by
  show _ ↔ (p.ignores list = false → list.addressList ≠ [] → _)
  unfold connect
  by_cases hign : p.ignores list = true
  · rw [if_pos hign, hign]
    exact ⟨fun _ hno => absurd hno.symm false_ne_true, fun _ => h⟩
  · rw [if_neg hign]
    rw [not_eq_true] at hign
    rw [forall_prop_of_true hign]
    by_cases hnil : list.addressList = []
    · -- without addresses at most a client is disconnected
      refine ⟨fun _ hne => absurd hnil hne, fun _ => ?_⟩
      cases hfind : p.findClient list with
      | some found =>
        dsimp only
        rw [if_pos hnil]
        exact h.setClient (live_of_findClient hfind) _
      | none =>
        rw [if_pos hnil]
        exact h
    · rw [forall_prop_of_true hnil]
      cases hfind : p.findClient list with
      | some found =>
        dsimp only
        rw [if_neg hnil]
        exact exact_connectClient_known h (live_of_findClient hfind) net rfl list
      | none =>
        rw [if_neg hnil]
        exact exact_connectClient_new h hnew net rfl list

/-- A client that is destroyed is no longer in the table. -/
theorem exact_destroyClient (c : ClientPtr) (client : CDpClient) :
    (p.destroyClient c client).Exact := by
  refine ⟨?_, ?_⟩
  · rw [table_destroyClient]
    exact h.nodup.erase c
  · intro c'
    unfold live
    rw [table_destroyClient, clients_destroyClient, h.nodup.mem_erase_iff, h.live c', get_erase]
    by_cases hc : c = c'
    · simp [hc]
    · simp [hc, Ne.symm hc, live]

theorem exact_step {e : PoolEvent L} (hstep : p.step e = some p') : p'.Exact := by
  cases e with
  | subscribeData id topic l =>
    cases hstep
    refine h.congr (onlyListeners_doSubscribeData p id topic l).table ?_
    intro c
    unfold live
    rw [(onlyListeners_doSubscribeData p id topic l).clients]
  | updateTopicList c items =>
    obtain ⟨client, hc, rfl⟩ := map_eq_some_iff.mp hstep
    obtain ⟨hclients, htable⟩ := frame_updateTopicList p c client items
    refine h.congr htable ?_
    intro c'
    unfold live
    rw [hclients]
    show (p.setClient c _).live c' = p.live c'
    rw [live_setClient, live_kept (live_of_get hc)]
  | destroy c =>
    obtain ⟨client, _, rfl⟩ := map_eq_some_iff.mp hstep
    exact exact_destroyClient h c client

theorem exact_clientStep {e : ClientEvent L} (hstep : p.clientStep e = some p') :
    p'.Exact ↔ p.ConnectsNew e := by
  cases e with
  | connect net secure new list =>
    obtain ⟨hnew, rfl⟩ := of_guard hstep
    exact exact_connect h net secure hnew list
  | hup net c skid =>
    obtain ⟨client, hc, hbind⟩ := bind_eq_some_iff.mp hstep
    obtain ⟨sk, _, rfl⟩ := map_eq_some_iff.mp hbind
    refine ⟨fun _ => trivial, fun _ => ?_⟩
    have hset := h.setClient (live_of_get hc)
    unfold hup
    dsimp only
    split
    · exact exact_destroyClient (hset _) c _
    · exact hset _
  | pool e => exact ⟨fun _ => trivial, fun _ => exact_step h hstep⟩

end

end Steps

/-- **The table of clients is exact** in every state of a run, exactly if every list with addresses
that is not ignored brings a new client that is connected, or a known one that is not. -/
theorem exact_iff {mDomainId : FdbDomainId} {mDpServer : Option FdbInstanceId}
    {nc : NotificationCenter} {es : List (ClientEvent L)} {p : CDataPool L}
    (hrun : run clientStep (start mDomainId mDpServer nc) es = some p) :
    Throughout clientStep Exact (start mDomainId mDpServer nc) es
      ↔ Along clientStep ConnectsNew (start mDomainId mDpServer nc) es := by
  have hstart : (start mDomainId mDpServer nc : CDataPool L).Exact := by
    refine ⟨nodup_nil, ?_⟩
    simp [start, live]
  refine throughout_iff ?_ es _ p hstart hrun
  intro q e q' hq hstep
  exact exact_clientStep hq hstep

/-! ## §4. A server that appears again. -/

/-- A network in which every address can be connected to. -/
def openNetwork : Network where
  parseUrl url := some { mUrl := url, mType := .tcp, mAddr := url, mPort := 1 }
  connect _ addr := some (addr.mAddr, addr.mPort)
  bindUDP _ _ _ := none

/-- A server of the domain at an address. -/
def anyServer : FdbMsgAddressList where
  serviceName := fdbDatapoolServerName
  instanceId := 1#32
  isLocal := false
  addressList := [⟨{}, 0, 0, none⟩]

/-- Another one, at two addresses. -/
def otherServer : FdbMsgAddressList :=
  { anyServer with
    instanceId := 2#32
    addressList := [⟨{ mUrl := [1] }, 0, 0, none⟩, ⟨{ mUrl := [2] }, 0, 0, none⟩] }

/-- Two servers appear, and the client of the first one is destroyed. -/
theorem exact_appeared :
    Throughout clientStep Exact (start 0#8 none ⟨[], nodup_nil, []⟩ : CDataPool Nat)
      [.connect openNetwork false 0 anyServer, .connect openNetwork false 1 otherServer,
        .pool (.destroy 0)] := by
  obtain ⟨p, hrun⟩ := isSome_iff_exists.mp (show (run clientStep
    (start 0#8 none ⟨[], nodup_nil, []⟩ : CDataPool Nat)
      [.connect openNetwork false 0 anyServer, .connect openNetwork false 1 otherServer,
        .pool (.destroy 0)]).isSome = true by decide +kernel)
  refine (exact_iff hrun).mpr ⟨fun _ _ => ?_, fun s hs => ⟨fun _ _ => ?_, fun _ _ =>
    ⟨trivial, fun _ _ => trivial⟩⟩⟩
  · show answered openNetwork 0 false anyServer.addressList = true
    decide +kernel
  · have hnew : s.findClient otherServer = none := by
      cases hs
      decide +kernel
    rw [hnew]
    decide +kernel

/-- A server that appears twice: its client is in the table twice, and still once when it has been
destroyed. -/
theorem dangling_reappeared :
    (∃ p, run clientStep (start 0#8 none ⟨[], nodup_nil, []⟩ : CDataPool Nat)
        [.connect openNetwork false 0 anyServer, .connect openNetwork false 1 anyServer] = some p
      ∧ p.mDpClientTbl = [0, 0])
    ∧ ∃ p, run clientStep (start 0#8 none ⟨[], nodup_nil, []⟩ : CDataPool Nat)
        [.connect openNetwork false 0 anyServer, .connect openNetwork false 1 anyServer,
          .pool (.destroy 0)] = some p
      ∧ p.mDpClientTbl = [0] ∧ p.live 0 = false := by
  refine ⟨⟨_, rfl, ?_⟩, _, rfl, ?_, ?_⟩
  · decide +kernel
  · decide +kernel
  · decide +kernel

end CDataPool

end Fdbus.DataPool

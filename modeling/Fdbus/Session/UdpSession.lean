/-
  Fdbus.Session.UdpSession — whom a datagram is attributed to.

  All peers of a container share one `CFdbUDPSession`.  `onInput` looks for the connected session
  that has announced the sender's address, takes its id as the session id of the UDP session, and
  a message that is made from the datagram carries that id.  A sender nobody has announced leaves
  the id as the last datagram set it.

    * `attributed_iff` — every message that is delivered carries the id of a session with the
      sender's address, and `FDB_INVALID_ID` if there is none, exactly if a sender nobody has
      announced is not heard after one that was, and a response comes from the session the request
      was for.

  `parseIp`, the objects of the endpoint and its authentication are inputs of the events.
-/
import Fdbus.Library.Run
import Fdbus.Server.AddressList
import Fdbus.Session.ProcessPayload

namespace Fdbus.Session

open Fdbus.Run List
open Fdbus.Server (fdbInvalidId fdbInetPortInvalid fdbInetPortAuto)
open Fdbus.Wire

/-! ## §1. The connected sessions. -/

/-- What the UDP side reads of a connected `CFdbSession`: its id, and the UDP address the peer has
announced. -/
structure TcpSession where
  sid : Int
  mPeerUDPIpDigit : BitVec 32 := 0
  mPeerUDPPort : Int := fdbInetPortInvalid

/-- `FDB_VALID_PORT(port)`. -/
def fdbValidPort (port : Int) : Bool := decide (fdbInetPortAuto < port)

/-- `setUDPDestAddr(ip_addr, port)`, where `ip` is what `parseIp` makes of a given address. -/
def TcpSession.setUDPDestAddr (s : TcpSession) (ip : Option (BitVec 32)) (port : Int) :
    TcpSession :=
  { s with
    mPeerUDPIpDigit := ip.getD s.mPeerUDPIpDigit
    mPeerUDPPort := if fdbValidPort port then port else s.mPeerUDPPort }

/-- The session has announced this UDP address. -/
def TcpSession.announced (ip : BitVec 32) (port : BitVec 16) (s : TcpSession) : Bool :=
  ip == s.mPeerUDPIpDigit && (port.toNat : Int) == s.mPeerUDPPort

/-- `findTcpSession(udp_session, peer_ip, peer_port)`. -/
def findTcpSession (tbl : List TcpSession) (ip : BitVec 32) (port : BitVec 16) :
    Option TcpSession :=
  tbl.find? (TcpSession.announced ip port)

/-! ## §2. The UDP session. -/

/-- A request that waits for its response, with the session id it was sent with. -/
structure UdpRequest extends PendingRequest where
  mSid : Int

/-- `CFdbUDPSession`. -/
structure CFdbUDPSession where
  mSid : Int := fdbInvalidId
  fatalError : Bool := false
  mPendingMsgTable : List (BitVec 32 × UdpRequest) := []
  mEntryAllocator : BitVec 32 := 0

/-- What `recv` leaves behind: the sender, the bytes of the datagram, and what the rest of the
buffer holds.  A `recv` that fails is one that receives nothing. -/
structure Datagram where
  ip : BitVec 32
  port : BitVec 16
  received : List UInt8
  rest : List UInt8 := []

/-- `mMsgPrefix` after `parsePrefix`. -/
def Datagram.mMsgPrefix (d : Datagram) : CFdbMsgPrefix := CFdbMsgPrefix.deserialize d.received

/-- `parser.parse(data, mMsgPrefix.mHeadLength)`. -/
def Datagram.parseHead (d : Datagram) : Option (ParseResult CFdbMessageHeader) :=
  parse ((d.received ++ d.rest).drop mPrefixSize) (int32 d.mMsgPrefix.mHeadLength.toNat)

/-- The endpoint that owns the container, at the moment a datagram arrives. -/
structure Owner where
  getObject : FdbObjectId → Bool → Bool
  authenticated : CFdbMessageHeader → Bool

namespace CFdbUDPSession

/-- `mPendingMsgTable.retrieveEntry(sn, it, found)`. -/
def retrieveEntry (u : CFdbUDPSession) (sn : BitVec 32) : Option UdpRequest :=
  (u.mPendingMsgTable.find? fun entry => entry.1 == sn).map Prod.snd

/-- `mPendingMsgTable.deleteEntry(it)`. -/
def deleteEntry (u : CFdbUDPSession) (sn : BitVec 32) : CFdbUDPSession :=
  { u with mPendingMsgTable := u.mPendingMsgTable.filter fun entry => entry.1 != sn }

/-- `sendMessageRef(ref)` for a request, where `sent` is the result of `sendMessage`.  A serial
number that still waits keeps its entry. -/
def sendMessageRef (u : CFdbUDPSession) (req : UdpRequest) (sent : Bool) : CFdbUDPSession :=
  let sn := u.mEntryAllocator
  let u := { u with mEntryAllocator := sn + 1 }
  if sent && (u.retrieveEntry sn).isNone then
    { u with mPendingMsgTable := u.mPendingMsgTable ++ [(sn, req)] }
  else u

/-- What the handlers of `processPayload` ask for. -/
def dispatcher (u : CFdbUDPSession) (owner : Owner) : Dispatch :=
  ⟨owner.getObject, owner.authenticated,
    fun sn => (u.retrieveEntry sn).map UdpRequest.toPendingRequest⟩

/-- A response hands the request on to whoever made it: as a failure if the object does not
fit. -/
def responds (u : CFdbUDPSession) (owner : Owner) (head : CFdbMessageHeader)
    (req : UdpRequest) : Bool :=
  req.objectId != head.mObjId || (u.dispatcher owner).doResponse head

/-- `doResponse(head)`: the message that is handed on is the request itself. -/
def doResponse (u : CFdbUDPSession) (owner : Owner) (head : CFdbMessageHeader) :
    CFdbUDPSession × Option Int :=
  match u.retrieveEntry head.mSn with
  | none => (u, none)
  | some req => (u.deleteEntry head.mSn, if u.responds owner head req then some req.mSid else none)

/-- `CFdbMessage(head, this)`, with the session id of the UDP session, if it reaches an object. -/
def deliverNew (u : CFdbUDPSession) (reached : Bool) : CFdbUDPSession × Option Int :=
  (u, if reached then some u.mSid else none)

/-- The `switch` of `processPayload`, with the session id of the message that is delivered.  A
UDP session ignores subscribe requests. -/
def dispatch (u : CFdbUDPSession) (owner : Owner) (head : CFdbMessageHeader) :
    CFdbUDPSession × Option Int :=
  match head.mType with
  | .mtRequest | .mtSidebandRequest | .mtGetEvent | .mtPublish | .mtSetEvent =>
    u.deliverNew ((u.dispatcher owner).doRequest head)
  | .mtReturnEvent | .mtReply | .mtSidebandReply | .mtStatus => u.doResponse owner head
  | .mtBroadcast => u.deliverNew ((u.dispatcher owner).doBroadcast head)
  | .mtSubscribeReq => (u, none)
  | .mtUnknown => ({ u with fatalError := true }, none)

/-- The part of `processPayload` behind `parser.parse`. -/
def afterParse (u : CFdbUDPSession) (owner : Owner) :
    Option (ParseResult CFdbMessageHeader) → Option (CFdbUDPSession × Option Int)
  | none => none
  | some .failed => some ({ u with fatalError := true }, none)
  | some (.parsed head) => some (u.dispatch owner head)

/-- `processPayload()`; `none` when the decoder reads behind the buffer. -/
def processPayload (u : CFdbUDPSession) (owner : Owner) (d : Datagram) :
    Option (CFdbUDPSession × Option Int) :=
  u.afterParse owner d.parseHead

/-- The session id is taken over from the session that is found. -/
def takeSid (u : CFdbUDPSession) : Option TcpSession → CFdbUDPSession
  | some session => { u with mSid := session.sid }
  | none => u -- there is no `else`: the id of an earlier sender stays

/-- `onInput()`, with the session id of the message that is delivered. -/
def onInput (u : CFdbUDPSession) (tbl : List TcpSession) (owner : Owner) (d : Datagram) :
    Option (CFdbUDPSession × Option Int) :=
  if u.fatalError then some (u, none)
  else if d.received.length < mPrefixSize then some ({ u with fatalError := true }, none)
  else if !prefixAccepted d.mMsgPrefix then some ({ u with fatalError := true }, none)
  else (u.takeSid (findTcpSession tbl d.ip d.port)).processPayload owner d

end CFdbUDPSession

/-! ## §3. Runs. -/

/-- The parts of a `CFdbSessionContainer` that UDP needs. -/
structure UdpContainer where
  mConnectedSessionTable : List TcpSession
  mUDPSession : CFdbUDPSession := {}

inductive UdpEvent where
  | addSession (session : TcpSession)
  | removeSession (sid : Int)
  | setUDPDestAddr (sid : Int) (ip : Option (BitVec 32)) (port : Int)
  | sendMessageRef (req : UdpRequest) (sent : Bool)
  | onInput (owner : Owner) (d : Datagram)

namespace UdpContainer

def step (c : UdpContainer) : UdpEvent → Option UdpContainer
  | .addSession session =>
    some { c with mConnectedSessionTable := c.mConnectedSessionTable ++ [session] }
  | .removeSession sid =>
    some { c with
      mConnectedSessionTable := c.mConnectedSessionTable.filter fun s => s.sid != sid }
  | .setUDPDestAddr sid ip port =>
    some { c with
      mConnectedSessionTable := c.mConnectedSessionTable.map fun s =>
        if s.sid = sid then s.setUDPDestAddr ip port else s }
  | .sendMessageRef req sent =>
    some { c with mUDPSession := c.mUDPSession.sendMessageRef req sent }
  | .onInput owner d =>
    (c.mUDPSession.onInput c.mConnectedSessionTable owner d).map fun result =>
      { c with mUDPSession := result.1 }

/-- A session has announced the address the datagram comes from. -/
def Known (c : UdpContainer) (d : Datagram) : Prop :=
  ∃ s ∈ c.mConnectedSessionTable, s.announced d.ip d.port = true

/-- The session id of the sender: that of a session with the sender's address, and
`FDB_INVALID_ID` if there is none. -/
def RightPeer (c : UdpContainer) (d : Datagram) (sid : Int) : Prop :=
  (∃ s ∈ c.mConnectedSessionTable, s.announced d.ip d.port = true ∧ s.sid = sid)
    ∨ ¬ c.Known d ∧ sid = fdbInvalidId

/-- A message that is delivered carries the session id of the sender. -/
def Attributed (c : UdpContainer) : UdpEvent → Prop
  | .onInput owner d => ∀ u sid,
      c.mUDPSession.onInput c.mConnectedSessionTable owner d = some (u, some sid)
        → c.RightPeer d sid
  | _ => True

end UdpContainer

/-- The bytes of the datagram are decoded as this head. -/
def Datagram.Holds (d : Datagram) (head : CFdbMessageHeader) : Prop :=
  mPrefixSize ≤ d.received.length ∧ prefixAccepted d.mMsgPrefix = true
    ∧ d.parseHead = some (.parsed head)

namespace UdpContainer

/-- The condition for a head: a message that is made from the datagram comes from a known sender,
or the UDP session has no session id so far; a request that is answered was for the sender. -/
def HeadAttributable (c : UdpContainer) (owner : Owner) (d : Datagram)
    (head : CFdbMessageHeader) : Prop :=
  match head.mType with
  | .mtRequest | .mtSidebandRequest | .mtGetEvent | .mtPublish | .mtSetEvent =>
    (c.mUDPSession.dispatcher owner).doRequest head = true →
      c.Known d ∨ c.mUDPSession.mSid = fdbInvalidId
  | .mtReturnEvent | .mtReply | .mtSidebandReply | .mtStatus =>
    ∀ req, c.mUDPSession.retrieveEntry head.mSn = some req →
      c.mUDPSession.responds owner head req = true → c.RightPeer d req.mSid
  | .mtBroadcast =>
    (c.mUDPSession.dispatcher owner).doBroadcast head = true →
      c.Known d ∨ c.mUDPSession.mSid = fdbInvalidId
  | .mtSubscribeReq | .mtUnknown => True

/-- The condition for an event. -/
def Attributable (c : UdpContainer) : UdpEvent → Prop
  | .onInput owner d => c.mUDPSession.fatalError = false →
      ∀ head, d.Holds head → c.HeadAttributable owner d head
  | _ => True

/-! ## §4. One datagram. -/

theorem findTcpSession_none {c : UdpContainer} {d : Datagram} :
    findTcpSession c.mConnectedSessionTable d.ip d.port = none ↔ ¬ c.Known d := by
  unfold findTcpSession Known
  rw [find?_eq_none]
  push Not
  rfl

/-- The UDP session when the datagram is dispatched. -/
def receiving (c : UdpContainer) (d : Datagram) : CFdbUDPSession :=
  c.mUDPSession.takeSid (findTcpSession c.mConnectedSessionTable d.ip d.port)

variable (c : UdpContainer) (owner : Owner) (d : Datagram) (head : CFdbMessageHeader)

/-- What a response hands on does not depend on the session id. -/
theorem doResponse_receiving (owner : Owner) (head : CFdbMessageHeader) :
    ((c.receiving d).doResponse owner head).2 = (c.mUDPSession.doResponse owner head).2 := by
  unfold receiving
  cases findTcpSession c.mConnectedSessionTable d.ip d.port with
  | none => rfl
  | some s =>
    unfold CFdbUDPSession.doResponse
    rw [show (c.mUDPSession.takeSid (some s)).retrieveEntry head.mSn
      = c.mUDPSession.retrieveEntry head.mSn from rfl]
    cases c.mUDPSession.retrieveEntry head.mSn <;> rfl

/-- The id the UDP session has when the message is made is right exactly if the sender is known, or
there was none before. -/
theorem rightPeer_receiving :
    c.RightPeer d (c.receiving d).mSid ↔ c.Known d ∨ c.mUDPSession.mSid = fdbInvalidId := by
  unfold receiving
  cases hfind : findTcpSession c.mConnectedSessionTable d.ip d.port with
  | some s =>
    have hmem := mem_of_find?_eq_some hfind
    have hs := find?_some hfind
    have hknown : c.Known d := ⟨s, hmem, hs⟩
    exact ⟨fun _ => .inl hknown, fun _ => .inl ⟨s, hmem, hs, rfl⟩⟩
  | none =>
    have hunknown : ¬ c.Known d := findTcpSession_none.mp hfind
    show c.RightPeer d c.mUDPSession.mSid ↔ _
    constructor
    · intro h
      rcases h with ⟨s, hmem, hs, -⟩ | ⟨-, hsid⟩
      · exact absurd ⟨s, hmem, hs⟩ hunknown
      · exact .inr hsid
    · intro h
      rcases h with hknown | hsid
      · exact absurd hknown hunknown
      · exact .inr ⟨hunknown, hsid⟩

/-- A message that is made from the datagram. -/
theorem deliverNew_rightPeer (reached : Bool) :
    (∀ sid, ((c.receiving d).deliverNew reached).2 = some sid → c.RightPeer d sid)
      ↔ (reached = true → c.Known d ∨ c.mUDPSession.mSid = fdbInvalidId) := by
  rw [← rightPeer_receiving]
  unfold CFdbUDPSession.deliverNew
  cases reached with
  | false | true => simp

/-- A request that is handed back. -/
theorem doResponse_rightPeer :
    (∀ sid, (c.mUDPSession.doResponse owner head).2 = some sid → c.RightPeer d sid)
      ↔ ∀ req, c.mUDPSession.retrieveEntry head.mSn = some req →
        c.mUDPSession.responds owner head req = true → c.RightPeer d req.mSid := by
  unfold CFdbUDPSession.doResponse
  cases hentry : c.mUDPSession.retrieveEntry head.mSn with
  | none => simp
  | some req => cases hresponds : c.mUDPSession.responds owner head req <;> simp [hresponds]

/-- Every type of message is one of the two, or is not delivered. -/
theorem dispatch_rightPeer :
    (∀ sid, ((c.receiving d).dispatch owner head).2 = some sid → c.RightPeer d sid)
      ↔ c.HeadAttributable owner d head := by
  unfold CFdbUDPSession.dispatch HeadAttributable
  cases head.mType with
  | mtRequest | mtSidebandRequest | mtGetEvent | mtPublish | mtSetEvent | mtBroadcast =>
    exact deliverNew_rightPeer c d _
  | mtReturnEvent | mtReply | mtSidebandReply | mtStatus =>
    rw [doResponse_receiving]
    exact doResponse_rightPeer c owner d head
  | mtSubscribeReq | mtUnknown => simp

theorem afterParse_delivers {u u' : CFdbUDPSession} {owner : Owner} {sid : Int}
    {r : Option (ParseResult CFdbMessageHeader)} (h : u.afterParse owner r = some (u', some sid)) :
    ∃ head, r = some (.parsed head) ∧ (u.dispatch owner head).2 = some sid := by
  unfold CFdbUDPSession.afterParse at h
  split at h
  · cases h
  · cases h
  · next head => exact ⟨head, rfl, congrArg Prod.snd (Option.some.inj h)⟩

/-- A datagram without a head that can be decoded delivers nothing. -/
theorem onInput_delivers {c : UdpContainer} {owner : Owner} {d : Datagram} {u : CFdbUDPSession}
    {sid : Int}
    (h : c.mUDPSession.onInput c.mConnectedSessionTable owner d = some (u, some sid)) :
    c.mUDPSession.fatalError = false ∧ ∃ head, d.Holds head
      ∧ ((c.receiving d).dispatch owner head).2 = some sid := by
  unfold CFdbUDPSession.onInput at h
  split at h
  · cases h
  next hfatal =>
  split at h
  · cases h
  next hlen =>
  split at h
  · cases h
  next haccepted =>
  obtain ⟨head, hparse, hsid⟩ := afterParse_delivers h
  have hlen' : mPrefixSize ≤ d.received.length := by omega
  have haccepted' : prefixAccepted d.mMsgPrefix = true := by simpa using haccepted
  exact ⟨Bool.eq_false_iff.mpr hfatal, head, ⟨hlen', haccepted', hparse⟩, hsid⟩

/-- One with such a head delivers what the head says. -/
theorem onInput_of_holds {d : Datagram}
    {head : CFdbMessageHeader} (hfatal : c.mUDPSession.fatalError = false) (hd : d.Holds head) :
    c.mUDPSession.onInput c.mConnectedSessionTable owner d
      = some ((c.receiving d).dispatch owner head) := by
  obtain ⟨hlen, haccepted, hparse⟩ := hd
  unfold CFdbUDPSession.onInput CFdbUDPSession.processPayload
  rw [if_neg (by simp [hfatal]), if_neg (by omega), if_neg (by simp [haccepted]), hparse]
  rfl

/-- What is delivered is right exactly under the condition on the head. -/
theorem onInput_attributed_iff :
    c.Attributed (.onInput owner d) ↔ c.Attributable (.onInput owner d) := by
  constructor
  · intro h hfatal head hd
    rw [← dispatch_rightPeer]
    intro sid hsid
    apply h _ sid
    rw [onInput_of_holds c owner hfatal hd]
    exact congrArg some (Prod.ext rfl hsid)
  · intro h u sid hin
    obtain ⟨hfatal, head, hd, hsid⟩ := onInput_delivers hin
    exact (dispatch_rightPeer c owner d head).mpr (h hfatal head hd) sid hsid

/-- **Datagrams are attributed to their senders** in every run, exactly if no message is made from
a datagram of an unknown sender once a sender was known, and a response comes from the session its
request was for. -/
theorem attributed_iff (c : UdpContainer) (es : List UdpEvent) :
    Along step Attributed c es ↔ Along step Attributable c es := by
  refine along_iff_of_inv (I := fun _ => True) ?_ (fun _ _ _ _ _ _ => trivial) es c trivial
  intro c e _
  cases e with
  | onInput owner d => exact onInput_attributed_iff c owner d
  | addSession | removeSession | setUDPDestAddr | sendMessageRef => exact Iff.rfl

/-- An endpoint that has every object. -/
def openOwner : Owner := ⟨fun _ _ => true, fun _ => true⟩

/-- A broadcast without payload from this address. -/
def broadcastFrom (ip : BitVec 32) (port : BitVec 16) : Datagram where
  ip := ip
  port := port
  received := [31, 0, 0, 0, 23, 0, 0, 0,
    4, 1, 0, 0, 0, 7, 0, 0, 0, 0, 0, 0, 0, 0, 0, 0, 0, 0, 0, 0, 0, 1, 0]

/-- The head of that broadcast: code 7 of the main object. -/
def broadcastHead : CFdbMessageHeader where
  mType := .mtBroadcast
  mSn := 1
  mCode := 7
  mFlag := 0
  mObjId := 0
  mPayloadSize := 0
  mQOS := .qosReliable
  mOptions := 0
  mTopic := []
  mSendArriveTime := 0
  mReplyTime := 0

theorem broadcastFrom_holds (ip : BitVec 32) (port : BitVec 16) :
    (broadcastFrom ip port).Holds broadcastHead := by
  refine ⟨?_, ?_, ?_⟩
  · show mPrefixSize ≤ (broadcastFrom 0 0).received.length
    decide
  · show prefixAccepted (CFdbMsgPrefix.deserialize (broadcastFrom 0 0).received) = true
    decide
  · show (broadcastFrom 0 0).parseHead = _
    decide

/-- Session 7 has announced port 5000 of the first host.  After a broadcast from there, one from
another host is delivered as if session 7 had sent it. -/
theorem attributed_to_earlier_sender :
    ∃ u₁ u₂ : CFdbUDPSession,
      CFdbUDPSession.onInput {} [⟨7, 1, 5000⟩] openOwner (broadcastFrom 1 5000)
          = some (u₁, some 7)
      ∧ u₁.onInput [⟨7, 1, 5000⟩] openOwner (broadcastFrom 2 6000) = some (u₂, some 7)
      ∧ ¬ (UdpContainer.mk [⟨7, 1, 5000⟩] u₁).Attributed
          (.onInput openOwner (broadcastFrom 2 6000)) := by
  have hfirst := onInput_of_holds ⟨[⟨7, 1, 5000⟩], {}⟩ openOwner rfl (broadcastFrom_holds 1 5000)
  have hsecond := onInput_of_holds ⟨[⟨7, 1, 5000⟩], { mSid := 7 }⟩ openOwner rfl
    (broadcastFrom_holds 2 6000)
  refine ⟨{ mSid := 7 }, { mSid := 7 }, hfirst, hsecond, ?_⟩
  intro h
  rcases h _ _ hsecond with ⟨s, hmem, hs, -⟩ | ⟨-, hsid⟩
  · obtain rfl := mem_singleton.mp hmem
    exact absurd hs (by decide)
  · exact absurd hsid (by decide)

end UdpContainer

end Fdbus.Session

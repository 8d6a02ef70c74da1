/-
  Fdbus.Session.Routing — which session a message leaves on.

  A message is addressed to a session by its session id, by `preferredPeer` for its QoS, or
  by the subscribe tables; `CFdbSession::sendMessage` then decides from the two QoS values
  whether the bytes go to the stream socket of that session, to UDP, or nowhere.

    * `secure_handovers_iff` — the bytes of a message with a secure QoS stay on local or
      secure sessions, except that `FDB_QOS_SECURE_BEST_EFFORTS` goes to whatever session is
      addressed.

  Whether the header can be built, which object is found and what the event cache answers
  are parameters.
-/
import Fdbus.Subscribe.Broadcast

namespace Fdbus.Session

open Fdbus.Subscribe Option

/-! ## §1. Sessions. -/

/-- What routing reads of a `CFdbSession`: its container listens on an IPC address, its
socket is secure, its container is (`isSecure()`), and its container has a UDP session. -/
structure CFdbSession where
  ipc : Bool
  socketSecure : Bool
  isSecure : Bool
  hasUDPSession : Bool

/-- `qos()`. -/
def CFdbSession.qos (s : CFdbSession) : EFdbQOS :=
  if s.ipc then .qosLocal else if s.socketSecure then .qosSecureReliable else .qosReliable

/-- Where the bytes of a message are handed to. -/
inductive Channel where
  | stream
  | udp
  deriving DecidableEq

/-- `sendMessage(msg)` for a message of this QoS whose header is built or not. -/
def CFdbSession.sendMessage (s : CFdbSession) (msgQos : EFdbQOS) (buildHeader : Bool) :
    Option Channel :=
  if s.qos ≠ .qosLocal ∧ msgQos = .qosBestEfforts then
    if s.hasUDPSession then some .udp else none
  else if s.qos ≠ .qosLocal ∧ msgQos = .qosSecureReliable ∧ s.qos = .qosReliable then none
  else if buildHeader then some .stream else none

/-- `sendMessageRef(ref)`. -/
def CFdbSession.sendMessageRef (s : CFdbSession) (msgQos : EFdbQOS) (buildHeader : Bool) :
    Option Channel :=
  if s.qos ≠ .qosLocal ∧ msgQos = .qosBestEfforts then
    if s.hasUDPSession then some .udp else none
  else s.sendMessage msgQos buildHeader

/-- The session is local or its socket is secure. -/
def CFdbSession.Protected (s : CFdbSession) : Prop := s.ipc = true ∨ s.socketSecure = true

/-! ## §2. The choice of a session. -/

/-- `EFdbSecureType`. -/
inductive EFdbSecureType where
  | secInsecure
  | secSecure
  | secTrySecure
  deriving DecidableEq

/-- `QosToSecureType(qos)`. -/
def qosToSecureType : EFdbQOS → EFdbSecureType
  | .qosSecureReliable => .secSecure
  | .qosSecureBestEfforts => .secSecure
  | .qosLocal => .secSecure
  | .qosTrySecureReliable => .secTrySecure
  | .qosTrySecureBestEfforts => .secTrySecure
  | _ => .secInsecure

/-- The sessions of an endpoint: what each is, the default session of each container, and
the sessions by id. -/
structure Peers where
  session : SessionPtr → CFdbSession
  containers : List (Option SessionPtr)
  getSession : Int → Option SessionPtr

/-- The loop of `preferredPeer` over the containers, with the fallback so far. -/
def preferredLoop (session : SessionPtr → CFdbSession) (sec : EFdbSecureType) :
    List (Option SessionPtr) → Option SessionPtr → Option SessionPtr
  | [], fallback => fallback
  | none :: rest, fallback => preferredLoop session sec rest fallback
  | some s :: rest, fallback =>
    if (session s).ipc then some s
    else
      match sec with
      | .secInsecure =>
        if (session s).isSecure then preferredLoop session sec rest fallback else some s
      | .secSecure =>
        if (session s).isSecure then some s else preferredLoop session sec rest fallback
      | .secTrySecure =>
        if (session s).isSecure then some s else preferredLoop session sec rest (some s)

/-- `preferredPeer(qos)`. -/
def Peers.preferredPeer (p : Peers) (qos : EFdbQOS) : Option SessionPtr :=
  preferredLoop p.session (qosToSecureType qos) p.containers none

/-! ## §3. The ways of a message. -/

/-- A message to be sent: its QoS, `MSG_FLAG_NOREPLY_EXPECTED`, and as an event its code,
topic, session id and no-reflect flag, with its object id. -/
structure Outgoing where
  qos : EFdbQOS
  noReplyExpected : Bool
  event : EventMessage
  objectId : FdbObjectId

/-- `fdbValidFdbId(mSid)`. -/
def Outgoing.hasSession (msg : Outgoing) : Bool := msg.event.session != -1

/-- What sending asks of the rest of the endpoint. -/
structure Surroundings where
  peers : Peers
  sid : SessionPtr → Int
  getObject : Bool → Option CFdbBaseObject
  updateEventCache : Bool
  buildHeader : SessionPtr → Bool

/-- The ways a message is sent: `doRequest`, `doReply` (and `replyEventCache`), `doPublish`,
`doBroadcast`, the re-broadcast of a published event, the unqueued publications to the
preferred peer, and the messages for a session at hand such as a status. -/
inductive Way where
  | request
  | reply
  | publish
  | broadcast
  | rebroadcast
  | unqueued
  | onSession (session : SessionPtr)

/-- `getSession()`. -/
def Surroundings.getSession (env : Surroundings) (msg : Outgoing) : Option SessionPtr :=
  if msg.hasSession then env.peers.getSession msg.event.session
  else env.peers.preferredPeer msg.qos

/-- The sessions `broadcastMsg` sends to. -/
def Surroundings.subscribers (env : Surroundings) (msg : Outgoing) (obj : CFdbBaseObject) :
    List SessionPtr :=
  (obj.broadcastMsg env.sid msg.event msg.objectId).copies.map Prod.fst

/-- The sessions whose `sendMessage` or `sendMessageRef` is called. -/
def Surroundings.targets (env : Surroundings) (msg : Outgoing) : Way → List SessionPtr
  | .request => (env.getSession msg).toList
  | .reply => if msg.noReplyExpected then [] else (env.getSession msg).toList
  | .publish =>
    -- the object must be there, and its event cache must let the event through
    if (env.getObject false).isSome && env.updateEventCache then (env.getSession msg).toList
    else []
  | .broadcast =>
    match env.getObject true with
    | none => []
    | some obj =>
      if !env.updateEventCache then []
      else if msg.hasSession then
        match env.peers.getSession msg.event.session with
        | none => []
        | some s =>
          (obj.broadcastTo env.sid msg.event s msg.objectId).copies.map Prod.fst
      else env.subscribers msg obj
  | .rebroadcast =>
    match env.getObject true with
    | none => []
    | some obj => env.subscribers msg obj
  | .unqueued => (env.peers.preferredPeer msg.qos).toList
  | .onSession s => [s]

/-- The result of the call on one session. -/
def Surroundings.send (env : Surroundings) (msg : Outgoing) (way : Way) (s : SessionPtr) :
    Option Channel :=
  match way with
  | .request =>
    if msg.noReplyExpected then (env.peers.session s).sendMessage msg.qos (env.buildHeader s)
    else (env.peers.session s).sendMessageRef msg.qos (env.buildHeader s)
  | _ => (env.peers.session s).sendMessage msg.qos (env.buildHeader s)

/-- The handovers of a message: the sessions its bytes are given to, and on which channel. -/
def Surroundings.handovers (env : Surroundings) (msg : Outgoing) (way : Way) :
    List (SessionPtr × Channel) :=
  (env.targets msg way).filterMap fun s => (env.send msg way s).map fun c => (s, c)

/-! ## §4. Secure messages. -/

instance (s : CFdbSession) : Decidable s.Protected := inferInstanceAs (Decidable (_ ∨ _))

/-- A session whose QoS is plain TCP is not protected. -/
theorem CFdbSession.qos_eq_reliable_iff (s : CFdbSession) :
    s.qos = .qosReliable ↔ ¬ s.Protected := by
  unfold CFdbSession.qos CFdbSession.Protected
  by_cases hipc : s.ipc = true
  · simp [hipc]
  · by_cases hsec : s.socketSecure = true
    · simp [hipc, hsec]
    · simp [hipc, hsec]

/-- `FDB_QOS_SECURE_RELIABLE` is held back from a plain session. -/
theorem CFdbSession.sendMessage_secureReliable (s : CFdbSession) (buildHeader : Bool) :
    s.sendMessage .qosSecureReliable buildHeader
      = if s.Protected ∧ buildHeader = true then some .stream else none := by
  unfold CFdbSession.sendMessage
  by_cases hp : s.Protected
  · have hq : s.qos ≠ .qosReliable := fun h => (s.qos_eq_reliable_iff.mp h) hp
    simp [hp, hq]
  · have hq : s.qos = .qosReliable := s.qos_eq_reliable_iff.mpr hp
    simp [hp, hq]

/-- `FDB_QOS_SECURE_BEST_EFFORTS` is held back from none. -/
theorem CFdbSession.sendMessage_secureBestEfforts (s : CFdbSession) (buildHeader : Bool) :
    s.sendMessage .qosSecureBestEfforts buildHeader
      = if buildHeader = true then some .stream else none := by
  simp [CFdbSession.sendMessage]

/-- The two send functions differ only for `FDB_QOS_BEST_EFFORTS`. -/
theorem Surroundings.send_eq (env : Surroundings) (msg : Outgoing) (way : Way) (s : SessionPtr)
    (h : msg.qos ≠ .qosBestEfforts) :
    env.send msg way s
      = (env.peers.session s).sendMessage msg.qos (env.buildHeader s) := by
  unfold Surroundings.send
  split
  · split
    · rfl
    · unfold CFdbSession.sendMessageRef
      rw [if_neg (fun hb => h hb.2)]
  · rfl

/-- The bytes of a message go only to local or secure sessions, and never to UDP. -/
def StaysProtected (env : Surroundings) (msg : Outgoing) (way : Way) : Prop :=
  ∀ h ∈ env.handovers msg way, h.2 = .stream ∧ (env.peers.session h.1).Protected

/-- **Secure traffic.**  Whatever way a message with a secure QoS is sent, its bytes stay on
local or secure sessions exactly when, for `FDB_QOS_SECURE_BEST_EFFORTS`, every session that
its id, `preferredPeer` or the subscribe tables select for it is local or secure. -/
theorem secure_handovers_iff (env : Surroundings) (msg : Outgoing) (way : Way)
    (hqos : msg.qos = .qosSecureReliable ∨ msg.qos = .qosSecureBestEfforts) :
    StaysProtected env msg way
      ↔ (msg.qos = .qosSecureBestEfforts → ∀ s ∈ env.targets msg way,
          env.buildHeader s = true → (env.peers.session s).Protected) := by
  have hne : msg.qos ≠ .qosBestEfforts := by
    rcases hqos with h | h <;> simp [h]
  unfold StaysProtected Surroundings.handovers
  simp only [List.mem_filterMap, map_eq_some_iff, env.send_eq msg way _ hne]
  rcases hqos with h | h
  · -- the guard of `sendMessage` lets nothing else through
    simp only [h, CFdbSession.sendMessage_secureReliable]
    refine ⟨fun _ hq => absurd hq (by decide), ?_⟩
    rintro _ _ ⟨s, _, c, hc, rfl⟩
    split at hc
    · next hp => exact ⟨(some.inj hc).symm, hp.1⟩
    · exact absurd hc (by simp)
  · simp only [h, CFdbSession.sendMessage_secureBestEfforts, true_imp_iff]
    constructor
    · -- a session that is selected is handed the bytes
      intro hsafe s hs hb
      exact (hsafe (s, .stream) ⟨s, hs, .stream, if_pos hb, rfl⟩).2
    · rintro htargets _ ⟨s, hs, c, hc, rfl⟩
      split at hc
      · next hb => exact ⟨(some.inj hc).symm, htargets s hs hb⟩
      · exact absurd hc (by simp)

/-- An endpoint with the one plain TCP session 1. -/
def plainPeer : Surroundings where
  peers := ⟨fun _ => ⟨false, false, false, false⟩, [some 1], fun id => if id = 1 then some 1 else none⟩
  sid := Int.ofNat
  getObject _ := some CFdbBaseObject.empty
  updateEventCache := true
  buildHeader _ := true

/-- A reply with `FDB_QOS_SECURE_BEST_EFFORTS` for session 1. -/
def secureReply : Outgoing := ⟨.qosSecureBestEfforts, false, ⟨7#32, [], 1, false⟩, fdbObjectMain⟩

/-- The reply is written to the plain socket. -/
theorem secure_reply_in_the_clear :
    secureReply.qos = .qosSecureBestEfforts
      ∧ plainPeer.handovers secureReply .reply = [(1, .stream)]
      ∧ ¬ (plainPeer.peers.session 1).Protected := by
  decide

/-- A request with `FDB_QOS_SECURE_RELIABLE` on the plain session is not handed over. -/
theorem secure_handovers_plain :
    StaysProtected plainPeer { secureReply with qos := .qosSecureReliable } .request :=
  (secure_handovers_iff plainPeer { secureReply with qos := .qosSecureReliable } .request
    (.inl rfl)).mpr (fun h => absurd h (by decide))

end Fdbus.Session

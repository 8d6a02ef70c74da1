/-
  Fdbus.Session.ProcessPayload — `CBaseSession::parsePrefix` and `processPayload`.

  A received frame is the `mTotalLength` bytes its own prefix announces.  `processPayload`
  decodes the head from byte 8 on and hands a message to the handler its type selects;
  that message's payload is the `payload_size` bytes from `8 + mHeadLength` on.  Both
  lengths come from the peer, and neither is compared with the size of the frame.

    * `processPayload_inside_iff` — the reads stay inside the frame exactly when no head
      field that fits `mHeadLength` ends behind the frame, and the payload of a message
      that reaches a handler ends inside it.

  What a handler does with the message, and which objects, permissions and pending
  requests exist, is the environment `Dispatch`.
-/
import Fdbus.Wire.MessageHeader

namespace Fdbus.Session

open Fdbus.Wire

/-! ## §1. Frames. -/

/-- `parsePrefix(data)` does not set `fatalError`: `mTotalLength - mPrefixSize`, computed
in 32 bits, is not negative as `int32_t`. -/
def prefixAccepted (p : CFdbMsgPrefix) : Bool :=
  0 ≤ int32 (p.mTotalLength - BitVec.ofNat 32 mPrefixSize).toNat

/-- The frames `processPayload` can meet: an accepted prefix and the bytes it announces. -/
structure ReceivedFrame where
  bytes : List UInt8
  prefix_le : mPrefixSize ≤ bytes.length
  accepted : prefixAccepted (CFdbMsgPrefix.deserialize bytes) = true
  complete : bytes.length = (CFdbMsgPrefix.deserialize bytes).mTotalLength.toNat

/-- `mMsgPrefix`. -/
def ReceivedFrame.mMsgPrefix (f : ReceivedFrame) : CFdbMsgPrefix :=
  CFdbMsgPrefix.deserialize f.bytes

/-- The memory from `mPayloadBuffer + mPrefixSize` to the end of the frame. -/
def ReceivedFrame.data (f : ReceivedFrame) : List UInt8 := f.bytes.drop mPrefixSize

/-- `mHeadLength`, as the `int32_t` that `parse` gets. -/
def ReceivedFrame.headSize (f : ReceivedFrame) : Int := int32 f.mMsgPrefix.mHeadLength.toNat

/-! ## §2. Which messages reach a handler. -/

/-- A request waiting in `mPendingMsgTable`; `sync` if its sender waits for the response. -/
structure PendingRequest where
  objectId : FdbObjectId
  type : EFdbMessageType
  sync : Bool

/-- What `processPayload` asks of the rest of the endpoint: `getObject(msg, server_only)`,
the authentication of a request, and the pending table. -/
structure Dispatch where
  getObject : FdbObjectId → Bool → Bool
  authenticated : CFdbMessageHeader → Bool
  pending : BitVec 32 → Option PendingRequest

/-- `doRequest(head)`: does the message reach a handler?  A sideband request is not
authenticated. -/
def Dispatch.doRequest (env : Dispatch) (head : CFdbMessageHeader) : Bool :=
  env.getObject head.mObjId true
    && (head.mType == .mtSidebandRequest || env.authenticated head)

/-- `sync()` of a request whose flags `update` has replaced by those of the response. -/
def syncReply (head : CFdbMessageHeader) : Bool := head.mFlag.getLsbD 2

/-- `doResponse(head)`: does the message reach the requester? -/
def Dispatch.doResponse (env : Dispatch) (head : CFdbMessageHeader) : Bool :=
  match env.pending head.mSn with
  | none => false
  | some msg =>
    if msg.objectId ≠ head.mObjId then false
    else env.getObject msg.objectId false
      && (msg.sync
        || !syncReply head
          && match msg.type with
            | .mtRequest | .mtSidebandRequest | .mtGetEvent => true
            | _ => head.mType == .mtStatus)

/-- `doBroadcast(head)`. -/
def Dispatch.doBroadcast (env : Dispatch) (head : CFdbMessageHeader) : Bool :=
  env.getObject head.mObjId false

/-- `doSubscribeReq(head, subscribe)`: the payload is decoded when the object is found. -/
def Dispatch.doSubscribeReq (env : Dispatch) (head : CFdbMessageHeader) : Bool :=
  env.getObject head.mObjId true

/-- What becomes of a decoded head. -/
inductive Delivery where
  /-- `fatalError(true)` -/
  | rejected
  /-- nobody is handed the payload -/
  | unread
  /-- a handler is handed `size` bytes of payload from `start` on -/
  | handler (start size : Nat)
  deriving DecidableEq

/-- A message is handed over with its payload, or not at all. -/
def deliver (reached : Bool) (p : CFdbMsgPrefix) (head : CFdbMessageHeader) : Delivery :=
  if reached then .handler (mPrefixSize + p.mHeadLength.toNat) head.mPayloadSize.toNat
  else .unread

/-- The `switch` over the message type. -/
def dispatch (env : Dispatch) (p : CFdbMsgPrefix) (head : CFdbMessageHeader) : Delivery :=
  match head.mType with
  | .mtRequest | .mtSidebandRequest | .mtGetEvent | .mtPublish | .mtSetEvent =>
    deliver (env.doRequest head) p head
  | .mtReturnEvent | .mtReply | .mtSidebandReply | .mtStatus =>
    deliver (env.doResponse head) p head
  | .mtBroadcast => deliver (env.doBroadcast head) p head
  | .mtSubscribeReq =>
    if head.mCode = fdbCodeSubscribe then deliver (env.doSubscribeReq head) p head
    else if head.mCode = fdbCodeUnsubscribe then deliver (env.doSubscribeReq head) p head
    else .unread
  | .mtUnknown => .rejected

/-- The part of `processPayload` behind `parser.parse`. -/
def afterParse (env : Dispatch) (p : CFdbMsgPrefix) :
    Option (ParseResult CFdbMessageHeader) → Option Delivery
  | none => none
  | some .failed => some .rejected
  | some (.parsed head) => some (dispatch env p head)

/-- `processPayload()`; `none` when the decoder read a byte outside the frame.  The check
`size < 0` at its start repeats the one `parsePrefix` has passed. -/
def processPayload (env : Dispatch) (f : ReceivedFrame) : Option Delivery :=
  if prefixAccepted f.mMsgPrefix = true then
    afterParse env f.mMsgPrefix (parse f.data f.headSize)
  else some .rejected

/-! ## §3. Staying inside the frame. -/

/-- Every byte read lies in the frame: those the decoder reads, and those of a payload
that is handed to a handler. -/
def StaysInside (f : ReceivedFrame) : Option Delivery → Prop
  | none => False
  | some .rejected => True
  | some .unread => True
  | some (.handler start size) => ∀ i, start ≤ i → i < start + size → i < f.bytes.length

/-- No head field that fits the announced head length (any field, when that is 0) ends
behind the frame. -/
def HeadInside (f : ReceivedFrame) : Prop :=
  ∀ e ∈ fieldEnds f.data, fits f.headSize e → e ≤ f.data.length

/-- The bytes spell a head the decoder accepts. -/
def HeadDecodes (f : ReceivedFrame) : Prop :=
  (∀ e ∈ fieldEnds f.data, fits f.headSize e) ∧ topicTerminated f.data

/-- The type, code and addressee in the bytes select a handler. -/
def ReachesHandler (env : Dispatch) (f : ReceivedFrame) : Prop :=
  ∃ start size, dispatch env f.mMsgPrefix (headAt f.data) = .handler start size

/-- The announced payload is empty or ends inside the frame. -/
def PayloadInside (f : ReceivedFrame) : Prop :=
  field f.data 17 4 = 0
    ∨ f.mMsgPrefix.mHeadLength.toNat + field f.data 17 4 ≤ f.data.length

/-- A handler always gets the payload the prefix and the head announce. -/
theorem dispatch_handler {env : Dispatch} {p : CFdbMsgPrefix} {head : CFdbMessageHeader}
    {start size : Nat} (h : dispatch env p head = .handler start size) :
    start = mPrefixSize + p.mHeadLength.toNat ∧ size = head.mPayloadSize.toNat := by
  have hdeliver : ∀ reached, deliver reached p head = .handler start size →
      start = mPrefixSize + p.mHeadLength.toNat ∧ size = head.mPayloadSize.toNat := by
    intro reached hd
    unfold deliver at hd
    split at hd
    · injection hd with h₁ h₂
      exact ⟨h₁.symm, h₂.symm⟩
    · simp at hd
  unfold dispatch at h
  split at h
  case h_11 =>
    -- a subscribe request with neither of the two codes reaches nobody
    split at h
    · exact hdeliver _ h
    · split at h
      · exact hdeliver _ h
      · simp at h
  case h_12 => simp at h
  all_goals exact hdeliver _ h

theorem length_data (f : ReceivedFrame) : f.bytes.length = mPrefixSize + f.data.length := by
  have := f.prefix_le
  unfold ReceivedFrame.data
  rw [List.length_drop]
  omega

/-- A window of the frame that starts behind the prefix lies inside the frame. -/
theorem window_inside_iff (f : ReceivedFrame) (head size : Nat) :
    (∀ i, mPrefixSize + head ≤ i → i < mPrefixSize + head + size → i < f.bytes.length)
      ↔ size = 0 ∨ head + size ≤ f.data.length := by
  have hlen := length_data f
  constructor
  · intro h
    by_cases hz : size = 0
    · exact .inl hz
    · -- the last byte of the window is inside
      have := h (mPrefixSize + head + size - 1) (by omega) (by omega)
      right
      omega
  · omega

theorem payloadSize_headAt (data : List UInt8) :
    (headAt data).mPayloadSize.toNat = field data 17 4 := by
  have hlt : field data 17 4 < 2 ^ 32 := field_lt data 17 4
  show (BitVec.ofNat 32 (field data 17 4)).toNat = _
  rw [BitVec.toNat_ofNat, Nat.mod_eq_of_lt hlt]

/-- What a decoded head leads to stays inside the frame exactly when its payload does,
if it has one that reaches a handler. -/
theorem dispatch_inside_iff (env : Dispatch) (f : ReceivedFrame) :
    StaysInside f (some (dispatch env f.mMsgPrefix (headAt f.data)))
      ↔ (ReachesHandler env f → PayloadInside f) := by
  unfold ReachesHandler
  cases hd : dispatch env f.mMsgPrefix (headAt f.data) with
  | rejected => simp [StaysInside]
  | unread => simp [StaysInside]
  | handler start size =>
    obtain ⟨rfl, rfl⟩ := dispatch_handler hd
    rw [payloadSize_headAt]
    show (∀ i, _ → _ → _) ↔ _
    rw [window_inside_iff]
    constructor
    · intro h _
      exact h
    · intro h
      exact h ⟨_, _, rfl⟩

theorem parse_of_not_headInside {f : ReceivedFrame} (h : ¬ HeadInside f) :
    parse f.data f.headSize = none := by
  unfold HeadInside at h
  push Not at h
  rw [parse_eq, if_pos h]

theorem parse_of_headInside {f : ReceivedFrame} (h : HeadInside f) [Decidable (HeadDecodes f)] :
    parse f.data f.headSize
      = if HeadDecodes f then some (.parsed (headAt f.data)) else some .failed := by
  have hin : ¬ ∃ e ∈ fieldEnds f.data, fits f.headSize e ∧ f.data.length < e := by
    push Not
    exact h
  rw [parse_eq, if_neg hin]
  by_cases hdec : HeadDecodes f
  · rw [if_pos hdec, if_pos (show _ ∧ _ from hdec)]
  · rw [if_neg hdec, if_neg (show ¬ (_ ∧ _) from hdec)]

/-- **When the reads stay inside the frame**: exactly when no head field that fits the
announced head length ends behind the frame, and a payload that reaches a handler ends
inside it. -/
theorem processPayload_inside_iff (env : Dispatch) (f : ReceivedFrame) :
    StaysInside f (processPayload env f)
      ↔ HeadInside f ∧ (HeadDecodes f → ReachesHandler env f → PayloadInside f) := by
  classical
  -- the check at the start of `processPayload` never fires on a received frame
  unfold processPayload
  rw [if_pos (show prefixAccepted f.mMsgPrefix = true from f.accepted)]
  by_cases hin : HeadInside f
  · rw [parse_of_headInside hin]
    by_cases hdec : HeadDecodes f
    · simp only [hin, hdec, true_and, true_implies]
      exact dispatch_inside_iff env f
    · simp [hin, hdec, StaysInside, afterParse]
  · rw [parse_of_not_headInside hin]
    simp [hin, StaysInside, afterParse]

/-- An endpoint that has every object and lets everything pass. -/
def openEndpoint : Dispatch where
  getObject _ _ := true
  authenticated _ := true
  pending _ := none

/-- The frame that is only a prefix, with head length 0: the size checks are off, and the
decoder reads the type byte behind the frame. -/
def bareFrame : ReceivedFrame where
  bytes := [8, 0, 0, 0, 0, 0, 0, 0]
  prefix_le := by decide
  accepted := by decide
  complete := by decide

/-- A broadcast with a correct 23-byte head that announces 4 bytes of payload and has
none. -/
def shortPayloadFrame : ReceivedFrame where
  bytes := [31, 0, 0, 0, 23, 0, 0, 0,
    4, 1, 0, 0, 0, 7, 0, 0, 0, 0, 0, 0, 0, 0, 0, 0, 0, 4, 0, 0, 0, 1, 0]
  prefix_le := by decide
  accepted := by decide
  complete := by decide

/-- Both lengths can lead out of the frame: the first frame makes the decoder read behind
it, the second hands a handler four bytes that are not there. -/
theorem reads_outside_frame :
    processPayload openEndpoint bareFrame = none
      ∧ processPayload openEndpoint shortPayloadFrame = some (.handler 31 4)
      ∧ shortPayloadFrame.bytes.length = 31
      ∧ ¬ StaysInside bareFrame (processPayload openEndpoint bareFrame)
      ∧ ¬ StaysInside shortPayloadFrame (processPayload openEndpoint shortPayloadFrame) := by
  have hbare : processPayload openEndpoint bareFrame = none := by decide
  have hshort : processPayload openEndpoint shortPayloadFrame = some (.handler 31 4) := by decide
  refine ⟨hbare, hshort, rfl, ?_, ?_⟩
  · rw [hbare]
    exact id
  · intro h
    exact absurd (h 31 (by decide) (by decide)) (by decide)

end Fdbus.Session

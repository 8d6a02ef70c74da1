/-
  Fdbus.Session.Transfer — what comes out of a frame at the other end.

  `buildHeader` puts the prefix and the head of a message before its payload, and `processPayload`
  makes a message of the bytes again: a new one for requests and broadcasts, while a response fills
  in the request that waits for it.

    * `frame_carries` — the frame of a message is accepted, and the message that comes out of it
      has the serial number, the object id, the low flags and the payload of the one that went in.
      For requests and broadcasts it has the code, the topic, the type and the QoS of the sending
      session as well; a subscribe request appears as a broadcast, and a response as the request.
-/
import Fdbus.Message.Frame
import Fdbus.Session.ProcessPayload

namespace Fdbus.Session

open Fdbus.Message List Option
open Fdbus.Wire

/-! ## §1. Messages that come in. -/

/-- `CFdbMsgMetadata`. -/
structure CFdbMsgMetadata where
  mSendTime : BitVec 64 := 0
  mArriveTime : BitVec 64 := 0
  mReplyTime : BitVec 64 := 0
  mReceiveTime : BitVec 64 := 0
  deriving DecidableEq

/-- What the owner of a session is given: the members of a `CFdbMessage`, and its payload. -/
structure IncomingMessage where
  mType : EFdbMessageType
  mCode : FdbMsgCode
  mSn : BitVec 32
  mSid : Int
  mOid : FdbObjectId
  mFlag : BitVec 32
  mQOS : EFdbQOS
  mTopic : List UInt8
  mTimeStamp : Option CFdbMsgMetadata
  payload : List UInt8
  deriving DecidableEq

/-- `CFdbMessage(head, session)`, without the payload. -/
def IncomingMessage.ofHead (sid : Int) (head : CFdbMessageHeader) : IncomingMessage where
  mType := head.mType
  mCode := head.mCode
  mSn := head.mSn
  mSid := sid
  mOid := head.mObjId
  mFlag := (head.mFlag &&& msgGlobalFlagMask) ||| msgFlagExternalBuffer
  mQOS := head.mQOS
  mTopic := if hasBroadcastTopic head.mOptions then head.mTopic else []
  mTimeStamp :=
    if hasReplyTime head.mOptions || hasSendOrArriveTime head.mOptions then some {} else none
  payload := []

/-- The type that `decodeDebugInfo` goes by: a point-to-point broadcast counts as a reply. -/
def IncomingMessage.debugType (m : IncomingMessage) (head : CFdbMessageHeader) :
    EFdbMessageType :=
  if head.mType = .mtBroadcast ∧ m.mFlag &&& msgFlagInitialResponse ≠ 0#32 then .mtReply
  else head.mType

/-- What `decodeDebugInfo` writes into `mTimeStamp`. -/
def CFdbMsgMetadata.decode (stamp : CFdbMsgMetadata) (type : EFdbMessageType)
    (head : CFdbMessageHeader) (now : BitVec 64) : CFdbMsgMetadata :=
  match type with
  | .mtReply | .mtStatus | .mtReturnEvent =>
    { stamp with
      mArriveTime := if hasSendOrArriveTime head.mOptions then head.mSendArriveTime
        else stamp.mArriveTime
      mReplyTime := if hasReplyTime head.mOptions then head.mReplyTime else stamp.mReplyTime
      mReceiveTime := now }
  | .mtRequest | .mtSubscribeReq | .mtBroadcast | .mtGetEvent | .mtPublish | .mtSetEvent =>
    { stamp with
      mArriveTime := now
      mSendTime := if hasSendOrArriveTime head.mOptions then head.mSendArriveTime
        else stamp.mSendTime }
  | _ => stamp

/-- `decodeDebugInfo(msg_hdr)`. -/
def IncomingMessage.decodeDebugInfo (m : IncomingMessage) (head : CFdbMessageHeader)
    (now : BitVec 64) : IncomingMessage :=
  { m with mTimeStamp := m.mTimeStamp.map fun stamp => stamp.decode (m.debugType head) head now }

/-- `update(head, prefix)`; the code stays. -/
def IncomingMessage.update (m : IncomingMessage) (head : CFdbMessageHeader) : IncomingMessage :=
  { m with
    mFlag := (m.mFlag &&& ~~~msgGlobalFlagMask) ||| (head.mFlag &&& msgGlobalFlagMask) }

/-! ## §2. Receiving. -/

/-- A request in `mPendingMsgTable`; `sync` if its sender waits for the response. -/
structure PendingMessage extends IncomingMessage where
  sync : Bool

/-- The side that receives: its session, the objects and the permissions of its endpoint, and the
requests that wait.  `CFdbUDPSession` does not override `doSubscribeReq`. -/
structure Receiver where
  sid : Int
  udp : Bool
  getObject : FdbObjectId → Bool → Bool
  authenticated : EFdbMessageType → FdbMsgCode → Bool
  pending : BitVec 32 → Option PendingMessage
  pending_sn : ∀ sn req, pending sn = some req → req.mSn = sn

/-- What becomes of a frame. -/
inductive Received where
  /-- `fatalError(true)` -/
  | rejected
  /-- nobody is handed a message -/
  | unread
  | delivered (m : IncomingMessage)
  deriving DecidableEq

namespace Receiver

variable (env : Receiver)

/-- What the handlers of `processPayload` ask for. -/
def dispatcher : Dispatch where
  getObject := env.getObject
  authenticated := fun head => env.authenticated head.mType head.mCode
  pending := fun sn => (env.pending sn).map fun req => ⟨req.mOid, req.mType, req.sync⟩

/-- The head leads to a handler or to the requester. -/
def reaches (head : CFdbMessageHeader) : Bool :=
  match head.mType with
  | .mtRequest | .mtSidebandRequest | .mtGetEvent | .mtPublish | .mtSetEvent =>
    env.dispatcher.doRequest head
  | .mtReturnEvent | .mtReply | .mtSidebandReply | .mtStatus => env.dispatcher.doResponse head
  | .mtBroadcast => env.dispatcher.doBroadcast head
  | .mtSubscribeReq =>
    -- other codes are not handled
    !env.udp && (head.mCode == fdbCodeSubscribe || head.mCode == fdbCodeUnsubscribe)
      && env.dispatcher.doSubscribeReq head
  | .mtUnknown => false

/-- The message that is made of a head: the request that waits, or a new one. -/
def made (head : CFdbMessageHeader) : IncomingMessage :=
  let new := IncomingMessage.ofHead env.sid head
  match head.mType with
  | .mtReturnEvent | .mtReply | .mtSidebandReply | .mtStatus =>
    (env.pending head.mSn).elim new fun req => req.toIncomingMessage.update head
  -- `msg->type(FDB_MT_BROADCAST)`
  | .mtSubscribeReq => { new with mType := .mtBroadcast }
  | _ => new

/-- The message that is handed over, with these bytes as payload; `replaceBuffer` gives a request
the buffer of the response. -/
def message (now : BitVec 64) (head : CFdbMessageHeader) (payload : List UInt8) :
    IncomingMessage :=
  { (env.made head).decodeDebugInfo head now with payload := payload }

/-- The `size` bytes from `start` on, if they lie in the buffer. -/
def window (buffer : List UInt8) (start size : Nat) : Option (List UInt8) :=
  if size = 0 then some []
  else if start + size ≤ buffer.length then some ((buffer.drop start).take size)
  else none

/-- The `switch` over the message type; `none` if the payload does not lie in the buffer. -/
def handle (now : BitVec 64) (buffer : List UInt8) (p : CFdbMsgPrefix)
    (head : CFdbMessageHeader) : Option Received :=
  if head.mType = .mtUnknown then some .rejected
  else if env.reaches head then
    (window buffer (mPrefixSize + p.mHeadLength.toNat) head.mPayloadSize.toNat).map fun payload =>
      .delivered (env.message now head payload)
  else some .unread

/-- What `processPayload` makes of the result of `parser.parse`. -/
def afterParse (now : BitVec 64) (buffer : List UInt8) (p : CFdbMsgPrefix) :
    Option (ParseResult CFdbMessageHeader) → Option Received
  | none => none
  | some .failed => some .rejected
  | some (.parsed head) => env.handle now buffer p head

/-- `parsePrefix` and `processPayload` for a buffer; `none` if they read behind it. -/
def receive (now : BitVec 64) (buffer : List UInt8) : Option Received :=
  let p := CFdbMsgPrefix.deserialize buffer
  if prefixAccepted p then
    env.afterParse now buffer p (parse (buffer.drop mPrefixSize) (int32 p.mHeadLength.toNat))
  else some .rejected

/-- The message reaches someone where `processPayload` hands the payload on. -/
theorem dispatch_eq (hudp : env.udp = false) (p : CFdbMsgPrefix) (head : CFdbMessageHeader) :
    dispatch env.dispatcher p head
      = if head.mType = .mtUnknown then .rejected else deliver (env.reaches head) p head := by
  unfold dispatch reaches
  cases head.mType with
  | mtSubscribeReq =>
    by_cases hsub : head.mCode = fdbCodeSubscribe
    · simp [hsub, hudp]
    · by_cases hunsub : head.mCode = fdbCodeUnsubscribe
      · simp [hunsub, hudp]
      · simp [hsub, hunsub, deliver]
  | mtUnknown => rfl
  | _ => simp

end Receiver

/-! ## §3. What a frame has to carry. -/

/-- The bytes behind the reserved part. -/
def payloadOf (m : CFdbMessage) : List UInt8 := m.mBuffer.elim [] (·.drop maxReservedSize)

/-- What every message brings along. -/
structure Carried (m : CFdbMessage) (r : IncomingMessage) : Prop where
  sn : r.mSn = m.mSn
  objectId : r.mOid = m.mOid
  flags : r.mFlag &&& msgGlobalFlagMask = m.mFlag &&& msgGlobalFlagMask
  payload : r.payload = payloadOf m

/-- What requests and broadcasts bring along as well. -/
structure Addressed (m : CFdbMessage) (qos : EFdbQOS) (r : IncomingMessage) : Prop where
  code : r.mCode = m.mCode
  topic : r.mTopic = m.mTopic
  sessionQos : r.mQOS = qos

/-- The message came out of a frame of `m`, sent on a session with this QoS.  A response is seen as
the request it answers, and a subscribe request as a broadcast. -/
def Transferred (env : Receiver) (m : CFdbMessage) (qos : EFdbQOS) (r : IncomingMessage) : Prop :=
  Carried m r ∧
    match m.mType with
    | .mtReturnEvent | .mtReply | .mtSidebandReply | .mtStatus =>
      ∃ req, env.pending m.mSn = some req ∧ r.mType = req.mType ∧ r.mCode = req.mCode
        ∧ r.mTopic = req.mTopic ∧ r.mQOS = req.mQOS
    | .mtSubscribeReq => r.mType = .mtBroadcast ∧ Addressed m qos r
    | _ => r.mType = m.mType ∧ Addressed m qos r

/-! ## §4. The message that is made. -/

/-- The low flags that a head carries. -/
theorem and_mask_header (m : CFdbMessage) (qos : EFdbQOS) (now : BitVec 64) :
    (m.header qos now).mFlag &&& msgGlobalFlagMask = m.mFlag &&& msgGlobalFlagMask := by
  show m.mFlag &&& msgGlobalFlagMask &&& msgGlobalFlagMask = _
  rw [BitVec.and_assoc, BitVec.and_self]

/-- The local flags are not among them. -/
theorem externalBuffer_and_mask : msgFlagExternalBuffer &&& msgGlobalFlagMask = 0#32 := by
  decide

theorem ofHead_flags (sid : Int) (head : CFdbMessageHeader) :
    (IncomingMessage.ofHead sid head).mFlag &&& msgGlobalFlagMask
      = head.mFlag &&& msgGlobalFlagMask := by
  show ((head.mFlag &&& msgGlobalFlagMask) ||| msgFlagExternalBuffer) &&& msgGlobalFlagMask = _
  rw [BitVec.and_or_distrib_right, BitVec.and_assoc, BitVec.and_self, externalBuffer_and_mask,
    BitVec.or_zero]

theorem update_flags (m : IncomingMessage) (head : CFdbMessageHeader) :
    (m.update head).mFlag &&& msgGlobalFlagMask = head.mFlag &&& msgGlobalFlagMask := by
  show ((m.mFlag &&& ~~~msgGlobalFlagMask) ||| (head.mFlag &&& msgGlobalFlagMask))
    &&& msgGlobalFlagMask = _
  have hother : ~~~msgGlobalFlagMask &&& msgGlobalFlagMask = 0#32 := by decide
  rw [BitVec.and_or_distrib_right, BitVec.and_assoc, hother, BitVec.and_zero, BitVec.zero_or,
    BitVec.and_assoc, BitVec.and_self]

/-- A response that reaches the requester has found a request for the same object. -/
theorem pending_of_doResponse (env : Receiver) {head : CFdbMessageHeader}
    (h : env.dispatcher.doResponse head = true) :
    ∃ req, env.pending head.mSn = some req ∧ req.mOid = head.mObjId := by
  have hwaiting : env.dispatcher.pending head.mSn
      = (env.pending head.mSn).map fun req => ⟨req.mOid, req.mType, req.sync⟩ := rfl
  unfold Dispatch.doResponse at h
  rw [hwaiting] at h
  cases hpending : env.pending head.mSn with
  | none =>
    rw [hpending] at h
    cases h
  | some req =>
    refine ⟨req, rfl, ?_⟩
    by_contra hne
    rw [hpending, map_some] at h
    dsimp only at h
    rw [if_pos hne] at h
    cases h

section Made

variable {m : CFdbMessage} (env : Receiver) (qos : EFdbQOS) (now now' : BitVec 64)

/-- A new message has the topic of the head. -/
theorem ofHead_topic (sid : Int) (htopic : m.mTopic.length + 1 < 2 ^ 16) :
    (IncomingMessage.ofHead sid (m.header qos now)).mTopic = m.mTopic := by
  show (if hasBroadcastTopic (m.header qos now).mOptions then m.mTopic else []) = m.mTopic
  split
  · rfl
  · next h =>
      exact ((m.header_wellFormed qos now htopic).topic_unset (Bool.eq_false_iff.mpr h)).symm

/-- **What is made of the head of a message**, if it reaches someone. -/
theorem transferred_message (htopic : m.mTopic.length + 1 < 2 ^ 16)
    (hreach : env.reaches (m.header qos now) = true) :
    Transferred env m qos (env.message now' (m.header qos now) (payloadOf m)) := by
  have hcarried : Carried m { IncomingMessage.ofHead env.sid (m.header qos now) with
      payload := payloadOf m } :=
    ⟨rfl, rfl, (ofHead_flags env.sid _).trans (and_mask_header m qos now), rfl⟩
  have haddressed : Addressed m qos (IncomingMessage.ofHead env.sid (m.header qos now)) :=
    ⟨rfl, ofHead_topic qos now env.sid htopic, rfl⟩
  unfold Transferred Receiver.message Receiver.made
  unfold Receiver.reaches at hreach
  have htype : (m.header qos now).mType = m.mType := rfl
  have hsn : (m.header qos now).mSn = m.mSn := rfl
  rw [htype] at hreach ⊢
  cases hm : m.mType with
  | mtReturnEvent | mtReply | mtSidebandReply | mtStatus =>
    -- the request gets the flags and the payload, and keeps the rest
    rw [hm] at hreach
    obtain ⟨req, hreq, hoid⟩ := pending_of_doResponse env hreach
    rw [hsn] at hreq
    simp only [hsn, hreq, elim_some]
    refine ⟨⟨env.pending_sn _ _ hreq, hoid, ?_, rfl⟩, req, rfl, rfl, rfl, rfl, rfl⟩
    exact (update_flags _ _).trans (and_mask_header m qos now)
  | mtSubscribeReq =>
    exact ⟨⟨hcarried.sn, hcarried.objectId, hcarried.flags, rfl⟩, rfl,
      haddressed.code, haddressed.topic, haddressed.sessionQos⟩
  | mtUnknown =>
    rw [hm] at hreach
    cases hreach
  | _ =>
    exact ⟨⟨hcarried.sn, hcarried.objectId, hcarried.flags, rfl⟩, hm,
      haddressed.code, haddressed.topic, haddressed.sessionQos⟩

end Made

/-! ## §5. The frame. -/

section Frame

variable {m : CFdbMessage} {buffer head : List UInt8}

/-- The frame is one that a session can receive. -/
theorem received_frame (hlayout : buffer.length = maxReservedSize + m.mPayloadSize)
    (hhead : head.length ≤ mMaxHeadSize) :
    ∃ f : ReceivedFrame, f.bytes
        = (m.framePrefix head.length).serialize ++ (head ++ buffer.drop maxReservedSize) := by
  obtain ⟨htotal, -⟩ := m.framePrefix_toNat hhead
  have hlt := m.payload_lt
  have hres : maxReservedSize = mPrefixSize + mMaxHeadSize := rfl
  have hpre := CFdbMsgPrefix.deserialize_serialize (m.framePrefix head.length)
    (head ++ buffer.drop maxReservedSize)
  refine ⟨⟨_, ?_, ?_, ?_⟩, rfl⟩
  · rw [length_append, CFdbMsgPrefix.length_serialize]
    omega
  · rw [hpre]
    unfold prefixAccepted
    rw [decide_eq_true_eq, int32_nonneg_iff (BitVec.isLt _), BitVec.toNat_sub, htotal,
      BitVec.toNat_ofNat]
    omega
  · rw [hpre, htotal, length_append, length_append, CFdbMsgPrefix.length_serialize,
      length_drop]
    omega

/-- The payload is what lies behind the rest. -/
theorem window_append (front payload : List UInt8) :
    Receiver.window (front ++ payload) front.length payload.length = some payload := by
  unfold Receiver.window
  by_cases hzero : payload.length = 0
  · rw [if_pos hzero, length_eq_zero_iff.mp hzero]
  · rw [if_neg hzero, if_pos length_append.ge, drop_left, take_length]

/-- What a session makes of the frame. -/
theorem receive_frame (env : Receiver) (qos : EFdbQOS) (now now' : BitVec 64)
    (hbuffer : m.mBuffer = some buffer)
    (hlayout : buffer.length = maxReservedSize + m.mPayloadSize)
    (htopic : m.mTopic.length + 1 < 2 ^ 16)
    (hhead : (m.header qos now).serialize.length ≤ mMaxHeadSize) (htype : m.mType ≠ .mtUnknown)
    {f : ReceivedFrame}
    (hf : f.bytes = (m.framePrefix (m.header qos now).serialize.length).serialize
      ++ ((m.header qos now).serialize ++ buffer.drop maxReservedSize)) :
    env.receive now' f.bytes
      = some (if env.reaches (m.header qos now) then
          .delivered (env.message now' (m.header qos now) (payloadOf m)) else .unread) := by
  obtain ⟨-, hheadLen⟩ := m.framePrefix_toNat hhead
  have hlt := m.payload_lt
  have hmax : mMaxHeadSize = 256 := rfl
  have hpre : CFdbMsgPrefix.deserialize f.bytes
      = m.framePrefix (m.header qos now).serialize.length := by
    rw [hf]
    exact CFdbMsgPrefix.deserialize_serialize _ _
  have haccepted := f.accepted
  rw [hpre] at haccepted
  -- the head is decoded from the bytes behind the prefix
  have hdrop : f.bytes.drop mPrefixSize
      = (m.header qos now).serialize ++ buffer.drop maxReservedSize := by
    rw [hf]
    exact drop_left' (CFdbMsgPrefix.length_serialize _)
  have hparse : parse (f.bytes.drop mPrefixSize)
      (int32 (m.framePrefix (m.header qos now).serialize.length).mHeadLength.toNat)
        = some (.parsed (m.header qos now)) := by
    rw [hheadLen, int32_of_range (by omega) (by omega), hdrop]
    exact parse_serialize (m.header_wellFormed qos now htopic) _
  have hpayload : payloadOf m = buffer.drop maxReservedSize := by
    unfold payloadOf
    rw [hbuffer]
    rfl
  have hsize : (m.header qos now).mPayloadSize.toNat = (buffer.drop maxReservedSize).length := by
    show (BitVec.ofNat 32 m.mPayloadSize).toNat = _
    rw [BitVec.toNat_ofNat, Nat.mod_eq_of_lt (by omega), length_drop]
    omega
  -- the payload starts behind the head
  have hwindow : Receiver.window f.bytes
      (mPrefixSize + (m.framePrefix (m.header qos now).serialize.length).mHeadLength.toNat)
      (m.header qos now).mPayloadSize.toNat = some (payloadOf m) := by
    have hfront : mPrefixSize + (m.header qos now).serialize.length
        = ((m.framePrefix (m.header qos now).serialize.length).serialize
          ++ (m.header qos now).serialize).length := by
      rw [length_append, CFdbMsgPrefix.length_serialize]
    rw [hheadLen, hsize, hpayload, hf, ← append_assoc, hfront]
    exact window_append _ _
  unfold Receiver.receive
  dsimp only
  rw [hpre, if_pos haccepted, hparse]
  show env.handle now' f.bytes _ (m.header qos now) = _
  unfold Receiver.handle
  rw [if_neg (show (m.header qos now).mType ≠ .mtUnknown from htype), hwindow]
  split
  · rfl
  · rfl

end Frame

/-- A message without buffer has no payload, and what it gets has none. -/
theorem payloadOf_withBuffer (m : CFdbMessage) : payloadOf m.withBuffer = payloadOf m := by
  unfold CFdbMessage.withBuffer
  cases hbuffer : m.mBuffer with
  | none =>
    have hempty : payloadOf (m.serialize Payload.empty) = Payload.empty.bytes := by
      have hgot : (m.serialize Payload.empty).mBuffer
          = some (replicate maxReservedSize 0 ++ Payload.empty.bytes) := rfl
      unfold payloadOf
      rw [hgot, elim_some, drop_left' length_replicate]
    unfold payloadOf
    rw [hbuffer]
    rfl
  | some buffer => rfl

/-- The buffer changes nothing of what is carried. -/
theorem transferred_withBuffer {env : Receiver} {m : CFdbMessage} {qos : EFdbQOS}
    {r : IncomingMessage} (h : Transferred env m.withBuffer qos r) : Transferred env m qos r := by
  have hpayload := payloadOf_withBuffer m
  unfold CFdbMessage.withBuffer at h hpayload
  split at h
  · next hnone =>
      obtain ⟨hcarried, hrest⟩ := h
      rw [if_pos hnone] at hpayload
      have hflags : (m.serialize Payload.empty).mFlag &&& msgGlobalFlagMask
          = m.mFlag &&& msgGlobalFlagMask := by
        show (m.mFlag ||| msgFlagExternalBuffer) &&& msgGlobalFlagMask = _
        rw [BitVec.and_or_distrib_right, externalBuffer_and_mask, BitVec.or_zero]
      refine ⟨⟨hcarried.sn, hcarried.objectId, hcarried.flags.trans hflags,
        hcarried.payload.trans hpayload⟩, ?_⟩
      rw [show (m.serialize Payload.empty).mType = m.mType from rfl] at hrest
      cases hm : m.mType with
      | mtReturnEvent | mtReply | mtSidebandReply | mtStatus =>
        rw [hm] at hrest
        exact hrest
      | _ =>
        rw [hm] at hrest
        exact ⟨hrest.1, hrest.2.code, hrest.2.topic, hrest.2.sessionQos⟩
  · exact h

/-- The frame of a message that has no header yet, and what a session makes of it. -/
theorem built_frame (env : Receiver) (m : CFdbMessage) (qos : EFdbQOS) (now now' : BitVec 64)
    (hnew : m.headOk = false) (hbuild : m.Buildable)
    (hhead : (m.withBuffer.header qos now).serialize.length ≤ mMaxHeadSize)
    (htype : m.mType ≠ .mtUnknown) :
    ∃ f : ReceivedFrame, m.buildHeader qos now
        = (m.withBuffer.putHeader (m.withBuffer.header qos now).serialize, true)
      ∧ (m.buildHeader qos now).1.rawData = some f.bytes
      ∧ env.receive now' f.bytes
        = some (if env.reaches (m.withBuffer.header qos now) then
            .delivered (env.message now' (m.withBuffer.header qos now) (payloadOf m.withBuffer))
          else .unread) := by
  obtain ⟨buffer, hbuffer, hlayout, htopic⟩ := hbuild.withBuffer
  have hknown : m.withBuffer.mType ≠ .mtUnknown := by
    unfold CFdbMessage.withBuffer
    split
    · exact htype
    · exact htype
  obtain ⟨f, hf⟩ := received_frame hlayout hhead
  have hbuilt : m.buildHeader qos now
      = (m.withBuffer.putHeader (m.withBuffer.header qos now).serialize, true) := by
    unfold CFdbMessage.buildHeader
    rw [if_neg (by simp [hnew]), if_neg (by omega)]
  refine ⟨f, hbuilt, ?_, receive_frame env qos now now' hbuffer hlayout htopic hhead hknown hf⟩
  rw [hbuilt, hf]
  exact CFdbMessage.rawData_putHeader hbuffer hlayout hhead

/-- **A frame carries its message**: for a message without header, of a known type, whose header
fits the reserved part, the frame is built and a session can receive it; if the head leads to
someone, what comes out is the message that went in. -/
theorem frame_carries (env : Receiver) (m : CFdbMessage) (qos : EFdbQOS) (now now' : BitVec 64)
    (hnew : m.headOk = false) (hbuild : m.Buildable)
    (hhead : (m.withBuffer.header qos now).serialize.length ≤ mMaxHeadSize)
    (htype : m.mType ≠ .mtUnknown) :
    ∃ f : ReceivedFrame, (m.buildHeader qos now).2 = true
      ∧ (m.buildHeader qos now).1.rawData = some f.bytes
      ∧ if env.reaches (m.withBuffer.header qos now) then
          ∃ r, env.receive now' f.bytes = some (.delivered r) ∧ Transferred env m qos r
        else env.receive now' f.bytes = some .unread := by
  obtain ⟨f, hbuilt, hraw, hreceive⟩ := built_frame env m qos now now' hnew hbuild hhead htype
  refine ⟨f, by rw [hbuilt], hraw, ?_⟩
  by_cases hreach : env.reaches (m.withBuffer.header qos now) = true
  · rw [if_pos hreach] at hreceive ⊢
    obtain ⟨-, -, -, htopic⟩ := hbuild.withBuffer
    exact ⟨_, hreceive, transferred_withBuffer (transferred_message env qos now now' htopic hreach)⟩
  · rw [if_neg hreach] at hreceive ⊢
    exact hreceive

/-- A message of this type and code for object 0, with the serial number 5 and three bytes of
payload. -/
def threeBytes (type : EFdbMessageType) (code : FdbMsgCode) : CFdbMessage :=
  CFdbMessage.serialize { plainEvent with mType := type, mCode := code, mSn := 5, mFlag := 0 }
    ⟨[1, 2, 3], by decide⟩

/-- A session whose endpoint has every object and lets everything pass, and where a request with
the code 9 and the serial number 5 waits. -/
def waitingSession : Receiver where
  sid := 1
  udp := false
  getObject _ _ := true
  authenticated _ _ := true
  pending sn := if sn = 5 then
      some ⟨⟨.mtRequest, 9, 5, 1, 0, 0, .qosReliable, [], none, []⟩, false⟩
    else none
  pending_sn sn req h := by
    split at h
    · next hsn =>
        rw [hsn, ← Option.some.inj h]
    · cases h

theorem frame_carries_request :
    ∃ (f : ReceivedFrame) (r : IncomingMessage),
      ((threeBytes .mtRequest 7).buildHeader .qosReliable 0).1.rawData = some f.bytes
        ∧ waitingSession.receive 0 f.bytes = some (.delivered r)
        ∧ Transferred waitingSession (threeBytes .mtRequest 7) .qosReliable r := by
  obtain ⟨f, -, hraw, h⟩ := frame_carries waitingSession (threeBytes .mtRequest 7) .qosReliable 0 0
    (by decide) (buildable_serialize _ (by decide)) (by decide) (by decide)
  obtain ⟨r, hr, htransferred⟩ := h
  exact ⟨f, r, hraw, hr, htransferred⟩

/-- **What comes out differs in type and code**: a reply with the code 7 is received as the request
with the code 9 that it answers, and a subscribe request as a broadcast. -/
theorem response_seen_as_request :
    (∃ (f : ReceivedFrame) (r : IncomingMessage),
      ((threeBytes .mtReply 7).buildHeader .qosReliable 0).1.rawData = some f.bytes
        ∧ waitingSession.receive 0 f.bytes = some (.delivered r)
        ∧ r.mType = .mtRequest ∧ r.mCode = 9)
    ∧ ∃ (f : ReceivedFrame) (r : IncomingMessage),
      ((threeBytes .mtSubscribeReq fdbCodeSubscribe).buildHeader .qosReliable 0).1.rawData
          = some f.bytes
        ∧ waitingSession.receive 0 f.bytes = some (.delivered r) ∧ r.mType = .mtBroadcast := by
  constructor
  · obtain ⟨f, -, hraw, hreceive⟩ := built_frame waitingSession (threeBytes .mtReply 7)
      .qosReliable 0 0 (by decide) (buildable_serialize _ (by decide)) (by decide) (by decide)
    exact ⟨f, _, hraw, hreceive, rfl, rfl⟩
  · obtain ⟨f, -, hraw, hreceive⟩ := built_frame waitingSession
      (threeBytes .mtSubscribeReq fdbCodeSubscribe) .qosReliable 0 0
      (by decide) (buildable_serialize _ (by decide)) (by decide) (by decide)
    exact ⟨f, _, hraw, hreceive, rfl⟩

end Fdbus.Session

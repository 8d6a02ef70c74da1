/-
  Fdbus.Message.Frame — the frame of a `CFdbMessage`.

  A message keeps its payload behind 264 reserved bytes.  `buildHeader` writes the prefix
  and the head into the end of the reserved part and sets `MSG_FLAG_HEAD_OK`, after which
  they are reused; only `updateObjectId` takes the flag back.

    * `frames_match` — as long as nothing that the header depends on changes while it is
      reused, every frame handed to a session has a prefix of its own length and a head that
      encodes the message and the session's QoS.

  Bytes that are allocated and not yet written are taken as 0.  Log data is left out.
-/
import Fdbus.Library.Run
import Fdbus.Wire.MessageHeader

namespace Fdbus.Message

open Fdbus.Run List Option Bool
open Fdbus.Wire

/-! ## §1. Messages. -/

/-- `mMaxHeadSize`. -/
def mMaxHeadSize : Nat := 256

/-- `maxReservedSize()`. -/
def maxReservedSize : Nat := mPrefixSize + mMaxHeadSize

/-- A payload whose buffer has a size in `int32_t`. -/
structure Payload where
  bytes : List UInt8
  size_lt : maxReservedSize + bytes.length < 2 ^ 31

/-- The empty payload. -/
def Payload.empty : Payload := ⟨[], by decide⟩

def msgFlagNoReplyExpected : BitVec 32 := 1#32 <<< 0
def msgFlagError : BitVec 32 := 1#32 <<< 4
def msgFlagStatus : BitVec 32 := 1#32 <<< 5
def msgFlagInitialResponse : BitVec 32 := 1#32 <<< 6
def msgFlagHeadOk : BitVec 32 := 1#32 <<< 24
def msgFlagReplied : BitVec 32 := 1#32 <<< 26
def msgFlagExternalBuffer : BitVec 32 := 1#32 <<< 28

/-- `MSG_GLOBAL_FLAG_MASK`. -/
def msgGlobalFlagMask : BitVec 32 := 0xffffff#32

/-- The fields of `CFdbMessage` its frame depends on.  Of `mTimeStamp` the arrival time is
kept; topics are C strings. -/
structure CFdbMessage where
  mType : EFdbMessageType
  mCode : FdbMsgCode
  mSn : BitVec 32
  mPayloadSize : Nat
  mHeadSize : Nat
  mOffset : Nat
  mOid : FdbObjectId
  mBuffer : Option (List UInt8)
  mFlag : BitVec 32
  mTopic : List UInt8
  mTimeStamp : Option (BitVec 64)
  payload_lt : maxReservedSize + mPayloadSize < 2 ^ 31
  topic_no_nul : (0 : UInt8) ∉ mTopic

/-- A bit of `mFlag` is set. -/
def CFdbMessage.has (m : CFdbMessage) (flag : BitVec 32) : Bool := m.mFlag &&& flag != 0#32

/-- `mFlag & MSG_FLAG_HEAD_OK`. -/
def CFdbMessage.headOk (m : CFdbMessage) : Bool := m.has msgFlagHeadOk

/-- `getRawDataSize()`. -/
def CFdbMessage.getRawDataSize (m : CFdbMessage) : Nat :=
  mPrefixSize + m.mHeadSize + m.mPayloadSize

/-- The `getRawDataSize()` bytes from `getRawBuffer()` on, if they are all in the buffer. -/
def CFdbMessage.rawData (m : CFdbMessage) : Option (List UInt8) :=
  match m.mBuffer with
  | none => none
  | some buffer =>
    if m.mOffset + m.getRawDataSize ≤ buffer.length then
      some ((buffer.drop m.mOffset).take m.getRawDataSize)
    else none

/-! ## §2. Serializing the payload. -/

/-- What both `serialize` functions do before they look at the payload. -/
def CFdbMessage.beginSerialize (m : CFdbMessage) : CFdbMessage :=
  { m with mOffset := 0, mHeadSize := mMaxHeadSize, mFlag := m.mFlag ||| msgFlagExternalBuffer }

/-- `releaseBuffer` and `allocCopyRawBuffer`. -/
def CFdbMessage.setPayload (m : CFdbMessage) (payload : Payload) : CFdbMessage :=
  { m with
    mPayloadSize := payload.bytes.length
    mBuffer := some (List.replicate maxReservedSize 0 ++ payload.bytes)
    payload_lt := payload.size_lt }

/-- `serialize(buffer, size)`. -/
def CFdbMessage.serialize (m : CFdbMessage) (payload : Payload) : CFdbMessage :=
  m.beginSerialize.setPayload payload

/-- What a builder makes of its data: `build()` fails, or it gives a size and `toBuffer`
fills it or fails. -/
structure Built where
  payload : Option Payload
  complete : Bool

/-- `serialize(data)`, with its result. -/
def CFdbMessage.serializeBuilder (m : CFdbMessage) (data : Built) : CFdbMessage × Bool :=
  match data.payload with
  | none => (m.beginSerialize, false)
  | some payload => (m.beginSerialize.setPayload payload, data.complete)

/-- `setStatusMsg(error_code, description, type)`, where `info` is the encoded error. -/
def CFdbMessage.setStatusMsg (m : CFdbMessage) (errorCode : Int) (info : Payload)
    (type : Option EFdbMessageType) : CFdbMessage :=
  let flag := if errorCode < 0 then m.mFlag ||| msgFlagError else m.mFlag
  { m with
    mType := type.getD m.mType
    mFlag := flag ||| (msgFlagStatus ||| msgFlagReplied) }.serialize info

/-- `updateObjectId(object_id)`. -/
def CFdbMessage.updateObjectId (m : CFdbMessage) (objectId : FdbObjectId) : CFdbMessage :=
  if m.mOid ≠ objectId then
    { m with mFlag := m.mFlag &&& ~~~msgFlagHeadOk, mOid := objectId }
  else m

/-- `replaceBuffer(0)`. -/
def CFdbMessage.dropBuffer (m : CFdbMessage) : CFdbMessage :=
  { m with
    mBuffer := none, mPayloadSize := 0, mHeadSize := 0, mOffset := 0
    payload_lt := by decide }

/-! ## §3. `buildHeader`. -/

/-- `encodeDebugInfo`: the two times of the head, of which `now` is the current one. -/
def CFdbMessage.encodeDebugInfo (m : CFdbMessage) (now : BitVec 64) :
    Option (BitVec 64) × Option (BitVec 64) :=
  match m.mTimeStamp with
  | none => (none, none)
  | some arriveTime =>
    -- a point-to-point broadcast counts as a reply
    let type := if m.mType = .mtBroadcast ∧ m.has msgFlagInitialResponse then .mtReply
      else m.mType
    match type with
    | .mtReply | .mtStatus | .mtReturnEvent => (some arriveTime, some now)
    | .mtRequest | .mtSubscribeReq | .mtBroadcast | .mtGetEvent | .mtPublish | .mtSetEvent =>
      (some now, none)
    | _ => (none, none)

/-- The head `buildHeader` makes for a session of this QoS. -/
def CFdbMessage.header (m : CFdbMessage) (qos : EFdbQOS) (now : BitVec 64) :
    CFdbMessageHeader where
  mType := m.mType
  mSn := m.mSn
  mCode := m.mCode
  mFlag := m.mFlag &&& msgGlobalFlagMask
  mObjId := m.mOid
  mPayloadSize := BitVec.ofNat 32 m.mPayloadSize
  mQOS := qos
  mOptions :=
    (if m.mTopic = [] then 0#8 else 2#8)
      ||| (if (m.encodeDebugInfo now).1.isSome then 4#8 else 0#8)
      ||| (if (m.encodeDebugInfo now).2.isSome then 8#8 else 0#8)
  mTopic := m.mTopic
  mSendArriveTime := (m.encodeDebugInfo now).1.getD 0
  mReplyTime := (m.encodeDebugInfo now).2.getD 0

/-- Copy bytes into a buffer; what would land outside is lost. -/
def overwrite (buffer : List UInt8) (pos : Nat) (bytes : List UInt8) : List UInt8 :=
  buffer.take pos ++ bytes.take (buffer.length - pos) ++ buffer.drop (pos + bytes.length)

/-- The message with the head `head` and its prefix in the reserved part. -/
def CFdbMessage.putHeader (m : CFdbMessage) (head : List UInt8) : CFdbMessage :=
  let headOffset := maxReservedSize - head.length
  -- the sizes are set first, since the prefix is made from them
  let m' := { m with mHeadSize := head.length, mOffset := headOffset - mPrefixSize }
  let p : CFdbMsgPrefix := ⟨BitVec.ofNat 32 m'.getRawDataSize, BitVec.ofNat 32 m'.mHeadSize⟩
  { m' with
    mBuffer := m.mBuffer.map fun buffer =>
      overwrite (overwrite buffer headOffset head) m'.mOffset p.serialize
    mFlag := m.mFlag ||| msgFlagHeadOk }

/-- A message without buffer gets one for the head. -/
def CFdbMessage.withBuffer (m : CFdbMessage) : CFdbMessage :=
  if m.mBuffer.isNone then m.serialize Payload.empty else m

/-- `buildHeader(session)`, with its result. -/
def CFdbMessage.buildHeader (m : CFdbMessage) (qos : EFdbQOS) (now : BitVec 64) :
    CFdbMessage × Bool :=
  -- a header that was built once is reused, whatever has changed since
  if m.headOk then (m, true)
  else if (m.withBuffer.header qos now).serialize.length > mMaxHeadSize then
    (m.withBuffer, false)
  else (m.withBuffer.putHeader (m.withBuffer.header qos now).serialize, true)

/-! ## §4. What a frame has to say. -/

/-- What a session is handed: the bytes, with the message as it is then and the session's
QoS. -/
structure Handed where
  message : CFdbMessage
  qos : EFdbQOS
  frame : Option (List UInt8)

/-- The frame belongs to its message and session: it lies in the buffer, its prefix gives
its length and the length of the head, and the head encodes the message and the QoS. -/
structure Handed.Matches (h : Handed) (bytes : List UInt8) (head : CFdbMessageHeader) : Prop where
  frame : h.frame = some bytes
  length : bytes.length = h.message.getRawDataSize
  total : (CFdbMsgPrefix.deserialize bytes).mTotalLength.toNat = bytes.length
  encodes : (bytes.drop mPrefixSize).take (CFdbMsgPrefix.deserialize bytes).mHeadLength.toNat
    = head.serialize
  decodes : parse (bytes.drop mPrefixSize) (CFdbMsgPrefix.deserialize bytes).mHeadLength.toNat
    = some (.parsed head)
  type : head.mType = h.message.mType
  sn : head.mSn = h.message.mSn
  code : head.mCode = h.message.mCode
  objectId : head.mObjId = h.message.mOid
  payloadSize : head.mPayloadSize.toNat = h.message.mPayloadSize
  topic : head.mTopic = h.message.mTopic
  sessionQos : head.mQOS = h.qos

/-- The frame matches the message it carries. -/
def Handed.Ok (h : Handed) : Prop := ∃ bytes head, h.Matches bytes head

/-- The message's buffer, if it has one, is laid out as `serialize` does it, and the length
word of its topic does not wrap. -/
def CFdbMessage.Buildable (m : CFdbMessage) : Prop :=
  (∀ buffer, m.mBuffer = some buffer → buffer.length = maxReservedSize + m.mPayloadSize)
    ∧ m.mTopic.length + 1 < 2 ^ 16

variable {buffer : List UInt8} (m : CFdbMessage) {s : Life} {qos : EFdbQOS}

theorem overwrite_eq {bytes : List UInt8} {pos : Nat} (h : pos + bytes.length ≤ buffer.length) :
    overwrite buffer pos bytes = buffer.take pos ++ (bytes ++ buffer.drop (pos + bytes.length)) := by
  have hall : bytes.take (buffer.length - pos) = bytes := take_of_length_le (by omega)
  unfold overwrite
  rw [hall, append_assoc]

/-- The head is well formed. -/
theorem CFdbMessage.header_wellFormed (qos : EFdbQOS) (now : BitVec 64)
    (htopic : m.mTopic.length + 1 < 2 ^ 16) : (m.header qos now).WellFormed := by
  -- the three option bits are independent of each other
  have hoptions : ∀ a b c : Bool,
      ((if a = true then 0#8 else 2#8) ||| (if b = true then 4#8 else 0#8)
        ||| (if c = true then 8#8 else 0#8)).getLsbD 1 = !a
      ∧ ((if a = true then 0#8 else 2#8) ||| (if b = true then 4#8 else 0#8)
        ||| (if c = true then 8#8 else 0#8)).getLsbD 2 = b
      ∧ ((if a = true then 0#8 else 2#8) ||| (if b = true then 4#8 else 0#8)
        ||| (if c = true then 8#8 else 0#8)).getLsbD 3 = c := by decide
  have h := hoptions (decide (m.mTopic = [])) (m.encodeDebugInfo now).1.isSome
    (m.encodeDebugInfo now).2.isSome
  simp only [decide_eq_true_eq] at h
  obtain ⟨htopicBit, hsendBit, hreplyBit⟩ := h
  refine ⟨htopic, m.topic_no_nul, ?_, ?_, ?_⟩
  · intro hbit
    have hnone := htopicBit.symm.trans hbit
    show m.mTopic = []
    simpa using hnone
  · intro hbit
    have hnone := hsendBit.symm.trans hbit
    show (m.encodeDebugInfo now).1.getD 0 = 0
    rw [isSome_eq_false_iff, isNone_iff_eq_none] at hnone
    rw [hnone]
    rfl
  · intro hbit
    have hnone := hreplyBit.symm.trans hbit
    show (m.encodeDebugInfo now).2.getD 0 = 0
    rw [isSome_eq_false_iff, isNone_iff_eq_none] at hnone
    rw [hnone]
    rfl

/-- The reserved part after `buildHeader` ends with the prefix and the head. -/
theorem overwrite_header {head p : List UInt8} {n : Nat}
    (hlen : buffer.length = maxReservedSize + n) (hhead : head.length ≤ mMaxHeadSize)
    (hp : p.length = mPrefixSize) :
    (overwrite (overwrite buffer (maxReservedSize - head.length) head)
        (maxReservedSize - head.length - mPrefixSize) p)
      = buffer.take (maxReservedSize - head.length - mPrefixSize)
        ++ (p ++ (head ++ buffer.drop maxReservedSize)) := by
  have hres : maxReservedSize = mPrefixSize + mMaxHeadSize := rfl
  have hpos : maxReservedSize - head.length + head.length = maxReservedSize := by omega
  -- the head is written first and ends where the payload begins
  have hinner : overwrite buffer (maxReservedSize - head.length) head
      = buffer.take (maxReservedSize - head.length) ++ (head ++ buffer.drop maxReservedSize) := by
    rw [overwrite_eq (by omega), hpos]
  have htake : (buffer.take (maxReservedSize - head.length)).length
      = maxReservedSize - head.length := by
    rw [length_take]
    omega
  have hend : maxReservedSize - head.length - mPrefixSize + p.length
      = maxReservedSize - head.length := by omega
  rw [hinner, overwrite_eq (by simp only [length_append, htake]; omega), hend,
    drop_left' htake, take_append_of_le_length (by omega), take_take,
    Nat.min_eq_left (by omega)]

open CFdbMessage

theorem CFdbMessage.rawData_eq {m : CFdbMessage} {b bytes : List UInt8}
    (hbuffer : m.mBuffer = some (b ++ bytes)) (hoffset : b.length = m.mOffset)
    (hsize : bytes.length = m.getRawDataSize) : m.rawData = some bytes := by
  unfold rawData
  rw [hbuffer]
  show (if _ then _ else _) = _
  rw [if_pos (by rw [length_append]; omega), drop_left' hoffset,
    take_of_length_le hsize.le]

/-- The prefix of a frame with a head of this length. -/
def CFdbMessage.framePrefix (m : CFdbMessage) (headLength : Nat) : CFdbMsgPrefix :=
  ⟨BitVec.ofNat 32 (mPrefixSize + headLength + m.mPayloadSize), BitVec.ofNat 32 headLength⟩

section PutHeader

variable {m : CFdbMessage} {buffer head : List UInt8}

/-- The frame is the prefix, the head and what lies behind the reserved part. -/
theorem CFdbMessage.rawData_putHeader (hbuffer : m.mBuffer = some buffer)
    (hlayout : buffer.length = maxReservedSize + m.mPayloadSize)
    (hhead : head.length ≤ mMaxHeadSize) :
    (m.putHeader head).rawData
      = some ((m.framePrefix head.length).serialize ++ (head ++ buffer.drop maxReservedSize)) := by
  apply rawData_eq (b := buffer.take (maxReservedSize - head.length - mPrefixSize))
  · show m.mBuffer.map _ = _
    rw [hbuffer, map_some]
    exact congrArg some (overwrite_header hlayout hhead (m.framePrefix head.length).length_serialize)
  · show _ = maxReservedSize - head.length - mPrefixSize
    rw [length_take]
    omega
  · show _ = mPrefixSize + head.length + m.mPayloadSize
    rw [length_append, length_append, CFdbMsgPrefix.length_serialize, length_drop]
    omega

/-- The lengths in the prefix are those of the frame and of the head. -/
theorem CFdbMessage.framePrefix_toNat (m : CFdbMessage) (hhead : head.length ≤ mMaxHeadSize) :
    (m.framePrefix head.length).mTotalLength.toNat = mPrefixSize + head.length + m.mPayloadSize
      ∧ (m.framePrefix head.length).mHeadLength.toNat = head.length := by
  have hlt := m.payload_lt
  have hsize : mPrefixSize = 8 := rfl
  have hmax : mMaxHeadSize = 256 := rfl
  constructor
  · show (BitVec.ofNat 32 _).toNat = _
    rw [BitVec.toNat_ofNat, Nat.mod_eq_of_lt (by omega)]
  · show (BitVec.ofNat 32 head.length).toNat = head.length
    rw [BitVec.toNat_ofNat, Nat.mod_eq_of_lt (by omega)]

end PutHeader

/-- **A built header matches.** -/
theorem CFdbMessage.putHeader_ok {m : CFdbMessage} {buffer : List UInt8} (qos : EFdbQOS)
    (now : BitVec 64) (hbuffer : m.mBuffer = some buffer)
    (hlayout : buffer.length = maxReservedSize + m.mPayloadSize)
    (htopic : m.mTopic.length + 1 < 2 ^ 16)
    (hhead : (m.header qos now).serialize.length ≤ mMaxHeadSize) :
    Handed.Ok ⟨m.putHeader (m.header qos now).serialize, qos,
      (m.putHeader (m.header qos now).serialize).rawData⟩ := by
  set head := (m.header qos now).serialize with hheadDef
  have hwf := m.header_wellFormed qos now htopic
  obtain ⟨htotal, hheadLen⟩ := m.framePrefix_toNat hhead
  let p := m.framePrefix head.length
  let bytes := p.serialize ++ (head ++ buffer.drop maxReservedSize)
  have hraw : (m.putHeader head).rawData = some bytes :=
    rawData_putHeader hbuffer hlayout hhead
  have hbytes : bytes.length = mPrefixSize + head.length + m.mPayloadSize := by
    simp only [bytes, length_append, CFdbMsgPrefix.length_serialize, length_drop]
    omega
  have hpre : CFdbMsgPrefix.deserialize bytes = p := CFdbMsgPrefix.deserialize_serialize p _
  have hdrop : bytes.drop mPrefixSize = head ++ buffer.drop maxReservedSize :=
    drop_left' p.length_serialize
  refine ⟨bytes, m.header qos now, hraw, hbytes, ?_, ?_, ?_, rfl, rfl, rfl, rfl, ?_, rfl, rfl⟩
  · rw [hpre, hbytes]
    exact htotal
  · rw [hpre, hheadLen, hdrop, take_left]
  · rw [hpre, hheadLen, hdrop]
    exact parse_serialize hwf _
  · show (BitVec.ofNat 32 m.mPayloadSize).toNat = m.mPayloadSize
    rw [BitVec.toNat_ofNat, Nat.mod_eq_of_lt (by omega)]

/-! ## §5. Operations on a message. -/

/-- `FDB_ST_UNABLE_TO_SEND`. -/
def fdbStUnableToSend : Int := -20

/-- What queueing a message depends on: it has a context, the context takes the job, and
the encoded error for the case that it does not. -/
structure Queue where
  context : Bool
  queued : Bool
  info : Payload

/-- `feedback(msg_ref, type)`; a message that is queued is sent by a later event. -/
def CFdbMessage.feedback (m : CFdbMessage) (type : EFdbMessageType) (q : Queue) : CFdbMessage :=
  if !q.context then m.setStatusMsg fdbStUnableToSend q.info none
  else if q.queued then { m with mType := type, mFlag := m.mFlag ||| msgFlagReplied }
  else
    { m with mType := type, mFlag := (m.mFlag ||| msgFlagReplied) &&& ~~~msgFlagReplied }.setStatusMsg
      fdbStUnableToSend q.info none

/-- `reply(msg_ref, data)`. -/
def CFdbMessage.replyBuilder (m : CFdbMessage) (data : Built) (q : Queue) : CFdbMessage :=
  if m.has msgFlagNoReplyExpected then m
  else if !(m.serializeBuilder data).2 then (m.serializeBuilder data).1
  else (m.serializeBuilder data).1.feedback .mtReply q

/-- `reply(msg_ref, buffer, size)`. -/
def CFdbMessage.reply (m : CFdbMessage) (payload : Payload) (q : Queue) : CFdbMessage :=
  if !q.context then m.setStatusMsg fdbStUnableToSend q.info none
  else if m.has msgFlagNoReplyExpected then m
  else (m.serialize payload).feedback .mtReply q

/-- `status(msg_ref, error_code, description)`. -/
def CFdbMessage.status (m : CFdbMessage) (errorCode : Int) (info : Payload) (q : Queue) :
    CFdbMessage :=
  if !q.context then m.setStatusMsg fdbStUnableToSend q.info none
  else if m.has msgFlagNoReplyExpected then m
  else if q.queued then m.setStatusMsg errorCode info (some .mtStatus)
  else (m.setStatusMsg errorCode info (some .mtStatus)).setStatusMsg fdbStUnableToSend q.info none

/-- The life of a message: what it is now, the frames it was handed over with, and the QoS of
the session its header was built for, until the message is serialized again or loses its
buffer. -/
structure Life where
  message : CFdbMessage
  cachedFor : Option EFdbQOS
  handed : List Handed

def Life.start (m : CFdbMessage) : Life := ⟨m, none, []⟩

/-- `sendMessage(msg)` of a session with this QoS, from `buildHeader` on, with its result. -/
def Life.send (s : Life) (qos : EFdbQOS) (now : BitVec 64) : Life × Bool :=
  let r := s.message.buildHeader qos now
  if r.2 then
    (⟨r.1, if s.message.headOk then s.cachedFor else some qos,
      s.handed ++ [⟨r.1, qos, r.1.rawData⟩]⟩, true)
  else (⟨r.1, none, s.handed⟩, false)

/-- The operations.  A session is given by its QoS; `now` is the time at which a header is
built. -/
inductive Operation where
  | serialize (payload : Payload)
  | serializeBuilder (data : Built)
  | reply (payload : Payload) (q : Queue)
  | replyBuilder (data : Built) (q : Queue)
  | status (errorCode : Int) (info : Payload) (q : Queue)
  | updateObjectId (objectId : FdbObjectId)
  | replyEventCache (payload : Payload) (session : Option EFdbQOS) (now : BitVec 64)
  | sendMessage (qos : EFdbQOS) (now : BitVec 64)
  | sendMessageSync (sn : BitVec 32) (qos : EFdbQOS) (now : BitVec 64) (written : Bool)
      (info : Payload)

/-- An operation that only changes the message, and may serialize it. -/
def Life.change (s : Life) (m : CFdbMessage) : Life := ⟨m, none, s.handed⟩

/-- `replyEventCache(msg_ref, buffer, size)`. -/
def Life.replyEventCache (s : Life) (payload : Payload) (session : Option EFdbQOS)
    (now : BitVec 64) : Life :=
  if s.message.has msgFlagNoReplyExpected then s
  else
    let m := s.message.serialize payload
    let t := s.change { m with mType := .mtReturnEvent, mFlag := m.mFlag ||| msgFlagReplied }
    match session with
    | some qos => (t.send qos now).1
    | none => t

/-- `sendMessageSync(ref, msg)`; the write may fail after the header was built. -/
def Life.sendMessageSync (s : Life) (sn : BitVec 32) (qos : EFdbQOS) (now : BitVec 64)
    (written : Bool) (info : Payload) : Life :=
  let r := (s.change { s.message with mSn := sn }).send qos now
  -- freeing the buffer leaves `MSG_FLAG_HEAD_OK` set
  if r.2 && written then r.1.change r.1.message.dropBuffer
  else r.1.change (r.1.message.setStatusMsg fdbStUnableToSend info none)

/-- One operation. -/
def Life.step (s : Life) : Operation → Option Life
  | .serialize payload => some (s.change (s.message.serialize payload))
  | .serializeBuilder data => some (s.change (s.message.serializeBuilder data).1)
  | .reply payload q => some (s.change (s.message.reply payload q))
  | .replyBuilder data q => some (s.change (s.message.replyBuilder data q))
  | .status errorCode info q => some (s.change (s.message.status errorCode info q))
  | .updateObjectId objectId => some { s with message := s.message.updateObjectId objectId }
  | .replyEventCache payload session now => some (s.replyEventCache payload session now)
  | .sendMessage qos now => some (s.send qos now).1
  | .sendMessageSync sn qos now written info =>
    some (s.sendMessageSync sn qos now written info)

/-! ## §6. Runs. -/

/-- What the header depends on does not change while it is reused.  A send reuses a header
only for a session of the QoS it was built for and without a serialization in between;
otherwise it finds a buffer to build one in, for a topic that fits. -/
def HeaderKept (s : Life) : Operation → Prop
  | .sendMessage qos _ =>
    if s.message.headOk then s.cachedFor = some qos else s.message.Buildable
  | .sendMessageSync _ _ _ _ _ => s.message.headOk = false ∧ s.message.Buildable
  | .replyEventCache _ _ _ => s.message.headOk = false ∧ s.message.mTopic.length + 1 < 2 ^ 16
  | _ => True

/-- The frames so far match, and so would the next one that reuses the header. -/
structure FramesOk (s : Life) : Prop where
  handed : ∀ h ∈ s.handed, h.Ok
  cached : ∀ qos, s.message.headOk = true → s.cachedFor = some qos →
    Handed.Ok ⟨s.message, qos, s.message.rawData⟩

theorem headOk_eq : m.headOk = m.mFlag.getLsbD 24 := by
  unfold headOk has
  rw [show msgFlagHeadOk = BitVec.twoPow 32 24 from rfl, BitVec.and_twoPow]
  cases m.mFlag.getLsbD 24 <;> rfl

theorem headOk_serialize (payload : Payload) : (m.serialize payload).headOk = m.headOk := by
  rw [headOk_eq, headOk_eq]
  show (m.mFlag ||| msgFlagExternalBuffer).getLsbD 24 = _
  rw [BitVec.getLsbD_or, show msgFlagExternalBuffer.getLsbD 24 = false from rfl, Bool.or_false]

theorem buildable_serialize {m : CFdbMessage} (payload : Payload)
    (htopic : m.mTopic.length + 1 < 2 ^ 16) : (m.serialize payload).Buildable := by
  refine ⟨?_, htopic⟩
  rintro _ ⟨⟩
  show (replicate maxReservedSize 0 ++ payload.bytes).length = _
  rw [length_append, length_replicate]
  rfl

/-- `updateObjectId` leaves the message alone or takes the header back. -/
theorem updateObjectId_cases (objectId : FdbObjectId) :
    m.updateObjectId objectId = m ∨ (m.updateObjectId objectId).headOk = false := by
  unfold updateObjectId
  by_cases h : m.mOid ≠ objectId
  · rw [if_pos h, headOk_eq]
    refine .inr ?_
    show (m.mFlag &&& ~~~msgFlagHeadOk).getLsbD 24 = false
    rw [BitVec.getLsbD_and, show (~~~msgFlagHeadOk).getLsbD 24 = false from rfl, Bool.and_false]
  · rw [if_neg h]
    exact .inl rfl

/-- A message in which a header can be built has a buffer for it, or gets one. -/
theorem CFdbMessage.Buildable.withBuffer {m : CFdbMessage} (h : m.Buildable) :
    ∃ buffer, m.withBuffer.mBuffer = some buffer
      ∧ buffer.length = maxReservedSize + m.withBuffer.mPayloadSize
      ∧ m.withBuffer.mTopic.length + 1 < 2 ^ 16 := by
  unfold CFdbMessage.withBuffer
  cases hbuffer : m.mBuffer with
  | none =>
    have hserialized := buildable_serialize (m := m) Payload.empty h.2
    exact ⟨_, rfl, hserialized.1 _ rfl, h.2⟩
  | some buffer => exact ⟨buffer, hbuffer, h.1 buffer hbuffer, h.2⟩

/-- A message that only changes keeps its frames. -/
theorem FramesOk.change (h : FramesOk s) (m : CFdbMessage) : FramesOk (s.change m) :=
  ⟨h.handed, fun _ _ hqos => absurd hqos (by simp [Life.change])⟩

/-- A send that builds the header. -/
theorem FramesOk.send_build (h : FramesOk s) (hok : s.message.headOk = false)
    (hbuild : s.message.Buildable) (qos : EFdbQOS) (now : BitVec 64) :
    FramesOk (s.send qos now).1 := by
  obtain ⟨buffer, hbuffer, hlayout, htopic⟩ := hbuild.withBuffer
  unfold Life.send buildHeader
  simp only [hok, false_eq_true, if_false]
  by_cases hlong : (s.message.withBuffer.header qos now).serialize.length > mMaxHeadSize
  · -- nothing is handed over
    rw [if_pos hlong]
    exact ⟨h.handed, fun _ _ hqos => absurd hqos (by simp)⟩
  · rw [if_neg hlong]
    have hnew := putHeader_ok qos now hbuffer hlayout htopic
      (Nat.le_of_not_gt hlong)
    refine ⟨?_, ?_⟩
    · exact forall_mem_append.mpr ⟨h.handed, forall_mem_singleton.mpr hnew⟩
    · intro q _ hq
      cases hq
      exact hnew

/-- A send that reuses it. -/
theorem FramesOk.send_reuse (h : FramesOk s) (hok : s.message.headOk = true)
    {qos : EFdbQOS} (hqos : s.cachedFor = some qos) (now : BitVec 64) :
    FramesOk (s.send qos now).1 := by
  unfold Life.send buildHeader
  simp only [hok, if_true]
  have hnew := h.cached qos hok hqos
  exact ⟨forall_mem_append.mpr ⟨h.handed, forall_mem_singleton.mpr hnew⟩, h.cached⟩

/-- One operation keeps the frames matching. -/
theorem FramesOk.step {t : Life} {op : Operation} (hg : HeaderKept s op) (h : FramesOk s)
    (hstep : s.step op = some t) : FramesOk t := by
  cases op with
  | updateObjectId objectId =>
    cases hstep
    rcases updateObjectId_cases s.message objectId with hsame | hno
    · show FramesOk { s with message := s.message.updateObjectId objectId }
      rw [hsame]
      exact h
    · exact ⟨h.handed, fun _ hok => absurd hok (by simp [hno])⟩
  | sendMessage qos now =>
    cases hstep
    replace hg : if s.message.headOk then s.cachedFor = some qos else s.message.Buildable := hg
    by_cases hok : s.message.headOk = true
    · rw [if_pos hok] at hg
      exact h.send_reuse hok hg now
    · rw [if_neg hok] at hg
      exact h.send_build (eq_false_iff.mpr hok) hg qos now
  | sendMessageSync sn qos now written info =>
    cases hstep
    have hsent := (h.change { s.message with mSn := sn }).send_build hg.1 hg.2 qos now
    show FramesOk (if _ then _ else _)
    split
    · exact hsent.change _
    · exact hsent.change _
  | replyEventCache payload session now =>
    cases hstep
    show FramesOk (s.replyEventCache payload session now)
    unfold Life.replyEventCache
    split
    · exact h
    · cases session with
      | none => exact h.change _
      | some qos =>
        refine (h.change _).send_build ?_ ?_ qos now
        · -- `MSG_FLAG_REPLIED` is another bit
          rw [headOk_eq]
          show ((s.message.serialize payload).mFlag ||| msgFlagReplied).getLsbD 24 = false
          rw [BitVec.getLsbD_or, ← headOk_eq, headOk_serialize, hg.1]
          rfl
        · exact buildable_serialize payload hg.2
  | _ =>
    cases hstep
    exact h.change _

/-- **Frames match their message.**  In every run in which what the header depends on does
not change while it is reused, every frame handed to a session matches the message as it is
then and that session's QoS. -/
theorem frames_match {m : CFdbMessage} {ops : List Operation} {s : Life}
    (hops : Along Life.step HeaderKept (Life.start m) ops)
    (hrun : run Life.step (Life.start m) ops = some s) : ∀ h ∈ s.handed, h.Ok := by
  have hstart : FramesOk (Life.start m) :=
    ⟨fun h hh => absurd hh not_mem_nil, fun _ _ hqos => absurd hqos (by simp [Life.start])⟩
  exact (run_along (fun _ _ _ hg hs hstep => FramesOk.step hg hs hstep) hstart hops hrun).handed

/-- A broadcast of event 7 without payload, as its constructor leaves it. -/
def plainEvent : CFdbMessage where
  mType := .mtBroadcast
  mCode := 7#32
  mSn := 0xffffffff#32
  mPayloadSize := 0
  mHeadSize := 0
  mOffset := 0
  mOid := 0#32
  mBuffer := none
  mFlag := msgFlagNoReplyExpected
  mTopic := []
  mTimeStamp := none
  payload_lt := by decide
  topic_no_nul := List.not_mem_nil

/-- Serialized and sent to two sessions of the same QoS. -/
def sameQos : List Operation :=
  [.serialize ⟨[1, 2], by decide⟩, .sendMessage .qosReliable 0, .sendMessage .qosReliable 0]

theorem frames_match_same_qos :
    ∃ s, run Life.step (Life.start plainEvent) sameQos = some s ∧ s.handed.length = 2
      ∧ ∀ h ∈ s.handed, h.Ok := by
  refine ⟨_, rfl, ?_, @frames_match plainEvent sameQos _ ?_ rfl⟩
  · decide +kernel
  · refine along_cons trivial rfl (along_cons ?_ rfl (along_cons ?_ rfl trivial))
    · dsimp only [HeaderKept]
      rw [if_neg (by decide)]
      exact buildable_serialize _ (by decide)
    · dsimp only [HeaderKept]
      rw [if_pos (by decide +kernel)]
      rfl

/-- The head a frame carries. -/
def Handed.head (h : Handed) : Option CFdbMessageHeader :=
  h.frame.bind fun bytes =>
    match parse (bytes.drop mPrefixSize) (CFdbMsgPrefix.deserialize bytes).mHeadLength.toNat with
    | some (.parsed head) => some head
    | _ => none

theorem Handed.Ok.head_qos {h : Handed} (hok : h.Ok) : h.head.map (·.mQOS) = some h.qos := by
  obtain ⟨bytes, head, hm⟩ := hok
  unfold Handed.head
  rw [hm.frame, bind_some, hm.decodes]
  exact congrArg some hm.sessionQos

/-- Sent to a local and to a remote subscriber with the same object id. -/
def twoQos : List Operation :=
  [.serialize Payload.empty, .updateObjectId 0#32, .sendMessage .qosLocal 0,
    .updateObjectId 0#32, .sendMessage .qosReliable 0]

/-- The frame for the remote session says that it is local. -/
theorem stale_header_sent :
    ∃ s, run Life.step (Life.start plainEvent) twoQos = some s
      ∧ ∃ h ∈ s.handed, h.qos = .qosReliable ∧ ¬ h.Ok := by
  refine ⟨_, rfl, _, mem_append_right _ mem_cons_self, rfl, fun hok => ?_⟩
  exact absurd hok.head_qos (by decide +kernel)

end Fdbus.Message

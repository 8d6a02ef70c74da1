/-
  Fdbus.Wire.MessageHeader — `CFdbMsgPrefix` and `CFdbMessageHeader`.

  A frame on the wire is an 8-byte prefix (total length, head length), the head, and the
  payload.  The head is decoded by `CFdbMessageHeader::deserialize` under the size the
  prefix announces for it; a size of 0 switches the size checks off.

  Which bytes the decoder touches is a property of the bytes themselves: `fieldEnds`
  lists the positions at which the fields of the head end.  On it rest

    * `parse_eq`        — the decoder in closed form: when it leaves the memory, when it
      reports an error, and the head it returns otherwise,
    * `parse_serialize` — the round trip.
-/
import Fdbus.Wire.SimpleSerializer

namespace Fdbus.Wire

open Fdbus.LittleEndian List

/-! ## §1. The prefix. -/

/-- `CFdbMsgPrefix`. -/
structure CFdbMsgPrefix where
  mTotalLength : BitVec 32
  mHeadLength : BitVec 32
  deriving DecidableEq

/-- `CFdbMessage::mPrefixSize`. -/
def mPrefixSize : Nat := 8

/-- `CFdbMsgPrefix::deserialize(buffer)`. -/
def CFdbMsgPrefix.deserialize (buffer : List UInt8) : CFdbMsgPrefix where
  mTotalLength := BitVec.ofNat 32 (leNat (buffer.take 4))
  mHeadLength := BitVec.ofNat 32 (leNat ((buffer.drop 4).take 4))

/-- `CFdbMsgPrefix::serialize(buffer)`. -/
def CFdbMsgPrefix.serialize (p : CFdbMsgPrefix) : List UInt8 :=
  leBytes 4 p.mTotalLength.toNat ++ leBytes 4 p.mHeadLength.toNat

@[simp] theorem CFdbMsgPrefix.length_serialize (p : CFdbMsgPrefix) :
    p.serialize.length = mPrefixSize := by
  simp [CFdbMsgPrefix.serialize, mPrefixSize]

/-- **The prefix survives the wire**, whatever follows it. -/
theorem CFdbMsgPrefix.deserialize_serialize (p : CFdbMsgPrefix) (rest : List UInt8) :
    CFdbMsgPrefix.deserialize (p.serialize ++ rest) = p := by
  obtain ⟨total, head⟩ := p
  have htotal : total.toNat < 256 ^ 4 := total.isLt
  have hhead : head.toNat < 256 ^ 4 := head.isLt
  unfold CFdbMsgPrefix.deserialize CFdbMsgPrefix.serialize
  rw [append_assoc, take_left' (length_leBytes 4 _),
    drop_left' (length_leBytes 4 _), take_left' (length_leBytes 4 _),
    leNat_leBytes_of_lt htotal, leNat_leBytes_of_lt hhead]
  simp

/-! ## §2. The head. -/

/-- `CFdbMessageHeader`.  The two times have no value until the options announce them. -/
structure CFdbMessageHeader where
  mType : EFdbMessageType
  mSn : BitVec 32
  mCode : FdbMsgCode
  mFlag : BitVec 32
  mObjId : FdbObjectId
  mPayloadSize : BitVec 32
  mQOS : EFdbQOS
  mOptions : BitVec 8
  mTopic : List UInt8
  mSendArriveTime : BitVec 64
  mReplyTime : BitVec 64
  deriving DecidableEq

/-- `has_broadcast_topic`: the bit `mMaskHeadFilter`. -/
def hasBroadcastTopic (options : BitVec 8) : Bool := options.getLsbD 1

/-- `has_send_or_arrive_time`: the bit `mMaskSenderArriveTime`. -/
def hasSendOrArriveTime (options : BitVec 8) : Bool := options.getLsbD 2

/-- `has_reply_time`: the bit `mMaskReplyTime`. -/
def hasReplyTime (options : BitVec 8) : Bool := options.getLsbD 3

/-- The fixed part of `CFdbMessageHeader::serialize`. -/
def CFdbMessageHeader.serializeFixed (h : CFdbMessageHeader) : List UInt8 :=
  [] |> addScalar 1 h.mType.toByte
     |> addScalar 4 h.mSn.toNat
     |> addScalar 4 h.mCode.toNat
     |> addScalar 4 h.mFlag.toNat
     |> addScalar 4 h.mObjId.toNat
     |> addScalar 4 h.mPayloadSize.toNat
     |> addScalar 1 h.mQOS.toByte
     |> addScalar 1 h.mOptions.toNat

/-- `CFdbMessageHeader::serialize`. -/
def CFdbMessageHeader.serialize (h : CFdbMessageHeader) : List UInt8 :=
  h.serializeFixed
    |> (if hasBroadcastTopic h.mOptions then addString h.mTopic else id)
    |> (if hasSendOrArriveTime h.mOptions then addScalar 8 h.mSendArriveTime.toNat else id)
    |> (if hasReplyTime h.mOptions then addScalar 8 h.mReplyTime.toNat else id)

/-- A field that is read only when its option is set. -/
def readIf {α : Type} (option : Bool) (m : Deserialize α) (data : α) : Deserialize α :=
  if option then m else pure data

/-- The part of `CFdbMessageHeader::deserialize` behind the options byte. -/
def deserializeOptional (options : BitVec 8) :
    Deserialize (List UInt8 × Nat × Nat) := do
  let topic ← readIf (hasBroadcastTopic options) (deserializeString []) []
  let sendArriveTime ← readIf (hasSendOrArriveTime options) (deserializeScalar 8 0) 0
  let replyTime ← readIf (hasReplyTime options) (deserializeScalar 8 0) 0
  pure (topic, sendArriveTime, replyTime)

/-- `CFdbMessageHeader::deserialize`; `mOptions` starts as 0. -/
def CFdbMessageHeader.deserialize : Deserialize CFdbMessageHeader := do
  let msgType ← deserializeScalar 1 0
  let sn ← deserializeScalar 4 0
  let code ← deserializeScalar 4 0
  let flag ← deserializeScalar 4 0
  let objId ← deserializeScalar 4 0
  let payloadSize ← deserializeScalar 4 0
  let qos ← deserializeScalar 1 0
  let options ← deserializeScalar 1 0
  let (topic, sendArriveTime, replyTime) ← deserializeOptional (BitVec.ofNat 8 options)
  pure {
    mType := EFdbMessageType.ofByte msgType
    mSn := BitVec.ofNat 32 sn
    mCode := BitVec.ofNat 32 code
    mFlag := BitVec.ofNat 32 flag
    mObjId := BitVec.ofNat 32 objId
    mPayloadSize := BitVec.ofNat 32 payloadSize
    mQOS := EFdbQOS.ofByte qos
    mOptions := BitVec.ofNat 8 options
    mTopic := topic
    mSendArriveTime := BitVec.ofNat 64 sendArriveTime
    mReplyTime := BitVec.ofNat 64 replyTime }

/-- `parser.parse(data, size)`; `none` when a byte outside `data` was read. -/
def parse (data : List UInt8) (size : Int) : Option (ParseResult CFdbMessageHeader) :=
  outcome CFdbMessageHeader.deserialize ⟨data, size, 0, false⟩

/-! ## §3. The layout of a head, read off its bytes. -/

/-- The scalar of `width` bytes at `pos`. -/
def field (data : List UInt8) (pos width : Nat) : Nat := leNat ((data.drop pos).take width)

variable {α : Type} (data : List UInt8) (sz : Int)

theorem field_lt (pos width : Nat) : field data pos width < 256 ^ width := by
  refine (leNat_lt _).trans_le (Nat.pow_le_pow_right (by omega) ?_)
  rw [length_take]
  exact Nat.min_le_left _ _

/-- The options byte. -/
def optionsAt (data : List UInt8) : BitVec 8 := BitVec.ofNat 8 (field data 22 1)

/-- The ends of the fields every head has. -/
def fixedEnds : List Nat := [1, 5, 9, 13, 17, 21, 22, 23]

/-- The ends of the topic's length word and of its characters. -/
def topicEnds (data : List UInt8) : List Nat :=
  if hasBroadcastTopic (optionsAt data) then
    if field data 23 2 = 0 then [25] else [25, 25 + field data 23 2]
  else []

/-- Where the topic ends. -/
def topicEnd (data : List UInt8) : Nat :=
  if hasBroadcastTopic (optionsAt data) then 25 + field data 23 2 else 23

/-- A topic that has characters ends with a NUL. -/
def topicTerminated (data : List UInt8) : Prop :=
  hasBroadcastTopic (optionsAt data) = true → field data 23 2 ≠ 0 →
    data[topicEnd data - 1]? = some 0

instance (data : List UInt8) : Decidable (topicTerminated data) :=
  inferInstanceAs (Decidable (_ → _))

/-- Where the send or arrive time ends. -/
def sendArriveEnd (data : List UInt8) : Nat :=
  topicEnd data + if hasSendOrArriveTime (optionsAt data) then 8 else 0

/-- The ends of the two times. -/
def timeEnds (data : List UInt8) : List Nat :=
  (if hasSendOrArriveTime (optionsAt data) then [topicEnd data + 8] else [])
    ++ (if hasReplyTime (optionsAt data) then [sendArriveEnd data + 8] else [])

/-- The ends of all fields, in the order they are read; nothing is read behind a topic
without terminator. -/
def fieldEnds (data : List UInt8) : List Nat :=
  fixedEnds ++ (topicEnds data ++ if topicTerminated data then timeEnds data else [])

/-- The topic of a head, empty without the option or with a length word of 0. -/
def topicAt (data : List UInt8) : List UInt8 :=
  if hasBroadcastTopic (optionsAt data) ∧ field data 23 2 ≠ 0 then
    (data.drop 25).takeWhile (· != 0)
  else []

/-- The head whose bytes `data` starts with. -/
def headAt (data : List UInt8) : CFdbMessageHeader where
  mType := EFdbMessageType.ofByte (field data 0 1)
  mSn := BitVec.ofNat 32 (field data 1 4)
  mCode := BitVec.ofNat 32 (field data 5 4)
  mFlag := BitVec.ofNat 32 (field data 9 4)
  mObjId := BitVec.ofNat 32 (field data 13 4)
  mPayloadSize := BitVec.ofNat 32 (field data 17 4)
  mQOS := EFdbQOS.ofByte (field data 21 1)
  mOptions := optionsAt data
  mTopic := topicAt data
  mSendArriveTime := BitVec.ofNat 64
    (if hasSendOrArriveTime (optionsAt data) then field data (topicEnd data) 8 else 0)
  mReplyTime := BitVec.ofNat 64
    (if hasReplyTime (optionsAt data) then field data (sendArriveEnd data) 8 else 0)

/-- Where the last field ends. -/
def headEnd (data : List UInt8) : Nat :=
  sendArriveEnd data + if hasReplyTime (optionsAt data) then 8 else 0

theorem le_topicEnd : 23 ≤ topicEnd data := by
  unfold topicEnd
  split <;> omega

theorem mem_topicEnds {data : List UInt8} {e : Nat} (he : e ∈ topicEnds data) :
    23 ≤ e ∧ e ≤ topicEnd data := by
  unfold topicEnds at he
  unfold topicEnd
  by_cases htopic : hasBroadcastTopic (optionsAt data) = true
  · rw [if_pos htopic] at he ⊢
    split at he
    · simp only [mem_singleton] at he
      omega
    · simp only [mem_cons, not_mem_nil, or_false] at he
      omega
  · simp [htopic] at he

theorem mem_timeEnds {data : List UInt8} {e : Nat} (he : e ∈ timeEnds data) :
    topicEnd data ≤ e ∧ e ≤ headEnd data := by
  unfold timeEnds sendArriveEnd at he
  unfold headEnd sendArriveEnd
  split at he <;> split at he <;> simp_all
  omega

theorem fieldEnds_sorted : (fieldEnds data).Pairwise (· ≤ ·) := by
  have hle : ∀ e ∈ fixedEnds, e ≤ 23 := by decide
  have htop := le_topicEnd data
  refine pairwise_append.mpr ⟨by decide, pairwise_append.mpr ⟨?_, ?_, ?_⟩, ?_⟩
  · unfold topicEnds
    split
    · split <;> simp
    · simp
  · split
    · unfold timeEnds sendArriveEnd
      split <;> split <;> simp
    · exact Pairwise.nil
  · intro a ha b hb
    split at hb
    · exact (mem_topicEnds ha).2.trans (mem_timeEnds hb).1
    · simp at hb
  · intro a ha b hb
    have hb' : 23 ≤ b := by
      rcases mem_append.mp hb with hb | hb
      · exact (mem_topicEnds hb).1
      · split at hb
        · exact htop.trans (mem_timeEnds hb).1
        · simp at hb
    exact (hle a ha).trans hb'

theorem fieldEnds_le_headEnd : ∀ e ∈ fieldEnds data, e ≤ headEnd data := by
  have htop := le_topicEnd data
  have hend : topicEnd data ≤ headEnd data := by
    unfold headEnd sendArriveEnd
    omega
  intro e he
  rcases mem_append.mp he with he | he
  · have hle : ∀ e ∈ fixedEnds, e ≤ 23 := by decide
    exact (hle e he).trans (htop.trans hend)
  rcases mem_append.mp he with he | he
  · exact (mem_topicEnds he).2.trans hend
  · split at he
    · exact (mem_timeEnds he).2
    · simp at he

/-! ## §4. What the decoder does, as a function of the layout. -/

theorem quiet_readIf {option : Bool} {m : Deserialize α} {data : α} (hm : Quiet m) :
    Quiet (readIf option m data) := by
  cases option with
  | false => exact quiet_pure data
  | true => exact hm

/-- An optional scalar in front of a decoder. -/
theorem outcome_optScalar_bind {c : Bool} {k : Nat → Deserialize α}
    (hk : Quiet (k 0)) (buf : List UInt8) (sz : Int) (pos size : Nat) :
    outcome (readIf c (deserializeScalar size 0) 0 >>= k) ⟨buf, sz, pos, false⟩
      = checkEnds sz buf.length (if c = true then [pos + size] else [])
          (outcome (k (if c = true then field buf pos size else 0))
            ⟨buf, sz, pos + (if c = true then size else 0), false⟩) := by
  cases c with
  | false => simp [readIf, checkEnds]
  | true =>
    exact outcome_scalar_bind hk buf sz pos size

/-- The optional topic in front of a decoder. -/
theorem outcome_topic_bind {k : List UInt8 → Deserialize α} (hk : ∀ t, Quiet (k t))
    (data : List UInt8) (sz : Int) :
    outcome (readIf (hasBroadcastTopic (optionsAt data)) (deserializeString []) [] >>= k)
        ⟨data, sz, 23, false⟩
      = checkEnds sz data.length (topicEnds data)
          (if topicTerminated data then
            outcome (k (topicAt data)) ⟨data, sz, topicEnd data, false⟩
          else some .failed) := by
  by_cases htopic : hasBroadcastTopic (optionsAt data) = true
  · have hquiet : Quiet (deserializeChars [] 0 >>= k) := quiet_bind (quiet_chars [] 0) hk
    unfold readIf deserializeString
    rw [if_pos htopic]
    rw [bind_assoc, outcome_scalar_bind hquiet]
    change checkEnds sz data.length [25]
      (outcome (deserializeChars [] (field data 23 2) >>= k) ⟨data, sz, 25, false⟩) = _
    by_cases hlen : field data 23 2 = 0
    · -- no characters: the read ends behind the length word
      simp [topicEnds, topicEnd, topicTerminated, topicAt, htopic, hlen, checkEnds]
      rfl
    · rw [outcome_chars_bind (hk []) data sz 25 hlen]
      simp only [topicEnds, topicEnd, topicTerminated, topicAt, htopic, hlen, if_true, if_false,
        ne_eq, not_false_eq_true, forall_const, and_self, checkEnds]
  · simp [readIf, topicEnds, topicEnd, topicTerminated, topicAt, htopic, checkEnds]

theorem quiet_optional (options : BitVec 8) : Quiet (deserializeOptional options) := by
  refine quiet_bind (quiet_readIf (quiet_string [])) fun _ => ?_
  refine quiet_bind (quiet_readIf (quiet_scalar 8 0)) fun _ => ?_
  exact quiet_bind (quiet_readIf (quiet_scalar 8 0)) fun _ => quiet_pure _

/-- The optional part of a head in front of a decoder that reads nothing more. -/
theorem outcome_optional_bind (k : List UInt8 × Nat × Nat → α) (data : List UInt8) (sz : Int) :
    outcome (deserializeOptional (optionsAt data) >>= fun o => pure (k o))
        ⟨data, sz, 23, false⟩
      = checkEnds sz data.length
          (topicEnds data ++ if topicTerminated data then timeEnds data else [])
          (if topicTerminated data then
            some (.parsed (k (topicAt data,
              (if hasSendOrArriveTime (optionsAt data) then field data (topicEnd data) 8 else 0),
              (if hasReplyTime (optionsAt data) then field data (sendArriveEnd data) 8 else 0))))
          else some .failed) := by
  unfold deserializeOptional
  simp only [bind_assoc, pure_bind]
  rw [outcome_topic_bind, checkEnds_append]
  · by_cases hterm : topicTerminated data
    · simp only [hterm, if_true]
      rw [outcome_optScalar_bind, outcome_optScalar_bind, timeEnds, checkEnds_append]
      · rfl
      · exact quiet_pure _
      · exact quiet_bind (quiet_readIf (quiet_scalar 8 0)) fun _ => quiet_pure _
    · simp only [hterm, if_false, checkEnds]
  · intro t
    refine quiet_bind (quiet_readIf (quiet_scalar 8 0)) fun _ => ?_
    exact quiet_bind (quiet_readIf (quiet_scalar 8 0)) fun _ => quiet_pure _

/-- The decoder as a sequence of checks on the ends of the fields. -/
theorem parse_eq_checkEnds :
    parse data sz = checkEnds sz data.length (fieldEnds data)
      (if topicTerminated data then some (.parsed (headAt data)) else some .failed) := by
  unfold parse CFdbMessageHeader.deserialize fieldEnds
  iterate 8 rw [outcome_scalar_bind]
  · have hopt := outcome_optional_bind (fun o => ({ headAt data with
      mTopic := o.1
      mSendArriveTime := BitVec.ofNat 64 o.2.1
      mReplyTime := BitVec.ofNat 64 o.2.2 } : CFdbMessageHeader)) data sz
    exact congrArg (checkEnds sz data.length fixedEnds) hopt
  all_goals
    repeat refine quiet_bind (quiet_scalar _ _) fun _ => ?_
    exact quiet_bind (quiet_optional _) fun _ => quiet_pure _

/-- **The decoder in closed form**: it leaves the memory when a field that fits the
announced size ends behind it, fails when a field does not fit or the topic is not
terminated, and otherwise returns the head the bytes spell. -/
theorem parse_eq :
    parse data sz
      = if ∃ e ∈ fieldEnds data, fits sz e ∧ data.length < e then none
        else if (∀ e ∈ fieldEnds data, fits sz e) ∧ topicTerminated data then
          some (.parsed (headAt data))
        else some .failed := by
  rw [parse_eq_checkEnds, checkEnds_eq sz data.length (fieldEnds_sorted data)]
  by_cases hterm : topicTerminated data
  · simp only [hterm, if_true, and_true]
  · simp only [hterm, if_false, and_false, ite_self]

/-! ## §5. The round trip. -/

variable {h : CFdbMessageHeader} {rest : List UInt8}

/-- A scalar written at `pos`: its value, and what follows it. -/
theorem field_of_drop {data : List UInt8} {pos width n : Nat}
    (h : data.drop pos = leBytes width n ++ rest) (hn : n < 256 ^ width) :
    field data pos width = n ∧ data.drop (pos + width) = rest := by
  constructor
  · unfold field
    rw [h, take_left' (length_leBytes width n), leNat_leBytes_of_lt hn]
  · rw [← drop_drop, h, drop_left' (length_leBytes width n)]

/-- A head as the setters build it: an option that is not set leaves its field alone,
and the topic is a C string whose length word does not wrap. -/
structure CFdbMessageHeader.WellFormed (h : CFdbMessageHeader) : Prop where
  topic_lt : h.mTopic.length + 1 < 2 ^ 16
  topic_no_nul : (0 : UInt8) ∉ h.mTopic
  topic_unset : hasBroadcastTopic h.mOptions = false → h.mTopic = []
  send_unset : hasSendOrArriveTime h.mOptions = false → h.mSendArriveTime = 0
  reply_unset : hasReplyTime h.mOptions = false → h.mReplyTime = 0

/-- The optional fields of a head as bytes. -/
def CFdbMessageHeader.optionalBytes (h : CFdbMessageHeader) : List UInt8 :=
  (if hasBroadcastTopic h.mOptions then
      leBytes 2 (h.mTopic.length + 1) ++ (h.mTopic ++ [0]) else [])
    ++ ((if hasSendOrArriveTime h.mOptions then leBytes 8 h.mSendArriveTime.toNat else [])
    ++ (if hasReplyTime h.mOptions then leBytes 8 h.mReplyTime.toNat else []))

theorem CFdbMessageHeader.WellFormed.serialize_eq (hw : h.WellFormed) :
    h.serialize = leBytes 1 h.mType.toByte ++ (leBytes 4 h.mSn.toNat ++ (leBytes 4 h.mCode.toNat
      ++ (leBytes 4 h.mFlag.toNat ++ (leBytes 4 h.mObjId.toNat
      ++ (leBytes 4 h.mPayloadSize.toNat ++ (leBytes 1 h.mQOS.toByte
      ++ (leBytes 1 h.mOptions.toNat ++ h.optionalBytes))))))) := by
  unfold CFdbMessageHeader.serialize CFdbMessageHeader.serializeFixed
    CFdbMessageHeader.optionalBytes
  cases hasBroadcastTopic h.mOptions <;> cases hasSendOrArriveTime h.mOptions <;>
    cases hasReplyTime h.mOptions <;>
    simp [addScalar, addString_of_lt hw.topic_lt]

/-- An optional scalar written at `pos`. -/
theorem optField_of_drop {data : List UInt8} {pos width n : Nat} {c : Bool}
    (h : data.drop pos = (if c then leBytes width n else []) ++ rest) (hn : n < 256 ^ width) :
    (if c then field data pos width else 0) = (if c then n else 0)
      ∧ data.drop (pos + if c then width else 0) = rest := by
  cases c with
  | false => exact ⟨rfl, h⟩
  | true => exact field_of_drop h hn

/-- The topic written at its place. -/
theorem topic_of_drop (hw : h.WellFormed) {data : List UInt8} (hopt : optionsAt data = h.mOptions)
    (hdrop : data.drop 23 = (if hasBroadcastTopic h.mOptions then
      leBytes 2 (h.mTopic.length + 1) ++ (h.mTopic ++ [0]) else []) ++ rest) :
    topicAt data = h.mTopic ∧ topicTerminated data ∧ data.drop (topicEnd data) = rest
      ∧ topicEnd data = 23 + if hasBroadcastTopic h.mOptions then h.mTopic.length + 3 else 0 := by
  unfold topicAt topicTerminated topicEnd
  rw [hopt]
  cases htopic : hasBroadcastTopic h.mOptions with
  | false =>
    simp only [htopic, Bool.false_eq_true, if_false, nil_append] at hdrop
    simp [hw.topic_unset htopic, hdrop]
  | true =>
    simp only [htopic, if_true, append_assoc] at hdrop
    have hlt : h.mTopic.length + 1 < 256 ^ 2 := hw.topic_lt
    obtain ⟨hlen, hchars⟩ := field_of_drop hdrop hlt
    have hlast : data[25 + h.mTopic.length]? = some 0 := by
      rw [← getElem?_drop, hchars]
      simp
    have hrest : data.drop (25 + (h.mTopic.length + 1)) = rest := by
      rw [← drop_drop, hchars, ← append_assoc]
      exact drop_left' (by simp)
    rw [hlen]
    refine ⟨?_, fun _ _ => hlast, hrest, ?_⟩
    · rw [if_pos ⟨rfl, Nat.succ_ne_zero _⟩, hchars]
      exact takeWhile_of_no_nul hw.topic_no_nul
    · simp only [if_true]
      omega

/-- The head at the front of its own bytes. -/
theorem headAt_serialize (hw : h.WellFormed) (rest : List UInt8) :
    headAt (h.serialize ++ rest) = h ∧ topicTerminated (h.serialize ++ rest)
      ∧ headEnd (h.serialize ++ rest) = h.serialize.length := by
  have hlen : h.serialize.length = 23 + h.optionalBytes.length := by
    rw [hw.serialize_eq]
    simp only [length_append, length_leBytes]
    omega
  rw [hlen]
  have h₀ : (h.serialize ++ rest).drop 0 = leBytes 1 h.mType.toByte ++ (leBytes 4 h.mSn.toNat
      ++ (leBytes 4 h.mCode.toNat ++ (leBytes 4 h.mFlag.toNat ++ (leBytes 4 h.mObjId.toNat
      ++ (leBytes 4 h.mPayloadSize.toNat ++ (leBytes 1 h.mQOS.toByte
      ++ (leBytes 1 h.mOptions.toNat ++ (h.optionalBytes ++ rest)))))))) := by
    rw [drop_zero, hw.serialize_eq]
    simp only [append_assoc]
  generalize h.serialize ++ rest = data at h₀ ⊢
  obtain ⟨ftype, h₁⟩ := field_of_drop h₀ h.mType.toByte_lt
  obtain ⟨fsn, h₂⟩ := field_of_drop h₁ h.mSn.isLt
  obtain ⟨fcode, h₃⟩ := field_of_drop h₂ h.mCode.isLt
  obtain ⟨fflag, h₄⟩ := field_of_drop h₃ h.mFlag.isLt
  obtain ⟨fobj, h₅⟩ := field_of_drop h₄ h.mObjId.isLt
  obtain ⟨fpay, h₆⟩ := field_of_drop h₅ h.mPayloadSize.isLt
  obtain ⟨fqos, h₇⟩ := field_of_drop h₆ h.mQOS.toByte_lt
  obtain ⟨fopt, h₈⟩ := field_of_drop h₇ h.mOptions.isLt
  have hopt : optionsAt data = h.mOptions := by
    unfold optionsAt
    rw [show field data 22 1 = h.mOptions.toNat from fopt]
    simp
  unfold CFdbMessageHeader.optionalBytes at h₈
  rw [append_assoc, append_assoc] at h₈
  obtain ⟨ftopic, hterm, h₉, hend⟩ := topic_of_drop hw hopt h₈
  obtain ⟨fsend, h₁₀⟩ := optField_of_drop h₉ h.mSendArriveTime.isLt
  obtain ⟨freply, -⟩ := optField_of_drop h₁₀ h.mReplyTime.isLt
  have hsend : BitVec.ofNat 64 (if hasSendOrArriveTime h.mOptions then
      h.mSendArriveTime.toNat else 0) = h.mSendArriveTime := by
    cases hc : hasSendOrArriveTime h.mOptions with
    | false => simp [hw.send_unset hc]
    | true => simp
  have hreply : BitVec.ofNat 64 (if hasReplyTime h.mOptions then h.mReplyTime.toNat else 0)
      = h.mReplyTime := by
    cases hc : hasReplyTime h.mOptions with
    | false => simp [hw.reply_unset hc]
    | true => simp
  refine ⟨?_, hterm, ?_⟩
  · unfold headAt sendArriveEnd
    rw [ftype, show field data 1 4 = _ from fsn, show field data 5 4 = _ from fcode,
      show field data 9 4 = _ from fflag, show field data 13 4 = _ from fobj,
      show field data 17 4 = _ from fpay, show field data 21 1 = _ from fqos, ftopic, hopt,
      fsend, freply, hsend, hreply, EFdbMessageType.ofByte_toByte, EFdbQOS.ofByte_toByte]
    simp
  · unfold headEnd sendArriveEnd CFdbMessageHeader.optionalBytes
    rw [hend, hopt]
    cases hasBroadcastTopic h.mOptions <;> cases hasSendOrArriveTime h.mOptions <;>
      cases hasReplyTime h.mOptions <;> simp <;> omega

/-- **The round trip**: the bytes of a head, followed by anything, decode to the head
under the size the prefix announces for them. -/
theorem parse_serialize (hw : h.WellFormed) (rest : List UInt8) :
    parse (h.serialize ++ rest) h.serialize.length = some (.parsed h) := by
  obtain ⟨hhead, hterm, hend⟩ := headAt_serialize hw rest
  have hle : ∀ e ∈ fieldEnds (h.serialize ++ rest), e ≤ h.serialize.length := by
    rw [← hend]
    exact fieldEnds_le_headEnd _
  have hin : ¬ ∃ e ∈ fieldEnds (h.serialize ++ rest),
      fits h.serialize.length e ∧ (h.serialize ++ rest).length < e := by
    rintro ⟨e, he, -, hlt⟩
    have := hle e he
    rw [length_append] at hlt
    omega
  have hfit : ∀ e ∈ fieldEnds (h.serialize ++ rest), fits h.serialize.length e := by
    intro e he
    right
    exact_mod_cast hle e he
  rw [parse_eq, if_neg hin, if_pos ⟨hfit, hterm⟩, hhead]

end Fdbus.Wire

/-
  Fdbus.Session.DatagramBytes — what a datagram is judged by.

  `CFdbUDPSession::onInput` receives a datagram into a buffer of 65535 bytes and decodes the buffer.
  None of the lengths in the datagram is compared with the number of bytes that came in, so what the
  buffer holds behind the datagram can become part of the message.

    * `not_accepted_twos` — a head that runs on behind the datagram is refused if the bytes there
      are 2, whatever the bytes of the datagram are,
    * `message_eq_iff` — two heads that differ in their times give the same message exactly if they
      agree in the times that are taken over,
    * `judged_by_itself_iff` — a datagram is judged by its own bytes exactly if, whatever lies
      behind it, no field of its head runs out of the buffer, a head that is accepted ends its topic
      inside the datagram, and what is delivered has its times and its payload there.
-/
import Fdbus.Session.Transfer

namespace Fdbus.Session

open Fdbus.LittleEndian List Option
open Fdbus.Message
open Fdbus.Wire

/-! ## §1. A datagram in its buffer. -/

/-- `FDB_MAX_UDP_SIZE`. -/
def fdbMaxUdpSize : Nat := 65535

/-- `onInput()` behind `recv`, with the bytes of the datagram and the rest of the buffer; `none` if
a byte behind the buffer is read. -/
def Receiver.onInput (env : Receiver) (fatalError : Bool) (now : BitVec 64)
    (received rest : List UInt8) : Option Received :=
  if fatalError then some .unread
  else if received.length < mPrefixSize then some .rejected
  else env.receive now (received ++ rest)

/-- What becomes of the datagram is the same for every rest of the buffer. -/
def JudgedByItself (env : Receiver) (fatalError : Bool) (now : BitVec 64)
    (received : List UInt8) : Prop :=
  ∃ r, ∀ rest, received.length + rest.length = fdbMaxUdpSize →
    env.onInput fatalError now received rest = some r

/-- The bytes behind the prefix. -/
def headData (received rest : List UInt8) : List UInt8 := received.drop mPrefixSize ++ rest

/-- How many of them came with the datagram. -/
def ownSize (received : List UInt8) : Nat := received.length - mPrefixSize

/-- `mMsgPrefix.mHeadLength`. -/
def headLength (received : List UInt8) : Nat :=
  (CFdbMsgPrefix.deserialize received).mHeadLength.toNat

/-! ## §2. What it should be judged by. -/

/-- No field of the head that fits its size ends behind the buffer. -/
def InBuffer (size : Int) (data : List UInt8) : Prop :=
  ∀ e ∈ fieldEnds data, fits size e → e ≤ data.length

/-- The head can be decoded and has a known type. -/
def Accepted (size : Int) (data : List UInt8) : Prop :=
  ((∀ e ∈ fieldEnds data, fits size e) ∧ topicTerminated data) ∧ (headAt data).mType ≠ .mtUnknown

/-- The time at which the message was sent or arrived is taken over from the head. -/
def Receiver.usesSendTime (env : Receiver) (head : CFdbMessageHeader) : Bool :=
  (env.made head).mTimeStamp.isSome && hasSendOrArriveTime head.mOptions
    && match (env.made head).debugType head with
      | .mtReply | .mtStatus | .mtReturnEvent | .mtRequest | .mtSubscribeReq | .mtBroadcast
      | .mtGetEvent | .mtPublish | .mtSetEvent => true
      | _ => false

/-- The time of the reply is taken over from the head. -/
def Receiver.usesReplyTime (env : Receiver) (head : CFdbMessageHeader) : Bool :=
  (env.made head).mTimeStamp.isSome && hasReplyTime head.mOptions
    && match (env.made head).debugType head with
      | .mtReply | .mtStatus | .mtReturnEvent => true
      | _ => false

/-- The times and the payload of the message lie in the first `n` bytes. -/
structure Receiver.OwnMessage (env : Receiver) (n headLength : Nat) (data : List UInt8) : Prop where
  sendTime : env.usesSendTime (headAt data) = true → topicEnd data + 8 ≤ n
  replyTime : env.usesReplyTime (headAt data) = true → sendArriveEnd data + 8 ≤ n
  payload : field data 17 4 = 0 ∨ headLength + field data 17 4 ≤ n

/-- What is read of the buffer: the head stays in it, and in a head that is accepted everything that
counts lies in the first `n` bytes. -/
structure Receiver.Within (env : Receiver) (n headLength : Nat) (data : List UInt8) : Prop where
  inBuffer : InBuffer (int32 headLength) data
  topic : Accepted (int32 headLength) data → topicEnd data ≤ n
  message : Accepted (int32 headLength) data → env.reaches (headAt data) = true →
    env.OwnMessage n headLength data

/-! ## §3. Buffers that agree. -/

section Agree

variable {n : Nat} {data data' : List UInt8}

section

variable (h : data.take n = data'.take n)

include h

theorem slice_congr {pos width : Nat} (hle : pos + width ≤ n) :
    (data.drop pos).take width = (data'.drop pos).take width := by
  have hinner : ∀ l : List UInt8, (l.drop pos).take width = ((l.take n).drop pos).take width := by
    intro l
    rw [drop_take, take_take, Nat.min_eq_left (by omega)]
  rw [hinner data, hinner data', h]

theorem field_congr {pos width : Nat} (hle : pos + width ≤ n) :
    field data pos width = field data' pos width := by
  unfold field
  rw [slice_congr h hle]

theorem getElem?_congr {i : Nat} (hi : i < n) : data[i]? = data'[i]? := by
  rw [← getElem?_take_of_lt hi, h, getElem?_take_of_lt hi]

theorem optionsAt_congr (hn : 23 ≤ n) : optionsAt data = optionsAt data' := by
  unfold optionsAt
  rw [field_congr h (show 22 + 1 ≤ n from hn)]

/-- The length of a topic that ends in the part that agrees. -/
theorem topicLength_congr (hend : topicEnd data ≤ n)
    (htopic : hasBroadcastTopic (optionsAt data) = true) : field data 23 2 = field data' 23 2 := by
  unfold topicEnd at hend
  rw [if_pos htopic] at hend
  exact field_congr h (by omega)

theorem topicEnd_congr (hend : topicEnd data ≤ n) : topicEnd data' = topicEnd data := by
  have hopt := optionsAt_congr h ((le_topicEnd data).trans hend)
  have hlen := topicLength_congr h hend
  unfold topicEnd
  rw [← hopt]
  split
  · next htopic => rw [hlen htopic]
  · rfl

theorem sendArriveEnd_congr (hend : topicEnd data ≤ n) :
    sendArriveEnd data' = sendArriveEnd data := by
  unfold sendArriveEnd
  rw [topicEnd_congr h hend, optionsAt_congr h ((le_topicEnd data).trans hend)]

theorem topicTerminated_congr (hend : topicEnd data ≤ n) :
    topicTerminated data' ↔ topicTerminated data := by
  have hopt := optionsAt_congr h ((le_topicEnd data).trans hend)
  have hpos := le_topicEnd data
  have hlast : data[topicEnd data - 1]? = data'[topicEnd data - 1]? :=
    getElem?_congr h (by omega)
  unfold topicTerminated
  rw [topicEnd_congr h hend, ← hopt, ← hlast]
  apply forall_congr'
  intro htopic
  rw [topicLength_congr h hend htopic]

theorem fieldEnds_congr (hend : topicEnd data ≤ n) : fieldEnds data' = fieldEnds data := by
  have hopt := optionsAt_congr h ((le_topicEnd data).trans hend)
  have htopics : topicEnds data' = topicEnds data := by
    unfold topicEnds
    rw [← hopt]
    split
    · next htopic => rw [topicLength_congr h hend htopic]
    · rfl
  have htimes : timeEnds data' = timeEnds data := by
    unfold timeEnds
    rw [topicEnd_congr h hend, sendArriveEnd_congr h hend, ← hopt]
  unfold fieldEnds
  rw [htopics, htimes]
  simp only [topicTerminated_congr h hend]

end

/-- A string that ends in the part that agrees. -/
theorem takeWhile_congr {l l' : List UInt8} {k i : Nat} (h : l.take k = l'.take k)
    (hi : i < k) (hzero : l[i]? = some 0) :
    l.takeWhile (· != 0) = l'.takeWhile (· != 0) := by
  have hcut : ∀ s : List UInt8, s[i]? = some 0 →
      s.takeWhile (· != 0) = (s.take k).takeWhile (· != 0) := by
    intro s hs
    have hmem : (0 : UInt8) ∈ s.take k := by
      apply mem_of_getElem? (i := i)
      rw [getElem?_take_of_lt hi, hs]
    have hstops : ((s.take k).takeWhile (· != 0)).length ≠ (s.take k).length := by
      intro hall
      have hself := (takeWhile_sublist (l := s.take k) (· != (0 : UInt8))).eq_of_length hall
      rw [← hself] at hmem
      exact absurd (mem_takeWhile_imp hmem) (by decide)
    conv_lhs => rw [← take_append_drop k s, takeWhile_append, if_neg hstops]
  rw [hcut l hzero, h, ← hcut l']
  rw [← getElem?_congr h hi, hzero]

section

variable (h : data.take n = data'.take n) (hend : topicEnd data ≤ n)

include h hend

theorem topicAt_congr (hterm : topicTerminated data) : topicAt data' = topicAt data := by
  have hopt := optionsAt_congr h ((le_topicEnd data).trans hend)
  unfold topicAt
  rw [← hopt]
  by_cases htopic : hasBroadcastTopic (optionsAt data) = true
  · have hlen := topicLength_congr h hend htopic
    rw [← hlen]
    by_cases hzero : field data 23 2 = 0
    · simp [hzero]
    · rw [if_pos ⟨htopic, hzero⟩, if_pos ⟨htopic, hzero⟩]
      -- the terminator is the last byte of the topic
      have hlast := hterm htopic hzero
      have hchars : topicEnd data = 25 + field data 23 2 := by
        unfold topicEnd
        rw [if_pos htopic]
      refine (takeWhile_congr (k := field data 23 2) (i := field data 23 2 - 1)
        ?_ (by omega) ?_).symm
      · exact slice_congr h (by omega)
      · rw [getElem?_drop, ← hlast]
        congr 1
        omega
  · simp [htopic]

/-- **The head of a buffer that agrees up to the topic** differs in its times only. -/
theorem headAt_congr (hterm : topicTerminated data) :
    headAt data' = { headAt data with
      mSendArriveTime := (headAt data').mSendArriveTime
      mReplyTime := (headAt data').mReplyTime } := by
  have hn := (le_topicEnd data).trans hend
  unfold headAt
  rw [← optionsAt_congr h hn, topicAt_congr h hend hterm,
    field_congr h (show 0 + 1 ≤ n by omega), field_congr h (show 1 + 4 ≤ n by omega),
    field_congr h (show 5 + 4 ≤ n by omega), field_congr h (show 9 + 4 ≤ n by omega),
    field_congr h (show 13 + 4 ≤ n by omega), field_congr h (show 17 + 4 ≤ n by omega),
    field_congr h (show 21 + 1 ≤ n by omega)]

/-- It is accepted as well, and stays in the buffer. -/
theorem accepted_congr {size : Int} (haccepted : Accepted size data) : Accepted size data' := by
  obtain ⟨⟨hfits, hterm⟩, htype⟩ := haccepted
  refine ⟨⟨?_, (topicTerminated_congr h hend).mpr hterm⟩, ?_⟩
  · rw [fieldEnds_congr h hend]
    exact hfits
  · rw [headAt_congr h hend hterm]
    exact htype

end

end Agree

/-! ## §4. The same message. -/

/-- What `decodeDebugInfo` takes over is the same exactly if the times that are read are. -/
theorem decode_eq_iff (stamp : CFdbMsgMetadata) (type : EFdbMessageType)
    (head : CFdbMessageHeader) (now a b : BitVec 64) :
    stamp.decode type { head with mSendArriveTime := a, mReplyTime := b } now
        = stamp.decode type head now
      ↔ (hasSendOrArriveTime head.mOptions
            && (match type with
              | .mtReply | .mtStatus | .mtReturnEvent | .mtRequest | .mtSubscribeReq | .mtBroadcast
              | .mtGetEvent | .mtPublish | .mtSetEvent => true
              | _ => false) → a = head.mSendArriveTime)
        ∧ (hasReplyTime head.mOptions
            && (match type with
              | .mtReply | .mtStatus | .mtReturnEvent => true
              | _ => false) → b = head.mReplyTime) := by
  cases type <;> cases hsend : hasSendOrArriveTime head.mOptions <;>
    cases hreply : hasReplyTime head.mOptions <;> simp [CFdbMsgMetadata.decode, hsend, hreply]

open Receiver CFdbMsgPrefix

/-- **Heads that differ in their times** give the same message exactly if the payloads are the same
and the times that are taken over are. -/
theorem message_eq_iff (env : Receiver) (now : BitVec 64) (head : CFdbMessageHeader)
    (a b : BitVec 64) (payload payload' : List UInt8) :
    env.message now { head with mSendArriveTime := a, mReplyTime := b } payload'
        = env.message now head payload
      ↔ payload' = payload ∧ (env.usesSendTime head = true → a = head.mSendArriveTime)
        ∧ (env.usesReplyTime head = true → b = head.mReplyTime) := by
  -- the times only come in with the stamp
  have hmessage : env.message now { head with mSendArriveTime := a, mReplyTime := b } payload'
        = env.message now head payload
      ↔ (env.made head).mTimeStamp.map (fun stamp => stamp.decode ((env.made head).debugType head)
            { head with mSendArriveTime := a, mReplyTime := b } now)
          = (env.made head).mTimeStamp.map
            (fun stamp => stamp.decode ((env.made head).debugType head) head now)
        ∧ payload' = payload := by
    rw [IncomingMessage.mk.injEq]
    exact ⟨fun h => h.2.2.2.2.2.2.2.2, fun h => ⟨rfl, rfl, rfl, rfl, rfl, rfl, rfl, rfl, h⟩⟩
  rw [hmessage, and_comm]
  apply and_congr_right
  intro _
  unfold usesSendTime usesReplyTime
  cases (env.made head).mTimeStamp with
  | none => simp
  | some stamp =>
    rw [map_some, map_some, some.injEq, decode_eq_iff]
    simp only [isSome_some, Bool.true_and]

/-! ## §5. What becomes of a buffer. -/

section Buffer

variable {received rest : List UInt8}

/-- Two rests of the buffer agree on the datagram. -/
theorem take_headData (received rest rest' : List UInt8) :
    (headData received rest).take (ownSize received)
      = (headData received rest').take (ownSize received) := by
  have hown : (received.drop mPrefixSize).length = ownSize received := length_drop
  unfold headData
  rw [take_append_of_le_length hown.ge, take_append_of_le_length hown.ge]

section

variable (hlong : mPrefixSize ≤ received.length)

include hlong

theorem drop_prefixSize : (received ++ rest).drop mPrefixSize = headData received rest :=
  drop_append_of_le_length hlong

/-- The prefix lies in the datagram. -/
theorem deserialize_append :
    deserialize (received ++ rest) = deserialize received := by
  have hsize : mPrefixSize = 8 := rfl
  unfold deserialize
  rw [take_append_of_le_length (by omega), drop_append_of_le_length (by omega),
    take_append_of_le_length (by rw [length_drop]; omega)]

/-- The bytes of the payload, counted from the head on. -/
theorem window_headData (start size : Nat) :
    window (received ++ rest) (mPrefixSize + start) size
      = window (headData received rest) start size := by
  have hlen : (received ++ rest).length = mPrefixSize + (headData received rest).length := by
    rw [← drop_prefixSize hlong, length_drop, length_append]
    omega
  unfold window
  rw [← drop_drop, drop_prefixSize hlong, hlen]
  simp only [Nat.add_assoc, Nat.add_le_add_iff_left]

end

theorem not_inBuffer_iff {size : Int} {data : List UInt8} :
    ¬ InBuffer size data ↔ ∃ e ∈ fieldEnds data, fits size e ∧ data.length < e := by
  unfold InBuffer
  push Not
  rfl

section Receive

variable (env : Receiver) (now : BitVec 64) (hlong : mPrefixSize ≤ received.length)
  (hvalid : prefixAccepted (CFdbMsgPrefix.deserialize received) = true)

include hlong hvalid

theorem receive_eq_afterParse :
    env.receive now (received ++ rest)
      = env.afterParse now (received ++ rest) (deserialize received)
          (parse (headData received rest) (int32 (headLength received))) := by
  unfold receive
  rw [deserialize_append hlong, if_pos hvalid, drop_prefixSize hlong]
  rfl

/-- A field behind the buffer is read. -/
theorem receive_outside
    (hout : ¬ InBuffer (int32 (headLength received)) (headData received rest)) :
    env.receive now (received ++ rest) = none := by
  rw [receive_eq_afterParse env now hlong hvalid, parse_eq, if_pos (not_inBuffer_iff.mp hout)]
  rfl

/-- The head is refused. -/
theorem receive_rejected (hin : InBuffer (int32 (headLength received)) (headData received rest))
    (hno : ¬ Accepted (int32 (headLength received)) (headData received rest)) :
    env.receive now (received ++ rest) = some .rejected := by
  rw [receive_eq_afterParse env now hlong hvalid, parse_eq,
    if_neg fun h => not_inBuffer_iff.mpr h hin]
  split
  · next hdec =>
      -- the head is decoded, so its type is not known
      have htype : (headAt (headData received rest)).mType = .mtUnknown := by
        by_contra h
        exact hno ⟨hdec, h⟩
      show env.handle now _ _ (headAt (headData received rest)) = _
      unfold handle
      rw [if_pos htype]
  · rfl

/-- The head is accepted. -/
theorem receive_accepted (hin : InBuffer (int32 (headLength received)) (headData received rest))
    (hyes : Accepted (int32 (headLength received)) (headData received rest)) :
    env.receive now (received ++ rest)
      = if env.reaches (headAt (headData received rest)) then
          (window (headData received rest) (headLength received)
            (field (headData received rest) 17 4)).map fun payload =>
              .delivered (env.message now (headAt (headData received rest)) payload)
        else some .unread := by
  rw [receive_eq_afterParse env now hlong hvalid, parse_eq,
    if_neg fun h => not_inBuffer_iff.mpr h hin, if_pos hyes.1]
  show env.handle now _ _ (headAt (headData received rest)) = _
  unfold handle
  rw [if_neg hyes.2, payloadSize_headAt]
  show (if _ then (window _ (mPrefixSize + headLength received) _).map _ else _) = _
  rw [window_headData hlong]

end Receive

end Buffer

/-! ## §6. Heads that run on behind the datagram. -/

section Behind

variable {own : List UInt8}

/-- Behind the datagram there is no NUL. -/
theorem getElem?_twos {k i : Nat} (hi : own.length ≤ i) :
    (own ++ replicate k 2)[i]? ≠ some 0 := by
  rw [getElem?_append_right hi, getElem?_replicate]
  split
  · intro h
    exact absurd (some.inj h) (by decide)
  · intro h
    cases h

theorem getElem?_twos_of_lt (k i : Nat) (hi : own.length ≤ i) (hlt : i < own.length + k) :
    (own ++ replicate k 2)[i]? = some 2 := by
  rw [getElem?_append_right hi, getElem?_replicate, if_pos (by omega)]

theorem field_one {data : List UInt8} {pos : Nat} {b : UInt8} (h : data[pos]? = some b) :
    field data pos 1 = b.toNat := by
  obtain ⟨hlt, hb⟩ := List.getElem?_eq_some_iff.mp h
  unfold field
  rw [drop_eq_getElem_cons hlt, hb]
  simp [leNat]

/-- The high byte of a length word. -/
theorem field_two_ge {data : List UInt8} (pos : Nat) {b : UInt8} (h : data[pos + 1]? = some b) :
    256 * b.toNat ≤ field data pos 2 := by
  obtain ⟨hlt, hb⟩ := List.getElem?_eq_some_iff.mp h
  unfold field
  rw [drop_eq_getElem_cons (by omega : pos < data.length), drop_eq_getElem_cons hlt, hb]
  simp [leNat]

/-- **With 2 in every byte behind the datagram**, a head whose topic runs on there is refused. -/
theorem not_accepted_twos {size : Int} {rest : List UInt8} (hlong : 25 ≤ own.length + rest.length)
    (hbehind : own.length < topicEnd (own ++ rest)) :
    ¬ Accepted size (own ++ replicate rest.length 2) := by
  intro hagain
  have hagree : ∀ n, n ≤ own.length →
      (own ++ rest).take n = (own ++ replicate rest.length 2).take n := by
    intro n hn
    rw [take_append_of_le_length hn, take_append_of_le_length hn]
  -- the topic is announced, with a length that leads behind the datagram
  have htopic : hasBroadcastTopic (optionsAt (own ++ replicate rest.length 2)) = true
      ∧ field (own ++ replicate rest.length 2) 23 2 ≠ 0
      ∧ own.length < topicEnd (own ++ replicate rest.length 2) := by
    by_cases hshort : own.length < 25
    · have hhigh := field_two_ge 23
        (getElem?_twos_of_lt rest.length 24 (by omega : own.length ≤ 24) (by omega))
      have hlen : 512 ≤ field (own ++ replicate rest.length 2) 23 2 := hhigh
      have hoption :
          hasBroadcastTopic (optionsAt (own ++ replicate rest.length 2)) = true := by
        by_cases hnone : own.length < 23
        · unfold optionsAt
          rw [field_one (getElem?_twos_of_lt rest.length 22 (by omega) (by omega))]
          rfl
        · rw [← optionsAt_congr (hagree 23 (by omega)) (Nat.le_refl 23)]
          by_contra hoff
          unfold topicEnd at hbehind
          rw [if_neg hoff] at hbehind
          omega
      refine ⟨hoption, by omega, ?_⟩
      unfold topicEnd
      rw [if_pos hoption]
      omega
    · have hopt := optionsAt_congr (hagree 25 (by omega)) (by omega)
      have hlen := field_congr (hagree 25 (by omega)) (show 23 + 2 ≤ 25 from Nat.le_refl 25)
      unfold topicEnd at hbehind ⊢
      rw [← hopt, ← hlen]
      split at hbehind
      · next hoption => exact ⟨hoption, by omega, by rw [if_pos hoption]; exact hbehind⟩
      · omega
  obtain ⟨hoption, hlen, hend⟩ := htopic
  exact getElem?_twos (by omega) (hagain.1.2 hoption hlen)

end Behind

/-! ## §7. Bytes behind the datagram that count. -/

section Changed

variable {data : List UInt8}

/-- Another byte at a place changes every slice the place lies in. -/
theorem slice_set_ne {i pos width : Nat} {b : UInt8} (hb : data[i]? ≠ some b)
    (hi : i < data.length) (hpos : pos ≤ i) (hwidth : i < pos + width) :
    ((data.set i b).drop pos).take width ≠ (data.drop pos).take width := by
  have hat : ∀ l : List UInt8, ((l.drop pos).take width)[i - pos]? = l[i]? := by
    intro l
    rw [getElem?_take_of_lt (by omega), getElem?_drop, Nat.add_sub_cancel' hpos]
  intro heq
  have hsame := hat (data.set i b)
  rw [heq, hat, getElem?_set_self hi] at hsame
  exact hb hsame

/-- A time that is read from another field is another time. -/
theorem ofNat_field_inj {data' : List UInt8} {pos pos' : Nat}
    (h : BitVec.ofNat 64 (field data' pos' 8) = BitVec.ofNat 64 (field data pos 8)) :
    field data' pos' 8 = field data pos 8 := by
  have hlt : field data pos 8 < 2 ^ 64 := field_lt data pos 8
  have hlt' : field data' pos' 8 < 2 ^ 64 := field_lt data' pos' 8
  have hnat := congrArg BitVec.toNat h
  rwa [BitVec.toNat_ofNat, BitVec.toNat_ofNat, Nat.mod_eq_of_lt hlt, Nat.mod_eq_of_lt hlt'] at hnat

/-- A slice of the buffer that no byte from `n` on changes lies before `n`. -/
theorem slice_within {pos width n : Nat} (hwidth : 0 < width)
    (hinside : pos + width ≤ data.length)
    (hsame : ∀ i, n ≤ i → ∃ b, data[i]? ≠ some b
      ∧ ((data.set i b).drop pos).take width = (data.drop pos).take width) :
    pos + width ≤ n := by
  by_contra hbehind
  obtain ⟨b, hb, heq⟩ := hsame (pos + width - 1) (by omega)
  exact slice_set_ne hb (by omega) (by omega) (by omega) heq

/-- So does a time. -/
theorem time_within {pos n : Nat} (hinside : pos + 8 ≤ data.length)
    (hsame : ∀ i, n ≤ i → ∃ b, data[i]? ≠ some b
      ∧ BitVec.ofNat 64 (field (data.set i b) pos 8) = BitVec.ofNat 64 (field data pos 8)) :
    pos + 8 ≤ n := by
  apply slice_within (by decide) hinside
  intro i hi
  obtain ⟨b, hb, htime⟩ := hsame i hi
  refine ⟨b, hb, leNat_inj ?_ (ofNat_field_inj htime)⟩
  simp only [length_take, length_drop, length_set]

/-- A byte behind the topic leaves the options and the places of the times alone. -/
theorem layout_set {n i : Nat} (b : UInt8) (hend : topicEnd data ≤ n) (hi : n ≤ i) :
    optionsAt (data.set i b) = optionsAt data ∧ topicEnd (data.set i b) = topicEnd data
      ∧ sendArriveEnd (data.set i b) = sendArriveEnd data := by
  have hagree : data.take n = (data.set i b).take n := (take_set_of_le hi).symm
  exact ⟨(optionsAt_congr hagree ((le_topicEnd _).trans hend)).symm, topicEnd_congr hagree hend,
    sendArriveEnd_congr hagree hend⟩

end Changed

/-! ## §8. The payload and the times. -/

variable {size : Int} {data : List UInt8}

/-- A payload lies in the buffer. -/
theorem window_some {payload : List UInt8} {start size : Nat} (hsize : size ≠ 0)
    (h : window data start size = some payload) :
    start + size ≤ data.length ∧ (data.drop start).take size = payload := by
  unfold window at h
  rw [if_neg hsize, ite_none_right_eq_some] at h
  exact ⟨h.1, some.inj h.2⟩

/-- A payload in the part of two buffers that agrees is the same. -/
theorem window_congr {data' : List UInt8} {n start size : Nat}
    (h : data.take n = data'.take n) (hn : n ≤ data.length) (hn' : n ≤ data'.length)
    (hpayload : size = 0 ∨ start + size ≤ n) :
    ∃ payload, window data start size = some payload
      ∧ window data' start size = some payload := by
  unfold window
  by_cases hzero : size = 0
  · exact ⟨[], by rw [if_pos hzero], by rw [if_pos hzero]⟩
  · have hinside := hpayload.resolve_left hzero
    rw [if_neg hzero, if_neg hzero, if_pos (hinside.trans hn), if_pos (hinside.trans hn'),
      slice_congr h hinside]
    exact ⟨_, rfl, rfl⟩

/-- The message is the same if the times that are taken over lie in the part that agrees. -/
theorem message_congr (env : Receiver) (now : BitVec 64) {data data' : List UInt8}
    {n headLength : Nat} (h : data.take n = data'.take n) (hend : topicEnd data ≤ n)
    (hterm : topicTerminated data) (hown : env.OwnMessage n headLength data)
    (payload : List UInt8) :
    env.message now (headAt data') payload = env.message now (headAt data) payload := by
  have hopt := optionsAt_congr h ((le_topicEnd data).trans hend)
  rw [headAt_congr h hend hterm, message_eq_iff]
  refine ⟨rfl, ?_, ?_⟩
  · intro huses
    unfold headAt
    simp only [← hopt, topicEnd_congr h hend, ← field_congr h (hown.sendTime huses)]
  · intro huses
    unfold headAt
    simp only [← hopt, sendArriveEnd_congr h hend, ← field_congr h (hown.replyTime huses)]

section

variable (hin : InBuffer size data) (hyes : Accepted size data)

include hin hyes

/-- The times of a head that is accepted end in the buffer. -/
theorem timeEnds_le : ∀ e ∈ timeEnds data, e ≤ data.length := by
  intro e he
  have hmem : e ∈ fieldEnds data := by
    unfold fieldEnds
    rw [if_pos hyes.1.2]
    exact mem_append_right _ (mem_append_right _ he)
  exact hin e hmem (hyes.1.1 e hmem)

end

/-! ## §9. One datagram. -/

section Datagram

variable {env : Receiver} {now : BitVec 64} {received rest : List UInt8}
  (hlong : mPrefixSize ≤ received.length)
  (hvalid : prefixAccepted (CFdbMsgPrefix.deserialize received) = true)

include hlong hvalid

section

variable (hin : InBuffer (int32 (headLength received)) (headData received rest))
  (hyes : Accepted (int32 (headLength received)) (headData received rest))

include hin hyes

/-- A head that is accepted is not refused later. -/
theorem receive_ne_rejected : env.receive now (received ++ rest) ≠ some .rejected := by
  rw [receive_accepted env now hlong hvalid hin hyes]
  split
  · intro h
    obtain ⟨payload, _, h⟩ := map_eq_some_iff.mp h
    cases h
  · intro h
    cases h

/-- What is delivered for one rest of the buffer. -/
theorem receive_delivered (hreach : env.reaches (headAt (headData received rest)) = true)
    {r : Received} (h : env.receive now (received ++ rest) = some r) :
    ∃ payload, window (headData received rest) (headLength received)
        (field (headData received rest) 17 4) = some payload
      ∧ r = .delivered (env.message now (headAt (headData received rest)) payload) := by
  rw [receive_accepted env now hlong hvalid hin hyes, if_pos hreach] at h
  obtain ⟨payload, hwindow, h⟩ := map_eq_some_iff.mp h
  exact ⟨payload, hwindow, h.symm⟩

end

section Judged

variable {r : Received}
  (hjudged : ∀ rest', received.length + rest'.length = fdbMaxUdpSize →
    env.receive now (received ++ rest') = some r)
  (hfull : received.length + rest.length = fdbMaxUdpSize)

include hjudged hfull

theorem inBuffer_of_judged :
    InBuffer (int32 (headLength received)) (headData received rest) := by
  by_contra hout
  have h := hjudged rest hfull
  rw [receive_outside env now hlong hvalid hout] at h
  cases h

/-- The topic of a head that is accepted ends in the datagram: otherwise there is a rest for which
the head is refused. -/
theorem topicEnd_le_of_judged
    (hyes : Accepted (int32 (headLength received)) (headData received rest)) :
    topicEnd (headData received rest) ≤ ownSize received := by
  by_contra hbehind
  have hsize : mPrefixSize = 8 := rfl
  have hmax : fdbMaxUdpSize = 65535 := rfl
  have hown : (received.drop mPrefixSize).length = ownSize received := length_drop
  have hfull' : received.length + (replicate rest.length (2 : UInt8)).length
      = fdbMaxUdpSize := by
    rw [length_replicate]
    exact hfull
  have hno : ¬ Accepted (int32 (headLength received))
      (headData received (replicate rest.length 2)) := by
    refine not_accepted_twos ?_ ?_
    · rw [length_drop]
      omega
    · rw [hown]
      exact Nat.lt_of_not_le hbehind
  have hin := inBuffer_of_judged hlong hvalid hjudged hfull
  have hin' := inBuffer_of_judged hlong hvalid hjudged hfull'
  have hrejected := receive_rejected env now hlong hvalid hin' hno
  rw [hjudged _ hfull', ← hjudged rest hfull] at hrejected
  exact receive_ne_rejected hlong hvalid hin hyes hrejected

section

variable (hyes : Accepted (int32 (headLength received)) (headData received rest))
  (hreach : env.reaches (headAt (headData received rest)) = true)

include hyes hreach

/-- A byte behind the datagram is changed, and what is read of the buffer stays the same. -/
theorem unchanged_of_judged {i : Nat} (hi : ownSize received ≤ i) :
    ∃ b, (headData received rest)[i]? ≠ some b
      ∧ (field (headData received rest) 17 4 ≠ 0 →
          (((headData received rest).set i b).drop (headLength received)).take
              (field (headData received rest) 17 4)
            = ((headData received rest).drop (headLength received)).take
              (field (headData received rest) 17 4))
      ∧ (env.usesSendTime (headAt (headData received rest)) = true →
          (headAt ((headData received rest).set i b)).mSendArriveTime
            = (headAt (headData received rest)).mSendArriveTime)
      ∧ (env.usesReplyTime (headAt (headData received rest)) = true →
          (headAt ((headData received rest).set i b)).mReplyTime
            = (headAt (headData received rest)).mReplyTime) := by
  have hown : (received.drop mPrefixSize).length = ownSize received := length_drop
  obtain ⟨b, hb⟩ : ∃ b : UInt8, (headData received rest)[i]? ≠ some b := by
    by_cases hzero : (headData received rest)[i]? = some 0
    · refine ⟨1, ?_⟩
      rw [hzero]
      decide
    · exact ⟨0, hzero⟩
  have hset : headData received (rest.set (i - ownSize received) b)
      = (headData received rest).set i b := by
    unfold headData
    rw [set_append_right _ _ (by omega), hown]
  have hfull' : received.length + (rest.set (i - ownSize received) b).length = fdbMaxUdpSize := by
    rw [length_set]
    exact hfull
  have hin := inBuffer_of_judged hlong hvalid hjudged hfull
  have hin' := inBuffer_of_judged hlong hvalid hjudged hfull'
  have hend := topicEnd_le_of_judged hlong hvalid hjudged hfull hyes
  have hagree := take_headData received rest (rest.set (i - ownSize received) b)
  have hyes' := accepted_congr hagree hend hyes
  have hhead := headAt_congr hagree hend hyes.1.2
  have hpayload := field_congr hagree
    (show 17 + 4 ≤ ownSize received from by have := le_topicEnd (headData received rest); omega)
  have hreach' : env.reaches (headAt (headData received (rest.set (i - ownSize received) b)))
      = true := by
    rw [hhead]
    exact hreach
  obtain ⟨payload, hwindow, hr⟩ :=
    receive_delivered hlong hvalid hin hyes hreach (hjudged rest hfull)
  obtain ⟨payload', hwindow', hr'⟩ :=
    receive_delivered hlong hvalid hin' hyes' hreach' (hjudged _ hfull')
  rw [hset] at hwindow' hhead hr' hpayload
  rw [hr, hhead] at hr'
  obtain ⟨hsame, hsend, hreply⟩ := (message_eq_iff env now _ _ _ payload payload').mp
    (Received.delivered.inj hr').symm
  refine ⟨b, hb, ?_, hsend, hreply⟩
  intro hsize
  rw [← hpayload] at hwindow'
  rw [(window_some hsize hwindow).2, (window_some hsize hwindow').2, hsame]

/-- The time of sending lies in the datagram if it is taken over. -/
theorem sendTime_of_judged (huses : env.usesSendTime (headAt (headData received rest)) = true) :
    topicEnd (headData received rest) + 8 ≤ ownSize received := by
  have hoption : hasSendOrArriveTime (optionsAt (headData received rest)) = true := by
    unfold usesSendTime at huses
    rw [Bool.and_eq_true, Bool.and_eq_true] at huses
    exact huses.1.2
  have hend := topicEnd_le_of_judged hlong hvalid hjudged hfull hyes
  have htimes := timeEnds_le (inBuffer_of_judged hlong hvalid hjudged hfull) hyes
  apply time_within (htimes _ (by simp [timeEnds, hoption]))
  intro i hi
  obtain ⟨b, hb, -, hsend, -⟩ := unchanged_of_judged hlong hvalid hjudged hfull hyes hreach hi
  obtain ⟨hopt, htopic, -⟩ := layout_set b hend hi
  have htime := hsend huses
  unfold headAt at htime
  simp only [hopt, htopic, hoption, if_true] at htime
  exact ⟨b, hb, htime⟩

/-- So does the time of the reply. -/
theorem replyTime_of_judged (huses : env.usesReplyTime (headAt (headData received rest)) = true) :
    sendArriveEnd (headData received rest) + 8 ≤ ownSize received := by
  have hoption : hasReplyTime (optionsAt (headData received rest)) = true := by
    unfold usesReplyTime at huses
    rw [Bool.and_eq_true, Bool.and_eq_true] at huses
    exact huses.1.2
  have hend := topicEnd_le_of_judged hlong hvalid hjudged hfull hyes
  have htimes := timeEnds_le (inBuffer_of_judged hlong hvalid hjudged hfull) hyes
  apply time_within (htimes _ (by simp [timeEnds, hoption]))
  intro i hi
  obtain ⟨b, hb, -, -, hreply⟩ := unchanged_of_judged hlong hvalid hjudged hfull hyes hreach hi
  obtain ⟨hopt, -, hsendEnd⟩ := layout_set b hend hi
  have htime := hreply huses
  unfold headAt at htime
  simp only [hopt, hsendEnd, hoption, if_true] at htime
  exact ⟨b, hb, htime⟩

theorem payload_of_judged (hsize : field (headData received rest) 17 4 ≠ 0) :
    headLength received + field (headData received rest) 17 4 ≤ ownSize received := by
  obtain ⟨payload, hwindow, -⟩ := receive_delivered hlong hvalid
    (inBuffer_of_judged hlong hvalid hjudged hfull) hyes hreach (hjudged rest hfull)
  apply slice_within (Nat.pos_of_ne_zero hsize) (window_some hsize hwindow).1
  intro i hi
  obtain ⟨b, hb, hpayload, -, -⟩ := unchanged_of_judged hlong hvalid hjudged hfull hyes hreach hi
  exact ⟨b, hb, hpayload hsize⟩

end

/-- All that is delivered lies in the datagram. -/
theorem within_of_judged :
    env.Within (ownSize received) (headLength received) (headData received rest) where
  inBuffer := inBuffer_of_judged hlong hvalid hjudged hfull
  topic := topicEnd_le_of_judged hlong hvalid hjudged hfull
  message hyes hreach :=
    { sendTime := sendTime_of_judged hlong hvalid hjudged hfull hyes hreach
      replyTime := replyTime_of_judged hlong hvalid hjudged hfull hyes hreach
      payload := or_iff_not_imp_left.mpr
        (payload_of_judged hlong hvalid hjudged hfull hyes hreach) }

end Judged

/-- One rest for which the head is accepted decides for all of them. -/
theorem judged_of_accepted {rest' : List UInt8}
    (hfull : received.length + rest.length = fdbMaxUdpSize)
    (hfull' : received.length + rest'.length = fdbMaxUdpSize)
    (hyes : Accepted (int32 (headLength received)) (headData received rest))
    (hwithin : env.Within (ownSize received) (headLength received) (headData received rest))
    (hin' : InBuffer (int32 (headLength received)) (headData received rest')) :
    env.receive now (received ++ rest') = env.receive now (received ++ rest)
      ∧ env.receive now (received ++ rest) ≠ none := by
  have hend := hwithin.topic hyes
  have hpos := le_topicEnd (headData received rest)
  have hagree := take_headData received rest rest'
  have hyes' := accepted_congr hagree hend hyes
  have hhead := headAt_congr hagree hend hyes.1.2
  have hpayload := field_congr hagree (show 17 + 4 ≤ ownSize received by omega)
  have hsame : env.reaches (headAt (headData received rest'))
      = env.reaches (headAt (headData received rest)) := by
    rw [hhead]
    rfl
  rw [receive_accepted env now hlong hvalid hwithin.inBuffer hyes,
    receive_accepted env now hlong hvalid hin' hyes', hsame]
  by_cases hreach : env.reaches (headAt (headData received rest)) = true
  · rw [if_pos hreach, if_pos hreach]
    -- the payload and the times that are taken over lie in the datagram
    have hmessage := hwithin.message hyes hreach
    have hown : ∀ rest, received.length + rest.length = fdbMaxUdpSize →
        ownSize received ≤ (headData received rest).length := by
      intro rest hfull
      unfold ownSize headData
      rw [length_append, length_drop]
      omega
    obtain ⟨payload, hwindow, hwindow'⟩ :=
      window_congr hagree (hown rest hfull) (hown rest' hfull') hmessage.payload
    rw [← hpayload, hwindow, hwindow', map_some, map_some,
      message_congr env now hagree hend hyes.1.2 hmessage]
    exact ⟨rfl, by simp⟩
  · rw [if_neg hreach, if_neg hreach]
    exact ⟨rfl, by simp⟩

/-- A datagram that lies within itself is judged by itself. -/
theorem judged_of_within
    (hwithin : ∀ rest, received.length + rest.length = fdbMaxUdpSize →
      env.Within (ownSize received) (headLength received) (headData received rest)) :
    ∃ r, ∀ rest, received.length + rest.length = fdbMaxUdpSize →
      env.receive now (received ++ rest) = some r := by
  by_cases haccepted : ∃ rest, received.length + rest.length = fdbMaxUdpSize
      ∧ Accepted (int32 (headLength received)) (headData received rest)
  · obtain ⟨rest, hfull, hyes⟩ := haccepted
    have hall : ∀ rest', received.length + rest'.length = fdbMaxUdpSize →
        env.receive now (received ++ rest') = env.receive now (received ++ rest)
          ∧ env.receive now (received ++ rest) ≠ none := fun rest' hfull' =>
      judged_of_accepted hlong hvalid hfull hfull' hyes (hwithin rest hfull)
        (hwithin rest' hfull').inBuffer
    obtain ⟨r, hr⟩ := ne_none_iff_exists'.mp (hall rest hfull).2
    exact ⟨r, fun rest' hfull' => (hall rest' hfull').1.trans hr⟩
  · refine ⟨.rejected, fun rest hfull => ?_⟩
    exact receive_rejected env now hlong hvalid (hwithin rest hfull).inBuffer
      fun hyes => haccepted ⟨rest, hfull, hyes⟩

end Datagram

/-- **When a datagram is judged by its own bytes**: exactly if, whatever the rest of the buffer
holds, its head stays in the buffer, a head that is accepted ends its topic in the datagram, and a
message that is delivered has the times it takes over and its payload in the datagram. -/
theorem judged_by_itself_iff (env : Receiver) (fatalError : Bool) (now : BitVec 64)
    (received : List UInt8) :
    JudgedByItself env fatalError now received
      ↔ (fatalError = false → mPrefixSize ≤ received.length →
          prefixAccepted (CFdbMsgPrefix.deserialize received) = true →
          ∀ rest, received.length + rest.length = fdbMaxUdpSize →
            env.Within (ownSize received) (headLength received) (headData received rest)) := by
  by_cases hmet : fatalError = false ∧ mPrefixSize ≤ received.length
      ∧ prefixAccepted (deserialize received) = true
  · obtain ⟨rfl, hlong, hvalid⟩ := hmet
    have hinput : ∀ rest, env.onInput false now received rest
        = env.receive now (received ++ rest) := by
      intro rest
      unfold onInput
      rw [if_neg (by decide), if_neg (by omega)]
    constructor
    · intro h _ _ _ rest hfull
      obtain ⟨r, hjudged⟩ := h
      exact within_of_judged hlong hvalid
        (fun rest' hfull' => (hinput rest').symm.trans (hjudged rest' hfull')) hfull
    · intro h
      obtain ⟨r, hjudged⟩ := judged_of_within hlong hvalid (h rfl hlong hvalid)
      exact ⟨r, fun rest hfull => (hinput rest).trans (hjudged rest hfull)⟩
  · -- nothing of the head is read
    refine ⟨fun _ h₁ h₂ h₃ => absurd ⟨h₁, h₂, h₃⟩ hmet, fun _ => ?_⟩
    unfold JudgedByItself onInput
    cases fatalError with
    | true => exact ⟨.unread, fun _ _ => rfl⟩
    | false =>
      refine ⟨.rejected, fun rest _ => ?_⟩
      rw [if_neg (by decide)]
      by_cases hlong : mPrefixSize ≤ received.length
      · have hinvalid : ¬ prefixAccepted (deserialize received) = true :=
          fun hvalid => hmet ⟨rfl, hlong, hvalid⟩
        rw [if_neg (by omega)]
        unfold receive
        rw [deserialize_append hlong, if_neg hinvalid]
      · rw [if_pos (by omega)]

/-- A UDP session whose endpoint has every object, and where nothing waits. -/
def openUdpSession : Receiver where
  sid := 1
  udp := true
  getObject _ _ := true
  authenticated _ _ := true
  pending _ := none
  pending_sn _ _ h := by cases h

/-- The head of a broadcast that announces one byte of payload. -/
def oneByteHead : CFdbMessageHeader where
  mType := .mtBroadcast
  mSn := 1
  mCode := 7
  mFlag := 0
  mObjId := 0
  mPayloadSize := 1
  mQOS := .qosBestEfforts
  mOptions := 0
  mTopic := []
  mSendArriveTime := 0
  mReplyTime := 0

/-- A datagram with this head, and without the byte. -/
def shortDatagram : List UInt8 :=
  CFdbMsgPrefix.serialize ⟨32, 23⟩ ++ oneByteHead.serialize

theorem receive_shortDatagram (b : UInt8) (rest : List UInt8) :
    openUdpSession.onInput false 0 shortDatagram (b :: rest)
      = some (.delivered (openUdpSession.message 0 oneByteHead [b])) := by
  have hwf : oneByteHead.WellFormed :=
    ⟨by decide, not_mem_nil, fun _ => rfl, fun _ => rfl, fun _ => rfl⟩
  have hdata : headData shortDatagram (b :: rest) = oneByteHead.serialize ++ b :: rest := rfl
  have hlength : headLength shortDatagram = oneByteHead.serialize.length := by decide
  have hsize : int32 (headLength shortDatagram) = oneByteHead.serialize.length := by decide
  obtain ⟨hhead, hterm, hend⟩ := headAt_serialize hwf (b :: rest)
  rw [← hdata] at hhead hterm hend
  have hle : ∀ e ∈ fieldEnds (headData shortDatagram (b :: rest)),
      e ≤ oneByteHead.serialize.length := by
    rw [← hend]
    exact fieldEnds_le_headEnd _
  have hin : InBuffer (int32 (headLength shortDatagram)) (headData shortDatagram (b :: rest)) := by
    intro e he _
    rw [hdata, length_append]
    exact (hle e he).trans (Nat.le_add_right _ _)
  have hyes : Accepted (int32 (headLength shortDatagram)) (headData shortDatagram (b :: rest)) := by
    refine ⟨⟨fun e he => .inr ?_, hterm⟩, by rw [hhead]; decide⟩
    rw [hsize]
    exact_mod_cast hle e he
  -- the payload begins where the datagram ends
  have hwindow : window (oneByteHead.serialize ++ b :: rest)
      oneByteHead.serialize.length oneByteHead.mPayloadSize.toNat = some [b] := by
    have hone : oneByteHead.mPayloadSize.toNat = 1 := rfl
    have hinside : oneByteHead.serialize.length + 1
        ≤ (oneByteHead.serialize ++ b :: rest).length := by
      rw [length_append, length_cons]
      omega
    unfold window
    rfl
  unfold onInput
  rw [if_neg (by decide), if_neg (by decide),
    receive_accepted openUdpSession 0 (by decide) (by decide) hin hyes,
    ← payloadSize_headAt, hhead, if_pos (by decide), hlength, hdata, hwindow]
  rfl

/-- **What the buffer held before is delivered** as the payload of a datagram that has none. -/
theorem residue_delivered :
    (∀ b rest, openUdpSession.onInput false 0 shortDatagram (b :: rest)
      = some (.delivered (openUdpSession.message 0 oneByteHead [b])))
    ∧ ¬ JudgedByItself openUdpSession false 0 shortDatagram := by
  refine ⟨receive_shortDatagram, ?_⟩
  intro h
  obtain ⟨r, hjudged⟩ := h
  have hfull : ∀ b : UInt8, shortDatagram.length + (b :: replicate 65503 0).length
      = fdbMaxUdpSize := by
    intro b
    rw [length_cons, length_replicate]
    decide
  have hzero := hjudged _ (hfull 0)
  have hone := hjudged _ (hfull 1)
  rw [receive_shortDatagram] at hzero hone
  have hsame := hzero.trans hone.symm
  exact absurd (congrArg IncomingMessage.payload (Received.delivered.inj (some.inj hsame)))
    (by decide)

end Fdbus.Session

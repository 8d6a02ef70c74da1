/-
  Fdbus.Session.Reassembly — frames out of an asynchronous byte stream.

  `CSysFdWatch::processInput` reads what the descriptor has into the input buffer and
  calls `CFdbSession::onInputReady`, which takes complete frames out of it; what it still
  needs is what `checkBufferSize` makes room for.  The peer's stream is a concatenation
  of frames, and each call reads any number of bytes of it that fits the free tail.

  Whether processing a frame sets `fatalError` (an undecodable head, an unknown type, a
  handler that runs into an error on the session) is a parameter `stops` that sees all
  frames processed so far.  The session ends at such a frame on purpose, so the results
  speak of the frames up to it:

    * `processed_complete_frames` — the processed frames are the complete frames of the
      bytes read, in order and byte for byte, up to and including the first at which the
      session stops, and the free tail stays larger than 0.
-/
import Fdbus.Library.Framing
import Fdbus.Library.Run
import Fdbus.Session.ProcessPayload
import Fdbus.Worker.InputChunk

namespace Fdbus.Session

open Fdbus.Wire Fdbus.Worker Fdbus.Framing Fdbus.Run List Option

/-! ## §1. The receiving half of a session. -/

/-- The frames of a stream: the announced length is the length, at least the prefix, and
no more than an input buffer can hold. -/
structure IsStreamFrame (bytes : List UInt8) : Prop where
  prefix_le : mPrefixSize ≤ bytes.length
  complete : bytes.length = (CFdbMsgPrefix.deserialize bytes).mTotalLength.toNat
  small : bytes.length ≤ mMaxInputChunkSize

/-- The state `processInput` works on, with what the environment has seen of it: the
stream still to come, the bytes read while the session was sound, the frames handed to
`processPayload`, and whether a call of `checkBufferSize` has failed. -/
structure RecvState where
  mInputChunk : CInputDataChunk
  mMsgPrefix : CFdbMsgPrefix
  mPayloadBuffer : Bool
  mFatalError : Bool
  incoming : List UInt8
  received : List UInt8
  processed : List (List UInt8)
  bufferFailed : Bool

/-- One call of `processInput`: `readStream` fails, or delivers up to `count` bytes. -/
inductive ReadCall where
  | error
  | read (count : Nat)
  deriving DecidableEq

/-- A session whose asynchronous input is enabled and that has read nothing. -/
def RecvState.start (stream : List UInt8) : RecvState where
  mInputChunk := CInputDataChunk.allocated
  mMsgPrefix := ⟨0, 0⟩
  mPayloadBuffer := false
  mFatalError := false
  incoming := stream
  received := []
  processed := []
  bufferFailed := false

/-- `parsePrefix(getBufferHead())`: the prefix is looked at and stays in the buffer. -/
def RecvState.parsePrefix (s : RecvState) : RecvState :=
  let p := CFdbMsgPrefix.deserialize s.mInputChunk.fromHead
  if prefixAccepted p then { s with mMsgPrefix := p, mPayloadBuffer := true }
  else { s with mMsgPrefix := p, mFatalError := true }

/-- `processPayload()` on an extracted frame, and the release of the payload buffer. -/
def RecvState.processPayload (stops : List (List UInt8) → Bool) (s : RecvState)
    (frame : List UInt8) (chunk : CInputDataChunk) : RecvState :=
  { s with
    mInputChunk := chunk
    mPayloadBuffer := false
    mFatalError := stops (s.processed ++ [frame])
    processed := s.processed ++ [frame] }

/-- How a round of the loop in `onInputReady()` ends: `break` with the size to return, the
next round, or a `memcpy` with negative size. -/
inductive Round where
  | leave (expected : Nat) (s : RecvState)
  | again (s : RecvState)
  | undefined

/-- `extractData(mPayloadBuffer, mTotalLength)` and what follows it; the length is an
`int32_t` there. -/
def RecvState.takeFrame (stops : List (List UInt8) → Bool) (s : RecvState) (size : Int) : Round :=
  if size < 0 then .undefined
  else
    match s.mInputChunk.extractData size.toNat with
    | .error missing => .leave missing s
    | .ok (frame, chunk) => .again (s.processPayload stops frame chunk)

/-- One round of the `while (1)` loop of `onInputReady()`. -/
def onInputReadyRound (stops : List (List UInt8) → Bool) (s : RecvState) : Round :=
  if s.mFatalError then .leave 0 { s with mPayloadBuffer := false }
  else if s.mPayloadBuffer then s.takeFrame stops (int32 s.mMsgPrefix.mTotalLength.toNat)
  else
    let expected := s.mInputChunk.getExpectedSize mPrefixSize
    if expected ≠ 0 then .leave expected s else .again s.parsePrefix

/-- The loop; `none` also when it outlives its fuel. -/
def onInputReadyLoop (stops : List (List UInt8) → Bool) :
    Nat → RecvState → Option (Nat × RecvState)
  | 0, _ => none
  | fuel + 1, s =>
    match onInputReadyRound stops s with
    | .leave expected t => some (expected, t)
    | .again t => onInputReadyLoop stops fuel t
    | .undefined => none

/-- `onInputReady()`: two rounds take at least eight bytes out of the buffer, so this
fuel outlasts the loop. -/
def onInputReady (stops : List (List UInt8) → Bool) (s : RecvState) :
    Option (Nat × RecvState) :=
  onInputReadyLoop stops (2 * s.mInputChunk.mConsumed + 2) s

/-- `checkBufferSize` on the session's buffer; a failure is remembered. -/
def RecvState.checkBufferSize (s : RecvState) (expected : Nat) : Bool × RecvState :=
  let r := s.mInputChunk.checkBufferSize expected
  (r.1, { s with mInputChunk := r.2, bufferFailed := s.bufferFailed || !r.1 })

/-- The bytes one call reads: no more than `tail_size`, and than there are. -/
def RecvState.delivered (s : RecvState) (count : Nat) : List UInt8 :=
  s.incoming.take (min count s.mInputChunk.getTailSize)

open RecvState

theorem length_delivered_le (s : RecvState) (count : Nat) :
    (s.delivered count).length ≤ s.mInputChunk.getTailSize := by
  unfold delivered
  rw [length_take]
  omega

/-- The read of `processInput` into the free tail. -/
def RecvState.readStream (s : RecvState) (count : Nat) : RecvState :=
  { s with
    mInputChunk := s.mInputChunk.store (s.delivered count) (length_delivered_le s count)
    incoming := s.incoming.drop (s.delivered count).length
    received := if s.mFatalError then s.received else s.received ++ s.delivered count }

/-- The end of `processInput()`: make room for `expected` more bytes, or give up. -/
def RecvState.makeRoom (stops : List (List UInt8) → Bool) (s : RecvState) (expected : Nat) :
    Option RecvState :=
  let r := s.checkBufferSize expected
  if r.1 then some r.2
  else (onInputReady stops { r.2 with mFatalError := true }).map (·.2)

/-- The check of a full buffer at the start of `processInput()`. -/
def RecvState.beforeRead (s : RecvState) : RecvState :=
  if s.mInputChunk.getTailSize = 0 then (s.checkBufferSize 0).2 else s

/-- The rest of `processInput()`: a read of up to `tail` bytes. -/
def RecvState.readAndProcess (stops : List (List UInt8) → Bool) (s : RecvState) (tail : Nat) :
    ReadCall → Option RecvState
  | .error =>
    (onInputReady stops { s with mFatalError := true }).bind fun r => r.2.makeRoom stops r.1
  | .read count =>
    if s.delivered (min count tail) = [] then s.makeRoom stops 0
    else
      (onInputReady stops (s.readStream (min count tail))).bind fun r =>
        r.2.makeRoom stops r.1

/-- `processInput()`.  The size asked of `readStream` is the free tail before the check of
a full buffer. -/
def processInput (stops : List (List UInt8) → Bool) (s : RecvState) (call : ReadCall) :
    Option RecvState :=
  s.beforeRead.readAndProcess stops s.mInputChunk.getTailSize call

/-! ## §2. Prefixes of stream frames. -/

open CFdbMsgPrefix

/-- The prefix is a function of the first eight bytes. -/
theorem deserialize_take (bytes : List UInt8) :
    deserialize (bytes.take mPrefixSize) = deserialize bytes := by
  unfold deserialize mPrefixSize
  rw [take_take, drop_take, take_take]
  rfl

theorem IsStreamFrame.int32_total {f : List UInt8} (h : IsStreamFrame f) :
    int32 (deserialize f).mTotalLength.toNat = f.length := by
  have hsmall := h.small
  rw [← h.complete]
  refine int32_of_range (by omega) ?_
  unfold mMaxInputChunkSize mDefaultInputChunkSize at hsmall
  omega

theorem IsStreamFrame.prefixAccepted {f : List UInt8} (h : IsStreamFrame f) :
    prefixAccepted (deserialize f) = true := by
  have hpre := h.prefix_le
  have hcomplete := h.complete
  have hsmall := h.small
  generalize deserialize f = p at hcomplete ⊢
  unfold mMaxInputChunkSize mDefaultInputChunkSize at hsmall
  unfold mPrefixSize at hpre
  have hlt := p.mTotalLength.isLt
  have hsub : (p.mTotalLength - BitVec.ofNat 32 mPrefixSize).toNat = f.length - 8 := by
    rw [BitVec.toNat_sub]
    simp only [mPrefixSize, BitVec.toNat_ofNat]
    omega
  unfold Session.prefixAccepted
  rw [hsub, decide_eq_true_eq, int32_nonneg_iff (by omega)]
  omega

/-! ## §3. The loop of `onInputReady`. -/

section Loop

variable {stops : List (List UInt8) → Bool} {frames : List (List UInt8)}

/-- The session is sound and has taken the frames before `rest`: the held bytes and the
stream to come spell `rest`, and an allocated payload buffer is for its first frame. -/
structure Pending (stops : List (List UInt8) → Bool) (frames : List (List UInt8))
    (s : RecvState) (rest : List (List UInt8)) : Prop where
  split : frames = s.processed ++ rest
  stream : s.mInputChunk.contents ++ s.incoming = rest.flatten
  received : s.received = s.processed.flatten ++ s.mInputChunk.contents
  noStop : NoStop stops [] s.processed
  sound : s.mFatalError = false
  payload : s.mPayloadBuffer = true →
    ∃ f fs, rest = f :: fs ∧ mPrefixSize ≤ s.mInputChunk.contents.length
      ∧ s.mMsgPrefix = CFdbMsgPrefix.deserialize f

/-- The bytes the session waits for: the rest of a prefix, or the rest of the frame whose
prefix it has seen. -/
def Expects (s : RecvState) (rest : List (List UInt8)) (expected : Nat) : Prop :=
  0 < expected
    ∧ (s.mInputChunk.contents.length + expected = mPrefixSize
      ∨ ∃ f fs, rest = f :: fs ∧ mPrefixSize ≤ s.mInputChunk.contents.length
          ∧ s.mInputChunk.contents.length + expected = f.length)

/-- The session has processed a frame at which it stops. -/
def Stopped (stops : List (List UInt8) → Bool) (frames : List (List UInt8)) (s : RecvState) :
    Prop :=
  s.mFatalError = true ∧ ∃ taken f rest, s.processed = taken ++ [f]
    ∧ frames = s.processed ++ rest ∧ NoStop stops [] taken ∧ stops (taken ++ [f]) = true
    ∧ s.processed.flatten <+: s.received ∧ s.received <+: frames.flatten

/-- What the loop leaves alone. -/
structure SameOutside (s t : RecvState) : Prop where
  incoming : t.incoming = s.incoming
  received : t.received = s.received
  bufferFailed : t.bufferFailed = s.bufferFailed

theorem SameOutside.refl (s : RecvState) : SameOutside s s := ⟨rfl, rfl, rfl⟩

variable {s : RecvState} {rest : List (List UInt8)} {expected : Nat}

theorem SameOutside.trans {t u : RecvState} (h₁ : SameOutside s t) (h₂ : SameOutside t u) :
    SameOutside s u :=
  ⟨h₂.incoming.trans h₁.incoming, h₂.received.trans h₁.received,
    h₂.bufferFailed.trans h₁.bufferFailed⟩

theorem Pending.received_initial
    (h : Pending stops frames s rest) : s.received <+: frames.flatten := by
  refine ⟨s.incoming, ?_⟩
  rw [h.received, h.split, flatten_append, append_assoc, h.stream]

/-- The session sees a prefix: it belongs to the next frame of the stream. -/
theorem Pending.parsePrefix
    (hframes : ∀ f ∈ frames, IsStreamFrame f) (h : Pending stops frames s rest)
    (hlen : mPrefixSize ≤ s.mInputChunk.contents.length) :
    Pending stops frames s.parsePrefix rest ∧ s.parsePrefix.mPayloadBuffer = true
      ∧ s.parsePrefix.mInputChunk = s.mInputChunk ∧ SameOutside s s.parsePrefix := by
  have hne : rest ≠ [] := by
    rintro rfl
    have := congrArg length h.stream
    simp only [length_append, flatten_nil, length_nil] at this
    unfold mPrefixSize at hlen
    omega
  obtain ⟨f, fs, rfl⟩ := exists_cons_of_ne_nil hne
  have hf : IsStreamFrame f := hframes f (by rw [h.split]; simp)
  -- the eight bytes at the head are the first eight of the frame
  have hhead : deserialize s.mInputChunk.fromHead = deserialize f := by
    have hbytes : s.mInputChunk.fromHead.take mPrefixSize = f.take mPrefixSize := by
      have hcut := congrArg (take mPrefixSize) h.stream
      rw [take_append_of_le_length hlen, flatten_cons,
        take_append_of_le_length hf.prefix_le] at hcut
      rw [fromHead_eq, take_append_of_le_length hlen, hcut]
    rw [← deserialize_take, hbytes, deserialize_take]
  have heq : s.parsePrefix
      = { s with mMsgPrefix := deserialize f, mPayloadBuffer := true } := by
    unfold RecvState.parsePrefix
    simp only [hhead, hf.prefixAccepted, if_true]
  rw [heq]
  exact ⟨⟨h.split, h.stream, h.received, h.noStop, h.sound, fun _ => ⟨f, fs, rfl, hlen, rfl⟩⟩,
    rfl, rfl, ⟨rfl, rfl, rfl⟩⟩

/-- The session takes a complete frame out of the buffer. -/
theorem Pending.extract {f : List UInt8} {fs : List (List UInt8)}
    (h : Pending stops frames s (f :: fs)) (hle : f.length ≤ s.mInputChunk.contents.length) :
    ∃ chunk, s.mInputChunk.extractData f.length = .ok (f, chunk)
      ∧ chunk.contents = s.mInputChunk.contents.drop f.length
      ∧ SameOutside s (s.processPayload stops f chunk)
      ∧ (Pending stops frames (s.processPayload stops f chunk) fs
        ∨ Stopped stops frames (s.processPayload stops f chunk)) := by
  obtain ⟨chunk, hext, hcont, -⟩ := extractData_ok hle
  obtain ⟨hfirst, hrest⟩ := split_first_frame h.stream hle
  have hsplit : frames = s.processed ++ [f] ++ fs := by
    rw [h.split, append_assoc]
    rfl
  have hreceived : s.received = (s.processed ++ [f]).flatten ++ chunk.contents := by
    rw [h.received, hcont, flatten_append, append_assoc]
    congr 1
    rw [flatten_singleton]
    conv_lhs => rw [← take_append_drop f.length s.mInputChunk.contents, hfirst]
  rw [hfirst] at hext
  refine ⟨chunk, hext, hcont, ⟨rfl, rfl, rfl⟩, ?_⟩
  cases hstop : stops (s.processed ++ [f]) with
  | false =>
    left
    refine ⟨hsplit, ?_, hreceived, h.noStop.concat hstop, hstop, fun hp => ?_⟩
    · show chunk.contents ++ s.incoming = _
      rw [hcont, hrest]
    · simp [RecvState.processPayload] at hp
  | true =>
    right
    exact ⟨hstop, s.processed, f, fs, rfl, hsplit, h.noStop, hstop, ⟨_, hreceived.symm⟩,
      h.received_initial⟩

/-- A session that has stopped leaves the loop at once. -/
theorem onInputReadyLoop_fatal (h : s.mFatalError = true) (fuel : Nat) :
    onInputReadyLoop stops (fuel + 1) s = some (0, { s with mPayloadBuffer := false }) := by
  simp [onInputReadyLoop, onInputReadyRound, h]

/-- A round without one. -/
theorem onInputReadyRound_noPayload (hsound : s.mFatalError = false)
    (hpay : ¬ s.mPayloadBuffer = true) :
    onInputReadyRound stops s
      = if s.mInputChunk.contents.length < mPrefixSize then
          .leave (mPrefixSize - s.mInputChunk.contents.length) s
        else .again s.parsePrefix := by
  unfold onInputReadyRound
  rw [if_neg (by simp [hsound]), if_neg hpay, length_contents]
  unfold CInputDataChunk.getExpectedSize
  by_cases hlt : s.mInputChunk.mConsumed < mPrefixSize
  · have hne : mPrefixSize - s.mInputChunk.mConsumed ≠ 0 := by omega
    simp only [gt_iff_lt, if_pos hlt, if_pos hne]
  · simp [hlt]

/-- **What the loop does**: it returns, and the session has either stopped, or waits for
bytes of the next frame. -/
theorem onInputReadyLoop_spec (hframes : ∀ f ∈ frames, IsStreamFrame f) :
    ∀ (fuel : Nat) (s : RecvState) (rest : List (List UInt8)), Pending stops frames s rest →
      2 * s.mInputChunk.contents.length + (if s.mPayloadBuffer then 0 else 1) < fuel →
      ∃ expected t, onInputReadyLoop stops fuel s = some (expected, t) ∧ SameOutside s t
        ∧ ((∃ rest', Pending stops frames t rest' ∧ Expects t rest' expected)
          ∨ (Stopped stops frames t ∧ expected = 0)) := by
  intro fuel
  induction fuel with
  | zero =>
    omega
  | succ fuel ih =>
    intro s rest h hfuel
    by_cases hpay : s.mPayloadBuffer = true
    · -- a frame whose prefix was seen
      obtain ⟨f, fs, rfl, hlen, hmsg⟩ := h.payload hpay
      have hf : IsStreamFrame f := hframes f (by rw [h.split]; simp)
      have hround : onInputReadyRound stops s = s.takeFrame stops f.length := by
        unfold onInputReadyRound
        rw [if_neg (by simp [h.sound]), if_pos hpay, hmsg, hf.int32_total]
      unfold onInputReadyLoop
      rw [hround]
      by_cases hle : f.length ≤ s.mInputChunk.contents.length
      · obtain ⟨chunk, hext, hcont, hsame, hnext⟩ := h.extract hle
        have htake : s.takeFrame stops f.length = .again (s.processPayload stops f chunk) := by
          simp [takeFrame, hext]
        rw [htake]
        have hprefix := hf.prefix_le
        unfold mPrefixSize at hprefix
        rcases hnext with hnext | hstop
        · obtain ⟨expected, t, hrun, hsame', hout⟩ := ih _ fs hnext (by
            show 2 * chunk.contents.length + 1 < fuel
            rw [hcont, length_drop]
            omega)
          exact ⟨expected, t, hrun, hsame.trans hsame', hout⟩
        · obtain ⟨k, rfl⟩ : ∃ k, fuel = k + 1 := ⟨fuel - 1, by omega⟩
          refine ⟨0, _, onInputReadyLoop_fatal hstop.1 k, hsame, .inr ⟨hstop, rfl⟩⟩
      · have hext := extractData_error (c := s.mInputChunk) (Nat.lt_of_not_le hle)
        have htake : s.takeFrame stops f.length
            = .leave (f.length - s.mInputChunk.contents.length) s := by
          simp [takeFrame, hext]
        rw [htake]
        refine ⟨_, s, rfl, SameOutside.refl s, .inl ⟨f :: fs, h, ?_⟩⟩
        exact ⟨by omega, .inr ⟨f, fs, rfl, hlen, by omega⟩⟩
    · -- no prefix seen yet
      unfold onInputReadyLoop
      rw [onInputReadyRound_noPayload h.sound hpay]
      rw [if_neg hpay] at hfuel
      by_cases hlt : s.mInputChunk.contents.length < mPrefixSize
      · rw [if_pos hlt]
        refine ⟨_, s, rfl, SameOutside.refl s, .inl ⟨rest, h, ?_⟩⟩
        exact ⟨by omega, .inl (by omega)⟩
      · rw [if_neg hlt]
        obtain ⟨hnext, hpay', hchunk, hsame⟩ := h.parsePrefix hframes (Nat.le_of_not_lt hlt)
        obtain ⟨expected, t, hrun, hsame', hout⟩ := ih _ rest hnext (by
          rw [if_pos hpay', hchunk]
          omega)
        exact ⟨expected, t, hrun, hsame.trans hsame', hout⟩

/-! ## §4. Whole calls. -/

/-- The frames processed are those the bytes read complete, up to the first stop. -/
def Settled (stops : List (List UInt8) → Bool) (frames : List (List UInt8)) (s : RecvState) :
    Prop :=
  s.processed = upToStop stops [] (within frames s.received.length)
    ∧ s.received <+: frames.flatten

theorem settled_of_expects (hframes : ∀ f ∈ frames, IsStreamFrame f) {s : RecvState}
    {rest : List (List UInt8)} {expected : Nat} (h : Pending stops frames s rest)
    (hexp : Expects s rest expected) : Settled stops frames s := by
  -- what is held is less than the next frame
  have hheld : ∀ f fs, rest = f :: fs → s.mInputChunk.contents.length < f.length := by
    rintro f fs rfl
    obtain ⟨hpos, hprefix | ⟨f', fs', heq, -, hframe⟩⟩ := hexp
    · have hf := (hframes f (by rw [h.split]; simp)).prefix_le
      omega
    · injection heq with hf _
      subst hf
      omega
  refine ⟨?_, h.received_initial⟩
  have hwithin : within (s.processed ++ rest)
      (s.processed.flatten.length + s.mInputChunk.contents.length) = s.processed :=
    within_of_pending hheld
  rw [h.received, length_append]
  conv_rhs => rw [h.split]
  rw [hwithin, upToStop_of_noStop h.noStop]

theorem settled_of_stopped (h : Stopped stops frames s) : Settled stops frames s := by
  obtain ⟨-, taken, f, rest, hproc, hsplit, hno, hstop, ⟨extra, hextra⟩, hinit⟩ := h
  refine ⟨?_, hinit⟩
  rw [← hextra, length_append]
  conv_rhs => rw [hsplit]
  rw [within_append, hproc, append_assoc]
  exact (upToStop_of_stop _ hno hstop).symm

/-- The parts of the state a stopped session keeps. -/
structure SameResult (s t : RecvState) : Prop where
  processed : t.processed = s.processed
  received : t.received = s.received
  mFatalError : t.mFatalError = s.mFatalError
  bufferFailed : t.bufferFailed = s.bufferFailed

theorem SameResult.settled {t : RecvState} (h : SameResult s t)
    (hs : Settled stops frames s) : Settled stops frames t := by
  unfold Settled at *
  rw [h.processed, h.received]
  exact hs

theorem checkBufferSize_sameResult (s : RecvState) {expected : Nat}
    (h : (s.checkBufferSize expected).1 = true) : SameResult s (s.checkBufferSize expected).2 := by
  refine ⟨rfl, rfl, rfl, ?_⟩
  have h' : (s.mInputChunk.checkBufferSize expected).1 = true := h
  simp [checkBufferSize, h']

theorem checkBufferSize_zero_sameResult (s : RecvState) :
    SameResult s (s.checkBufferSize 0).2 :=
  checkBufferSize_sameResult s (checkBufferSize_zero s.mInputChunk).1

/-- Making room for nothing succeeds and changes nothing but the buffer. -/
theorem makeRoom_zero (s : RecvState) :
    s.makeRoom stops 0 = some (s.checkBufferSize 0).2 := by
  have h : (s.checkBufferSize 0).1 = true := (checkBufferSize_zero s.mInputChunk).1
  unfold makeRoom
  simp [h]

/-- `onInputReady` of a stopped session. -/
theorem onInputReady_fatal (h : s.mFatalError = true) :
    onInputReady stops s = some (0, { s with mPayloadBuffer := false }) := by
  exact onInputReadyLoop_fatal h _

/-- The buffer check in front of the read changes nothing but the buffer. -/
theorem beforeRead_sameResult (s : RecvState) : SameResult s s.beforeRead := by
  unfold beforeRead
  split
  · exact checkBufferSize_zero_sameResult s
  · exact ⟨rfl, rfl, rfl, rfl⟩

/-- What holds between calls: the session has failed for want of room, or has stopped
with the right frames, or waits for bytes it has room for. -/
def RecvInv (stops : List (List UInt8) → Bool) (frames : List (List UInt8)) (s : RecvState) :
    Prop :=
  (s.mFatalError = true ∧ (s.bufferFailed = true ∨ Settled stops frames s))
    ∨ ∃ rest expected, Pending stops frames s rest ∧ Expects s rest expected
        ∧ 0 < s.mInputChunk.getTailSize

/-- The input buffer can be enlarged for the frame `f`, wherever its bytes are cut. -/
def RoomFor (f : List UInt8) : Prop :=
  f.length - 1 + max (f.length - mPrefixSize) mDefaultInputChunkSize ≤ mMaxInputChunkSize

/-- The call ends in a good state, and has not failed for want of room if every frame of
the stream has some. -/
def GoodEnd (stops : List (List UInt8) → Bool) (frames : List (List UInt8)) (s t : RecvState) :
    Prop :=
  RecvInv stops frames t ∧ ((∀ f ∈ frames, RoomFor f) → t.bufferFailed = s.bufferFailed)

/-- A session that waits can make room for what it expects, if the frames have some. -/
theorem Expects.checkSucceeds (h : Pending stops frames s rest) (hexp : Expects s rest expected)
    (hroom : ∀ f ∈ frames, RoomFor f) :
    (s.mInputChunk.checkBufferSize expected).1 = true := by
  have hlen := length_contents s.mInputChunk
  obtain ⟨hpos, hprefix | ⟨f, fs, hrest, hheld, hframe⟩⟩ := hexp
  · refine checkBufferSize_succeeds mPrefixSize (by omega) ?_
    unfold mPrefixSize mMaxInputChunkSize mDefaultInputChunkSize at *
    omega
  · have hf : RoomFor f := hroom f (by rw [h.split, hrest]; simp)
    refine checkBufferSize_succeeds f.length (by omega) ?_
    unfold RoomFor at hf
    omega

/-- A new buffer with the same held bytes keeps the session's place in the stream. -/
theorem Pending.checkBufferSize (h : Pending stops frames s rest) (expected : Nat) :
    Pending stops frames (s.checkBufferSize expected).2 rest := by
  have hcont := contents_checkBufferSize s.mInputChunk expected
  refine ⟨h.split, ?_, ?_, h.noStop, h.sound, ?_⟩
  · show (s.mInputChunk.checkBufferSize expected).2.contents ++ s.incoming = _
    rw [hcont, h.stream]
  · show s.received = s.processed.flatten ++ (s.mInputChunk.checkBufferSize expected).2.contents
    rw [hcont, h.received]
  · intro hpay
    obtain ⟨f, fs, hrest, hlen, hmsg⟩ := h.payload hpay
    refine ⟨f, fs, hrest, ?_, hmsg⟩
    show _ ≤ (s.mInputChunk.checkBufferSize expected).2.contents.length
    rwa [hcont]

theorem Expects.checkBufferSize
    (h : Expects s rest expected) (size : Nat) : Expects (s.checkBufferSize size).2 rest expected := by
  have hcont := contents_checkBufferSize s.mInputChunk size
  show 0 < expected ∧ ((s.mInputChunk.checkBufferSize size).2.contents.length + _ = _ ∨ ∃ f fs,
    _ ∧ _ ≤ (s.mInputChunk.checkBufferSize size).2.contents.length
      ∧ (s.mInputChunk.checkBufferSize size).2.contents.length + _ = _)
  rwa [hcont]

/-- The end of a call that left the session waiting. -/
theorem makeRoom_pending (h : Pending stops frames s rest) (hexp : Expects s rest expected) :
    ∃ t, s.makeRoom stops expected = some t ∧ GoodEnd stops frames s t := by
  unfold makeRoom
  by_cases hok : (s.checkBufferSize expected).1 = true
  · have hroom : expected ≤ (s.mInputChunk.checkBufferSize expected).2.getTailSize :=
      checkBufferSize_room hok
    have hpos := hexp.1
    refine ⟨(s.checkBufferSize expected).2, by simp [hok], .inr ?_,
      fun _ => (checkBufferSize_sameResult s hok).bufferFailed⟩
    refine ⟨rest, expected, h.checkBufferSize expected, hexp.checkBufferSize expected, ?_⟩
    exact Nat.lt_of_lt_of_le hpos hroom
  · -- no room: the session gives up
    have hfail : (s.mInputChunk.checkBufferSize expected).1 = false := by
      simpa [checkBufferSize] using hok
    have hready : onInputReady stops { (s.checkBufferSize expected).2 with mFatalError := true }
        = some (0, _) := onInputReady_fatal rfl
    simp only [hok, Bool.false_eq_true, if_false, hready, map_some]
    refine ⟨_, rfl, .inl ⟨rfl, .inl ?_⟩, fun hroom => ?_⟩
    · simp [checkBufferSize, hfail]
    · have hsucc := Expects.checkSucceeds h hexp hroom
      rw [hfail] at hsucc
      simp at hsucc

/-- The end of a call on a stopped session. -/
theorem makeRoom_stopped (hfatal : s.mFatalError = true)
    (h : s.bufferFailed = true ∨ Settled stops frames s) :
    ∃ t, s.makeRoom stops 0 = some t ∧ GoodEnd stops frames s t := by
  have hsame := checkBufferSize_zero_sameResult s
  refine ⟨_, makeRoom_zero s, .inl ⟨hsame.mFatalError.trans hfatal, ?_⟩,
    fun _ => hsame.bufferFailed⟩
  rcases h with hfailed | hsettled
  · exact .inl (hsame.bufferFailed.trans hfailed)
  · exact .inr (hsame.settled hsettled)

theorem contents_readStream (s : RecvState) (count : Nat) :
    (s.readStream count).mInputChunk.contents
      = s.mInputChunk.contents ++ s.delivered count :=
  contents_store s.mInputChunk (s.delivered count) (length_delivered_le s count)

/-- The read of a sound session appends to what it holds. -/
theorem Pending.readStream (h : Pending stops frames s rest) (count : Nat) :
    Pending stops frames (s.readStream count) rest := by
  have htake : s.delivered count ++ (s.readStream count).incoming = s.incoming :=
    prefix_iff_eq_append.mp ( take_prefix _ _)
  refine ⟨h.split, ?_, ?_, h.noStop, h.sound, ?_⟩
  · rw [contents_readStream, append_assoc, htake, h.stream]
  · show (if s.mFatalError = true then s.received else s.received ++ s.delivered count)
      = s.processed.flatten ++ (s.readStream count).mInputChunk.contents
    rw [contents_readStream, h.received, if_neg (by simp [h.sound]), append_assoc]
  · intro hpay
    obtain ⟨f, fs, hrest, hlen, hmsg⟩ := h.payload hpay
    refine ⟨f, fs, hrest, ?_, hmsg⟩
    rw [contents_readStream, length_append]
    omega

/-- `onInputReady` of a sound session, as the loop leaves it. -/
theorem onInputReady_pending (hframes : ∀ f ∈ frames, IsStreamFrame f) {s : RecvState}
    {rest : List (List UInt8)} (h : Pending stops frames s rest) :
    ∃ expected t, onInputReady stops s = some (expected, t) ∧ t.bufferFailed = s.bufferFailed
      ∧ ((∃ rest', Pending stops frames t rest' ∧ Expects t rest' expected)
        ∨ (Stopped stops frames t ∧ expected = 0)) := by
  obtain ⟨expected, t, hrun, hsame, hout⟩ :=
    onInputReadyLoop_spec hframes (2 * s.mInputChunk.mConsumed + 2) s rest h (by
      rw [length_contents]
      split <;> omega)
  exact ⟨expected, t, hrun, hsame.bufferFailed, hout⟩

/-- A call on a stopped session. -/
theorem readAndProcess_stopped (hfatal : s.mFatalError = true)
    (h : s.bufferFailed = true ∨ Settled stops frames s) (tail : Nat) (call : ReadCall) :
    ∃ t, s.readAndProcess stops tail call = some t ∧ GoodEnd stops frames s t := by
  cases call with
  | error =>
    simp only [readAndProcess]
    exact makeRoom_stopped rfl h
  | read count =>
    simp only [readAndProcess]
    split
    · exact makeRoom_stopped hfatal h
    · -- bytes read after the stop are not counted as received
      have hreceived : (s.readStream (min count tail)).received = s.received := by
        simp [readStream, hfatal]
      have hsame : SameResult s (s.readStream (min count tail)) :=
        ⟨rfl, hreceived, rfl, rfl⟩
      have h' : s.bufferFailed = true ∨ Settled stops frames (s.readStream (min count tail)) :=
        h.imp_right hsame.settled
      rw [onInputReady_fatal (hsame.mFatalError.trans hfatal), bind_some]
      exact makeRoom_stopped (hsame.mFatalError.trans hfatal) h'

/-- **One call keeps the invariant**, and always returns. -/
theorem processInput_inv (hframes : ∀ f ∈ frames, IsStreamFrame f) {s : RecvState}
    (h : RecvInv stops frames s) (call : ReadCall) :
    ∃ t, processInput stops s call = some t ∧ GoodEnd stops frames s t := by
  unfold processInput
  rcases h with ⟨hfatal, h⟩ | ⟨rest, expected, hpend, hexp, htail⟩
  · have hsame := beforeRead_sameResult s
    have h₁ : s.beforeRead.bufferFailed = true ∨ Settled stops frames s.beforeRead :=
      h.imp hsame.bufferFailed.trans hsame.settled
    obtain ⟨t, hrun, hinv, hfailed⟩ :=
      readAndProcess_stopped (hsame.mFatalError.trans hfatal) h₁ s.mInputChunk.getTailSize call
    exact ⟨t, hrun, hinv, fun hroom => (hfailed hroom).trans hsame.bufferFailed⟩
  have hbefore : s.beforeRead = s := if_neg (by omega)
  rw [hbefore]
  cases call with
  | error =>
    have hset := settled_of_expects hframes hpend hexp
    simp only [readAndProcess]
    exact makeRoom_stopped rfl (.inr hset)
  | read count =>
    simp only [readAndProcess]
    split
    · -- nothing read: the session goes on waiting
      refine ⟨_, rfl, .inr ⟨rest, expected, hpend.checkBufferSize 0,
        hexp.checkBufferSize 0, ?_⟩, fun _ => (checkBufferSize_zero_sameResult s).bufferFailed⟩
      exact Nat.lt_of_lt_of_le htail (checkBufferSize_zero s.mInputChunk).2
    · obtain ⟨expected', t, hrun, hsame, hout⟩ := onInputReady_pending hframes (hpend.readStream _)
      rw [hrun, bind_some]
      have hend : ∃ u, t.makeRoom stops expected' = some u ∧ GoodEnd stops frames t u := by
        rcases hout with ⟨rest', hpend', hexp'⟩ | ⟨hstop, rfl⟩
        · exact makeRoom_pending hpend' hexp'
        · exact makeRoom_stopped hstop.1 (.inr (settled_of_stopped hstop))
      obtain ⟨u, hu, hinv, hfailed⟩ := hend
      exact ⟨u, hu, hinv, fun hroom => (hfailed hroom).trans hsame⟩

/-! ## §5. Every way of cutting the stream. -/

theorem recvInv_start (frames : List (List UInt8)) :
    RecvInv stops frames (start frames.flatten) := by
  right
  refine ⟨frames, mPrefixSize, ⟨rfl, ?_, ?_, trivial, rfl, ?_⟩, ⟨?_, ?_⟩, ?_⟩
  · simp [start, contents_allocated]
  · simp [start, contents_allocated]
  · intro hpay
    simp [start] at hpay
  · unfold mPrefixSize
    omega
  · left
    simp [start, contents_allocated]
  · show 0 < mDefaultInputChunkSize - 0 - 0
    unfold mDefaultInputChunkSize
    omega

/-- Whole runs: every call returns, the invariant holds, and the buffer does not fail if
every frame has room. -/
theorem run_processInput (hframes : ∀ f ∈ frames, IsStreamFrame f) (calls : List ReadCall) :
    ∃ s, run (processInput stops) (start frames.flatten) calls = some s
      ∧ RecvInv stops frames s ∧ ((∀ f ∈ frames, RoomFor f) → s.bufferFailed = false) := by
  have hstep : ∀ s call, (RecvInv stops frames s
        ∧ ((∀ f ∈ frames, RoomFor f) → s.bufferFailed = false)) →
      ∃ t, processInput stops s call = some t ∧ RecvInv stops frames t
        ∧ ((∀ f ∈ frames, RoomFor f) → t.bufferFailed = false) := by
    rintro s call ⟨hinv, hfailed⟩
    obtain ⟨t, hrun, hinv', hsame⟩ := processInput_inv hframes hinv call
    exact ⟨t, hrun, hinv', fun hroom => (hsame hroom).trans (hfailed hroom)⟩
  exact run_total hstep calls _ ⟨recvInv_start frames, fun _ => rfl⟩

/-- What the invariant says of a session whose buffer has not failed. -/
theorem RecvInv.settled (hframes : ∀ f ∈ frames, IsStreamFrame f) {s : RecvState}
    (h : RecvInv stops frames s) (hfailed : s.bufferFailed = false) :
    Settled stops frames s ∧ (s.mFatalError = false → 0 < s.mInputChunk.getTailSize) := by
  rcases h with ⟨hfatal, h⟩ | ⟨rest, expected, hpend, hexp, htail⟩
  · refine ⟨h.resolve_left (by simp [hfailed]), ?_⟩
    simp [hfatal]
  · exact ⟨settled_of_expects hframes hpend hexp, fun _ => htail⟩

end Loop

/-- **Lossless reassembly**: however the stream is cut into reads, every call returns, and
as long as `checkBufferSize` does not fail, the processed frames are the complete frames
of the bytes read, in order and byte for byte, up to and including the first one whose
processing sets `fatalError`; a session without `fatalError` has free tail to read into.
Once everything is read and nothing stops the session, that is every frame.  Frames for
which the buffer has room never make `checkBufferSize` fail. -/
theorem processed_complete_frames (stops : List (List UInt8) → Bool)
    (frames : List (List UInt8)) (hframes : ∀ f ∈ frames, IsStreamFrame f)
    (calls : List ReadCall) :
    ∃ s, run (processInput stops) (RecvState.start frames.flatten) calls = some s
      ∧ (s.bufferFailed = false →
          s.received <+: frames.flatten
            ∧ s.processed = upToStop stops [] (within frames s.received.length)
            ∧ (s.mFatalError = false → 0 < s.mInputChunk.getTailSize)
            ∧ (s.received = frames.flatten → NoStop stops [] frames → s.processed = frames))
      ∧ ((∀ f ∈ frames, RoomFor f) → s.bufferFailed = false) := by
  obtain ⟨s, hrun, hinv, hroom⟩ := run_processInput hframes calls
  refine ⟨s, hrun, fun hfailed => ?_, hroom⟩
  obtain ⟨⟨hproc, hinit⟩, htail⟩ := hinv.settled hframes hfailed
  refine ⟨hinit, hproc, htail, fun hall hno => ?_⟩
  rw [hproc, hall, within_all, upToStop_of_noStop hno]

theorem isStreamFrame_iff (bytes : List UInt8) :
    IsStreamFrame bytes ↔ mPrefixSize ≤ bytes.length
      ∧ bytes.length = (deserialize bytes).mTotalLength.toNat
      ∧ bytes.length ≤ mMaxInputChunkSize :=
  ⟨fun h => ⟨h.prefix_le, h.complete, h.small⟩, fun ⟨h₁, h₂, h₃⟩ => ⟨h₁, h₂, h₃⟩⟩

instance (bytes : List UInt8) : Decidable (IsStreamFrame bytes) :=
  decidable_of_iff' _ (isStreamFrame_iff bytes)

instance (f : List UInt8) : Decidable (RoomFor f) := inferInstanceAs (Decidable (_ ≤ _))

/-- Two frames without head, cut in the middle of the first prefix: both are processed. -/
theorem processed_complete_frames_two :
    ∃ s, run (processInput fun _ => false)
          (RecvState.start [8, 0, 0, 0, 0, 0, 0, 0, 8, 0, 0, 0, 0, 0, 0, 0])
          [.read 3, .read 100] = some s
      ∧ s.bufferFailed = false
      ∧ s.processed = upToStop (fun _ => false) []
          (within [[8, 0, 0, 0, 0, 0, 0, 0], [8, 0, 0, 0, 0, 0, 0, 0]] s.received.length)
      ∧ (s.mFatalError = false → 0 < s.mInputChunk.getTailSize) := by
  obtain ⟨s, hrun, hgood, hroom⟩ := processed_complete_frames (fun _ => false)
    [[8, 0, 0, 0, 0, 0, 0, 0], [8, 0, 0, 0, 0, 0, 0, 0]] (by decide) [.read 3, .read 100]
  have hfailed := hroom (by decide)
  obtain ⟨-, hproc, htail, -⟩ := hgood hfailed
  exact ⟨s, hrun, hfailed, hproc, htail⟩

/-- The bytes as a received frame. -/
def frameOf? (bytes : List UInt8) : Option ReceivedFrame :=
  if h : mPrefixSize ≤ bytes.length
      ∧ prefixAccepted (CFdbMsgPrefix.deserialize bytes) = true
      ∧ bytes.length = (CFdbMsgPrefix.deserialize bytes).mTotalLength.toNat then
    some ⟨bytes, h.1, h.2.1, h.2.2⟩
  else none

/-- The session as it is: it stops at a frame that `processPayload` rejects. -/
def stopsAtRejected (env : Dispatch) (frames : List (List UInt8)) : Bool :=
  match frames.getLast?.bind frameOf? with
  | some f => processPayload env f == some .rejected
  | none => false

/-- A stream of two frames whose heads are one byte long and do not decode: the first one
sets `fatalError`, and the second one is never processed, though all bytes were read. -/
theorem second_frame_skipped :
    (∀ f ∈ [[9, 0, 0, 0, 1, 0, 0, 0, 1], [9, 0, 0, 0, 1, 0, 0, 0, 2]], IsStreamFrame f)
      ∧ ((run (processInput (stopsAtRejected openEndpoint))
          (RecvState.start [9, 0, 0, 0, 1, 0, 0, 0, 1, 9, 0, 0, 0, 1, 0, 0, 0, 2])
          [.read 18]).map fun s => (s.received.length, s.bufferFailed, s.processed))
        = some (18, false, [[9, 0, 0, 0, 1, 0, 0, 0, 1]]) := by
  decide +kernel

end Fdbus.Session

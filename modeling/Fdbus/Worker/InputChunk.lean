/-
  Fdbus.Worker.InputChunk — `CSysFdWatch::CInputDataChunk`, the asynchronous input buffer.

  The buffer holds the bytes read and not yet taken in `[mOffset, mOffset + mConsumed)`.
  Reading appends behind them, `extractData` takes from their front, and
  `checkBufferSize` moves them to the front of the buffer or enlarges it so that the
  bytes still expected have room.

  Memory is modelled as it is: `memcpy` (taken as `memmove`), `realloc` and the write of
  `readStream` act on the byte list `mBuffer`.  What the callers need of it is
  `contents`, the held bytes:

    * `contents_store`, `extractData_ok`, `contents_checkBufferSize` — the operations on it,
    * `checkBufferSize_room` — a successful check leaves room for the expected bytes,
    * `checkBufferSize_succeeds` — a bound under which the check cannot fail,
    * `Ledger` — what was read, extracted and made room for, counted over the calls alone,
    * `compaction_defined_iff` — by these counts, where the held bytes are and when `memcpy` is not
      given overlapping ranges.
-/
import Fdbus.Library.Run

namespace Fdbus.Worker

open List

/-! ## §1. The buffer. -/

/-- `mDefaultInputChunkSize`. -/
def mDefaultInputChunkSize : Nat := 2 ^ 15 - 0xbad

/-- `mMaxInputChunkSize`. -/
def mMaxInputChunkSize : Nat := mDefaultInputChunkSize * 2 ^ 15

/-- `CInputDataChunk` with an allocated buffer. -/
structure CInputDataChunk where
  mBuffer : List UInt8
  mSize : Nat
  mOffset : Nat
  mConsumed : Nat
  size_eq : mBuffer.length = mSize
  inBounds : mOffset + mConsumed ≤ mSize
  default_le : mDefaultInputChunkSize ≤ mSize

/-- `getTailSize()`. -/
def CInputDataChunk.getTailSize (c : CInputDataChunk) : Nat := c.mSize - c.mOffset - c.mConsumed

/-- `getExpectedSize(target_size)`. -/
def CInputDataChunk.getExpectedSize (c : CInputDataChunk) (target : Nat) : Nat :=
  if target > c.mConsumed then target - c.mConsumed else 0

/-- The memory from `getBufferHead()` on. -/
def CInputDataChunk.fromHead (c : CInputDataChunk) : List UInt8 := c.mBuffer.drop c.mOffset

/-- The bytes read and not yet taken. -/
def CInputDataChunk.contents (c : CInputDataChunk) : List UInt8 := c.fromHead.take c.mConsumed

/-- `checkBufferSize(0)` on a watch without buffer, as `enable(true)` calls it: a buffer
of the default size. -/
def CInputDataChunk.allocated : CInputDataChunk where
  mBuffer := List.replicate mDefaultInputChunkSize 0
  mSize := mDefaultInputChunkSize
  mOffset := 0
  mConsumed := 0
  size_eq := List.length_replicate
  inBounds := Nat.zero_le _
  default_le := Nat.le_refl _

/-- `readStream(getBufferTail(), tail_size)` has delivered `bytes`, and `mConsumed` counts
them; no more than the tail is ever asked for. -/
def CInputDataChunk.store (c : CInputDataChunk) (bytes : List UInt8)
    (h : bytes.length ≤ c.getTailSize) : CInputDataChunk where
  mBuffer := c.mBuffer.take (c.mOffset + c.mConsumed) ++ bytes
    ++ c.mBuffer.drop (c.mOffset + c.mConsumed + bytes.length)
  mSize := c.mSize
  mOffset := c.mOffset
  mConsumed := c.mConsumed + bytes.length
  size_eq := by
    have h₁ := c.size_eq
    have h₂ := c.inBounds
    unfold CInputDataChunk.getTailSize at h
    simp only [List.length_append, List.length_take, List.length_drop]
    omega
  inBounds := by
    have h₂ := c.inBounds
    unfold CInputDataChunk.getTailSize at h
    omega
  default_le := c.default_le

/-- `mOffset += size; mConsumed -= size`. -/
def CInputDataChunk.advance (c : CInputDataChunk) (size : Nat) (h : size ≤ c.mConsumed) :
    CInputDataChunk :=
  { c with
    mOffset := c.mOffset + size
    mConsumed := c.mConsumed - size
    inBounds := by
      have := c.inBounds
      omega }

/-- `extractData(output, size)`: the number of bytes that are missing, or the bytes taken
and the buffer without them. -/
def CInputDataChunk.extractData (c : CInputDataChunk) (size : Nat) :
    Except Nat (List UInt8 × CInputDataChunk) :=
  if h : size > c.mConsumed then .error (size - c.mConsumed)
  else .ok (c.fromHead.take size, c.advance size (Nat.le_of_not_gt h))

/-! ## §2. `checkBufferSize`. -/

/-- `memcpy(mBuffer, mBuffer + mOffset, mConsumed); mOffset = 0`. -/
def CInputDataChunk.moveToFront (c : CInputDataChunk) : CInputDataChunk where
  mBuffer := c.contents ++ c.mBuffer.drop c.mConsumed
  mSize := c.mSize
  mOffset := 0
  mConsumed := c.mConsumed
  size_eq := by
    have h₁ := c.size_eq
    have h₂ := c.inBounds
    simp only [CInputDataChunk.contents, CInputDataChunk.fromHead, List.length_append,
      List.length_take, List.length_drop]
    omega
  inBounds := by
    have := c.inBounds
    omega
  default_le := c.default_le

/-- The first half of `checkBufferSize`: make room without allocating. -/
def CInputDataChunk.compact (c : CInputDataChunk) (expected : Nat) : CInputDataChunk :=
  if h : c.mConsumed ≠ 0 then
    if c.getTailSize < expected ∧ c.mOffset ≠ 0 then c.moveToFront else c
  else { c with
    mOffset := 0
    inBounds := by
      have := c.inBounds
      omega }

/-- `realloc(mBuffer, mSize + extra)`. -/
def CInputDataChunk.expand (c : CInputDataChunk) (extra : Nat) : CInputDataChunk where
  mBuffer := c.mBuffer ++ List.replicate extra 0
  mSize := c.mSize + extra
  mOffset := c.mOffset
  mConsumed := c.mConsumed
  size_eq := by
    rw [List.length_append, List.length_replicate, c.size_eq]
  inBounds := by
    have := c.inBounds
    omega
  default_le := by
    have := c.default_le
    omega

/-- The second half: enlarge the buffer when the tail is still too small. -/
def CInputDataChunk.enlarge (c : CInputDataChunk) (expected : Nat) : Bool × CInputDataChunk :=
  if c.getTailSize < expected then
    if c.mSize + max expected mDefaultInputChunkSize > mMaxInputChunkSize then (false, c)
    else (true, c.expand (max expected mDefaultInputChunkSize))
  else (true, c)

/-- `checkBufferSize(size_expected)` on an allocated buffer: the returned flag, and the
buffer afterwards. -/
def CInputDataChunk.checkBufferSize (c : CInputDataChunk) (expected : Nat) :
    Bool × CInputDataChunk :=
  if expected > mMaxInputChunkSize then (false, c) else (c.compact expected).enlarge expected

/-! ## §3. The held bytes under the operations. -/

variable (c : CInputDataChunk) (expected : Nat)

open CInputDataChunk
open Fdbus.Run

theorem length_contents : c.contents.length = c.mConsumed := by
  have h₁ := c.size_eq
  have h₂ := c.inBounds
  simp only [contents, fromHead, length_take,
    length_drop]
  omega

/-- The held bytes lie at `getBufferHead()`. -/
theorem fromHead_eq : c.fromHead = c.contents ++ c.fromHead.drop c.mConsumed :=
  (take_append_drop c.mConsumed c.fromHead).symm

theorem contents_allocated : allocated.contents = [] := by
  simp [contents, allocated]

/-- Reading appends. -/
theorem contents_store (bytes : List UInt8)
    (h : bytes.length ≤ c.getTailSize) : (c.store bytes h).contents = c.contents ++ bytes := by
  have h₁ := c.size_eq
  have h₂ := c.inBounds
  have hlen : (c.mBuffer.take (c.mOffset + c.mConsumed)).length = c.mOffset + c.mConsumed := by
    rw [length_take]
    omega
  have hfront : (c.mBuffer.take (c.mOffset + c.mConsumed)).drop c.mOffset = c.contents := by
    rw [drop_take, Nat.add_sub_cancel_left]
    rfl
  show ((c.mBuffer.take (c.mOffset + c.mConsumed) ++ bytes ++ _).drop c.mOffset).take
    (c.mConsumed + bytes.length) = _
  rw [append_assoc, drop_append_of_le_length (by omega), hfront, ← append_assoc]
  exact take_left' (by rw [length_append, length_contents])

/-- Too few bytes: what is missing. -/
theorem extractData_error {c : CInputDataChunk} {size : Nat} (h : c.contents.length < size) :
    c.extractData size = .error (size - c.contents.length) := by
  rw [length_contents] at h ⊢
  unfold extractData
  rw [dif_pos h]

/-- Enough bytes: they are taken from the front. -/
theorem extractData_ok {c : CInputDataChunk} {size : Nat} (h : size ≤ c.contents.length) :
    ∃ c', c.extractData size = .ok (c.contents.take size, c')
      ∧ c'.contents = c.contents.drop size ∧ c'.mSize = c.mSize := by
  rw [length_contents] at h
  have hnot : ¬ size > c.mConsumed := by omega
  refine ⟨c.advance size h, ?_, ?_, rfl⟩
  · unfold extractData contents
    rw [dif_neg hnot, take_take, Nat.min_eq_left h]
  · show ((c.mBuffer.drop (c.mOffset + size)).take (c.mConsumed - size)) = _
    unfold contents fromHead
    rw [drop_take, drop_drop]

theorem contents_moveToFront : c.moveToFront.contents = c.contents := by
  show ((c.contents ++ c.mBuffer.drop c.mConsumed).drop 0).take c.mConsumed = _
  exact take_left' (length_contents c)

theorem contents_compact : (c.compact expected).contents = c.contents := by
  unfold compact
  by_cases hc : c.mConsumed ≠ 0
  · rw [dif_pos hc]
    split
    · exact contents_moveToFront c
    · rfl
  · simp only [ne_eq, not_not] at hc
    simp [contents, hc]

theorem contents_expand (extra : Nat) : (c.expand extra).contents = c.contents := by
  have h₁ := c.size_eq
  have h₂ := c.inBounds
  show ((c.mBuffer ++ replicate extra 0).drop c.mOffset).take c.mConsumed = _
  rw [drop_append_of_le_length (by omega), take_append_of_le_length]
  · rfl
  · rw [length_drop]
    omega

theorem contents_enlarge : (c.enlarge expected).2.contents = c.contents := by
  unfold enlarge
  split
  · split
    · rfl
    · exact contents_expand c _
  · rfl

/-- **The check never touches the held bytes**, whether it succeeds or not. -/
theorem contents_checkBufferSize : (c.checkBufferSize expected).2.contents = c.contents := by
  unfold checkBufferSize
  split
  · rfl
  · rw [contents_enlarge, contents_compact]

/-! ## §4. Room for what is expected. -/

theorem enlarge_room {c : CInputDataChunk} {expected : Nat}
    (h : (c.enlarge expected).1 = true) : expected ≤ (c.enlarge expected).2.getTailSize := by
  have hin := c.inBounds
  unfold enlarge at h ⊢
  split
  · next hlt =>
      rw [if_pos hlt] at h
      split
      · next hbig => simp [if_pos hbig] at h
      · unfold getTailSize expand at *
        simp only
        omega
  · next hge => exact Nat.le_of_not_lt hge

/-- **After a successful check the expected bytes have room.** -/
theorem checkBufferSize_room {c : CInputDataChunk} {expected : Nat}
    (h : (c.checkBufferSize expected).1 = true) :
    expected ≤ (c.checkBufferSize expected).2.getTailSize := by
  unfold checkBufferSize at h ⊢
  split
  · next hbig => simp [if_pos hbig] at h
  · next hbig =>
      rw [if_neg hbig] at h
      exact enlarge_room h

/-- A check for nothing succeeds and takes no room away. -/
theorem checkBufferSize_zero :
    (c.checkBufferSize 0).1 = true ∧ c.getTailSize ≤ (c.checkBufferSize 0).2.getTailSize := by
  unfold checkBufferSize enlarge compact
  by_cases hc : c.mConsumed ≠ 0
  · simp [hc]
  · simp only [ne_eq, not_not] at hc
    simp [hc, getTailSize]

/-- After compaction the tail is all of the buffer that is not held, if it was too small. -/
theorem getTailSize_compact :
    expected ≤ (c.compact expected).getTailSize
      ∨ (c.compact expected).getTailSize = c.mSize - c.mConsumed := by
  unfold compact
  by_cases hc : c.mConsumed ≠ 0
  · rw [dif_pos hc]
    split
    · right
      rfl
    · next h =>
        by_cases htail : c.getTailSize < expected
        · right
          have hoff : c.mOffset = 0 := by
            by_contra hoff
            exact h ⟨htail, hoff⟩
          simp [getTailSize, hoff]
        · left
          omega
  · rw [dif_neg hc]
    right
    simp [getTailSize]

theorem mSize_compact : (c.compact expected).mSize = c.mSize := by
  unfold compact
  split
  · split <;> rfl
  · rfl

/-- **When the check cannot fail**: `total` is the size of the frame (or prefix) the held
bytes belong to, and a buffer too small for it can still be enlarged. -/
theorem checkBufferSize_succeeds {c : CInputDataChunk} {expected : Nat} (total : Nat)
    (htotal : c.mConsumed + expected ≤ total)
    (hmax : total - 1 + max expected mDefaultInputChunkSize ≤ mMaxInputChunkSize) :
    (c.checkBufferSize expected).1 = true := by
  unfold checkBufferSize
  by_cases hz : expected = 0
  · subst hz
    exact (checkBufferSize_zero c).1
  rw [if_neg (by omega)]
  unfold enlarge
  rw [mSize_compact]
  split
  · next hlt =>
      -- the held bytes and the expected ones do not fit, so the buffer is below `total`
      have htail := getTailSize_compact c expected
      rw [if_neg (by omega)]
  · rfl

/-! ## §5. Moves within the buffer. -/

/-- What `memcpy(mBuffer, mBuffer + source, size)` is called with. -/
structure Move where
  source : Nat
  size : Nat
  deriving DecidableEq

/-- `memcpy` is defined: the bytes that are read and those that are written do not overlap. -/
def Move.Defined (m : Move) : Prop :=
  Disjoint (Set.Ico m.source (m.source + m.size)) (Set.Ico 0 m.size)

/-- The calls of `memcpy` in `checkBufferSize(size_expected)`. -/
def CInputDataChunk.moves (c : CInputDataChunk) (expected : Nat) : List Move :=
  if expected ≤ mMaxInputChunkSize ∧ c.mConsumed ≠ 0 ∧ c.getTailSize < expected ∧ c.mOffset ≠ 0 then
    [⟨c.mOffset, c.mConsumed⟩]
  else []

/-- `checkBufferSize(size_expected)` without a buffer. -/
def CInputDataChunk.malloc (expected : Nat) : Option CInputDataChunk :=
  let extra := if mDefaultInputChunkSize < expected then expected else 0
  if mDefaultInputChunkSize + extra > mMaxInputChunkSize then none
  else some (CInputDataChunk.allocated.expand extra)

/-- The input of a watch: its buffer, and the moves so far. -/
structure InputState where
  mInputChunk : Option CInputDataChunk
  moved : List Move

/-- What is done with the buffer.  A negative size expected is one that is there. -/
inductive InputEvent where
  | read (bytes : List UInt8)
  | extractData (size : Nat)
  | checkBufferSize (expected : Int)

def InputState.step (s : InputState) : InputEvent → Option InputState
  | .read bytes =>
    match s.mInputChunk with
    -- `processInput` calls `onInput` instead
    | none => none
    | some c =>
      if h : bytes.length ≤ c.getTailSize then some ⟨c.store bytes h, s.moved⟩ else none
  | .extractData size =>
    match s.mInputChunk with
    | none => some s
    | some c =>
      match c.extractData size with
      | .error _ => some s
      | .ok (_, c') => some ⟨c', s.moved⟩
  | .checkBufferSize expected =>
    match s.mInputChunk with
    | none => some ⟨CInputDataChunk.malloc expected.toNat, s.moved⟩
    | some c => some ⟨(c.checkBufferSize expected.toNat).2, s.moved ++ c.moves expected.toNat⟩

/-- What a sequence of calls comes to, in positions of the stream: `size` is that of the buffer (0
without one), `front` the position of its first byte, `taken` counts the bytes that were extracted
and `read` those that were read. -/
structure Ledger where
  size : Nat := 0
  front : Nat := 0
  taken : Nat := 0
  read : Nat := 0

/-- From the front of the buffer on, there is no room for what was read and what is expected. -/
def Ledger.Short (l : Ledger) (expected : Nat) : Prop := l.size < l.read - l.front + expected

instance (l : Ledger) (expected : Nat) : Decidable (l.Short expected) :=
  inferInstanceAs (Decidable (_ < _))

/-- A check gives up what was extracted if nothing else was read, or if the buffer is too short. -/
def Ledger.clear (l : Ledger) (expected : Nat) : Ledger :=
  if l.taken = l.read ∨ l.Short expected then { l with front := l.taken } else l

/-- Then it takes more room, within the maximum, if the buffer is still too short. -/
def Ledger.grow (l : Ledger) (expected : Nat) : Ledger :=
  if l.Short expected ∧ l.size + max expected mDefaultInputChunkSize ≤ mMaxInputChunkSize then
    { l with size := l.size + max expected mDefaultInputChunkSize }
  else l

/-- A check without a buffer. -/
def Ledger.allocate (l : Ledger) (expected : Nat) : Ledger :=
  let size := mDefaultInputChunkSize + if mDefaultInputChunkSize < expected then expected else 0
  if size > mMaxInputChunkSize then l else { l with size := size }

/-- One more call. -/
def Ledger.after (l : Ledger) : InputEvent → Ledger
  | .read bytes => { l with read := l.read + bytes.length }
  | .extractData size => if l.taken + size ≤ l.read then { l with taken := l.taken + size } else l
  | .checkBufferSize expected =>
    if l.size = 0 then l.allocate expected.toNat
    else if expected.toNat > mMaxInputChunkSize then l
    else (l.clear expected.toNat).grow expected.toNat

/-- The ledger of a sequence of calls. -/
def Ledger.of (events : List InputEvent) : Ledger := events.foldl Ledger.after {}

/-- The buffer is the one of the ledger: it holds what was read and not extracted, behind what was
extracted since the front. -/
def Ledger.Describes (l : Ledger) : Option CInputDataChunk → Prop
  | none => l = {}
  | some c => c.mSize = l.size ∧ l.front + c.mOffset = l.taken ∧ l.taken + c.mConsumed = l.read

/-- If a check finds the buffer too short, and bytes were extracted since the front, they are at
least as many as were read and not extracted. -/
def Ledger.Apart (l : Ledger) : InputEvent → Prop
  | .checkBufferSize expected =>
    l.size ≠ 0 → expected.toNat ≤ mMaxInputChunkSize → l.Short expected.toNat → l.front < l.taken →
      l.read - l.taken ≤ l.taken - l.front
  | _ => True

instance (l : Ledger) : ∀ e, Decidable (l.Apart e)
  | .checkBufferSize _ => inferInstanceAs (Decidable (_ → _ → _ → _ → _))
  | .read _ | .extractData _ => isTrue trivial

/-- That is so at every check, as the ledger goes on. -/
def ChecksApart (l : Ledger) (events : List InputEvent) : Prop :=
  Along (fun l e => some (l.after e)) Ledger.Apart l events

instance (l : Ledger) (events : List InputEvent) : Decidable (ChecksApart l events) :=
  Along.decidable events l

theorem Move.defined_iff (m : Move) : m.Defined ↔ m.size ≤ m.source := by
  unfold Move.Defined
  rw [Set.Ico_disjoint_Ico]
  omega

section Ledger

variable {l : Ledger} {expected : Nat}

theorem Ledger.Describes.size_ne {c : CInputDataChunk} (h : l.Describes (some c)) : l.size ≠ 0 := by
  have hpos : 0 < mDefaultInputChunkSize := by decide
  have hsize := h.1
  have hle := c.default_le
  omega

/-- The tail is what is left behind the bytes that were read. -/
theorem Ledger.Describes.short_iff {c : CInputDataChunk} (h : l.Describes (some c))
    (expected : Nat) :
    l.Short expected ↔ c.getTailSize < expected := by
  obtain ⟨hsize, hfront, hread⟩ := h
  have hin := c.inBounds
  unfold Short getTailSize
  omega

theorem Ledger.Describes.moves_iff {c : CInputDataChunk} (h : l.Describes (some c)) (n : Int) :
    (∀ m ∈ c.moves n.toNat, m.Defined) ↔ l.Apart (.checkBufferSize n) := by
  have hne := h.size_ne
  have hshort := h.short_iff n.toNat
  obtain ⟨-, hfront, hread⟩ := h
  simp only [moves, Apart, hshort]
  split
  · rename_i hmove
    obtain ⟨hmax, -, htail, hoffset⟩ := hmove
    rw [forall_mem_singleton, Move.defined_iff]
    show c.mConsumed ≤ c.mOffset ↔ _
    omega
  · rename_i hstay
    refine ⟨fun _ _ hmax htail htaken => ?_, fun _ => nofun⟩
    omega

theorem Ledger.Describes.clear {c : CInputDataChunk} (h : l.Describes (some c)) :
    (l.clear expected).Describes (some (c.compact expected)) := by
  have hshort := h.short_iff expected
  obtain ⟨hsize, hfront, hread⟩ := h
  unfold Ledger.clear compact
  by_cases hheld : c.mConsumed ≠ 0
  · rw [dif_pos hheld]
    by_cases htail : c.getTailSize < expected
    · rw [if_pos (.inr (hshort.mpr htail))]
      by_cases hoffset : c.mOffset = 0
      · -- there is nothing to give up: the front is where it was
        rw [if_neg fun hmove => hmove.2 hoffset]
        exact ⟨hsize, by simp [hoffset], hread⟩
      · rw [if_pos ⟨htail, hoffset⟩]
        exact ⟨hsize, rfl, hread⟩
    · rw [if_neg (by rw [hshort]; omega), if_neg fun hmove => htail hmove.1]
      exact ⟨hsize, hfront, hread⟩
  · rw [dif_neg hheld, if_pos (.inl (by omega))]
    exact ⟨hsize, rfl, hread⟩

theorem Ledger.Describes.grow {c : CInputDataChunk} (h : l.Describes (some c)) :
    (l.grow expected).Describes (some (c.enlarge expected).2) := by
  have hshort := h.short_iff expected
  obtain ⟨hsize, hfront, hread⟩ := h
  unfold Ledger.grow enlarge
  rw [← hsize]
  by_cases htail : c.getTailSize < expected
  · rw [if_pos htail]
    by_cases hmax : c.mSize + max expected mDefaultInputChunkSize > mMaxInputChunkSize
    · rw [if_pos hmax, if_neg fun hmore => absurd hmore.2 (Nat.not_le.mpr hmax)]
      exact ⟨hsize, hfront, hread⟩
    · rw [if_neg hmax, if_pos ⟨hshort.mpr htail, Nat.not_lt.mp hmax⟩]
      exact ⟨rfl, hfront, hread⟩
  · rw [if_neg htail, if_neg fun hmore => htail (hshort.mp hmore.1)]
    exact ⟨hsize, hfront, hread⟩

theorem Ledger.Describes.allocate : (Ledger.allocate {} expected).Describes (malloc expected) := by
  unfold Ledger.allocate malloc
  generalize (if mDefaultInputChunkSize < expected then expected else 0) = extra
  by_cases hmax : mDefaultInputChunkSize + extra > mMaxInputChunkSize
  · rw [if_pos hmax, if_pos hmax]
    rfl
  · rw [if_neg hmax, if_neg hmax]
    exact ⟨rfl, rfl, rfl⟩

/-- **What a call does**: the ledger goes on describing the buffer, and the moves stay defined
exactly if the check, if it is one, is apart. -/
theorem Ledger.Describes.step {s t : InputState} {e : InputEvent} (h : l.Describes s.mInputChunk)
    (hstep : s.step e = some t) :
    (l.after e).Describes t.mInputChunk
      ∧ ((∀ m ∈ t.moved, m.Defined) ↔ (∀ m ∈ s.moved, m.Defined) ∧ l.Apart e) := by
  obtain ⟨chunk, moved⟩ := s
  cases e with
  | read bytes =>
    cases chunk with
    | none => cases hstep
    | some c =>
      simp only [InputState.step, Option.dite_none_right_eq_some] at hstep
      obtain ⟨_, hstep⟩ := hstep
      cases hstep
      obtain ⟨hsize, hfront, hread⟩ := h
      refine ⟨⟨hsize, hfront, ?_⟩, (and_iff_left trivial).symm⟩
      show l.taken + (c.mConsumed + bytes.length) = l.read + bytes.length
      omega
  | extractData size =>
    cases chunk with
    | none =>
      cases hstep
      refine ⟨?_, (and_iff_left trivial).symm⟩
      subst h
      show (if 0 + size ≤ 0 then _ else _) = _
      split
      · rename_i hzero
        simp only [Nat.zero_add, Nat.le_zero] at hzero
        subst hzero
        rfl
      · rfl
    | some c =>
      obtain ⟨hsize, hfront, hread⟩ := h
      simp only [InputState.step, extractData] at hstep
      simp only [Ledger.after]
      by_cases hmissing : size > c.mConsumed
      · rw [dif_pos hmissing] at hstep
        cases hstep
        rw [if_neg (by omega)]
        exact ⟨⟨hsize, hfront, hread⟩, (and_iff_left trivial).symm⟩
      · rw [dif_neg hmissing] at hstep
        cases hstep
        rw [if_pos (by omega)]
        refine ⟨⟨hsize, ?_, ?_⟩, (and_iff_left trivial).symm⟩
        · show l.front + (c.mOffset + size) = l.taken + size
          omega
        · show l.taken + size + (c.mConsumed - size) = l.read
          omega
  | checkBufferSize expected =>
    cases chunk with
    | none =>
      cases hstep
      subst h
      refine ⟨Ledger.Describes.allocate, ?_⟩
      simp [Ledger.Apart]
    | some c =>
      cases hstep
      simp only [Ledger.after, checkBufferSize, if_neg h.size_ne]
      refine ⟨?_, ?_⟩
      · split
        · exact h
        · exact h.clear.grow
      · simp only [forall_mem_append, h.moves_iff]

/-- And so does a sequence of calls. -/
theorem Ledger.Describes.run {t : InputState} {events : List InputEvent} :
    ∀ {l : Ledger} {s : InputState}, l.Describes s.mInputChunk →
      run InputState.step s events = some t →
      (events.foldl Ledger.after l).Describes t.mInputChunk
        ∧ ((∀ m ∈ t.moved, m.Defined) ↔ (∀ m ∈ s.moved, m.Defined) ∧ ChecksApart l events) := by
  induction events with
  | nil =>
    intro l s h hrun
    cases hrun
    exact ⟨h, (and_iff_left trivial).symm⟩
  | cons e events ih =>
    intro l s h hrun
    obtain ⟨s', hstep, hrun⟩ := run_cons_some hrun
    obtain ⟨hnext, hmoved⟩ := h.step hstep
    obtain ⟨hlast, hiff⟩ := ih hnext hrun
    refine ⟨hlast, ?_⟩
    rw [hiff, hmoved, and_assoc]
    exact and_congr_right fun _ => along_cons_of_some rfl

end Ledger

/-- **When compaction is defined.**  After every sequence of calls the buffer is the one that the
ledger of the calls describes, and `memcpy` was never given overlapping ranges exactly if every
check found the bytes apart. -/
theorem compaction_defined_iff {events : List InputEvent} {t : InputState}
    (hrun : run InputState.step ⟨none, []⟩ events = some t) :
    (Ledger.of events).Describes t.mInputChunk
      ∧ ((∀ m ∈ t.moved, m.Defined) ↔ ChecksApart {} events) := by
  obtain ⟨hdesc, hiff⟩ := Ledger.Describes.run (s := ⟨none, []⟩) (l := {}) rfl hrun
  exact ⟨hdesc, hiff.trans (and_iff_right nofun)⟩

/-- Three bytes, of which two are taken, so that the check moves one; then three bytes, of which
three are taken, so that the next check moves one again. -/
def apartCalls : List InputEvent :=
  [.checkBufferSize 0, .read [1, 2, 3], .extractData 2, .checkBufferSize 29779, .read [4, 5, 6],
    .extractData 3, .checkBufferSize 59558]

theorem compaction_defined_two :
    (run InputState.step ⟨none, []⟩ apartCalls).map (·.moved) = some [⟨2, 1⟩, ⟨3, 1⟩]
      ∧ ∀ t, run InputState.step ⟨none, []⟩ apartCalls = some t → ∀ m ∈ t.moved, m.Defined :=
  ⟨rfl, fun _ hrun => (compaction_defined_iff hrun).2.mpr (by decide)⟩

/-- Three bytes, of which one is taken: the two that are left are moved by one. -/
theorem compaction_overlaps :
    (run InputState.step ⟨none, []⟩ [.checkBufferSize 0, .read [1, 2, 3], .extractData 1,
        .checkBufferSize 29779]).map (·.moved) = some [⟨1, 2⟩]
      ∧ ¬ Move.Defined ⟨1, 2⟩ := by
  refine ⟨rfl, ?_⟩
  rw [Move.defined_iff]
  decide

end Fdbus.Worker

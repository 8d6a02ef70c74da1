/-
  Fdbus.Wire.ReadBounds — does a deserializer stay inside its buffer and its targets?

  The buffer has as many bytes as are declared.  Objects are read into: numbers, `bool`, strings,
  `CFdbByteArray`, `CFdbByteArrayExt`, arrays of them and classes made of them, new ones or ones
  that have been read into before.  Each of their readers is a program over five calls of the
  deserializer.  Positions and sizes are `int32_t`, and sums of them wrap.

    * `sound_iff` — a call reads and writes only what it may, and reports an error if the bytes do
      not suffice, exactly when it is `InBounds`,
    * `readAll_sound_iff` — so does any sequence of reads.

  What goes wrong otherwise: a size of 0 switches the checks off; `retrieveRawData` reports a short
  buffer to callers that do not look; the announced size of a byte array may be negative, or so
  large that the sum in the check wraps; memory that a `CFdbByteArrayExt` has from an earlier read
  may be too small.  Memory does not run out, and new memory is taken as 0.
-/
import Fdbus.Library.Program
import Fdbus.Wire.SimpleSerializer

namespace Fdbus.Wire

open Fdbus.LittleEndian List Option
open Fdbus.Calls

/-! ## §1. The calls of the deserializer. -/

/-- A deserializer before its first read, on a buffer of as many bytes as are declared. -/
structure DeclaredBuffer where
  bytes : List UInt8
  declared : bytes.length < 2 ^ 31

/-- `CFdbSimpleDeserializer(buffer, size)`. -/
def DeclaredBuffer.start (b : DeclaredBuffer) : CFdbSimpleDeserializer :=
  ⟨b.bytes, b.bytes.length, 0, false⟩

/-- The types of integers: of 8, 16, 32 and 64 bits, signed or not. -/
inductive ScalarSize where
  | one
  | two
  | four
  | eight

/-- `sizeof(T)`. -/
def ScalarSize.bytes : ScalarSize → Nat
  | .one => 1
  | .two => 2
  | .four => 4
  | .eight => 8

/-- What the readers ask of the deserializer. -/
inductive ReadCall where
  /-- `deserializeScalar(data)`. -/
  | scalar (size : ScalarSize) (data : Nat)
  /-- The part of `>> data` for a `std::string` behind the length. -/
  | chars (data : List UInt8) (len : BitVec 16)
  /-- `retrieveRawData(p_data, size)`, where `p_data` has so many bytes. -/
  | retrieveRawData (capacity : Nat) (size : BitVec 32)
  /-- `error(true)`. -/
  | raise
  /-- `error()`. -/
  | error

/-- The answers; `retrieveRawData` gives the bytes that were copied, or `none` for `false`. -/
@[reducible] def ReadCall.Answer : ReadCall → Type
  | .scalar _ _ => Nat
  | .chars _ _ => List UInt8
  | .retrieveRawData _ _ => Option (List UInt8)
  | .raise => Unit
  | .error => Bool

/-- The check `mSize && ((mPos + size) > mSize)`, with a sum of `int32_t`. -/
def CFdbSimpleDeserializer.refuses (d : CFdbSimpleDeserializer) (size : Int) : Prop :=
  d.mSize ≠ 0 ∧ int32 (d.mPos + size) > d.mSize

instance (d : CFdbSimpleDeserializer) (size : Int) : Decidable (d.refuses size) :=
  inferInstanceAs (Decidable (_ ∧ _))

/-- `deserializeScalar`, for a number of `size` bytes. -/
def scalarStep (size data : Nat) (d : CFdbSimpleDeserializer) :
    Option (Nat × CFdbSimpleDeserializer) :=
  if d.mError = true then some (data, d)
  else if d.refuses size then some (data, { d with mError := true })
  else if d.mPos + size ≤ d.mBuffer.length then
    some (leNat (d.bytesAt size), { d with mPos := d.mPos + size })
  else none

/-- The characters of a string; the last announced one has to be NUL. -/
def charsStep (data : List UInt8) (len : Nat) (d : CFdbSimpleDeserializer) :
    Option (List UInt8 × CFdbSimpleDeserializer) :=
  if d.mError = true ∨ len = 0 then some (data, d)
  else if d.refuses len then some (data, { d with mError := true })
  else
    -- `mBuffer[mPos + len - 1]` is read unchecked if `mSize` is 0
    match d.mBuffer[d.mPos + len - 1]? with
    | none => none
    | some last =>
      if last ≠ 0 then some (data, { d with mError := true })
      else some ((d.mBuffer.drop d.mPos).takeWhile (· != 0), { d with mPos := d.mPos + len })

/-- `retrieveRawData`; `memcpy` takes the size as a `size_t`. -/
def rawStep (capacity : Nat) (size : Int) (d : CFdbSimpleDeserializer) :
    Option (Option (List UInt8) × CFdbSimpleDeserializer) :=
  if d.refuses size then some (none, d) -- `mError` is not set
  else if 0 ≤ size ∧ size ≤ capacity ∧ d.mPos + size ≤ d.mBuffer.length then
    some (some (d.bytesAt size.toNat), { d with mPos := d.mPos + size.toNat })
  else none

/-- One call; `none` when a byte outside the buffer is read or one outside the target is written. -/
def readStep : (c : ReadCall) → CFdbSimpleDeserializer → Option (c.Answer × CFdbSimpleDeserializer)
  | .scalar size data, d => scalarStep size.bytes data d
  | .chars data len, d => charsStep data len.toNat d
  | .retrieveRawData capacity size, d => rawStep capacity size.toInt d
  | .raise, d => some ((), { d with mError := true })
  | .error, d => some (d.mError, d)

variable {d : CFdbSimpleDeserializer}

/-- While the sum does not wrap, the check is that of the message headers. -/
theorem refuses_iff {size : Nat} (h : d.mPos + size < 2 ^ 31) :
    d.refuses size ↔ d.exceeds size := by
  have hsum : int32 (d.mPos + (size : Int)) = d.mPos + size := int32_of_range (by omega) (by omega)
  unfold CFdbSimpleDeserializer.refuses CFdbSimpleDeserializer.exceeds
  rw [hsum]

/-- So a number is read as it is there. -/
theorem scalarStep_eq (size data : Nat) {d : CFdbSimpleDeserializer} (h : d.mPos + size < 2 ^ 31) :
    scalarStep size data d = deserializeScalar size data d := by
  simp only [scalarStep, deserializeScalar, refuses_iff h]

theorem charsStep_eq (data : List UInt8) {len : Nat} {d : CFdbSimpleDeserializer}
    (h : d.mPos + len < 2 ^ 31) : charsStep data len d = deserializeChars data len d := by
  refine if_congr Iff.rfl rfl ?_
  exact if_congr (refuses_iff h) rfl rfl

/-! ## §2. Objects and their readers. -/

/-- Calls of the deserializer, with a result. -/
abbrev Reader := Program ReadCall ReadCall.Answer

/-- An object that can be read into, with what it holds. -/
inductive Target where
  | scalar (size : ScalarSize) (data : Nat)
  | bool (data : Bool)
  | string (data : List UInt8)
  /-- `CFdbByteArray<SIZE>`; `SIZE` is the length of `mBuffer`. -/
  | byteArray (mSize : Int) (mBuffer : List UInt8)
  /-- `CFdbByteArrayExt`; `mVBuffer` is null in a new one. -/
  | byteArrayExt (mSize : Int) (mVBuffer : Option (List UInt8))
  /-- `CFdbParcelableArray`: a new element, the number of elements, and the elements. -/
  | array (fresh : Target) (size : Nat) (mPool : Nat → Target)
  /-- A class: its members in the order of `deserialize`. -/
  | nothing
  | record (first rest : Target)

/-- The memory after `memcpy` to its front. -/
def overwriteFront (memory : List UInt8) : Option (List UInt8) → List UInt8
  | none => memory
  | some bytes => bytes ++ memory.drop bytes.length

/-- `deserializer >> target`: the object afterwards. -/
def Target.read : Target → Reader Target
  | .scalar size data => do
      let data ← Program.ask (.scalar size data)
      return .scalar size data
  | .bool _ => do
      let value ← Program.ask (.scalar .one 0)
      return .bool (value != 0)
  | .string data => do
      let len ← Program.ask (.scalar .two 0)
      let data ← Program.ask (.chars data (BitVec.ofNat 16 len))
      return .string data
  | .byteArray mSize mBuffer => do
      if ← Program.ask .error then return .byteArray mSize mBuffer
      let word ← Program.ask (.scalar .four 0)
      let size := BitVec.ofNat 32 word
      if size.toInt ≤ mBuffer.length then
        -- a negative size passes, and what `retrieveRawData` returns is not looked at
        let copied ← Program.ask (.retrieveRawData mBuffer.length size)
        return .byteArray size.toInt (overwriteFront mBuffer copied)
      else
        let () ← Program.ask ReadCall.raise
        return .byteArray mSize mBuffer
  | .byteArrayExt mSize mVBuffer => do
      if ← Program.ask .error then return .byteArrayExt mSize mVBuffer
      let word ← Program.ask (.scalar .four 0)
      let size := BitVec.ofNat 32 word
      if size = 0 then return .byteArrayExt mSize mVBuffer
      match mVBuffer with
      | some memory =>
        -- memory from an earlier read is taken whatever its size
        let copied ← Program.ask (.retrieveRawData memory.length size)
        return .byteArrayExt mSize (some (overwriteFront memory copied))
      | none =>
        -- `new uint8_t[size]` throws for a negative size
        if size.toInt < 0 then
          let () ← Program.ask ReadCall.raise
          return .byteArrayExt mSize none
        let memory := List.replicate size.toNat (0 : UInt8)
        let copied ← Program.ask (.retrieveRawData memory.length size)
        return .byteArrayExt size.toInt (some (overwriteFront memory copied))
  | .array fresh size mPool => do
      if ← Program.ask .error then return .array fresh size mPool
      let count ← Program.ask (.scalar .two 0)
      -- after `resize`, elements behind the old ones are new
      let pool ← (List.range count).mapM fun i => do
        if ← Program.ask .error then return if i < size then mPool i else fresh
        if i < size then (mPool i).read else fresh.read
      return .array fresh count fun i => pool.getD i fresh
  | .nothing => return .nothing
  | .record first rest => do
      let first ← first.read
      let rest ← rest.read
      return .record first rest

/-- A sequence of reads, each into the object in a slot. -/
def readAll (objects : Nat → Target) : List Nat → Reader (Nat → Target)
  | [] => return objects
  | slot :: slots => do
      let object ← (objects slot).read
      readAll (Function.update objects slot object) slots

/-! ## §3. What a call may do. -/

/-- The remaining bytes suffice. -/
def Satisfiable : ReadCall → CFdbSimpleDeserializer → Prop
  | .scalar size _, d => d.mPos + size.bytes ≤ d.mBuffer.length
  | .chars _ len, d => d.mPos + len.toNat ≤ d.mBuffer.length
  | .retrieveRawData _ size, d => 0 ≤ size.toInt ∧ d.mPos + size.toInt ≤ d.mBuffer.length
  | .raise, _ => True
  | .error, _ => True

/-- No byte outside the buffer is read and none outside the target is written; if the bytes do not
suffice, `error()` is true afterwards. -/
def Sound (c : ReadCall) (d : CFdbSimpleDeserializer) : Prop :=
  ∃ answer d', readStep c d = some (answer, d') ∧ (Satisfiable c d ∨ d'.mError = true)

/-- The bytes are there; or the size is not declared as 0 and the sum in the check does not wrap. -/
def Checked (d : CFdbSimpleDeserializer) (size : Nat) : Prop :=
  d.mPos + size ≤ d.mBuffer.length ∨ d.mBuffer.length ≠ 0 ∧ d.mPos + size < 2 ^ 31

/-- When a call goes well: a number or a string is `Checked` or comes after an error, and a byte
array announces no more than its memory holds and than there is (or it comes after an error, and
is refused). -/
def InBounds : ReadCall → CFdbSimpleDeserializer → Prop
  | .scalar size _, d => d.mError = true ∨ Checked d size.bytes
  | .chars _ len, d => d.mError = true ∨ Checked d len.toNat
  | .retrieveRawData capacity size, d =>
    0 ≤ size.toInt ∧ size.toInt ≤ capacity ∧ d.mPos + size.toInt ≤ d.mBuffer.length
      ∨ d.mError = true ∧ d.mBuffer.length ≠ 0 ∧ d.mBuffer.length < d.mPos + size.toInt
        ∧ d.mPos + size.toInt < 2 ^ 31
  | .raise, _ => True
  | .error, _ => True

/-- The position is inside a buffer of the declared size. -/
structure Inside (d : CFdbSimpleDeserializer) : Prop where
  declared : d.mSize = d.mBuffer.length
  small : d.mBuffer.length < 2 ^ 31
  inside : d.mPos ≤ d.mBuffer.length

theorem DeclaredBuffer.inside_start (b : DeclaredBuffer) : Inside b.start :=
  ⟨rfl, b.declared, Nat.zero_le _⟩

/-- **What a call does to the deserializer**: nothing, an error, or a new position inside. -/
theorem readStep_cases {d' : CFdbSimpleDeserializer} {c : ReadCall} {answer : c.Answer}
    (hstep : readStep c d = some (answer, d')) :
    d' = d ∨ d' = { d with mError := true }
      ∨ ∃ e, e ≤ d.mBuffer.length ∧ d' = { d with mPos := e } := by
  cases c with
  | scalar size data =>
    replace hstep : scalarStep size.bytes data d = some (answer, d') := hstep
    unfold scalarStep at hstep
    split_ifs at hstep with herror hrefuse hin
    · exact .inl (congrArg Prod.snd (some.inj hstep)).symm
    · exact .inr (.inl (congrArg Prod.snd (some.inj hstep)).symm)
    · exact .inr (.inr ⟨_, hin, (congrArg Prod.snd (some.inj hstep)).symm⟩)
  | chars data len =>
    replace hstep : charsStep data len.toNat d = some (answer, d') := hstep
    unfold charsStep at hstep
    split_ifs at hstep with herror hrefuse
    · exact .inl (congrArg Prod.snd (some.inj hstep)).symm
    · exact .inr (.inl (congrArg Prod.snd (some.inj hstep)).symm)
    · split at hstep
      · cases hstep
      · rename_i last hlast
        split_ifs at hstep with hnul
        · exact .inr (.inl (congrArg Prod.snd (some.inj hstep)).symm)
        · obtain ⟨hlt, -⟩ := List.getElem?_eq_some_iff.mp hlast
          refine .inr (.inr ⟨d.mPos + len.toNat, ?_, ?_⟩)
          · omega
          · exact (congrArg Prod.snd (some.inj hstep)).symm
  | retrieveRawData capacity size =>
    replace hstep : rawStep capacity size.toInt d = some (answer, d') := hstep
    unfold rawStep at hstep
    split_ifs at hstep with hrefuse hin
    · exact .inl (congrArg Prod.snd (some.inj hstep)).symm
    · refine .inr (.inr ⟨d.mPos + size.toInt.toNat, ?_, ?_⟩)
      · omega
      · exact (congrArg Prod.snd (some.inj hstep)).symm
  | raise => exact .inr (.inl (congrArg Prod.snd (some.inj hstep)).symm)
  | error => exact .inl (congrArg Prod.snd (some.inj hstep)).symm

theorem Inside.readStep {d' : CFdbSimpleDeserializer} (h : Inside d) {c : ReadCall}
    {answer : c.Answer} (hstep : readStep c d = some (answer, d')) : Inside d' := by
  rcases readStep_cases hstep with rfl | rfl | ⟨e, he, rfl⟩
  · exact h
  · exact ⟨h.declared, h.small, h.inside⟩
  · exact ⟨h.declared, h.small, he⟩

/-- The check refuses what is too long, unless the size is declared as 0 or the sum wraps. -/
theorem Inside.refuses_iff (h : Inside d) {size : Int}
    (hlow : -(2 ^ 31) ≤ size) (hhigh : size < 2 ^ 31) :
    d.refuses size
      ↔ d.mBuffer.length ≠ 0 ∧ d.mBuffer.length < d.mPos + size ∧ d.mPos + size < 2 ^ 31 := by
  have hsmall := h.small
  have hinside := h.inside
  unfold CFdbSimpleDeserializer.refuses
  rw [h.declared]
  by_cases hwrap : d.mPos + size < 2 ^ 31
  · rw [int32_of_range (by omega) hwrap]
    omega
  · have hneg : int32 (d.mPos + size) < 0 := by
      obtain ⟨n, hn⟩ : ∃ n : Nat, (d.mPos : Int) + size = n := ⟨(d.mPos + size).toNat, by omega⟩
      have := int32_nonneg_iff (n := n) (by omega)
      rw [hn]
      omega
    omega

/-- Numbers and strings: what comes of the check, in a state without error. -/
theorem Inside.checked_iff (h : Inside d) {size : Nat} (hsize : size < 2 ^ 16) :
    Checked d size ↔ d.refuses size ∨ d.mPos + size ≤ d.mBuffer.length := by
  rw [h.refuses_iff (by omega) (by omega)]
  unfold Checked
  omega

theorem sound_scalar_iff (size : ScalarSize) (data : Nat) {d : CFdbSimpleDeserializer}
    (h : Inside d) : Sound (.scalar size data) d ↔ InBounds (.scalar size data) d := by
  have hsize : size.bytes < 2 ^ 16 := by cases size <;> decide
  show (∃ answer d', scalarStep size.bytes data d = some (answer, d')
    ∧ (d.mPos + size.bytes ≤ d.mBuffer.length ∨ d'.mError = true)) ↔ d.mError = true ∨ _
  rw [h.checked_iff hsize]
  unfold scalarStep
  by_cases herror : d.mError = true
  · simp [herror]
  by_cases hrefuse : d.refuses size.bytes
  · simp [herror, hrefuse]
  by_cases hin : d.mPos + size.bytes ≤ d.mBuffer.length
  · simp [herror, hrefuse, hin]
  · simp [herror, hrefuse, hin]

theorem sound_chars_iff (data : List UInt8) (len : BitVec 16) {d : CFdbSimpleDeserializer}
    (h : Inside d) : Sound (.chars data len) d ↔ InBounds (.chars data len) d := by
  show (∃ answer d', charsStep data len.toNat d = some (answer, d')
    ∧ (d.mPos + len.toNat ≤ d.mBuffer.length ∨ d'.mError = true)) ↔ d.mError = true ∨ _
  rw [h.checked_iff len.isLt]
  have hinside := h.inside
  unfold charsStep
  by_cases herror : d.mError = true
  · simp [herror]
  by_cases hzero : len.toNat = 0
  · simp [hzero, hinside]
  by_cases hrefuse : d.refuses len.toNat
  · simp [herror, hzero, hrefuse]
  by_cases hin : d.mPos + len.toNat ≤ d.mBuffer.length
  · have hlast : d.mPos + len.toNat - 1 < d.mBuffer.length := by omega
    rw [if_neg (by simp [herror, hzero]), if_neg hrefuse, getElem?_eq_getElem hlast]
    by_cases hnul : d.mBuffer[d.mPos + len.toNat - 1] = 0
    · simp [hnul, hin]
    · simp [hnul, hin]
  · rw [if_neg (by simp [herror, hzero]), if_neg hrefuse,
      getElem?_eq_none (by omega : d.mBuffer.length ≤ d.mPos + len.toNat - 1)]
    simp [herror, hrefuse, hin]

theorem sound_raw_iff (capacity : Nat) (size : BitVec 32) {d : CFdbSimpleDeserializer}
    (h : Inside d) :
    Sound (.retrieveRawData capacity size) d ↔ InBounds (.retrieveRawData capacity size) d := by
  show (∃ answer d', rawStep capacity size.toInt d = some (answer, d')
    ∧ (0 ≤ size.toInt ∧ d.mPos + size.toInt ≤ d.mBuffer.length ∨ d'.mError = true))
    ↔ _ ∨ d.mError = true ∧ _
  have hrefuses := h.refuses_iff size.le_toInt size.toInt_lt
  unfold rawStep
  rw [← hrefuses]
  by_cases hrefuse : d.refuses size.toInt
  · -- the caller is told, but not `error()`
    obtain ⟨-, hlong, -⟩ := hrefuses.mp hrefuse
    have hshort : ¬ d.mPos + size.toInt ≤ d.mBuffer.length := by omega
    simp [hrefuse, hshort]
  by_cases hin : 0 ≤ size.toInt ∧ size.toInt ≤ capacity ∧ d.mPos + size.toInt ≤ d.mBuffer.length
  · simp [hrefuse, hin]
  · simp [hrefuse, hin]

/-- **A call is sound exactly when it is in bounds.** -/
theorem sound_iff (c : ReadCall) {d : CFdbSimpleDeserializer} (h : Inside d) :
    Sound c d ↔ InBounds c d := by
  cases c with
  | scalar size data => exact sound_scalar_iff size data h
  | chars data len => exact sound_chars_iff data len h
  | retrieveRawData capacity size => exact sound_raw_iff capacity size h
  | raise => exact iff_of_true ⟨(), _, rfl, .inl trivial⟩ trivial
  | error => exact iff_of_true ⟨d.mError, d, rfl, .inl trivial⟩ trivial

/-- **Programs of calls**: all of them are sound exactly when all are in bounds. -/
theorem every_sound_iff {α : Type} (p : Reader α) {d : CFdbSimpleDeserializer} (h : Inside d) :
    Every readStep Sound p d ↔ Every readStep InBounds p d := by
  apply every_iff_of_inv (I := Inside)
  · intro c d h
    exact sound_iff c h
  · intro c d answer d' h hstep
    exact h.readStep hstep
  · exact h

/-- **Deserialization never leaves its buffer**, along a sequence of reads, exactly when each of its
calls is made in bounds. -/
theorem readAll_sound_iff (b : DeclaredBuffer) (objects : Nat → Target) (slots : List Nat) :
    Every readStep Sound (readAll objects slots) b.start
      ↔ Every readStep InBounds (readAll objects slots) b.start :=
  every_sound_iff _ b.inside_start

/-- A byte is read from a buffer of no bytes; a `CFdbByteArray<8>` announces four bytes that are not
there, and no error is reported; one announces -1 bytes; and a `CFdbByteArrayExt` that has memory
for one byte is read into again, with two. -/
theorem reads_leave_buffer :
    exec readStep (readAll (fun _ => .scalar .one 0) [0]) (DeclaredBuffer.mk [] (by decide)).start
        = none
      ∧ (exec readStep (readAll (fun _ => .byteArray 8 (replicate 8 0)) [0])
          (DeclaredBuffer.mk [4, 0, 0, 0] (by decide)).start).map (fun p => (p.2.mPos, p.2.mError))
        = some (4, false)
      ∧ exec readStep (readAll (fun _ => .byteArray 8 (replicate 8 0)) [0])
          (DeclaredBuffer.mk [255, 255, 255, 255] (by decide)).start = none
      ∧ exec readStep (readAll (fun _ => .byteArrayExt 0 none) [0, 0])
          (DeclaredBuffer.mk [1, 0, 0, 0, 7, 2, 0, 0, 0, 8, 9] (by decide)).start = none := by
  refine ⟨rfl, ?_, ?_, ?_⟩
  · rfl
  · rfl
  · rfl

end Fdbus.Wire

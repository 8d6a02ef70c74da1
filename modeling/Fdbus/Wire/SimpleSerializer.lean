/-
  Fdbus.Wire.SimpleSerializer — `CFdbSimpleSerializer` and `CFdbSimpleDeserializer`.

  The serializer appends to a growing buffer, so it is a function from the bytes written
  so far to the bytes written then.  The deserializer walks a buffer whose announced size
  is `mSize`; the source checks every read against `mSize` (and not at all when `mSize`
  is 0), never against the memory that is really there.  The model keeps both: `mBuffer`
  is the memory of the frame, and a read that leaves it is the result `none`.

    * `outcome_scalar_bind` and `outcome_chars_bind` say what one read in front of a
      decoder does to its outcome, and `checkEnds_eq` what a sequence of reads does.
-/
import Fdbus.Library.LittleEndian
import Fdbus.Common.Defs

namespace Fdbus.Wire

open Fdbus.LittleEndian List

/-! ## §1. The serializer. -/

/-- `serializer << data` for a scalar of `size` bytes. -/
def addScalar (size : Nat) (data : Nat) (buffer : List UInt8) : List UInt8 :=
  buffer ++ leBytes size data

/-- `addRawData(p_data, size)`. -/
def addRawData (data : List UInt8) (buffer : List UInt8) : List UInt8 := buffer ++ data

/-- `addString(string, str_len)`: a 16-bit length that counts the NUL, then that many
bytes of the C string.  Both the cast of the length and the `+ 1` wrap at 16 bits. -/
def addString (str : List UInt8) (buffer : List UInt8) : List UInt8 :=
  let l := (str.length % 2 ^ 16 + 1) % 2 ^ 16
  addRawData ((str ++ [0]).take l) (addScalar 2 l buffer)

/-! ## §2. The deserializer. -/

/-- `CFdbSimpleDeserializer`: `mBuffer` is the memory from `buffer` to the end of the
frame it points into. -/
structure CFdbSimpleDeserializer where
  mBuffer : List UInt8
  mSize : Int
  mPos : Nat
  mError : Bool
  deriving DecidableEq

/-- A read operation; `none` means that a byte outside `mBuffer` was touched. -/
abbrev Deserialize := StateT CFdbSimpleDeserializer Option

/-- The check `mSize && ((mPos + size) > mSize)`. -/
def CFdbSimpleDeserializer.exceeds (d : CFdbSimpleDeserializer) (size : Nat) : Prop :=
  d.mSize ≠ 0 ∧ (d.mPos + size : Int) > d.mSize

instance (d : CFdbSimpleDeserializer) (size : Nat) : Decidable (d.exceeds size) :=
  inferInstanceAs (Decidable (_ ∧ _))

/-- The `size` bytes at `mPos`. -/
def CFdbSimpleDeserializer.bytesAt (d : CFdbSimpleDeserializer) (size : Nat) : List UInt8 :=
  (d.mBuffer.drop d.mPos).take size

/-- `deserializeScalar(data)` for a scalar of `size` bytes: on an error the variable
keeps its old value. -/
def deserializeScalar (size : Nat) (data : Nat) : Deserialize Nat := fun d =>
  if d.mError = true then some (data, d)
  else if d.exceeds size then some (data, { d with mError := true })
  else if d.mPos + size ≤ d.mBuffer.length then
    some (leNat (d.bytesAt size), { d with mPos := d.mPos + size })
  else none

/-- The part of `deserializer >> data` for a `std::string` behind the length word: the
last announced byte has to be NUL, and the string ends at the first one. -/
def deserializeChars (data : List UInt8) (len : Nat) : Deserialize (List UInt8) := fun d =>
  if d.mError = true ∨ len = 0 then some (data, d)
  else if d.exceeds len then some (data, { d with mError := true })
  else
    match d.mBuffer[d.mPos + len - 1]? with
    | none => none
    | some last =>
      if last ≠ 0 then some (data, { d with mError := true })
      else some ((d.mBuffer.drop d.mPos).takeWhile (· != 0), { d with mPos := d.mPos + len })

/-- `deserializer >> data` for a `std::string`. -/
def deserializeString (data : List UInt8) : Deserialize (List UInt8) := do
  let len ← deserializeScalar 2 0
  deserializeChars data len

/-! ## §3. After an error nothing is read. -/

variable (data : List UInt8) {α : Type} (sz : Int) {d : CFdbSimpleDeserializer}

/-! ## §4. When a read leaves the memory. -/

/-- **A scalar read leaves the memory exactly when it passes the size check and runs past
the end.** -/
theorem deserializeScalar_none_iff (h : d.mError = false) (size data : Nat) :
    deserializeScalar size data d = none
      ↔ ¬ d.exceeds size ∧ d.mBuffer.length < d.mPos + size := by
  unfold deserializeScalar
  rw [if_neg (by simp [h])]
  by_cases hx : d.exceeds size
  · simp [hx]
  · by_cases hm : d.mPos + size ≤ d.mBuffer.length
    · simp only [hx, hm, if_true, if_false, reduceCtorEq, false_iff, not_and]
      omega
    · simp only [hx, hm, if_false, not_false_eq_true, true_and, true_iff]
      omega

variable {m : Deserialize α} {str : List UInt8} {size : Nat}

/-- A scalar read that succeeds. -/
theorem deserializeScalar_ok (h : d.mError = false) (hx : ¬ d.exceeds size)
    (hm : d.mPos + size ≤ d.mBuffer.length) (data : Nat) :
    deserializeScalar size data d
      = some (leNat (d.bytesAt size), { d with mPos := d.mPos + size }) := by
  simp [deserializeScalar, h, hx, hm]

/-- A scalar read the size check refuses. -/
theorem deserializeScalar_refused (h : d.mError = false) (hx : d.exceeds size) (data : Nat) :
    deserializeScalar size data d = some (data, { d with mError := true }) := by
  simp [deserializeScalar, h, hx]

/-! ## §5. Sequences of reads.

A decoder is a sequence of reads.  What comes of it is decided by the positions at which
the reads end: the first one that does not fit the announced size makes it fail, the
first one behind the memory makes it leave the memory. -/

/-- What a decoder reports: `mError` set, or a value. -/
inductive ParseResult (α : Type) where
  | failed
  | parsed (value : α)
  deriving DecidableEq

/-- `parse(data, size)` for the decoder `m`, from any state. -/
def outcome {α : Type} (m : Deserialize α) (d : CFdbSimpleDeserializer) :
    Option (ParseResult α) :=
  (m d).map fun (value, d') => if d'.mError then .failed else .parsed value

/-- The position `e` fits the announced size `sz` (0 announces nothing). -/
def fits (sz : Int) (e : Nat) : Prop := sz = 0 ∨ (e : Int) ≤ sz

instance (sz : Int) (e : Nat) : Decidable (fits sz e) :=
  inferInstanceAs (Decidable (_ ∨ _))

theorem exceeds_iff {buf : List UInt8} {sz : Int} {pos : Nat} {err : Bool} :
    CFdbSimpleDeserializer.exceeds ⟨buf, sz, pos, err⟩ size ↔ ¬ fits sz (pos + size) := by
  unfold CFdbSimpleDeserializer.exceeds fits
  push_cast
  omega

/-- After an error the decoder touches nothing and leaves the state as it is. -/
def Quiet {α : Type} (m : Deserialize α) : Prop :=
  ∀ d : CFdbSimpleDeserializer, d.mError = true → ∃ value, m d = some (value, d)

theorem quiet_scalar (size data : Nat) : Quiet (deserializeScalar size data) :=
  fun d h => ⟨data, by simp [deserializeScalar, h]⟩

theorem quiet_chars (len : Nat) : Quiet (deserializeChars data len) :=
  fun d h => ⟨data, by simp [deserializeChars, h]⟩

theorem quiet_pure (value : α) : Quiet (pure value : Deserialize α) :=
  fun _ _ => ⟨value, rfl⟩

theorem quiet_bind {β : Type} {k : α → Deserialize β} (hm : Quiet m) (hk : ∀ a, Quiet (k a)) :
    Quiet (m >>= k) := by
  intro d hd
  obtain ⟨a, ha⟩ := hm d hd
  obtain ⟨b, hb⟩ := hk a d hd
  refine ⟨b, ?_⟩
  show (m d).bind _ = _
  rw [ha]
  exact hb

theorem quiet_string : Quiet (deserializeString data) :=
  quiet_bind (quiet_scalar 2 0) (quiet_chars data)

theorem outcome_of_error (hm : Quiet m) {d : CFdbSimpleDeserializer} (hd : d.mError = true) :
    outcome m d = some .failed := by
  obtain ⟨value, h⟩ := hm d hd
  simp [outcome, h, hd]

/-- The checks of a sequence of reads that end at the positions `ends`, before the
outcome `r` of what follows them. -/
def checkEnds {α : Type} (sz : Int) (n : Nat) :
    List Nat → Option (ParseResult α) → Option (ParseResult α)
  | [], r => r
  | e :: es, r =>
    if fits sz e then (if e ≤ n then checkEnds sz n es r else none) else some .failed

theorem checkEnds_append (n : Nat) (es fs : List Nat) (r : Option (ParseResult α)) :
    checkEnds sz n (es ++ fs) r = checkEnds sz n es (checkEnds sz n fs r) := by
  induction es with
  | nil => rfl
  | cons e es ih => simp only [cons_append, checkEnds, ih]

/-- **The checks in closed form**, for positions in ascending order. -/
theorem checkEnds_eq (n : Nat) {es : List Nat}
    (hsort : es.Pairwise (· ≤ ·)) (r : Option (ParseResult α)) :
    checkEnds sz n es r
      = if ∃ e ∈ es, fits sz e ∧ n < e then none
        else if ∀ e ∈ es, fits sz e then r else some .failed := by
  induction es with
  | nil => simp [checkEnds]
  | cons e es ih =>
    obtain ⟨hle, hsort'⟩ := pairwise_cons.mp hsort
    by_cases hfit : fits sz e
    · by_cases hin : e ≤ n
      · have hn : ¬ n < e := by omega
        simp [checkEnds, ih hsort', hfit, hin, hn]
      · have hn : n < e := by omega
        simp [checkEnds, hfit, hin, hn]
    · -- what comes later is larger and fits no better
      have hlater : ∀ f ∈ es, ¬ fits sz f := by
        intro f hf
        have := hle f hf
        unfold fits at hfit ⊢
        omega
      have hnone : ¬ ∃ f ∈ e :: es, fits sz f ∧ n < f := by
        rintro ⟨f, hf, hfits, -⟩
        rcases mem_cons.mp hf with rfl | hf
        · exact hfit hfits
        · exact hlater f hf hfits
      rw [if_neg hnone, if_neg (fun h => hfit (h e (by simp)))]
      simp [checkEnds, hfit]

/-- One scalar in front of a decoder. -/
theorem outcome_scalar_bind {k : Nat → Deserialize α} {data : Nat}
    (hk : Quiet (k data)) (buf : List UInt8) (sz : Int) (pos size : Nat) :
    outcome (deserializeScalar size data >>= k) ⟨buf, sz, pos, false⟩
      = checkEnds sz buf.length [pos + size]
          (outcome (k (leNat ((buf.drop pos).take size))) ⟨buf, sz, pos + size, false⟩) := by
  show ((deserializeScalar size data _).bind fun p => k p.1 p.2).map _ = _
  by_cases hfit : fits sz (pos + size)
  · have hx : ¬ CFdbSimpleDeserializer.exceeds ⟨buf, sz, pos, false⟩ size := by
      simpa [exceeds_iff] using hfit
    by_cases hin : pos + size ≤ buf.length
    · rw [deserializeScalar_ok rfl hx hin]
      simp [checkEnds, hfit, hin, outcome, CFdbSimpleDeserializer.bytesAt]
    · rw [(deserializeScalar_none_iff rfl size data).mpr ⟨hx, by simpa using hin⟩]
      simp [checkEnds, hfit, hin]
  · rw [deserializeScalar_refused rfl (exceeds_iff.mpr hfit)]
    have := outcome_of_error hk (d := ⟨buf, sz, pos, true⟩) rfl
    simpa [checkEnds, hfit, outcome] using this

/-- The characters of a string in front of a decoder. -/
theorem outcome_chars_bind {k : List UInt8 → Deserialize α} {data : List UInt8}
    (hk : Quiet (k data)) (buf : List UInt8) (sz : Int) (pos : Nat) {len : Nat} (hlen : len ≠ 0) :
    outcome (deserializeChars data len >>= k) ⟨buf, sz, pos, false⟩
      = checkEnds sz buf.length [pos + len]
          (if buf[pos + len - 1]? = some 0 then
            outcome (k ((buf.drop pos).takeWhile (· != 0))) ⟨buf, sz, pos + len, false⟩
          else some .failed) := by
  have hfail : outcome (k data) ⟨buf, sz, pos, true⟩ = some .failed := outcome_of_error hk rfl
  show ((deserializeChars data len _).bind fun p => k p.1 p.2).map _ = _
  unfold deserializeChars
  rw [if_neg (by simpa using hlen)]
  by_cases hfit : fits sz (pos + len)
  · rw [if_neg (by simpa [exceeds_iff] using hfit)]
    by_cases hin : pos + len ≤ buf.length
    · -- the byte looked at is the last announced one
      rw [getElem?_eq_getElem (by omega : pos + len - 1 < buf.length)]
      by_cases hnul : buf[pos + len - 1] = 0
      · simp [checkEnds, hfit, hin, hnul, outcome]
      · simpa [checkEnds, hfit, hin, hnul, outcome] using hfail
    · rw [getElem?_eq_none (by show buf.length ≤ pos + len - 1; omega)]
      simp [checkEnds, hfit, hin]
  · rw [if_pos (exceeds_iff.mpr hfit)]
    simpa [checkEnds, hfit, outcome] using hfail

/-! ## §6. Round trips, stated with any bytes after what is read. -/

/-- What `addString` writes for a string whose length does not wrap. -/
theorem addString_of_lt (h : str.length + 1 < 2 ^ 16) (buffer : List UInt8) :
    addString str buffer = buffer ++ (leBytes 2 (str.length + 1) ++ (str ++ [0])) := by
  have hl : (str.length % 2 ^ 16 + 1) % 2 ^ 16 = str.length + 1 := by omega
  unfold addString addRawData addScalar
  simp only [hl]
  rw [take_of_length_le (by simp), append_assoc]

theorem takeWhile_of_no_nul {after : List UInt8} (h : (0 : UInt8) ∉ str) :
    (str ++ 0 :: after).takeWhile (· != 0) = str := by
  rw [takeWhile_append_of_pos]
  · simp
  · intro b hb
    simp only [bne_iff_ne, ne_eq]
    rintro rfl
    exact h hb

end Fdbus.Wire

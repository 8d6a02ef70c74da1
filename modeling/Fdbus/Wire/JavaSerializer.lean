/-
  Fdbus.Wire.JavaSerializer — `FdbusSerializer`, the serializer of the Java binding.

  Java clients write their values with a serializer of their own, and C++ peers read them with
  `CFdbSimpleDeserializer`.  The two encoders order the bytes of a number in different ways and
  enlarge their buffers by different rules; a Java `int` wraps, and an array of negative size is an
  exception.

    * `rawBytes_eq` — shifting and masking gives the little-endian bytes,
    * `flatten_javaWrites` — for the same values both write the same bytes, piece by piece,
    * `java_cpp_agree` — so do they in runs of up to 2147481647 bytes, which is what a Java array
      can hold less the 2000 bytes that are added on every expansion.

  A Java string is given by its bytes in UTF-8.  Memory does not run out.
-/
import Fdbus.Wire.Unambiguous

namespace Fdbus.Wire

open Fdbus.LittleEndian List Option
open Fdbus.Run

/-! ## §1. The serializer. -/

/-- `EXPANSION_BLOCK_SIZE`. -/
def expansionBlockSize : Nat := 2000

/-- `FdbusSerializer`. -/
structure FdbusSerializer where
  mBuffer : List UInt8
  mBufferPos : Nat

namespace FdbusSerializer

/-- The constructor. -/
def start : FdbusSerializer := ⟨List.replicate expansionBlockSize 0, 0⟩

/-- `expandBuffer(expected)`, with sums of `int`; `none` is an exception: the new size is negative,
or the old bytes do not fit. -/
def expandBuffer (s : FdbusSerializer) (expected : Nat) : Option FdbusSerializer :=
  if int32 (s.mBufferPos + expected) ≤ s.mBuffer.length then some s
  else
    let newSize := int32 (s.mBufferPos + expected + expansionBlockSize)
    if newSize < 0 then none -- `NegativeArraySizeException`
    else if newSize < s.mBuffer.length then none
    else some { s with
      mBuffer := s.mBuffer ++ List.replicate (newSize.toNat - s.mBuffer.length) 0 }

/-- `writeRawBytes`, and the stores of `writeRaw8` to `writeRawLittleEndian64`; an index outside the
buffer is an exception. -/
def writeRawBytes (s : FdbusSerializer) (value : List UInt8) : Option FdbusSerializer :=
  (s.expandBuffer value.length).bind fun s =>
    if s.mBufferPos + value.length ≤ s.mBuffer.length then
      some {
        mBuffer := s.mBuffer.take s.mBufferPos
          ++ (value ++ s.mBuffer.drop (s.mBufferPos + value.length))
        mBufferPos := s.mBufferPos + value.length }
    else none

/-- `export()`. -/
def exportBytes (s : FdbusSerializer) : List UInt8 := s.mBuffer.take s.mBufferPos

end FdbusSerializer

/-- `(byte)((value >> 8 * i) & 0xFF)` for `i` from 0 to `w - 1`. -/
def rawBytes {n : Nat} (w : Nat) (value : BitVec n) : List UInt8 :=
  (List.range w).map fun i => UInt8.ofNat ((value.sshiftRight (8 * i)).toNat &&& 0xFF)

/-- `writeRaw8`. -/
def writeRaw8 (value : BitVec 32) : List UInt8 := rawBytes 1 value

/-- `writeRawLittleEndian16`. -/
def writeRawLittleEndian16 (value : BitVec 32) : List UInt8 := rawBytes 2 value

/-- `writeRawLittleEndian32`. -/
def writeRawLittleEndian32 (value : BitVec 32) : List UInt8 := rawBytes 4 value

/-- `writeRawLittleEndian64`. -/
def writeRawLittleEndian64 (value : BitVec 64) : List UInt8 := rawBytes 8 value

/-! ## §2. Values, and what either side writes for them. -/

/-- What can be serialized, alone or in an array. -/
inductive Kind where
  | int8
  | int16
  | int32
  | int64
  | boolean
  | string
  | bytes

/-- The Java values of a kind. -/
@[reducible] def Kind.Value : Kind → Type
  | .int8 | .int16 | .int32 => BitVec 32
  | .int64 => BitVec 64
  | .boolean => Bool
  | .string => List UInt8
  | .bytes => { data : List UInt8 // data.length < 2 ^ 31 }

/-- A call of the serializer: with one value, or with an array. -/
inductive Call where
  | one (kind : Kind) (value : kind.Value)
  | many (kind : Kind) (values : List kind.Value)

/-- What one value writes: `in8`, `in16`, `in32`, `in64`, `inBool`, `writeString` and `in`. -/
def Kind.javaWrites : (kind : Kind) → kind.Value → List (List UInt8)
  | .int8, v => [writeRaw8 v]
  | .int16, v => [writeRawLittleEndian16 v]
  | .int32, v => [writeRawLittleEndian32 v]
  | .int64, v => [writeRawLittleEndian64 v]
  | .boolean, v => [writeRaw8 (if v then 1 else 0)]
  | .string, v => [writeRawLittleEndian16 (BitVec.ofNat 32 v.length + 1), v, writeRaw8 0]
  | .bytes, v => [writeRawLittleEndian32 (BitVec.ofNat 32 v.val.length), v.val]

/-- What a call writes. -/
def Call.javaWrites : Call → List (List UInt8)
  | .one kind v => kind.javaWrites v
  | .many kind vs =>
    writeRawLittleEndian16 (BitVec.ofNat 32 vs.length) :: vs.flatMap kind.javaWrites

/-- The same value in C++, an integer reduced to its width. -/
def Kind.cppWrites : (kind : Kind) → kind.Value → List Write
  | .int8, v => [.basic 1 (v.toNat % 2 ^ 8)]
  | .int16, v => [.basic 2 (v.toNat % 2 ^ 16)]
  | .int32, v => [.basic 4 v.toNat]
  | .int64, v => [.basic 8 v.toNat]
  | .boolean, v => [.basic 1 v.toNat]
  | .string, v => stringWrites v
  | .bytes, v => byteArrayWrites v.val

/-- One value, or a `CFdbParcelableArray` of them. -/
def Call.cppWrites : Call → List Write
  | .one kind v => kind.cppWrites v
  | .many kind vs => arrayWrites kind.cppWrites vs

/-- Strings are free of NUL and have at most 65534 bytes. -/
def Kind.Encodable : (kind : Kind) → kind.Value → Prop
  | .string, v => (0 : UInt8) ∉ v ∧ v.length ≤ 65534
  | _, _ => True

/-- Arrays have at most 65535 elements. -/
def Call.Encodable : Call → Prop
  | .one kind v => kind.Encodable v
  | .many kind vs => vs.length ≤ 65535 ∧ ∀ v ∈ vs, kind.Encodable v

/-! ## §3. The bytes are the same. -/

/-- A byte inside the value is not reached by the sign bits that the shift brings in. -/
theorem sshiftRight_byte {n : Nat} (value : BitVec n) {i : Nat} (h : 8 * i + 8 ≤ n) :
    (value.sshiftRight (8 * i)).toNat &&& 0xFF = value.toNat / 256 ^ i % 256 := by
  have hmask : (0xFF : Nat) = 2 ^ 8 - 1 := rfl
  have hpow : 256 ^ i = 2 ^ (8 * i) := by rw [Nat.pow_mul]
  rw [hmask, Nat.and_two_pow_sub_one_eq_mod, hpow, show (256 : Nat) = 2 ^ 8 from rfl]
  apply Nat.eq_of_testBit_eq
  intro j
  rw [Nat.testBit_mod_two_pow, Nat.testBit_mod_two_pow, Nat.testBit_div_two_pow]
  by_cases hj : j < 8
  · have hbit : (value.sshiftRight (8 * i)).getLsbD j = value.getLsbD (8 * i + j) := by
      rw [BitVec.getLsbD_sshiftRight, if_pos (by omega)]
      simp [show ¬ n ≤ j by omega]
    rw [← BitVec.getLsbD, ← BitVec.getLsbD, hbit, Nat.add_comm]
  · simp [hj]

theorem rawBytes_eq {n : Nat} {w : Nat} (value : BitVec n) (h : 8 * w ≤ n) :
    rawBytes w value = leBytes w value.toNat := by
  rw [leBytes_eq_map]
  apply map_congr_left
  intro i hi
  have hlt : i < w := mem_range.mp hi
  rw [sshiftRight_byte value (by omega)]

/-- **One value**: both write the same bytes. -/
theorem Kind.flatten_javaWrites (kind : Kind) (v : kind.Value) (h : kind.Encodable v) :
    (kind.javaWrites v).flatten = wire (kind.cppWrites v) := by
  -- a number of `w` bytes, reduced to its width or not
  have hnumber : ∀ {n : Nat} (w : Nat) (value : BitVec n), 8 * w ≤ n →
      [rawBytes w value].flatten = wire [.basic w value.toNat]
        ∧ [rawBytes w value].flatten = wire [.basic w (value.toNat % 256 ^ w)] := by
    intro n w value hw
    refine ⟨?_, ?_⟩
    · show rawBytes w value ++ [] = leBytes w value.toNat ++ []
      rw [rawBytes_eq value hw]
    · show rawBytes w value ++ [] = leBytes w (value.toNat % 256 ^ w) ++ []
      rw [rawBytes_eq value hw, leBytes_mod]
  cases kind with
  | int8 => exact (hnumber 1 v (by decide)).2
  | int16 => exact (hnumber 2 v (by decide)).2
  | int32 => exact (hnumber 4 v (by decide)).1
  | int64 => exact (hnumber 8 v (by decide)).1
  | boolean =>
    cases v with
    | false => rfl
    | true => rfl
  | string =>
    obtain ⟨-, hlen⟩ := h
    have hword : (BitVec.ofNat 32 v.length + 1).toNat = v.length + 1 := by
      show (v.length % 2 ^ 32 + 1) % 2 ^ 32 = v.length + 1
      omega
    show rawBytes 2 _ ++ (v ++ ([0] ++ [])) = wire (stringWrites v)
    rw [rawBytes_eq _ (by decide), hword, wire_stringWrites, addString_of_lt (by omega),
      nil_append, append_nil]
  | bytes =>
    have hword : (BitVec.ofNat 32 v.val.length).toNat = v.val.length :=
      Nat.mod_eq_of_lt (Nat.lt_trans v.property (by decide))
    show rawBytes 4 _ ++ (v.val ++ []) = leBytes 4 v.val.length ++ (v.val ++ [])
    rw [rawBytes_eq _ (by decide), hword]

/-- **One call**: an array is a count and its elements on either side. -/
theorem Call.flatten_javaWrites (c : Call) (h : c.Encodable) :
    c.javaWrites.flatten = wire c.cppWrites := by
  cases c with
  | one kind v => exact kind.flatten_javaWrites v h
  | many kind vs =>
    obtain ⟨hlen, helem⟩ := h
    have hword : (BitVec.ofNat 32 vs.length).toNat = vs.length := Nat.mod_eq_of_lt (by omega)
    have helems : (vs.flatMap kind.javaWrites).flatten = wire (vs.flatMap kind.cppWrites) := by
      clear hlen hword
      induction vs with
      | nil => rfl
      | cons v vs ih =>
        rw [flatMap_cons, flatMap_cons, flatten_append, wire_append,
          kind.flatten_javaWrites v (helem v mem_cons_self),
          ih fun x hx => helem x (mem_cons_of_mem v hx)]
    show rawBytes 2 _ ++ (vs.flatMap kind.javaWrites).flatten
      = leBytes 2 (vs.length % 2 ^ 16) ++ wire (vs.flatMap kind.cppWrites)
    rw [rawBytes_eq _ (by decide), hword, helems, Nat.mod_eq_of_lt (by omega)]

/-! ## §4. Runs. -/

/-- The buffer starts with these bytes, and they are all that has been written. -/
structure Exports (s : FdbusSerializer) (bytes : List UInt8) : Prop where
  pos : s.mBufferPos = bytes.length
  content : s.mBuffer.take s.mBufferPos = bytes
  inside : s.mBufferPos ≤ s.mBuffer.length

open FdbusSerializer

/-- The buffer is enlarged behind the bytes, or left as it is. -/
theorem expandBuffer_room (s : FdbusSerializer) {size : Nat}
    (hsize : s.mBufferPos + size ≤ 2147481647) :
    ∃ more : List UInt8, s.expandBuffer size = some { s with mBuffer := s.mBuffer ++ more }
      ∧ s.mBufferPos + size ≤ (s.mBuffer ++ more).length := by
  have hblock : expansionBlockSize = 2000 := rfl
  unfold expandBuffer
  have hsum : int32 (s.mBufferPos + size) = s.mBufferPos + size :=
    int32_of_range (by omega) (by omega)
  have hnew : int32 (s.mBufferPos + size + expansionBlockSize) = s.mBufferPos + size + 2000 :=
    int32_of_range (by omega) (by omega)
  rw [hsum]
  by_cases hroom : ((s.mBufferPos : Int) + size) ≤ s.mBuffer.length
  · refine ⟨[], ?_, ?_⟩
    · rw [if_pos hroom, append_nil]
    · rw [append_nil]
      omega
  · let newSize : Int := s.mBufferPos + size + 2000
    refine ⟨replicate (newSize.toNat - s.mBuffer.length) 0, ?_, ?_⟩
    · simp only [if_neg hroom, hnew]
      rw [if_neg (by omega), if_neg (by omega)]
    · rw [length_append, length_replicate]
      omega

/-- **One piece**, while the sizes are sizes of Java arrays. -/
theorem Exports.writeRawBytes {s : FdbusSerializer} {bytes : List UInt8} (h : Exports s bytes)
    (value : List UInt8) (hsize : bytes.length + value.length ≤ 2147481647) :
    ∃ s', s.writeRawBytes value = some s' ∧ Exports s' (bytes ++ value) := by
  have hpos := h.pos
  have hinside := h.inside
  obtain ⟨more, hs, hroom⟩ := expandBuffer_room s (by rw [hpos]; exact hsize)
  have htake : (s.mBuffer ++ more).take s.mBufferPos = bytes := by
    rw [take_append_of_le_length hinside, h.content]
  unfold FdbusSerializer.writeRawBytes
  rw [hs, bind_some, if_pos hroom]
  refine ⟨_, rfl, ⟨?_, ?_, ?_⟩⟩
  · show s.mBufferPos + value.length = (bytes ++ value).length
    rw [length_append, hpos]
  · show ((s.mBuffer ++ more).take s.mBufferPos ++ (value ++ _)).take
      (s.mBufferPos + value.length) = _
    rw [htake, ← append_assoc, take_left' (by rw [length_append, hpos])]
  · show s.mBufferPos + value.length
      ≤ ((s.mBuffer ++ more).take s.mBufferPos ++ (value ++ _)).length
    rw [htake, length_append, length_append]
    omega

/-- **A sequence of pieces**, by induction over it. -/
theorem run_writeRawBytes (pieces : List (List UInt8)) :
    ∀ (s : FdbusSerializer) (bytes : List UInt8), Exports s bytes →
      bytes.length + pieces.flatten.length ≤ 2147481647 →
      ∃ s', run writeRawBytes s pieces = some s'
        ∧ Exports s' (bytes ++ pieces.flatten) := by
  induction pieces with
  | nil =>
    intro s bytes h _
    exact ⟨s, rfl, by rwa [flatten_nil, append_nil]⟩
  | cons value pieces ih =>
    intro s bytes h hsize
    rw [flatten_cons, length_append] at hsize
    obtain ⟨s₁, hs₁, h₁⟩ := h.writeRawBytes value (by omega)
    obtain ⟨s₂, hs₂, h₂⟩ := ih s₁ (bytes ++ value) h₁ (by rw [length_append]; omega)
    refine ⟨s₂, ?_, ?_⟩
    · show ((s.writeRawBytes value).bind fun s' => run _ s' pieces) = some s₂
      rw [hs₁, bind_some, hs₂]
    · rwa [flatten_cons, ← append_assoc]

/-- **Java and C++ agree** on the bytes of a sequence of values, on any host, when the bytes and one
more block fit a Java array. -/
theorem java_cpp_agree (host : ByteOrder) (calls : List Call) (h : ∀ c ∈ calls, c.Encodable)
    (hsize : (wire (calls.flatMap Call.cppWrites)).length ≤ 2147481647) :
    ∃ (j : FdbusSerializer) (s : CFdbSimpleSerializer),
      run FdbusSerializer.writeRawBytes .start (calls.flatMap Call.javaWrites) = some j
        ∧ run (CFdbSimpleSerializer.write host) .start (calls.flatMap Call.cppWrites) = some s
        ∧ j.exportBytes = s.bytes := by
  have hbytes : (calls.flatMap Call.javaWrites).flatten = wire (calls.flatMap Call.cppWrites) := by
    clear hsize
    induction calls with
    | nil => rfl
    | cons c calls ih =>
      rw [flatMap_cons, flatMap_cons, flatten_append, wire_append,
        c.flatten_javaWrites (h c mem_cons_self),
        ih fun x hx => h x (mem_cons_of_mem c hx)]
  obtain ⟨j, hj, hexports⟩ := run_writeRawBytes (calls.flatMap Call.javaWrites) .start []
    ⟨rfl, rfl, Nat.zero_le _⟩ (by rw [length_nil, hbytes]; omega)
  obtain ⟨s, hs, hsbytes⟩ := run_write_start host _ (Nat.le_trans hsize (by decide))
  refine ⟨j, s, hj, hs, ?_⟩
  rw [hsbytes]
  exact hexports.content.trans hbytes

/-- A word, an array of strings and some bytes. -/
def someCalls : List Call :=
  [.one .int16 (70000 : BitVec 32), .many .string [[97, 98], []],
    .one .bytes ⟨[1, 2, 3], by decide⟩]

theorem java_cpp_agree_someCalls :
    ∃ (j : FdbusSerializer) (s : CFdbSimpleSerializer),
      run FdbusSerializer.writeRawBytes .start (someCalls.flatMap Call.javaWrites) = some j
        ∧ run (CFdbSimpleSerializer.write .big) .start (someCalls.flatMap Call.cppWrites) = some s
        ∧ j.exportBytes = s.bytes := by
  refine java_cpp_agree .big someCalls (fun c hc => ?_) (by decide)
  rcases mem_cons.mp hc with rfl | hc
  · trivial
  rcases mem_cons.mp hc with rfl | hc
  · show [[97, 98], []].length ≤ 65535 ∧ ∀ v ∈ ([[97, 98], []] : List (List UInt8)),
      (0 : UInt8) ∉ v ∧ v.length ≤ 65534
    decide
  · obtain rfl := mem_singleton.mp hc
    trivial

/-! ## §5. More bytes than that. -/

/-- A byte array whose bytes a Java array can hold, but not with one block more. -/
def hugeArray : Kind.bytes.Value :=
  ⟨List.replicate 2147481644 0, by rw [List.length_replicate]; decide⟩

/-- The first four bytes go to the buffer of the constructor. -/
theorem writeRawBytes_start {value : List UInt8} (h : value.length = 4) :
    start.writeRawBytes value = some ⟨value ++ replicate 1996 0, 4⟩ := by
  have hbuffer : start.mBuffer = replicate 2000 0 := rfl
  have hpos : start.mBufferPos = 0 := rfl
  have hroom : start.expandBuffer 4 = some .start := by
    unfold expandBuffer
    rw [hbuffer, hpos, length_replicate]
    exact if_pos (by decide)
  unfold writeRawBytes
  rw [h, hroom, bind_some, hbuffer, hpos, length_replicate, if_pos (by decide),
    drop_replicate, take_zero, nil_append]

/-- The sum that is to be the new size wraps. -/
theorem expandBuffer_overflow {s : FdbusSerializer} {expected : Nat}
    (hroom : s.mBuffer.length < s.mBufferPos + expected)
    (hsum : s.mBufferPos + expected < 2 ^ 31)
    (hnew : 2 ^ 31 ≤ s.mBufferPos + expected + expansionBlockSize) :
    s.expandBuffer expected = none := by
  have hblock : expansionBlockSize = 2000 := rfl
  unfold expandBuffer
  have hwrap : int32 (s.mBufferPos + expected + expansionBlockSize) < 0 := by
    have := int32_nonneg_iff (n := s.mBufferPos + expected + expansionBlockSize) (by omega)
    push_cast at this
    omega
  rw [int32_of_range (by omega) (by omega), if_neg (by omega)]
  exact if_pos hwrap

/-- Java throws an exception for a byte array that C++ serializes. -/
theorem hugeArray_java_only_fails : (Call.one .bytes hugeArray).Encodable
    ∧ run FdbusSerializer.writeRawBytes .start (Call.one .bytes hugeArray).javaWrites = none
    ∧ ∃ s, run (CFdbSimpleSerializer.write .little) .start (Call.one .bytes hugeArray).cppWrites
        = some s ∧ s.bytes = leBytes 4 2147481644 ++ replicate 2147481644 0 := by
  have hlen : hugeArray.val.length = 2147481644 := length_replicate
  refine ⟨trivial, ?_, ?_⟩
  · show ((start.writeRawBytes (writeRawLittleEndian32 _)).bind fun s =>
      (s.writeRawBytes hugeArray.val).bind fun s => some s) = none
    rw [writeRawBytes_start rfl, bind_some]
    unfold writeRawBytes
    rw [expandBuffer_overflow]
    · rfl
    · rw [hlen, length_append, length_replicate]
      decide
    · rw [hlen]
      decide
    · rw [hlen]
      decide
  · have hwire : wire (Call.one .bytes hugeArray).cppWrites
        = leBytes 4 2147481644 ++ replicate 2147481644 0 := by
      show leBytes 4 hugeArray.val.length ++ (hugeArray.val ++ []) = _
      rw [hlen, append_nil]
      rfl
    rw [← hwire]
    apply run_write_start
    rw [hwire, length_append, length_leBytes, length_replicate]
    decide

end Fdbus.Wire

/-
  Fdbus.Wire.Unambiguous — can the bytes of two different values be the same?

  The values are sequences of `std::string` and `CFdbParcelableArray`, whose elements are numbers,
  `bool`, strings, byte arrays, arrays again, or classes made of such members.  A `Shape` is the
  type of a value as the reader knows it; two values of one shape are written in the same order and
  types.

    * `selfDelimiting_put` — while each length can be counted in 16 bits, the bytes of a value say
      where it ends and what it is,
    * `distinguishes_iff` — strings of up to `m` bytes and arrays of up to `n` elements are told
      apart by their bytes exactly when `m ≤ 65534` and `n ≤ 65535`: the length of a string is
      written with its NUL, so it wraps one byte earlier than the count of an array.
-/
import Fdbus.Wire.Parcelable

namespace Fdbus.Wire

open Fdbus.Codec List Function
open Fdbus.LittleEndian
open Fdbus.Run

/-! ## §1. Values and what is written for them. -/

/-- The type of a value. -/
inductive Shape where
  /-- An integer of `size` bytes. -/
  | number (size : Nat)
  /-- `bool`, and `abool` in arrays. -/
  | bool
  | string
  /-- `CFdbByteArray`. -/
  | bytes
  | array (element : Shape)
  /-- A class: its members in the order of `serialize`. -/
  | nothing
  | record (first rest : Shape)

/-- The values of a shape. -/
@[reducible] def Shape.Value : Shape → Type
  | .number size => Fin (256 ^ size)
  | .bool => Bool
  | .string => List UInt8
  | .bytes => { data : List UInt8 // data.length < 2 ^ 31 }
  | .array element => List element.Value
  | .nothing => Unit
  | .record first rest => first.Value × rest.Value

/-- `CFdbByteArray::serialize`. -/
def byteArrayWrites (data : List UInt8) : List Write := [.basic 4 data.length, .raw data]

/-- `serializer << value`. -/
def Shape.put : (s : Shape) → s.Value → List Write
  | .number size, v => [.basic size v.val]
  | .bool, v => [.basic 1 v.toNat]
  | .string, v => stringWrites v
  | .bytes, v => byteArrayWrites v.val
  | .array element, v => arrayWrites element.put v
  | .nothing, _ => []
  | .record first rest, v => first.put v.1 ++ rest.put v.2

/-- No string is longer than `m` bytes and no array than `n` elements. -/
def Shape.Within (m n : Nat) : (s : Shape) → s.Value → Prop
  | .number _, _ => True
  | .bool, _ => True
  | .string, v => v.length ≤ m
  | .bytes, _ => True
  | .array element, v => v.length ≤ n ∧ ∀ x ∈ v, element.Within m n x
  | .nothing, _ => True
  | .record first rest, v => first.Within m n v.1 ∧ rest.Within m n v.2

/-- What a sequence is made of. -/
inductive Item where
  | string
  | array (element : Shape)

/-- The type of a value of a sequence. -/
def Item.shape : Item → Shape
  | .string => .string
  | .array element => .array element

/-- The values of a sequence, one after the other. -/
def sequence (items : List Item) : Shape :=
  items.foldr (fun item rest => .record item.shape rest) .nothing

/-! ## §2. Each kind of value says where it ends. -/

/-- Numbers that fit their bytes. -/
theorem selfDelimiting_leBytes (size : Nat) :
    SelfDelimiting (fun n => n < 256 ^ size) (leBytes size) := by
  apply SelfDelimiting.of_length (fun v _ => length_leBytes size v)
  intro v w hv hw heq
  rw [← leNat_leBytes_of_lt hv, heq, leNat_leBytes_of_lt hw]

/-- One byte is its own code. -/
theorem selfDelimiting_byte : SelfDelimiting (fun _ : UInt8 => True) fun b => [b] :=
  SelfDelimiting.of_length (fun _ _ => rfl) fun _ _ _ _ heq => (cons.inj heq).1

/-- Bytes behind their number. -/
theorem selfDelimiting_counted_bytes {E : Nat → Prop} {count : Nat → List UInt8}
    (hcount : SelfDelimiting E count) :
    SelfDelimiting (fun data : List UInt8 => E data.length)
      fun data => count data.length ++ data := by
  apply (hcount.counted selfDelimiting_byte).comap injective_id
  intro data hdata
  refine ⟨⟨hdata, fun _ _ => trivial⟩, ?_⟩
  show count data.length ++ data = count data.length ++ data.flatMap fun b => [b]
  rw [flatMap_singleton']

/-- A string, its length and its NUL. -/
theorem selfDelimiting_string {m : Nat} (hm : m ≤ 65534) :
    SelfDelimiting (fun v : List UInt8 => v.length ≤ m) fun v => wire (stringWrites v) := by
  have hcount : SelfDelimiting (fun l => l ≤ m) fun l => leBytes 2 (l + 1) :=
    (selfDelimiting_leBytes 2).comap Nat.succ_injective fun l hl =>
      ⟨by show l + 1 < 256 ^ 2; omega, rfl⟩
  have hnul : SelfDelimiting (fun _ : Unit => True) fun _ => [(0 : UInt8)] :=
    SelfDelimiting.of_length (fun _ _ => rfl) fun _ _ _ _ _ => rfl
  have hunit : Injective fun v : List UInt8 => (v, ()) := fun v w h => congrArg Prod.fst h
  apply ((selfDelimiting_counted_bytes hcount).pair hnul).comap hunit
  intro v hv
  refine ⟨⟨hv, trivial⟩, ?_⟩
  show wire (stringWrites v) = leBytes 2 (v.length + 1) ++ v ++ [0]
  rw [wire_stringWrites, addString_of_lt (by omega), nil_append, append_assoc]

/-- A byte array and its size. -/
theorem selfDelimiting_byteArray : SelfDelimiting (fun data : List UInt8 => data.length < 2 ^ 31)
    fun data => wire (byteArrayWrites data) := by
  apply (selfDelimiting_counted_bytes (selfDelimiting_leBytes 4)).comap injective_id
  intro data hdata
  refine ⟨Nat.lt_trans hdata (by decide), ?_⟩
  show leBytes 4 data.length ++ (data ++ []) = _
  rw [append_nil]
  rfl

/-- **The bytes of a value say what it is**, by induction over its shape. -/
theorem selfDelimiting_put {m n : Nat} (hm : m ≤ 65534) (hn : n ≤ 65535) (s : Shape) :
    SelfDelimiting (s.Within m n) fun v => wire (s.put v) := by
  induction s with
  | number size =>
    apply (selfDelimiting_leBytes size).comap Fin.val_injective
    intro v _
    exact ⟨v.isLt, append_nil _⟩
  | bool =>
    have htoNat : Injective Bool.toNat := by decide
    apply (selfDelimiting_leBytes 1).comap htoNat
    intro v _
    exact ⟨Nat.lt_trans v.toNat_lt (by decide), append_nil _⟩
  | string => exact selfDelimiting_string hm
  | bytes =>
    apply selfDelimiting_byteArray.comap Subtype.val_injective
    intro v _
    exact ⟨v.property, rfl⟩
  | array element ih =>
    have hcount : SelfDelimiting (fun l => l ≤ n) (leBytes 2) :=
      (selfDelimiting_leBytes 2).comap injective_id fun l hl =>
        ⟨by show l < 256 ^ 2; omega, rfl⟩
    apply (hcount.counted ih).comap injective_id
    intro v hv
    refine ⟨hv, ?_⟩
    show wire (arrayWrites element.put v)
      = leBytes 2 v.length ++ v.flatMap fun x => wire (element.put x)
    have hlen : v.length ≤ n := hv.1
    unfold arrayWrites
    rw [wire_cons, wire_flatMap, Nat.mod_eq_of_lt (by omega)]
    rfl
  | nothing => exact SelfDelimiting.of_length (fun _ _ => rfl) fun _ _ _ _ _ => rfl
  | record first rest ihFirst ihRest =>
    apply (ihFirst.pair ihRest).comap injective_id
    intro v hv
    exact ⟨hv, wire_append _ _⟩

/-! ## §3. Different values have different bytes, up to the lengths that 16 bits can count. -/

/-- Serialized with a new serializer each, two different sequences of the same types give different
byte strings, when no string is longer than `m` and no array than `n`. -/
def Distinguishes (m n : Nat) : Prop :=
  ∀ (host : ByteOrder) (items : List Item) (v w : (sequence items).Value)
    (s t : CFdbSimpleSerializer),
    (sequence items).Within m n v → (sequence items).Within m n w → v ≠ w →
    run (CFdbSimpleSerializer.write host) .start ((sequence items).put v) = some s →
    run (CFdbSimpleSerializer.write host) .start ((sequence items).put w) = some t →
    s.bytes ≠ t.bytes

/-- A sequence of one string, of 65535 times this character. -/
def longString (c : UInt8) : (sequence [.string]).Value := (List.replicate 65535 c, ())

/-- Its length is written as 0, and none of its characters. -/
theorem run_longString (host : ByteOrder) (c : UInt8) :
    ∃ s, run (CFdbSimpleSerializer.write host) .start ((sequence [.string]).put (longString c))
        = some s ∧ s.bytes = [0, 0] := by
  have hwire : wire ((sequence [.string]).put (longString c)) = [0, 0] := by
    show wire (stringWrites (replicate 65535 c) ++ []) = [0, 0]
    unfold stringWrites
    rw [length_replicate]
    rfl
  rw [← hwire]
  exact run_write_start host _ (by rw [hwire]; decide)

theorem longString_inj {c d : UInt8} (h : longString c = longString d) : c = d :=
  (replicate_right_inj (by decide)).mp (congrArg Prod.fst h)

/-- The types of a sequence of two arrays of bytes. -/
def twoArrays : List Item := [.array (.number 1), .array (.number 1)]

/-- So many zeros in the one array and so many in the other. -/
def zeros (k l : Nat) : (sequence twoArrays).Value := (List.replicate k 0, List.replicate l 0, ())

/-- Zeros behind the count of their number. -/
theorem wire_array_zeros (k : Nat) :
    wire (arrayWrites (Shape.number 1).put (replicate k (0 : Fin (256 ^ 1))))
      = leBytes 2 (k % 2 ^ 16) ++ replicate k 0 := by
  unfold arrayWrites
  rw [wire_cons, wire_flatMap, length_replicate, flatMap_replicate]
  congr 1
  induction k with
  | zero => rfl
  | succ k ih => rw [replicate_succ, flatten_cons, ih]; rfl

theorem wire_zeros (k l : Nat) : wire ((sequence twoArrays).put (zeros k l))
    = leBytes 2 (k % 2 ^ 16) ++ replicate k 0
      ++ (leBytes 2 (l % 2 ^ 16) ++ replicate l 0) := by
  show wire (arrayWrites (Shape.number 1).put (replicate k (0 : Fin (256 ^ 1)))
    ++ (arrayWrites (Shape.number 1).put (replicate l (0 : Fin (256 ^ 1))) ++ [])) = _
  rw [append_nil, wire_append, wire_array_zeros, wire_array_zeros]

/-- 65536 zeros are counted as none, so all bytes are zeros, in whichever array they are. -/
theorem run_zeros (host : ByteOrder) {k l : Nat} (h : k = 65536 ∧ l = 0 ∨ k = 0 ∧ l = 65536) :
    ∃ s, run (CFdbSimpleSerializer.write host) .start ((sequence twoArrays).put (zeros k l))
        = some s
      ∧ s.bytes = replicate 65540 0 := by
  have hcount : leBytes 2 (65536 % 2 ^ 16) = replicate 2 0 := rfl
  have hnone : leBytes 2 (0 % 2 ^ 16) = replicate 2 0 := rfl
  have hwire : wire ((sequence twoArrays).put (zeros k l)) = replicate 65540 0 := by
    rw [wire_zeros]
    rcases h with ⟨rfl, rfl⟩ | ⟨rfl, rfl⟩
    · simp only [hcount, hnone, replicate_append_replicate]
    · simp only [hcount, hnone, replicate_append_replicate]
  rw [← hwire]
  exact run_write_start host _ (by rw [hwire, length_replicate]; decide)

theorem within_zeros {m n k l : Nat} (hk : k ≤ n) (hl : l ≤ n) :
    (sequence twoArrays).Within m n (zeros k l) := by
  refine ⟨⟨?_, fun _ _ => trivial⟩, ⟨?_, fun _ _ => trivial⟩, trivial⟩
  · show (replicate k _).length ≤ n
    rwa [length_replicate]
  · show (replicate l _).length ≤ n
    rwa [length_replicate]

theorem zeros_inj {k l k' l' : Nat} (h : zeros k l = zeros k' l') : k = k' := by
  have hlen : (replicate k (0 : Fin (256 ^ 1))).length
      = (replicate k' (0 : Fin (256 ^ 1))).length := congrArg (fun v => v.1.length) h
  rwa [length_replicate, length_replicate] at hlen

/-- **Bytes tell values apart**, exactly up to the lengths that 16 bits can count. -/
theorem distinguishes_iff (m n : Nat) : Distinguishes m n ↔ m ≤ 65534 ∧ n ≤ 65535 := by
  constructor
  · intro h
    refine ⟨Nat.le_of_not_lt fun hm => ?_, Nat.le_of_not_lt fun hn => ?_⟩
    · -- two strings whose length is written as 0
      have hwithin : ∀ c, (sequence [.string]).Within m n (longString c) := by
        intro c
        refine ⟨?_, trivial⟩
        show (replicate 65535 c).length ≤ m
        rwa [length_replicate]
      obtain ⟨s, hs, hsbytes⟩ := run_longString .little 97
      obtain ⟨t, ht, htbytes⟩ := run_longString .little 98
      exact h .little _ _ _ s t (hwithin 97) (hwithin 98)
        (fun heq => absurd (longString_inj heq) (by decide)) hs ht (by rw [hsbytes, htbytes])
    · -- two pairs of arrays that are zeros altogether
      obtain ⟨s, hs, hsbytes⟩ := run_zeros .little (.inl ⟨rfl, rfl⟩)
      obtain ⟨t, ht, htbytes⟩ := run_zeros .little (.inr ⟨rfl, rfl⟩)
      exact h .little _ _ _ s t (within_zeros hn (Nat.zero_le n)) (within_zeros (Nat.zero_le n) hn)
        (fun heq => absurd (zeros_inj heq) (by decide)) hs ht (by rw [hsbytes, htbytes])
  · intro ⟨hm, hn⟩ host items v w s t hv hw hne hs ht heq
    rw [run_write_bytes host _ _ s [] holds_start hs, run_write_bytes host _ _ t [] holds_start ht,
      nil_append, nil_append] at heq
    exact hne ((selfDelimiting_put hm hn (sequence items)).injective hv hw heq)

/-- One byte or one element too many: two strings with the same bytes, and two pairs of arrays. -/
theorem overlong_values_collide :
    (longString 97 ≠ longString 98
      ∧ ∃ s t, run (CFdbSimpleSerializer.write .little) .start
            ((sequence [.string]).put (longString 97)) = some s
          ∧ run (CFdbSimpleSerializer.write .little) .start
            ((sequence [.string]).put (longString 98)) = some t
          ∧ s.bytes = t.bytes)
    ∧ zeros 65536 0 ≠ zeros 0 65536
      ∧ ∃ s t, run (CFdbSimpleSerializer.write .little) .start
            ((sequence twoArrays).put (zeros 65536 0)) = some s
          ∧ run (CFdbSimpleSerializer.write .little) .start
            ((sequence twoArrays).put (zeros 0 65536)) = some t
          ∧ s.bytes = t.bytes := by
  refine ⟨⟨fun heq => absurd (longString_inj heq) (by decide), ?_⟩,
    fun heq => absurd (zeros_inj heq) (by decide), ?_⟩
  · obtain ⟨s, hs, hsbytes⟩ := run_longString .little 97
    obtain ⟨t, ht, htbytes⟩ := run_longString .little 98
    exact ⟨s, t, hs, ht, by rw [hsbytes, htbytes]⟩
  · obtain ⟨s, hs, hsbytes⟩ := run_zeros .little (.inl ⟨rfl, rfl⟩)
    obtain ⟨t, ht, htbytes⟩ := run_zeros .little (.inr ⟨rfl, rfl⟩)
    exact ⟨s, t, hs, ht, by rw [hsbytes, htbytes]⟩

end Fdbus.Wire

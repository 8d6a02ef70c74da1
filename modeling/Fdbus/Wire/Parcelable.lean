/-
  Fdbus.Wire.Parcelable — `IFdbParcelable`: what can be written to the wire and read back.

  Numbers, `bool`, `std::string` and arrays of parcelables are parcelables, and the messages of the
  protocols are made of them.  `serialize` gives the pieces that are written; `deserialize` reads
  into an object that is there already, on a host of either byte order.

    * `LawfulParcelable.decodes` — the law of a parcelable: reading the bytes of an object with any
      bytes before and behind gives an object that is the same in every member that is serialized,
      and stops right behind them,
    * `Reads.field`, `Reads.option` — members one after the other, for the classes that are
      made of others.

  A count has 16 bits and so has the length of a string, hence the limits in `Encodable`.
-/
import Fdbus.Library.Codec
import Fdbus.Wire.GrowingBuffer
import Fdbus.Wire.MessageHeader

namespace Fdbus.Wire

open Fdbus.Codec List
open Fdbus.LittleEndian

/-! ## §1. Parcelables. -/

/-- The bytes of a piece have a length in 16 bits. -/
def Small (ws : List Write) : Prop := ∀ w ∈ ws, w.bytes.length < 2 ^ 16

theorem small_nil : Small [] := fun _ hw => absurd hw not_mem_nil

/-- Members one after the other. -/
theorem small_flatten {members : List (List Write)} (h : ∀ ws ∈ members, Small ws) :
    Small members.flatten := by
  intro w hw
  obtain ⟨ws, hws, hw⟩ := mem_flatten.mp hw
  exact h ws hws w hw

/-- `IFdbParcelable`. -/
class IFdbParcelable (α : Type) where
  serialize : α → List Write
  deserialize : ByteOrder → α → Deserialize α
  /-- A new object; members without initializer are taken as 0. -/
  init : α
  /-- The object without the members that are not serialized. -/
  visible : α → α
  /-- Strings are free of NUL, and they and the arrays are not too long. -/
  Encodable : α → Prop

open IFdbParcelable

/-- A buffer of the announced size, read up to the end of `before`. -/
def place (before rest : List UInt8) : CFdbSimpleDeserializer :=
  ⟨before ++ rest, (before ++ rest).length, before.length, false⟩

/-- Bytes that are there do not exceed the size. -/
theorem not_exceeds_place (before bytes rest : List UInt8) :
    ¬ (place before (bytes ++ rest)).exceeds bytes.length := by
  intro hexceeds
  obtain ⟨-, hlt⟩ := hexceeds
  simp only [place, length_append] at hlt
  omega

/-- `serializer << data`. -/
abbrev put {α : Type} [IFdbParcelable α] (data : α) : List Write := serialize data

/-- `deserializer >> data`. -/
abbrev fetch {α : Type} [IFdbParcelable α] (host : ByteOrder) (data : α) : Deserialize α :=
  deserialize host data

/-- Reading the bytes of these pieces stops right behind them with an object in `Q`. -/
def Reads {α : Type} (m : Deserialize α) (ws : List Write) (Q : α → Prop) : Prop :=
  Decodes place m (wire ws) Q

/-- Reading undoes writing.  A class that lists its members has small pieces if they have. -/
class LawfulParcelable (α : Type) [IFdbParcelable α] : Prop where
  decodes : ∀ (host : ByteOrder) (v old : α), Encodable v →
    Reads (deserialize host old) (serialize v) fun w => visible w = visible v
  small : ∀ v : α, Small (serialize v) := by exact fun _ => small_flatten (by simp)

attribute [simp] LawfulParcelable.small

variable {α β : Type}

theorem Reads.pure {a : α} {Q : α → Prop} (h : Q a) :
    Reads (pure a : Deserialize α) [] Q := Decodes.pure h

variable {host : ByteOrder} {ws : List Write} {v old : α} {k : α → Deserialize β} {R : β → Prop}

/-- A member in front of others. -/
theorem Reads.field [IFdbParcelable α] [LawfulParcelable α] (hv : Encodable v)
    (hk : ∀ w, visible w = visible v → Reads (k w) ws R) :
    Reads (deserialize host old >>= k) (serialize v ++ ws) R := by
  unfold Reads
  rw [wire_append]
  exact Decodes.bind (LawfulParcelable.decodes host v old hv) hk

/-- Every member is serialized. -/
class PlainParcelable (α : Type) [IFdbParcelable α] : Prop where
  visible_eq : ∀ v : α, visible v = v

/-- A member of which everything is serialized, in front of others. -/
theorem Reads.plain [IFdbParcelable α] [LawfulParcelable α] [PlainParcelable α]
    (hv : Encodable v) (hk : Reads (k v) ws R) :
    Reads (deserialize host old >>= k) (serialize v ++ ws) R := by
  refine Reads.field hv fun w hw => ?_
  rw [PlainParcelable.visible_eq, PlainParcelable.visible_eq] at hw
  rwa [hw]

/-- A member that is written only if its option is set. -/
def writeIf {α : Type} [IFdbParcelable α] (option : Bool) (v : α) : List Write :=
  if option then serialize v else []

/-- A member that is serialized only if its option is set. -/
def visibleIf {α : Type} [IFdbParcelable α] (option : Bool) (v : α) : α :=
  if option then visible v else init

/-- A member with an option in front of others: without the option the old one stays. -/
theorem Reads.option [IFdbParcelable α] [LawfulParcelable α] {option : Bool}
    (hv : option = true → Encodable v)
    (hk : ∀ w, visibleIf option w = visibleIf option v → Reads (k w) ws R) :
    Reads (readIf option (deserialize host old) old >>= k) (writeIf option v ++ ws) R := by
  cases option with
  | false => exact hk old rfl
  | true => exact Reads.field (hv rfl) hk

@[simp] theorem small_writeIf [IFdbParcelable α] [LawfulParcelable α] (option : Bool) (v : α) :
    Small (writeIf option v) := by
  cases option with
  | false => exact small_nil
  | true => exact LawfulParcelable.small v

/-- The bit of a mask in an options byte. -/
def optionSet (options : BitVec 8) (bit : Nat) : Bool := options.getLsbD bit

section OneMember

variable {α β : Type} [IFdbParcelable α] (mk : α → β) (member : β → α)

/-- A class with a single member. -/
@[reducible] def oneMember : IFdbParcelable β where
  serialize m := [put (member m)].flatten
  deserialize host m := do
    let a ← fetch host (member m)
    pure (mk a)
  init := mk init
  visible m := mk (visible (member m))
  Encodable m := Encodable (member m)

variable {mk member}

theorem lawful_oneMember [LawfulParcelable α] (h : ∀ a, member (mk a) = a) :
    @LawfulParcelable β (oneMember mk member) := by
  let _ := oneMember mk member
  refine ⟨fun host v old hv => ?_, fun v => small_flatten ?_⟩
  · show Reads (fetch host (member old) >>= fun a => pure (mk a)) [put (member v)].flatten _
    have hm : Encodable (member v) := hv
    refine Reads.field hm fun a ha => Reads.pure ?_
    show mk (visible (member (mk a))) = mk (visible (member v))
    rw [h, ha]
  · simp

theorem plain_oneMember [PlainParcelable α] (h : ∀ m, mk (member m) = m) :
    @PlainParcelable β (oneMember mk member) := by
  let _ := oneMember mk member
  refine ⟨fun m => ?_⟩
  show mk (visible (member m)) = m
  rw [PlainParcelable.visible_eq, h]

end OneMember

/-! ## §2. Numbers. -/

/-- `deserializeScalar(data)` on a host of this byte order. -/
def deserializeScalarOn (host : ByteOrder) (size data : Nat) : Deserialize Nat := fun d =>
  if d.mError = true then some (data, d)
  else if d.exceeds size then some (data, { d with mError := true })
  else if d.mPos + size ≤ d.mBuffer.length then
    some (host.value (host.wireOrder (d.bytesAt size)), { d with mPos := d.mPos + size })
  else none

theorem deserializeScalarOn_eq (host : ByteOrder) (size data : Nat) :
    deserializeScalarOn host size data = deserializeScalar size data := by
  funext d
  unfold deserializeScalarOn deserializeScalar
  rw [value_wireOrder]

/-- A number of `size` bytes is read as it was written. -/
theorem decodes_scalar (host : ByteOrder) (size data n : Nat) :
    Decodes place (deserializeScalarOn host size data) (leBytes size n)
      fun x => x = n % 256 ^ size := by
  intro before rest
  have hlen : (before ++ (leBytes size n ++ rest)).length = before.length + size + rest.length := by
    simp only [length_append, length_leBytes]
    omega
  have hfits := not_exceeds_place before (leBytes size n) rest
  rw [length_leBytes] at hfits
  have hin : (place before (leBytes size n ++ rest)).mPos + size
      ≤ (place before (leBytes size n ++ rest)).mBuffer.length := by
    show before.length + size ≤ (before ++ (leBytes size n ++ rest)).length
    omega
  have hbytes : (place before (leBytes size n ++ rest)).bytesAt size = leBytes size n := by
    show ((before ++ (leBytes size n ++ rest)).drop before.length).take size = _
    rw [drop_left, take_left' (length_leBytes size n)]
  refine ⟨n % 256 ^ size, ?_, rfl⟩
  rw [deserializeScalarOn_eq, deserializeScalar_ok rfl hfits hin, hbytes,
    leNat_leBytes]
  simp [place, append_assoc, length_leBytes]

/-- A number as a parcelable: `size` bytes are `w` bits. -/
@[reducible] def scalarParcelable (size w : Nat) : IFdbParcelable (BitVec w) where
  serialize v := [.basic size v.toNat]
  deserialize host v := do
    let n ← deserializeScalarOn host size v.toNat
    pure (BitVec.ofNat w n)
  init := 0
  visible v := v
  Encodable _ := True

theorem lawful_scalar {size w : Nat} (h : 2 ^ w = 256 ^ size) (hsize : size < 2 ^ 16) :
    @LawfulParcelable (BitVec w) (scalarParcelable size w) := by
  let _ := scalarParcelable size w
  refine ⟨fun host v old _ => ?_, fun v p hp => ?_⟩
  · show Decodes place
      (deserializeScalarOn host size old.toNat >>= fun n => pure (BitVec.ofNat w n))
      (wire [.basic size v.toNat]) fun x => x = v
    refine (decodes_scalar host size old.toNat v.toNat).bind fun n hn => Decodes.pure ?_
    have hlt : v.toNat < 256 ^ size := h ▸ v.isLt
    rw [hn, Nat.mod_eq_of_lt hlt, BitVec.ofNat_toNat, BitVec.setWidth_eq]
  · obtain rfl := mem_singleton.mp hp
    show (leBytes size v.toNat).length < 2 ^ 16
    rwa [length_leBytes]

instance : IFdbParcelable (BitVec 8) := scalarParcelable 1 8
instance : IFdbParcelable (BitVec 32) := scalarParcelable 4 32
instance : LawfulParcelable (BitVec 8) := lawful_scalar (by decide) (by decide)
instance : LawfulParcelable (BitVec 32) := lawful_scalar (by decide) (by decide)
instance : PlainParcelable (BitVec 8) := ⟨fun _ => rfl⟩
instance : PlainParcelable (BitVec 32) := ⟨fun _ => rfl⟩

/-! ## §3. `bool` and `std::string`. -/

instance : IFdbParcelable Bool where
  serialize v := [.basic 1 (if v then 1 else 0)]
  deserialize host _ := do
    let value ← deserializeScalarOn host 1 0
    pure (value != 0)
  init := false
  visible v := v
  Encodable _ := True

instance : LawfulParcelable Bool where
  decodes host v old _ := by
    show Decodes place (deserializeScalarOn host 1 0 >>= fun value => pure (value != 0))
      (wire [.basic 1 (if v then 1 else 0)]) fun x => x = v
    rw [wire_cons, wire_nil]
    refine (decodes_scalar host 1 0 _).bind fun n hn => Decodes.pure ?_
    rw [hn]
    cases v <;> rfl
  small v w hw := by
    obtain rfl := List.mem_singleton.mp hw
    exact Nat.lt_of_le_of_lt (length_leBytes 1 _).le (by decide)

instance : PlainParcelable Bool := ⟨fun _ => rfl⟩

/-- `deserializer >> data` for a `std::string`, on a host of this byte order. -/
def deserializeStringOn (host : ByteOrder) (data : List UInt8) : Deserialize (List UInt8) := do
  let len ← deserializeScalarOn host 2 0
  deserializeChars data len

/-- `serializer << data` for a `std::string`: the pieces of `addString`. -/
def stringWrites (data : List UInt8) : List Write :=
  -- the cast of `data.size()`, and the sum for the NUL
  let l := (data.length % 2 ^ 16 + 1) % 2 ^ 16
  [.basic 2 l, .raw ((data ++ [0]).take l)]

instance : IFdbParcelable (List UInt8) where
  serialize := stringWrites
  deserialize := deserializeStringOn
  init := []
  visible v := v
  Encodable v := (0 : UInt8) ∉ v ∧ v.length ≤ 65534

theorem wire_stringWrites (data : List UInt8) : wire (stringWrites data) = addString data [] := by
  unfold stringWrites addString addRawData addScalar
  simp only [wire_cons, wire_nil, Write.bytes, append_nil, nil_append]

/-- The characters of a string, with their NUL. -/
theorem decodes_chars {str : List UInt8} (h : (0 : UInt8) ∉ str) (old : List UInt8) :
    Decodes place (deserializeChars old (str.length + 1)) (str ++ [0]) fun x => x = str := by
  intro before rest
  have hmem : before ++ (str ++ [0] ++ rest) = before ++ (str ++ 0 :: rest) := by simp
  have hfits := not_exceeds_place before (str ++ [0]) rest
  rw [length_append, length_singleton] at hfits
  -- the byte that is checked is the terminator
  have hlast : (place before (str ++ [0] ++ rest)).mBuffer[
      (place before (str ++ [0] ++ rest)).mPos + (str.length + 1) - 1]? = some 0 := by
    show (before ++ (str ++ [0] ++ rest))[before.length + str.length]? = some 0
    rw [hmem, getElem?_append_right (by omega), Nat.add_sub_cancel_left,
      getElem?_append_right (by omega), Nat.sub_self]
    rfl
  refine ⟨str, ?_, rfl⟩
  unfold deserializeChars
  rw [if_neg (by simp [place]), if_neg hfits, hlast]
  show some (((before ++ (str ++ [0] ++ rest)).drop before.length).takeWhile (· != 0), _) = _
  rw [drop_left, append_assoc, singleton_append, takeWhile_of_no_nul h]
  simp [place, append_assoc]

instance : LawfulParcelable (List UInt8) where
  decodes host v old hv := by
    obtain ⟨hnul, hlen⟩ := hv
    show Decodes place (deserializeScalarOn host 2 0 >>= deserializeChars old)
      (wire (stringWrites v)) fun x => x = v
    rw [wire_stringWrites, addString_of_lt (by omega), List.nil_append]
    refine (decodes_scalar host 2 0 (v.length + 1)).bind fun n hn => ?_
    -- 65534 characters and the NUL can just be counted
    have hmod : n = v.length + 1 := by
      rw [hn]
      exact Nat.mod_eq_of_lt (by omega)
    rw [hmod]
    exact decodes_chars hnul old
  small v := by
    have hl : (v.length % 2 ^ 16 + 1) % 2 ^ 16 < 2 ^ 16 := Nat.mod_lt _ (by decide)
    exact List.forall_mem_cons.mpr ⟨Nat.lt_of_le_of_lt (length_leBytes 2 _).le (by decide),
      List.forall_mem_singleton.mpr (Nat.lt_of_le_of_lt (List.length_take_le _ _) hl)⟩

instance : PlainParcelable (List UInt8) := ⟨fun _ => rfl⟩

/-! ## §4. Arrays. -/

theorem wire_flatMap (f : α → List Write) (vs : List α) :
    wire (vs.flatMap f) = vs.flatMap fun v => wire (f v) := flatMap_assoc

/-- The pieces of an array whose elements are written by `element`; the count is cast to 16 bits. -/
def arrayWrites {α : Type} (element : α → List Write) (pool : List α) : List Write :=
  .basic 2 (pool.length % 2 ^ 16) :: pool.flatMap element

/-- `CFdbParcelableArray<T>`, with all of `CFdbRepeatedParcelable<T>`. -/
structure CFdbParcelableArray (α : Type) where
  mPool : List α
  deriving DecidableEq

section Array

variable {α : Type} [IFdbParcelable α]

/-- `mPool.resize(size)`. -/
def resize (pool : List α) (size : Nat) : List α :=
  pool.take size ++ List.replicate (size - pool.length) init

/-- One round of the loop: nothing is read after an error. -/
def deserializeElement (host : ByteOrder) (value : α) : Deserialize α := fun d =>
  if d.mError = true then some (value, d) else deserialize host value d

/-- `CFdbRepeatedParcelable::serialize`. -/
def CFdbParcelableArray.serialize (a : CFdbParcelableArray α) : List Write :=
  arrayWrites IFdbParcelable.serialize a.mPool

/-- `CFdbRepeatedParcelable::deserialize`. -/
def CFdbParcelableArray.deserialize (host : ByteOrder) (a : CFdbParcelableArray α) :
    Deserialize (CFdbParcelableArray α) := fun d =>
  if d.mError = true then some (a, d)
  else (do
    let size ← deserializeScalarOn host 2 0
    -- elements that were there keep what is not read into them
    let pool ← (resize a.mPool size).mapM (deserializeElement host)
    pure ⟨pool⟩ : Deserialize (CFdbParcelableArray α)) d

instance : IFdbParcelable (CFdbParcelableArray α) where
  serialize := CFdbParcelableArray.serialize
  deserialize := CFdbParcelableArray.deserialize
  init := ⟨[]⟩
  visible a := ⟨a.mPool.map visible⟩
  Encodable a := a.mPool.length ≤ 65535 ∧ ∀ v ∈ a.mPool, Encodable v

theorem length_resize (pool : List α) (size : Nat) : (resize pool size).length = size := by
  unfold resize
  rw [length_append, length_take, length_replicate]
  omega

/-- An array whose count is refused becomes empty. -/
theorem deserialize_refused (host : ByteOrder)
    (a : CFdbParcelableArray α) {d : CFdbSimpleDeserializer} (herror : d.mError = false)
    (h : d.exceeds 2) :
    CFdbParcelableArray.deserialize host a d = some (⟨[]⟩, { d with mError := true }) := by
  unfold CFdbParcelableArray.deserialize
  rw [if_neg (by simp [herror])]
  show ((deserializeScalarOn host 2 0 d).bind fun p =>
    ((resize a.mPool p.1).mapM (deserializeElement host) >>= fun pool =>
      (pure ⟨pool⟩ : Deserialize (CFdbParcelableArray α))) p.2) = _
  rw [deserializeScalarOn_eq, deserializeScalar_refused herror h, Option.bind_some]
  have hempty : resize a.mPool 0 = [] := length_eq_zero_iff.mp (length_resize a.mPool 0)
  rw [hempty]
  rfl

/-- Before an error a guarded decoder is the decoder. -/
theorem decodes_guarded {β : Type} {m : Deserialize β} {other : CFdbSimpleDeserializer →
    Option (β × CFdbSimpleDeserializer)} {bytes : List UInt8} {Q : β → Prop}
    (h : Decodes place m bytes Q) :
    Decodes place (fun d => if d.mError = true then other d else m d) bytes Q := by
  intro before rest
  obtain ⟨b, hm, hb⟩ := h before rest
  refine ⟨b, ?_, hb⟩
  show (if (false : Bool) = true then _ else _) = _
  exact hm

theorem map_visible_of_forall₂ {vs ws : List α}
    (h : Forall₂ (fun v w => visible w = visible v) vs ws) :
    ws.map visible = vs.map visible := by
  induction h with
  | nil => rfl
  | cons hvw _ ih => rw [map_cons, map_cons, hvw, ih]

instance [LawfulParcelable α] : LawfulParcelable (CFdbParcelableArray α) where
  decodes host a old ha := by
    obtain ⟨hcount, helem⟩ := ha
    apply decodes_guarded
    show Decodes place _ (leBytes 2 (a.mPool.length % 2 ^ 16) ++ wire (a.mPool.flatMap serialize)) _
    refine (decodes_scalar host 2 0 _).bind fun size hsize => ?_
    -- the pool has as many elements as were counted, whatever was in it
    have hsize' : (resize old.mPool size).length = a.mPool.length := by
      rw [length_resize, hsize]
      omega
    rw [wire_flatMap, ← List.append_nil (List.flatMap _ _)]
    refine (Decodes.mapM a.mPool _ hsize' fun v hv w =>
      decodes_guarded (LawfulParcelable.decodes host v w (helem v hv))).bind fun pool hpool => ?_
    exact Decodes.pure (congrArg CFdbParcelableArray.mk (map_visible_of_forall₂ hpool))
  small a w hw := by
    rcases List.mem_cons.mp hw with rfl | hw
    · exact Nat.lt_of_le_of_lt (length_leBytes 2 _).le (by decide)
    · obtain ⟨v, -, hw⟩ := List.mem_flatMap.mp hw
      exact LawfulParcelable.small v w hw

instance [PlainParcelable α] : PlainParcelable (CFdbParcelableArray α) where
  visible_eq a := by
    have hid : (visible : α → α) = id := funext PlainParcelable.visible_eq
    show (⟨a.mPool.map visible⟩ : CFdbParcelableArray α) = a
    rw [hid, List.map_id]

end Array

end Fdbus.Wire

/-
  Fdbus.Wire.GrowingBuffer — the memory of a `CFdbSimpleSerializer`.

  The serializer starts in a scratch cache of 2048 bytes and moves to the heap when that is full.
  Its positions are `uint32_t`, so what is written on a large buffer may miss it.  Everything that
  is serialized is a sequence of two kinds of writes: a number, whose bytes are taken from the
  memory of the host in the order that makes them little-endian, and raw bytes.

    * `wireOrder_represent`, `value_wireOrder` — on either kind of host, what is written for a
      number are its little-endian bytes, and what is read from them is the number,
    * `run_write` — as long as the positions do not wrap, the memory holds exactly the bytes of the
      writes, one after the other; `wire` is that byte string,
    * `run_write_bytes` — whatever the sizes, a run that does not leave the memory writes `wire`,
    * `serializer_keeps_bytes` — with calls of `reset` between the writes, too.

  Bytes that are allocated and not yet written are taken as 0.  Memory does not run out.
-/
import Fdbus.Library.Run
import Fdbus.Wire.SimpleSerializer

namespace Fdbus.Wire

open Fdbus.LittleEndian List Option
open Fdbus.Run

/-! ## §1. The byte order of the host. -/

/-- `fdb_is_little_endian()`, or not. -/
inductive ByteOrder where
  | little
  | big
  deriving DecidableEq

/-- The bytes from `p_data` on, for a number of `size` bytes. -/
def ByteOrder.represent : ByteOrder → Nat → Nat → List UInt8
  | .little, size, n => leBytes size n
  | .big, size, n => (leBytes size n).reverse

/-- The number whose bytes are in memory. -/
def ByteOrder.value : ByteOrder → List UInt8 → Nat
  | .little, memory => leNat memory
  | .big, memory => leNat memory.reverse

/-- The loops of `addBasicType` and `retrieveBasicData`: a big-endian host goes through the bytes
backwards. -/
def ByteOrder.wireOrder : ByteOrder → List UInt8 → List UInt8
  | .little, bytes => bytes
  | .big, bytes => bytes.reverse

variable (w : Write) (host : ByteOrder) (ws : List Write) {s : CFdbSimpleSerializer}

/-- What is written for a number does not depend on the host. -/
theorem wireOrder_represent (size n : Nat) :
    host.wireOrder (host.represent size n) = leBytes size n := by
  cases host with
  | little => rfl
  | big => exact reverse_reverse _

/-- Neither does what is read. -/
theorem value_wireOrder (bytes : List UInt8) : host.value (host.wireOrder bytes) = leNat bytes := by
  cases host with
  | little => rfl
  | big => exact congrArg leNat (reverse_reverse bytes)

/-! ## §2. The serializer. -/

/-- `FDB_SCRATCH_CACHE_SIZE`. -/
def fdbScratchCacheSize : Nat := 2048

/-- `FDB_SER_BUFFER_BLOCK_SIZE`. -/
def fdbSerBufferBlockSize : Nat := 1024

/-- Conversion to `uint32_t`. -/
def uint32 (n : Nat) : Nat := n % 2 ^ 32

/-- `CFdbSimpleSerializer`: `mBuffer` is the memory the pointer refers to, and `onScratch` says that
it is `mScratchCache`. -/
structure CFdbSimpleSerializer where
  mBuffer : List UInt8
  onScratch : Bool
  mTotalSize : Nat
  mPos : Nat

namespace CFdbSimpleSerializer

/-- The constructor. -/
def start : CFdbSimpleSerializer :=
  ⟨List.replicate fdbScratchCacheSize 0, true, fdbScratchCacheSize, 0⟩

/-- `realloc(mBuffer, size)`. -/
def realloc (buffer : List UInt8) (size : Nat) : List UInt8 :=
  buffer.take size ++ List.replicate (size - buffer.length) 0

/-- `addMemory(size)`; `none` when the old bytes do not fit the new memory. -/
def addMemory (s : CFdbSimpleSerializer) (size : Nat) : Option CFdbSimpleSerializer :=
  let newPos := uint32 (s.mPos + size)
  if s.onScratch then
    if newPos > fdbScratchCacheSize then
      let total := uint32 (s.mTotalSize + (size + fdbSerBufferBlockSize))
      if s.mPos ≤ total then
        some { s with
          mBuffer := s.mBuffer.take s.mPos ++ List.replicate (total - s.mPos) 0
          onScratch := false
          mTotalSize := total }
      else none
    else some s
  else
    let total :=
      if newPos > s.mTotalSize then
        if size < fdbSerBufferBlockSize then uint32 (s.mTotalSize + fdbSerBufferBlockSize)
        else uint32 (s.mTotalSize + (size + fdbSerBufferBlockSize))
      else s.mTotalSize
    some { s with
      mBuffer := if total > s.mTotalSize then realloc s.mBuffer total else s.mBuffer
      mTotalSize := total }

/-- The loop that stores bytes from `mPos` on; `none` when it leaves the memory. -/
def store (s : CFdbSimpleSerializer) (bytes : List UInt8) : Option CFdbSimpleSerializer :=
  if s.mPos + bytes.length ≤ s.mBuffer.length then
    some { s with
      mBuffer := s.mBuffer.take s.mPos ++ (bytes ++ s.mBuffer.drop (s.mPos + bytes.length))
      mPos := uint32 (s.mPos + bytes.length) }
  else none

/-- `addRawData(p_data, size)`. -/
def addRawData (s : CFdbSimpleSerializer) (data : List UInt8) : Option CFdbSimpleSerializer :=
  (s.addMemory data.length).bind fun s => s.store data

/-- `addBasicType(p_data, size)`. -/
def addBasicType (host : ByteOrder) (s : CFdbSimpleSerializer) (pData : List UInt8) :
    Option CFdbSimpleSerializer :=
  (s.addMemory pData.length).bind fun s => s.store (host.wireOrder pData)

/-- `bufferSize()`, an `int32_t`. -/
def bufferSize (s : CFdbSimpleSerializer) : Int := int32 s.mPos

/-- The bytes that have been serialized. -/
def bytes (s : CFdbSimpleSerializer) : List UInt8 := s.mBuffer.take s.mPos

end CFdbSimpleSerializer

/-- What is serialized, piece by piece: a number of `size` bytes, or raw bytes. -/
inductive Write where
  | basic (size data : Nat)
  | raw (data : List UInt8)
  deriving DecidableEq

/-- The bytes of a piece. -/
def Write.bytes : Write → List UInt8
  | .basic size data => leBytes size data
  | .raw data => data

/-- The bytes of a sequence of pieces. -/
def wire (ws : List Write) : List UInt8 := ws.flatMap Write.bytes

@[simp] theorem wire_nil : wire [] = [] := rfl

@[simp] theorem wire_cons : wire (w :: ws) = w.bytes ++ wire ws := rfl

@[simp] theorem wire_append (ws' : List Write) : wire (ws ++ ws') = wire ws ++ wire ws' :=
  flatMap_append

/-- One piece, on this host. -/
def CFdbSimpleSerializer.write (host : ByteOrder) (s : CFdbSimpleSerializer) :
    Write → Option CFdbSimpleSerializer
  | .basic size data => s.addBasicType host (host.represent size data)
  | .raw data => s.addRawData data

/-! ## §3. What the memory holds. -/

/-- The memory starts with these bytes, and they are all that has been serialized. -/
structure Written (s : CFdbSimpleSerializer) (bytes : List UInt8) : Prop where
  pos : s.mPos = bytes.length
  content : s.mBuffer.take s.mPos = bytes
  total : s.mBuffer.length = s.mTotalSize
  scratch : s.onScratch = true → s.mTotalSize = fdbScratchCacheSize
  inside : s.mPos ≤ s.mTotalSize

theorem written_start : Written CFdbSimpleSerializer.start [] :=
  ⟨rfl, rfl, length_replicate, fun _ => rfl, Nat.zero_le _⟩

theorem uint32_of_lt {n : Nat} (h : n < 2 ^ 32) : uint32 n = n := Nat.mod_eq_of_lt h

open CFdbSimpleSerializer (realloc)

theorem length_realloc (buffer : List UInt8) (size : Nat) :
    (realloc buffer size).length = size := by
  unfold CFdbSimpleSerializer.realloc
  rw [length_append, length_take, length_replicate]
  omega

variable {s' : CFdbSimpleSerializer} {size : Nat}

theorem realloc_self {buffer : List UInt8} (h : buffer.length = size) :
    realloc buffer size = buffer := by
  unfold CFdbSimpleSerializer.realloc
  rw [h, Nat.sub_self, replicate_zero, append_nil, take_of_length_le h.le]

/-- What is in the old and in the new memory stays. -/
theorem take_realloc (buffer : List UInt8) {n : Nat} (hn : n ≤ size) (hbuffer : n ≤ buffer.length) :
    (realloc buffer size).take n = buffer.take n := by
  unfold CFdbSimpleSerializer.realloc
  rw [take_append_of_le_length (by rw [length_take]; omega), take_take,
    Nat.min_eq_left hn]

section

variable {bytes : List UInt8} (h : Written s bytes)

include h

/-- When the cache is full, its bytes move to the heap. -/
theorem Written.moved {total : Nat} (htotal : s.mPos ≤ total) :
    Written { s with
      onScratch := false
      mBuffer := s.mBuffer.take s.mPos ++ replicate (total - s.mPos) 0
      mTotalSize := total } bytes := by
  have htake : (s.mBuffer.take s.mPos).length = s.mPos := by
    rw [length_take, h.total]
    exact Nat.min_eq_left h.inside
  refine ⟨h.pos, ?_, ?_, fun hno => absurd hno (by simp), htotal⟩
  · show (s.mBuffer.take s.mPos ++ _).take s.mPos = bytes
    rw [take_left' htake, h.content]
  · show (s.mBuffer.take s.mPos ++ _).length = total
    rw [length_append, htake, length_replicate]
    omega

/-- Whatever is added on the heap, the bytes at the front stay. -/
theorem Written.grown (hheap : ¬ s.onScratch = true) {total : Nat} (hle : s.mTotalSize ≤ total) :
    Written { s with
      mBuffer := if total > s.mTotalSize then realloc s.mBuffer total else s.mBuffer
      mTotalSize := total } bytes := by
  have hinside := h.inside
  have hsame : (if total > s.mTotalSize then realloc s.mBuffer total else s.mBuffer)
      = realloc s.mBuffer total := by
    split
    · rfl
    · exact (realloc_self (by rw [h.total]; omega)).symm
  rw [hsame]
  refine ⟨h.pos, ?_, length_realloc _ _, fun hyes => absurd hyes hheap, hinside.trans hle⟩
  show (realloc s.mBuffer total).take s.mPos = bytes
  rw [take_realloc _ (by omega) (by rw [h.total]; omega), h.content]

/-- **There is room** for what comes next, while the sizes do not wrap. -/
theorem Written.addMemory {size : Nat} (hscratch : s.onScratch = true → size + 4096 ≤ 2 ^ 32)
    (hheap : ¬ s.onScratch = true → bytes.length + 2 * size + 1024 ≤ 2 ^ 32) :
    ∃ s', s.addMemory size = some s' ∧ Written s' bytes ∧ bytes.length + size ≤ s'.mTotalSize := by
  have hpos := h.pos
  have hinside := h.inside
  have hcache : fdbScratchCacheSize = 2048 := rfl
  have hblock : fdbSerBufferBlockSize = 1024 := rfl
  unfold CFdbSimpleSerializer.addMemory
  by_cases hon : s.onScratch = true
  · have htotal := h.scratch hon
    have hsize := hscratch hon
    have hnew : uint32 (s.mPos + size) = bytes.length + size := by
      rw [hpos, uint32_of_lt (by omega)]
    simp only [hnew]
    rw [if_pos hon]
    by_cases hfull : bytes.length + size > fdbScratchCacheSize
    · have hlarge : uint32 (s.mTotalSize + (size + fdbSerBufferBlockSize))
          = 3072 + size := by
        rw [htotal, hcache, hblock, uint32_of_lt (by omega)]
        omega
      rw [if_pos hfull, hlarge, if_pos (by omega)]
      exact ⟨_, rfl, h.moved (by omega), show bytes.length + size ≤ 3072 + size by omega⟩
    · rw [if_neg hfull]
      exact ⟨s, rfl, h, by omega⟩
  · have hsize := hheap hon
    have hnew : uint32 (s.mPos + size) = bytes.length + size := by
      rw [hpos, uint32_of_lt (by omega)]
    rw [if_neg hon]
    -- the new size is the old one, or what is needed and more
    have hgrow : ∀ total, s.mTotalSize ≤ total ∧ bytes.length + size ≤ total →
        ∃ s', some ({ s with
            mBuffer := if total > s.mTotalSize then realloc s.mBuffer total else s.mBuffer
            mTotalSize := total } : CFdbSimpleSerializer) = some s'
          ∧ Written s' bytes ∧ bytes.length + size ≤ s'.mTotalSize :=
      fun total htotal => ⟨_, rfl, h.grown hon htotal.1, htotal.2⟩
    apply hgrow
    split
    · split
      · rw [hblock, uint32_of_lt (by omega)]
        omega
      · rw [hblock, uint32_of_lt (by omega)]
        omega
    · omega

/-- Bytes for which there is room are stored behind the others. -/
theorem Written.store {data : List UInt8} (hroom : bytes.length + data.length ≤ s.mTotalSize)
    (hlt : bytes.length + data.length < 2 ^ 32) :
    ∃ s', s.store data = some s' ∧ Written s' (bytes ++ data) := by
  have hpos := h.pos
  have htotal := h.total
  have hnew : uint32 (s.mPos + data.length) = bytes.length + data.length := by
    rw [hpos, uint32_of_lt hlt]
  have htake : (s.mBuffer.take s.mPos ++ data).length = bytes.length + data.length := by
    rw [length_append, length_take]
    omega
  unfold CFdbSimpleSerializer.store
  rw [if_pos (by omega), hnew, ← append_assoc]
  refine ⟨_, rfl, ⟨?_, ?_, ?_, h.scratch, hroom⟩⟩
  · show bytes.length + data.length = (bytes ++ data).length
    rw [length_append]
  · show (s.mBuffer.take s.mPos ++ data ++ _).take (bytes.length + data.length) = bytes ++ data
    rw [take_left' htake, h.content]
  · show (s.mBuffer.take s.mPos ++ data ++ _).length = s.mTotalSize
    rw [length_append, htake, length_drop]
    omega

end

/-- Both kinds of pieces make room for their bytes and store them. -/
theorem write_eq (s : CFdbSimpleSerializer) (w : Write) :
    s.write host w = (s.addMemory w.bytes.length).bind fun s => s.store w.bytes := by
  cases w with
  | raw data => rfl
  | basic size data =>
    have hlen : (host.represent size data).length = (leBytes size data).length := by
      cases host with
      | little => rfl
      | big => exact length_reverse
    show (s.addMemory (host.represent size data).length).bind
      (fun s => s.store (host.wireOrder (host.represent size data))) = _
    rw [hlen, wireOrder_represent]
    rfl

/-- **One piece**, on any host. -/
theorem Written.write {bytes : List UInt8} (h : Written s bytes)
    (host : ByteOrder) (w : Write) (hw : bytes.length + 2 * w.bytes.length + 1024 ≤ 2 ^ 32) :
    ∃ s', s.write host w = some s' ∧ Written s' (bytes ++ w.bytes) := by
  obtain ⟨s₁, hs₁, hwritten, hroom⟩ := h.addMemory (fun _ => by omega) fun _ => hw
  obtain ⟨s₂, hs₂, hstored⟩ := hwritten.store hroom (by omega)
  refine ⟨s₂, ?_, hstored⟩
  rw [write_eq, hs₁, bind_some, hs₂]

/-- **A sequence of pieces**, by induction over it, when none is longer than `c`. -/
theorem run_write {c : Nat} (ws : List Write) :
    ∀ (s : CFdbSimpleSerializer) (bytes : List UInt8), Written s bytes →
      (∀ w ∈ ws, w.bytes.length ≤ c) → bytes.length + (wire ws).length + c + 1024 ≤ 2 ^ 32 →
      ∃ s', run (CFdbSimpleSerializer.write host) s ws = some s'
        ∧ Written s' (bytes ++ wire ws) := by
  induction ws with
  | nil =>
    intro s bytes h _ _
    exact ⟨s, rfl, by rwa [wire_nil, append_nil]⟩
  | cons w ws ih =>
    intro s bytes h hpieces hsize
    have hw := hpieces w mem_cons_self
    rw [wire_cons, length_append] at hsize
    obtain ⟨s₁, hs₁, h₁⟩ := h.write host w (by omega)
    obtain ⟨s₂, hs₂, h₂⟩ := ih s₁ (bytes ++ w.bytes) h₁
      (fun v hv => hpieces v (mem_cons_of_mem w hv)) (by rw [length_append]; omega)
    refine ⟨s₂, ?_, ?_⟩
    · show ((s.write host w).bind fun s' => run _ s' ws) = some s₂
      rw [hs₁, bind_some, hs₂]
    · rwa [wire_cons, ← append_assoc]

/-! ## §4. What the memory holds after any run.

A run in which the sizes wrap stops when the bytes miss the memory; what comes through has written
every byte. -/

/-- The memory starts with these bytes, whatever the size is said to be. -/
structure Holds (s : CFdbSimpleSerializer) (bytes : List UInt8) : Prop where
  pos : s.mPos = bytes.length
  inside : s.mPos ≤ s.mBuffer.length
  content : s.mBuffer.take s.mPos = bytes
  addressable : s.mBuffer.length < 2 ^ 32

theorem holds_start : Holds CFdbSimpleSerializer.start [] :=
  ⟨rfl, Nat.zero_le _, rfl, by
    show (replicate fdbScratchCacheSize (0 : UInt8)).length < 2 ^ 32
    rw [length_replicate]
    decide⟩

/-- New memory keeps the bytes, if it still reaches to their end. -/
theorem Holds.addMemory {bytes : List UInt8} (h : Holds s bytes) (hs : s.addMemory size = some s') :
    s'.mPos = s.mPos ∧ s'.mBuffer.length < 2 ^ 32
      ∧ (s.mPos ≤ s'.mBuffer.length → s'.mBuffer.take s.mPos = bytes) := by
  have huint : ∀ n, uint32 n < 2 ^ 32 := fun n => Nat.mod_lt n (by decide)
  unfold CFdbSimpleSerializer.addMemory at hs
  simp only at hs
  split at hs
  · split at hs
    · -- the bytes of the cache are copied
      obtain ⟨hfit, rfl⟩ := of_guard hs
      have htake : (s.mBuffer.take s.mPos).length = s.mPos := by
        rw [length_take]
        exact Nat.min_eq_left h.inside
      refine ⟨rfl, ?_, fun _ => ?_⟩
      · show (s.mBuffer.take s.mPos ++ replicate _ 0).length < 2 ^ 32
        rw [length_append, htake, length_replicate, Nat.add_sub_cancel' hfit]
        exact huint _
      · show (s.mBuffer.take s.mPos ++ replicate _ 0).take s.mPos = bytes
        rw [take_left' htake, h.content]
    · cases hs
      exact ⟨rfl, h.addressable, fun _ => h.content⟩
  · cases hs
    -- the new size is the old one, or a `uint32_t`
    have hsize : ∀ total, (total = s.mTotalSize ∨ total < 2 ^ 32) →
        let buffer := if total > s.mTotalSize then realloc s.mBuffer total else s.mBuffer
        buffer.length < 2 ^ 32 ∧ (s.mPos ≤ buffer.length → buffer.take s.mPos = bytes) := by
      intro total htotal
      by_cases hmore : total > s.mTotalSize
      · simp only [if_pos hmore, length_realloc]
        exact ⟨by omega, fun hle => by rw [take_realloc _ hle h.inside, h.content]⟩
      · simp only [if_neg hmore]
        exact ⟨h.addressable, fun _ => h.content⟩
    refine ⟨rfl, hsize _ ?_⟩
    split
    · split
      · exact .inr (huint _)
      · exact .inr (huint _)
    · exact .inl rfl

theorem Holds.store {bytes data : List UInt8} (hpos : s.mPos = bytes.length)
    (haddr : s.mBuffer.length < 2 ^ 32)
    (hcontent : s.mPos ≤ s.mBuffer.length → s.mBuffer.take s.mPos = bytes)
    (hs : s.store data = some s') : Holds s' (bytes ++ data) := by
  obtain ⟨hroom, rfl⟩ := of_guard hs
  have hnew : uint32 (s.mPos + data.length) = s.mPos + data.length := uint32_of_lt (by omega)
  have htake : (s.mBuffer.take s.mPos ++ data).length = s.mPos + data.length := by
    rw [length_append, length_take]
    omega
  have hall : (s.mBuffer.take s.mPos ++ (data ++ s.mBuffer.drop (s.mPos + data.length))).length
      = s.mBuffer.length := by
    rw [← append_assoc, length_append, htake, length_drop]
    omega
  refine ⟨?_, ?_, ?_, ?_⟩
  · show uint32 (s.mPos + data.length) = (bytes ++ data).length
    rw [hnew, length_append, hpos]
  · show uint32 (s.mPos + data.length) ≤ _
    rw [hnew, hall]
    exact hroom
  · show (s.mBuffer.take s.mPos ++ (data ++ _)).take (uint32 (s.mPos + data.length)) = _
    rw [hnew, ← append_assoc, take_left' htake, hcontent (by omega)]
  · show (s.mBuffer.take s.mPos ++ (data ++ _)).length < 2 ^ 32
    rwa [hall]

/-- **What has been written is there**: a run that comes through leaves the bytes of the pieces. -/
theorem run_write_bytes :
    ∀ (s s' : CFdbSimpleSerializer) (bytes : List UInt8), Holds s bytes →
      run (CFdbSimpleSerializer.write host) s ws = some s' → s'.bytes = bytes ++ wire ws := by
  induction ws with
  | nil =>
    intro s s' bytes h hrun
    cases hrun
    rw [wire_nil, append_nil]
    exact h.content
  | cons w ws ih =>
    intro s s' bytes h hrun
    obtain ⟨t, ht, hrun'⟩ := bind_eq_some_iff.mp hrun
    rw [write_eq] at ht
    obtain ⟨r, hr, hstore⟩ := bind_eq_some_iff.mp ht
    obtain ⟨hpos, haddr, hcontent⟩ := h.addMemory hr
    rw [← hpos] at hcontent
    have hnew : Holds t (bytes ++ w.bytes) :=
      Holds.store (hpos.trans h.pos) haddr hcontent hstore
    rw [ih t s' (bytes ++ w.bytes) hnew hrun', wire_cons, append_assoc]

theorem Written.bytes_eq {bytes : List UInt8} (h : Written s bytes) : s.bytes = bytes := h.content

theorem Written.bufferSize_eq {bytes : List UInt8}
    (h : Written s bytes) : s.bufferSize = int32 bytes.length := by
  unfold CFdbSimpleSerializer.bufferSize
  rw [h.pos]

/-- **A new serializer** takes whatever has at most `2^31 - 512` bytes. -/
theorem run_write_start (h : (wire ws).length ≤ 2147483136) :
    ∃ s, run (CFdbSimpleSerializer.write host) .start ws = some s ∧ s.bytes = wire ws := by
  have hpiece : ∀ w ∈ ws, w.bytes.length ≤ 2147483136 := fun w hw =>
    (Sublist.length_le (sublist_flatten_of_mem (mem_map_of_mem hw))).trans h
  obtain ⟨s, hs, hwritten⟩ := run_write host ws .start [] written_start hpiece
    (by rw [length_nil]; omega)
  exact ⟨s, hs, hwritten.bytes_eq⟩

/-! ## §5. The calls of a serializer.

Between the calls the heap is in use only for more bytes than the cache has, so sizes below `2 ^ 31`
never wrap. -/

namespace CFdbSimpleSerializer

/-- `reset()`; what is left in the cache counts as not written. -/
def reset (s : CFdbSimpleSerializer) : CFdbSimpleSerializer :=
  if s.onScratch then { s with mTotalSize := fdbScratchCacheSize, mPos := 0 } else start

/-- `addString(string, str_len)`: the length with the NUL is a `fdb_string_len_t`. -/
def addString (host : ByteOrder) (s : CFdbSimpleSerializer) (string : List UInt8)
    (strLen : BitVec 16) : Option CFdbSimpleSerializer :=
  let l := (strLen + 1).toNat
  (s.addBasicType host (host.represent 2 l)).bind fun s => s.addRawData (string.take l)

end CFdbSimpleSerializer

/-- A call of a serializer. -/
inductive SerializerCall where
  | addRawData (pData : List UInt8)
  | addBasicType (pData : List UInt8)
  | addString (string : List UInt8) (strLen : BitVec 16)
  | reset

def CFdbSimpleSerializer.call (host : ByteOrder) (s : CFdbSimpleSerializer) :
    SerializerCall → Option CFdbSimpleSerializer
  | .addRawData pData => s.addRawData pData
  | .addBasicType pData => s.addBasicType host pData
  | .addString string strLen => s.addString host string strLen
  | .reset => some s.reset

/-- What has been written since the last reset, after one more call. -/
def SerializerCall.append (host : ByteOrder) (bytes : List UInt8) : SerializerCall → List UInt8
  | .addRawData pData => bytes ++ pData
  | .addBasicType pData => bytes ++ host.wireOrder pData
  | .addString string strLen =>
    bytes ++ leBytes 2 (strLen + 1).toNat ++ string.take (strLen + 1).toNat
  | .reset => []

/-- What has been written since the last reset. -/
def writtenBy (host : ByteOrder) (calls : List SerializerCall) : List UInt8 :=
  calls.foldl (SerializerCall.append host) []

/-- What holds between two calls. -/
structure Kept (s : CFdbSimpleSerializer) (bytes : List UInt8) : Prop extends Written s bytes where
  heap : s.onScratch = false → fdbScratchCacheSize < bytes.length

/-- The heap is used when the cache is too small. -/
theorem addMemory_onScratch (hs : s.addMemory size = some s') (hheap : s'.onScratch = false) :
    s.onScratch = false ∨ fdbScratchCacheSize < s.mPos + size := by
  by_cases hscratch : s.onScratch = true
  · right
    unfold CFdbSimpleSerializer.addMemory at hs
    simp only [if_pos hscratch] at hs
    split at hs
    · rename_i hfull
      exact hfull.trans_le (Nat.mod_le _ _)
    · cases hs
      rw [hscratch] at hheap
      cases hheap
  · exact .inl (eq_false_of_ne_true hscratch)

section

variable {bytes data : List UInt8} (h : Kept s bytes)

include h

/-- Room is made for some bytes, and they are stored. -/
theorem Kept.add (hsize : size = data.length) (hlt : bytes.length + data.length < 2 ^ 31) :
    ∃ s', ((s.addMemory size).bind fun s => s.store data) = some s' ∧ Kept s' (bytes ++ data) := by
  subst hsize
  have hcache : fdbScratchCacheSize = 2048 := rfl
  have hheap : ¬ s.onScratch = true → bytes.length + 2 * data.length + 1024 ≤ 2 ^ 32 := by
    intro hheap
    have := h.heap (eq_false_of_ne_true hheap)
    omega
  obtain ⟨s₁, hs₁, hwritten, hroom⟩ := h.addMemory (fun _ => by omega) hheap
  obtain ⟨s₂, hs₂, hstored⟩ := hwritten.store hroom (by omega)
  refine ⟨s₂, by rw [hs₁, bind_some, hs₂], hstored, fun hheap => ?_⟩
  have hsame : s₂.onScratch = s₁.onScratch := by
    obtain ⟨-, rfl⟩ := of_guard hs₂
    rfl
  rw [length_append]
  rcases addMemory_onScratch hs₁ (hsame ▸ hheap) with hbefore | hfull
  · have := h.heap hbefore
    omega
  · rwa [h.pos] at hfull

theorem Kept.reset : Kept s.reset [] := by
  unfold CFdbSimpleSerializer.reset
  split
  · rename_i hscratch
    have htotal : s.mBuffer.length = fdbScratchCacheSize := h.total.trans (h.scratch hscratch)
    exact ⟨⟨rfl, rfl, htotal, fun _ => rfl, Nat.zero_le _⟩, fun hheap => by
      rw [show s.onScratch = false from hheap] at hscratch
      cases hscratch⟩
  · exact ⟨written_start, nofun⟩

/-- **One call.** -/
theorem Kept.call (c : SerializerCall) (hlt : (c.append host bytes).length < 2 ^ 31) :
    ∃ s', s.call host c = some s' ∧ Kept s' (c.append host bytes) := by
  have horder : ∀ pData : List UInt8, pData.length = (host.wireOrder pData).length := by
    intro pData
    cases host with
    | little => rfl
    | big => exact length_reverse.symm
  cases c with
  | addRawData pData => exact h.add rfl (by rwa [← length_append])
  | addBasicType pData => exact h.add (horder pData) (by rwa [← length_append])
  | addString string strLen =>
    have hlt' : (bytes ++ leBytes 2 (strLen + 1).toNat
        ++ string.take (strLen + 1).toNat).length < 2 ^ 31 := hlt
    rw [length_append] at hlt'
    have hbytes := wireOrder_represent host 2 (strLen + 1).toNat
    obtain ⟨s₁, hs₁, h₁⟩ := h.add (horder (host.represent 2 (strLen + 1).toNat))
      (by rw [hbytes, ← length_append]; omega)
    rw [hbytes] at h₁
    obtain ⟨s₂, hs₂, h₂⟩ := h₁.add rfl hlt'
    refine ⟨s₂, ?_, h₂⟩
    show ((s.addBasicType host (host.represent 2 (strLen + 1).toNat)).bind _) = some s₂
    rw [show s.addBasicType host (host.represent 2 (strLen + 1).toNat) = some s₁ from hs₁]
    exact hs₂
  | reset => exact ⟨s.reset, rfl, h.reset⟩

end

/-- By induction over the calls, from any state between two of them. -/
theorem run_call (calls : List SerializerCall) :
    ∀ (s : CFdbSimpleSerializer) (bytes : List UInt8), Kept s bytes →
      (∀ past, past <+: calls → (past.foldl (SerializerCall.append host) bytes).length < 2 ^ 31) →
      ∃ s', run (CFdbSimpleSerializer.call host) s calls = some s'
        ∧ Kept s' (calls.foldl (SerializerCall.append host) bytes) := by
  induction calls with
  | nil => exact fun s bytes h _ => ⟨s, rfl, h⟩
  | cons c calls ih =>
    intro s bytes h hsize
    obtain ⟨s₁, hs₁, h₁⟩ := h.call host c (hsize [c] ⟨calls, rfl⟩)
    obtain ⟨s₂, hs₂, h₂⟩ := ih s₁ _ h₁ fun past hpast =>
      hsize (c :: past) (cons_prefix_cons.mpr ⟨rfl, hpast⟩)
    refine ⟨s₂, ?_, h₂⟩
    show ((s.call host c).bind fun s' => run _ s' calls) = some s₂
    rw [hs₁, bind_some, hs₂]

/-- **The serializer never leaves its memory and loses nothing**: in every sequence of calls that
writes less than `2 ^ 31` bytes from one reset to the next, each call stores its bytes inside the
memory, and after it the memory starts with all that was written since the last reset. -/
theorem serializer_keeps_bytes (calls : List SerializerCall)
    (hsize : ∀ past, past <+: calls → (writtenBy host past).length < 2 ^ 31) :
    ∀ past, past <+: calls → ∃ s, run (CFdbSimpleSerializer.call host) .start past = some s
      ∧ s.mBuffer.length = s.mTotalSize ∧ s.mPos = (writtenBy host past).length
      ∧ s.mBuffer.take s.mPos = writtenBy host past := by
  intro past hpast
  obtain ⟨s, hs, hkept⟩ := run_call host past .start [] ⟨written_start, nofun⟩
    fun past' hpast' => hsize past' (hpast'.trans hpast)
  exact ⟨s, hs, hkept.total, hkept.pos, hkept.content⟩

/-- Two bytes, a string, and one byte after a reset. -/
theorem serializer_keeps_bytes_reset :
    ∃ s, run (CFdbSimpleSerializer.call .big) .start
        [.addBasicType [1, 2], .addString [97, 0] 1, .reset, .addRawData [7]] = some s
      ∧ s.mBuffer.length = s.mTotalSize ∧ s.mPos = 1 ∧ s.mBuffer.take s.mPos = [7] := by
  refine serializer_keeps_bytes .big _ (fun past hpast => ?_) _ (prefix_refl _)
  rw [← mem_inits] at hpast
  revert past
  decide

end Fdbus.Wire

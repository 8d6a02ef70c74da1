/-
  Fdbus.Common.Defs — the shared vocabulary of `common_defs.h` and `CFdbMessage.h`.

  Identifiers keep the width the source gives them (`FdbMsgCode_t` is a 32-bit word),
  enumerations are inductive types, and the event-group macros are bit operations on
  the code.  A byte read from the wire that is no enumerator becomes the enumerator
  every `switch` of the source treats the same way (its `default` branch): message
  type `mtUnknown`, QoS `qosInvalid`.
-/
import Mathlib

namespace Fdbus

/-! ## §1. Machine integers. -/

/-- Conversion to `int32_t`. -/
def int32 (x : Int) : Int := Int.bmod x (2 ^ 32)

theorem int32_of_range {x : Int} (h₁ : -(2 ^ 31) ≤ x) (h₂ : x < 2 ^ 31) :
    int32 x = x := by
  unfold int32
  rw [Int.bmod_def]
  split <;> omega

/-- A 32-bit unsigned value read as `int32_t` is negative from `2^31` on. -/
theorem int32_nonneg_iff {n : Nat} (h : n < 2 ^ 32) : 0 ≤ int32 n ↔ n < 2 ^ 31 := by
  unfold int32
  rw [Int.bmod_def]
  split <;> omega

/-! ## §2. Enumerations. -/

/-- `EFdbQOS`. -/
inductive EFdbQOS where
  | qosLocal
  | qosReliable
  | qosBestEfforts
  | qosSecureReliable
  | qosSecureBestEfforts
  | qosTrySecureReliable
  | qosTrySecureBestEfforts
  | qosInvalid
  deriving Repr, DecidableEq

/-- The value of a QoS on the wire. -/
def EFdbQOS.toByte : EFdbQOS → Nat
  | .qosLocal => 0
  | .qosReliable => 1
  | .qosBestEfforts => 2
  | .qosSecureReliable => 3
  | .qosSecureBestEfforts => 4
  | .qosTrySecureReliable => 5
  | .qosTrySecureBestEfforts => 6
  | .qosInvalid => 7

/-- The cast `(EFdbQOS)qos` of a received byte. -/
def EFdbQOS.ofByte : Nat → EFdbQOS
  | 0 => .qosLocal
  | 1 => .qosReliable
  | 2 => .qosBestEfforts
  | 3 => .qosSecureReliable
  | 4 => .qosSecureBestEfforts
  | 5 => .qosTrySecureReliable
  | 6 => .qosTrySecureBestEfforts
  | _ => .qosInvalid

theorem EFdbQOS.ofByte_toByte (q : EFdbQOS) : EFdbQOS.ofByte q.toByte = q := by
  cases q <;> rfl

theorem EFdbQOS.toByte_lt (q : EFdbQOS) : q.toByte < 256 := by
  cases q <;> decide

/-- `EFdbMessageType`. -/
inductive EFdbMessageType where
  | mtUnknown
  | mtRequest
  | mtReply
  | mtSubscribeReq
  | mtBroadcast
  | mtSidebandRequest
  | mtSidebandReply
  | mtStatus
  | mtGetEvent
  | mtReturnEvent
  | mtPublish
  | mtSetEvent
  deriving Repr, DecidableEq

/-- The value of a message type on the wire. -/
def EFdbMessageType.toByte : EFdbMessageType → Nat
  | .mtUnknown => 0
  | .mtRequest => 1
  | .mtReply => 2
  | .mtSubscribeReq => 3
  | .mtBroadcast => 4
  | .mtSidebandRequest => 5
  | .mtSidebandReply => 6
  | .mtStatus => 7
  | .mtGetEvent => 8
  | .mtReturnEvent => 9
  | .mtPublish => 10
  | .mtSetEvent => 11

/-- The cast `(EFdbMessageType)msg_type` of a received byte. -/
def EFdbMessageType.ofByte : Nat → EFdbMessageType
  | 1 => .mtRequest
  | 2 => .mtReply
  | 3 => .mtSubscribeReq
  | 4 => .mtBroadcast
  | 5 => .mtSidebandRequest
  | 6 => .mtSidebandReply
  | 7 => .mtStatus
  | 8 => .mtGetEvent
  | 9 => .mtReturnEvent
  | 10 => .mtPublish
  | 11 => .mtSetEvent
  | _ => .mtUnknown

theorem EFdbMessageType.ofByte_toByte (t : EFdbMessageType) :
    EFdbMessageType.ofByte t.toByte = t := by
  cases t <;> rfl

theorem EFdbMessageType.toByte_lt (t : EFdbMessageType) : t.toByte < 256 := by
  cases t <;> decide

/-! ## §3. Event codes and groups. -/

/-- `FdbMsgCode_t`, `FdbEventCode_t`: the top 8 bits are the event group. -/
abbrev FdbMsgCode := BitVec 32

/-- `FdbObjectId_t`: serial number in the high half, class in the low half. -/
abbrev FdbObjectId := BitVec 32

/-- `FDB_EVENT_ID_MASK`. -/
def fdbEventIdMask : BitVec 32 := 0x00ffffff#32

/-- `FDB_EVENT_GROUP_MASK`. -/
def fdbEventGroupMask : BitVec 32 := 0xff000000#32

/-- `fdbMakeGroup(_event)`: the group an event belongs to, as an event code. -/
def fdbMakeGroup (event : FdbMsgCode) : FdbMsgCode := event ||| fdbEventIdMask

/-- `fdbMakeGroupEvent(FDB_EVENT_ALL_GROUPS)`. -/
def fdbAllGroupsEvent : FdbMsgCode := 0xffffffff#32

/-- `fdbIsGroup(_event)`. -/
def fdbIsGroup (event : FdbMsgCode) : Bool := event &&& fdbEventIdMask == fdbEventIdMask

/-- `fdbEventInGroup(_event, FDB_EVENT_ALL_GROUPS)`. -/
def fdbEventInAllGroups (event : FdbMsgCode) : Bool :=
  event &&& fdbEventGroupMask == fdbEventGroupMask

variable (group event : FdbMsgCode)

theorem fdbIsGroup_makeGroup : fdbIsGroup (fdbMakeGroup event) = true := by
  simp only [fdbIsGroup, fdbMakeGroup, beq_iff_eq]
  ext i hi
  simp only [BitVec.getElem_and, BitVec.getElem_or]
  cases event[i] <;> simp

theorem fdbIsGroup_allGroups : fdbIsGroup fdbAllGroupsEvent = true := by decide

/-- A group code is its own group. -/
theorem fdbMakeGroup_of_isGroup {event : FdbMsgCode} (h : fdbIsGroup event = true) :
    fdbMakeGroup event = event := by
  simp only [fdbIsGroup, beq_iff_eq] at h
  unfold fdbMakeGroup
  ext i hi
  have hbit : (event[i] && fdbEventIdMask[i]) = fdbEventIdMask[i] := by
    rw [← BitVec.getElem_and, h]
  cases he : event[i] <;> simp_all

/-- An event lies in the all-groups group exactly when its own group is that group. -/
theorem fdbEventInAllGroups_iff :
    fdbEventInAllGroups event = true ↔ fdbMakeGroup event = fdbAllGroupsEvent := by
  -- bit by bit: the two masks are complementary
  have hmask : ∀ i (hi : i < 32), fdbEventGroupMask[i] = !fdbEventIdMask[i] := by decide
  have hones : ∀ i (hi : i < 32), fdbAllGroupsEvent[i] = true := by decide
  simp only [fdbEventInAllGroups, fdbMakeGroup, beq_iff_eq]
  constructor
  · intro h
    ext i hi
    have hbit : (event[i] && fdbEventGroupMask[i]) = fdbEventGroupMask[i] := by
      rw [← BitVec.getElem_and, h]
    cases he : event[i] <;> simp_all
  · intro h
    ext i hi
    have hbit : (event[i] || fdbEventIdMask[i]) = true := by
      rw [← BitVec.getElem_or, h, hones i hi]
    cases he : event[i] <;> simp_all

/-- `fdbMakeGroupEvent(_group)`: the code of a group, given by its number. -/
def fdbMakeGroupEvent (group : BitVec 32) : FdbMsgCode :=
  ((group &&& 0xff#32) <<< 24) ||| fdbEventIdMask

/-- `fdbEventInGroup(_event, _group)`. -/
def fdbEventInGroup (event : FdbMsgCode) (group : BitVec 32) : Bool :=
  event &&& fdbEventGroupMask == (group &&& 0xff#32) <<< 24

theorem makeGroupEvent_group (group : BitVec 32) :
    fdbMakeGroupEvent group &&& fdbEventGroupMask = (group &&& 0xff#32) <<< 24 := by
  have hshift : (group &&& 0xff#32) <<< 24 = group <<< 24 &&& fdbEventGroupMask :=
    BitVec.shiftLeft_and_distrib ..
  have hmask : fdbEventIdMask &&& fdbEventGroupMask = 0#32 := by decide
  unfold fdbMakeGroupEvent
  rw [BitVec.and_or_distrib_right, hmask, BitVec.or_zero, hshift, BitVec.and_assoc,
    BitVec.and_self]

/-- In a group, only the code of that group is one that stands for a group. -/
theorem makeGroupEvent_inGroup {group group' : BitVec 32} :
    fdbEventInGroup (fdbMakeGroupEvent group') group = true
      ↔ fdbMakeGroupEvent group' = fdbMakeGroupEvent group := by
  unfold fdbEventInGroup
  rw [beq_iff_eq, makeGroupEvent_group]
  constructor
  · intro h
    unfold fdbMakeGroupEvent
    rw [h]
  · intro h
    rw [← makeGroupEvent_group, h, makeGroupEvent_group]

/-- `fdbSameGroup(_event1, _event2)`. -/
def fdbSameGroup (event₁ event₂ : FdbMsgCode) : Bool :=
  event₁ &&& fdbEventGroupMask == event₂ &&& fdbEventGroupMask

/-- `fdbMergeEventCode(_group, _event)`. -/
def fdbMergeEventCode (group : FdbMsgCode) (event : Nat) : FdbMsgCode :=
  (group &&& fdbEventGroupMask) ||| BitVec.ofNat 32 event

/-- The event of a merged code. -/
theorem eventId_mergeEventCode {event : Nat} (h : event < 2 ^ 24) :
    (fdbMergeEventCode group event &&& fdbEventIdMask).toNat = event := by
  have hmask : fdbEventGroupMask &&& fdbEventIdMask = 0#32 := by decide
  unfold fdbMergeEventCode
  rw [BitVec.and_or_distrib_right, BitVec.and_assoc, hmask, BitVec.and_zero, BitVec.zero_or,
    BitVec.toNat_and, BitVec.toNat_ofNat, Nat.mod_eq_of_lt (by omega)]
  show event &&& (2 ^ 24 - 1) = event
  rw [Nat.and_two_pow_sub_one_eq_mod, Nat.mod_eq_of_lt h]

/-- The group of a merged code. -/
theorem eventGroup_mergeEventCode {event : Nat} (h : event < 2 ^ 24) :
    fdbMergeEventCode group event &&& fdbEventGroupMask = group &&& fdbEventGroupMask := by
  have hevent : BitVec.ofNat 32 event &&& fdbEventGroupMask = 0#32 := by
    ext i hi
    rw [BitVec.getElem_and, BitVec.getElem_zero, Bool.and_eq_false_iff]
    by_cases hlow : i < 24
    · -- the mask has none of the low bits
      right
      have hmask : ∀ i (hi : i < 24), fdbEventGroupMask.getLsbD i = false := by decide
      exact hmask i hlow
    · left
      rw [← BitVec.getLsbD_eq_getElem, BitVec.getLsbD_ofNat,
        Nat.testBit_lt_two_pow (h.trans_le (Nat.pow_le_pow_right (by decide) (by omega))),
        Bool.and_false]
  unfold fdbMergeEventCode
  rw [BitVec.and_or_distrib_right, BitVec.and_assoc, BitVec.and_self, hevent, BitVec.or_zero]

/-- A code is its group and its event. -/
theorem mergeEventCode_self : fdbMergeEventCode event (event &&& fdbEventIdMask).toNat = event := by
  have hmasks : fdbEventGroupMask ||| fdbEventIdMask = BitVec.allOnes 32 := by decide
  unfold fdbMergeEventCode
  rw [BitVec.ofNat_toNat, BitVec.setWidth_eq, ← BitVec.and_or_distrib_left, hmasks,
    BitVec.and_allOnes]

/-- An event of a group, other than the last number, is not the group itself. -/
theorem fdbIsGroup_mergeEventCode {event : Nat} (h : event < 0x00ffffff) :
    fdbIsGroup (fdbMergeEventCode group event) = false := by
  have hid := eventId_mergeEventCode group (show event < 2 ^ 24 by omega)
  unfold fdbIsGroup
  rw [beq_eq_false_iff_ne]
  intro heq
  rw [heq] at hid
  have hlast : fdbEventIdMask.toNat = 0x00ffffff := by decide
  omega

/-- `FDB_EVENT_ALL_GROUPS`. -/
def fdbEventAllGroups : BitVec 32 := 0xff#32

theorem fdbEventInGroup_allGroups :
    fdbEventInGroup event fdbEventAllGroups = fdbEventInAllGroups event := by
  rfl

/-- A group code has the group of an event exactly when it is the event's group. -/
theorem fdbSameGroup_iff {group : FdbMsgCode} (hgroup : fdbIsGroup group = true)
    (event : FdbMsgCode) : fdbSameGroup group event = true ↔ group = fdbMakeGroup event := by
  have hmask : ∀ i (hi : i < 32), fdbEventGroupMask[i] = !fdbEventIdMask[i] := by decide
  simp only [fdbIsGroup, beq_iff_eq] at hgroup
  simp only [fdbSameGroup, fdbMakeGroup, beq_iff_eq]
  constructor
  · intro h
    ext i hi
    have hid : (group[i] && fdbEventIdMask[i]) = fdbEventIdMask[i] := by
      rw [← BitVec.getElem_and, hgroup]
    have hbit : (group[i] && fdbEventGroupMask[i]) = (event[i] && fdbEventGroupMask[i]) := by
      rw [← BitVec.getElem_and, h, BitVec.getElem_and]
    cases hm : fdbEventIdMask[i] <;> simp_all
  · intro h
    ext i hi
    have hbit : group[i] = (event[i] || fdbEventIdMask[i]) := by
      rw [h, BitVec.getElem_or]
    rw [BitVec.getElem_and, BitVec.getElem_and, hmask i hi, hbit]
    cases hm : fdbEventIdMask[i] <;> simp

/-- `FDB_CODE_SUBSCRIBE`. -/
def fdbCodeSubscribe : FdbMsgCode := 0#32

/-- `FDB_CODE_UNSUBSCRIBE`. -/
def fdbCodeUnsubscribe : FdbMsgCode := 1#32

/-- `FDB_OBJECT_GET_CLASS(_id)`. -/
def fdbObjectGetClass (id : FdbObjectId) : BitVec 32 := id &&& 0xffff#32

/-- `FDB_OBJECT_MAIN`. -/
def fdbObjectMain : FdbObjectId := 0#32

end Fdbus

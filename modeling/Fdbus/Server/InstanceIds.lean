/-
  Fdbus.Server.InstanceIds — the search for an instance of a group.

  A server that asks for an instance of a group gets the next one that its name does not use.  The
  ids are counted through by `mInstanceIdAllocator`, which all services share; behind the last id
  the count starts again, once.

    * `allocateLoop` — the loop as the source has it, with the counter, the flag and the id that it
      overwrites,
    * `allocateLoop_lap` — one way from the counter to the last id,
    * `allocateLoop_eq` — the two laps are what `allocateInstance` says,
    * `instance_allocation_complete` — the loop ends, and it fails only if every id of the group is
      used by the name.
-/
import Fdbus.Server.Allocation

namespace Fdbus.Server

open Fdbus.OrderedMap Fdbus.Security Fdbus.Subscribe

/-! ## §1. The loop. -/

/-- How far the loop has come: it goes on, it has an instance, or it answers
`FDB_ST_NO_RESOURCE`. -/
inductive InstanceSearch where
  | running
  | found (inst : FdbInstanceId)
  | noResource
  deriving Repr, DecidableEq

section Loop

variable (reg : RegistryTbl) (svcName : Text)

/-- `while (1)` of `onAllocServiceAddressReq`, for so many rounds: `mInstanceIdAllocator` when it
stops, and the result. -/
def allocateLoop : Nat → FdbInstanceId → Nat → Bool → Nat × InstanceSearch
  | 0, _, allocator, _ => (allocator, .running)
  | fuel + 1, instanceId, allocator, wrap =>
    -- `next_id` is the old value of the counter
    if allocator > fdbAutoInstanceEnd then
      if wrap then (fdbAutoInstanceBegin, .noResource)
      else allocateLoop fuel instanceId fdbAutoInstanceBegin true
    else
      let instanceId := fdbMergeEventCode instanceId allocator
      if reg.findService svcName instanceId = [] then
        ((allocator + 1) % 2 ^ 32, .found instanceId)
      else allocateLoop fuel instanceId ((allocator + 1) % 2 ^ 32) wrap

end Loop

/-! ## §2. Two laps. -/

section Laps

variable {reg : RegistryTbl} {svcName : Text}

theorem fdbAutoInstanceEnd_lt : fdbAutoInstanceEnd + 1 < 2 ^ 24 := by decide

/-- The id that the loop overwrites matters by its group alone. -/
theorem allocateLoop_congr (fuel : Nat) {inst inst' : FdbInstanceId}
    (h : inst &&& fdbEventGroupMask = inst' &&& fdbEventGroupMask) (allocator : Nat) (wrap : Bool) :
    allocateLoop reg svcName fuel inst allocator wrap
      = allocateLoop reg svcName fuel inst' allocator wrap := by
  induction fuel generalizing allocator wrap with
  | zero => rfl
  | succ fuel ih =>
    have hmerge : fdbMergeEventCode inst allocator = fdbMergeEventCode inst' allocator := by
      unfold fdbMergeEventCode
      rw [h]
    unfold allocateLoop
    rw [hmerge, ih]

/-- **One lap**, by induction over the ids that are left: it finds the first free id, or comes to
the end of the range. -/
theorem allocateLoop_lap (group : FdbInstanceId) (wrap : Bool) (count : Nat) :
    ∀ allocator, allocator + count = fdbAutoInstanceEnd + 1 → ∀ fuel,
      allocateLoop reg svcName (count + fuel) group allocator wrap
        = match searchInstance reg svcName group count allocator with
          | some next => (next + 1, .found (fdbMergeEventCode group next))
          | none => allocateLoop reg svcName fuel group (fdbAutoInstanceEnd + 1) wrap := by
  have hend := fdbAutoInstanceEnd_lt
  induction count with
  | zero =>
    intro allocator hcount fuel
    obtain rfl : allocator = fdbAutoInstanceEnd + 1 := by omega
    rw [Nat.zero_add]
    rfl
  | succ count ih =>
    intro allocator hcount fuel
    have hin : ¬ allocator > fdbAutoInstanceEnd := by omega
    have hnext : (allocator + 1) % 2 ^ 32 = allocator + 1 := Nat.mod_eq_of_lt (by omega)
    rw [Nat.add_right_comm, allocateLoop, searchInstance, if_neg hin, hnext]
    by_cases hfree : reg.findService svcName (fdbMergeEventCode group allocator) = []
    · rw [if_pos hfree, if_pos hfree]
    · rw [if_neg hfree, if_neg hfree,
        allocateLoop_congr _ (eventGroup_mergeEventCode group (by omega)),
        ih (allocator + 1) (by omega) fuel]

/-- The rounds that are enough: the ids up to the end, all ids, and twice behind the end. -/
def enoughRounds (allocator : Nat) : Nat :=
  fdbAutoInstanceEnd + 1 - allocator + (1 + (fdbAutoInstanceEnd + 1 - fdbAutoInstanceBegin + 1))

/-- **The loop and `allocateInstance`**: with enough rounds the loop gives what the two searches
give. -/
theorem allocateLoop_eq (ns : NameServer) {group : FdbInstanceId} (hgroup : fdbIsGroup group = true)
    (hle : ns.mInstanceIdAllocator ≤ fdbAutoInstanceEnd + 1) {fuel : Nat}
    (hfuel : enoughRounds ns.mInstanceIdAllocator ≤ fuel) :
    allocateLoop ns.mRegistryTbl svcName fuel group ns.mInstanceIdAllocator false
      = ((ns.allocateInstance svcName group).1,
          match (ns.allocateInstance svcName group).2 with
          | .ok inst => .found inst
          | .error _ => .noResource) := by
  obtain ⟨rest, rfl⟩ : ∃ rest, fuel = fdbAutoInstanceEnd + 1 - ns.mInstanceIdAllocator
      + (1 + (fdbAutoInstanceEnd + 1 - fdbAutoInstanceBegin + (rest + 1))) := by
    refine ⟨fuel - enoughRounds ns.mInstanceIdAllocator, ?_⟩
    unfold enoughRounds at *
    omega
  unfold NameServer.allocateInstance
  rw [if_pos hgroup, allocateLoop_lap group false _ _ (by omega)]
  cases hfirst : searchInstance ns.mRegistryTbl svcName group
      (fdbAutoInstanceEnd + 1 - ns.mInstanceIdAllocator) ns.mInstanceIdAllocator with
  | some next => rfl
  | none =>
    -- behind the end for the first time: the count starts again
    rw [Nat.add_comm 1, allocateLoop, if_pos (by omega), if_neg Bool.false_ne_true,
      allocateLoop_lap group true _ fdbAutoInstanceBegin (by decide)]
    cases hsecond : searchInstance ns.mRegistryTbl svcName group
        (fdbAutoInstanceEnd + 1 - fdbAutoInstanceBegin) fdbAutoInstanceBegin with
    | some next => rfl
    | none =>
      rw [allocateLoop, if_pos (by omega), if_pos rfl]

end Laps

/-! ## §3. Which instance is given. -/

/-- The instance is one of those that the name server gives away in a group. -/
def AutoInstance (group inst : FdbInstanceId) : Prop :=
  fdbSameGroup group inst = true
    ∧ fdbAutoInstanceBegin ≤ (inst &&& fdbEventIdMask).toNat
    ∧ (inst &&& fdbEventIdMask).toNat ≤ fdbAutoInstanceEnd

/-- These are the codes that the loop tries. -/
theorem autoInstance_iff (group inst : FdbInstanceId) :
    AutoInstance group inst
      ↔ ∃ k, fdbAutoInstanceBegin ≤ k ∧ k ≤ fdbAutoInstanceEnd
        ∧ inst = fdbMergeEventCode group k := by
  have hend := fdbAutoInstanceEnd_lt
  unfold AutoInstance fdbSameGroup
  rw [beq_iff_eq]
  constructor
  · intro h
    obtain ⟨hgroup, hlo, hhi⟩ := h
    refine ⟨_, hlo, hhi, ?_⟩
    have hself := mergeEventCode_self inst
    unfold fdbMergeEventCode at hself ⊢
    rw [hgroup, hself]
  · intro h
    obtain ⟨k, hlo, hhi, rfl⟩ := h
    rw [eventGroup_mergeEventCode group (by omega), eventId_mergeEventCode group (by omega)]
    exact ⟨rfl, hlo, hhi⟩

/-- An instance is used by a name exactly if a lookup finds it. -/
theorem findService_nil_iff {reg : RegistryTbl} {svcName : Text} (hname : svcName ≠ [])
    {inst : FdbInstanceId} (hgroup : fdbIsGroup inst = false) :
    reg.findService svcName inst = [] ↔ reg.get svcName inst = none := by
  constructor
  · exact get_of_findService_nil
  · intro hnone
    rw [List.eq_nil_iff_forall_not_mem]
    intro m hm
    obtain ⟨hor, hmatch, hget⟩ := (mem_findService reg svcName inst m).mp hm
    unfold instanceMatches at hmatch
    rw [hgroup, if_neg Bool.false_ne_true, beq_iff_eq] at hmatch
    rw [← hor.resolve_left hname, ← hmatch, hnone] at hget
    cases hget

/-- What `allocateInstance` gives to a server that asks for a group. -/
theorem allocateInstance_group (ns : NameServer) {svcName : Text} (hname : svcName ≠ [])
    {group : FdbInstanceId} (hgroup : fdbIsGroup group = true)
    (hlo : fdbAutoInstanceBegin ≤ ns.mInstanceIdAllocator) :
    (∃ inst, (ns.allocateInstance svcName group).2 = .ok inst ∧ AutoInstance group inst
        ∧ ns.mRegistryTbl.get svcName inst = none)
      ∨ (ns.allocateInstance svcName group).2 = .error .noResource
        ∧ ∀ inst, AutoInstance group inst → ns.mRegistryTbl.get svcName inst ≠ none := by
  have hend := fdbAutoInstanceEnd_lt
  have hfound : ∀ {count next k : Nat}, fdbAutoInstanceBegin ≤ next →
      next + count ≤ fdbAutoInstanceEnd + 1 ∨ count = 0 →
      searchInstance ns.mRegistryTbl svcName group count next = some k →
      AutoInstance group (fdbMergeEventCode group k)
        ∧ ns.mRegistryTbl.get svcName (fdbMergeEventCode group k) = none := by
    intro count next k hnext hcount hk
    obtain ⟨hfree, hle, hlt⟩ := searchInstance_some hk
    exact ⟨(autoInstance_iff group _).mpr ⟨k, by omega, by omega, rfl⟩,
      get_of_findService_nil hfree⟩
  unfold NameServer.allocateInstance
  rw [if_pos hgroup]
  split
  · next k hk => exact .inl ⟨_, rfl, hfound hlo (by omega) hk⟩
  · split
    · next k hk => exact .inl ⟨_, rfl, hfound le_rfl (.inl (by decide)) hk⟩
    · next hnone =>
        -- the second lap has tried every id
        refine .inr ⟨rfl, fun inst hauto hfree => ?_⟩
        obtain ⟨k, hbegin, hle, rfl⟩ := (autoInstance_iff group inst).mp hauto
        have hnot := fdbIsGroup_mergeEventCode group (show k < 0x00ffffff by omega)
        exact searchInstance_none hnone k hbegin (by omega)
          ((findService_nil_iff hname hnot).mpr hfree)

/-- **The search is complete**: from any counter in its range, for a service with a name and a group,
the loop ends.  Either it has an instance of the group which the name does not use yet, and that is
entered, or the server is answered `FDB_ST_NO_RESOURCE`, and the name uses every such instance. -/
theorem instance_allocation_complete (cfg : NsConfig) (ns : NameServer) (session : SessionPtr)
    (req : FdbMsgServerName) (allocated : List CAllocatedAddress) (tokens : List Token)
    (hname : req.name ≠ []) (hgroup : fdbIsGroup req.instanceId = true)
    (hlo : fdbAutoInstanceBegin ≤ ns.mInstanceIdAllocator)
    (hhi : ns.mInstanceIdAllocator ≤ fdbAutoInstanceEnd + 1) :
    ∃ rounds, ∀ fuel ≥ rounds,
      let result := (allocateLoop ns.mRegistryTbl req.name fuel req.instanceId
        ns.mInstanceIdAllocator false).2
      let after := onAllocServiceAddressReq cfg ns session req allocated tokens
      (∃ inst, result = .found inst ∧ AutoInstance req.instanceId inst
          ∧ ns.mRegistryTbl.get req.name inst = none
          ∧ (after.1.mRegistryTbl.get req.name inst).isSome = true)
        ∨ result = .noResource ∧ after.2 = .status .noResource
          ∧ ∀ inst, AutoInstance req.instanceId inst → ns.mRegistryTbl.get req.name inst ≠ none := by
  refine ⟨enoughRounds ns.mInstanceIdAllocator, fun fuel hfuel => ?_⟩
  rw [allocateLoop_eq ns hgroup hhi hfuel]
  unfold onAllocServiceAddressReq
  rcases allocateInstance_group ns hname hgroup hlo with ⟨inst, hok, hauto, hfree⟩ | ⟨herr, hused⟩
  · refine .inl ⟨inst, ?_, hauto, hfree, ?_⟩
    · rw [hok]
    · rcases hpair : ns.allocateInstance req.name req.instanceId with ⟨allocator, result⟩
      rw [hpair] at hok
      subst hok
      rw [get_put, if_pos ⟨rfl, rfl⟩]
      rfl
  · refine .inr ⟨?_, ?_, hused⟩
    · rw [herr]
    · rcases hpair : ns.allocateInstance req.name req.instanceId with ⟨allocator, result⟩
      rw [hpair] at herr
      subst herr
      rfl

/-- A server that asks for any instance of group 1. -/
def groupRequest : FdbMsgServerName := { name := [97], instanceId := 0x01ffffff#32 }

/-- The counter is behind its last id, so the count starts again at once. -/
theorem instance_allocation_behind_end :
    ∃ rounds, ∀ fuel ≥ rounds,
      let ns : NameServer := { mInstanceIdAllocator := fdbAutoInstanceEnd + 1 }
      let result := (allocateLoop ns.mRegistryTbl groupRequest.name fuel groupRequest.instanceId
        ns.mInstanceIdAllocator false).2
      let after := onAllocServiceAddressReq plainConfig ns 0 groupRequest [] []
      (∃ inst, result = .found inst ∧ AutoInstance groupRequest.instanceId inst
          ∧ ns.mRegistryTbl.get groupRequest.name inst = none
          ∧ (after.1.mRegistryTbl.get groupRequest.name inst).isSome = true)
        ∨ result = .noResource ∧ after.2 = .status .noResource
          ∧ ∀ inst, AutoInstance groupRequest.instanceId inst →
            ns.mRegistryTbl.get groupRequest.name inst ≠ none :=
  instance_allocation_complete plainConfig { mInstanceIdAllocator := fdbAutoInstanceEnd + 1 } 0
    groupRequest [] [] (by decide) (by decide) (by decide) (by decide)

end Fdbus.Server

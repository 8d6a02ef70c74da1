/-
  Fdbus.Server.Registry — the registry of services.

  `mRegistryTbl` maps a service name and an instance id to what the name server knows of the
  service.  `findService` looks services up by a pattern: the empty name stands for every name,
  a group of instances for its members, and group 0xff for every instance.

    * `RegistryTbl.get` is the flat view; `get_put` and `get_eraseService` specify the two
      operations by it, `mem_findService` the lookup,
    * `findService_iff_broadcastMsg` — the pattern of a lookup and that of a subscription mean
      the same.

  The source orders instance ids as signed numbers, the model as unsigned ones.  The order
  decides only in which order the instances of one group are listed.
-/
import Fdbus.Server.AddressList
import Fdbus.Subscribe.Publish

namespace Fdbus.Server

open Fdbus.OrderedMap Fdbus.Security Fdbus.Subscribe List Std.ExtTreeMap

/-! ## §1. The registry. -/

/-- `FdbInstanceId_t`: the group of an instance is coded as that of an event. -/
abbrev FdbInstanceId := FdbMsgCode

/-- `CSvcRegistryEntry`. -/
structure CSvcRegistryEntry where
  mSid : Int := fdbInvalidId
  mAddrTbl : List CFdbAddressDesc := []
  mTokens : List Token := []
  mAllowTcpSecure : Bool := false
  mAllowTcpNormal : Bool := true
  mExportableLevel : Int := fdbExportableNodeInternal
  mEndpointName : Text := []
  mSvcName : Text := []
  mInstanceId : FdbInstanceId := 0#32
  deriving DecidableEq

/-- `tSvcRegistryTbl`. -/
abbrev SvcRegistryTbl := Map FdbInstanceId CSvcRegistryEntry

/-- `tRegistryTbl`. -/
abbrev RegistryTbl := Map Text SvcRegistryTbl

/-- The entry of a service. -/
def RegistryTbl.get (reg : RegistryTbl) (name : Text) (inst : FdbInstanceId) :
    Option CSvcRegistryEntry :=
  reg[name]?.bind fun tbl => tbl[inst]?

/-- `mRegistryTbl[name][inst] = entry`. -/
def RegistryTbl.put (reg : RegistryTbl) (name : Text) (inst : FdbInstanceId)
    (entry : CSvcRegistryEntry) : RegistryTbl :=
  upsert reg name ∅ fun tbl => tbl.insert inst entry

/-- `eraseService(svc_name, instance_id)`. -/
def RegistryTbl.eraseService (reg : RegistryTbl) (name : Text) (inst : FdbInstanceId) :
    RegistryTbl :=
  pruneAt (·.isEmpty) reg name fun tbl => tbl.erase inst

/-- A pointer into the registry: where the entry is, and the entry. -/
structure RegistryMatch where
  name : Text
  inst : FdbInstanceId
  entry : CSvcRegistryEntry
  deriving DecidableEq

/-- `findService(it_name, instance_id, reg_tbl)`. -/
def findInstances (name : Text) (tbl : SvcRegistryTbl) (instanceId : FdbInstanceId) :
    List RegistryMatch :=
  if fdbIsGroup instanceId then
    if fdbEventInGroup instanceId fdbEventAllGroups then
      tbl.toList.map fun e => ⟨name, e.1, e.2⟩
    else
      (tbl.toList.filter fun e => fdbSameGroup instanceId e.1).map fun e => ⟨name, e.1, e.2⟩
  else
    match tbl[instanceId]? with
    | some entry => [⟨name, instanceId, entry⟩]
    | none => []

/-- `findService(svc_name, instance_id, reg_tbl)`; the result of the function is whether the list
is not empty. -/
def RegistryTbl.findService (reg : RegistryTbl) (svcName : Text) (instanceId : FdbInstanceId) :
    List RegistryMatch :=
  if svcName = [] then reg.toList.flatMap fun e => findInstances e.1 e.2 instanceId
  else
    match reg[svcName]? with
    | some tbl => findInstances svcName tbl instanceId
    | none => []

/-- Every entry, in the order of the two loops over the registry. -/
def RegistryTbl.all (reg : RegistryTbl) : List RegistryMatch :=
  reg.toList.flatMap fun e => e.2.toList.map fun i => ⟨e.1, i.1, i.2⟩

/-! ## §2. The flat view. -/

variable (reg : RegistryTbl) (name : Text) (pattern : FdbInstanceId)

theorem get_put (n : Text) (inst i : FdbInstanceId) (entry : CSvcRegistryEntry) :
    (reg.put name inst entry).get n i
      = if name = n ∧ inst = i then some entry else reg.get n i := by
  unfold RegistryTbl.put RegistryTbl.get
  rw [bind_get_upsert]
  by_cases hn : name = n
  · subst hn
    rw [if_pos rfl, get_insert]
    by_cases hi : inst = i
    · simp [hi]
    · cases reg[name]? <;> simp
  · rw [if_neg hn, if_neg fun h => hn h.1]

theorem get_eraseService (n : Text) (inst i : FdbInstanceId) :
    (reg.eraseService name inst).get n i
      = if name = n ∧ inst = i then none else reg.get n i := by
  unfold RegistryTbl.eraseService RegistryTbl.get
  rw [bind_get_pruneAt fun tbl h => get_of_isEmpty h i]
  by_cases hn : name = n
  · subst hn
    simp only [get_erase]
    by_cases hi : inst = i
    · simp [hi]
    · simp [hi]
  · rw [if_neg hn, if_neg fun h => hn h.1]

theorem mem_all (m : RegistryMatch) : m ∈ reg.all ↔ reg.get m.name m.inst = some m.entry := by
  obtain ⟨n, i, entry⟩ := m
  unfold RegistryTbl.all RegistryTbl.get
  simp only [mem_flatMap, mem_map, RegistryMatch.mk.injEq, Option.bind_eq_some_iff]
  constructor
  · rintro ⟨e, he, e', he', rfl, rfl, rfl⟩
    exact ⟨e.2, mem_toList_iff_getElem?_eq_some.mp he,
      mem_toList_iff_getElem?_eq_some.mp he'⟩
  · rintro ⟨tbl, htbl, hget⟩
    exact ⟨(n, tbl), mem_toList_iff_getElem?_eq_some.mpr htbl, (i, entry),
      mem_toList_iff_getElem?_eq_some.mpr hget, rfl, rfl, rfl⟩

/-- What some registered service has can be looked for. -/
theorem exists_all_iff (p : CSvcRegistryEntry → Prop) :
    (∃ m ∈ reg.all, p m.entry) ↔ ∃ name inst entry, reg.get name inst = some entry ∧ p entry := by
  constructor
  · intro h
    obtain ⟨m, hm, hp⟩ := h
    exact ⟨m.name, m.inst, m.entry, (mem_all reg m).mp hm, hp⟩
  · intro h
    obtain ⟨name, inst, entry, hget, hp⟩ := h
    exact ⟨⟨name, inst, entry⟩, (mem_all reg ⟨name, inst, entry⟩).mpr hget, hp⟩

/-- The instance is one that the pattern stands for. -/
def instanceMatches (pattern inst : FdbInstanceId) : Bool :=
  if fdbIsGroup pattern then fdbEventInGroup pattern fdbEventAllGroups || fdbSameGroup pattern inst
  else pattern == inst

theorem mem_findInstances (tbl : SvcRegistryTbl) (pattern : FdbInstanceId) (m : RegistryMatch) :
    m ∈ findInstances name tbl pattern
      ↔ m.name = name ∧ instanceMatches pattern m.inst = true ∧ tbl[m.inst]? = some m.entry := by
  obtain ⟨n, i, entry⟩ := m
  unfold findInstances instanceMatches
  by_cases hgroup : fdbIsGroup pattern = true
  · rw [if_pos hgroup, if_pos hgroup]
    by_cases hall : fdbEventInGroup pattern fdbEventAllGroups = true
    · simp only [hall, if_true, mem_map, RegistryMatch.mk.injEq, Bool.true_or, true_and]
      constructor
      · rintro ⟨e, he, rfl, rfl, rfl⟩
        exact ⟨rfl, mem_toList_iff_getElem?_eq_some.mp he⟩
      · rintro ⟨rfl, hget⟩
        exact ⟨(i, entry), mem_toList_iff_getElem?_eq_some.mpr hget, rfl, rfl, rfl⟩
    · simp only [hall, Bool.false_eq_true, if_false, mem_map, mem_filter,
        RegistryMatch.mk.injEq, Bool.false_or]
      constructor
      · rintro ⟨e, ⟨he, hsame⟩, rfl, rfl, rfl⟩
        exact ⟨rfl, hsame, mem_toList_iff_getElem?_eq_some.mp he⟩
      · rintro ⟨rfl, hsame, hget⟩
        exact ⟨(i, entry), ⟨mem_toList_iff_getElem?_eq_some.mpr hget, hsame⟩,
          rfl, rfl, rfl⟩
  · rw [if_neg hgroup, if_neg hgroup]
    rw [beq_iff_eq]
    cases hget : tbl[pattern]? with
    | none =>
      simp only [not_mem_nil, false_iff]
      rintro ⟨-, rfl, hsome⟩
      rw [hget] at hsome
      cases hsome
    | some e =>
      simp only [mem_singleton, RegistryMatch.mk.injEq]
      constructor
      · rintro ⟨rfl, rfl, rfl⟩
        exact ⟨rfl, rfl, hget⟩
      · rintro ⟨rfl, rfl, hsome⟩
        rw [hget, Option.some.injEq] at hsome
        exact ⟨rfl, rfl, hsome.symm⟩

/-- **What a lookup finds**: the entries whose name and instance fit the pattern. -/
theorem mem_findService (svcName : Text) (pattern : FdbInstanceId) (m : RegistryMatch) :
    m ∈ reg.findService svcName pattern
      ↔ (svcName = [] ∨ svcName = m.name) ∧ instanceMatches pattern m.inst = true
        ∧ reg.get m.name m.inst = some m.entry := by
  unfold RegistryTbl.findService RegistryTbl.get
  by_cases hname : svcName = []
  · simp only [hname, if_true, mem_flatMap, mem_findInstances, true_or, true_and,
      Option.bind_eq_some_iff]
    constructor
    · rintro ⟨e, he, hn, hmatch, hget⟩
      exact ⟨hmatch, e.2, hn ▸ mem_toList_iff_getElem?_eq_some.mp he, hget⟩
    · rintro ⟨hmatch, tbl, htbl, hget⟩
      exact ⟨(m.name, tbl), mem_toList_iff_getElem?_eq_some.mpr htbl, rfl, hmatch,
        hget⟩
  · simp only [hname, if_false, false_or]
    constructor
    · intro h
      cases htbl : reg[svcName]? with
      | none => simp [htbl] at h
      | some tbl =>
        rw [htbl] at h
        obtain ⟨hn, hmatch, hget⟩ := (mem_findInstances svcName tbl pattern m).mp h
        exact ⟨hn.symm, hmatch, by rw [hn, htbl]; exact hget⟩
    · rintro ⟨rfl, hmatch, hget⟩
      obtain ⟨tbl, htbl, hget⟩ := Option.bind_eq_some_iff.mp hget
      rw [htbl]
      exact (mem_findInstances m.name tbl pattern m).mpr ⟨rfl, hmatch, hget⟩

/-- The empty name is the first of all names. -/
theorem toList_of_empty_name {reg : RegistryTbl} {tbl : SvcRegistryTbl}
    (h : reg[([] : Text)]? = some tbl) : ∃ rest, reg.toList = ([], tbl) :: rest := by
  have hmem := mem_toList_iff_getElem?_eq_some.mpr h
  have hordered := ordered_keys_toList (t := reg)
  cases hlist : reg.toList with
  | nil =>
    rw [hlist] at hmem
    cases hmem
  | cons e rest =>
    rw [hlist] at hmem hordered
    rcases mem_cons.mp hmem with rfl | hmem
    · exact ⟨rest, rfl⟩
    · -- no name is smaller than the empty one
      have hlt := (pairwise_cons.mp hordered).1 _ hmem
      obtain ⟨n, t⟩ := e
      cases n <;> cases hlt

/-- An instance that is registered is what a lookup of it finds first. -/
theorem head_findService {reg : RegistryTbl} {name : Text} {inst : FdbInstanceId}
    {entry : CSvcRegistryEntry} (hgroup : fdbIsGroup inst = false)
    (hget : reg.get name inst = some entry) :
    (reg.findService name inst).head? = some ⟨name, inst, entry⟩ := by
  obtain ⟨tbl, htbl, hentry⟩ := Option.bind_eq_some_iff.mp hget
  have hfind : findInstances name tbl inst = [⟨name, inst, entry⟩] := by
    unfold findInstances
    rw [hgroup, if_neg Bool.false_ne_true, hentry]
  unfold RegistryTbl.findService
  by_cases hname : name = []
  · subst hname
    obtain ⟨rest, hrest⟩ := toList_of_empty_name htbl
    rw [if_pos rfl, hrest, flatMap_cons, hfind]
    rfl
  · rw [if_neg hname, htbl]
    simp only [hfind, head?_cons]

/-! ## §3. Lookups and subscriptions. -/

/-- A pattern stands for an instance exactly when it is one of the codes under which an event of
the instance is delivered. -/
theorem instanceMatches_iff (inst : FdbInstanceId) :
    instanceMatches pattern inst = true
      ↔ pattern = inst ∨ pattern = fdbMakeGroup inst ∨ pattern = fdbAllGroupsEvent := by
  unfold instanceMatches
  by_cases hgroup : fdbIsGroup pattern = true
  · rw [if_pos hgroup, Bool.or_eq_true, fdbEventInGroup_allGroups, fdbEventInAllGroups_iff,
      fdbMakeGroup_of_isGroup hgroup, fdbSameGroup_iff hgroup]
    constructor
    · rintro (hall | hsame)
      · exact .inr (.inr hall)
      · exact .inr (.inl hsame)
    · rintro (rfl | hsame | hall)
      · exact .inr (fdbMakeGroup_of_isGroup hgroup).symm
      · exact .inr hsame
      · exact .inl hall
  · rw [if_neg hgroup, beq_iff_eq]
    constructor
    · exact .inl
    · rintro (rfl | rfl | rfl)
      · rfl
      · exact absurd (fdbIsGroup_makeGroup inst) hgroup
      · exact absurd fdbIsGroup_allGroups hgroup

/-- A service and a subscription pattern: name and instance both fit. -/
def Covers (name : Text) (pattern : FdbInstanceId) (svcName : Text) (inst : FdbInstanceId) : Prop :=
  (name = [] ∨ name = svcName) ∧ instanceMatches pattern inst = true

instance (name : Text) (pattern : FdbInstanceId) (svcName : Text) (inst : FdbInstanceId) :
    Decidable (Covers name pattern svcName inst) :=
  inferInstanceAs (Decidable (_ ∧ _))

/-- The codes and topics under which an event of a service is delivered are the patterns that
cover the service. -/
theorem covers_iff (msg : EventMessage) :
    Covers name pattern msg.topic msg.code
      ↔ pattern ∈ matchingCodes msg ∧ name ∈ matchingTopics msg := by
  unfold Covers
  rw [instanceMatches_iff, mem_matchingCodes, mem_matchingTopics, and_comm]

/-- **Lookup and delivery match alike.**  A pair that holds one subscription, for the code
`pattern` and the topic `name`, is reached by an event of a registered service exactly when the
lookup of that name and pattern lists the service. -/
theorem findService_iff_broadcastMsg (reg : RegistryTbl) {svcName : Text} {inst : FdbInstanceId}
    {entry : CSvcRegistryEntry} (hreg : reg.get svcName inst = some entry)
    {obj : CFdbBaseObject} {s : SessionPtr} {o : FdbObjectId}
    (name : Text) (pattern : FdbInstanceId) (item : CSubscribeItem)
    (hsub : ∀ code topic, obj.lookup code s o topic
      = if code = pattern ∧ topic = name then some item else none)
    (sid : SessionPtr → Int) (session : Int) (sender : FdbObjectId) :
    ⟨svcName, inst, entry⟩ ∈ reg.findService name pattern
      ↔ (s, o) ∈ (obj.broadcastMsg sid ⟨inst, svcName, session, false⟩ sender).copies := by
  have hlist : ⟨svcName, inst, entry⟩ ∈ reg.findService name pattern
      ↔ Covers name pattern svcName inst := by
    rw [mem_findService]
    constructor
    · rintro ⟨hname, hmatch, -⟩
      exact ⟨hname, hmatch⟩
    · rintro ⟨hname, hmatch⟩
      exact ⟨hname, hmatch, hreg⟩
  rw [hlist, mem_copies_broadcastMsg obj sid sender rfl,
    covers_iff name pattern ⟨inst, svcName, session, false⟩]
  constructor
  · rintro ⟨hcode, htopic⟩
    refine ⟨pattern, hcode, name, htopic, ?_⟩
    rw [hsub, if_pos ⟨rfl, rfl⟩]
    rfl
  · rintro ⟨code, hcode, topic, htopic, hsome⟩
    rw [hsub] at hsome
    by_cases h : code = pattern ∧ topic = name
    · obtain ⟨rfl, rfl⟩ := h
      exact ⟨hcode, htopic⟩
    · rw [if_neg h] at hsome
      cases hsome

/-- Service "a" with instance 5 of group 1, and a subscription of the whole group for any name:
both sides hold. -/
theorem findService_iff_broadcastMsg_group :
    (1, fdbObjectMain) ∈ ((CFdbBaseObject.empty.subscribe 1 0x01ffffff#32 fdbObjectMain
        none 0#32).broadcastMsg Int.ofNat ⟨0x01000005#32, [97], 0, false⟩ fdbObjectMain).copies := by
  refine (findService_iff_broadcastMsg (RegistryTbl.put ∅ [97] 0x01000005#32 {}) rfl
    [] 0x01ffffff#32 ⟨0#32⟩ ?_ Int.ofNat 0 fdbObjectMain).mp (by decide +kernel)
  intro code topic
  rw [CFdbBaseObject.lookup_subscribe, CFdbBaseObject.lookup_empty]
  by_cases hcode : 0x01ffffff#32 = code
  · by_cases htopic : ([] : Text) = topic
    · simp [← hcode, ← htopic]
    · simp [htopic, Ne.symm htopic]
  · simp [hcode, Ne.symm hcode]

end Fdbus.Server

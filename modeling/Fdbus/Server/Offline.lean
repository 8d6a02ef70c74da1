/-
  Fdbus.Server.Offline — the end of a session.

  When a session ends, the name server looks for a service of the session, removes it and starts
  over, until there is none.

    * `Stored` — every service is kept under its own name and instance, and the instance is not a
      group; `NamesUsed` — every name has an instance,
    * `Scans` — the loop, as the source has it,
    * `stored_run`, `offline_run` — both hold whatever the name server has been through,
    * `offline_removes_exactly` — the loop ends, and what is left are the services of the others.
-/
import Fdbus.Server.Monitors

namespace Fdbus.Server

open Fdbus.OrderedMap Fdbus.Security Fdbus.Subscribe Fdbus.Run List Option Std.ExtTreeMap Bool

/-! ## §1. How services are kept. -/

/-- Every service is kept under its own name and instance, and the instance is not a group. -/
def Stored (reg : RegistryTbl) : Prop :=
  ∀ n i (entry : CSvcRegistryEntry), reg.get n i = some entry →
    entry.mSvcName = n ∧ entry.mInstanceId = i ∧ fdbIsGroup i = false

/-- Every name has an instance. -/
def NamesUsed (reg : RegistryTbl) : Prop := Pruned (·.isEmpty) (fun _ => True) reg

section Kept

variable {reg : RegistryTbl} {n : Text} {i : FdbInstanceId}

theorem stored_empty : Stored ∅ := by
  intro n i entry hget
  simp [RegistryTbl.get] at hget

theorem Stored.eraseService (h : Stored reg) (n : Text) (i : FdbInstanceId) :
    Stored (reg.eraseService n i) := by
  intro n' i' entry hget
  rw [get_eraseService] at hget
  split at hget
  · cases hget
  · exact h n' i' entry hget

theorem Stored.put (h : Stored reg) {entry : CSvcRegistryEntry} (hname : entry.mSvcName = n)
    (hinst : entry.mInstanceId = i) (hgroup : fdbIsGroup i = false) :
    Stored (reg.put n i entry) := by
  intro n' i' entry' hget
  rw [get_put] at hget
  split at hget
  · next heq =>
      obtain ⟨rfl, rfl⟩ := heq
      cases hget
      exact ⟨hname, hinst, hgroup⟩
  · exact h n' i' entry' hget

theorem NamesUsed.eraseService (h : NamesUsed reg) (n : Text) (i : FdbInstanceId) :
    NamesUsed (reg.eraseService n i) :=
  Pruned.pruneAt h (fun _ _ => trivial) n

/-- A name without instances was there before. -/
theorem empty_of_eraseService {n' : Text} {tbl : SvcRegistryTbl}
    (hget : (reg.eraseService n i)[n']? = some tbl) (hempty : tbl.isEmpty = true) :
    reg[n']? = some tbl := by
  unfold RegistryTbl.eraseService at hget
  rw [get_pruneAt] at hget
  split at hget
  · -- a table that has become empty is taken out
    have hused := (filter_eq_some_iff.mp hget).2
    rw [hempty] at hused
    cases hused
  · exact hget

theorem NamesUsed.put (h : NamesUsed reg) (n : Text) (i : FdbInstanceId)
    (entry : CSvcRegistryEntry) : NamesUsed (reg.put n i entry) := by
  intro n' tbl htbl
  unfold RegistryTbl.put at htbl
  rw [get_upsert] at htbl
  split at htbl
  · cases htbl
    exact ⟨by simp, trivial⟩
  · exact h n' tbl htbl

/-- What is listed of a table that may have become empty. -/
theorem length_elim_filter (tbl : SvcRegistryTbl) :
    (((some tbl).filter fun tbl => !tbl.isEmpty).elim [] fun tbl => tbl.toList).length
      = tbl.size := by
  rw [filter_some]
  split
  · exact length_toList
  · next hempty =>
      rw [not_eq_true, not_eq_false', isEmpty_eq_size_beq_zero,
        beq_iff_eq] at hempty
      rw [hempty]
      rfl

/-- A service is one of the list of all; without it the list is shorter by one. -/
theorem length_all_eraseService {entry : CSvcRegistryEntry} (hget : reg.get n i = some entry) :
    (reg.eraseService n i).all.length + 1 = reg.all.length := by
  obtain ⟨tbl, htbl, hentry⟩ := bind_eq_some_iff.mp hget
  have hlength : ∀ reg : RegistryTbl,
      reg.all.length = (reg.toList.flatMap fun e => e.2.toList).length := by
    simp [RegistryTbl.all, length_flatMap]
  have haway : ∀ n', n' ≠ n → (reg.eraseService n i)[n']? = reg[n']? := by
    intro n' hne
    unfold RegistryTbl.eraseService
    rw [get_pruneAt, if_neg fun h => hne h.symm]
  have hat : (reg.eraseService n i)[n]? = (some (tbl.erase i)).filter fun tbl => !tbl.isEmpty := by
    unfold RegistryTbl.eraseService
    rw [get_pruneAt, if_pos rfl, htbl]
    rfl
  have hsize : (tbl.erase i).size + 1 = tbl.size := by
    have hmem : i ∈ tbl := mem_iff_isSome_getElem?.mpr (by rw [hentry]; rfl)
    have hpos : tbl.size ≠ 0 := fun hzero =>
      ne_empty_of_mem hmem (eq_empty_iff_size_eq_zero.mpr hzero)
    rw [size_erase, if_pos (contains_iff_mem.mpr hmem)]
    omega
  obtain ⟨l₁, l₂, hreg, herased⟩ := flatMap_split haway fun tbl : SvcRegistryTbl => tbl.toList
  rw [hlength, hlength, hreg, herased, htbl, hat]
  simp only [List.length_append, length_elim_filter, Option.elim_some, Std.ExtTreeMap.length_toList]
  omega

end Kept

/-! ## §2. The loop. -/

section Loop

variable {cfg : NsConfig} {session : SessionPtr}

/-- The loop of `onOffline`: it scans the registry until a scan removes nothing. -/
inductive Scans (cfg : NsConfig) (session : SessionPtr) : NameServer → NameServer → Prop where
  | done {ns : NameServer} (h : (removeOwned cfg session ns.mRegistryTbl.all ns).2 = false) :
      Scans cfg session ns (removeOwned cfg session ns.mRegistryTbl.all ns).1
  | again {ns ns' : NameServer} (h : (removeOwned cfg session ns.mRegistryTbl.all ns).2 = true)
      (rest : Scans cfg session (removeOwned cfg session ns.mRegistryTbl.all ns).1 ns') :
      Scans cfg session ns ns'

variable {ns : NameServer}

/-- A service that is kept under its own name is removed. -/
theorem removeService_stored (cfg : NsConfig) (hstored : Stored ns.mRegistryTbl)
    {m : RegistryMatch} (hget : ns.mRegistryTbl.get m.name m.inst = some m.entry) :
    (removeService cfg ns m.entry.mSvcName m.entry.mInstanceId).1.mRegistryTbl
        = ns.mRegistryTbl.eraseService m.name m.inst
      ∧ (removeService cfg ns m.entry.mSvcName m.entry.mInstanceId).2 = true := by
  obtain ⟨hname, hinst, hgroup⟩ := hstored m.name m.inst m.entry hget
  rw [hname, hinst]
  unfold removeService
  rw [head_findService hgroup hget]
  refine ⟨rfl, ?_⟩
  rw [hget]
  rfl

/-- **One scan** removes the first service of the session, or there is none. -/
theorem removeOwned_stored (cfg : NsConfig) (session : SessionPtr)
    (hstored : Stored ns.mRegistryTbl) (ms : List RegistryMatch)
    (hms : ∀ m ∈ ms, ns.mRegistryTbl.get m.name m.inst = some m.entry) :
    ((removeOwned cfg session ms ns).2 = false ∧ (removeOwned cfg session ms ns).1 = ns
        ∧ ∀ m ∈ ms, m.entry.mSid ≠ session)
      ∨ ((removeOwned cfg session ms ns).2 = true
        ∧ ∃ m ∈ ms, m.entry.mSid = session
          ∧ (removeOwned cfg session ms ns).1.mRegistryTbl
            = ns.mRegistryTbl.eraseService m.name m.inst) := by
  induction ms with
  | nil =>
    refine .inl ⟨rfl, rfl, ?_⟩
    intro m hm
    cases hm
  | cons m ms ih =>
    unfold removeOwned
    by_cases hown : m.entry.mSid = session
    · obtain ⟨hreg, hremoved⟩ := removeService_stored cfg hstored
        (hms m mem_cons_self)
      rw [if_pos hown]
      simp only [hremoved, if_true]
      exact .inr ⟨trivial, m, mem_cons_self .., hown, hreg⟩
    · rw [if_neg hown]
      rcases ih fun m' hm' => hms m' (mem_cons_of_mem m hm') with
        ⟨hnone, hsame, hothers⟩ | ⟨hsome, m', hm', hrest⟩
      · exact .inl ⟨hnone, hsame, forall_mem_cons.mpr ⟨hown, hothers⟩⟩
      · exact .inr ⟨hsome, m', mem_cons_of_mem m hm', hrest⟩

/-- A scan of the registry. -/
theorem scan_stored (cfg : NsConfig) (session : SessionPtr) (hstored : Stored ns.mRegistryTbl) :
    ((removeOwned cfg session ns.mRegistryTbl.all ns).2 = false
        ∧ (removeOwned cfg session ns.mRegistryTbl.all ns).1 = ns
        ∧ ∀ n i entry, ns.mRegistryTbl.get n i = some entry → entry.mSid ≠ session)
      ∨ ((removeOwned cfg session ns.mRegistryTbl.all ns).2 = true
        ∧ ∃ n i entry, ns.mRegistryTbl.get n i = some entry ∧ entry.mSid = session
          ∧ (removeOwned cfg session ns.mRegistryTbl.all ns).1.mRegistryTbl
            = ns.mRegistryTbl.eraseService n i) := by
  have hms : ∀ m ∈ ns.mRegistryTbl.all, ns.mRegistryTbl.get m.name m.inst = some m.entry :=
    fun m hm => (mem_all _ m).mp hm
  rcases removeOwned_stored cfg session hstored _ hms with
    ⟨hnone, hsame, hothers⟩ | ⟨hsome, m, hm, hown, hreg⟩
  · refine .inl ⟨hnone, hsame, ?_⟩
    intro n i entry hget
    exact hothers ⟨n, i, entry⟩ ((mem_all _ ⟨n, i, entry⟩).mpr hget)
  · exact .inr ⟨hsome, m.name, m.inst, m.entry, hms m hm, hown, hreg⟩

/-- **The loop ends**: with more rounds than there are services, the function is a run of it. -/
theorem scans_removeAllOwned (fuel : Nat) :
    ∀ ns : NameServer, Stored ns.mRegistryTbl → ns.mRegistryTbl.all.length < fuel →
      Scans cfg session ns (removeAllOwned cfg session fuel ns) := by
  induction fuel with
  | zero =>
    intro ns _ hlt
    exact absurd hlt (Nat.not_lt_zero _)
  | succ fuel ih =>
    intro ns hstored hlt
    unfold removeAllOwned
    rcases scan_stored cfg session hstored with
      ⟨hnone, -, -⟩ | ⟨hsome, n, i, entry, hget, -, hreg⟩
    · rw [if_neg (by rw [hnone]; exact false_ne_true)]
      exact Scans.done hnone
    · rw [if_pos hsome]
      refine Scans.again hsome (ih _ ?_ ?_)
      · rw [hreg]
        exact hstored.eraseService n i
      · -- one service fewer
        rw [hreg]
        have hlength := length_all_eraseService hget
        omega

/-- **What the loop leaves**: the services of the other sessions. -/
theorem Scans.frame {ns' : NameServer} (h : Scans cfg session ns ns')
    (hstored : Stored ns.mRegistryTbl) :
    (∀ n i, ns'.mRegistryTbl.get n i
        = (ns.mRegistryTbl.get n i).filter fun entry : CSvcRegistryEntry => entry.mSid ≠ session)
      ∧ ∀ (n : Text) (tbl : SvcRegistryTbl), ns'.mRegistryTbl[n]? = some tbl → tbl.isEmpty = true →
        ns.mRegistryTbl[n]? = some tbl := by
  induction h with
  | @done ns hdone =>
    rcases scan_stored cfg session hstored with
      ⟨-, hsame, hothers⟩ | ⟨hsome, -⟩
    · rw [hsame]
      refine ⟨?_, fun n tbl hget _ => hget⟩
      intro n i
      cases hget : ns.mRegistryTbl.get n i with
      | none => rfl
      | some entry => simp [Option.filter, hothers n i entry hget]
    · rw [hdone] at hsome
      cases hsome
  | @again ns ns' hagain rest ih =>
    rcases scan_stored cfg session hstored with
      ⟨hnone, -⟩ | ⟨-, n, i, entry, hget, hown, hreg⟩
    · rw [hagain] at hnone
      cases hnone
    · rw [hreg] at ih
      obtain ⟨hframe, hnames⟩ := ih (hstored.eraseService n i)
      refine ⟨?_, fun n' tbl hget' hempty =>
        empty_of_eraseService (hnames n' tbl hget' hempty) hempty⟩
      intro n' i'
      rw [hframe, get_eraseService]
      split
      · next heq =>
          -- the service that was removed belongs to the session
          obtain ⟨rfl, rfl⟩ := heq
          rw [hget]
          simp [Option.filter, hown]
      · rfl

end Loop

/-! ## §3. Every state the name server can be in. -/

section Reachable

variable {cfg : NsConfig} {ns : NameServer}

/-- Services are kept under their own names and instances, and every name has one. -/
structure WellKept (reg : RegistryTbl) : Prop where
  stored : Stored reg
  used : NamesUsed reg

theorem onOffline_scans (cfg : NsConfig) (session : SessionPtr) (hstored : Stored ns.mRegistryTbl) :
    Scans cfg session
      { ns with
        sessions := ns.sessions.erase session
        publishers := fun type => (ns.publishers type).unsubscribeSession session }
      (onOffline cfg ns session) :=
  scans_removeAllOwned _ _ hstored (Nat.lt_succ_self _)

section

variable (h : WellKept ns.mRegistryTbl)

include h

/-- A request keeps both. -/
theorem kept_handle (session : SessionPtr) (req : Request) :
    WellKept (ns.handle cfg session req).1.mRegistryTbl := by
  cases req with
  | alloc req allocated tokens =>
    show WellKept (onAllocServiceAddressReq cfg ns session req allocated tokens).1.mRegistryTbl
    rcases registry_alloc cfg ns session req allocated tokens with hreg | ⟨inst, hgroup, -, hreg⟩
    · rw [hreg]
      exact h
    · rw [hreg]
      exact ⟨h.stored.put rfl rfl hgroup, h.used.put _ _ _⟩
  | register req realloc =>
    show WellKept (onRegisterServiceReq cfg ns session req realloc).1.mRegistryTbl
    rw [registry_register]
    split
    · exact h
    · split
      · exact h
      · next m hfind =>
          split
          · exact ⟨h.stored.eraseService _ _, h.used.eraseService _ _⟩
          · -- the entry that was found keeps its name and instance
            obtain ⟨hname, hinst, hgroup⟩ := h.stored _ _ _ (get_of_head_findService hfind)
            exact ⟨h.stored.put hname hinst hgroup, h.used.put _ _ _⟩
  | unregister svcName instanceId =>
    show WellKept (onUnegisterServiceReq cfg ns svcName instanceId).1.mRegistryTbl
    unfold onUnegisterServiceReq
    split
    · exact h
    · rw [registry_removeService]
      split
      · exact h
      · exact ⟨h.stored.eraseService _ _, h.used.eraseService _ _⟩

/-- More addresses, but the same services. -/
theorem kept_onHostOnline (allocated : Text → FdbInstanceId → List CAllocatedAddress)
    (bind : Text → Option Int) : WellKept (onHostOnline cfg ns allocated bind).mRegistryTbl := by
  unfold onHostOnline
  split
  · exact h
  · constructor
    · intro n i entry' hget
      obtain ⟨tbl', htbl', hentry'⟩ := bind_eq_some_iff.mp hget
      change (Std.ExtTreeMap.map _ _)[n]? = some tbl' at htbl'
      rw [Std.ExtTreeMap.getElem?_map] at htbl'
      obtain ⟨tbl, htbl, rfl⟩ := map_eq_some_iff.mp htbl'
      rw [Std.ExtTreeMap.getElem?_map] at hentry'
      obtain ⟨entry, hentry, rfl⟩ := map_eq_some_iff.mp hentry'
      obtain ⟨hname, hinst, hgroup⟩ :=
        h.stored n i entry (bind_eq_some_iff.mpr ⟨tbl, htbl, hentry⟩)
      unfold withInetAddresses
      split
      · exact ⟨hname, hinst, hgroup⟩
      · split <;> exact ⟨hname, hinst, hgroup⟩
    · intro n tbl' htbl'
      change (Std.ExtTreeMap.map _ _)[n]? = some tbl' at htbl'
      rw [Std.ExtTreeMap.getElem?_map] at htbl'
      obtain ⟨tbl, htbl, rfl⟩ := map_eq_some_iff.mp htbl'
      refine ⟨?_, trivial⟩
      have hempty : tbl.isEmpty = false := (h.used n tbl htbl).1
      rw [isEmpty_eq_size_beq_zero] at hempty
      beta_reduce
      rw [isEmpty_eq_size_beq_zero, size_map]
      exact hempty

theorem kept_onOffline (session : SessionPtr) :
    WellKept (onOffline cfg ns session).mRegistryTbl := by
  obtain ⟨hframe, hnames⟩ := (onOffline_scans cfg session h.stored).frame h.stored
  constructor
  · intro n i entry hget
    rw [hframe] at hget
    exact h.stored n i entry (filter_eq_some_iff.mp hget).1
  · intro n tbl hget
    refine ⟨?_, trivial⟩
    rw [← not_eq_true]
    intro hempty
    -- it had no instance before either
    have hbefore := (h.used n tbl (hnames n tbl hget hempty)).1
    rw [hempty] at hbefore
    cases hbefore

theorem kept_step {ns' : NameServer} {e : Event} (hstep : step cfg ns e = some ns') :
    WellKept ns'.mRegistryTbl := by
  cases e with
  | online | nameServerDrop =>
    cases hstep
    exact h
  | offline session =>
    obtain ⟨-, hsome⟩ := ite_none_right_eq_some.mp hstep
    cases hsome
    exact kept_onOffline h session
  | request session req =>
    obtain ⟨-, hsome⟩ := ite_none_right_eq_some.mp hstep
    cases hsome
    exact kept_handle h session req
  | subscribe session obj items =>
    obtain ⟨info, -, hmap⟩ := bind_eq_some_iff.mp hstep
    obtain ⟨type, -, rfl⟩ := map_eq_some_iff.mp hmap
    unfold onSubscribe
    split <;> exact h
  | hostConnected | exportedServices =>
    obtain ⟨proxy, -, rfl⟩ := map_eq_some_iff.mp hstep
    exact h
  | hostOnline allocated bind =>
    cases hstep
    exact kept_onHostOnline h allocated bind
  | serviceBroadcast monitor code peerIp list initial =>
    obtain ⟨-, hsome⟩ := ite_none_right_eq_some.mp hstep
    cases hsome
    exact h

end

theorem registry_online (cfg : NsConfig) (params : OnlineParams) :
    (NameServer.online cfg params).mRegistryTbl
      = RegistryTbl.put ∅ cfg.nsName 0#32 (ownEntry cfg params) := by
  unfold NameServer.online
  generalize params.hostServerUrls = urls
  refine foldlRecOn (motive := fun ns : NameServer => ns.mRegistryTbl = _) urls _ rfl ?_
  intro ns h url _
  unfold NameServer.connectToHostServer
  split <;> exact h

/-- **How services are kept, in every run**: under their own names and instances, and every name
has one. -/
theorem stored_run (params : OnlineParams) {es : List Event}
    (hrun : run (step cfg) (NameServer.online cfg params) es = some ns) :
    WellKept ns.mRegistryTbl := by
  refine run_along (P := fun ns : NameServer => WellKept ns.mRegistryTbl)
    (fun s e s' _ h hstep => kept_step h hstep) ?_ (along_true (step cfg) es _) hrun
  rw [registry_online]
  constructor
  · exact stored_empty.put rfl rfl (by decide)
  · exact NamesUsed.put pruned_empty _ _ _

/-- **The end of a session, in every run**: the services that are left are exactly those of other
sessions, and every name has one. -/
theorem offline_run (params : OnlineParams) {es : List Event}
    (hrun : run (step cfg) (NameServer.online cfg params) es = some ns) (session : SessionPtr) :
    (∀ n i, (onOffline cfg ns session).mRegistryTbl.get n i
        = (ns.mRegistryTbl.get n i).filter fun entry : CSvcRegistryEntry => entry.mSid ≠ session)
      ∧ NamesUsed (onOffline cfg ns session).mRegistryTbl := by
  have hkept := stored_run params hrun
  exact ⟨((onOffline_scans cfg session hkept.stored).frame hkept.stored).1,
    (kept_onOffline hkept session).used⟩

/-- The server of `monitoredRun` goes: service "a" is removed. -/
theorem offline_run_one :
    ∃ ns, run (step plainConfig) (NameServer.online plainConfig ipcParams) monitoredRun = some ns
      ∧ (ns.mRegistryTbl.get [97] 0#32).map (·.mSid) = some 0
      ∧ (onOffline plainConfig ns 0).mRegistryTbl.get [97] 0#32 = none
      ∧ NamesUsed (onOffline plainConfig ns 0).mRegistryTbl := by
  have howner : (run (step plainConfig) (NameServer.online plainConfig ipcParams) monitoredRun).bind
      (fun ns => (ns.mRegistryTbl.get [97] 0#32).map (·.mSid)) = some 0 := by
    decide +kernel
  obtain ⟨ns, hrun, howner⟩ := bind_eq_some_iff.mp howner
  obtain ⟨hleft, hused⟩ := offline_run ipcParams hrun 0
  refine ⟨ns, hrun, howner, ?_, hused⟩
  obtain ⟨entry, hget, hsid⟩ := map_eq_some_iff.mp howner
  rw [hleft, hget]
  simp [Option.filter, hsid]

end Reachable

/-- **Losing a client.**  When a session ends, for every registry whose services are kept under
their own names and instances: the loop ends; the services that are left are exactly those of other
sessions, as they were; and no name is left without an instance, that had one before. -/
theorem offline_removes_exactly (cfg : NsConfig) (ns : NameServer) (session : SessionPtr)
    (hstored : Stored ns.mRegistryTbl) :
    Scans cfg session
        { ns with
          sessions := ns.sessions.erase session
          publishers := fun type => (ns.publishers type).unsubscribeSession session }
        (onOffline cfg ns session)
      ∧ (∀ n i, (onOffline cfg ns session).mRegistryTbl.get n i
        = (ns.mRegistryTbl.get n i).filter fun entry : CSvcRegistryEntry => entry.mSid ≠ session)
      ∧ ∀ (n : Text) (tbl : SvcRegistryTbl),
        (onOffline cfg ns session).mRegistryTbl[n]? = some tbl →
        tbl.isEmpty = true → ns.mRegistryTbl[n]? = some tbl := by
  have hscans := onOffline_scans cfg session hstored
  exact ⟨hscans, hscans.frame hstored⟩

/-- A service of session 1 and one of session 2. -/
def twoOwners : NameServer where
  mRegistryTbl := ownedService.mRegistryTbl.put [98] 0#32
    { mSid := 2, mAddrTbl := [ipcDesc], mSvcName := [98] }

theorem offline_removes_exactly_one :
    Stored twoOwners.mRegistryTbl
      ∧ (onOffline plainConfig twoOwners 1).mRegistryTbl.get [97] 0#32 = none
      ∧ (onOffline plainConfig twoOwners 1).mRegistryTbl.get [98] 0#32
        = some { mSid := 2, mAddrTbl := [ipcDesc], mSvcName := [98] } := by
  have hstored : Stored twoOwners.mRegistryTbl := by
    have hgroup : fdbIsGroup 0#32 = false := by decide
    have howned : Stored ownedService.mRegistryTbl := stored_empty.put rfl rfl hgroup
    exact Stored.put howned rfl rfl hgroup
  have hframe := (offline_removes_exactly plainConfig twoOwners 1 hstored).2.1
  refine ⟨hstored, ?_, ?_⟩
  · decide +kernel
  · decide +kernel

end Fdbus.Server

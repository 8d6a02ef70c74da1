/-
  Fdbus.Worker.Discard — `discardQueuedJobs`.

  Discarding raises `mDiscardCnt` at once and sends an unlock job that lowers it again when its
  turn comes; while the counter is not 0, jobs without `JOB_FORCE_RUN` are not run.  Calls may
  overlap, and batches may be under way.  The counter is the number of calls whose unlock job is
  still to come, and since the queue is processed in order this is what decides about a job:

    * `counted` — the calls whose unlock job has begun and those still outstanding are all calls,
      each once, and `mDiscardCnt` is the number of the latter,
    * `discards_exactly` — the jobs that are not run are those without `JOB_FORCE_RUN` that had
      not begun when some call was made and were accepted before its unlock job.
-/
import Fdbus.Worker.JobQueue

namespace Fdbus.Worker

open Fdbus.Run List Option

variable {w w' : CBaseWorker} {v : Bool}

/-- There is no nested flush and no exit, and the unlock jobs are accepted. -/
def DiscardsOnly (w : CBaseWorker) : WorkerEvent → Prop
  | .flush => w.stack = []
  | .exit _ => False
  | .enqueue (.unlockJobQueue _) urgent => (w.queue urgent).HasRoom
  | _ => True

instance (w : CBaseWorker) : ∀ ev, Decidable (DiscardsOnly w ev)
  | .flush => inferInstanceAs (Decidable (w.stack = []))
  | .exit _ => isFalse id
  | .enqueue (.unlockJobQueue _) urgent => inferInstanceAs (Decidable (w.queue urgent).HasRoom)
  | .enqueue (.job _ _) _ | .enqueue (.exitRequest _) _ | .tearup _ | .dispatch | .processJobQueue
  | .processUrgentJobs | .start | .finish | .returns | .endDispatch | .leave | .send _ _ _
  | .discardJobs _ | .sendUnlock _ _ | .sizeLimit _ _ => isTrue trivial

/-- Job number `n` had not begun when some discard call was made, and its unlock job is not among
the jobs accepted before `n`. -/
def CJobQueue.Covered (q : CJobQueue) (n : Nat) : Prop :=
  ∃ call mark, q.discards[call]? = some mark ∧ mark ≤ n
    ∧ .unlockJobQueue call ∉ q.accepted.take n

/-- The jobs of a queue begin in the order they were accepted, each once.  Those that are not run
are those that may be discarded and are covered by a discard call.  When nothing is queued or left
in a batch all have begun, and when all unlock jobs have begun nothing is discarded any more. -/
structure CBaseWorker.DiscardsExactly (w : CBaseWorker) (v : Bool) : Prop where
  order : (w.queue v).begun.map Prod.fst
    = (w.queue v).accepted.zipIdx.take (w.queue v).begun.length
  notRun : ∀ n p, (w.queue v).begun[n]? = some p →
    (p.2 ≠ .ran ↔ p.1.1.forceRun = false ∧ (w.queue v).Covered n)
  all : (w.queue v).mJobQueue = [] → (w.lane v).todo = [] →
    (w.queue v).begun.length = (w.queue v).accepted.length
  unlocked : (∀ call < (w.queue v).discards.length,
      .unlockJobQueue call ∈ (w.queue v).begun.map fun p => p.1.1) →
    (w.queue v).mDiscardCnt = 0

/-! ## §1. The discard calls. -/

/-- The calls whose unlock job is not yet in the queue. -/
def Control.calls (c : Control) (v : Bool) : List Nat :=
  c.unlocking.filterMap (fun p => if p.2 = v then some p.1 else none)
    ++ c.sending.filterMap fun p => if p.2 = v then p.1.unlocks else none

/-- The calls whose unlock job is in the queue or a batch. -/
def Lane.waiting (l : Lane) : List Nat := (l.todo ++ l.queue.mJobQueue).filterMap fun e => e.1.unlocks

/-- The calls whose unlock job has begun. -/
def Lane.unlocked (l : Lane) : List Nat := l.queue.begun.filterMap fun p => p.1.1.unlocks

/-- The calls whose unlock job has not begun. -/
def CBaseWorker.outstanding (w : CBaseWorker) (v : Bool) : List Nat :=
  w.control.calls v ++ (w.lane v).waiting

/-- An element of a list can be taken out before the list is filtered. -/
theorem filterMap_erase {α β : Type} [BEq α] [LawfulBEq α] (f : α → Option β) {a : α} {l : List α}
    (ha : a ∈ l) : (l.filterMap f).Perm ((f a).toList ++ (l.erase a).filterMap f) := by
  have hperm := (perm_cons_erase ha).filterMap f
  rw [filterMap_cons] at hperm
  cases hf : f a with
  | none | some =>
    rw [hf] at hperm
    exact hperm

variable (l : Lane) {ev : WorkerEvent}

/-- A call is made, its unlock job enters the queue, or the calls on their way stay the same. -/
theorem ControlStep.calls_cases {c : Control} (h : ControlStep w ev c)
    (hexit : w.mExitCode = 0) (v : Bool) :
    (c.calls v).Perm (w.control.calls v) ∧ ev ≠ .discardJobs v
        ∧ (∀ call, ev ≠ .enqueue (.unlockJobQueue call) v)
      ∨ ev = .discardJobs v ∧ (c.calls v).Perm ((w.queue v).discards.length :: w.control.calls v)
      ∨ ∃ call, ev = .enqueue (.unlockJobQueue call) v
        ∧ (w.control.calls v).Perm (call :: c.calls v) := by
  cases h with
  | keep _ hev =>
    refine .inl ⟨.rfl, ?_, fun call => ?_⟩
    · rintro rfl
      cases hev
    · rintro rfl
      cases hev
  | tearup | dispatch | endDispatch | leave | returns | exits =>
    exact .inl ⟨.rfl, nofun, nofun⟩
  | send | exit =>
    refine .inl ⟨Perm.of_eq (congrArg (_ ++ ·) (filterMap_cons_none ?_)), nofun, nofun⟩
    exact ite_self none
  | dropUnlock call urgent hexit' => exact absurd hexit hexit'
  | discardJobs urgent =>
    by_cases hv : urgent = v
    · subst hv
      refine .inr (.inl ⟨rfl, Perm.of_eq ?_⟩)
      simp only [Control.calls, filterMap_cons, if_true, cons_append]
      rfl
    · refine .inl ⟨Perm.of_eq ?_, fun h => hv (WorkerEvent.discardJobs.inj h), nofun⟩
      simp only [Control.calls, filterMap_cons, if_neg hv]
      rfl
  | sendUnlock call urgent hmem _ =>
    -- the call goes from one list to the other
    refine .inl ⟨?_, nofun, nofun⟩
    have herase := filterMap_erase (fun p => if p.2 = v then some p.1 else none) hmem
    by_cases hv : urgent = v
    · simp only [if_pos hv, toList_some, singleton_append] at herase
      simp only [Control.calls, filterMap_cons, if_pos hv,
        show (CBaseJob.unlockJobQueue call).unlocks = some call from rfl]
      exact perm_middle.trans (herase.symm.append_right _)
    · simp only [if_neg hv, toList_none, nil_append] at herase
      simp only [Control.calls, filterMap_cons, if_neg hv]
      exact herase.symm.append_right _
  | enqueue job urgent hmem =>
    have herase := filterMap_erase (fun p => if p.2 = v then p.1.unlocks else none) hmem
    have hrest : ∀ {l : List Nat}, (if urgent = v then job.unlocks else none).toList = l →
        (w.control.calls v).Perm (l ++ Control.calls { w.control with
          sending := w.sending.erase (job, urgent) } v) := by
      rintro l rfl
      refine (herase.append_left _).trans ?_
      unfold Control.calls
      rw [← append_assoc, ← append_assoc]
      exact perm_append_comm.append_right _
    by_cases hv : urgent = v
    · cases hjob : job.unlocks with
      | some call =>
        rw [if_pos hv, hjob] at hrest
        cases job with
        | unlockJobQueue c =>
          cases hjob
          exact .inr (.inr ⟨call, by rw [hv], hrest rfl⟩)
        | job | exitRequest => cases hjob
      | none =>
        rw [if_pos hv, hjob] at hrest
        refine .inl ⟨(hrest rfl).symm, nofun, fun call hev => ?_⟩
        rw [(WorkerEvent.enqueue.inj hev).1] at hjob
        cases hjob
    · rw [if_neg hv] at hrest
      exact .inl ⟨(hrest rfl).symm, nofun, fun call hev => hv (WorkerEvent.enqueue.inj hev).2⟩

/-! ## §2. What becomes of a job. -/

/-- As long as the worker does not exit, a job is run if nothing is discarded or it is forced. -/
theorem outcome_eq_ran_iff (hexit : w.mExitCode = 0) (v : Bool) (job : CBaseJob) :
    w.outcome v job = .ran ↔ job.forceRun = true ∨ (w.queue v).mDiscardCnt = 0 := by
  unfold CBaseWorker.outcome CJobQueue.jobDiscarded
  rw [hexit]
  by_cases hcnt : (w.queue v).mDiscardCnt = 0
  · simp [hcnt]
  · cases hforce : job.forceRun with
    | true => simp
    | false => simp [hcnt, Nat.pos_of_ne_zero hcnt]

/-- An unlock job is forced, so it is run. -/
theorem outcome_of_unlocks (hexit : w.mExitCode = 0) (v : Bool) {job : CBaseJob} {call : Nat}
    (hjob : job.unlocks = some call) : w.outcome v job = .ran := by
  refine (outcome_eq_ran_iff hexit v job).mpr (.inl ?_)
  cases job with
  | unlockJobQueue | exitRequest => rfl
  | job id forceRun => cases hjob

theorem begin_mDiscardCnt (e : Entry) (rest : List Entry) (o : Outcome) :
    (l.begin e rest o).queue.mDiscardCnt
      = if o = .ran ∧ e.1.unlocks.isSome = true then l.queue.mDiscardCnt - 1
        else l.queue.mDiscardCnt := by
  obtain ⟨job, n⟩ := e
  unfold Lane.begin
  by_cases ho : o = .ran
  · cases job with
    | job | exitRequest => simp [ho, CBaseJob.unlocks]
    | unlockJobQueue call => simp [ho, CBaseJob.unlocks, CJobQueue.pickupJobs]
  · simp [ho]

/-- The calls of a queue when the turn of a job comes: that of an unlock job is not waited for
any more. -/
theorem begin_calls (e : Entry) {rest : List Entry} (o : Outcome) (htodo : l.todo = e :: rest) :
    (l.begin e rest o).unlocked = l.unlocked ++ e.1.unlocks.toList
      ∧ l.waiting = e.1.unlocks.toList ++ (l.begin e rest o).waiting := by
  obtain ⟨-, hqueued, -, hbegun, hrest⟩ := begin_accepted l e rest o
  unfold Lane.unlocked Lane.waiting
  rw [hbegun, hqueued, hrest, htodo, filterMap_append, cons_append, filterMap_cons,
    filterMap_cons]
  cases e.1.unlocks with
  | none | some => exact ⟨rfl, rfl⟩

/-- The calls of a queue when a job is pushed. -/
theorem push_waiting (job : CBaseJob) (n : Nat) (accepted : List CBaseJob) :
    (Lane.waiting { l with
      queue := { l.queue with
        mJobQueue := l.queue.mJobQueue ++ [(job, n)]
        accepted := accepted } }).Perm (job.unlocks.toList ++ l.waiting) := by
  simp only [Lane.waiting, ← append_assoc, filterMap_append, filterMap_cons,
    filterMap_nil]
  cases job.unlocks with
  | none => exact Perm.of_eq (append_nil _)
  | some call => exact perm_append_comm

/-- A step that neither makes a call nor enqueues an unlock job moves the calls about. -/
theorem ControlStep.calls_perm {c : Control} (h : ControlStep w ev c)
    (hexit : w.mExitCode = 0) {v : Bool} (hdiscard : ev ≠ .discardJobs v)
    (henqueue : ∀ call, ev ≠ .enqueue (.unlockJobQueue call) v) :
    (c.calls v).Perm (w.control.calls v) := by
  rcases h.calls_cases hexit v with ⟨hperm, -, -⟩ | ⟨hev, -⟩ | ⟨call, hev, -⟩
  · exact hperm
  · exact absurd hev hdiscard
  · exact absurd hev (henqueue call)

/-- **What a step does to the calls of a queue**: they stay as they are, one is made, or the unlock
job of one begins. -/
theorem calls_step (hg : DiscardsOnly w ev) (hexit : w.mExitCode = 0)
    (hstep : w.step ev = some w') (v : Bool) :
    ((w'.outstanding v).Perm (w.outstanding v) ∧ (w'.lane v).unlocked = (w.lane v).unlocked
        ∧ (w'.queue v).discards.length = (w.queue v).discards.length
        ∧ (w'.queue v).mDiscardCnt = (w.queue v).mDiscardCnt)
      ∨ ((w'.outstanding v).Perm ((w.queue v).discards.length :: w.outstanding v)
        ∧ (w'.lane v).unlocked = (w.lane v).unlocked
        ∧ (w'.queue v).discards.length = (w.queue v).discards.length + 1
        ∧ (w'.queue v).mDiscardCnt = (w.queue v).mDiscardCnt + 1)
      ∨ ∃ call, (w.outstanding v).Perm (call :: w'.outstanding v)
        ∧ (w'.lane v).unlocked = (w.lane v).unlocked ++ [call]
        ∧ (w'.queue v).discards.length = (w.queue v).discards.length
        ∧ (w'.queue v).mDiscardCnt = (w.queue v).mDiscardCnt - 1 := by
  have hcontrol := step_control hstep
  have hcalls := hcontrol.calls_cases hexit v
  have hlane := step_lane hstep v
  have hqueue : w'.queue v = (w'.lane v).queue := rfl
  rw [hqueue]
  unfold CBaseWorker.outstanding
  generalize w'.lane v = l at hlane
  cases hlane with
  | keep _ hev =>
    refine .inl ⟨(hcontrol.calls_perm hexit ?_ fun call => ?_).append_right _, rfl, rfl, rfl⟩
    · rintro rfl
      simp [CBaseWorker.changes] at hev
    · rintro rfl
      simp [CBaseWorker.changes, CBaseJob.unlocks] at hev
  | sizeLimit | finish =>
    refine .inl ⟨(hcontrol.calls_perm hexit ?_ fun call => ?_).append_right _, rfl, rfl, rfl⟩
    · intro hev
      cases hev
    · intro hev
      cases hev
  | refuse call hroom => exact absurd hg hroom
  | dropUnlock call hexit' => exact absurd hexit hexit'
  | discard =>
    rcases hcalls with ⟨-, hne, -⟩ | ⟨-, hperm⟩ | ⟨call, hev, -⟩
    · exact absurd rfl hne
    · exact .inr (.inl ⟨hperm.append_right _, rfl, length_append, rfl⟩)
    · cases hev
  | take _ htakes =>
    refine .inl ⟨(hcontrol.calls_perm hexit ?_ fun call => ?_).append ?_, rfl, rfl, rfl⟩
    · rintro rfl
      cases htakes
    · rintro rfl
      cases htakes
    · show (((w.queue v).mJobQueue ++ (w.lane v).todo) ++ []).filterMap _ |>.Perm _
      rw [append_nil]
      exact perm_append_comm.filterMap _
  | push job hroom =>
    have hwaiting := push_waiting (w.lane v) job (w.queue v).accepted.length
      ((w.queue v).accepted ++ [job])
    rcases hcalls with ⟨hperm, -, hne⟩ | ⟨hev, -⟩ | ⟨call, hev, hperm⟩
    · have hjob : job.unlocks = none := by
        cases job with
        | unlockJobQueue call => exact absurd rfl (hne call)
        | job | exitRequest => rfl
      rw [hjob] at hwaiting
      exact .inl ⟨hperm.append hwaiting, rfl, rfl, rfl⟩
    · cases hev
    · cases hev
      refine .inl ⟨?_, rfl, rfl, rfl⟩
      refine (hwaiting.append_left _).trans ?_
      exact perm_middle.trans (hperm.symm.append_right _)
  | begin e rest hnext htodo =>
    obtain ⟨-, -, hdiscards, -, -⟩ := begin_accepted (w.lane v) e rest (w.outcome v e.1)
    have hcnt := begin_mDiscardCnt (w.lane v) e rest (w.outcome v e.1)
    obtain ⟨hunlocked, hwaiting⟩ := begin_calls (w.lane v) e (w.outcome v e.1) htodo
    have hperm : (w'.control.calls v).Perm (w.control.calls v) := by
      refine hcontrol.calls_perm hexit ?_ fun call => ?_
      · intro hev
        cases hev
      · intro hev
        cases hev
    rw [hdiscards, hcnt, hunlocked, hwaiting]
    cases hjob : e.1.unlocks with
    | none =>
      refine .inl ⟨hperm.append_right _, append_nil _, rfl, if_neg ?_⟩
      rintro ⟨-, hsome⟩
      cases hsome
    | some call =>
      have hran : w.outcome v e.1 = .ran := outcome_of_unlocks hexit v hjob
      refine .inr (.inr ⟨call, ?_, rfl, rfl, if_pos ⟨hran, rfl⟩⟩)
      exact perm_middle.trans ((hperm.symm.append_right _).cons call)

/-! ## §3. What holds throughout. -/

/-- No exit request is on its way, batches are not nested, the calls are counted, and every job
that has begun was run or not as `DiscardsExactly` says. -/
structure DiscardOk (w : CBaseWorker) : Prop where
  exitCode : w.mExitCode = 0
  sending : ∀ v exitCode, (.exitRequest exitCode, v) ∉ w.sending
  accepted : ∀ v exitCode, .exitRequest exitCode ∉ (w.queue v).accepted
  stack : w.stack.length ≤ 1
  ordered : ∀ v, (w.lane v).view.Ordered
  calls : ∀ v, ((w.lane v).unlocked ++ w.outstanding v).Perm
    (List.range (w.queue v).discards.length)
  count : ∀ v, (w.queue v).mDiscardCnt = (w.outstanding v).length
  marks : ∀ v, ∀ mark ∈ (w.queue v).discards, mark ≤ (w.queue v).begun.length
  outcomes : ∀ v n p, (w.queue v).begun[n]? = some p →
    (p.2 = .ran ↔ p.1.1.forceRun = true ∨ ¬ (w.queue v).Covered n)

theorem discardOk_start (normalSize urgentSize : Nat) :
    DiscardOk (CBaseWorker.start normalSize urgentSize) :=
  ⟨rfl, fun _ _ => not_mem_nil, fun _ _ => not_mem_nil, Nat.zero_le 1, fun _ => rfl,
    fun _ => Perm.refl [], fun _ => rfl, nofun, nofun⟩

theorem exitCode_step (h : DiscardOk w) (hstep : w.step ev = some w') : w'.mExitCode = 0 := by
  have hc := step_control hstep
  show w'.control.mExitCode = 0
  generalize w'.control = c at hc
  cases hc with
  | tearup ok _ => rfl
  | exits urgent exitCode n hnext _ =>
    exact absurd (next_accepted (Perm.of_eq (h.ordered urgent)) hnext)
      (h.accepted urgent exitCode)
  | _ => exact h.exitCode

theorem stack_length_step (hg : DiscardsOnly w ev) (h : w.stack.length ≤ 1)
    (hstep : w.step ev = some w') : w'.stack.length ≤ 1 := by
  have hs := step_stack hstep
  generalize w'.stack = stack at hs
  cases hs with
  | keep => exact h
  | processJobQueue => exact Nat.le_refl 1
  | flush =>
    rw [show w.stack = [] from hg]
    exact Nat.le_refl 1
  | check f rest hw | urgent f rest e es hw | normal f rest e es hw | finish f rest u e hw =>
    rw [hw] at h
    exact h
  | returns f rest hw =>
    rw [hw, length_cons] at h
    omega

/-- Without nesting, a batch takes jobs only when those taken before have begun. -/
theorem todo_nil_of_single (hg : DiscardsOnly w ev) (h : w.stack.length ≤ 1)
    (hstep : w.step ev = some w') (htakes : ev.takes v = true) : (w.lane v).todo = [] := by
  have hnil : w.stack = [] → (w.lane v).todo = [] := by
    intro hstack
    show w.stack.flatMap (Batch.todo v) = []
    rw [hstack]
    rfl
  cases ev with
  | processJobQueue =>
    exact hnil (of_guard hstep).1.2
  | flush => exact hnil hg
  | processUrgentJobs =>
    obtain ⟨f, rest, hw, -, hurgent, -, -⟩ := processUrgentJobs_cases hstep
    rw [hw, length_cons] at h
    have hrest : rest = [] := length_eq_zero_iff.mp (by omega)
    show w.stack.flatMap (Batch.todo v) = []
    rw [hw, hrest, show v = true from htakes, flatMap_cons,
      show f.todo true = [] from hurgent]
    rfl
  | _ => cases htakes

/-- **The calls are counted.** -/
theorem counted (hg : DiscardsOnly w ev) (h : DiscardOk w)
    (hstep : w.step ev = some w') (v : Bool) :
    ((w'.lane v).unlocked ++ w'.outstanding v).Perm (range (w'.queue v).discards.length)
      ∧ (w'.queue v).mDiscardCnt = (w'.outstanding v).length := by
  have hcalls := h.calls v
  have hcount := h.count v
  rcases calls_step hg h.exitCode hstep v with ⟨hperm, hunlocked, hlength, hcnt⟩
    | ⟨hperm, hunlocked, hlength, hcnt⟩ | ⟨call, hperm, hunlocked, hlength, hcnt⟩
  · rw [hunlocked, hlength, hcnt, hperm.length_eq]
    exact ⟨(hperm.append_left _).trans hcalls, hcount⟩
  · rw [hunlocked, hlength, hcnt, hperm.length_eq, length_cons, range_succ]
    refine ⟨(hperm.append_left _).trans ?_, by rw [hcount]⟩
    exact (perm_middle.trans (hcalls.cons _)).trans (perm_append_singleton _ _).symm
  · have hlen := hperm.length_eq
    rw [hunlocked, hlength, hcnt, hcount, hlen, append_assoc, singleton_append]
    exact ⟨(hperm.symm.append_left _).trans hcalls, rfl⟩

/-- The unlock jobs that have begun are those among the jobs accepted first. -/
theorem mem_unlocked_iff (hordered : (w.lane v).view.Ordered) (call : Nat) :
    call ∈ (w.lane v).unlocked
      ↔ .unlockJobQueue call ∈ (w.queue v).accepted.take (w.queue v).begun.length := by
  rw [← begunJobs_of_ordered hordered, List.mem_map]
  unfold Lane.unlocked
  rw [List.mem_filterMap]
  refine exists_congr fun p => and_congr_right fun _ => ?_
  cases p.1.1 with
  | unlockJobQueue c =>
    show some c = some call ↔ _
    rw [some.injEq, CBaseJob.unlockJobQueue.injEq]
  | job | exitRequest => exact ⟨nofun, nofun⟩

/-- **The counter decides rightly**: the job whose turn comes is covered by a call exactly if the
counter is not 0. -/
theorem DiscardOk.covered_iff (h : DiscardOk w) (v : Bool) :
    (w.queue v).Covered (w.queue v).begun.length ↔ (w.queue v).mDiscardCnt ≠ 0 := by
  have hcalls := h.calls v
  rw [h.count v]
  constructor
  · -- with no call outstanding all unlock jobs have begun
    rintro ⟨call, mark, hcall, -, haccepted⟩ hzero
    have hnil : w.outstanding v = [] := length_eq_zero_iff.mp hzero
    rw [hnil, append_nil] at hcalls
    have hlt : call < (w.queue v).discards.length := (List.getElem?_eq_some_iff.mp hcall).1
    exact haccepted ((mem_unlocked_iff (h.ordered v) call).mp
      (hcalls.mem_iff.mpr (mem_range.mpr hlt)))
  · -- an outstanding call was made before this job, and its unlock job comes after it
    intro hne
    have hnil : w.outstanding v ≠ [] := fun hnil => hne (by rw [hnil]; rfl)
    obtain ⟨call, hcall⟩ := exists_mem_of_ne_nil _ hnil
    have hlt : call < (w.queue v).discards.length :=
      mem_range.mp (hcalls.mem_iff.mp (mem_append_right _ hcall))
    have hget := getElem?_eq_getElem hlt
    refine ⟨call, _, hget, h.marks v _ (mem_of_getElem? hget), fun hmem => ?_⟩
    -- no call has begun and is outstanding
    have hnodup := hcalls.nodup_iff.mpr nodup_range
    exact (disjoint_of_nodup_append hnodup)
      ((mem_unlocked_iff (h.ordered v) call).mpr hmem) hcall

/-- What becomes of the history of a queue in a step. -/
theorem history_step (hstep : w.step ev = some w') (v : Bool) :
    ((w'.queue v).begun = (w.queue v).begun
        ∧ (∃ more, (w'.queue v).accepted = (w.queue v).accepted ++ more)
        ∧ ((w'.queue v).discards = (w.queue v).discards
          ∨ (w'.queue v).discards = (w.queue v).discards ++ [(w.queue v).begun.length]))
      ∨ ∃ e, (w'.queue v).begun = (w.queue v).begun ++ [(e, w.outcome v e.1)]
        ∧ (w'.queue v).accepted = (w.queue v).accepted
        ∧ (w'.queue v).discards = (w.queue v).discards := by
  have hlane := step_lane hstep v
  have hnil := (append_nil (w.queue v).accepted).symm
  have hqueue : w'.queue v = (w'.lane v).queue := rfl
  rw [hqueue]
  generalize w'.lane v = l at hlane
  cases hlane with
  | keep | sizeLimit | refuse | dropUnlock | take | finish => exact .inl ⟨rfl, ⟨[], hnil⟩, .inl rfl⟩
  | push job hroom => exact .inl ⟨rfl, ⟨[job], rfl⟩, .inl rfl⟩
  | discard => exact .inl ⟨rfl, ⟨[], hnil⟩, .inr rfl⟩
  | begin e rest _ _ =>
    obtain ⟨haccepted, -, hdiscards, hbegun, -⟩ :=
      begin_accepted (w.lane v) e rest (w.outcome v e.1)
    exact .inr ⟨e, hbegun, haccepted, hdiscards⟩

/-- What comes later does not change whether a job that has begun was covered. -/
theorem covered_iff_of_later {q q' : CJobQueue} {n mark : Nat}
    (haccepted : q'.accepted.take n = q.accepted.take n) (hmark : n < mark)
    (hdiscards : q'.discards = q.discards ∨ q'.discards = q.discards ++ [mark]) :
    q'.Covered n ↔ q.Covered n := by
  unfold CJobQueue.Covered
  rw [haccepted]
  rcases hdiscards with hdiscards | hdiscards
  · rw [hdiscards]
  · rw [hdiscards]
    refine exists_congr fun call => exists_congr fun m => ?_
    refine ⟨fun ⟨hget, hle, hmem⟩ => ⟨?_, hle, hmem⟩, fun ⟨hget, hle, hmem⟩ => ⟨?_, hle, hmem⟩⟩
    · by_cases hlt : call < q.discards.length
      · rwa [getElem?_append_left hlt] at hget
      · -- the new call was made when job `n` had begun
        rw [getElem?_append_right (by omega), getElem?_singleton] at hget
        split at hget
        · cases hget
          omega
        · cases hget
    · rwa [List.getElem?_append_left (List.getElem?_eq_some_iff.mp hget).1]

theorem outcomes_step (h : DiscardOk w) (hstep : w.step ev = some w')
    {n : Nat} {p : Entry × Outcome} (hp : (w'.queue v).begun[n]? = some p) :
    p.2 = .ran ↔ p.1.1.forceRun = true ∨ ¬ (w'.queue v).Covered n := by
  have hle : (w.queue v).begun.length ≤ (w.queue v).accepted.length := by
    have hlength := length_of_ordered (h.ordered v)
    omega
  rcases history_step hstep v with ⟨hbegun, ⟨more, haccepted⟩, hdiscards⟩
    | ⟨e, hbegun, haccepted, hdiscards⟩
  · -- nothing begins: later jobs and calls do not matter to what has begun
    rw [hbegun] at hp
    have hn : n < (w.queue v).begun.length := (List.getElem?_eq_some_iff.mp hp).1
    have htake : (w'.queue v).accepted.take n = (w.queue v).accepted.take n := by
      rw [haccepted, take_append_of_le_length (by omega)]
    rw [covered_iff_of_later htake hn hdiscards]
    exact h.outcomes v n p hp
  · have hcovered : ∀ m, (w'.queue v).Covered m ↔ (w.queue v).Covered m := by
      intro m
      unfold CJobQueue.Covered
      rw [haccepted, hdiscards]
    rw [hcovered]
    rw [hbegun] at hp
    by_cases hn : n < (w.queue v).begun.length
    · rw [getElem?_append_left hn] at hp
      exact h.outcomes v n p hp
    · -- the job whose turn comes now
      rw [getElem?_append_right (by omega), getElem?_singleton] at hp
      split at hp
      · have hn' : n = (w.queue v).begun.length := by omega
        cases hp
        rw [hn', h.covered_iff v, not_not]
        exact outcome_eq_ran_iff h.exitCode v e.1
      · cases hp

theorem marks_le_step (h : DiscardOk w) (hstep : w.step ev = some w')
    {mark : Nat} (hmark : mark ∈ (w'.queue v).discards) : mark ≤ (w'.queue v).begun.length := by
  refine Nat.le_trans ?_ (begun_length_le hstep)
  rcases history_step hstep v with ⟨-, -, hdiscards | hdiscards⟩ | ⟨e, -, -, hdiscards⟩
  · exact h.marks v mark (hdiscards ▸ hmark)
  · rw [hdiscards] at hmark
    rcases mem_append.mp hmark with hmark | hmark
    · exact h.marks v mark hmark
    · rw [mem_singleton.mp hmark]
  · exact h.marks v mark (hdiscards ▸ hmark)

theorem DiscardOk.step (hg : DiscardsOnly w ev) (h : DiscardOk w)
    (hstep : w.step ev = some w') : DiscardOk w' where
  exitCode := exitCode_step h hstep
  sending v := by
    refine exitSending_step hstep ?_ (h.sending v)
    rintro - exitCode rfl
    exact hg
  accepted v := exitAccepted_step hstep (h.sending v) (h.accepted v)
  stack := stack_length_step hg h.stack hstep
  ordered v := ordered_step (h.ordered v) hstep (todo_nil_of_single hg h.stack hstep)
  calls v := (counted hg h hstep v).1
  count v := (counted hg h hstep v).2
  marks _ _ hmark := marks_le_step h hstep hmark
  outcomes _ _ _ hp := outcomes_step h hstep hp

/-! ## §4. Runs. -/

/-- **Discarding is exact**, in every run without nested flush and without exit in which the
unlock jobs are accepted, for both queues. -/
theorem discards_exactly {normalSize urgentSize : Nat} {events : List WorkerEvent}
    (hdiscards : Along CBaseWorker.step DiscardsOnly (CBaseWorker.start normalSize urgentSize) events)
    (hrun : run CBaseWorker.step (CBaseWorker.start normalSize urgentSize) events = some w)
    (v : Bool) : w.DiscardsExactly v := by
  have h : DiscardOk w := run_along (fun _ _ _ hg h hstep => h.step hg hstep)
    (discardOk_start normalSize urgentSize) hdiscards hrun
  have hordered := h.ordered v
  refine ⟨begun_of_ordered hordered, fun n p hp => ?_, fun hqueue htodo => ?_, fun hall => ?_⟩
  · rw [Ne, h.outcomes v n p hp, not_or, not_not, Bool.not_eq_true]
  · have hlength := length_of_ordered hordered
    rw [hqueue, htodo, length_nil] at hlength
    omega
  · by_contra hne
    obtain ⟨call, mark, hcall, -, haccepted⟩ := (h.covered_iff v).mpr hne
    have hjob := hall call (List.getElem?_eq_some_iff.mp hcall).1
    exact haccepted (begunJobs_of_ordered hordered ▸ hjob)

/-- Jobs 1, 2 and 3 are sent, job 3 with `JOB_FORCE_RUN`; while job 1 runs the queue is discarded,
and job 4 is sent. -/
def discardedMidway : List WorkerEvent :=
  [.tearup true, .send 1 false false, .enqueue (.job 1 false) false, .send 2 false false,
    .enqueue (.job 2 false) false, .send 3 true false, .enqueue (.job 3 true) false, .dispatch,
    .processJobQueue, .processUrgentJobs, .start, .discardJobs false, .sendUnlock 0 false,
    .enqueue (.unlockJobQueue 0) false, .send 4 false false, .enqueue (.job 4 false) false,
    .finish, .processUrgentJobs, .start, .processUrgentJobs, .start, .finish, .processUrgentJobs,
    .returns, .processJobQueue, .processUrgentJobs, .start, .finish, .processUrgentJobs, .start,
    .finish, .processUrgentJobs, .returns]

/-- Of these jobs, job 2 is not run. -/
theorem discards_exactly_midway :
    ∃ w, run CBaseWorker.step (CBaseWorker.start 0 0) discardedMidway = some w
      ∧ (w.queue false).begun.map Prod.snd = [.ran, .discarded, .ran, .ran, .ran]
      ∧ (w.queue false).mDiscardCnt = 0 ∧ w.DiscardsExactly false := by
  have hmap : (run CBaseWorker.step (CBaseWorker.start 0 0) discardedMidway).map
      (fun w => ((w.queue false).begun.map Prod.snd, (w.queue false).mDiscardCnt))
      = some ([.ran, .discarded, .ran, .ran, .ran], 0) := by decide +kernel
  obtain ⟨w, hw, hmap⟩ := map_eq_some_iff.mp hmap
  obtain ⟨hbegun, hcount⟩ := Prod.mk.inj hmap
  exact ⟨w, hw, hbegun, hcount, discards_exactly (by decide +kernel) hw false⟩

end Fdbus.Worker

/-
  Fdbus.Worker.SyncRequest — waiting for a job that was sent synchronously.

  `send(job, milliseconds)` remembers the job's reference count and waits until `terminate` finds
  that one reference more than that is left.  The worker holds the job in its queue and then in
  the container of a batch until that batch ends; a request that runs is also referred to by the
  table of pending messages until its response has come.  `terminate` is called when the job has
  run, and again when the pending entry is completed, before it is removed.

    * `refs_step` — what a step of the worker does to the places a job can be in,
    * `waiter_released` — if no one else changes the references to a job that is waited for, and
      no pending entry is completed after its job has run and before the batch has ended, the
      waiter has been notified when the worker and the table do not hold the job any more,
    * `waiter_hangs` — a response that comes in a later job of the same batch.
-/
import Fdbus.Worker.JobQueue

namespace Fdbus.Worker

open Fdbus.Run List Option Function

/-! ## §1. Where a job can be. -/

/-- The job with this id. -/
def CBaseJob.isJob (id : Nat) : CBaseJob → Bool
  | .job i _ => i == id
  | _ => false

/-- The references of a container to a job. -/
def refs (id : Nat) (jobs : List Entry) : Nat := jobs.countP fun e => e.1.isJob id

/-- The references of the containers of a batch. -/
def Batch.held (id : Nat) (f : Batch) : Nat :=
  refs id f.urgentJobs + refs id f.normalJobs + refs id f.moreJobs

/-- How often the job's turn is still to come in a batch. -/
def Batch.left (id : Nat) (f : Batch) : Nat := refs id f.urgentTodo + refs id f.normalTodo

/-- Whether a batch runs the job. -/
def Batch.busy (id : Nat) (f : Batch) : Nat :=
  refs id (f.runs true).toList + refs id (f.runs false).toList

namespace CBaseWorker

def inSending (w : CBaseWorker) (id : Nat) : Nat := w.sending.countP fun p => p.1.isJob id

def queued (w : CBaseWorker) (id : Nat) : Nat :=
  refs id (w.queue true).mJobQueue + refs id (w.queue false).mJobQueue

def held (w : CBaseWorker) (id : Nat) : Nat := (w.stack.map (Batch.held id)).sum

def left (w : CBaseWorker) (id : Nat) : Nat := (w.stack.map (Batch.left id)).sum

def busy (w : CBaseWorker) (id : Nat) : Nat := (w.stack.map (Batch.busy id)).sum

/-- The job of the innermost batch that runs has this id. -/
def runsJob (w : CBaseWorker) (id : Nat) : Bool :=
  match w.stack with
  | [] => false
  | f :: _ => decide (0 < f.busy id)

/-- The job that `runOneJob` calls `terminate` for: one that is not run, or one that has run. -/
def terminates (w : CBaseWorker) : WorkerEvent → Option CBaseJob
  | .start =>
    match w.next with
    | some (urgent, e) => if w.outcome urgent e.1 = .ran then none else some e.1
    | none => none
  | .finish =>
    match w.stack with
    | [] => none
    | f :: _ => f.running.map fun p => p.2.1
  | _ => none

end CBaseWorker

/-! ## §2. Synchronous requests. -/

/-- A worker, the jobs of its pending messages, and for each job its `mSyncReq`, that is
`mInitSharedCnt` of the request, with the references held elsewhere and whether the job was
accepted for a sender who then waits. -/
structure SyncWorker where
  worker : CBaseWorker
  mPendingMsgTable : List Nat
  mSyncReq : Nat → Option Nat
  outside : Nat → Nat
  waiting : Nat → Bool

def SyncWorker.start (normalSize urgentSize : Nat) (outside : Nat → Nat) : SyncWorker where
  worker := CBaseWorker.start normalSize urgentSize
  mPendingMsgTable := []
  mSyncReq _ := none
  outside := outside
  waiting _ := false

/-- `use_count()`. -/
def SyncWorker.useCount (s : SyncWorker) (id : Nat) : Nat :=
  s.outside id + s.worker.queued id + s.worker.held id + s.mPendingMsgTable.count id

/-- `terminate`. -/
def SyncWorker.terminate (s : SyncWorker) (id : Nat) : SyncWorker :=
  match s.mSyncReq id with
  | none => s
  | some mInitSharedCnt =>
    if s.useCount id = mInitSharedCnt + 1 then
      { s with mSyncReq := Function.update s.mSyncReq id none }
    else s

/-- Who waits after an event of the worker. -/
def SyncWorker.accept (s : SyncWorker) : WorkerEvent → Nat → Bool
  | .enqueue (.job id _) urgent =>
    if (s.worker.queue urgent).HasRoom ∧ (s.mSyncReq id).isSome then
      Function.update s.waiting id true
    else s.waiting
  | _ => s.waiting

/-- What happens: a step of the worker, a synchronous send, the end of a wait that was not
notified, a change of the references held elsewhere, and on the worker the insertion of a pending
entry by the job that runs and its completion by `doResponse` or `terminateMessage`. -/
inductive SyncEvent where
  | worker (ev : WorkerEvent)
  | send (id : Nat) (forceRun urgent : Bool)
  | wakeup (id : Nat)
  | refer (id count : Nat)
  | insertEntry (id : Nat)
  | complete (id : Nat)
  deriving Repr, DecidableEq

def SyncWorker.step (s : SyncWorker) : SyncEvent → Option SyncWorker
  | .worker ev =>
    (s.worker.step ev).map fun w =>
      -- the containers are those after the step: what is looked at is still held by its batch
      match s.worker.terminates ev with
      | some (.job id _) => { s with worker := w, waiting := s.accept ev }.terminate id
      | _ => { s with worker := w, waiting := s.accept ev }
  | .send id forceRun urgent =>
    if (s.mSyncReq id).isSome then some s
    else
      -- `mSyncReq` is set before the job is sent, and stays set if that fails
      some { s with
        worker := s.worker.send (.job id forceRun) urgent
        mSyncReq := Function.update s.mSyncReq id (some (s.useCount id))
        waiting := Function.update s.waiting id false }
  | .wakeup id =>
    if s.waiting id ∧ (s.mSyncReq id).isSome then
      some { s with mSyncReq := Function.update s.mSyncReq id none }
    else none
  | .refer id count => some { s with outside := Function.update s.outside id count }
  | .insertEntry id =>
    if s.worker.runsJob id then some { s with mPendingMsgTable := id :: s.mPendingMsgTable }
    else none
  | .complete id =>
    -- `terminate` comes before `deleteEntry`, so it counts the entry as well
    if s.worker.inUserCode ∧ id ∈ s.mPendingMsgTable then
      some { s.terminate id with mPendingMsgTable := s.mPendingMsgTable.erase id }
    else none

/-- A waiter whose job is neither queued nor in a batch nor pending has been notified. -/
def SyncWorker.Released (s : SyncWorker) : Prop :=
  ∀ id, s.waiting id = true → s.worker.queued id = 0 → s.worker.held id = 0 →
    id ∉ s.mPendingMsgTable → s.mSyncReq id = none

/-- A job is sent synchronously only when the worker does not refer to it; while it is waited for
it is not sent again and the references held elsewhere stay as they are; and its pending entry is
completed while it still runs or when no batch holds it any more. -/
def RefsKept (s : SyncWorker) : SyncEvent → Prop
  | .worker (.send id _ _) => s.mSyncReq id = none
  | .send id _ _ => s.worker.inSending id = 0 ∧ s.worker.queued id = 0 ∧ s.worker.held id = 0
      ∧ id ∉ s.mPendingMsgTable
  | .refer id _ => s.mSyncReq id = none
  | .complete id => s.mSyncReq id = none ∨ 0 < s.worker.busy id ∨ s.worker.held id = 0
  | _ => True

instance (s : SyncWorker) : ∀ ev, Decidable (RefsKept s ev)
  | .worker (.send id _ _) => inferInstanceAs (Decidable (s.mSyncReq id = none))
  | .send id _ _ => inferInstanceAs (Decidable (s.worker.inSending id = 0 ∧ s.worker.queued id = 0
      ∧ s.worker.held id = 0 ∧ id ∉ s.mPendingMsgTable))
  | .refer id _ => inferInstanceAs (Decidable (s.mSyncReq id = none))
  | .complete id => inferInstanceAs
      (Decidable (s.mSyncReq id = none ∨ 0 < s.worker.busy id ∨ s.worker.held id = 0))
  | .worker (.tearup _) | .worker .dispatch | .worker .processJobQueue | .worker .flush
  | .worker .processUrgentJobs | .worker .start | .worker .finish | .worker .returns
  | .worker .endDispatch | .worker .leave | .worker (.exit _) | .worker (.enqueue _ _)
  | .worker (.discardJobs _) | .worker (.sendUnlock _ _) | .worker (.sizeLimit _ _)
  | .wakeup _ | .insertEntry _ => isTrue trivial

/-! ## §3. The containers of a batch hold what is left of it. -/

variable {w w' : CBaseWorker} {id : Nat}

@[simp] theorem refs_nil (id : Nat) : refs id [] = 0 := rfl

@[simp] theorem refs_append (id : Nat) (l l' : List Entry) :
    refs id (l ++ l') = refs id l + refs id l' :=
  countP_append

theorem refs_cons (id : Nat) (e : Entry) (l : List Entry) :
    refs id (e :: l) = refs id [e] + refs id l :=
  refs_append id [e] l

open CBaseJob Batch

/-- A single entry is the job or it is not. -/
theorem refs_singleton (id : Nat) (e : Entry) :
    refs id [e] = 0 ∧ (∀ forceRun, e.1 ≠ .job id forceRun)
      ∨ refs id [e] = 1 ∧ ∃ forceRun, e.1 = .job id forceRun := by
  obtain ⟨job, n⟩ := e
  cases job with
  | job i forceRun =>
    by_cases hi : i = id
    · subst hi
      exact .inr ⟨by simp [refs, isJob], forceRun, rfl⟩
    · exact .inl ⟨by simp [refs, isJob, hi], fun _ h => hi (job.inj h).1⟩
  | exitRequest | unlockJobQueue => exact .inl ⟨rfl, nofun⟩

variable {f : Batch} {rest : List Batch} {u : Bool} {e : Entry} {ev : WorkerEvent}

theorem refs_runs_of_none (hf : f.running = none) (v : Bool) : refs id (f.runs v).toList = 0 := by
  rw [runs_of_none hf]
  rfl

theorem busy_of_none (hf : f.running = none) : f.busy id = 0 := by
  unfold busy
  rw [refs_runs_of_none hf, refs_runs_of_none hf]

theorem refs_runs_of_some (hf : f.running = some (u, e)) (v : Bool) :
    refs id (f.runs v).toList = if u = v then refs id [e] else 0 := by
  unfold runs
  rw [hf]
  by_cases huv : u = v
  · simp only [if_pos huv, toList_some]
  · simp only [if_neg huv, toList_none, refs_nil]

theorem busy_of_some (hf : f.running = some (u, e)) : f.busy id = refs id [e] := by
  unfold busy
  rw [refs_runs_of_some hf, refs_runs_of_some hf]
  cases u with
  | true => exact Nat.add_zero _
  | false => exact Nat.zero_add _

/-- The containers of a batch hold the jobs that are left of it and the one it runs. -/
structure Batch.Holds (f : Batch) : Prop where
  urgent : ∀ id, refs id f.urgentTodo + refs id (f.runs true).toList
    ≤ refs id f.urgentJobs + refs id f.moreJobs
  normal : ∀ id, refs id f.normalTodo + refs id (f.runs false).toList ≤ refs id f.normalJobs

theorem Batch.Holds.left_le (h : f.Holds) (id : Nat) : f.left id + f.busy id ≤ f.held id := by
  have hurgent := h.urgent id
  have hnormal := h.normal id
  unfold left busy held
  omega

theorem left_le_held (h : ∀ f ∈ w.stack, f.Holds) (id : Nat) :
    w.left id + w.busy id ≤ w.held id := by
  unfold CBaseWorker.left CBaseWorker.busy CBaseWorker.held
  generalize w.stack = stack at h
  induction stack with
  | nil => exact Nat.le_refl 0
  | cons f rest ih =>
    have hf := (h f mem_cons_self).left_le id
    have hrest := ih fun g hg => h g (mem_cons_of_mem f hg)
    simp only [map_cons, sum_cons]
    omega

theorem newBatch_holds (w : CBaseWorker) (flush : Option Nat) : (w.newBatch flush).Holds :=
  ⟨fun _ => le_rfl, fun _ => le_rfl⟩

/-- What runs after the turn of a job is that job or nothing. -/
theorem refs_runsNow_le (id : Nat) (w : CBaseWorker) (f : Batch) (u v : Bool) (e : Entry) :
    refs id (runs v { f with running := w.runsNow u e }).toList
      ≤ if u = v then refs id [e] else 0 := by
  by_cases hran : w.outcome u e.1 = .ran
  · have hnow : w.runsNow u e = some (u, e) := if_pos hran
    rw [refs_runs_of_some (f := { f with running := w.runsNow u e }) hnow]
  · have hnow : w.runsNow u e = none := if_neg hran
    rw [refs_runs_of_none (f := { f with running := w.runsNow u e }) hnow]
    exact Nat.zero_le _

theorem holds_step (h : ∀ f ∈ w.stack, f.Holds) (hstep : w.step ev = some w') :
    ∀ f ∈ w'.stack, f.Holds := by
  have hs := step_stack hstep
  generalize w'.stack = stack at hs
  -- only the innermost batch changes
  have htop : ∀ {f f' : Batch} {rest : List Batch}, w.stack = f :: rest → (f.Holds → f'.Holds) →
      ∀ g ∈ f' :: rest, g.Holds := by
    intro f f' rest hw hf
    obtain ⟨hfirst, hrest⟩ := forall_mem_cons.mp (hw ▸ h)
    exact forall_mem_cons.mpr ⟨hf hfirst, hrest⟩
  cases hs with
  | keep => exact h
  | processJobQueue => exact forall_mem_singleton.mpr (newBatch_holds w none)
  | flush => exact forall_mem_cons.mpr ⟨newBatch_holds w _, h⟩
  | check f rest hw hrunning hurgent hchecked =>
    refine htop hw fun hf => ⟨fun i => ?_, fun i => ?_⟩
    · rw [refs_runs_of_none (by exact hrunning)]
      simp only
      omega
    · exact hf.normal i
  | urgent f rest e es hw hrunning hurgent =>
    refine htop hw fun hf => ⟨fun i => ?_, fun i => ?_⟩
    · have hi := hf.urgent i
      have hnow := refs_runsNow_le i w { f with urgentTodo := es } true true e
      rw [hurgent, refs_cons] at hi
      simp only [if_true] at hnow ⊢
      omega
    · have hi := hf.normal i
      have hnow := refs_runsNow_le i w { f with urgentTodo := es } true false e
      simp only [Bool.true_eq_false, if_false] at hnow ⊢
      omega
  | normal f rest e es hw hrunning hurgent hchecked hnormal =>
    refine htop hw fun hf => ⟨fun i => ?_, fun i => ?_⟩
    · have hnow := refs_runsNow_le i w
        { f with normalTodo := es, checked := false, moreJobs := [] } false true e
      have hnil : refs i f.urgentTodo = 0 := by rw [hurgent]; rfl
      simp only [Bool.false_eq_true, if_false] at hnow ⊢
      omega
    · have hi := hf.normal i
      have hnow := refs_runsNow_le i w
        { f with normalTodo := es, checked := false, moreJobs := [] } false false e
      rw [hnormal, refs_cons] at hi
      simp only [if_true] at hnow ⊢
      omega
  | finish f rest u e hw hrunning =>
    refine htop hw fun hf => ⟨fun i => ?_, fun i => ?_⟩
    · have hi := hf.urgent i
      rw [refs_runs_of_none rfl]
      simp only
      omega
    · have hi := hf.normal i
      rw [refs_runs_of_none rfl]
      simp only
      omega
  | returns f rest hw =>
    intro g hg
    exact h g (by rw [hw]; exact mem_cons_of_mem f hg)

/-! ## §4. What a step of the worker does to the references. -/

/-- What an event does to the places a job can be in. -/
inductive RefsStep (w w' : CBaseWorker) (id : Nat) (ev : WorkerEvent) : Prop where
  /-- Some of the queued references go to a batch, and containers may be dropped. -/
  | move (taken : Nat) (hsending : w'.inSending id = w.inSending id)
      (hqueued : w'.queued id + taken = w.queued id) (hleft : w'.left id = w.left id + taken)
      (hbusy : w'.busy id = w.busy id) (hheld : w'.held id ≤ w.held id + taken)
      (henqueue : ∀ forceRun u, ev ≠ .enqueue (.job id forceRun) u)
      (hterminates : ∀ forceRun, w.terminates ev ≠ some (.job id forceRun))
  | send (forceRun u : Bool) (hev : ev = .send id forceRun u)
  | enqueue (forceRun u : Bool) (hev : ev = .enqueue (.job id forceRun) u)
      (hsending : w'.inSending id + 1 = w.inSending id)
      (hqueued : (w.queue u).HasRoom ∧ w'.queued id = w.queued id + 1
        ∨ ¬ (w.queue u).HasRoom ∧ w'.queued id = w.queued id)
      (hleft : w'.left id = w.left id) (hbusy : w'.busy id = w.busy id)
      (hheld : w'.held id = w.held id)
  | run (hev : ev = .start) (hsending : w'.inSending id = w.inSending id)
      (hqueued : w'.queued id = w.queued id) (hleft : w'.left id + 1 = w.left id)
      (hbusy : w'.busy id = w.busy id + 1) (hheld : w'.held id ≤ w.held id)
      (hterminates : ∀ forceRun, w.terminates ev ≠ some (.job id forceRun))
  | terminate (forceRun : Bool) (hterminates : w.terminates ev = some (.job id forceRun))
      (hsending : w'.inSending id = w.inSending id) (hqueued : w'.queued id = w.queued id)
      (hturn : w'.left id + 1 = w.left id ∧ w'.busy id = w.busy id
        ∨ w'.left id = w.left id ∧ w'.busy id + 1 = w.busy id)
      (hheld : w'.held id ≤ w.held id) (hstill : 0 < w'.held id)

/-- A queue changes by what is enqueued and by what is taken. -/
theorem mJobQueue_kept {v : Bool} {ev : WorkerEvent} (hstep : w.step ev = some w')
    (hev : ∀ job, ev ≠ .enqueue job v) (htakes : ev.takes v = false) :
    (w'.queue v).mJobQueue = (w.queue v).mJobQueue := by
  obtain heq | ⟨job, hjob, _⟩ | ⟨htrue, _⟩ | ⟨_, e, rest, _, heq⟩ := (step_lane hstep v).view_cases
  · exact congrArg BatchQueue.queued heq
  · exact absurd hjob (hev job)
  · rw [htakes] at htrue
    cases htrue
  · exact congrArg BatchQueue.queued heq

theorem queued_kept (hstep : w.step ev = some w')
    (hev : ∀ job v, ev ≠ .enqueue job v) (htakes : ∀ v, ev.takes v = false) :
    w'.queued id = w.queued id := by
  unfold CBaseWorker.queued
  rw [mJobQueue_kept hstep (fun job => hev job true) (htakes true),
    mJobQueue_kept hstep (fun job => hev job false) (htakes false)]

theorem queued_enqueue {job : CBaseJob} {u : Bool} (hstep : w.step (.enqueue job u) = some w')
    (id n : Nat) :
    (w.queue u).HasRoom ∧ w'.queued id = w.queued id + refs id [(job, n)]
      ∨ ¬ (w.queue u).HasRoom ∧ w'.queued id = w.queued id := by
  have hother : ∀ v, v ≠ u → (w'.queue v).mJobQueue = (w.queue v).mJobQueue := by
    intro v hv
    refine mJobQueue_kept hstep (fun j hj => hv ?_) rfl
    exact (WorkerEvent.enqueue.inj hj).2.symm
  -- a reference does not depend on the number of the job
  have hnumber : ∀ m, refs id [(job, m)] = refs id [(job, n)] := fun _ => rfl
  have hself : (w.queue u).HasRoom
        ∧ refs id (w'.queue u).mJobQueue = refs id (w.queue u).mJobQueue + refs id [(job, n)]
      ∨ ¬ (w.queue u).HasRoom
        ∧ refs id (w'.queue u).mJobQueue = refs id (w.queue u).mJobQueue := by
    have hlane := step_lane hstep u
    show (w.queue u).HasRoom ∧ refs id (w'.lane u).queue.mJobQueue = _
      ∨ ¬ (w.queue u).HasRoom ∧ refs id (w'.lane u).queue.mJobQueue = _
    generalize w'.lane u = l at hlane
    cases hlane with
    | keep _ hev =>
      refine .inr ⟨fun hroom => ?_, rfl⟩
      simp [CBaseWorker.changes, hroom] at hev
    | push _ hroom => exact .inl ⟨hroom, by rw [← hnumber]; exact refs_append ..⟩
    | refuse call hroom => exact .inr ⟨hroom, rfl⟩
    | take _ htakes => cases htakes
  have hsum : ∀ x : CBaseWorker,
      x.queued id = refs id (x.queue u).mJobQueue + refs id (x.queue !u).mJobQueue := by
    intro x
    cases u with
    | true => rfl
    | false => exact Nat.add_comm ..
  rw [hsum w, hsum w', hother (!u) (Bool.not_ne_self u)]
  rcases hself with ⟨hroom, heq⟩ | ⟨hroom, heq⟩
  · exact .inl ⟨hroom, by omega⟩
  · exact .inr ⟨hroom, by omega⟩

/-- Jobs are on their way after a send, until they are enqueued. -/
theorem inSending_step (hstep : w.step ev = some w') (id : Nat) :
    w'.inSending id = w.inSending id ∧ (∀ forceRun u, ev ≠ .enqueue (.job id forceRun) u)
      ∨ (∃ forceRun u, ev = .send id forceRun u)
      ∨ ∃ forceRun u, ev = .enqueue (.job id forceRun) u
        ∧ w'.inSending id + 1 = w.inSending id := by
  have hc := step_control hstep
  have hcount : w'.inSending id = w'.control.sending.countP fun p => p.1.isJob id := rfl
  rw [hcount]
  generalize w'.control = c at hc
  cases hc with
  | keep _ hev =>
    refine .inl ⟨rfl, ?_⟩
    rintro forceRun u rfl
    cases hev
  | send i forceRun u _ =>
    by_cases hi : i = id
    · exact .inr (.inl ⟨forceRun, u, by rw [hi]⟩)
    · refine .inl ⟨countP_cons_of_neg ?_, nofun⟩
      simpa [isJob] using hi
  | exit | sendUnlock => exact .inl ⟨countP_cons_of_neg nofun, nofun⟩
  | enqueue job u hmem =>
    have herase := (perm_cons_erase hmem).countP_eq fun p => p.1.isJob id
    rw [countP_cons] at herase
    rcases refs_singleton id (job, 0) with ⟨hzero, hne⟩ | ⟨hone, forceRun, rfl⟩
    · have hnot : job.isJob id = false := by
        cases job with
        | job i forceRun => simpa [refs, isJob] using hzero
        | exitRequest | unlockJobQueue => rfl
      simp only [hnot, Bool.false_eq_true, if_false, Nat.add_zero] at herase
      refine .inl ⟨herase.symm, fun forceRun v hev => hne forceRun ?_⟩
      exact (WorkerEvent.enqueue.inj hev).1
    · simp only [isJob, beq_self_eq_true, if_true] at herase
      exact .inr (.inr ⟨forceRun, u, rfl, herase.symm⟩)
  | tearup | dispatch | endDispatch | leave | discardJobs | dropUnlock | returns | exits =>
    exact .inl ⟨rfl, nofun⟩

/-- On the worker's thread nothing is sent. -/
theorem inSending_ofBatch (hstep : w.step ev = some w') (hev : ev.ofBatch = true) :
    w'.inSending id = w.inSending id := by
  rcases inSending_step hstep id with ⟨heq, -⟩ | ⟨forceRun, u, rfl⟩ | ⟨forceRun, u, rfl, -⟩
  · exact heq
  · cases hev
  · cases hev

/-- The references of the batches depend on the batches only. -/
theorem refs_of_stack (hstack : w'.stack = w.stack) (id : Nat) :
    w'.held id = w.held id ∧ w'.left id = w.left id ∧ w'.busy id = w.busy id := by
  unfold CBaseWorker.held CBaseWorker.left CBaseWorker.busy
  rw [hstack]
  exact ⟨rfl, rfl, rfl⟩

/-- The references of the innermost batch and of those around it. -/
theorem refs_of_cons (hw : w.stack = f :: rest) (id : Nat) :
    w.held id = f.held id + (rest.map (held id)).sum
      ∧ w.left id = f.left id + (rest.map (left id)).sum
      ∧ w.busy id = f.busy id + (rest.map (busy id)).sum := by
  unfold CBaseWorker.held CBaseWorker.left CBaseWorker.busy
  rw [hw]
  exact ⟨sum_cons, sum_cons, sum_cons⟩

/-- The events that leave the batches alone. -/
theorem refs_step_keep (hstep : w.step ev = some w') (hev : ev.ofBatch = false)
    (hstack : w'.stack = w.stack) : RefsStep w w' id ev := by
  obtain ⟨hheld, hleft, hbusy⟩ := refs_of_stack hstack id
  have hterminates : w.terminates ev = none := by
    cases ev with
    | start | finish => cases hev
    | _ => rfl
  have htakes : ∀ v, ev.takes v = false := by
    intro v
    cases ev with
    | processJobQueue | flush | processUrgentJobs => cases hev
    | _ => rfl
  rcases inSending_step hstep id with ⟨hsending, henqueue⟩ | ⟨forceRun, u, rfl⟩
    | ⟨forceRun, u, rfl, hsending⟩
  · refine .move 0 hsending ?_ hleft hbusy (Nat.le_of_eq hheld) henqueue (by rw [hterminates]; nofun)
    by_cases hjob : ∃ job u, ev = .enqueue job u
    · obtain ⟨job, u, rfl⟩ := hjob
      rcases refs_singleton id (job, 0) with ⟨hzero, -⟩ | ⟨-, forceRun, rfl⟩
      · rcases queued_enqueue hstep id 0 with ⟨-, hq⟩ | ⟨-, hq⟩
        · omega
        · omega
      · exact absurd rfl (henqueue forceRun u)
    · exact queued_kept hstep (fun job u h => hjob ⟨job, u, h⟩) htakes
  · exact .send forceRun u rfl
  · refine .enqueue forceRun u rfl hsending ?_ hleft hbusy hheld
    rcases refs_singleton id (job id forceRun, 0) with ⟨-, hne⟩ | ⟨hone, -⟩
    · exact absurd rfl (hne forceRun)
    · have hq := queued_enqueue hstep id 0
      rwa [hone] at hq

/-- A batch begins with what is queued. -/
theorem refs_step_dump {flush : Option Nat} (hstep : w.step ev = some w')
    (hbatch : ev.ofBatch = true) (hterminates : w.terminates ev = none)
    (htakes : ∀ v, ev.takes v = true) (hstack : w'.stack = w.newBatch flush :: w.stack) :
    RefsStep w w' id ev := by
  have hbusy : (w.newBatch flush).busy id = 0 := busy_of_none rfl
  have hleft : (w.newBatch flush).left id = w.queued id := rfl
  have hheld : (w.newBatch flush).held id = w.queued id := Nat.add_zero _
  obtain ⟨hheld', hleft', hbusy'⟩ := refs_of_cons hstack id
  have hqueued : w'.queued id = 0 := by
    unfold CBaseWorker.queued
    rw [queue_taken hstep (htakes true), queue_taken hstep (htakes false)]
    rfl
  refine .move (w.queued id) (inSending_ofBatch hstep hbatch) ?_ ?_ ?_ ?_ ?_ ?_
  · omega
  · rw [hleft', hleft]
    exact Nat.add_comm ..
  · rw [hbusy', hbusy]
    exact Nat.zero_add _
  · rw [hheld', hheld]
    exact Nat.le_of_eq (Nat.add_comm ..)
  · rintro forceRun u rfl
    cases hbatch
  · rw [hterminates]
    nofun

/-- The turn of a job comes: if it is this one, it is run or terminated. -/
theorem refs_step_turn (f' : Batch) {rest : List Batch} {u : Bool} {e : Entry}
    (hstep : w.step .start = some w') (hnext : w.next = some (u, e)) (hw : w.stack = f :: rest)
    (hw' : w'.stack = { f' with running := w.runsNow u e } :: rest) (hrunning : f.running = none)
    (hleft : f'.left id + refs id [e] = f.left id) (hheld : f'.held id ≤ f.held id)
    (hstill : refs id [e] ≤ f'.held id) : RefsStep w w' id .start := by
  have hsending : w'.inSending id = w.inSending id := inSending_ofBatch hstep rfl
  have hqueued : w'.queued id = w.queued id := queued_kept hstep (fun _ _ => nofun) fun _ => rfl
  obtain ⟨hheldw, hleftw, hbusy⟩ := refs_of_cons hw id
  obtain ⟨hheld', hleft', hbusy'⟩ := refs_of_cons hw' id
  -- the batch that is left has what `f'` has, apart from what runs
  change w'.held id = f'.held id + _ at hheld'
  change w'.left id = f'.left id + _ at hleft'
  rw [busy_of_none hrunning, Nat.zero_add] at hbusy
  have hle : w'.held id ≤ w.held id := by omega
  by_cases hran : w.outcome u e.1 = .ran
  · have hterminates : w.terminates .start = none := by
      unfold CBaseWorker.terminates
      rw [hnext]
      exact if_pos hran
    rw [busy_of_some (u := u) (e := e) (if_pos hran), ← hbusy] at hbusy'
    rcases refs_singleton id e with ⟨hzero, -⟩ | ⟨hone, -⟩
    · exact .move 0 hsending hqueued (by omega) (by omega) hle nofun (by rw [hterminates]; nofun)
    · exact .run rfl hsending hqueued (by omega) (by omega) hle (by rw [hterminates]; nofun)
  · have hterminates : w.terminates .start = some e.1 := by
      unfold CBaseWorker.terminates
      rw [hnext]
      exact if_neg hran
    rw [busy_of_none (if_neg hran), Nat.zero_add, ← hbusy] at hbusy'
    rcases refs_singleton id e with ⟨hzero, hne⟩ | ⟨hone, forceRun, hjob⟩
    · refine .move 0 hsending hqueued (by omega) hbusy' hle nofun fun forceRun heq => ?_
      rw [hterminates] at heq
      exact hne forceRun (some.inj heq)
    · exact .terminate forceRun (by rw [hterminates, hjob]) hsending hqueued
        (.inl ⟨by omega, hbusy'⟩) hle (by omega)

/-- The urgent queue is looked at again: the batch takes what is in it. -/
theorem refs_step_check (hstep : w.step .processUrgentJobs = some w')
    (hw : w.stack = f :: rest) (hrunning : f.running = none) (hurgent : f.urgentTodo = [])
    (hstack : w'.stack = { f with
      urgentTodo := (w.queue true).mJobQueue
      moreJobs := (w.queue true).mJobQueue
      checked := true } :: rest) : RefsStep w w' id .processUrgentJobs := by
  have hqueue : (w'.queue true).mJobQueue = [] := queue_taken hstep rfl
  have hnormal : (w'.queue false).mJobQueue = (w.queue false).mJobQueue :=
    mJobQueue_kept hstep nofun rfl
  obtain ⟨hheld, hleft, hbusy⟩ := refs_of_cons hw id
  obtain ⟨hheld', hleft', hbusy'⟩ := refs_of_cons hstack id
  refine .move (refs id (w.queue true).mJobQueue) (inSending_ofBatch hstep rfl) ?_ ?_ ?_ ?_ nofun
    nofun
  · unfold CBaseWorker.queued
    rw [hqueue, hnormal, refs_nil]
    omega
  · have hempty : f.left id = refs id f.normalTodo := by
      unfold left
      rw [hurgent, refs_nil, Nat.zero_add]
    rw [hleft, hleft', hempty]
    show refs id (w.queue true).mJobQueue + refs id f.normalTodo + _ = _
    omega
  · rw [hbusy, hbusy', busy_of_none hrunning]
    exact congrArg (· + _) (busy_of_none hrunning)
  · rw [hheld, hheld']
    show refs id f.urgentJobs + refs id f.normalJobs + refs id (w.queue true).mJobQueue + _
      ≤ refs id f.urgentJobs + refs id f.normalJobs + refs id f.moreJobs + _ + _
    omega

/-- A job has run: its turn is over, and if it is this one it is terminated. -/
theorem refs_step_finish
    (hholds : ∀ f ∈ w.stack, f.Holds) (hstep : w.step .finish = some w') (hw : w.stack = f :: rest)
    (hrunning : f.running = some (u, e)) (hstack : w'.stack = { f with running := none } :: rest) :
    RefsStep w w' id .finish := by
  have hsending : w'.inSending id = w.inSending id := inSending_ofBatch hstep rfl
  have hqueued : w'.queued id = w.queued id :=
    queued_kept hstep (fun _ _ => nofun) fun _ => rfl
  obtain ⟨hheldw, hleftw, hbusyw⟩ := refs_of_cons hw id
  obtain ⟨hheld', hleft', hbusy'⟩ := refs_of_cons hstack id
  have hleft : w'.left id = w.left id := hleft'.trans hleftw.symm
  have hheld : w'.held id = w.held id := hheld'.trans hheldw.symm
  have hbusy : w'.busy id + refs id [e] = w.busy id := by
    rw [hbusyw, hbusy', busy_of_none rfl, busy_of_some hrunning]
    omega
  have hterminates : w.terminates .finish = some e.1 := by
    unfold CBaseWorker.terminates
    simp only [hw, hrunning, map_some]
  rcases refs_singleton id e with ⟨hzero, hne⟩ | ⟨hone, forceRun, hjob⟩
  · refine .move 0 hsending hqueued hleft (by omega) (Nat.le_of_eq hheld) nofun
      fun forceRun heq => ?_
    rw [hterminates] at heq
    exact hne forceRun (some.inj heq)
  · refine .terminate forceRun (by rw [hterminates, hjob]) hsending hqueued
      (.inr ⟨hleft, by omega⟩) (Nat.le_of_eq hheld) ?_
    have hle := left_le_held hholds id
    omega

/-- A batch with nothing left is dropped, with its containers. -/
theorem refs_step_returns (hstep : w.step .returns = some w')
    (hw : w.stack = f :: rest) (hrunning : f.running = none) (hurgent : f.urgentTodo = [])
    (hnormal : f.normalTodo = []) (hstack : w'.stack = rest) : RefsStep w w' id .returns := by
  obtain ⟨hheld, hleft, hbusy⟩ := refs_of_cons hw id
  rw [← hstack] at hheld hleft hbusy
  refine .move 0 (inSending_ofBatch hstep rfl) ?_ ?_ ?_ ?_ nofun nofun
  · exact queued_kept hstep (fun _ _ => nofun) fun _ => rfl
  · have hempty : f.left id = 0 := by
      unfold left
      rw [hurgent, hnormal]
      rfl
    rw [hleft, hempty]
    exact (Nat.zero_add _).symm
  · rw [hbusy, busy_of_none hrunning]
    exact (Nat.zero_add _).symm
  · rw [hheld]
    exact Nat.le_add_left ..

/-- **What a step of the worker does to the references to a job.** -/
theorem refs_step (hholds : ∀ f ∈ w.stack, f.Holds) (hstep : w.step ev = some w')
    (id : Nat) : RefsStep w w' id ev := by
  have hs := step_stack hstep
  generalize hstack : w'.stack = stack at hs
  cases hs with
  | keep _ hev => exact refs_step_keep hstep hev hstack
  | processJobQueue _ hnil =>
    exact refs_step_dump hstep rfl rfl (fun _ => rfl) (by rw [hstack, hnil])
  | flush _ => exact refs_step_dump hstep rfl rfl (fun _ => rfl) hstack
  | check f rest hw hrunning hurgent _ => exact refs_step_check hstep hw hrunning hurgent hstack
  | urgent f rest e es hw hrunning hurgent =>
    have hf := hholds f (by rw [hw]; exact mem_cons_self)
    refine refs_step_turn { f with urgentTodo := es } hstep (next_urgent hw hurgent) hw
      hstack hrunning ?_ le_rfl ?_
    · show refs id es + refs id f.normalTodo + refs id [e]
        = refs id f.urgentTodo + refs id f.normalTodo
      rw [hurgent, refs_cons id e es]
      omega
    · have hi := hf.urgent id
      rw [hurgent, refs_cons id e es] at hi
      unfold held
      simp only
      omega
  | normal f rest e es hw hrunning hurgent _ hnormal =>
    have hf := hholds f (by rw [hw]; exact mem_cons_self)
    refine refs_step_turn { f with normalTodo := es, checked := false, moreJobs := [] }
      hstep (next_normal hw hurgent hnormal) hw hstack hrunning ?_ ?_ ?_
    · show refs id f.urgentTodo + refs id es + refs id [e]
        = refs id f.urgentTodo + refs id f.normalTodo
      rw [hnormal, refs_cons id e es]
      omega
    · unfold held
      simp only [refs_nil]
      omega
    · have hi := hf.normal id
      rw [hnormal, refs_cons id e es] at hi
      unfold held
      simp only
      omega
  | finish f rest u e hw hrunning => exact refs_step_finish hholds hstep hw hrunning hstack
  | returns f rest hw hrunning hurgent hnormal _ =>
    exact refs_step_returns hstep hw hrunning hurgent hnormal hstack

/-! ## §5. A job that is waited for. -/

variable {s s' : SyncWorker}

/-- Where a job with a synchronous request is: on its way into the queue, or in one place of the
worker, or pending.  As long as someone waits, its turn is to come, it runs or it is pending. -/
structure SyncWorker.ReqOk (s : SyncWorker) (id mInitSharedCnt : Nat) : Prop where
  init : mInitSharedCnt = s.outside id
  once : s.worker.inSending id + s.worker.queued id + s.worker.held id ≤ 1
  pending : 0 < s.mPendingMsgTable.count id →
    s.worker.inSending id = 0 ∧ s.worker.queued id = 0 ∧ s.worker.left id = 0
  waits : s.waiting id = true → s.worker.inSending id = 0
    ∧ 0 < s.worker.queued id + s.worker.left id + s.worker.busy id + s.mPendingMsgTable.count id
  idle : s.waiting id = false →
    s.worker.queued id = 0 ∧ s.worker.held id = 0 ∧ s.mPendingMsgTable.count id = 0

structure SyncOk (s : SyncWorker) : Prop where
  holds : ∀ f ∈ s.worker.stack, f.Holds
  req : ∀ id mInitSharedCnt, s.mSyncReq id = some mInitSharedCnt → s.ReqOk id mInitSharedCnt

open SyncWorker

theorem syncOk_start (normalSize urgentSize : Nat) (outside : Nat → Nat) :
    SyncOk (start normalSize urgentSize outside) :=
  ⟨nofun, nofun⟩

variable {mInitSharedCnt : Nat}

/-- This depends only on where the job is. -/
theorem SyncWorker.ReqOk.congr {id : Nat} (h : s.ReqOk id mInitSharedCnt)
    (houtside : s'.outside id = s.outside id)
    (hsending : s'.worker.inSending id = s.worker.inSending id)
    (hqueued : s'.worker.queued id = s.worker.queued id)
    (hheld : s'.worker.held id = s.worker.held id) (hleft : s'.worker.left id = s.worker.left id)
    (hbusy : s'.worker.busy id = s.worker.busy id)
    (hcount : s'.mPendingMsgTable.count id = s.mPendingMsgTable.count id)
    (hwaiting : s'.waiting id = s.waiting id) : s'.ReqOk id mInitSharedCnt := by
  obtain ⟨hinit, honce, hpending, hwaits, hidle⟩ := h
  constructor
  · rw [houtside]
    exact hinit
  · rw [hsending, hqueued, hheld]
    exact honce
  · rw [hcount, hsending, hqueued, hleft]
    exact hpending
  · rw [hwaiting, hsending, hqueued, hleft, hbusy, hcount]
    exact hwaits
  · rw [hwaiting, hqueued, hheld, hcount]
    exact hidle

/-- `terminate` clears at most the request of the job, and that if one reference more than
`mInitSharedCnt` is left. -/
theorem terminate_cases (s : SyncWorker) (id : Nat) :
    s.terminate id = s
        ∧ (∀ mInitSharedCnt, s.mSyncReq id = some mInitSharedCnt → s.useCount id ≠ mInitSharedCnt + 1)
      ∨ s.terminate id = { s with mSyncReq := update s.mSyncReq id none } := by
  unfold terminate
  split
  · rename_i hnone
    exact .inl ⟨rfl, fun _ h => by rw [hnone] at h; cases h⟩
  · rename_i mInitSharedCnt hsome
    split
    · exact .inr rfl
    · rename_i hne
      refine .inl ⟨rfl, fun _ h => ?_⟩
      rw [hsome] at h
      cases h
      exact hne

/-- A request that is left after `terminate` was there before, and if it is that of the job, the
references do not fit. -/
theorem terminate_mSyncReq {id i : Nat} (h : (s.terminate i).mSyncReq id = some mInitSharedCnt) :
    s.mSyncReq id = some mInitSharedCnt ∧ (i = id → s.useCount id ≠ mInitSharedCnt + 1) := by
  rcases terminate_cases s i with ⟨heq, hne⟩ | heq
  · rw [heq] at h
    exact ⟨h, fun hi => by subst hi; exact hne _ h⟩
  · rw [heq] at h
    simp only [update_apply] at h
    split at h
    · cases h
    · rename_i hid
      exact ⟨h, fun hi => absurd hi.symm hid⟩

theorem terminate_fields (s : SyncWorker) (id : Nat) :
    (s.terminate id).worker = s.worker
      ∧ (s.terminate id).mPendingMsgTable = s.mPendingMsgTable := by
  rcases terminate_cases s id with ⟨heq, -⟩ | heq
  · rw [heq]
    exact ⟨rfl, rfl⟩
  · rw [heq]
    exact ⟨rfl, rfl⟩

/-- Where the job is does not depend on the requests. -/
theorem reqOk_terminate {id i : Nat} {table : List Nat}
    (h : SyncWorker.ReqOk { s with mPendingMsgTable := table } id mInitSharedCnt) :
    SyncWorker.ReqOk { s.terminate i with mPendingMsgTable := table } id mInitSharedCnt := by
  rcases terminate_cases s i with ⟨heq, -⟩ | heq
  · rw [heq]
    exact h
  · rw [heq]
    exact ⟨h.init, h.once, h.pending, h.waits, h.idle⟩

/-! ## §6. Steps. -/

/-- Only the acceptance of a job makes its sender wait. -/
theorem accept_of_ne {id : Nat}
    (hev : ∀ forceRun u, ev ≠ .enqueue (.job id forceRun) u) : s.accept ev id = s.waiting id := by
  unfold accept
  split
  · rename_i i forceRun u
    split
    · refine update_of_ne (fun hid => ?_) ..
      exact hev forceRun u (by rw [hid])
    · rfl
  · rfl

theorem accept_enqueue {id : Nat} (hreq : s.mSyncReq id = some mInitSharedCnt) (forceRun u : Bool) :
    (s.worker.queue u).HasRoom ∧ s.accept (.enqueue (.job id forceRun) u) id = true
      ∨ ¬ (s.worker.queue u).HasRoom
        ∧ s.accept (.enqueue (.job id forceRun) u) id = s.waiting id := by
  unfold accept
  simp only [hreq, isSome_some, and_true]
  by_cases hroom : (s.worker.queue u).HasRoom
  · exact .inl ⟨hroom, by rw [if_pos hroom]; exact update_self ..⟩
  · exact .inr ⟨hroom, by rw [if_neg hroom]⟩

/-- A step of the worker, if `terminate` does not release the waiter. -/
theorem SyncWorker.ReqOk.worker {w : CBaseWorker} {id : Nat} (h : s.ReqOk id mInitSharedCnt)
    (hreq : s.mSyncReq id = some mInitSharedCnt) (hg : RefsKept s (.worker ev))
    (hholds : ∀ f ∈ s.worker.stack, f.Holds) (hholds' : ∀ f ∈ w.stack, f.Holds)
    (hstep : s.worker.step ev = some w)
    (hfit : ∀ forceRun, s.worker.terminates ev = some (.job id forceRun) →
      s.outside id + w.queued id + w.held id + s.mPendingMsgTable.count id ≠ mInitSharedCnt + 1) :
    SyncWorker.ReqOk { s with worker := w, waiting := s.accept ev } id mInitSharedCnt := by
  obtain ⟨hinit, honce, hpending, hwaits, hidle⟩ := h
  -- what is to come or runs is held, before and after
  have hle := left_le_held hholds id
  have hle' := left_le_held hholds' id
  cases refs_step hholds hstep id with
  | move taken hsending hqueued hleft hbusy hheld henqueue _ =>
    refine ⟨hinit, ?_, fun hp => ?_, fun hw => ?_, fun hw => ?_⟩
    · simp only
      omega
    · have := hpending hp
      simp only
      omega
    · have := hwaits (accept_of_ne henqueue ▸ hw)
      simp only
      omega
    · have := hidle (accept_of_ne henqueue ▸ hw)
      simp only
      omega
  | send forceRun u hev =>
    subst hev
    rw [show s.mSyncReq id = none from hg] at hreq
    cases hreq
  | enqueue forceRun u hev hsending hqueued hleft hbusy hheld =>
    subst hev
    -- before the job is accepted no one waits
    have hwaiting : s.waiting id = false := by
      by_contra hw
      have := (hwaits (eq_true_of_ne_false hw)).1
      omega
    have haccept := accept_enqueue hreq forceRun u
    rw [hwaiting] at haccept
    rcases hqueued with ⟨hroom, hqueued⟩ | ⟨hroom, hqueued⟩
    · rcases haccept with ⟨-, htrue⟩ | ⟨hfull, -⟩
      · refine ⟨hinit, ?_, fun hp => ?_, fun _ => ?_, fun hw => ?_⟩
        · simp only
          omega
        · simp only at hp
          omega
        · simp only
          omega
        · rw [show s.accept _ id = false from hw] at htrue
          cases htrue
      · exact absurd hroom hfull
    · rcases haccept with ⟨hfree, -⟩ | ⟨-, hfalse⟩
      · exact absurd hfree hroom
      · refine ⟨hinit, ?_, fun hp => ?_, fun hw => ?_, fun _ => ?_⟩
        · simp only
          omega
        · simp only at hp
          omega
        · rw [show s.accept _ id = true from hw] at hfalse
          cases hfalse
        · simp only
          omega
  | run hev hsending hqueued hleft hbusy hheld _ =>
    subst hev
    refine ⟨hinit, ?_, fun hp => ?_, fun hw => ?_, fun hw => ?_⟩
    · simp only
      omega
    · have := hpending hp
      omega
    · have := hwaits hw
      simp only
      omega
    · have := hidle hw
      omega
  | terminate forceRun hterminates hsending hqueued hturn hheld hstill =>
    have hne := hfit forceRun hterminates
    have henqueue : ∀ forceRun u, ev ≠ .enqueue (.job id forceRun) u := by
      rintro forceRun u rfl
      cases hterminates
    -- the worker holds the job once, so something else does: it is pending
    have hp : 0 < s.mPendingMsgTable.count id := by omega
    have hnone := hpending hp
    refine ⟨hinit, ?_, fun _ => ?_, fun hw => ?_, fun hw => ?_⟩
    · simp only
      omega
    · simp only
      omega
    · simp only
      omega
    · have := hidle (accept_of_ne henqueue ▸ hw)
      omega

theorem SyncOk.worker_step (hg : RefsKept s (.worker ev)) (h : SyncOk s)
    (hstep : s.step (.worker ev) = some s') : SyncOk s' := by
  simp only [step, map_eq_some_iff] at hstep
  obtain ⟨w, hw, rfl⟩ := hstep
  have hholds := holds_step h.holds hw
  have hreq : ∀ id mInitSharedCnt, s.mSyncReq id = some mInitSharedCnt →
      (∀ forceRun, s.worker.terminates ev = some (.job id forceRun) →
        s.outside id + w.queued id + w.held id + s.mPendingMsgTable.count id
          ≠ mInitSharedCnt + 1) →
      SyncWorker.ReqOk { s with worker := w, waiting := s.accept ev } id mInitSharedCnt :=
    fun id mInitSharedCnt hreq hfit =>
      (h.req id mInitSharedCnt hreq).worker hreq hg h.holds hholds hw hfit
  split
  · rename_i i forceRun hterminates
    obtain ⟨hworker, htable⟩ :=
      terminate_fields { s with worker := w, waiting := s.accept ev } i
    refine ⟨by rw [hworker]; exact hholds, fun id mInitSharedCnt hid => ?_⟩
    obtain ⟨hbefore, hne⟩ := terminate_mSyncReq hid
    have hbase := hreq id mInitSharedCnt hbefore fun fr hfr => hne (by
      rw [hterminates] at hfr
      exact (job.inj (some.inj hfr)).1)
    have hok := reqOk_terminate (s := { s with worker := w, waiting := s.accept ev }) (i := i) hbase
    exact hok.congr rfl rfl rfl rfl rfl rfl (congrArg (count id) htable) rfl
  · rename_i hterminates
    exact ⟨hholds, fun id mInitSharedCnt hid =>
      hreq id mInitSharedCnt hid fun fr hfr => absurd hfr (hterminates id fr)⟩

/-- What is sent is not yet in the queue. -/
theorem send_refs (w : CBaseWorker) (id : Nat) (forceRun urgent : Bool) :
    (w.send (.job id forceRun) urgent).stack = w.stack
      ∧ (w.send (.job id forceRun) urgent).queue = w.queue
      ∧ (w.send (.job id forceRun) urgent).inSending id ≤ w.inSending id + 1
      ∧ ∀ i, i ≠ id → (w.send (.job id forceRun) urgent).inSending i = w.inSending i := by
  unfold CBaseWorker.send
  split
  · exact ⟨rfl, rfl, Nat.le_succ _, fun _ _ => rfl⟩
  · refine ⟨rfl, rfl, ?_, fun i hi => countP_cons_of_neg ?_⟩
    · unfold CBaseWorker.inSending
      rw [countP_cons]
      split
      · exact le_rfl
      · exact Nat.le_succ _
    · simpa [isJob] using hi.symm

theorem SyncOk.send_step {id : Nat} {forceRun urgent : Bool}
    (hg : RefsKept s (.send id forceRun urgent)) (h : SyncOk s)
    (hstep : s.step (.send id forceRun urgent) = some s') : SyncOk s' := by
  simp only [step] at hstep
  split at hstep
  · cases hstep
    exact h
  · cases hstep
    obtain ⟨hstack, hqueue, hsend, hother⟩ := send_refs s.worker id forceRun urgent
    generalize s.worker.send (.job id forceRun) urgent = w at hstack hqueue hsend hother
    have hqueued : ∀ i, w.queued i = s.worker.queued i := by
      intro i
      unfold CBaseWorker.queued
      rw [hqueue]
    refine ⟨by rw [hstack]; exact h.holds, fun i mInitSharedCnt hi => ?_⟩
    change update s.mSyncReq id (some (s.useCount id)) i = some mInitSharedCnt at hi
    by_cases hid : i = id
    · -- the worker does not refer to the job, so the count is that of the references elsewhere
      subst hid
      obtain ⟨hsending, hq, hh, hpending⟩ := hg
      have hcount := count_eq_zero.mpr hpending
      rw [update_self, some.injEq] at hi
      refine ⟨?_, ?_, fun hp => ?_, fun hw => ?_, fun _ => ?_⟩
      · rw [← hi]
        unfold useCount
        simp only
        omega
      · simp only [(refs_of_stack hstack i).1, hqueued]
        omega
      · simp only at hp
        omega
      · change update s.waiting i false i = true at hw
        rw [update_self] at hw
        cases hw
      · simp only [(refs_of_stack hstack i).1, hqueued]
        exact ⟨hq, hh, hcount⟩
    · rw [update_of_ne hid] at hi
      obtain ⟨hheld, hleft, hbusy⟩ := refs_of_stack hstack i
      exact (h.req i mInitSharedCnt hi).congr rfl (hother i hid) (hqueued i) hheld hleft hbusy rfl
        (update_of_ne hid ..)

theorem SyncOk.insertEntry_step {id : Nat} (h : SyncOk s)
    (hstep : s.step (.insertEntry id) = some s') : SyncOk s' := by
  obtain ⟨hruns, rfl⟩ := of_guard hstep
  have hbusy : 0 < s.worker.busy id := by
    unfold CBaseWorker.runsJob at hruns
    split at hruns
    · cases hruns
    · rename_i f rest hw
      rw [(refs_of_cons hw id).2.2]
      have := of_decide_eq_true hruns
      omega
  refine ⟨h.holds, fun i mInitSharedCnt hi => ?_⟩
  have hreq := h.req i mInitSharedCnt hi
  by_cases hid : i = id
  · subst hid
    obtain ⟨hinit, honce, hpending, hwaits, hidle⟩ := hreq
    have hle := left_le_held h.holds i
    refine ⟨hinit, honce, fun _ => ?_, fun hw => ?_, fun hw => ?_⟩
    · simp only
      omega
    · simp only [count_cons_self]
      omega
    · have := hidle hw
      omega
  · exact hreq.congr rfl rfl rfl rfl rfl rfl (count_cons_of_ne (Ne.symm hid)) rfl

/-- The completion of a pending entry releases the waiter, or the job still runs, or another
entry is left. -/
theorem SyncOk.complete_step {id : Nat} (hg : RefsKept s (.complete id)) (h : SyncOk s)
    (hstep : s.step (.complete id) = some s') : SyncOk s' := by
  obtain ⟨⟨-, hmem⟩, rfl⟩ := of_guard hstep
  have hpos : 0 < s.mPendingMsgTable.count id := count_pos_iff.mpr hmem
  refine ⟨by rw [(terminate_fields s id).1]; exact h.holds, fun i mInitSharedCnt hi => ?_⟩
  obtain ⟨hbefore, hne⟩ := terminate_mSyncReq hi
  have hreq := h.req i mInitSharedCnt hbefore
  refine reqOk_terminate ?_
  by_cases hid : i = id
  · subst hid
    obtain ⟨hinit, honce, hpending, hwaits, hidle⟩ := hreq
    have hcount : (s.mPendingMsgTable.erase i).count i = s.mPendingMsgTable.count i - 1 :=
      count_erase_self
    have hfit := hne rfl
    have hnone := hpending hpos
    unfold useCount at hfit
    refine ⟨hinit, honce, fun _ => hnone, fun hw => ⟨hnone.1, ?_⟩, fun hw => ?_⟩
    · simp only [hcount]
      rcases hg with hg | hbusy | hheld
      · rw [hbefore] at hg
        cases hg
      · omega
      · omega
    · have := hidle hw
      omega
  · exact hreq.congr rfl rfl rfl rfl rfl rfl (count_erase_of_ne hid) rfl

theorem SyncOk.step {ev : SyncEvent} (hg : RefsKept s ev) (h : SyncOk s)
    (hstep : s.step ev = some s') : SyncOk s' := by
  cases ev with
  | worker ev => exact h.worker_step hg hstep
  | send id forceRun urgent => exact h.send_step hg hstep
  | insertEntry id => exact h.insertEntry_step hstep
  | complete id => exact h.complete_step hg hstep
  | wakeup id =>
    obtain ⟨-, rfl⟩ := of_guard hstep
    refine ⟨h.holds, fun i mInitSharedCnt hi => ?_⟩
    simp only [update_apply] at hi
    split at hi
    · cases hi
    · exact (h.req i mInitSharedCnt hi).congr rfl rfl rfl rfl rfl rfl rfl rfl
  | refer id count =>
    cases hstep
    refine ⟨h.holds, fun i mInitSharedCnt hi => ?_⟩
    have hid : i ≠ id := by
      rintro rfl
      have hnone : s.mSyncReq i = none := hg
      rw [hnone] at hi
      cases hi
    exact (h.req i mInitSharedCnt hi).congr (update_of_ne hid ..) rfl rfl rfl rfl rfl rfl
      rfl

/-! ## §7. Runs. -/

/-- **A waiting sender is released**: in every run in which the references to a job that is waited
for are kept, a sender whose job is not queued, in no batch and not pending any more has been
notified. -/
theorem waiter_released {normalSize urgentSize : Nat} {outside : Nat → Nat} {events : List SyncEvent}
    (hkept : Along SyncWorker.step RefsKept (SyncWorker.start normalSize urgentSize outside) events)
    (hrun : run SyncWorker.step (SyncWorker.start normalSize urgentSize outside) events = some s) :
    s.Released := by
  have h : SyncOk s := run_along (fun _ _ _ hg h hstep => h.step hg hstep)
    (syncOk_start normalSize urgentSize outside) hkept hrun
  intro id hwaiting hqueued hheld hpending
  cases hreq : s.mSyncReq id with
  | none => rfl
  | some mInitSharedCnt =>
    have hwaits := ((h.req id mInitSharedCnt hreq).waits hwaiting).2
    have hcount := count_eq_zero.mpr hpending
    have hle := left_le_held h.holds id
    omega

/-- Job 1 is sent synchronously and job 2 after it; both are in one batch, and job 1 runs and sends
its request. -/
def requestSent : List SyncEvent :=
  [.worker (.tearup true), .send 1 false false, .worker (.enqueue (.job 1 false) false),
    .worker (.send 2 false false), .worker (.enqueue (.job 2 false) false), .worker .dispatch,
    .worker .processJobQueue, .worker .processUrgentJobs, .worker .start, .insertEntry 1,
    .worker .finish, .worker .processUrgentJobs, .worker .start]

/-- The batch ends. -/
def batchEnds : List SyncEvent :=
  [.worker .finish, .worker .processUrgentJobs, .worker .returns]

/-- The response comes after the batch, from a callback of the event loop. -/
theorem waiter_released_later :
    ∃ s, run SyncWorker.step (SyncWorker.start 0 0 fun _ => 1)
        (requestSent ++ batchEnds ++ [.complete 1]) = some s
      ∧ s.waiting 1 = true ∧ s.mPendingMsgTable = [] ∧ s.Released := by
  have hmap : (run step (start 0 0 fun _ => 1)
      (requestSent ++ batchEnds ++ [.complete 1])).map
      (fun s => (s.waiting 1, s.mPendingMsgTable)) = some (true, []) := by decide +kernel
  obtain ⟨s, hs, hmap⟩ := map_eq_some_iff.mp hmap
  obtain ⟨hwaiting, hpending⟩ := Prod.mk.inj hmap
  exact ⟨s, hs, hwaiting, hpending, waiter_released (by decide +kernel) hs⟩

/-- Job 2 lets the response in, by `dispatchInput` or a flush: `terminate` finds the references of
the table and of the batch, and when both are gone the request is still there. -/
theorem waiter_hangs :
    (run SyncWorker.step (SyncWorker.start 0 0 fun _ => 1)
        (requestSent ++ [.complete 1] ++ batchEnds)).map
        (fun s => (s.waiting 1, s.worker.queued 1, s.worker.held 1, s.mPendingMsgTable,
          s.mSyncReq 1))
      = some (true, 0, 0, [], some 1) := by
  decide +kernel

end Fdbus.Worker

/-
  Fdbus.Worker.JobQueue — the job queues of `CBaseWorker`.

  A worker has a normal and an urgent queue.  `processJobQueue` takes all that is queued as a
  batch and goes through it on the worker's thread, and before each normal job, and at the end,
  through the urgent jobs that have come since.  A job may flush the worker it runs on, which
  processes a further batch inside the first one.  Other threads send jobs, discard what is
  queued and tell the worker to exit at any time; a send looks at the exit code first and
  enqueues the job later.

    * `step_lane`, `step_stack`, `step_control` — what one step does to a queue, to the
      batches and to the rest,
    * `accounted_run` — in every run each accepted job is begun, in a batch or queued, once,
    * `followed`  — in every run a job that has begun was terminated or runs.

  A job is taken to start when it is decided whether it is run.  Jobs of a queue are numbered
  in the order they are accepted.
-/
import Fdbus.Library.Run
import Fdbus.Library.BatchQueue

namespace Fdbus.Worker

open Fdbus.Run Option Function
open List hiding next

/-! ## §1. Jobs and queues. -/

/-- The jobs: those of the user, `CExitRequestJob` and `CUnlockJobQueueJob`, the latter with
the number of the `discardJobs` call it belongs to. -/
inductive CBaseJob where
  | job (id : Nat) (forceRun : Bool)
  | exitRequest (exitCode : Int)
  | unlockJobQueue (call : Nat)
  deriving Repr, DecidableEq

/-- `forceRun()`, that is `JOB_FORCE_RUN`. -/
def CBaseJob.forceRun : CBaseJob → Bool
  | .job _ forceRun => forceRun
  | .exitRequest _ => true
  | .unlockJobQueue _ => true

/-- A job in a queue or a batch, with its number. -/
abbrev Entry := CBaseJob × Nat

/-- What became of a job when its turn came: it was run, discarded, or dropped since the worker
exits. -/
inductive Outcome where
  | ran
  | discarded
  | exiting
  deriving Repr, DecidableEq

/-- `CJobQueue`, with its history: the jobs accepted, those whose turn has come, the numbers
of those that `terminate` was called for, and for each `discardJobs` call how many jobs had
been begun when it was made. -/
structure CJobQueue where
  mMaxSize : Nat
  mDiscardCnt : Nat
  mJobQueue : List Entry
  accepted : List CBaseJob
  begun : List (Entry × Outcome)
  terminated : List Nat
  discards : List Nat
  deriving Repr, DecidableEq

def CJobQueue.start (mMaxSize : Nat) : CJobQueue := ⟨mMaxSize, 0, [], [], [], [], []⟩

/-- `enqueue(job)`, with its result. -/
def CJobQueue.enqueue (q : CJobQueue) (job : CBaseJob) : CJobQueue × Bool :=
  -- the source looks at the size twice, the second time under the lock
  if q.mMaxSize = 0 ∨ q.mJobQueue.length < q.mMaxSize then
    ({ q with
        mJobQueue := q.mJobQueue ++ [(job, q.accepted.length)]
        accepted := q.accepted ++ [job] }, true)
  else (q, false)

/-- `discardJobs()`. -/
def CJobQueue.discardJobs (q : CJobQueue) : CJobQueue :=
  { q with mDiscardCnt := q.mDiscardCnt + 1, discards := q.discards ++ [q.begun.length] }

/-- `pickupJobs()`. -/
def CJobQueue.pickupJobs (q : CJobQueue) : CJobQueue := { q with mDiscardCnt := q.mDiscardCnt - 1 }

/-- `jobDiscarded()`. -/
def CJobQueue.jobDiscarded (q : CJobQueue) : Bool := decide (0 < q.mDiscardCnt)

/-- What `dumpJobs` leaves. -/
def CJobQueue.dumped (q : CJobQueue) : CJobQueue := { q with mJobQueue := [] }

/-! ## §2. The worker. -/

/-- A call of `processJobQueue`.  `urgentJobs` and `normalJobs` are its containers, `moreJobs`
is that of the last `processUrgentJobs()`; of these jobs `urgentTodo` and `normalTodo` are still
to be looked at.  `checked` says that `processUrgentJobs()` has been called for the next normal
job, `running` is the job that runs, with its queue.  For the batch of a `flush` on the worker
itself, `flush` is the number of normal jobs accepted until then. -/
structure Batch where
  urgentJobs : List Entry
  normalJobs : List Entry
  moreJobs : List Entry
  urgentTodo : List Entry
  normalTodo : List Entry
  checked : Bool
  running : Option (Bool × Entry)
  flush : Option Nat
  deriving Repr, DecidableEq

/-- The jobs of one queue that are still to be looked at. -/
def Batch.todo (urgent : Bool) (f : Batch) : List Entry :=
  if urgent then f.urgentTodo else f.normalTodo

/-- Where `run` is: before or in `tearup`, between two dispatches, in a dispatch, returned. -/
inductive Phase where
  | starting
  | looping
  | dispatching
  | returned
  deriving Repr, DecidableEq

/-- `CBaseWorker`.  `queue` is `mUrgentJobQueue` for `true` and `mNormalJobQueue` for `false`.
`sending` are the sends that have looked at the exit code and not yet enqueued their job,
`unlocking` the `discardJobs` calls that have not yet sent their unlock job, `flushed` the marks
of the flushes on the worker itself that have returned. -/
structure CBaseWorker where
  mExitCode : Int
  queue : Bool → CJobQueue
  stack : List Batch
  sending : List (CBaseJob × Bool)
  unlocking : List (Nat × Bool)
  flushed : List Nat
  phase : Phase

/-- A worker that has not been started. -/
def CBaseWorker.start (normalSize urgentSize : Nat) : CBaseWorker where
  mExitCode := 0
  queue urgent := CJobQueue.start (if urgent then urgentSize else normalSize)
  stack := []
  sending := []
  unlocking := []
  flushed := []
  phase := .starting

def CBaseWorker.setQueue (w : CBaseWorker) (urgent : Bool) (q : CJobQueue) : CBaseWorker :=
  { w with queue := Function.update w.queue urgent q }

/-- The part of `send` before the job is enqueued. -/
def CBaseWorker.send (w : CBaseWorker) (job : CBaseJob) (urgent : Bool) : CBaseWorker :=
  if w.mExitCode ≠ 0 then w else { w with sending := (job, urgent) :: w.sending }

/-- `updateDiscardStatus(false, urgent)`. -/
def CBaseWorker.pickupJobs (w : CBaseWorker) (urgent : Bool) : CBaseWorker :=
  w.setQueue urgent (w.queue urgent).pickupJobs

/-- The rest of `send`; an unlock job that is not accepted ends the discarding. -/
def CBaseWorker.enqueue (w : CBaseWorker) (job : CBaseJob) (urgent : Bool) : CBaseWorker :=
  let r := (w.queue urgent).enqueue job
  let w' := { w.setQueue urgent r.1 with sending := w.sending.erase (job, urgent) }
  if r.2 then w'
  else
    -- `discardJobs` undoes its call if the unlock job is refused; else only the result says so
    match job with
    | .unlockJobQueue _ => w'.pickupJobs urgent
    | _ => w'

/-- `discardQueuedJobs(urgent)`, up to the send of the unlock job. -/
def CBaseWorker.discardJobs (w : CBaseWorker) (urgent : Bool) : CBaseWorker :=
  { w.setQueue urgent (w.queue urgent).discardJobs with
    unlocking := ((w.queue urgent).discards.length, urgent) :: w.unlocking }

/-- The send of the unlock job. -/
def CBaseWorker.sendUnlock (w : CBaseWorker) (call : Nat) (urgent : Bool) : CBaseWorker :=
  if w.mExitCode ≠ 0 then
    -- the send is refused, which ends the discarding at once
    { w with unlocking := w.unlocking.erase (call, urgent) }.pickupJobs urgent
  else
    { w with
      unlocking := w.unlocking.erase (call, urgent)
      sending := (.unlockJobQueue call, urgent) :: w.sending }

/-- The batch `processJobQueue` takes. -/
def CBaseWorker.newBatch (w : CBaseWorker) (flush : Option Nat) : Batch where
  urgentJobs := (w.queue true).mJobQueue
  normalJobs := (w.queue false).mJobQueue
  moreJobs := []
  urgentTodo := (w.queue true).mJobQueue
  normalTodo := (w.queue false).mJobQueue
  checked := false
  running := none
  flush := flush

/-- The beginning of `processJobQueue`. -/
def CBaseWorker.dumpJobs (w : CBaseWorker) (flush : Option Nat) : CBaseWorker :=
  { w with
    queue := fun urgent => (w.queue urgent).dumped
    stack := w.newBatch flush :: w.stack }

/-- What becomes of a job: `run_job` of `processUrgentJobs` and `processJobQueue`, with the
reason if it is not set. -/
def CBaseWorker.outcome (w : CBaseWorker) (urgent : Bool) (job : CBaseJob) : Outcome :=
  if !(w.queue urgent).jobDiscarded || job.forceRun then
    -- only `processJobQueue` looks at `mExitCode`; urgent jobs are run during exit as well
    if urgent || w.mExitCode = 0 then .ran else .exiting
  else .discarded

/-- What running a job does to the worker. -/
def CBaseWorker.runJob (w : CBaseWorker) (urgent : Bool) : CBaseJob → CBaseWorker
  | .job _ _ => w
  | .exitRequest exitCode => { w with mExitCode := exitCode }
  | .unlockJobQueue _ => w.pickupJobs urgent

/-- The turn of a job comes.  A job that is not run is terminated at once. -/
def CBaseWorker.runOneJob (w : CBaseWorker) (urgent : Bool) (e : Entry) (f : Batch)
    (rest : List Batch) : CBaseWorker :=
  let o := w.outcome urgent e.1
  let q := w.queue urgent
  if o = .ran then
    { (w.setQueue urgent { q with begun := q.begun ++ [(e, o)] }).runJob urgent e.1 with
      stack := { f with running := some (urgent, e) } :: rest }
  else
    { w.setQueue urgent
        { q with begun := q.begun ++ [(e, o)], terminated := q.terminated ++ [e.2] } with
      stack := f :: rest }

/-- Code on the worker's thread runs inside `dispatch`: a job, or a callback of the event
loop. -/
def CBaseWorker.inUserCode (w : CBaseWorker) : Bool :=
  w.phase = .dispatching &&
    match w.stack with
    | [] => true
    | f :: _ => f.running.isSome

inductive WorkerEvent where
  | tearup (ok : Bool)
  | dispatch
  | processJobQueue
  | flush
  | processUrgentJobs
  | start
  | finish
  | returns
  | endDispatch
  | leave
  | send (id : Nat) (forceRun urgent : Bool)
  | exit (exitCode : Int)
  | enqueue (job : CBaseJob) (urgent : Bool)
  | discardJobs (urgent : Bool)
  | sendUnlock (call : Nat) (urgent : Bool)
  | sizeLimit (size : Nat) (urgent : Bool)
  deriving Repr, DecidableEq

/-- The next job of the innermost batch: an urgent one, or a normal one after the check for
urgent ones. -/
def CBaseWorker.nextJob (w : CBaseWorker) : Option CBaseWorker :=
  match w.stack with
  | [] => none
  | f :: rest =>
    if f.running.isSome then none
    else
      match f.urgentTodo with
      | e :: es => some (w.runOneJob true e { f with urgentTodo := es } rest)
      | [] =>
        match f.checked, f.normalTodo with
        | true, e :: es =>
          -- the container of `processUrgentJobs()` is gone when it has returned
          some (w.runOneJob false e
            { f with normalTodo := es, checked := false, moreJobs := [] } rest)
        | _, _ => none

/-- The job whose turn comes next in the innermost batch, with its queue. -/
def CBaseWorker.next (w : CBaseWorker) : Option (Bool × Entry) :=
  match w.stack with
  | [] => none
  | f :: _ =>
    match f.urgentTodo with
    | e :: _ => some (true, e)
    | [] => f.normalTodo.head?.map fun e => (false, e)

/-- `processUrgentJobs()`. -/
def CBaseWorker.processUrgentJobs (w : CBaseWorker) : Option CBaseWorker :=
  match w.stack with
  | [] => none
  | f :: rest =>
    if f.running.isSome || !f.urgentTodo.isEmpty || f.checked then none
    else
      some { w.setQueue true (w.queue true).dumped with
        stack := { f with
          urgentTodo := (w.queue true).mJobQueue
          moreJobs := (w.queue true).mJobQueue
          checked := true } :: rest }

/-- The job that runs returns and is terminated. -/
def CBaseWorker.finish (w : CBaseWorker) : Option CBaseWorker :=
  match w.stack with
  | [] => none
  | f :: rest =>
    match f.running with
    | none => none
    | some (urgent, e) =>
      some { w.setQueue urgent
          { w.queue urgent with terminated := (w.queue urgent).terminated ++ [e.2] } with
        stack := { f with running := none } :: rest }

/-- `processJobQueue` returns. -/
def CBaseWorker.returns (w : CBaseWorker) : Option CBaseWorker :=
  match w.stack with
  | [] => none
  | f :: rest =>
    if f.running.isSome || !f.urgentTodo.isEmpty || !f.normalTodo.isEmpty || !f.checked then none
    else some { w with stack := rest, flushed := w.flushed ++ f.flush.toList }

/-- One step of the worker or of another thread. -/
def CBaseWorker.step (w : CBaseWorker) : WorkerEvent → Option CBaseWorker
  | .tearup ok =>
    -- `run` begins with `mExitCode = 0`
    if w.phase = .starting then
      some { w with mExitCode := 0, phase := if ok then .looping else .returned }
    else none
  -- one round of `while (!mExitCode)`
  | .dispatch =>
    if w.phase = .looping ∧ w.mExitCode = 0 then some { w with phase := .dispatching } else none
  | .processJobQueue =>
    if w.phase = .dispatching ∧ w.stack = [] then some (w.dumpJobs none) else none
  -- `flush` with `isSelf()`; from another thread it is a `send` of an empty job
  | .flush =>
    if w.inUserCode then some (w.dumpJobs (some (w.queue false).accepted.length)) else none
  | .processUrgentJobs => w.processUrgentJobs
  | .start => w.nextJob
  | .finish => w.finish
  | .returns => w.returns
  | .endDispatch =>
    if w.phase = .dispatching ∧ w.stack = [] then some { w with phase := .looping } else none
  | .leave =>
    if w.phase = .looping ∧ w.mExitCode ≠ 0 then some { w with phase := .returned } else none
  | .send id forceRun urgent => some (w.send (.job id forceRun) urgent)
  | .exit exitCode => some (w.send (.exitRequest exitCode) false)
  | .enqueue job urgent =>
    if (job, urgent) ∈ w.sending then some (w.enqueue job urgent) else none
  | .discardJobs urgent => some (w.discardJobs urgent)
  | .sendUnlock call urgent =>
    if (call, urgent) ∈ w.unlocking then some (w.sendUnlock call urgent) else none
  | .sizeLimit size urgent => some (w.setQueue urgent { w.queue urgent with mMaxSize := size })

/-! ## §3. What the operations do. -/

variable {w w' : CBaseWorker} {u v : Bool}

@[simp] theorem setQueue_self (w : CBaseWorker) (u : Bool) (q : CJobQueue) :
    (w.setQueue u q).queue u = q :=
  update_self ..

theorem setQueue_of_ne (w : CBaseWorker) (q : CJobQueue) (h : v ≠ u) :
    (w.setQueue u q).queue v = w.queue v :=
  update_of_ne h ..

open CBaseWorker Batch

/-- A job's turn comes: it is the next urgent one of the innermost batch, or the next normal
one if the urgent ones are done. -/
theorem nextJob_cases (h : w.nextJob = some w') :
    ∃ f rest, w.stack = f :: rest ∧ f.running = none
      ∧ ((∃ e es, f.urgentTodo = e :: es
          ∧ w' = w.runOneJob true e { f with urgentTodo := es } rest)
        ∨ ∃ e es, f.urgentTodo = [] ∧ f.checked = true ∧ f.normalTodo = e :: es
          ∧ w' = w.runOneJob false e
            { f with normalTodo := es, checked := false, moreJobs := [] } rest) := by
  unfold nextJob at h
  split at h
  · cases h
  · rename_i f rest hstack
    split at h
    · cases h
    · rename_i hrunning
      refine ⟨f, rest, hstack, by simpa using hrunning, ?_⟩
      split at h
      · rename_i e es hurgent
        cases h
        exact .inl ⟨e, es, hurgent, rfl⟩
      · rename_i hurgent
        split at h
        · rename_i e es hchecked hnormal
          cases h
          exact .inr ⟨e, es, hurgent, hchecked, hnormal, rfl⟩
        · cases h

variable {f : Batch} {rest : List Batch} {e : Entry} {es : List Entry} {ev : WorkerEvent}

theorem next_urgent (hstack : w.stack = f :: rest) (hurgent : f.urgentTodo = e :: es) :
    w.next = some (true, e) := by
  unfold next
  rw [hstack]
  simp only [hurgent]

theorem next_normal
    (hstack : w.stack = f :: rest) (hurgent : f.urgentTodo = []) (hnormal : f.normalTodo = e :: es) :
    w.next = some (false, e) := by
  unfold next
  rw [hstack]
  simp only [hurgent, hnormal, head?_cons, map_some]

theorem processUrgentJobs_cases (h : w.processUrgentJobs = some w') :
    ∃ f rest, w.stack = f :: rest ∧ f.running = none ∧ f.urgentTodo = [] ∧ f.checked = false
      ∧ w' = { w.setQueue true (w.queue true).dumped with
          stack := { f with
            urgentTodo := (w.queue true).mJobQueue
            moreJobs := (w.queue true).mJobQueue
            checked := true } :: rest } := by
  unfold processUrgentJobs at h
  split at h
  · cases h
  · rename_i f rest hstack
    split at h
    · cases h
    · rename_i hf
      simp only [Bool.or_eq_true, not_or] at hf
      cases h
      exact ⟨f, rest, hstack, by simpa using hf.1.1, by simpa using hf.1.2, by simpa using hf.2, rfl⟩

theorem finish_cases (h : w.finish = some w') :
    ∃ f rest u e, w.stack = f :: rest ∧ f.running = some (u, e)
      ∧ w' = { w.setQueue u
            { w.queue u with terminated := (w.queue u).terminated ++ [e.2] } with
          stack := { f with running := none } :: rest } := by
  unfold finish at h
  split at h
  · cases h
  · rename_i f rest hstack
    split at h
    · cases h
    · rename_i u e hrunning
      cases h
      exact ⟨f, rest, u, e, hstack, hrunning, rfl⟩

theorem returns_cases (h : w.returns = some w') :
    ∃ f rest, w.stack = f :: rest ∧ f.running = none ∧ f.urgentTodo = [] ∧ f.normalTodo = []
      ∧ f.checked = true
      ∧ w' = { w with stack := rest, flushed := w.flushed ++ f.flush.toList } := by
  unfold returns at h
  split at h
  · cases h
  · rename_i f rest hstack
    split at h
    · cases h
    · rename_i hf
      simp only [Bool.or_eq_true, not_or] at hf
      cases h
      exact ⟨f, rest, hstack, by simpa using hf.1.1.1, by simpa using hf.1.1.2,
        by simpa using hf.1.2, by simpa using hf.2, rfl⟩

/-! ## §4. What a step does to one queue. -/

/-- The job of this queue that a batch runs. -/
def Batch.runs (urgent : Bool) (f : Batch) : Option Entry :=
  match f.running with
  | some (u, e) => if u = urgent then some e else none
  | none => none

/-- One queue of the worker: the queue itself, what is to be done in the batches, the innermost
one first, and what runs. -/
structure Lane where
  queue : CJobQueue
  todo : List Entry
  running : List Entry

def CBaseWorker.lane (w : CBaseWorker) (urgent : Bool) : Lane where
  queue := w.queue urgent
  todo := w.stack.flatMap (Batch.todo urgent)
  running := w.stack.filterMap (Batch.runs urgent)

/-- There is room for a job. -/
def CJobQueue.HasRoom (q : CJobQueue) : Prop := q.mMaxSize = 0 ∨ q.mJobQueue.length < q.mMaxSize

instance (q : CJobQueue) : Decidable q.HasRoom := inferInstanceAs (Decidable (_ ∨ _))

/-- The turn of the job `e` has come. -/
def Lane.begin (l : Lane) (e : Entry) (rest : List Entry) (o : Outcome) : Lane :=
  let q := { l.queue with begun := l.queue.begun ++ [(e, o)] }
  if o = .ran then
    match e.1 with
    | .unlockJobQueue _ => ⟨q.pickupJobs, rest, e :: l.running⟩
    | _ => ⟨q, rest, e :: l.running⟩
  else ⟨{ q with terminated := q.terminated ++ [e.2] }, rest, l.running⟩

/-- The events that take jobs of a queue into a batch. -/
def WorkerEvent.takes (v : Bool) : WorkerEvent → Bool
  | .processJobQueue | .flush => true
  | .processUrgentJobs => v
  | _ => false

/-- The number of the `discardJobs` call, for an unlock job. -/
def CBaseJob.unlocks : CBaseJob → Option Nat
  | .unlockJobQueue call => some call
  | _ => none

/-- The events that change a queue, apart from its size limit and what has ended. -/
def CBaseWorker.changes (w : CBaseWorker) (v : Bool) : WorkerEvent → Bool
  | .enqueue job u => decide (u = v) && (decide (w.queue v).HasRoom || job.unlocks.isSome)
  | .discardJobs u => decide (u = v)
  | .sendUnlock _ u => decide (u = v) && decide (w.mExitCode ≠ 0)
  | .start => decide (w.next.map Prod.fst = some v)
  | ev => ev.takes v

/-- What an event does to a queue of the worker. -/
inductive LaneStep (w : CBaseWorker) (v : Bool) : WorkerEvent → Lane → Prop where
  | keep (ev : WorkerEvent) (hev : w.changes v ev = false) : LaneStep w v ev (w.lane v)
  | sizeLimit (size : Nat) :
      LaneStep w v (.sizeLimit size v)
        { w.lane v with queue := { w.queue v with mMaxSize := size } }
  | push (job : CBaseJob) (hroom : (w.queue v).HasRoom) :
      LaneStep w v (.enqueue job v)
        { w.lane v with
          queue := { w.queue v with
            mJobQueue := (w.queue v).mJobQueue ++ [(job, (w.queue v).accepted.length)]
            accepted := (w.queue v).accepted ++ [job] } }
  | refuse (call : Nat) (hroom : ¬ (w.queue v).HasRoom) :
      LaneStep w v (.enqueue (.unlockJobQueue call) v)
        { w.lane v with queue := (w.queue v).pickupJobs }
  | dropUnlock (call : Nat) (hexit : w.mExitCode ≠ 0) :
      LaneStep w v (.sendUnlock call v) { w.lane v with queue := (w.queue v).pickupJobs }
  | discard :
      LaneStep w v (.discardJobs v) { w.lane v with queue := (w.queue v).discardJobs }
  | take (ev : WorkerEvent) (hev : ev.takes v = true) :
      LaneStep w v ev
        { w.lane v with
          queue := (w.queue v).dumped
          todo := (w.queue v).mJobQueue ++ (w.lane v).todo }
  | begin (e : Entry) (rest : List Entry) (hnext : w.next = some (v, e))
      (htodo : (w.lane v).todo = e :: rest) :
      LaneStep w v .start ((w.lane v).begin e rest (w.outcome v e.1))
  | finish (e : Entry) (rest : List Entry) (hrunning : (w.lane v).running = e :: rest) :
      LaneStep w v .finish
        { w.lane v with
          queue := { w.queue v with terminated := (w.queue v).terminated ++ [e.2] }
          running := rest }

/-- A change to a queue, seen from one queue. -/
theorem lane_setQueue {P : Lane → Prop} (w : CBaseWorker) (q : CJobQueue)
    (hself : v = u → P { w.lane v with queue := q }) (hother : v ≠ u → P (w.lane v)) :
    P ((w.setQueue u q).lane v) := by
  by_cases hv : v = u
  · have heq : (w.setQueue u q).lane v = { w.lane v with queue := q } := by
      subst hv
      simp only [lane, setQueue_self]
      rfl
    rw [heq]
    exact hself hv
  · have heq : (w.setQueue u q).lane v = w.lane v := by
      simp only [lane, setQueue_of_ne w q hv]
      rfl
    rw [heq]
    exact hother hv

theorem lane_enqueue (w : CBaseWorker) (job : CBaseJob) (u v : Bool) :
    LaneStep w v (.enqueue job u) ((w.enqueue job u).lane v) := by
  have hother : v ≠ u → w.changes v (.enqueue job u) = false := by
    intro hv
    simp only [changes, decide_eq_false (hv.symm), Bool.false_and]
  by_cases hroom : (w.queue u).HasRoom
  · have hr : (w.queue u).enqueue job
        = ({ w.queue u with
              mJobQueue := (w.queue u).mJobQueue ++ [(job, (w.queue u).accepted.length)]
              accepted := (w.queue u).accepted ++ [job] }, true) := if_pos hroom
    simp only [enqueue, hr, if_true]
    refine lane_setQueue w _ (fun hv => ?_) fun hv => .keep _ (hother hv)
    subst hv
    exact .push job hroom
  · have hr : (w.queue u).enqueue job = (w.queue u, false) := if_neg hroom
    simp only [enqueue, hr, Bool.false_eq_true, if_false]
    have hkeep : ({ w.setQueue u (w.queue u) with sending := w.sending.erase (job, u) } :
        CBaseWorker).lane v = w.lane v := by
      refine lane_setQueue (P := (· = w.lane v)) w (w.queue u) (fun hv => ?_) fun _ => rfl
      subst hv
      rfl
    have hfull : job.unlocks = none → w.changes v (.enqueue job u) = false := by
      intro hjob
      by_cases hv : v = u
      · subst hv
        simp only [changes, decide_eq_false hroom, hjob, isSome_none,
          Bool.or_self, Bool.and_false]
      · exact hother hv
    cases job with
    | job | exitRequest => exact hkeep ▸ .keep _ (hfull rfl)
    | unlockJobQueue call =>
      refine lane_setQueue _ _ (fun hv => ?_) fun hv => hkeep ▸ .keep _ (hother hv)
      subst hv
      rw [hkeep, setQueue_self]
      exact .refuse call hroom

theorem lane_sendUnlock (w : CBaseWorker) (call : Nat) (u v : Bool) :
    LaneStep w v (.sendUnlock call u) ((w.sendUnlock call u).lane v) := by
  unfold sendUnlock
  split
  · rename_i hexit
    refine lane_setQueue _ _ (fun hv => ?_) fun hv => .keep _ ?_
    · subst hv
      exact .dropUnlock call hexit
    · simp only [changes, decide_eq_false (hv.symm), Bool.false_and]
  · rename_i hexit
    exact .keep _ (by simp only [changes, decide_eq_false hexit, Bool.and_false])

theorem runJob_queue_of_ne (w : CBaseWorker) (job : CBaseJob) (hv : v ≠ u) :
    (w.runJob u job).queue v = w.queue v := by
  cases job with
  | job | exitRequest => rfl
  | unlockJobQueue call => exact setQueue_of_ne w _ hv

theorem Batch.runs_of_none (hf : f.running = none) : f.runs v = none := by
  unfold runs
  rw [hf]

theorem Batch.runs_some (f : Batch) (u v : Bool) (e : Entry) :
    runs v { f with running := some (u, e) } = if u = v then some e else none := rfl

/-- The batch in which a job's turn comes, seen from the job's queue and from the other. -/
theorem lane_runOneJob (w : CBaseWorker) (u : Bool) (e : Entry) {f f' : Batch}
    {rest : List Batch} {es : List Entry} (hstack : w.stack = f' :: rest)
    (hrunning' : f'.running = none) (hrunning : f.running = none)
    (htodo' : f'.todo u = e :: es) (htodo : f.todo u = es)
    (hother : ∀ v, v ≠ u → f.todo v = f'.todo v) (hnext : w.next = some (u, e)) (v : Bool) :
    LaneStep w v .start ((w.runOneJob u e f rest).lane v) := by
  have hruns : w.stack.filterMap (runs v) = rest.filterMap (runs v) := by
    rw [hstack, filterMap_cons_none (runs_of_none hrunning')]
  have hruns' : (f :: rest).filterMap (runs v) = rest.filterMap (runs v) :=
    filterMap_cons_none (runs_of_none hrunning)
  by_cases hv : v = u
  · subst hv
    have hlane : (w.lane v).todo = e :: (es ++ rest.flatMap (todo v)) := by
      show w.stack.flatMap (todo v) = _
      rw [hstack, flatMap_cons, htodo', cons_append]
    have hstep := LaneStep.begin (w := w) e _ hnext hlane
    have hdone : (w.runOneJob v e f rest).lane v
        = (w.lane v).begin e (es ++ rest.flatMap (todo v)) (w.outcome v e.1) := by
      unfold runOneJob Lane.begin
      by_cases hran : w.outcome v e.1 = .ran
      · simp only [if_pos hran, lane, hruns, flatMap_cons,
          filterMap_cons, runs_some, if_true]
        obtain ⟨job, n⟩ := e
        cases job with
        | job | exitRequest => simp [runJob, ← htodo, todo]
        | unlockJobQueue call =>
          simp [runJob, pickupJobs, ← htodo, todo]
      · simp only [if_neg hran, lane, hruns, hruns', flatMap_cons, htodo,
          setQueue_self]
    rw [hdone]
    exact hstep
  · have hsame : (w.runOneJob u e f rest).lane v = w.lane v := by
      have htodos : (f :: rest).flatMap (todo v) = w.stack.flatMap (todo v) := by
        rw [hstack, flatMap_cons, flatMap_cons, hother v hv]
      unfold runOneJob
      by_cases hran : w.outcome u e.1 = .ran
      · simp only [if_pos hran, lane, runJob_queue_of_ne _ e.1 hv,
          setQueue_of_ne w _ hv, filterMap_cons, runs_some, if_neg (Ne.symm hv), hruns]
        exact congrArg (Lane.mk _ · _) htodos
      · simp only [if_neg hran, lane, setQueue_of_ne w _ hv, htodos, hruns, hruns']
    rw [hsame]
    refine .keep _ (decide_eq_false ?_)
    rw [hnext]
    exact fun hu => hv (some.inj hu).symm

theorem next_todo (hnext : w.next = some (v, e)) : ∃ rest, (w.lane v).todo = e :: rest := by
  unfold next at hnext
  show ∃ rest, w.stack.flatMap (todo v) = e :: rest
  cases hstack : w.stack with
  | nil =>
    rw [hstack] at hnext
    cases hnext
  | cons f rest =>
    rw [hstack] at hnext
    simp only at hnext
    cases hurgent : f.urgentTodo with
    | cons x es =>
      rw [hurgent] at hnext
      cases hnext
      exact ⟨es ++ rest.flatMap (todo true),
        by rw [flatMap_cons, show f.todo true = e :: es from hurgent, cons_append]⟩
    | nil =>
      rw [hurgent] at hnext
      cases hnormal : f.normalTodo with
      | nil =>
        rw [hnormal] at hnext
        cases hnext
      | cons x es =>
        rw [hnormal] at hnext
        cases hnext
        exact ⟨es ++ rest.flatMap (todo false),
          by rw [flatMap_cons, show f.todo false = e :: es from hnormal,
            cons_append]⟩

theorem lane_processUrgentJobs (hstep : w.processUrgentJobs = some w') (v : Bool) :
    LaneStep w v .processUrgentJobs (w'.lane v) := by
  obtain ⟨f, rest, hstack, hrunning, hempty, -, rfl⟩ := processUrgentJobs_cases hstep
  have hruns : w.stack.filterMap (runs v) = rest.filterMap (runs v) := by
    rw [hstack, filterMap_cons_none (runs_of_none hrunning)]
  have hruns' : ({ f with
        urgentTodo := (w.queue true).mJobQueue
        moreJobs := (w.queue true).mJobQueue
        checked := true } :: rest).filterMap (runs v) = rest.filterMap (runs v) :=
    filterMap_cons_none (runs_of_none hrunning)
  cases v with
  | true =>
    have htodo : (w.lane true).todo = rest.flatMap (todo true) := by
      show w.stack.flatMap (todo true) = _
      rw [hstack, flatMap_cons, show f.todo true = [] from hempty, nil_append]
    have htake := LaneStep.take (w := w) (v := true) .processUrgentJobs rfl
    rw [htodo] at htake
    convert htake using 1
    simp only [lane, setQueue_self, hruns, hruns']
    rfl
  | false =>
    have hkeep := LaneStep.keep (w := w) (v := false) .processUrgentJobs rfl
    convert hkeep using 1
    simp only [lane, hruns, hruns']
    rw [hstack]
    rfl

theorem lane_finish (hstep : w.finish = some w') (v : Bool) :
    LaneStep w v .finish (w'.lane v) := by
  obtain ⟨f, rest, u, e, hstack, hrunning, rfl⟩ := finish_cases hstep
  have htodo : w.stack.flatMap (todo v)
      = ({ f with running := none } :: rest).flatMap (todo v) := by
    rw [hstack]
    rfl
  have hruns : w.stack.filterMap (runs v)
      = (if u = v then [e] else []) ++ rest.filterMap (runs v) := by
    rw [hstack, filterMap_cons]
    unfold runs
    rw [hrunning]
    by_cases huv : u = v
    · simp [huv]
    · simp [huv]
  have hruns' : ({ f with running := none } :: rest).filterMap (runs v)
      = rest.filterMap (runs v) := filterMap_cons_none rfl
  by_cases hv : v = u
  · subst hv
    rw [if_pos rfl, singleton_append] at hruns
    have hfin := LaneStep.finish (w := w) e (rest.filterMap (runs v)) hruns
    convert hfin using 1
    simp only [lane, setQueue_self, htodo, hruns']
  · have hkeep := LaneStep.keep (w := w) (v := v) .finish rfl
    convert hkeep using 1
    simp only [lane, setQueue_of_ne w _ hv, htodo, hruns, hruns',
      if_neg (Ne.symm hv), nil_append]

theorem lane_returns (hstep : w.returns = some w') (v : Bool) : w.lane v = w'.lane v := by
  obtain ⟨f, rest, hstack, hrunning, hurgent, hnormal, -, rfl⟩ := returns_cases hstep
  have hempty : f.todo v = [] := by
    cases v with
    | true => exact hurgent
    | false => exact hnormal
  simp only [lane, hstack, flatMap_cons, hempty, nil_append,
    filterMap_cons_none (runs_of_none hrunning)]

/-- **What a step does to a queue.** -/
theorem step_lane (hstep : w.step ev = some w') (v : Bool) : LaneStep w v ev (w'.lane v) := by
  cases ev with
  | tearup | dispatch | endDispatch | leave =>
    obtain ⟨_, rfl⟩ := of_guard hstep
    exact .keep _ rfl
  | processJobQueue | flush =>
    obtain ⟨_, rfl⟩ := of_guard hstep
    cases v <;> exact .take _ rfl
  | processUrgentJobs => exact lane_processUrgentJobs hstep v
  | start =>
    obtain ⟨f, rest, hstack, hrunning,
      ⟨e, es, hurgent, rfl⟩ | ⟨e, es, hurgent, -, hnormal, rfl⟩⟩ := nextJob_cases hstep
    · exact lane_runOneJob w true e (f := { f with urgentTodo := es }) hstack hrunning hrunning
        hurgent rfl (fun v hv => by rw [eq_false_of_ne_true hv]; rfl) (next_urgent hstack hurgent)
        v
    · exact lane_runOneJob w false e
        (f := { f with normalTodo := es, checked := false, moreJobs := [] }) hstack hrunning
        hrunning hnormal rfl (fun v hv => by rw [eq_true_of_ne_false hv]; rfl)
        (next_normal hstack hurgent hnormal) v
  | finish => exact lane_finish hstep v
  | returns => exact lane_returns hstep v ▸ .keep _ rfl
  | send | exit =>
    cases hstep
    unfold send
    split
    · exact .keep _ rfl
    · exact .keep _ rfl
  | enqueue job u =>
    obtain ⟨_, rfl⟩ := of_guard hstep
    exact lane_enqueue w job u v
  | discardJobs u =>
    cases hstep
    refine lane_setQueue w _ (fun hv => ?_) fun hv => .keep _ (decide_eq_false (hv.symm))
    subst hv
    exact .discard
  | sendUnlock call u =>
    obtain ⟨_, rfl⟩ := of_guard hstep
    exact lane_sendUnlock w call u v
  | sizeLimit size u =>
    cases hstep
    refine lane_setQueue w _ (fun hv => ?_) fun _ => .keep _ rfl
    subst hv
    exact .sizeLimit size

/-! ## §5. What a step does to the batches. -/

/-- The events of the worker's thread that belong to a batch. -/
def WorkerEvent.ofBatch : WorkerEvent → Bool
  | .processJobQueue | .flush | .processUrgentJobs | .start | .finish | .returns => true
  | _ => false

/-- What is run after the turn of a job has come. -/
def CBaseWorker.runsNow (w : CBaseWorker) (urgent : Bool) (e : Entry) : Option (Bool × Entry) :=
  if w.outcome urgent e.1 = .ran then some (urgent, e) else none

/-- What an event does to the batches. -/
inductive StackStep (w : CBaseWorker) : WorkerEvent → List Batch → Prop where
  | keep (ev : WorkerEvent) (hev : ev.ofBatch = false) : StackStep w ev w.stack
  | processJobQueue (hphase : w.phase = .dispatching) (hstack : w.stack = []) :
      StackStep w .processJobQueue [w.newBatch none]
  | flush (hcode : w.inUserCode = true) :
      StackStep w .flush (w.newBatch (some (w.queue false).accepted.length) :: w.stack)
  | check (f : Batch) (rest : List Batch) (hstack : w.stack = f :: rest)
      (hrunning : f.running = none) (hurgent : f.urgentTodo = []) (hchecked : f.checked = false) :
      StackStep w .processUrgentJobs
        ({ f with
            urgentTodo := (w.queue true).mJobQueue
            moreJobs := (w.queue true).mJobQueue
            checked := true } :: rest)
  | urgent (f : Batch) (rest : List Batch) (e : Entry) (es : List Entry)
      (hstack : w.stack = f :: rest) (hrunning : f.running = none)
      (hurgent : f.urgentTodo = e :: es) :
      StackStep w .start
        ({ f with urgentTodo := es, running := w.runsNow true e } :: rest)
  | normal (f : Batch) (rest : List Batch) (e : Entry) (es : List Entry)
      (hstack : w.stack = f :: rest) (hrunning : f.running = none) (hurgent : f.urgentTodo = [])
      (hchecked : f.checked = true) (hnormal : f.normalTodo = e :: es) :
      StackStep w .start
        ({ f with
            normalTodo := es
            checked := false
            moreJobs := []
            running := w.runsNow false e } :: rest)
  | finish (f : Batch) (rest : List Batch) (u : Bool) (e : Entry) (hstack : w.stack = f :: rest)
      (hrunning : f.running = some (u, e)) :
      StackStep w .finish ({ f with running := none } :: rest)
  | returns (f : Batch) (rest : List Batch) (hstack : w.stack = f :: rest)
      (hrunning : f.running = none) (hurgent : f.urgentTodo = []) (hnormal : f.normalTodo = [])
      (hchecked : f.checked = true) : StackStep w .returns rest

theorem enqueue_eq (w : CBaseWorker) (job : CBaseJob) (urgent : Bool) : ∃ queue,
    w.enqueue job urgent
      = { w with queue := queue, sending := w.sending.erase (job, urgent) } := by
  simp only [enqueue]
  cases (w.queue urgent).enqueue job with
  | mk q accept =>
    cases accept with
    | true => exact ⟨_, rfl⟩
    | false =>
      cases job with
      | job | exitRequest | unlockJobQueue => exact ⟨_, rfl⟩

/-- The batch of a job whose turn has come changes only in what it runs. -/
theorem runOneJob_stack (w : CBaseWorker) (u : Bool) (e : Entry) (f : Batch) (rest : List Batch)
    (hf : f.running = none) :
    (w.runOneJob u e f rest).stack = { f with running := w.runsNow u e } :: rest := by
  unfold runOneJob runsNow
  simp only []
  split
  · rfl
  · rw [← hf]

/-- **What a step does to the batches.** -/
theorem step_stack (hstep : w.step ev = some w') : StackStep w ev w'.stack := by
  cases ev with
  | tearup | dispatch | endDispatch | leave =>
    obtain ⟨_, rfl⟩ := of_guard hstep
    exact .keep _ rfl
  | processJobQueue =>
    obtain ⟨⟨hphase, hstack⟩, rfl⟩ := of_guard hstep
    show StackStep w .processJobQueue (w.newBatch none :: w.stack)
    rw [hstack]
    exact .processJobQueue hphase hstack
  | flush =>
    obtain ⟨hcode, rfl⟩ := of_guard hstep
    exact .flush hcode
  | processUrgentJobs =>
    obtain ⟨f, rest, hstack, hrunning, hurgent, hchecked, rfl⟩ := processUrgentJobs_cases hstep
    exact .check f rest hstack hrunning hurgent hchecked
  | start =>
    obtain ⟨f, rest, hstack, hrunning,
      ⟨e, es, hurgent, rfl⟩ | ⟨e, es, hurgent, hchecked, hnormal, rfl⟩⟩ := nextJob_cases hstep
    · rw [runOneJob_stack w true e { f with urgentTodo := es } rest hrunning]
      exact .urgent f rest e es hstack hrunning hurgent
    · rw [runOneJob_stack w false e
        { f with normalTodo := es, checked := false, moreJobs := [] } rest hrunning]
      exact .normal f rest e es hstack hrunning hurgent hchecked hnormal
  | finish =>
    obtain ⟨f, rest, u, e, hstack, hrunning, rfl⟩ := finish_cases hstep
    exact .finish f rest u e hstack hrunning
  | returns =>
    obtain ⟨f, rest, hstack, hrunning, hurgent, hnormal, hchecked, rfl⟩ := returns_cases hstep
    exact .returns f rest hstack hrunning hurgent hnormal hchecked
  | send | exit =>
    cases hstep
    unfold send
    split
    · exact .keep _ rfl
    · exact .keep _ rfl
  | enqueue job u =>
    obtain ⟨_, rfl⟩ := of_guard hstep
    obtain ⟨_, heq⟩ := enqueue_eq w job u
    exact heq ▸ .keep _ rfl
  | discardJobs | sizeLimit =>
    cases hstep
    exact .keep _ rfl
  | sendUnlock call u =>
    obtain ⟨_, rfl⟩ := of_guard hstep
    unfold sendUnlock
    split
    · exact .keep _ rfl
    · exact .keep _ rfl

/-! ## §6. What a step does to the rest. -/

/-- The worker without its queues and batches. -/
structure Control where
  mExitCode : Int
  sending : List (CBaseJob × Bool)
  unlocking : List (Nat × Bool)
  flushed : List Nat
  phase : Phase

def CBaseWorker.control (w : CBaseWorker) : Control :=
  ⟨w.mExitCode, w.sending, w.unlocking, w.flushed, w.phase⟩

/-- The events that may leave this as it is. -/
def WorkerEvent.keepsControl : WorkerEvent → Bool
  | .processJobQueue | .flush | .processUrgentJobs | .start | .finish | .send _ _ _ | .exit _
  | .sizeLimit _ _ => true
  | _ => false

/-- What an event does to it. -/
inductive ControlStep (w : CBaseWorker) : WorkerEvent → Control → Prop where
  | keep (ev : WorkerEvent) (hev : ev.keepsControl = true) : ControlStep w ev w.control
  | tearup (ok : Bool) (hphase : w.phase = .starting) :
      ControlStep w (.tearup ok)
        { w.control with mExitCode := 0, phase := if ok then .looping else .returned }
  | dispatch (hphase : w.phase = .looping) (hexit : w.mExitCode = 0) :
      ControlStep w .dispatch { w.control with phase := .dispatching }
  | endDispatch (hphase : w.phase = .dispatching) (hstack : w.stack = []) :
      ControlStep w .endDispatch { w.control with phase := .looping }
  | leave (hphase : w.phase = .looping) (hexit : w.mExitCode ≠ 0) :
      ControlStep w .leave { w.control with phase := .returned }
  | send (id : Nat) (forceRun urgent : Bool) (hexit : w.mExitCode = 0) :
      ControlStep w (.send id forceRun urgent)
        { w.control with sending := (.job id forceRun, urgent) :: w.sending }
  | exit (exitCode : Int) (hexit : w.mExitCode = 0) :
      ControlStep w (.exit exitCode)
        { w.control with sending := (.exitRequest exitCode, false) :: w.sending }
  | enqueue (job : CBaseJob) (urgent : Bool) (hmem : (job, urgent) ∈ w.sending) :
      ControlStep w (.enqueue job urgent)
        { w.control with sending := w.sending.erase (job, urgent) }
  | discardJobs (urgent : Bool) :
      ControlStep w (.discardJobs urgent)
        { w.control with
          unlocking := ((w.queue urgent).discards.length, urgent) :: w.unlocking }
  | sendUnlock (call : Nat) (urgent : Bool) (hmem : (call, urgent) ∈ w.unlocking)
      (hexit : w.mExitCode = 0) :
      ControlStep w (.sendUnlock call urgent)
        { w.control with
          unlocking := w.unlocking.erase (call, urgent)
          sending := (.unlockJobQueue call, urgent) :: w.sending }
  | dropUnlock (call : Nat) (urgent : Bool) (hexit : w.mExitCode ≠ 0) :
      ControlStep w (.sendUnlock call urgent)
        { w.control with unlocking := w.unlocking.erase (call, urgent) }
  | returns (f : Batch) (rest : List Batch) (hstack : w.stack = f :: rest)
      (hnormal : f.normalTodo = []) :
      ControlStep w .returns { w.control with flushed := w.flushed ++ f.flush.toList }
  | exits (urgent : Bool) (exitCode : Int) (n : Nat)
      (hnext : w.next = some (urgent, (.exitRequest exitCode, n)))
      (hran : w.outcome urgent (.exitRequest exitCode) = .ran) :
      ControlStep w .start { w.control with mExitCode := exitCode }

theorem control_send (w : CBaseWorker) (job : CBaseJob) (urgent : Bool) :
    (w.send job urgent).control = w.control
      ∨ w.mExitCode = 0
        ∧ (w.send job urgent).control = { w.control with sending := (job, urgent) :: w.sending } := by
  unfold send
  split
  · exact .inl rfl
  · rename_i hexit
    exact .inr ⟨not_not.mp hexit, rfl⟩

/-- A job's turn changes the exit code if it is an exit request that is run, and nothing else
of this. -/
theorem control_runOneJob (w : CBaseWorker) (urgent : Bool) (e : Entry) (f : Batch)
    (rest : List Batch) :
    (w.runOneJob urgent e f rest).control = w.control
      ∨ ∃ exitCode, e.1 = .exitRequest exitCode ∧ w.outcome urgent e.1 = .ran
        ∧ (w.runOneJob urgent e f rest).control = { w.control with mExitCode := exitCode } := by
  obtain ⟨job, n⟩ := e
  unfold runOneJob
  simp only []
  split
  · rename_i hran
    cases job with
    | job | unlockJobQueue => exact .inl rfl
    | exitRequest exitCode => exact .inr ⟨exitCode, rfl, hran, rfl⟩
  · exact .inl rfl

/-- **What a step does to the rest of the worker.** -/
theorem step_control (hstep : w.step ev = some w') : ControlStep w ev w'.control := by
  cases ev with
  | tearup ok =>
    obtain ⟨hphase, rfl⟩ := of_guard hstep
    exact .tearup ok hphase
  | dispatch =>
    obtain ⟨⟨hphase, hexit⟩, rfl⟩ := of_guard hstep
    exact .dispatch hphase hexit
  | processJobQueue | flush =>
    obtain ⟨_, rfl⟩ := of_guard hstep
    exact .keep _ rfl
  | processUrgentJobs =>
    obtain ⟨f, rest, -, -, -, -, rfl⟩ := processUrgentJobs_cases hstep
    exact .keep _ rfl
  | start =>
    have hturn : ∃ u e f rest, w.next = some (u, e) ∧ w' = w.runOneJob u e f rest := by
      obtain ⟨f, rest, hstack, -, ⟨e, es, hurgent, rfl⟩ | ⟨e, es, hurgent, -, hnormal, rfl⟩⟩ :=
        nextJob_cases hstep
      · exact ⟨true, e, _, rest, next_urgent hstack hurgent, rfl⟩
      · exact ⟨false, e, _, rest, next_normal hstack hurgent hnormal, rfl⟩
    obtain ⟨u, e, f, rest, hnext, rfl⟩ := hturn
    obtain heq | ⟨exitCode, hjob, hran, heq⟩ := control_runOneJob w u e f rest
    · exact heq ▸ .keep _ rfl
    · rw [heq]
      rw [hjob] at hran
      exact .exits u exitCode e.2 (by rw [hnext, ← hjob]) hran
  | finish =>
    obtain ⟨f, rest, u, e, -, -, rfl⟩ := finish_cases hstep
    exact .keep _ rfl
  | returns =>
    obtain ⟨f, rest, hstack, -, -, hnormal, -, rfl⟩ := returns_cases hstep
    exact .returns f rest hstack hnormal
  | endDispatch =>
    obtain ⟨⟨hphase, hstack⟩, rfl⟩ := of_guard hstep
    exact .endDispatch hphase hstack
  | leave =>
    obtain ⟨⟨hphase, hexit⟩, rfl⟩ := of_guard hstep
    exact .leave hphase hexit
  | send id forceRun u =>
    cases hstep
    obtain heq | ⟨hexit, heq⟩ := control_send w (.job id forceRun) u
    · exact heq ▸ .keep _ rfl
    · exact heq ▸ .send id forceRun u hexit
  | exit exitCode =>
    cases hstep
    obtain heq | ⟨hexit, heq⟩ := control_send w (.exitRequest exitCode) false
    · exact heq ▸ .keep _ rfl
    · exact heq ▸ .exit exitCode hexit
  | enqueue job u =>
    obtain ⟨hmem, rfl⟩ := of_guard hstep
    obtain ⟨_, heq⟩ := enqueue_eq w job u
    exact heq ▸ .enqueue job u hmem
  | discardJobs u =>
    cases hstep
    exact .discardJobs u
  | sendUnlock call u =>
    obtain ⟨hmem, rfl⟩ := of_guard hstep
    unfold sendUnlock
    split
    · rename_i hexit
      exact .dropUnlock call u hexit
    · rename_i hexit
      exact .sendUnlock call u hmem (not_not.mp hexit)
  | sizeLimit size u =>
    cases hstep
    exact .keep _ rfl

/-! ## §7. A queue of the worker as a queue emptied in batches. -/

/-- The queue with its history. -/
def Lane.view (l : Lane) : BatchQueue CBaseJob where
  pushed := l.queue.accepted
  queued := l.queue.mJobQueue
  todo := l.todo
  begun := l.queue.begun.map Prod.fst

theorem begin_accepted (l : Lane) (e : Entry) (rest : List Entry) (o : Outcome) :
    (l.begin e rest o).queue.accepted = l.queue.accepted
      ∧ (l.begin e rest o).queue.mJobQueue = l.queue.mJobQueue
      ∧ (l.begin e rest o).queue.discards = l.queue.discards
      ∧ (l.begin e rest o).queue.begun = l.queue.begun ++ [(e, o)]
      ∧ (l.begin e rest o).todo = rest := by
  obtain ⟨job, n⟩ := e
  unfold Lane.begin
  split
  · cases job with
    | job | exitRequest | unlockJobQueue => exact ⟨rfl, rfl, rfl, rfl, rfl⟩
  · exact ⟨rfl, rfl, rfl, rfl, rfl⟩

theorem view_begin (l : Lane) (e : Entry) (rest : List Entry) (o : Outcome) :
    (l.begin e rest o).view = l.view.start e rest := by
  obtain ⟨haccepted, hqueue, -, hbegun, htodo⟩ := begin_accepted l e rest o
  unfold Lane.view BatchQueue.start
  rw [haccepted, hqueue, hbegun, htodo, map_append]
  rfl

/-- **A queue of the worker is a queue emptied in batches**: a step leaves it as it is, pushes
the job that is enqueued, takes what is queued, or begins what comes next. -/
theorem LaneStep.view_cases {l : Lane} (h : LaneStep w v ev l) :
    l.view = (w.lane v).view
      ∨ (∃ job, ev = .enqueue job v ∧ l.view = (w.lane v).view.push job)
      ∨ (ev.takes v = true ∧ l.view = (w.lane v).view.take)
      ∨ (ev = .start ∧ ∃ e rest, (w.lane v).view.todo = e :: rest
        ∧ l.view = (w.lane v).view.start e rest) := by
  cases h with
  | keep | sizeLimit | refuse | dropUnlock | discard | finish => exact .inl rfl
  | push job hroom => exact .inr (.inl ⟨job, rfl, rfl⟩)
  | take _ hev => exact .inr (.inr (.inl ⟨hev, rfl⟩))
  | begin e rest _ htodo => exact .inr (.inr (.inr ⟨rfl, e, rest, htodo, view_begin _ e rest _⟩))

theorem accounted_step (h : (w.lane v).view.Accounted)
    (hstep : w.step ev = some w') : (w'.lane v).view.Accounted := by
  obtain heq | ⟨job, _, heq⟩ | ⟨_, heq⟩ | ⟨_, e, rest, htodo, heq⟩ :=
    (step_lane hstep v).view_cases
  · exact heq ▸ h
  · exact heq ▸ h.push job
  · exact heq ▸ h.take
  · exact heq ▸ h.start htodo

/-- As long as batches are not nested in one with jobs of this queue left, its jobs begin in
the order they were accepted. -/
theorem ordered_step (h : (w.lane v).view.Ordered)
    (hstep : w.step ev = some w') (htake : ev.takes v = true → (w.lane v).todo = []) :
    (w'.lane v).view.Ordered := by
  obtain heq | ⟨job, _, heq⟩ | ⟨hev, heq⟩ | ⟨_, e, rest, htodo, heq⟩ :=
    (step_lane hstep v).view_cases
  · exact heq ▸ h
  · exact heq ▸ h.push job
  · exact heq ▸ h.take (htake hev)
  · exact heq ▸ h.start htodo

section Ordered

variable (h : (w.lane v).view.Ordered)
include h

/-- A queue whose jobs are processed in order: the `n`-th job to begin is the `n`-th that was
accepted. -/
theorem begun_of_ordered :
    (w.queue v).begun.map Prod.fst
      = (w.queue v).accepted.zipIdx.take (w.queue v).begun.length := by
  have hbegun := h.begun_eq
  rwa [show (w.lane v).view.begun = (w.queue v).begun.map Prod.fst from rfl,
    length_map] at hbegun

theorem begunJobs_of_ordered :
    (w.queue v).begun.map (fun p => p.1.1)
      = (w.queue v).accepted.take (w.queue v).begun.length := by
  have hjobs := h.map_begun
  rwa [show (w.lane v).view.begun = (w.queue v).begun.map Prod.fst from rfl, List.map_map,
    length_map] at hjobs

theorem length_of_ordered :
    (w.queue v).begun.length + (w.lane v).todo.length + (w.queue v).mJobQueue.length
      = (w.queue v).accepted.length := by
  have hlength := h.length_eq
  rwa [show (w.lane v).view.begun = (w.queue v).begun.map Prod.fst from rfl,
    length_map] at hlength

end Ordered

section

variable (hstep : w.step ev = some w')

include hstep

/-- The queue grows only by what is enqueued. -/
theorem queue_nil (hev : ∀ job, ev ≠ .enqueue job v) (h : (w.queue v).mJobQueue = []) :
    (w'.queue v).mJobQueue = [] := by
  obtain heq | ⟨job, rfl, _⟩ | ⟨_, heq⟩ | ⟨_, e, rest, _, heq⟩ := (step_lane hstep v).view_cases
  · exact (congrArg BatchQueue.queued heq).trans h
  · exact absurd rfl (hev job)
  · exact congrArg BatchQueue.queued heq
  · exact (congrArg BatchQueue.queued heq).trans h

/-- A batch takes what is queued. -/
theorem queue_taken (hev : ev.takes v = true) : (w'.queue v).mJobQueue = [] := by
  have hlane := step_lane hstep v
  generalize hl : w'.lane v = l at hlane
  have hq : w'.queue v = l.queue := congrArg Lane.queue hl
  rw [hq]
  cases hlane with
  | keep _ hkeep =>
    cases ev with
    | processJobQueue | flush => cases hkeep
    | processUrgentJobs => exact absurd (hev.symm.trans hkeep) nofun
    | _ => cases hev
  | take _ _ => rfl
  | _ => cases hev

/-- Exit requests are sent by `exit`, and to the normal queue. -/
theorem exitSending_step (hev : v = false → ∀ exitCode, ev ≠ .exit exitCode)
    (h : ∀ exitCode, (.exitRequest exitCode, v) ∉ w.sending) (exitCode : Int) :
    (.exitRequest exitCode, v) ∉ w'.sending := by
  have hc := step_control hstep
  have hsending : w'.sending = w'.control.sending := rfl
  rw [hsending]
  generalize w'.control = c at hc
  have hcons : ∀ {job : CBaseJob} {urgent : Bool}, (.exitRequest exitCode, v) ≠ (job, urgent) →
      (.exitRequest exitCode, v) ∉ (job, urgent) :: w.sending :=
    fun hne => not_mem_cons_of_ne_of_not_mem hne (h exitCode)
  cases hc with
  | send | sendUnlock => exact hcons nofun
  | exit code _ =>
    refine hcons fun heq => ?_
    have hv : v = false := congrArg Prod.snd heq
    exact hev hv code rfl
  | enqueue job urgent _ => exact fun hmem => h exitCode (mem_of_mem_erase hmem)
  | _ => exact h exitCode

/-- What is accepted was sent. -/
theorem exitAccepted_step (hsending : ∀ exitCode, (.exitRequest exitCode, v) ∉ w.sending)
    (h : ∀ exitCode, .exitRequest exitCode ∉ (w.queue v).accepted) (exitCode : Int) :
    .exitRequest exitCode ∉ (w'.queue v).accepted := by
  obtain heq | ⟨job, rfl, heq⟩ | ⟨_, heq⟩ | ⟨_, e, rest, _, heq⟩ := (step_lane hstep v).view_cases
  all_goals rw [show (w'.queue v).accepted = _ from congrArg BatchQueue.pushed heq]
  · exact h exitCode
  · intro hmem
    rcases mem_append.mp hmem with hmem | hmem
    · exact h exitCode hmem
    · have hjob : .exitRequest exitCode = job := mem_singleton.mp hmem
      exact hsending exitCode (hjob ▸ (of_guard hstep).1)
  · exact h exitCode
  · exact h exitCode

/-- What has begun stays so. -/
theorem begun_length_le : (w.queue v).begun.length ≤ (w'.queue v).begun.length := by
  have hview := (step_lane hstep v).view_cases
  have hlength : ∀ u : CBaseWorker, (u.queue v).begun.length = (u.lane v).view.begun.length := by
    intro u
    exact (length_map Prod.fst).symm
  rw [hlength w, hlength w']
  obtain heq | ⟨job, _, heq⟩ | ⟨_, heq⟩ | ⟨_, e, rest, _, heq⟩ := hview
  · rw [heq]
  · rw [heq]
    exact le_rfl
  · rw [heq]
    exact le_rfl
  · rw [heq]
    simp only [BatchQueue.start, length_append]
    omega

end

/-- The job whose turn comes next was accepted. -/
theorem next_accepted (h : (w.lane v).view.Accounted) (hnext : w.next = some (v, e)) :
    e.1 ∈ (w.queue v).accepted := by
  obtain ⟨rest, htodo⟩ := next_todo hnext
  have hmem : e ∈ (w.queue v).accepted.zipIdx := by
    refine h.mem_iff.mp (mem_append_left _ (mem_append_right _ ?_))
    show e ∈ (w.lane v).todo
    rw [htodo]
    exact mem_cons_self
  exact mem_of_getElem? (mk_mem_zipIdx_iff_getElem?.mp hmem)

section Runs

variable {normalSize urgentSize : Nat} {events : List WorkerEvent}

/-- In every run each accepted job is begun, in a batch or queued, and that once. -/
theorem accounted_run
    (hrun : run step (start normalSize urgentSize) events = some w)
    (v : Bool) : (w.lane v).view.Accounted :=
  run_along (G := fun _ _ => True) (P := fun w => (w.lane v).view.Accounted)
    (fun _ _ _ _ h hstep => accounted_step h hstep) (List.Perm.refl []) (along_true _ events _) hrun

/-- Job 1 runs and flushes: job 2 is left in its batch, and job 3 is in a batch of its own. -/
theorem accounted_run_one :
    ∃ w, run step (start 0 0) [.tearup true, .send 1 false false, .enqueue (.job 1 false) false,
        .send 2 false false, .enqueue (.job 2 false) false, .dispatch, .processJobQueue,
        .processUrgentJobs, .start, .send 3 false false, .enqueue (.job 3 false) false, .flush]
          = some w
      ∧ w.stack.map (fun f => f.todo false) = [[(.job 3 false, 2)], [(.job 2 false, 1)]]
      ∧ (w.lane false).view.Accounted := by
  refine ⟨?w, ?run, ?_, accounted_run ?run false⟩
  case run => rfl
  rfl

/-! ## §8. What has begun has ended or runs. -/

/-- A job whose turn has come was terminated or runs, and only such jobs were terminated. -/
structure Lane.Followed (l : Lane) : Prop where
  begun : ∀ p ∈ l.queue.begun, p.1.2 ∈ l.queue.terminated ∨ p.2 = .ran ∧ p.1 ∈ l.running
  terminated : ∀ n ∈ l.queue.terminated, ∃ p ∈ l.queue.begun, p.1.2 = n
  running : ∀ e ∈ l.running, ∃ p ∈ l.queue.begun, p.1 = e

theorem Lane.Followed.begin {l : Lane} (h : l.Followed) (e : Entry) (rest : List Entry)
    (o : Outcome) : (l.begin e rest o).Followed := by
  -- the turn of `e` is the last one of the history now
  have hkey : ∀ (q : CJobQueue) (running : List Entry), q.begun = l.queue.begun ++ [(e, o)] →
      l.queue.terminated ⊆ q.terminated → q.terminated ⊆ l.queue.terminated ++ [e.2] →
      l.running ⊆ running → running ⊆ e :: l.running →
      (e.2 ∈ q.terminated ∨ o = .ran ∧ e ∈ running) → Lane.Followed ⟨q, rest, running⟩ := by
    intro q running hbegun hterm hterm' hrun hrun' hnew
    have hmem : ∀ p, p ∈ q.begun ↔ p ∈ l.queue.begun ∨ p = (e, o) := by
      intro p
      rw [hbegun, mem_append, mem_singleton]
    refine ⟨fun p hp => ?_, fun n hn => ?_, fun x hx => ?_⟩
    · rcases (hmem p).mp hp with hp | rfl
      · rcases h.begun p hp with hp | ⟨ho, hp⟩
        · exact .inl (hterm hp)
        · exact .inr ⟨ho, hrun hp⟩
      · exact hnew
    · rcases mem_append.mp (hterm' hn) with hn | hn
      · obtain ⟨p, hp, hpn⟩ := h.terminated n hn
        exact ⟨p, (hmem p).mpr (.inl hp), hpn⟩
      · exact ⟨(e, o), (hmem _).mpr (.inr rfl), (mem_singleton.mp hn).symm⟩
    · rcases mem_cons.mp (hrun' hx) with rfl | hx
      · exact ⟨(x, o), (hmem _).mpr (.inr rfl), rfl⟩
      · obtain ⟨p, hp, hpx⟩ := h.running x hx
        exact ⟨p, (hmem p).mpr (.inl hp), hpx⟩
  have hran : ∀ q : CJobQueue, q.begun = l.queue.begun ++ [(e, o)] →
      q.terminated = l.queue.terminated → o = .ran →
      Lane.Followed ⟨q, rest, e :: l.running⟩ := by
    intro q hbegun hterm ho
    exact hkey q _ hbegun (hterm ▸ List.Subset.refl _)
      (hterm ▸ subset_append_left _ _) (subset_cons_self _ _) (List.Subset.refl _)
      (.inr ⟨ho, mem_cons_self⟩)
  unfold Lane.begin
  split
  · rename_i ho
    split
    · exact hran _ rfl rfl ho
    · exact hran _ rfl rfl ho
  · exact hkey _ _ rfl (subset_append_left _ _) (List.Subset.refl _) (List.Subset.refl _)
      (subset_cons_self _ _) (.inl (mem_append_right _ (mem_singleton_self _)))

theorem Lane.Followed.finish {l : Lane} (h : l.Followed) {e : Entry} {rest : List Entry}
    (hrunning : l.running = e :: rest) :
    Lane.Followed { l with
      queue := { l.queue with terminated := l.queue.terminated ++ [e.2] }
      running := rest } := by
  refine ⟨fun p hp => ?_, fun n hn => ?_, fun x hx => ?_⟩
  · rcases h.begun p hp with hp | ⟨ho, hp⟩
    · exact .inl (mem_append_left _ hp)
    · rw [hrunning] at hp
      rcases mem_cons.mp hp with hp | hp
      · exact .inl (mem_append_right _ (by rw [hp]; exact mem_singleton_self _))
      · exact .inr ⟨ho, hp⟩
  · rcases mem_append.mp hn with hn | hn
    · exact h.terminated n hn
    · obtain ⟨p, hp, hpe⟩ := h.running e (by rw [hrunning]; exact mem_cons_self)
      exact ⟨p, hp, by rw [hpe, mem_singleton.mp hn]⟩
  · exact h.running x (by rw [hrunning]; exact mem_cons_of_mem e hx)

theorem LaneStep.followed {ev : WorkerEvent} {l : Lane} (h : LaneStep w v ev l)
    (hw : (w.lane v).Followed) : l.Followed := by
  cases h with
  | keep _ _ => exact hw
  | sizeLimit | push | refuse | dropUnlock | discard | take =>
    exact ⟨hw.begun, hw.terminated, hw.running⟩
  | begin e rest _ _ => exact hw.begin e rest _
  | finish e rest hrunning => exact hw.finish hrunning

/-- In every run, what has begun was terminated or runs. -/
theorem followed
    (hrun : run step (start normalSize urgentSize) events = some w)
    (v : Bool) : (w.lane v).Followed := by
  refine run_along (G := fun _ _ => True) (P := fun w => (w.lane v).Followed)
    (fun _ _ _ _ h hstep => (step_lane hstep v).followed h) ⟨nofun, nofun, nofun⟩
    (along_true _ events _) hrun

end Runs

end Fdbus.Worker

/-
  Fdbus.Worker.Flush — the order of the normal queue, and `flush` as a barrier.

  A `flush` from another thread sends an empty job and waits until it is terminated; it also
  returns when the job is refused and when its wait ends without that.  A `flush` on the worker
  itself, from a job or a callback, processes what is queued as a batch of its own; what an
  enclosing batch has not begun yet is not queued any more, so it is overtaken and left behind.

    * `FlushedWorker` — a worker with the flushes of other threads,
    * `flush_is_barrier` — if no batch around a flush on the worker has normal jobs left, no normal
      job is dropped at exit, and the flushes of other threads are for the normal queue, are not
      refused and wait until the end, the normal jobs begin in the order they were accepted and a
      flush that has returned was preceded by all jobs accepted before it,
    * `flush_overtakes` — a job that flushes its worker with another one left in its batch.
-/
import Fdbus.Worker.JobQueue

namespace Fdbus.Worker

open Fdbus.Run List Option

variable {w w' : CBaseWorker}

/-- A flush on the worker itself is not made inside a batch with normal jobs left, and no normal
job's turn comes while the worker exits. -/
def FlushesLast (w : CBaseWorker) : WorkerEvent → Prop
  | .flush => (w.lane false).todo = []
  | .start => w.next.map Prod.fst = some false → w.mExitCode = 0
  | _ => True

instance (w : CBaseWorker) : ∀ ev, Decidable (FlushesLast w ev)
  | .flush => inferInstanceAs (Decidable ((w.lane false).todo = []))
  | .start => inferInstanceAs (Decidable (w.next.map Prod.fst = some false → w.mExitCode = 0))
  | .tearup _ | .dispatch | .processJobQueue | .processUrgentJobs | .finish | .returns
  | .endDispatch | .leave | .send _ _ _ | .exit _ | .enqueue _ _ | .discardJobs _
  | .sendUnlock _ _ | .sizeLimit _ _ => isTrue trivial

/-- The normal job with this number was discarded, has been run, or runs further down the
worker's stack. -/
def CBaseWorker.Processed (w : CBaseWorker) (n : Nat) : Prop :=
  ∃ p ∈ (w.queue false).begun, p.1.2 = n
    ∧ (p.2 = .discarded
      ∨ p.2 = .ran ∧ (n ∈ (w.queue false).terminated ∨ p.1 ∈ (w.lane false).running))

/-- A `flush` of another thread that has not returned: its empty job and the queue that it is for,
how many normal jobs had been accepted when it was called, and the number of its job once that is
accepted. -/
structure FlushCall where
  id : Nat
  urgent : Bool
  mark : Nat
  number : Option Nat
  deriving DecidableEq

/-- A worker with the flushes of other threads that have not returned, and the marks of those that
have. -/
structure FlushedWorker extends CBaseWorker where
  calls : List FlushCall
  returned : List Nat

inductive FlushEvent where
  | worker (ev : WorkerEvent)
  | flush (id : Nat) (urgent : Bool)
  | enqueue (c : FlushCall)
  | wakeup (c : FlushCall) (terminated : Bool)

/-- The call returns. -/
def FlushedWorker.returnsFrom (s : FlushedWorker) (c : FlushCall) : FlushedWorker :=
  { s with calls := s.calls.erase c, returned := s.returned ++ [c.mark] }

/-- One step of the worker, or of a flush of another thread: the call, up to the look at the exit
code; the enqueuing of its job; and the end of its wait, by `terminate` or by the time. -/
def FlushedWorker.step (s : FlushedWorker) : FlushEvent → Option FlushedWorker
  | .worker ev => (s.toCBaseWorker.step ev).map fun w => { s with toCBaseWorker := w }
  | .flush id urgent =>
    let mark := (s.queue false).accepted.length
    if s.mExitCode ≠ 0 then some { s with returned := s.returned ++ [mark] }
    else (s.toCBaseWorker.step (.send id false urgent)).map fun w =>
      { s with toCBaseWorker := w, calls := ⟨id, urgent, mark, none⟩ :: s.calls }
  | .enqueue c =>
    if c ∈ s.calls ∧ c.number = none then
      (s.toCBaseWorker.step (.enqueue (.job c.id false) c.urgent)).map fun w =>
        let s' := { s with toCBaseWorker := w }
        if (s.queue c.urgent).HasRoom then
          { s' with
            calls := { c with number := some (s.queue c.urgent).accepted.length }
              :: s.calls.erase c }
        else s'.returnsFrom c
    else none
  | .wakeup c terminated =>
    if c ∈ s.calls ∧ ∃ n ∈ c.number, terminated = true → n ∈ (s.queue c.urgent).terminated then
      some (s.returnsFrom c)
    else none

/-- The worker goes on as `FlushesLast` says, and a flush of another thread is for the normal queue,
is not refused and is woken by `terminate`. -/
def FlushesWait (s : FlushedWorker) : FlushEvent → Prop
  | .worker ev => FlushesLast s.toCBaseWorker ev
  | .flush _ urgent => s.mExitCode = 0 ∧ urgent = false
  | .enqueue c => (s.queue c.urgent).HasRoom
  | .wakeup _ terminated => terminated = true

instance (s : FlushedWorker) : ∀ ev, Decidable (FlushesWait s ev)
  | .worker ev => inferInstanceAs (Decidable (FlushesLast s.toCBaseWorker ev))
  | .flush _ urgent => inferInstanceAs (Decidable (s.mExitCode = 0 ∧ urgent = false))
  | .enqueue c => inferInstanceAs (Decidable (s.queue c.urgent).HasRoom)
  | .wakeup _ terminated => inferInstanceAs (Decidable (terminated = true))

/-- Normal jobs begin in the order they were accepted.  When a flush has returned, on the worker
itself or from another thread, all normal jobs accepted before it are processed. -/
structure FlushedWorker.FlushIsBarrier (s : FlushedWorker) : Prop where
  order : (s.queue false).begun.map Prod.fst
    = (s.queue false).accepted.zipIdx.take (s.queue false).begun.length
  self : ∀ mark ∈ s.flushed, ∀ n < mark, s.Processed n
  other : ∀ mark ∈ s.returned, ∀ n < mark, s.Processed n

/-! ## §1. What holds throughout. -/

/-- No batch around another one has normal jobs left. -/
def Nested : List Batch → Prop
  | [] => True
  | _ :: rest => rest.flatMap (Batch.todo false) = [] ∧ Nested rest

/-- The normal queue is processed in order.  A flush under way was called when at least the
jobs now queued had not been accepted, and one that has returned found all jobs before it
begun. -/
structure FlushOk (w : CBaseWorker) : Prop where
  ordered : (w.lane false).view.Ordered
  nested : Nested w.stack
  ran : ∀ p ∈ (w.queue false).begun, p.2 ≠ .exiting
  marks : ∀ mark ∈ w.stack.filterMap Batch.flush,
    mark + (w.queue false).mJobQueue.length ≤ (w.queue false).accepted.length
  flushed : ∀ mark ∈ w.flushed, mark ≤ (w.queue false).begun.length

theorem flushOk_start (normalSize urgentSize : Nat) :
    FlushOk (CBaseWorker.start normalSize urgentSize) :=
  ⟨rfl, trivial, nofun, nofun, nofun⟩

/-! ## §2. Steps. -/

variable {ev : WorkerEvent}

/-- A batch takes normal jobs only when those of the batches around it are begun. -/
theorem todo_nil_of_takes (hg : FlushesLast w ev) (hstep : w.step ev = some w')
    (hev : ev.takes false = true) : (w.lane false).todo = [] := by
  cases ev with
  | processJobQueue =>
    show w.stack.flatMap (Batch.todo false) = []
    rw [(of_guard hstep).1.2]
    rfl
  | flush => exact hg
  | _ => cases hev

theorem nested_step (hg : FlushesLast w ev) (h : Nested w.stack)
    (hstep : w.step ev = some w') : Nested w'.stack := by
  have hs := step_stack hstep
  generalize w'.stack = stack at hs
  cases hs with
  | keep => exact h
  | processJobQueue => exact ⟨rfl, trivial⟩
  | flush => exact ⟨hg, h⟩
  | check f rest hw | urgent f rest e es hw | normal f rest e es hw | finish f rest u e hw =>
    -- only the innermost batch changes, and nothing is asked of its own jobs
    rw [hw] at h
    exact h
  | returns f rest hw =>
    rw [hw] at h
    exact h.2

theorem ran_step (hg : FlushesLast w ev)
    (h : ∀ p ∈ (w.queue false).begun, p.2 ≠ .exiting) (hstep : w.step ev = some w') :
    ∀ p ∈ (w'.queue false).begun, p.2 ≠ .exiting := by
  have hlane := step_lane hstep false
  show ∀ p ∈ (w'.lane false).queue.begun, p.2 ≠ .exiting
  generalize w'.lane false = l at hlane
  cases hlane with
  | begin e rest hnext htodo =>
    obtain ⟨-, -, -, hbegun, -⟩ := begin_accepted (w.lane false) e rest (w.outcome false e.1)
    rw [hbegun]
    refine forall_mem_append.mpr ⟨h, forall_mem_singleton.mpr ?_⟩
    -- a normal job is dropped at exit only while the exit code is set
    unfold CBaseWorker.outcome
    rw [hg (by rw [hnext]; rfl)]
    simp only [decide_true, Bool.or_true, if_true]
    split <;> nofun
  | _ => exact h

/-- The flushes under way after a step are those before it, and the one that begins. -/
theorem flush_mark (hstep : w.step ev = some w') {mark : Nat}
    (hmark : mark ∈ w'.stack.filterMap Batch.flush) :
    mark ∈ w.stack.filterMap Batch.flush
      ∨ ev = .flush ∧ mark = (w.queue false).accepted.length := by
  have hs := step_stack hstep
  generalize w'.stack = stack at hs hmark
  cases hs with
  | keep => exact .inl hmark
  | processJobQueue => cases hmark
  | flush =>
    rcases mem_cons.mp hmark with hmark | hmark
    · exact .inr ⟨rfl, hmark⟩
    · exact .inl hmark
  | check f rest hw | urgent f rest e es hw | normal f rest e es hw | finish f rest u e hw =>
    rw [hw]
    exact .inl hmark
  | returns f rest hw =>
    rw [hw, filterMap_cons]
    left
    split
    · exact hmark
    · exact mem_cons_of_mem _ hmark

/-- What is accepted stays accepted, and those accepted and not queued any more do not get
fewer. -/
theorem accepted_le_step {v : Bool} {ev : WorkerEvent} (hstep : w.step ev = some w') :
    (w.queue v).accepted.length ≤ (w'.queue v).accepted.length
      ∧ (w.queue v).accepted.length + (w'.queue v).mJobQueue.length
        ≤ (w'.queue v).accepted.length + (w.queue v).mJobQueue.length := by
  show (w.lane v).view.pushed.length ≤ (w'.lane v).view.pushed.length
    ∧ (w.lane v).view.pushed.length + (w'.lane v).view.queued.length
      ≤ (w'.lane v).view.pushed.length + (w.lane v).view.queued.length
  obtain heq | ⟨job, _, heq⟩ | ⟨_, heq⟩ | ⟨_, e, rest, _, heq⟩ := (step_lane hstep v).view_cases
  · rw [heq]
    exact ⟨le_rfl, le_rfl⟩
  · rw [heq]
    simp only [BatchQueue.push, length_append, length_singleton]
    omega
  · rw [heq]
    exact ⟨le_rfl, Nat.le_add_right _ _⟩
  · rw [heq]
    exact ⟨le_rfl, le_rfl⟩

theorem marks_step (h : FlushOk w) (hstep : w.step ev = some w') {mark : Nat}
    (hmark : mark ∈ w'.stack.filterMap Batch.flush) :
    mark + (w'.queue false).mJobQueue.length ≤ (w'.queue false).accepted.length := by
  obtain ⟨haccepted, hqueued⟩ := accepted_le_step (v := false) hstep
  rcases flush_mark hstep hmark with hold | ⟨rfl, rfl⟩
  · have hle := h.marks mark hold
    omega
  · -- a flush that begins takes all that is queued
    rw [queue_taken (v := false) hstep rfl]
    exact haccepted

/-- A flush returns when all jobs accepted before it have begun. -/
theorem returns_mark (h : FlushOk w) {f : Batch} {rest : List Batch} (hw : w.stack = f :: rest)
    (hnormal : f.normalTodo = []) {mark : Nat} (hmark : mark ∈ f.flush.toList) :
    mark ≤ (w.queue false).begun.length := by
  have hnested := h.nested
  rw [hw] at hnested
  -- nothing is left here, and nothing further out
  have htodo : (w.lane false).todo = [] := by
    show w.stack.flatMap (Batch.todo false) = []
    rw [hw, flatMap_cons, hnested.1, show f.todo false = [] from hnormal, nil_append]
  have hunder : mark ∈ w.stack.filterMap Batch.flush := by
    rw [hw]
    exact mem_filterMap.mpr ⟨f, mem_cons_self, mem_toList.mp hmark⟩
  have hle := h.marks mark hunder
  have hlength := length_of_ordered h.ordered
  rw [htodo, length_nil] at hlength
  omega

theorem flushed_step (h : FlushOk w) (hstep : w.step ev = some w') :
    ∀ mark ∈ w'.flushed, mark ≤ (w'.queue false).begun.length := by
  intro mark hmark
  refine Nat.le_trans ?_ (begun_length_le hstep)
  have hc := step_control hstep
  have hflushed : w'.flushed = w'.control.flushed := rfl
  rw [hflushed] at hmark
  generalize w'.control = c at hc hmark
  cases hc with
  | returns f rest hw hnormal =>
    rcases mem_append.mp hmark with hmark | hmark
    · exact h.flushed mark hmark
    · exact returns_mark h hw hnormal hmark
  | _ => exact h.flushed mark hmark

theorem FlushOk.step (hg : FlushesLast w ev) (h : FlushOk w)
    (hstep : w.step ev = some w') : FlushOk w' :=
  ⟨ordered_step h.ordered hstep (todo_nil_of_takes hg hstep), nested_step hg h.nested hstep,
    ran_step hg h.ran hstep, fun _ hmark => marks_step h hstep hmark, flushed_step h hstep⟩

/-! ## §3. Runs. -/

/-- A job whose turn has come is processed, if it was not dropped at exit. -/
theorem FlushOk.processed (h : FlushOk w) (hfollowed : (w.lane false).Followed) {n : Nat}
    (hn : n < (w.queue false).begun.length) : w.Processed n := by
  have hlen : n < (w.lane false).view.begun.length := by
    show n < ((w.queue false).begun.map Prod.fst).length
    rwa [length_map]
  have hp := getElem?_eq_getElem hn
  have hmem := mem_of_getElem? hp
  have hnumber : (w.queue false).begun[n].1.2 = n := by
    have hview := h.ordered.getElem?_begun hlen
    rw [show (w.lane false).view.begun[n]? = ((w.queue false).begun.map Prod.fst)[n]? from rfl,
      getElem?_map, hp, map_some] at hview
    obtain ⟨job, -, heq⟩ := map_eq_some_iff.mp hview.symm
    rw [← heq]
  refine ⟨_, hmem, hnumber, ?_⟩
  cases ho : (w.queue false).begun[n].2 with
  | discarded => exact .inl rfl
  | exiting => exact absurd ho (h.ran _ hmem)
  | ran =>
    rcases hfollowed.begun _ hmem with hterm | ⟨-, hrunning⟩
    · exact .inr ⟨rfl, .inl (hnumber ▸ hterm)⟩
    · exact .inr ⟨rfl, .inr hrunning⟩

/-- What the flushes of other threads keep: the job of a call comes behind what was accepted before
the call, and a call that has returned found that begun. -/
structure CallsOk (s : FlushedWorker) : Prop where
  ok : FlushOk s.toCBaseWorker
  followed : (s.lane false).Followed
  calls : ∀ c ∈ s.calls, c.urgent = false ∧ c.mark ≤ (s.queue false).accepted.length
    ∧ ∀ n ∈ c.number, c.mark ≤ n
  returned : ∀ mark ∈ s.returned, mark ≤ (s.queue false).begun.length

section Calls

variable {s s' : FlushedWorker}

/-- The worker makes a step. -/
theorem CallsOk.worker (h : CallsOk s) (hstep : s.toCBaseWorker.step ev = some w)
    (hg : FlushesLast s.toCBaseWorker ev) : CallsOk { s with toCBaseWorker := w } := by
  refine ⟨h.ok.step hg hstep, (step_lane hstep false).followed h.followed, fun c hc => ?_,
    fun mark hmark => (h.returned mark hmark).trans (begun_length_le hstep)⟩
  obtain ⟨hurgent, hmark, hnumber⟩ := h.calls c hc
  exact ⟨hurgent, hmark.trans (accepted_le_step hstep).1, hnumber⟩

/-- A job that was terminated had begun, and so had those before it. -/
theorem CallsOk.lt_begun (h : CallsOk s) {n : Nat} (hn : n ∈ (s.queue false).terminated) :
    n < (s.queue false).begun.length := by
  obtain ⟨p, hp, hpn⟩ := h.followed.terminated n hn
  have hlt := h.ok.ordered.lt_of_mem_begun (mem_map_of_mem (f := Prod.fst) hp)
  rwa [show (s.lane false).view.begun = (s.queue false).begun.map Prod.fst from rfl,
    length_map, hpn] at hlt

theorem CallsOk.step {ev : FlushEvent} (hg : FlushesWait s ev) (h : CallsOk s)
    (hstep : s.step ev = some s') : CallsOk s' := by
  cases ev with
  | worker ev =>
    obtain ⟨w, hw, rfl⟩ := map_eq_some_iff.mp hstep
    exact h.worker hw hg
  | flush id urgent =>
    obtain ⟨hexit, rfl⟩ := hg
    simp only [FlushedWorker.step, if_neg (not_not.mpr hexit)] at hstep
    obtain ⟨w, hw, rfl⟩ := map_eq_some_iff.mp hstep
    have hnext := h.worker hw trivial
    refine ⟨hnext.ok, hnext.followed, forall_mem_cons.mpr ⟨⟨rfl, ?_, nofun⟩, hnext.calls⟩,
      hnext.returned⟩
    exact (accepted_le_step hw).1
  | enqueue c =>
    obtain ⟨⟨hc, -⟩, hstep⟩ := ite_none_right_eq_some.mp hstep
    obtain ⟨w, hw, rfl⟩ := map_eq_some_iff.mp hstep
    have hnext := h.worker hw trivial
    obtain ⟨hurgent, hmark, -⟩ := h.calls c hc
    simp only [if_pos (show (s.queue c.urgent).HasRoom from hg)]
    refine ⟨hnext.ok, hnext.followed, forall_mem_cons.mpr ⟨⟨hurgent, ?_, ?_⟩, fun c' hc' =>
      hnext.calls c' (mem_of_mem_erase hc')⟩, hnext.returned⟩
    · exact (hnext.calls c hc).2.1
    · -- its number is how many were accepted before it
      intro n hn
      obtain rfl := some.inj hn
      rw [hurgent]
      exact hmark
  | wakeup c terminated =>
    obtain ⟨⟨hc, n, hn, hterm⟩, rfl⟩ := of_guard hstep
    obtain ⟨hurgent, -, hnumber⟩ := h.calls c hc
    rw [hurgent] at hterm
    have hbegun := h.lt_begun (hterm hg)
    have hmark := hnumber n hn
    refine ⟨h.ok, h.followed, fun c' hc' => h.calls c' (mem_of_mem_erase hc'),
      forall_mem_append.mpr ⟨h.returned, forall_mem_singleton.mpr ?_⟩⟩
    show c.mark ≤ (s.queue false).begun.length
    omega

end Calls

/-- A worker that has not been started, and no flushes. -/
def FlushedWorker.start (normalSize urgentSize : Nat) : FlushedWorker :=
  { CBaseWorker.start normalSize urgentSize with calls := [], returned := [] }

theorem callsOk_start (normalSize urgentSize : Nat) :
    CallsOk (FlushedWorker.start normalSize urgentSize) :=
  ⟨flushOk_start normalSize urgentSize, ⟨nofun, nofun, nofun⟩, nofun, nofun⟩

/-- **Flush is a barrier and the normal queue is in order**, in every run in which a flush on the
worker itself is made only when no batch around it has normal jobs left, no normal job's turn comes
while the worker exits, and the flushes of other threads are for the normal queue, are not refused
and end by `terminate`. -/
theorem flush_is_barrier {normalSize urgentSize : Nat} {events : List FlushEvent} {s : FlushedWorker}
    (hwait : Along FlushedWorker.step FlushesWait (.start normalSize urgentSize) events)
    (hrun : run FlushedWorker.step (.start normalSize urgentSize) events = some s) :
    s.FlushIsBarrier := by
  have h : CallsOk s := run_along (fun _ _ _ hg h hstep => h.step hg hstep)
    (callsOk_start normalSize urgentSize) hwait hrun
  refine ⟨begun_of_ordered h.ok.ordered, fun mark hmark n hn => ?_, fun mark hmark n hn => ?_⟩
  · exact h.ok.processed h.followed (hn.trans_le (h.ok.flushed mark hmark))
  · exact h.ok.processed h.followed (hn.trans_le (h.returned mark hmark))

/-- Jobs 10 and 11 are sent, and while the worker runs job 10 of this batch, job 12 is sent. -/
def sentWhileRunning : List WorkerEvent :=
  [.tearup true, .send 10 false false, .enqueue (.job 10 false) false, .send 11 false false,
    .enqueue (.job 11 false) false, .dispatch, .processJobQueue, .processUrgentJobs, .start,
    .send 12 false false, .enqueue (.job 12 false) false]

/-- A flush that finds one job queued. -/
def flushOne : List WorkerEvent :=
  [.flush, .processUrgentJobs, .start, .finish, .processUrgentJobs, .returns]

/-- Another thread flushes the worker while job 10 runs.  Job 11, the last one of its batch, flushes
it too, which runs job 12 and the job of the other flush. -/
def flushedTwice : List FlushEvent :=
  sentWhileRunning.map FlushEvent.worker ++ [.flush 20 false, .enqueue ⟨20, false, 3, none⟩]
    ++ [.finish, .processUrgentJobs, .start, .flush, .processUrgentJobs, .start, .finish,
      .processUrgentJobs, .start, .finish, .processUrgentJobs, .returns].map FlushEvent.worker
    ++ [.wakeup ⟨20, false, 3, some 3⟩ true]

theorem flush_is_barrier_last :
    ∃ s, run FlushedWorker.step (.start 0 0) flushedTwice = some s
      ∧ (s.flushed, s.returned) = ([4], [3]) ∧ s.FlushIsBarrier := by
  have hmarks : (run FlushedWorker.step (.start 0 0) flushedTwice).map
      (fun s => (s.flushed, s.returned)) = some ([4], [3]) := by decide +kernel
  obtain ⟨s, hs, hmarks⟩ := map_eq_some_iff.mp hmarks
  exact ⟨s, hs, hmarks, flush_is_barrier (by decide +kernel) hs⟩

/-- Job 10 flushes the worker with job 11 left in its batch: job 12, which was accepted later,
begins first, and the flush, made when three jobs were accepted, returns with job 11 not begun. -/
theorem flush_overtakes :
    (run FlushedWorker.step (.start 0 0) ((sentWhileRunning ++ flushOne).map .worker)).map
        (fun s => ((s.queue false).accepted, (s.queue false).begun, s.flushed, (s.lane false).todo))
      = some ([.job 10 false, .job 11 false, .job 12 false],
        [((.job 10 false, 0), .ran), ((.job 12 false, 2), .ran)], [3], [(.job 11 false, 1)]) := by
  rfl

end Fdbus.Worker

/-
  Fdbus.Worker.RefusedSend — a synchronous send that the worker refuses.

  `send(job, milliseconds, urgent)` keeps its `CSyncRequest` on the stack and links the job to it
  before the job is queued.  When the job cannot be queued the call returns at once, its request is
  gone, and the job is still linked to it.

    * `sendSync` — the call up to the wait,
    * `terminate` — reads the request that the job is linked to, if it is still there,
    * `LeftFresh` — the job is as if it had never been sent,
    * `refused_leaves_fresh_iff` — a refused send leaves it so exactly if nothing is refused.

  The worker does nothing between the look at its exit code and the look at the queue.
-/
import Fdbus.Worker.SyncRequest

namespace Fdbus.Worker

open Option Function

/-! ## §1. The call. -/

/-- The state of the synchronous sends, with the event loop of the worker, and for each job whether
the call whose request it is linked to has returned. -/
structure SyncCalls extends SyncWorker where
  mEventLoop : Bool
  dangling : Nat → Bool

/-- `send(job, urgent)`, with its result. -/
def CBaseWorker.sendNow (w : CBaseWorker) (mEventLoop : Bool) (job : CBaseJob) (urgent : Bool) :
    CBaseWorker × Bool :=
  if w.mExitCode ≠ 0 ∨ mEventLoop = false then (w, false)
  else ((w.send job urgent).enqueue job urgent, ((w.queue urgent).enqueue job).2)

namespace SyncCalls

/-- `send(job, milliseconds, urgent)` up to the wait, with what it returns if it does not wait. -/
def sendSync (s : SyncCalls) (id : Nat) (forceRun urgent : Bool) : SyncCalls × Option Bool :=
  if (s.mSyncReq id).isSome then (s, some false)
  else
    let r := s.worker.sendNow s.mEventLoop (.job id forceRun) urgent
    let linked := { s with
      worker := r.1
      mSyncReq := Function.update s.mSyncReq id (some (s.useCount id))
      waiting := Function.update s.waiting id r.2 }
    if r.2 then ({ linked with dangling := Function.update s.dangling id false }, none)
    -- the call returns, and `sync_req` with it
    else ({ linked with dangling := Function.update s.dangling id true }, some false)

/-- `terminate`; `none` is the use of a request that is gone. -/
def terminate (s : SyncCalls) (id : Nat) : Option SyncCalls :=
  if (s.mSyncReq id).isSome ∧ s.dangling id then none
  else some { s with toSyncWorker := s.toSyncWorker.terminate id }

/-- The worker takes a job into this queue. -/
def Accepts (s : SyncCalls) (urgent : Bool) : Prop :=
  s.worker.mExitCode = 0 ∧ s.mEventLoop = true ∧ (s.worker.queue urgent).HasRoom

instance (s : SyncCalls) (urgent : Bool) : Decidable (s.Accepts urgent) :=
  inferInstanceAs (Decidable (_ ∧ _))

/-- The same state with a job that is not linked to a request. -/
def withFresh (s : SyncCalls) (id : Nat) : SyncCalls :=
  { s with mSyncReq := Function.update s.mSyncReq id none }

/-- The job is not linked to a request; as long as that stays as it is, a send of the job has the
result that it has for a fresh one, and `terminate` uses no memory that is gone. -/
structure LeftFresh (s : SyncCalls) (id : Nat) : Prop where
  null : s.mSyncReq id = none
  sendsAgain : ∀ later : SyncCalls, later.mSyncReq id = s.mSyncReq id →
    ∀ forceRun urgent, (later.sendSync id forceRun urgent).2
      = ((later.withFresh id).sendSync id forceRun urgent).2
  terminates : ∀ later : SyncCalls, later.mSyncReq id = s.mSyncReq id →
    later.dangling id = s.dangling id → later.terminate id ≠ none

/-! ## §2. What a send does. -/

variable {s : SyncCalls} {id : Nat} {forceRun urgent : Bool}

theorem enqueue_snd (q : CJobQueue) (job : CBaseJob) : (q.enqueue job).2 = decide q.HasRoom := by
  unfold CJobQueue.enqueue CJobQueue.HasRoom
  split
  · next h => simp [h]
  · next h => simp [h]

theorem sendNow_iff (s : SyncCalls) (job : CBaseJob) (urgent : Bool) :
    (s.worker.sendNow s.mEventLoop job urgent).2 = true ↔ s.Accepts urgent := by
  unfold CBaseWorker.sendNow
  split
  · next h =>
      refine iff_of_false Bool.false_ne_true fun hacc => ?_
      rcases h with h | h
      · exact h hacc.1
      · rw [hacc.2.1] at h
        cases h
  · next h =>
      rw [not_or, not_not, Bool.not_eq_false] at h
      show ((s.worker.queue urgent).enqueue job).2 = true ↔ _
      rw [enqueue_snd, decide_eq_true_eq]
      constructor
      · intro hroom
        exact ⟨h.1, h.2, hroom⟩
      · intro hacc
        exact hacc.2.2

/-- A job that is not linked: the send waits if the worker takes it, and is refused otherwise. -/
theorem sendSync_snd (h : s.mSyncReq id = none) :
    (s.sendSync id forceRun urgent).2 = if s.Accepts urgent then none else some false := by
  have hiff := sendNow_iff s (.job id forceRun) urgent
  unfold sendSync
  rw [h, if_neg (by simp)]
  by_cases hacc : s.Accepts urgent
  · rw [if_pos (hiff.mpr hacc), if_pos hacc]
  · rw [if_neg fun hsent => hacc (hiff.mp hsent), if_neg hacc]

/-! ## §3. A refused send. -/

/-- **A refused send**: a job that is not linked to a request is left as if it had never been sent
exactly if the worker takes it, so that the send is not refused at all. -/
theorem refused_leaves_fresh_iff (s : SyncCalls) (id : Nat) (forceRun urgent : Bool)
    (h : s.mSyncReq id = none) :
    ((s.sendSync id forceRun urgent).2 = some false → (s.sendSync id forceRun urgent).1.LeftFresh id)
      ↔ s.Accepts urgent := by
  rw [sendSync_snd h]
  by_cases hacc : s.Accepts urgent
  · rw [if_pos hacc]
    refine iff_of_true (fun hno => ?_) hacc
    cases hno
  · rw [if_neg hacc]
    refine iff_of_false (fun hfresh => ?_) hacc
    -- the link was set before the job was refused
    have hnull := (hfresh rfl).null
    have hlinked : (s.sendSync id forceRun urgent).1.mSyncReq id = some (s.useCount id) := by
      unfold sendSync
      rw [h, if_neg (by simp)]
      simp only
      split <;> exact update_self ..
    rw [hlinked] at hnull
    cases hnull

/-- A worker with a full queue. -/
def fullWorker : SyncCalls :=
  { SyncWorker.start 1 0 fun _ => 1 with
    worker := ((CBaseWorker.start 1 0).send (.job 7 false) false).enqueue (.job 7 false) false
    mEventLoop := true
    dangling := fun _ => false }

/-- The same worker when it has taken its job from the queue. -/
def emptied (s : SyncCalls) : SyncCalls := { s with worker := s.worker.dumpJobs none }

/-- The send is refused and the job stays linked; when there is room again it is refused as well,
and `terminate` uses memory that is gone. -/
theorem refused_stays_linked :
    fullWorker.mSyncReq 1 = none ∧ (fullWorker.sendSync 1 false false).2 = some false
      ∧ (fullWorker.sendSync 1 false false).1.mSyncReq 1 = some 1
      ∧ ((emptied fullWorker).sendSync 1 false false).2 = none
      ∧ ((emptied (fullWorker.sendSync 1 false false).1).sendSync 1 false false).2 = some false
      ∧ (emptied (fullWorker.sendSync 1 false false).1).terminate 1 = none := by
  refine ⟨rfl, by decide, by decide, by decide, by decide, ?_⟩
  rfl

theorem refused_leaves_fresh_iff_fullWorker :
    ((fullWorker.sendSync 1 false false).2 = some false →
        (fullWorker.sendSync 1 false false).1.LeftFresh 1)
      ↔ fullWorker.Accepts false :=
  refused_leaves_fresh_iff fullWorker 1 false false rfl

end SyncCalls

end Fdbus.Worker

/-
  Fdbus.Worker.Exit — what becomes of accepted jobs when the worker exits.

  An exit request is a normal job that sets the exit code.  From then on sends are refused and
  the rest of the batch is terminated without being run; when the dispatch is over, `run`
  returns.  What was accepted after the batch had been taken and before the exit code was set
  stays in the queue.

    * `no_job_lost` — if nothing is queued behind an exit request when it runs, and no send is
      under way then, every accepted job has been terminated when `run` has returned,
    * `job_lost` — a job accepted while the exit request waits in its batch is lost.
-/
import Fdbus.Worker.JobQueue

namespace Fdbus.Worker

open Fdbus.Run List

variable {w w' : CBaseWorker}

/-- The next job is an exit request, and not with code 0. -/
def CBaseWorker.exitsNext (w : CBaseWorker) : Bool :=
  match w.next with
  | some (false, (.exitRequest exitCode, _)) => exitCode != 0
  | _ => false

/-- `tearup` succeeds, and when the turn of an exit request comes, no normal job is queued and
no send is between its look at the exit code and its job being enqueued. -/
def ExitsQuietly (w : CBaseWorker) : WorkerEvent → Prop
  | .tearup ok => ok = true
  | .start => w.exitsNext = true → (w.queue false).mJobQueue = [] ∧ w.sending = []
  | _ => True

instance (w : CBaseWorker) : ∀ ev, Decidable (ExitsQuietly w ev)
  | .tearup ok => inferInstanceAs (Decidable (ok = true))
  | .start => inferInstanceAs
      (Decidable (w.exitsNext = true → (w.queue false).mJobQueue = [] ∧ w.sending = []))
  | .dispatch | .processJobQueue | .flush | .processUrgentJobs | .finish | .returns
  | .endDispatch | .leave | .send _ _ _ | .exit _ | .enqueue _ _ | .discardJobs _
  | .sendUnlock _ _ | .sizeLimit _ _ => isTrue trivial

/-- Every job that was accepted has been terminated. -/
def CBaseWorker.AllTerminated (w : CBaseWorker) : Prop :=
  ∀ v n, n < (w.queue v).accepted.length → n ∈ (w.queue v).terminated

/-! ## §1. The jobs that are still to come. -/

/-- No urgent job is queued, or some batch will look for urgent jobs once more. -/
def CBaseWorker.LooksAgain (w : CBaseWorker) : Prop :=
  (w.queue true).mJobQueue = [] ∨ ∃ f ∈ w.stack, f.checked = false

variable {ev : WorkerEvent}

/-- As long as nothing is enqueued, what may be queued will be looked for. -/
theorem looksAgain_step (hstep : w.step ev = some w') (hev : ∀ job, ev ≠ .enqueue job true)
    (h : w.LooksAgain) : w'.LooksAgain := by
  rcases h with h | ⟨g, hg, hgc⟩
  · exact .inl (queue_nil hstep hev h)
  · have hstack := step_stack hstep
    -- a batch below the innermost one is not touched
    have hbelow : ∀ {f f' : Batch} {rest : List Batch}, w.stack = f :: rest →
        (f.checked = false → f'.checked = false) → ∃ g ∈ f' :: rest, g.checked = false := by
      intro f f' rest hw hf
      rw [hw] at hg
      rcases mem_cons.mp hg with rfl | hg
      · exact ⟨f', mem_cons_self, hf hgc⟩
      · exact ⟨g, mem_cons_of_mem f' hg, hgc⟩
    unfold CBaseWorker.LooksAgain
    generalize w'.stack = stack at hstack
    cases hstack with
    | keep => exact .inr ⟨g, hg, hgc⟩
    | processJobQueue | flush | check => exact .inl (queue_taken hstep rfl)
    | urgent f rest e es hw => exact .inr (hbelow hw id)
    | normal f rest e es hw => exact .inr (hbelow hw fun _ => rfl)
    | finish f rest u e hw => exact .inr (hbelow hw id)
    | returns f rest hw _ _ _ hchecked =>
      rw [hw] at hg
      rcases mem_cons.mp hg with rfl | hg
      · rw [hchecked] at hgc
        cases hgc
      · exact .inr ⟨g, hg, hgc⟩

/-! ## §2. Steps. -/

/-- Batches exist only inside a dispatch. -/
theorem stack_nil_step (hstep : w.step ev = some w') (h : w.phase ≠ .dispatching → w.stack = []) :
    w'.phase ≠ .dispatching → w'.stack = [] := by
  intro hphase
  have hc := step_control hstep
  have hs := step_stack hstep
  have hkeep : ev.ofBatch = false → w'.stack = w.stack := by
    intro hev
    generalize w'.stack = stack at hs
    cases hs with
    | keep _ _ => rfl
    | _ => cases hev
  -- outside a dispatch there is no batch that could go on
  have hsame : w'.phase = w.phase → w'.stack = [] := by
    intro heq
    have hnil := h (heq ▸ hphase)
    generalize w'.stack = stack at hs
    cases hs with
    | keep _ _ => exact hnil
    | processJobQueue hp _ => exact absurd (heq.trans hp) hphase
    | flush hcode =>
      have hp : w.phase = .dispatching := by
        simpa using (Bool.and_eq_true_iff.mp hcode).1
      exact absurd (heq.trans hp) hphase
    | check f rest hw | urgent f rest e es hw | normal f rest e es hw | finish f rest u e hw
    | returns f rest hw =>
      rw [hnil] at hw
      cases hw
  have hp : w'.phase = w'.control.phase := rfl
  generalize w'.control = c at hc hp
  cases hc with
  | tearup ok hstarting =>
    rw [hkeep rfl]
    exact h (by rw [hstarting]; decide)
  | dispatch _ _ => exact absurd hp hphase
  | endDispatch _ hnil =>
    rw [hkeep rfl]
    exact hnil
  | leave hlooping _ =>
    rw [hkeep rfl]
    exact h (by rw [hlooping]; decide)
  | _ => exact hsame hp

/-- What holds throughout a run that exits quietly.  Once the exit code is set nothing is sent
or queued any more, except urgent jobs that will be looked for. -/
structure ExitOk (w : CBaseWorker) : Prop where
  accounted : ∀ v, (w.lane v).view.Accounted
  urgentSending : ∀ exitCode, (.exitRequest exitCode, true) ∉ w.sending
  urgentAccepted : ∀ exitCode, .exitRequest exitCode ∉ (w.queue true).accepted
  stack : w.phase ≠ .dispatching → w.stack = []
  exiting : w.mExitCode ≠ 0 → (w.queue false).mJobQueue = [] ∧ w.sending = [] ∧ w.LooksAgain
  returned : w.phase = .returned → w.mExitCode ≠ 0

/-- Once the exit code is set and nothing is sent any more, this stays so. -/
theorem exiting_step (hstep : w.step ev = some w') (hexit : w.mExitCode ≠ 0)
    (hqueue : (w.queue false).mJobQueue = []) (hsending : w.sending = []) (hlooks : w.LooksAgain) :
    (w'.queue false).mJobQueue = [] ∧ w'.sending = [] ∧ w'.LooksAgain := by
  have hc := step_control hstep
  have henqueue : ∀ job v, ev ≠ .enqueue job v := by
    rintro job v rfl
    have hmem := (of_guard hstep).1
    rw [hsending] at hmem
    cases hmem
  refine ⟨queue_nil hstep (fun job => henqueue job false) hqueue, ?_,
    looksAgain_step hstep (fun job => henqueue job true) hlooks⟩
  show w'.control.sending = []
  generalize w'.control = c at hc
  cases hc with
  | send id forceRun urgent h => exact absurd h hexit
  | exit code h => exact absurd h hexit
  | sendUnlock call urgent _ h => exact absurd h hexit
  | enqueue job urgent _ => exact absurd rfl (henqueue job urgent)
  | _ => exact hsending

/-- An exit request that is run is a normal one, and its batch will look for urgent jobs. -/
theorem exits_step (h : ExitOk w) (hg : ExitsQuietly w .start) {urgent : Bool} {exitCode : Int}
    {n : Nat} (hstep : w.step .start = some w') (hcode : exitCode ≠ 0)
    (hnext : w.next = some (urgent, (.exitRequest exitCode, n))) (hsending : w'.sending = w.sending) :
    (w'.queue false).mJobQueue = [] ∧ w'.sending = [] ∧ w'.LooksAgain := by
  cases urgent with
  | true =>
    exact absurd (next_accepted (h.accounted true) hnext) (h.urgentAccepted exitCode)
  | false =>
    obtain ⟨hqueue, hnone⟩ := hg (by
      unfold CBaseWorker.exitsNext
      rw [hnext]
      exact bne_iff_ne.mpr hcode)
    refine ⟨queue_nil hstep nofun hqueue, hsending.trans hnone, .inr ?_⟩
    have hs := step_stack hstep
    generalize w'.stack = stack at hs
    cases hs with
    | keep _ hev => cases hev
    | normal f rest e es _ _ _ _ _ => exact ⟨_, mem_cons_self, rfl⟩
    | urgent f rest e es hw _ hurgent =>
      -- then the next job would be an urgent one
      unfold CBaseWorker.next at hnext
      rw [hw] at hnext
      simp only [hurgent] at hnext
      cases hnext

theorem ExitOk.step (hg : ExitsQuietly w ev) (h : ExitOk w) (hstep : w.step ev = some w') :
    ExitOk w' := by
  have hexiting : w'.mExitCode ≠ 0 →
      (w'.queue false).mJobQueue = [] ∧ w'.sending = [] ∧ w'.LooksAgain := by
    intro hexit
    have hc := step_control hstep
    have hsame : w'.mExitCode = w.mExitCode →
        (w'.queue false).mJobQueue = [] ∧ w'.sending = [] ∧ w'.LooksAgain := fun heq => by
      obtain ⟨hqueue, hsending, hlooks⟩ := h.exiting (heq ▸ hexit)
      exact exiting_step hstep (heq ▸ hexit) hqueue hsending hlooks
    have hcode : w'.mExitCode = w'.control.mExitCode := rfl
    have hsending : w'.sending = w'.control.sending := rfl
    generalize w'.control = c at hc hcode hsending
    cases hc with
    | tearup ok _ => exact absurd hcode hexit
    | exits urgent exitCode n hnext _ =>
      exact exits_step h hg hstep (fun hzero => hexit (hcode.trans hzero)) hnext hsending
    | _ => exact hsame hcode
  have hreturned : w'.phase = .returned → w'.mExitCode ≠ 0 := by
    intro hphase
    have hc := step_control hstep
    have hcode : w'.mExitCode = w'.control.mExitCode := rfl
    have hp : w'.phase = w'.control.phase := rfl
    generalize w'.control = c at hc hcode hp
    rw [hcode]
    rw [hphase] at hp
    cases hc with
    | tearup ok _ =>
      rw [show ok = true from hg] at hp
      cases hp
    | dispatch | endDispatch => cases hp
    | leave _ hexit => exact hexit
    | exits urgent exitCode n hnext _ =>
      -- outside a dispatch no job's turn comes
      have hnil : w.stack = [] := h.stack (by rw [← show Phase.returned = w.phase from hp]; decide)
      unfold CBaseWorker.next at hnext
      rw [hnil] at hnext
      cases hnext
    | _ => exact h.returned hp.symm
  exact ⟨fun v => accounted_step (h.accounted v) hstep, exitSending_step hstep nofun h.urgentSending,
    exitAccepted_step hstep h.urgentSending h.urgentAccepted, stack_nil_step hstep h.stack,
    hexiting, hreturned⟩

/-! ## §3. Runs. -/

theorem exitOk_start (normalSize urgentSize : Nat) :
    ExitOk (CBaseWorker.start normalSize urgentSize) :=
  ⟨fun _ => Perm.refl [], fun _ => not_mem_nil, fun _ => not_mem_nil, fun _ => rfl,
    fun h => absurd rfl h, nofun⟩

/-- **No accepted job is lost**: in every run that exits quietly, whenever `run` has returned
each job that was accepted into a queue has been terminated, after it was run or without. -/
theorem no_job_lost {normalSize urgentSize : Nat} {events : List WorkerEvent}
    (hquiet : Along CBaseWorker.step ExitsQuietly (CBaseWorker.start normalSize urgentSize) events)
    (hrun : run CBaseWorker.step (CBaseWorker.start normalSize urgentSize) events = some w)
    (hreturned : w.phase = .returned) : w.AllTerminated := by
  have h : ExitOk w := run_along (fun _ _ _ hg h hstep => h.step hg hstep)
    (exitOk_start normalSize urgentSize) hquiet hrun
  have hstack : w.stack = [] := h.stack (by rw [hreturned]; decide)
  obtain ⟨hnormal, -, hlooks⟩ := h.exiting (h.returned hreturned)
  have hurgent : (w.queue true).mJobQueue = [] := by
    rcases hlooks with hurgent | ⟨f, hf, -⟩
    · exact hurgent
    · rw [hstack] at hf
      cases hf
  intro v n hn
  have hqueue : (w.queue v).mJobQueue = [] := by
    cases v with
    | true => exact hurgent
    | false => exact hnormal
  have htodo : (w.lane v).todo = [] := by
    show w.stack.flatMap (Batch.todo v) = []
    rw [hstack]
    rfl
  have hrunning : (w.lane v).running = [] := by
    show w.stack.filterMap (Batch.runs v) = []
    rw [hstack]
    rfl
  have hbegun := (h.accounted v).all_begun htodo hqueue (getElem?_eq_getElem hn)
  obtain ⟨p, hp, hpn⟩ := mem_map.mp hbegun
  rcases (followed hrun v).begun p hp with hterm | ⟨-, hmem⟩
  · rwa [hpn] at hterm
  · rw [hrunning] at hmem
    cases hmem

/-- The worker is started, job 7 and an exit request are sent, and both are taken as a batch. -/
def exitTaken : List WorkerEvent :=
  [.tearup true, .send 7 false false, .enqueue (.job 7 false) false, .exit 1,
    .enqueue (.exitRequest 1) false, .dispatch, .processJobQueue, .processUrgentJobs, .start,
    .finish, .processUrgentJobs]

/-- The exit request runs, and `run` returns. -/
def exitRuns : List WorkerEvent :=
  [.start, .finish, .processUrgentJobs, .returns, .endDispatch, .leave]

theorem no_job_lost_quiet :
    ∃ w, run CBaseWorker.step (CBaseWorker.start 0 0) (exitTaken ++ exitRuns) = some w
      ∧ w.phase = .returned ∧ w.AllTerminated := by
  have hphase : (run CBaseWorker.step (CBaseWorker.start 0 0)
      (exitTaken ++ exitRuns)).map CBaseWorker.phase = some .returned := by decide +kernel
  obtain ⟨w, hw, hreturned⟩ := Option.map_eq_some_iff.mp hphase
  exact ⟨w, hw, hreturned, no_job_lost (by decide +kernel) hw hreturned⟩

/-- Job 8 is sent while the exit request waits in its batch: the send is accepted, and the job
is still queued when `run` has returned. -/
theorem job_lost :
    (run CBaseWorker.step (CBaseWorker.start 0 0)
        (exitTaken ++ [.send 8 false false, .enqueue (.job 8 false) false] ++ exitRuns)).map
        (fun w => (w.phase, (w.queue false).accepted, (w.queue false).mJobQueue,
          (w.queue false).terminated))
      = some (.returned, [.job 7 false, .exitRequest 1, .job 8 false], [(.job 8 false, 2)],
        [0, 1]) := by
  rfl

end Fdbus.Worker

/-
  Fdbus.Library.Run — runs of a state machine and the invariant rules for them.

  A machine is a step function `step : σ → ε → Option σ`: `none` means the event cannot
  happen in that state.  `run` folds a list of events through it, and `Along` says that
  every event of a run meets a condition in the state it happens in.  These rules carry
  an invariant from one step to a whole run:

    * `run_along`          — the invariant is about the state, and every step meets a
      condition,
    * `run_along_history`  — the invariant also speaks of the events so far,
    * `run_history`        — the same, without a condition on the steps,
    * `run_total`, `run_total_along` — the invariant makes every event possible,
    * `throughout_iff`     — a condition that is exactly what one step needs to keep the
      invariant is exactly what a run needs to keep it throughout,
    * `along_iff_of_inv`   — two conditions on steps that are the same in every state with an
      invariant are the same for runs.
-/
import Mathlib

namespace Fdbus.Run

open Option

variable {σ ε : Type*}

/-! ## §1. Runs. -/

/-- The state after a list of events, if each of them can happen when it does. -/
def run (step : σ → ε → Option σ) : σ → List ε → Option σ
  | s, [] => some s
  | s, e :: es => (step s e).bind fun s' => run step s' es

/-- Every event of the run meets `G` in the state it happens in. -/
def Along (step : σ → ε → Option σ) (G : σ → ε → Prop) : σ → List ε → Prop
  | _, [] => True
  | s, e :: es => G s e ∧ ∀ s', step s e = some s' → Along step G s' es

/-- Every state of the run satisfies `P`. -/
def Throughout (step : σ → ε → Option σ) (P : σ → Prop) : σ → List ε → Prop
  | s, [] => P s
  | s, e :: es => P s ∧ ∀ s', step s e = some s' → Throughout step P s' es

@[simp] theorem run_nil (step : σ → ε → Option σ) (s : σ) : run step s [] = some s := rfl

variable {step : σ → ε → Option σ} {G : σ → ε → Prop} {P : σ → Prop} {s : σ}

variable {es : List ε} {e : ε} {t : σ} {I : σ → Prop}

theorem run_cons_some (h : run step s (e :: es) = some t) :
    ∃ s', step s e = some s' ∧ run step s' es = some t := by
  simpa [run, bind_eq_some_iff] using h

/-- A guarded step is made only where the guard holds. -/
theorem of_guard {p : Prop} [Decidable p] {s : σ} (h : (if p then some s else none) = some t) :
    p ∧ s = t := by
  rwa [ite_none_right_eq_some, some.injEq] at h

/-- A step that a guard excludes is made only where it does not hold. -/
theorem of_guard_not {p : Prop} [Decidable p] {s : σ} (h : (if p then none else some s) = some t) :
    ¬ p ∧ s = t := by
  rwa [ite_none_left_eq_some, some.injEq] at h

/-- A run under a condition, one event at a time. -/
theorem along_cons {s' : σ} (hg : G s e) (hstep : step s e = some s') (h : Along step G s' es) :
    Along step G s (e :: es) := by
  refine ⟨hg, fun t ht => ?_⟩
  rw [hstep, some.injEq] at ht
  exact ht ▸ h

theorem along_cons_of_none (h : step s e = none) : G s e ↔ Along step G s (e :: es) := by
  refine ⟨fun hg => ⟨hg, fun s' hs' => ?_⟩, fun hall => hall.1⟩
  rw [h] at hs'
  cases hs'

theorem along_cons_of_some (h : step s e = some t) :
    G s e ∧ Along step G t es ↔ Along step G s (e :: es) :=
  ⟨fun hand => along_cons hand.1 h hand.2, fun hall => ⟨hall.1, hall.2 t h⟩⟩

/-- A condition that can be decided for each step can be decided for a run. -/
instance Along.decidable {step : σ → ε → Option σ} {G : σ → ε → Prop}
    [∀ s e, Decidable (G s e)] : ∀ (es : List ε) (s : σ), Decidable (Along step G s es)
  | [], _ => isTrue trivial
  | e :: es, s =>
    match h : step s e with
    | none => decidable_of_iff (G s e) (along_cons_of_none h)
    | some t =>
      haveI : Decidable (Along step G t es) := Along.decidable es t
      decidable_of_iff (G s e ∧ Along step G t es) (along_cons_of_some h)

/-! ## §2. Invariant rules. -/

/-- **Runs under a condition, with the history in view**: what the first state satisfies
and every step that meets `G` preserves holds after the run, together with the list of
the events that led there. -/
theorem run_along_history {P : List ε → σ → Prop}
    (hstep : ∀ past s e s', G s e → P past s → step s e = some s' → P (past ++ [e]) s') :
    ∀ (es : List ε) (past : List ε) (s t : σ), P past s → Along step G s es →
      run step s es = some t → P (past ++ es) t := by
  intro es
  induction es with
  | nil =>
    intro past s t hs _ hrun
    rw [run_nil, some.injEq] at hrun
    subst hrun
    rwa [List.append_nil]
  | cons e es ih =>
    intro past s t hs hok hrun
    obtain ⟨s', hs', hrun'⟩ := run_cons_some hrun
    have hP : P (past ++ [e]) s' := hstep past s e s' hok.1 hs hs'
    have := ih (past ++ [e]) s' t hP (hok.2 s' hs') hrun'
    rwa [List.append_assoc, List.singleton_append] at this

/-- **Runs under a condition, for an invariant of the state alone.** -/
theorem run_along (hstep : ∀ s e s', G s e → P s → step s e = some s' → P s') {s : σ} (h₀ : P s)
    (hes : Along step G s es) (hrun : run step s es = some t) : P t :=
  run_along_history (P := fun _ => P) (fun _ s e s' => hstep s e s') es [] s t h₀ hes hrun

/-- A condition on the events alone. -/
theorem along_of_forall {p : ε → Prop} (h : ∀ e ∈ es, p e) (s : σ) :
    Along step (fun _ e => p e) s es := by
  induction es generalizing s with
  | nil => trivial
  | cons e es ih =>
    obtain ⟨he, hes⟩ := List.forall_mem_cons.mp h
    exact ⟨he, fun s' _ => ih hes s'⟩

theorem along_true (step : σ → ε → Option σ) (es : List ε) (s : σ) :
    Along step (fun _ _ => True) s es :=
  along_of_forall (fun _ _ => trivial) s

/-- **Unconditional runs with the history in view.** -/
theorem run_history {P : List ε → σ → Prop}
    (hstep : ∀ past s e s', P past s → step s e = some s' → P (past ++ [e]) s') {s : σ}
    (h₀ : P [] s) (hrun : run step s es = some t) : P es t := by
  have := run_along_history (G := fun _ _ => True)
    (fun past s e s' _ => hstep past s e s') es [] s t h₀ (along_true step es s) hrun
  simpa using this

/-- **Machines that refuse nothing under a condition**: a property under which every event that
meets it can happen, and which the events preserve, makes every run possible. -/
theorem run_total_along (hstep : ∀ s e, G s e → P s → ∃ s', step s e = some s' ∧ P s') :
    ∀ (es : List ε) (s : σ), P s → Along step G s es → ∃ t, run step s es = some t ∧ P t := by
  intro es
  induction es with
  | nil => intro s hs _; exact ⟨s, rfl, hs⟩
  | cons e es ih =>
    intro s hs h
    obtain ⟨s', hs', hP⟩ := hstep s e h.1 hs
    obtain ⟨t, ht, hPt⟩ := ih s' hP (h.2 s' hs')
    refine ⟨t, ?_, hPt⟩
    simp only [run, hs', bind_some, ht]

/-- **Machines that never refuse.** -/
theorem run_total (hstep : ∀ s e, P s → ∃ s', step s e = some s' ∧ P s')
    (es : List ε) (s : σ) (hs : P s) : ∃ t, run step s es = some t ∧ P t :=
  run_total_along (G := fun _ _ => True) (fun s e _ => hstep s e) es s hs (along_true step es s)

theorem Throughout.first (h : Throughout step P s es) : P s := by
  cases es with
  | nil => exact h
  | cons e es => exact h.1

/-- **Exact conditions, with an invariant at hand**: if a step from a state with `I` and `P`
leads to one with `P` exactly when it meets `G`, and then `I` holds as well, then a run from
such a state keeps `P` throughout exactly when all its steps meet `G`. -/
theorem throughout_iff_of_inv {P : σ → Prop}
    (hstep : ∀ s e s', I s → P s → step s e = some s' → (P s' ↔ G s e) ∧ (G s e → I s')) :
    ∀ (es : List ε) (s t : σ), I s → P s → run step s es = some t →
      (Throughout step P s es ↔ Along step G s es) := by
  intro es
  induction es with
  | nil =>
    intro s t _ hs _
    exact ⟨fun _ => trivial, fun _ => hs⟩
  | cons e es ih =>
    intro s t hI hs hrun
    obtain ⟨s', hs', hrun'⟩ := run_cons_some hrun
    obtain ⟨hiff, hinv⟩ := hstep s e s' hI hs hs'
    constructor
    · rintro ⟨_, hall⟩
      have hP : P s' := (hall s' hs').first
      have hg : G s e := hiff.mp hP
      exact along_cons hg hs' ((ih s' t (hinv hg) hP hrun').mp (hall s' hs'))
    · rintro ⟨hg, hall⟩
      refine ⟨hs, fun u hu => ?_⟩
      rw [hs', some.injEq] at hu
      subst hu
      exact (ih s' t (hinv hg) (hiff.mpr hg) hrun').mpr (hall s' hs')

/-- **Exact conditions**: if a step from a state with `P` leads to one with `P` exactly when it
meets `G`, then a run from such a state keeps `P` throughout exactly when all its steps meet
`G`. -/
theorem throughout_iff (hstep : ∀ s e s', P s → step s e = some s' → (P s' ↔ G s e))
    (es : List ε) (s t : σ) (hs : P s) (hrun : run step s es = some t) :
    Throughout step P s es ↔ Along step G s es :=
  throughout_iff_of_inv (I := fun _ => True)
    (fun s e s' _ hs h => ⟨hstep s e s' hs h, fun _ => trivial⟩) es s t trivial hs hrun

/-- **Conditions that amount to the same**: if in every state with `I` a step meets `F` exactly when
it meets `G`, and then `I` holds afterwards, all steps of a run meet `F` exactly when all meet
`G`. -/
theorem along_iff_of_inv {F G : σ → ε → Prop} (hiff : ∀ s e, I s → (F s e ↔ G s e))
    (hinv : ∀ s e s', I s → G s e → step s e = some s' → I s') :
    ∀ (es : List ε) (s : σ), I s → (Along step F s es ↔ Along step G s es) := by
  intro es
  induction es with
  | nil =>
    intro s _
    exact Iff.rfl
  | cons e es ih =>
    intro s hI
    constructor
    · intro h
      have hg : G s e := (hiff s e hI).mp h.1
      exact ⟨hg, fun s' hs' => (ih s' (hinv s e s' hI hg hs')).mp (h.2 s' hs')⟩
    · intro h
      exact ⟨(hiff s e hI).mpr h.1,
        fun s' hs' => (ih s' (hinv s e s' hI h.1 hs')).mpr (h.2 s' hs')⟩

/-! ## §3. What happened since. -/

/-- The events after the last one with `p`, the latest first. -/
def since (p : ε → Bool) (past : List ε) : List ε := past.reverse.takeWhile fun e => !p e

theorem since_concat (p : ε → Bool) (past : List ε) (e : ε) :
    since p (past ++ [e]) = if p e then [] else e :: since p past := by
  unfold since
  rw [List.reverse_concat, List.takeWhile_cons]
  cases p e
  · rfl
  · rfl

end Fdbus.Run

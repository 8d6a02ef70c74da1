/-
  Fdbus.Library.Program — programs that make calls, one after the other.

  A program is a tree: it is done, or it makes a call and goes on with the answer.  The calls are
  answered by a step function on a state, which may stop.  What a program may ask for depends on
  the answers, so a condition on its calls is a condition along the run.

    * `exec` — what comes of a program; `Every` — a condition on every call, in the state it is
      made in,
    * `every_iff_of_inv` — two conditions that agree wherever an invariant holds agree along
      programs.

  Nothing here is about particular calls.
-/
import Mathlib

namespace Fdbus.Calls

/-- A program with calls `ι`, whose answers have the types `ρ`. -/
inductive Program (ι : Type) (ρ : ι → Type) (α : Type) : Type where
  | done (value : α)
  | call (i : ι) (next : ρ i → Program ι ρ α)

variable {ι : Type} {ρ : ι → Type} {σ α β : Type}

namespace Program

/-- One program after the other. -/
def bind : Program ι ρ α → (α → Program ι ρ β) → Program ι ρ β
  | .done value, f => f value
  | .call i next, f => .call i fun r => (next r).bind f

instance : Monad (Program ι ρ) where
  pure := .done
  bind := bind

/-- A single call. -/
def ask (i : ι) : Program ι ρ (ρ i) := .call i .done

end Program

section Execution

variable (step : (i : ι) → σ → Option (ρ i × σ))

/-- What comes of a program. -/
def exec : Program ι ρ α → σ → Option (α × σ)
  | .done value, s => some (value, s)
  | .call i next, s => (step i s).bind fun p => exec (next p.1) p.2

/-- Every call meets `F` in the state it is made in. -/
def Every (F : ι → σ → Prop) : Program ι ρ α → σ → Prop
  | .done _, _ => True
  | .call i next, s => F i s ∧ ∀ r s', step i s = some (r, s') → Every F (next r) s'

variable {step}

/-- **Conditions that agree under an invariant**, by induction over the program. -/
theorem every_iff_of_inv {F G : ι → σ → Prop} {I : σ → Prop}
    (hiff : ∀ i s, I s → (F i s ↔ G i s))
    (hinv : ∀ i s r s', I s → step i s = some (r, s') → I s') (p : Program ι ρ α) :
    ∀ s, I s → (Every step F p s ↔ Every step G p s) := by
  induction p with
  | done value => intro s _; exact Iff.rfl
  | call i next ih =>
    intro s hs
    show (F i s ∧ ∀ r s', step i s = some (r, s') → Every step F (next r) s')
      ↔ (G i s ∧ ∀ r s', step i s = some (r, s') → Every step G (next r) s')
    refine and_congr (hiff i s hs) ?_
    refine forall_congr' fun r => forall_congr' fun s' => forall_congr' fun hstep => ?_
    exact ih r s' (hinv i s r s' hs hstep)

end Execution

end Fdbus.Calls

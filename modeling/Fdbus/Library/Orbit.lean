/-
  Fdbus.Library.Orbit — a bounded search along the iterates of a function.

  A counter runs through `a`, `next a`, `next (next a)`, ...  A search takes what the counter stands
  at, moves it on, and stops at the first value that it may keep, after so many tries at the latest.

    * `search` — the value that is kept, if there is one, and where the counter stands then,
    * `FirstAt` — the position of the first value that may be kept,
    * `search_eq_some_iff` — the search finds the first one within its tries,
    * `search_eq_none_iff` — it finds none if none of those that it tries may be kept.
-/
import Mathlib

namespace Fdbus.Orbit

open Function

variable {α : Type*}

/-- Search along `next` for a value that may be kept. -/
def search (next : α → α) (keep : α → Bool) : Nat → α → Option α × α
  | 0, a => (none, a)
  | tries + 1, a => if keep a then (some a, next a) else search next keep tries (next a)

/-- The value in place `k` may be kept, and none before it. -/
def FirstAt (next : α → α) (keep : α → Bool) (a : α) (k : Nat) : Prop :=
  (∀ j < k, keep (next^[j] a) = false) ∧ keep (next^[k] a) = true

variable {next : α → α} {keep : α → Bool}

theorem firstAt_zero {a : α} : FirstAt next keep a 0 ↔ keep a = true := by
  simp [FirstAt]

theorem firstAt_succ {a : α} {k : Nat} :
    FirstAt next keep a (k + 1) ↔ keep a = false ∧ FirstAt next keep (next a) k := by
  unfold FirstAt
  rw [Nat.forall_lt_succ_left, and_assoc]
  simp only [iterate_succ_apply, iterate_zero_apply]

/-- **What a search finds** is the first value that may be kept, if it comes within the tries. -/
theorem search_eq_some_iff (tries : Nat) (b : α) :
    ∀ a, (search next keep tries a).1 = some b
      ↔ ∃ k < tries, FirstAt next keep a k ∧ next^[k] a = b := by
  induction tries with
  | zero =>
    simp [search]
  | succ tries ih =>
    intro a
    unfold search
    rw [Nat.exists_lt_succ_left]
    cases hkeep : keep a with
    | true =>
      -- no later place is the first one
      simp [firstAt_zero, firstAt_succ, hkeep]
    | false =>
      simp only [firstAt_zero, firstAt_succ, hkeep, Bool.false_eq_true, if_false, false_and,
        true_and, false_or, iterate_succ_apply]
      exact ih (next a)

theorem search_eq_none_iff (tries : Nat) :
    ∀ a, (search next keep tries a).1 = none ↔ ∀ k < tries, keep (next^[k] a) = false := by
  induction tries with
  | zero => simp [search]
  | succ tries ih =>
    intro a
    unfold search
    rw [Nat.forall_lt_succ_left]
    cases hkeep : keep a with
    | true => simp [hkeep]
    | false => simpa [hkeep] using ih (next a)

/-- The counter has then moved on by the tries. -/
theorem search_snd_of_none {tries : Nat} :
    ∀ {a}, (search next keep tries a).1 = none → (search next keep tries a).2 = next^[tries] a := by
  induction tries with
  | zero => exact fun _ => rfl
  | succ tries ih =>
    intro a h
    unfold search at h ⊢
    split at h
    · cases h
    · rename_i hkeep
      rw [if_neg hkeep, iterate_succ_apply]
      exact ih h

end Fdbus.Orbit

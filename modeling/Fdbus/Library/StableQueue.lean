/-
  Fdbus.Library.StableQueue — a queue ordered by keys, first come first served among equal keys.

  An element is inserted in front of the first one with a greater key.  `stamp` says when an element
  came; the queue is `Ordered` if the keys ascend and the stamps ascend where the keys are equal.

    * `insert_perm` — what is in the queue after an insertion,
    * `ordered_insert` — an element that came last keeps the queue ordered,
    * `Ordered.congr` — so do changes to elements that are not in the queue.

  Nothing here is about what the elements are.
-/
import Mathlib

namespace Fdbus.StableQueue

open List

variable {α κ : Type} [LinearOrder κ]

/-- Insertion in front of the first element with a greater key. -/
def insert (key : α → κ) (a : α) : List α → List α
  | [] => [a]
  | b :: bs => if key a < key b then a :: b :: bs else b :: insert key a bs

/-- The one has the smaller key, or it came earlier. -/
def Before (key : α → κ) (stamp : α → Nat) (a b : α) : Prop :=
  key a < key b ∨ key a = key b ∧ stamp a < stamp b

/-- In the order of the keys, and of the stamps where the keys are equal. -/
def Ordered (key : α → κ) (stamp : α → Nat) (l : List α) : Prop :=
  l.Pairwise (Before key stamp)

theorem insert_perm (key : α → κ) (a : α) (l : List α) : (insert key a l).Perm (a :: l) := by
  induction l with
  | nil => exact .rfl
  | cons b bs ih =>
    unfold insert
    split
    · exact .rfl
    · exact (ih.cons b).trans (Perm.swap a b bs)

variable {l : List α} {stamp : α → Nat} {key : α → κ}

theorem mem_insert {a b : α} : b ∈ insert key a l ↔ b = a ∨ b ∈ l := by
  rw [(insert_perm key a l).mem_iff, mem_cons]

/-- **An insertion** of what came last, by induction over the queue. -/
theorem ordered_insert {a : α} (h : Ordered key stamp l) (hlast : ∀ b ∈ l, stamp b < stamp a) :
    Ordered key stamp (insert key a l) := by
  induction l with
  | nil => exact pairwise_singleton _ _
  | cons b bs ih =>
    obtain ⟨hb, hbs⟩ := pairwise_cons.mp h
    unfold insert
    split
    · rename_i hlt
      refine pairwise_cons.mpr ⟨fun c hc => .inl ?_, h⟩
      rcases mem_cons.mp hc with rfl | hc
      · exact hlt
      · -- the keys behind `b` are no smaller than its key
        rcases hb c hc with hbc | ⟨hbc, -⟩
        · exact hlt.trans hbc
        · exact hbc ▸ hlt
    · rename_i hle
      refine pairwise_cons.mpr
        ⟨fun c hc => ?_, ih hbs fun c hc => hlast c (mem_cons_of_mem b hc)⟩
      rcases mem_insert.mp hc with rfl | hc
      · rcases lt_or_eq_of_le (not_lt.mp hle) with hlt | heq
        · exact .inl hlt
        · exact .inr ⟨heq, hlast b mem_cons_self⟩
      · exact hb c hc

/-- Only the keys and the stamps of its elements matter. -/
theorem Ordered.congr {key' : α → κ} {stamp' : α → Nat} (h : Ordered key stamp l)
    (heq : ∀ a ∈ l, key' a = key a ∧ stamp' a = stamp a) : Ordered key' stamp' l := by
  refine h.imp_of_mem fun {a b} ha hb hab => ?_
  unfold Before
  rw [(heq a ha).1, (heq a ha).2, (heq b hb).1, (heq b hb).2]
  exact hab

theorem Ordered.erase [DecidableEq α] (h : Ordered key stamp l) (a : α) :
    Ordered key stamp (l.erase a) :=
  h.sublist erase_sublist

end Fdbus.StableQueue

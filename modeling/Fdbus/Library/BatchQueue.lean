/-
  Fdbus.Library.BatchQueue — a queue that is emptied in batches.

  What is pushed is numbered in the order it comes.  A batch takes everything that is queued;
  its elements are begun one after the other, and while one of them runs a further, nested
  batch may be taken.  `todo` holds what was taken and is not begun, the innermost batch first.

    * `Accounted` — nothing is lost or doubled, however batches are nested,
    * `Ordered`   — everything is begun in the order it was pushed, as long as a batch is
      taken only when no enclosing one has something left.
-/
import Mathlib

namespace Fdbus

open List

universe u

/-- A queue with its history.  Elements carry their number. -/
structure BatchQueue (α : Type u) where
  pushed : List α
  queued : List (α × Nat)
  todo : List (α × Nat)
  begun : List (α × Nat)

namespace BatchQueue

variable {α : Type u} {q : BatchQueue α}

/-! ## §1. Operations. -/

def push (q : BatchQueue α) (a : α) : BatchQueue α :=
  { q with pushed := q.pushed ++ [a], queued := q.queued ++ [(a, q.pushed.length)] }

def take (q : BatchQueue α) : BatchQueue α :=
  { q with queued := [], todo := q.queued ++ q.todo }

/-- `x` is begun, with `rest` left to do. -/
def start (q : BatchQueue α) (x : α × Nat) (rest : List (α × Nat)) : BatchQueue α :=
  { q with todo := rest, begun := q.begun ++ [x] }

theorem zipIdx_snoc (l : List α) (a : α) : (l ++ [a]).zipIdx = l.zipIdx ++ [(a, l.length)] := by
  rw [zipIdx_append, zipIdx_singleton, Nat.zero_add]

/-! ## §2. Nothing is lost. -/

/-- Everything that was pushed is begun, to be done or queued, and that once. -/
def Accounted (q : BatchQueue α) : Prop :=
  (q.begun ++ q.todo ++ q.queued).Perm q.pushed.zipIdx

theorem Accounted.push (h : q.Accounted) (a : α) : (q.push a).Accounted := by
  show (q.begun ++ q.todo ++ (q.queued ++ [(a, q.pushed.length)])).Perm (q.pushed ++ [a]).zipIdx
  rw [zipIdx_snoc, ← append_assoc]
  exact h.append_right _

theorem Accounted.take (h : q.Accounted) : q.take.Accounted := by
  show (q.begun ++ (q.queued ++ q.todo) ++ []).Perm q.pushed.zipIdx
  refine Perm.trans ?_ h
  rw [append_nil, append_assoc]
  exact perm_append_comm.append_left q.begun

theorem Accounted.start (h : q.Accounted) {x : α × Nat} {rest : List (α × Nat)}
    (htodo : q.todo = x :: rest) : (q.start x rest).Accounted := by
  show (q.begun ++ [x] ++ rest ++ q.queued).Perm q.pushed.zipIdx
  rw [append_assoc q.begun [x] rest, singleton_append, ← htodo]
  exact h

/-- When nothing is queued or left to do, everything has been begun. -/
theorem Accounted.all_begun (h : q.Accounted) (htodo : q.todo = []) (hqueued : q.queued = [])
    {a : α} {n : Nat} (hn : q.pushed[n]? = some a) : (a, n) ∈ q.begun := by
  have hmem : (a, n) ∈ q.begun ++ q.todo ++ q.queued :=
    h.mem_iff.mpr (mk_mem_zipIdx_iff_getElem?.mpr hn)
  rwa [htodo, hqueued, append_nil, append_nil] at hmem

/-! ## §3. Order. -/

/-- What is begun, what is left to do and what is queued follow one another as they were
pushed. -/
def Ordered (q : BatchQueue α) : Prop := q.begun ++ q.todo ++ q.queued = q.pushed.zipIdx

section

variable (h : q.Ordered)

include h

theorem Ordered.push (a : α) : (q.push a).Ordered := by
  show q.begun ++ q.todo ++ (q.queued ++ [(a, q.pushed.length)]) = (q.pushed ++ [a]).zipIdx
  rw [zipIdx_snoc, ← append_assoc, h]

/-- A batch that is not nested in one with something left keeps the order. -/
theorem Ordered.take (htodo : q.todo = []) : q.take.Ordered := by
  show q.begun ++ (q.queued ++ q.todo) ++ [] = q.pushed.zipIdx
  rw [append_nil, htodo, append_nil, ← h, htodo, append_nil]

theorem Ordered.start {x : α × Nat} {rest : List (α × Nat)} (htodo : q.todo = x :: rest) :
    (q.start x rest).Ordered := by
  show q.begun ++ [x] ++ rest ++ q.queued = q.pushed.zipIdx
  rw [append_assoc q.begun [x] rest, singleton_append, ← htodo]
  exact h

theorem Ordered.begun_eq : q.begun = q.pushed.zipIdx.take q.begun.length := by
  rw [← h, append_assoc, take_left]

/-- What has been begun is what was pushed first. -/
theorem Ordered.map_begun : q.begun.map Prod.fst = q.pushed.take q.begun.length := by
  have heq := congrArg (map Prod.fst) h.begun_eq
  rwa [map_take, zipIdx_map_fst] at heq

/-- The element begun as the `n`-th is the `n`-th that was pushed. -/
theorem Ordered.getElem?_begun {n : Nat} (hn : n < q.begun.length) :
    q.begun[n]? = q.pushed[n]?.map fun a => (a, n) := by
  have hzip : q.begun[n]? = q.pushed.zipIdx[n]? := by
    rw [h.begun_eq, getElem?_take_of_lt hn]
  rw [hzip, getElem?_zipIdx]
  simp only [Nat.zero_add]

/-- What has been begun carries the number of its turn. -/
theorem Ordered.lt_of_mem_begun {x : α × Nat} (hx : x ∈ q.begun) : x.2 < q.begun.length := by
  obtain ⟨n, hn⟩ := mem_iff_getElem?.mp hx
  have hlt : n < q.begun.length := (List.getElem?_eq_some_iff.mp hn).1
  rw [h.getElem?_begun hlt, Option.map_eq_some_iff] at hn
  obtain ⟨a, -, rfl⟩ := hn
  exact hlt

theorem Ordered.length_eq : q.begun.length + q.todo.length + q.queued.length = q.pushed.length := by
  have hlen := congrArg length h
  rwa [length_append, length_append, length_zipIdx] at hlen

end

end BatchQueue

end Fdbus

/-
  Fdbus.Library.MultiMap — lists under two keys, and sums over maps.

  A table of tables of lists collects things under two keys: `push` appends to the list of two
  keys, which starts empty, and `drop` gives a list up, and with it what becomes empty above it.
  All that matters of such a table is the list found under two keys (`list`): there is a lemma for
  it after each operation, and for what is counted when the table is walked through (`entries`).

  The sum of a function over a map changes, when the map changes at one key, by what the function
  changes there (`total_split`).
-/
import Fdbus.Library.OrderedMap

namespace Fdbus.OrderedMap

open List Option Std.ExtTreeMap

/-! ## §1. Sums over maps. -/

section Total

variable {K V : Type} [Ord K] [Std.TransOrd K]

/-- The sum of a function over the entries of a map. -/
def total (g : K → V → Nat) (m : Map K V) : Nat := (m.toList.map fun e => g e.1 e.2).sum

theorem count_flatMap_toList {β : Type} [BEq β] (m : Map K V) (f : K → V → List β) (x : β) :
    (m.toList.flatMap fun e => f e.1 e.2).count x = total (fun k v => (f k v).count x) m :=
  count_flatMap

variable [Std.LawfulEqOrd K]

/-- **A change at one key** changes a sum by what it changes there. -/
theorem total_split {m n : Map K V} {k : K} (h : ∀ k', k' ≠ k → n[k']? = m[k']?)
    (g : K → V → Nat) :
    total g n + m[k]?.elim 0 (g k) = total g m + n[k]?.elim 0 (g k) := by
  have hone : ∀ o : Option V,
      ((o.map fun v => (k, v)).toList.map fun e => g e.1 e.2).sum = o.elim 0 (g k) := by
    intro o
    cases o with
    | none => rfl
    | some v => simp
  obtain ⟨l₁, l₂, hm, hm'⟩ := toList_split h
  unfold total
  rw [hm, hm']
  simp only [map_append, sum_append, hone]
  omega

/-- A function that is zero at all keys but one. -/
theorem total_at [DecidableEq K] {g : K → V → Nat} {k : K} (h : ∀ k' v, k' ≠ k → g k' v = 0)
    (m : Map K V) : total g m = m[k]?.elim 0 (g k) := by
  have hrest : total g (m.erase k) = 0 := by
    apply sum_eq_zero
    intro x hx
    obtain ⟨e, he, rfl⟩ := mem_map.mp hx
    apply h
    intro hk
    rw [mem_toList_iff_getElem?_eq_some, hk, get_erase, if_pos rfl] at he
    cases he
  have hsplit := total_split (m := m) (n := m.erase k) (k := k)
    (fun k' hk' => by rw [get_erase, if_neg hk'.symm]) g
  rw [hrest, get_erase, if_pos rfl] at hsplit
  simpa using hsplit.symm

end Total

/-! ## §2. Pairs of keys. -/

section KeyPairs

variable {K₁ K₂ V : Type} [Ord K₁] [Std.TransOrd K₁] [Ord K₂] [Std.TransOrd K₂]

/-- The pairs of keys of a map of maps, in their order. -/
def keyPairs (m : Map K₁ (Map K₂ V)) : List (K₁ × K₂) :=
  m.toList.flatMap fun e => e.2.toList.map fun f => (e.1, f.1)

variable [Std.LawfulEqOrd K₁] [Std.LawfulEqOrd K₂]

theorem mem_keyPairs (m : Map K₁ (Map K₂ V)) (k₁ : K₁) (k₂ : K₂) :
    (k₁, k₂) ∈ keyPairs m ↔ (m[k₁]?.bind fun t => t[k₂]?).isSome = true := by
  unfold keyPairs
  rw [mem_flatMap, isSome_iff_exists]
  constructor
  · intro h
    obtain ⟨e, he, hmem⟩ := h
    obtain ⟨f, hf, hpair⟩ := mem_map.mp hmem
    obtain ⟨rfl, rfl⟩ := Prod.mk.inj hpair
    refine ⟨f.2, bind_eq_some_iff.mpr ⟨e.2, ?_, ?_⟩⟩
    · exact mem_toList_iff_getElem?_eq_some.mp he
    · exact mem_toList_iff_getElem?_eq_some.mp hf
  · intro h
    obtain ⟨v, hv⟩ := h
    obtain ⟨t, ht, hv⟩ := bind_eq_some_iff.mp hv
    refine ⟨(k₁, t), ?_, mem_map.mpr ⟨(k₂, v), ?_, rfl⟩⟩
    · exact mem_toList_iff_getElem?_eq_some.mpr ht
    · exact mem_toList_iff_getElem?_eq_some.mpr hv

theorem nodup_map_fst {K W : Type} [Ord K] [Std.TransOrd K] [Std.LawfulEqOrd K] (m : Map K W) :
    (m.toList.map Prod.fst).Nodup := by
  refine pairwise_map.mpr (distinct_keys_toList.imp ?_)
  intro a b h hab
  exact h (Std.LawfulEqCmp.compare_eq_iff_eq.mpr hab)

/-- No pair of keys is listed twice. -/
theorem nodup_keyPairs (m : Map K₁ (Map K₂ V)) : (keyPairs m).Nodup := by
  unfold keyPairs
  rw [nodup_flatMap]
  constructor
  · intro e _
    have hkeys := (nodup_map_fst e.2).map (f := fun k₂ => (e.1, k₂))
      (fun a b hab => (Prod.mk.inj hab).2)
    rwa [List.map_map] at hkeys
  · refine (pairwise_map.mp (nodup_map_fst m)).imp ?_
    intro e e' hne
    show List.Disjoint _ _
    intro pair hmem hmem'
    obtain ⟨f, _, rfl⟩ := mem_map.mp hmem
    obtain ⟨f', _, hpair⟩ := mem_map.mp hmem'
    exact hne (Prod.mk.inj hpair).1.symm

end KeyPairs

/-! ## §3. Lists under two keys. -/

/-- Lists under two keys. -/
abbrev MultiMap (K₁ K₂ A : Type) [Ord K₁] [Ord K₂] := Map K₁ (Map K₂ (List A))

/-- Things that stand under two keys. -/
theorem count_map_keys {K₁ K₂ A : Type} [DecidableEq K₁] [DecidableEq K₂] [BEq K₁] [LawfulBEq K₁]
    [BEq K₂] [LawfulBEq K₂] [BEq A] [LawfulBEq A] (i₁ k₁ : K₁) (i₂ k₂ : K₂) (l : List A) (a : A) :
    (l.map fun a => (i₁, i₂, a)).count (k₁, k₂, a)
      = if i₁ = k₁ ∧ i₂ = k₂ then l.count a else 0 := by
  by_cases h : i₁ = k₁ ∧ i₂ = k₂
  · obtain ⟨rfl, rfl⟩ := h
    rw [if_pos ⟨rfl, rfl⟩]
    refine count_map_of_injective l (fun a => (i₁, i₂, a)) ?_ a
    intro a b hab
    exact (Prod.mk.inj (Prod.mk.inj hab).2).2
  · rw [if_neg h]
    apply count_eq_zero_of_not_mem
    intro hmem
    obtain ⟨b, _, hb⟩ := mem_map.mp hmem
    exact h ⟨(Prod.mk.inj hb).1, (Prod.mk.inj (Prod.mk.inj hb).2).1⟩

namespace MultiMap

variable {K₁ K₂ A : Type} [Ord K₁] [Std.TransOrd K₁] [Ord K₂] [Std.TransOrd K₂]

/-- The list under two keys. -/
def list (m : MultiMap K₁ K₂ A) (k₁ : K₁) (k₂ : K₂) : List A :=
  (m[k₁]?.bind fun t => t[k₂]?).getD []

/-- `m[k₁][k₂].push_back(a)`. -/
def push (m : MultiMap K₁ K₂ A) (k₁ : K₁) (k₂ : K₂) (a : A) : MultiMap K₁ K₂ A :=
  upsert m k₁ ∅ fun t => upsert t k₂ [] (· ++ [a])

/-- The list under two keys goes, and the table that held it if there is no other list in it. -/
def drop (m : MultiMap K₁ K₂ A) (k₁ : K₁) (k₂ : K₂) : MultiMap K₁ K₂ A :=
  pruneAt (fun t => t.isEmpty) m k₁ (·.erase k₂)

/-- Everything, with its keys, in their order. -/
def entries (m : MultiMap K₁ K₂ A) : List (K₁ × K₂ × A) :=
  m.toList.flatMap fun e => e.2.toList.flatMap fun f => f.2.map fun a => (e.1, f.1, a)

@[simp] theorem list_empty (k₁ : K₁) (k₂ : K₂) : list (∅ : MultiMap K₁ K₂ A) k₁ k₂ = [] := by
  simp [list]

variable [Std.LawfulEqOrd K₁] [Std.LawfulEqOrd K₂]

/-- A pair of keys with something under it is one of the keys. -/
theorem mem_keyPairs_of_list {m : MultiMap K₁ K₂ A} {k₁ : K₁} {k₂ : K₂} (h : m.list k₁ k₂ ≠ []) :
    (k₁, k₂) ∈ keyPairs m := by
  rw [mem_keyPairs]
  unfold list at h
  cases hget : m[k₁]?.bind fun t => t[k₂]? with
  | none =>
    rw [hget] at h
    exact absurd rfl h
  | some l => rfl

variable [DecidableEq K₁] [DecidableEq K₂]

theorem list_push (m : MultiMap K₁ K₂ A) (i₁ : K₁) (i₂ : K₂) (a : A) (k₁ : K₁) (k₂ : K₂) :
    (m.push i₁ i₂ a).list k₁ k₂
      = m.list k₁ k₂ ++ if i₁ = k₁ ∧ i₂ = k₂ then [a] else [] := by
  unfold list push
  rw [bind_get_upsert]
  by_cases h₁ : i₁ = k₁
  · subst h₁
    rw [if_pos rfl, get_upsert]
    by_cases h₂ : i₂ = k₂
    · subst h₂
      rw [if_pos rfl, if_pos ⟨rfl, rfl⟩, get_getD]
      rfl
    · rw [if_neg h₂, if_neg (fun h => h₂ h.2), get_getD, append_nil]
  · rw [if_neg h₁, if_neg (fun h => h₁ h.1), append_nil]

theorem list_drop (m : MultiMap K₁ K₂ A) (i₁ : K₁) (i₂ : K₂) (k₁ : K₁) (k₂ : K₂) :
    (m.drop i₁ i₂).list k₁ k₂ = if i₁ = k₁ ∧ i₂ = k₂ then [] else m.list k₁ k₂ := by
  unfold list drop
  rw [bind_get_pruneAt (fun t h => get_of_isEmpty h k₂)]
  by_cases h₁ : i₁ = k₁
  · subst h₁
    simp only [get_erase, if_true, true_and]
    by_cases h₂ : i₂ = k₂
    · simp only [if_pos h₂]
      cases m[i₁]? <;> rfl
    · simp only [if_neg h₂]
  · rw [if_neg h₁, if_neg (fun h => h₁ h.1)]

section Count

variable [BEq K₁] [LawfulBEq K₁] [BEq K₂] [LawfulBEq K₂] [BEq A] [LawfulBEq A]

omit [Ord K₁] [Std.TransOrd K₁] [Std.LawfulEqOrd K₁] in
/-- A walk through the table of one key. -/
theorem count_entries_below (i₁ k₁ : K₁) (t : Map K₂ (List A)) (k₂ : K₂) (a : A) :
    (t.toList.flatMap fun f => f.2.map fun a => (i₁, f.1, a)).count (k₁, k₂, a)
      = if i₁ = k₁ then (t[k₂]?.getD []).count a else 0 := by
  rw [count_flatMap_toList t (fun i₂ l => l.map fun a => (i₁, i₂, a))]
  simp only [count_map_keys]
  rw [total_at (k := k₂)]
  · by_cases h₁ : i₁ = k₁
    · cases t[k₂]? <;> simp
    · simp only [h₁, false_and, if_false]
      cases t[k₂]? <;> rfl
  · intro i₂ l hne
    rw [if_neg (fun h => hne h.2)]

/-- **A walk through everything** meets what is under two keys, and meets it under these. -/
theorem count_entries (m : MultiMap K₁ K₂ A) (k₁ : K₁) (k₂ : K₂) (a : A) :
    m.entries.count (k₁, k₂, a) = (m.list k₁ k₂).count a := by
  unfold entries list
  rw [count_flatMap_toList m (fun i₁ t => t.toList.flatMap fun f => f.2.map fun a => (i₁, f.1, a))]
  simp only [count_entries_below]
  rw [total_at (k := k₁)]
  · cases m[k₁]? with
    | none => simp
    | some t => simp
  · intro i₁ t hne
    rw [if_neg hne]

end Count

end MultiMap

end Fdbus.OrderedMap

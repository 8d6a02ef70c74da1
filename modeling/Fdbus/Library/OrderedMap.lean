/-
  Fdbus.Library.OrderedMap — maps whose values are maps.

  Tables of tables are built by two idioms: an entry is reached with the creation of what
  is missing on the way (`upsert`), and an entry that becomes empty is erased from the map
  that holds it (`pruneAt` for one key, `pruneAll` for every key).  The lemmas give the
  lookups after each of them.  An erased empty value and a value in which nothing is found
  look the same to a lookup that goes on below it, which is what the `bind` forms say.
  A walk over a map that counts something at one key counts what is stored there, once
  (`foldl_measure`).  In a map that is `Pruned` no value is empty; the two idioms keep it so,
  and such a map is determined by what can be looked up below it (`Pruned.ext`).
  A change at one key changes the listing of a map in one place (`toList_split`).
-/
import Mathlib

namespace Fdbus.OrderedMap

open List Option Std.ExtTreeMap

/-- A map ordered by its keys. -/
abbrev Map (K V : Type) [Ord K] := Std.ExtTreeMap K V compare

variable {K V : Type} [Ord K] [Std.TransOrd K]

/-! ## §1. The operations. -/

/-- Change the value at `k`, which starts as `fresh` when there is none. -/
def upsert (m : Map K V) (k : K) (fresh : V) (f : V → V) : Map K V :=
  m.alter k fun v => some (f (v.getD fresh))

/-- Change the value at `k`, if there is one, and erase it when it becomes empty. -/
def pruneAt (isEmpty : V → Bool) (m : Map K V) (k : K) (f : V → V) : Map K V :=
  m.alter k fun v => (v.map f).filter fun v => !isEmpty v

/-- Change every value, and erase those that become empty. -/
def pruneAll (isEmpty : V → Bool) (m : Map K V) (f : V → V) : Map K V :=
  m.filterMap fun _ v => if isEmpty (f v) then none else some (f v)

/-! ## §2. Lookups after them. -/

section Lawful

variable [Std.LawfulEqOrd K] [DecidableEq K]

theorem get_insert (m : Map K V) (k k' : K) (v : V) :
    (m.insert k v)[k']? = if k = k' then some v else m[k']? := by
  rw [Std.ExtTreeMap.getElem?_insert]
  simp only [Std.LawfulEqCmp.compare_eq_iff_eq]

theorem get_erase (m : Map K V) (k k' : K) :
    (m.erase k)[k']? = if k = k' then none else m[k']? := by
  rw [getElem?_erase]
  simp only [Std.LawfulEqCmp.compare_eq_iff_eq]

/-- What is found after an insertion is the new value or was there before. -/
theorem of_get_insert {m : Map K V} {k k' : K} {v v' : V} (h : (m.insert k v)[k']? = some v') :
    k = k' ∧ v = v' ∨ k ≠ k' ∧ m[k']? = some v' := by
  rw [get_insert] at h
  split at h
  · next hk => exact .inl ⟨hk, some.inj h⟩
  · next hk => exact .inr ⟨hk, h⟩

theorem get_modify (m : Map K V) (k k' : K) (f : V → V) :
    (m.modify k f)[k']? = if k = k' then m[k]?.map f else m[k']? := by
  rw [Std.ExtTreeMap.getElem?_modify]
  simp only [Std.LawfulEqCmp.compare_eq_iff_eq]

theorem get_eraseAll (l : List K) (m : Map K V) (k : K) :
    (l.foldl (·.erase ·) m)[k]? = if k ∈ l then none else m[k]? := by
  induction l generalizing m with
  | nil => simp
  | cons x l ih =>
    rw [foldl_cons, ih, get_erase]
    simp only [mem_cons]
    by_cases hx : x = k
    · simp [hx]
    · simp only [hx, Ne.symm hx, if_false, false_or]

end Lawful

theorem get_upsert [Std.LawfulEqOrd K] [DecidableEq K] (m : Map K V) (k k' : K) (fresh : V)
    (f : V → V) :
    (upsert m k fresh f)[k']? = if k = k' then some (f (m[k]?.getD fresh)) else m[k']? := by
  unfold upsert
  rw [getElem?_alter]
  simp only [Std.LawfulEqCmp.compare_eq_iff_eq]

theorem get_pruneAt [Std.LawfulEqOrd K] [DecidableEq K] (isEmpty : V → Bool) (m : Map K V)
    (k k' : K) (f : V → V) :
    (pruneAt isEmpty m k f)[k']?
      = if k = k' then (m[k]?.map f).filter (fun v => !isEmpty v) else m[k']? := by
  unfold pruneAt
  rw [getElem?_alter]
  simp only [Std.LawfulEqCmp.compare_eq_iff_eq]

theorem get_pruneAll (isEmpty : V → Bool) (m : Map K V) (f : V → V) (k : K) :
    (pruneAll isEmpty m f)[k]?
      = m[k]?.bind fun v => if isEmpty (f v) then none else some (f v) := by
  unfold pruneAll
  rw [getElem?_filterMap]
  cases m[k]? <;> rfl

/-! ## §3. Lookups that go on below. -/

section Below

variable {β : Type} {isEmpty : V → Bool} {g : V → Option β}

theorem bind_get_upsert [Std.LawfulEqOrd K] [DecidableEq K] (m : Map K V) (k k' : K) (fresh : V)
    (f : V → V) :
    (upsert m k fresh f)[k']?.bind g
      = if k = k' then g (f (m[k]?.getD fresh)) else m[k']?.bind g := by
  rw [get_upsert]
  split <;> rfl

/-- Erasing an empty value loses nothing that could be found below it. -/
theorem bind_get_pruneAt [Std.LawfulEqOrd K] [DecidableEq K]
    (hg : ∀ v, isEmpty v = true → g v = none)
    (m : Map K V) (k k' : K) (f : V → V) :
    (pruneAt isEmpty m k f)[k']?.bind g
      = if k = k' then m[k]?.bind (fun v => g (f v)) else m[k']?.bind g := by
  rw [get_pruneAt]
  split
  · cases m[k]? with
    | none => rfl
    | some v =>
      by_cases he : isEmpty (f v) = true
      · simp [Option.filter, he, hg (f v) he]
      · simp [Option.filter, he]
  · rfl

theorem bind_get_pruneAll (hg : ∀ v, isEmpty v = true → g v = none) (m : Map K V)
    (f : V → V) (k : K) :
    (pruneAll isEmpty m f)[k]?.bind g = m[k]?.bind fun v => g (f v) := by
  rw [get_pruneAll]
  cases m[k]? with
  | none => rfl
  | some v =>
    by_cases he : isEmpty (f v) = true
    · simp [he, hg (f v) he]
    · simp [he]

/-- A fresh empty map has nothing in it. -/
theorem get_getD (o : Option (Map K V)) (k : K) : (o.getD ∅)[k]? = o.bind fun m => m[k]? := by
  cases o with
  | none => simp
  | some m => rfl

theorem bind_get_getD (o : Option (Map K V)) (k : K) :
    (o.getD ∅)[k]?.bind g = o.bind fun m => m[k]?.bind g := by
  rw [get_getD, bind_assoc]

end Below

/-- What is found after an insertion, under whatever key. -/
theorem exists_get_insert [Std.LawfulEqOrd K] [DecidableEq K] {m : Map K V} {k : K} {v : V}
    {P : V → Prop} :
    (∃ (k' : K) (v' : V), (m.insert k v)[k']? = some v' ∧ P v')
      ↔ P v ∨ ∃ (k' : K) (v' : V), k ≠ k' ∧ m[k']? = some v' ∧ P v' := by
  constructor
  · intro h
    obtain ⟨k', v', hget, hP⟩ := h
    obtain ⟨-, rfl⟩ | ⟨hne, hget⟩ := of_get_insert hget
    · exact .inl hP
    · exact .inr ⟨k', v', hne, hget, hP⟩
  · intro h
    rcases h with hP | ⟨k', v', hne, hget, hP⟩
    · exact ⟨k, v, by rw [get_insert, if_pos rfl], hP⟩
    · exact ⟨k', v', by rw [get_insert, if_neg hne, hget], hP⟩

theorem get_of_isEmpty {m : Map K V} (h : m.isEmpty = true) (k : K) : m[k]? = none := by
  rw [isEmpty_iff.mp h]
  simp

/-- A map that is not empty holds something. -/
theorem exists_get_of_not_isEmpty [Std.LawfulEqOrd K] {m : Map K V} (h : m.isEmpty = false) :
    ∃ (k : K) (v : V), m[k]? = some v := by
  by_contra hnone
  have hall : ∀ k : K, m[k]? = none := by
    intro k
    cases hv : m[k]? with
    | none => rfl
    | some v => exact absurd ⟨k, v, hv⟩ hnone
  have hempty : m = ∅ := ext_getElem? fun k => by simp [hall k]
  exact isEmpty_eq_false_iff.mp h hempty

/-! ## §4. Walks. -/

section Walk

variable {σ κ : Type} [DecidableEq κ] (μ : σ → Nat) {w : V → Nat} {k₀ : κ} {f : σ → κ → V → σ}

theorem foldl_measure_absent (hf : ∀ s k v, μ (f s k v) = μ s + if k = k₀ then w v else 0)
    (l : List (κ × V)) (hl : ∀ e ∈ l, e.1 ≠ k₀) (s : σ) :
    μ (l.foldl (fun s e => f s e.1 e.2) s) = μ s := by
  induction l generalizing s with
  | nil => rfl
  | cons e l ih =>
    rw [forall_mem_cons] at hl
    rw [foldl_cons, ih hl.2, hf, if_neg hl.1, Nat.add_zero]

theorem foldl_measure_present (hf : ∀ s k v, μ (f s k v) = μ s + if k = k₀ then w v else 0)
    (l : List (κ × V)) (hl : l.Pairwise fun a b => a.1 ≠ b.1) {v : V} (hv : (k₀, v) ∈ l)
    (s : σ) : μ (l.foldl (fun s e => f s e.1 e.2) s) = μ s + w v := by
  induction l generalizing s with
  | nil => cases hv
  | cons e l ih =>
    rw [pairwise_cons] at hl
    rw [foldl_cons]
    rcases mem_cons.mp hv with rfl | hmem
    · -- no key behind it is the same
      rw [foldl_measure_absent μ hf l fun e he => (hl.1 e he).symm, hf, if_pos rfl]
    · rw [ih hl.2 hmem, hf, if_neg (hl.1 _ hmem), Nat.add_zero]

/-- A walk whose every step adds `w v` at the key `k₀`, and nothing at the others, adds the
`w` of what the map holds at `k₀`. -/
theorem foldl_measure [Ord κ] [Std.TransOrd κ] [Std.LawfulEqOrd κ]
    (hf : ∀ s k v, μ (f s k v) = μ s + if k = k₀ then w v else 0) (m : Map κ V) (s : σ) :
    μ (m.foldl f s) = μ s + m[k₀]?.elim 0 w := by
  rw [foldl_eq_foldl_toList]
  cases hv : m[k₀]? with
  | none =>
    refine foldl_measure_absent μ hf m.toList ?_ s
    rintro ⟨k, v⟩ he rfl
    rw [mem_toList_iff_getElem?_eq_some, hv] at he
    exact absurd he (by simp)
  | some v =>
    refine foldl_measure_present μ hf m.toList ?_ ?_ s
    · exact distinct_keys_toList.imp fun {a b} h hab =>
        h (Std.LawfulEqCmp.compare_eq_iff_eq.mpr hab)
    · rw [mem_toList_iff_getElem?_eq_some, hv]

end Walk

/-! ## §5. Maps without empty values. -/

/-- No value of the map is empty, and every value satisfies `P`. -/
def Pruned (isEmpty : V → Bool) (P : V → Prop) (m : Map K V) : Prop :=
  ∀ (k : K) (v : V), m[k]? = some v → isEmpty v = false ∧ P v

section Pruned

variable {isEmpty : V → Bool} {P : V → Prop} {m : Map K V}

theorem pruned_empty : Pruned isEmpty P (∅ : Map K V) := by
  intro k v h
  simp at h

/-- Creating or changing a value keeps the map pruned, if the new value is not empty. -/
theorem Pruned.upsert [Std.LawfulEqOrd K] [DecidableEq K] (h : Pruned isEmpty P m) {fresh : V}
    {f : V → V} (hfresh : P fresh) (hne : ∀ v, isEmpty (f v) = false)
    (hf : ∀ v, P v → P (f v)) (k : K) : Pruned isEmpty P (upsert m k fresh f) := by
  intro k' v hv
  rw [get_upsert] at hv
  split at hv
  · cases hv
    refine ⟨hne _, hf _ ?_⟩
    cases hk : m[k]? with
    | none => exact hfresh
    | some v => exact (h k v hk).2
  · exact h k' v hv

theorem isEmpty_upsert [Std.LawfulEqOrd K] [DecidableEq K] (m : Map K V) (k : K) (fresh : V)
    (f : V → V) : (OrderedMap.upsert m k fresh f).isEmpty = false := by
  apply Bool.eq_false_iff.mpr
  intro h
  have := get_of_isEmpty h k
  rw [get_upsert, if_pos rfl] at this
  exact some_ne_none _ this

/-- Erasing an entry makes no other entry empty. -/
theorem Pruned.erase (h : Pruned isEmpty P m) (k : K) : Pruned isEmpty P (m.erase k) := by
  intro k' v hv
  rw [getElem?_erase] at hv
  split at hv
  · exact absurd hv (by simp)
  · exact h k' v hv

theorem Pruned.pruneAt [Std.LawfulEqOrd K] [DecidableEq K] (h : Pruned isEmpty P m) {f : V → V}
    (hf : ∀ v, P v → P (f v)) (k : K) : Pruned isEmpty P (pruneAt isEmpty m k f) := by
  intro k' v hv
  rw [get_pruneAt] at hv
  split at hv
  · obtain ⟨hmap, hne⟩ := filter_eq_some_iff.mp hv
    obtain ⟨v₀, hk, rfl⟩ := map_eq_some_iff.mp hmap
    exact ⟨by simpa using hne, hf v₀ (h k v₀ hk).2⟩
  · exact h k' v hv

theorem Pruned.pruneAll (h : Pruned isEmpty P m) {f : V → V} (hf : ∀ v, P v → P (f v)) :
    Pruned isEmpty P (pruneAll isEmpty m f) := by
  intro k v hv
  rw [get_pruneAll] at hv
  obtain ⟨v₀, hk, hv₀⟩ := bind_eq_some_iff.mp hv
  by_cases he : isEmpty (f v₀) = true
  · simp [he] at hv₀
  · rw [if_neg he, some.injEq] at hv₀
    subst hv₀
    exact ⟨by simpa using he, hf v₀ (h k v₀ hk).2⟩

/-- **A pruned map is what can be looked up in it.**  `view v i` is what is found below a value;
a value that is not empty has something below it, and values with the same things below them
are equal. -/
theorem Pruned.ext [Std.LawfulEqOrd K] {ι β : Type} (view : V → ι → Option β) {m' : Map K V}
    (hm : Pruned isEmpty P m) (hm' : Pruned isEmpty P m')
    (hsome : ∀ v, isEmpty v = false → P v → ∃ i, view v i ≠ none)
    (hinj : ∀ v v', P v → P v' → (∀ i, view v i = view v' i) → v = v')
    (h : ∀ (k : K) i, m[k]?.bind (view · i) = m'[k]?.bind (view · i)) : m = m' := by
  apply Std.ExtTreeMap.ext_getElem?
  intro k
  have hk := h k
  cases hv : m[k]? with
  | none =>
    cases hv' : m'[k]? with
    | none => rfl
    | some v' =>
      -- `m'` has a value where `m` has none, and the value has something below it
      obtain ⟨i, hi⟩ := hsome v' (hm' k v' hv').1 (hm' k v' hv').2
      have := hk i
      rw [hv, hv'] at this
      exact absurd this.symm hi
  | some v =>
    cases hv' : m'[k]? with
    | none =>
      obtain ⟨i, hi⟩ := hsome v (hm k v hv).1 (hm k v hv).2
      have := hk i
      rw [hv, hv'] at this
      exact absurd this hi
    | some v' =>
      rw [hv, hv'] at hk
      rw [hinj v v' (hm k v hv).2 (hm' k v' hv').2 hk]

/-- A map that is not empty and pruned has something below it. -/
theorem Pruned.exists_below [Std.LawfulEqOrd K] {ι β : Type} (view : V → ι → Option β)
    (h : Pruned isEmpty P m)
    (hsome : ∀ v, isEmpty v = false → P v → ∃ i, view v i ≠ none) (hne : m.isEmpty = false) :
    ∃ ki : K × ι, m[ki.1]?.bind (view · ki.2) ≠ none := by
  obtain ⟨k, v, hv⟩ := exists_get_of_not_isEmpty hne
  obtain ⟨i, hi⟩ := hsome v (h k v hv).1 (h k v hv).2
  refine ⟨(k, i), ?_⟩
  rw [hv]
  exact hi

end Pruned

/-! ## §6. Listings. -/

section Listing

variable [Std.LawfulEqOrd K]

omit [Std.TransOrd K] [Std.LawfulEqOrd K] in
theorem filter_behind {l : List (K × V)} {k : K} (h : ∀ x ∈ l, compare x.1 k = .gt)
    {o : Ordering} (ho : .gt ≠ o) : l.filter (fun e => compare e.1 k = o) = [] := by
  apply filter_eq_nil_iff.mpr
  intro x hx
  simp [h x hx, ho]

/-- A list in the order of its keys is what lies before a key, at it and behind it. -/
theorem sorted_split {l : List (K × V)}
    (hl : l.Pairwise fun a b => compare a.1 b.1 = .lt) (k : K) :
    l = l.filter (fun e => compare e.1 k = .lt) ++ l.filter (fun e => compare e.1 k = .eq)
      ++ l.filter (fun e => compare e.1 k = .gt) := by
  induction l with
  | nil => rfl
  | cons e l ih =>
    obtain ⟨hhead, htail⟩ := pairwise_cons.mp hl
    have hrest := ih htail
    cases hcmp : compare e.1 k with
    | lt =>
      simp only [filter_cons, hcmp, decide_true, if_true, reduceCtorEq, decide_false,
        Bool.false_eq_true, if_false, cons_append]
      rw [← hrest]
    | eq =>
      -- everything behind lies behind the key
      have hbehind : ∀ x ∈ l, compare x.1 k = .gt := by
        intro x hx
        obtain rfl := Std.LawfulEqCmp.compare_eq_iff_eq.mp hcmp
        exact Std.OrientedCmp.gt_of_lt (hhead x hx)
      have hlt := filter_behind hbehind (o := .lt) nofun
      simp only [filter_cons, hcmp, decide_true, if_true, reduceCtorEq, decide_false,
        Bool.false_eq_true, if_false, hlt, nil_append, cons_append]
      rw [hlt, nil_append] at hrest
      rw [← hrest]
    | gt =>
      have hbehind : ∀ x ∈ l, compare x.1 k = .gt := by
        intro x hx
        exact Std.TransCmp.gt_trans (Std.OrientedCmp.gt_of_lt (hhead x hx)) hcmp
      have hall : l.filter (fun e => compare e.1 k = .gt) = l := by
        apply filter_eq_self.mpr
        intro x hx
        simp [hbehind x hx]
      have hlt := filter_behind hbehind (o := .lt) nofun
      have heq := filter_behind hbehind (o := .eq) nofun
      simp only [filter_cons, hcmp, decide_true, if_true, reduceCtorEq, decide_false,
        Bool.false_eq_true, if_false, hlt, heq, hall, nil_append]

/-- A list in the order of its keys is determined by its elements. -/
theorem sorted_ext {l l' : List (K × V)} (hl : l.Pairwise fun a b => compare a.1 b.1 = .lt)
    (hl' : l'.Pairwise fun a b => compare a.1 b.1 = .lt) (h : ∀ e, e ∈ l ↔ e ∈ l') : l = l' := by
  have hasymm : Std.Antisymm fun a b : K × V => compare a.1 b.1 = .lt := by
    constructor
    intro a b hab hba
    rw [Std.OrientedCmp.gt_of_lt hab] at hba
    cases hba
  have hirrefl : Std.Irrefl fun a b : K × V => compare a.1 b.1 = .lt := by
    constructor
    intro a haa
    rw [Std.ReflOrd.compare_self] at haa
    cases haa
  exact hl.eq_of_mem_iff hl' h

theorem filter_key_eq (m : Map K V) (k : K) :
    m.toList.filter (fun e => compare e.1 k = .eq) = (m[k]?.map fun v => (k, v)).toList := by
  refine sorted_ext (ordered_keys_toList.filter _) ?_ ?_
  · cases m[k]? with
    | none => exact Pairwise.nil
    | some v => exact pairwise_singleton _ _
  · intro e
    rw [mem_filter, decide_eq_true_eq, Std.LawfulEqCmp.compare_eq_iff_eq,
      mem_toList, map_eq_some_iff]
    constructor
    · intro h
      obtain ⟨hmem, rfl⟩ := h
      exact ⟨e.2, mem_toList_iff_getElem?_eq_some.mp hmem, rfl⟩
    · intro h
      obtain ⟨v, hv, rfl⟩ := h
      exact ⟨mem_toList_iff_getElem?_eq_some.mpr hv, rfl⟩

/-- **Two maps that agree away from a key** are listed alike before and behind it. -/
theorem toList_split {m m' : Map K V} {k : K} (h : ∀ k', k' ≠ k → m'[k']? = m[k']?) :
    ∃ l₁ l₂, m.toList = l₁ ++ (m[k]?.map fun v => (k, v)).toList ++ l₂
      ∧ m'.toList = l₁ ++ (m'[k]?.map fun v => (k, v)).toList ++ l₂ := by
  have hsame : ∀ o : Ordering, o ≠ .eq →
      m'.toList.filter (fun e => compare e.1 k = o)
        = m.toList.filter (fun e => compare e.1 k = o) := by
    intro o ho
    refine sorted_ext (ordered_keys_toList.filter _)
      (ordered_keys_toList.filter _) ?_
    intro e
    simp only [mem_filter, decide_eq_true_eq]
    apply and_congr_left
    intro hcmp
    have hne : e.1 ≠ k := by
      intro hk
      rw [hk, Std.ReflOrd.compare_self] at hcmp
      exact ho hcmp.symm
    rw [mem_toList_iff_getElem?_eq_some,
      mem_toList_iff_getElem?_eq_some, h e.1 hne]
  refine ⟨m.toList.filter (fun e => compare e.1 k = .lt),
    m.toList.filter (fun e => compare e.1 k = .gt),
    ?_, ?_⟩
  · rw [← filter_key_eq]
    exact sorted_split ordered_keys_toList k
  · rw [← filter_key_eq, ← hsame .lt (by decide), ← hsame .gt (by decide)]
    exact sorted_split ordered_keys_toList k

/-- What the values of two maps that agree away from a key add up to, one after the other. -/
theorem flatMap_split {β : Type} {m m' : Map K V} {k : K} (h : ∀ k', k' ≠ k → m'[k']? = m[k']?)
    (f : V → List β) :
    ∃ l₁ l₂, m.toList.flatMap (fun e => f e.2) = l₁ ++ m[k]?.elim [] f ++ l₂
      ∧ m'.toList.flatMap (fun e => f e.2) = l₁ ++ m'[k]?.elim [] f ++ l₂ := by
  have hone : ∀ o : Option V,
      (o.map fun v => (k, v)).toList.flatMap (fun e => f e.2) = o.elim [] f := by
    intro o
    cases o with
    | none => rfl
    | some v => exact flatMap_singleton (fun e : K × V => f e.2) (k, v)
  obtain ⟨l₁, l₂, hm, hm'⟩ := toList_split h
  refine ⟨l₁.flatMap fun e => f e.2, l₂.flatMap fun e => f e.2, ?_, ?_⟩
  · rw [hm, flatMap_append, flatMap_append, hone]
  · rw [hm', flatMap_append, flatMap_append, hone]

/-- The keys of the entries with `p`, in order. -/
def keysWith (p : K → V → Bool) (m : Map K V) : List K :=
  (m.toList.filter fun e => p e.1 e.2).map Prod.fst

theorem mem_keysWith {p : K → V → Bool} {m : Map K V} {k : K} :
    k ∈ keysWith p m ↔ ∃ v, m[k]? = some v ∧ p k v = true := by
  unfold keysWith
  simp only [List.mem_map, List.mem_filter, Prod.exists, exists_and_right, exists_eq_right,
    mem_toList_iff_getElem?_eq_some]

end Listing

end Fdbus.OrderedMap

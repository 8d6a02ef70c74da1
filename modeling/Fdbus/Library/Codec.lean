/-
  Fdbus.Library.Codec — decoders that undo an encoder, and how they compose.

  A decoder is a state transformer that may stop.  Its states are reached through
  `place before rest`: the input is `before ++ rest`, and the decoder stands between the two.
  `Decodes place m bytes Q` says that `m`, started in front of `bytes`, stops right behind
  them with a value in `Q`, whatever lies before and behind.

    * `Decodes.bind`, `Decodes.pure` — sequences of decoders,
    * `Decodes.mapM` — a loop that decodes one element after the other.

  The encoder alone may also say where a value ends: `SelfDelimiting D enc` says that the code of a
  value in `D` is followed by nothing that could make it the code of another one.

    * `SelfDelimiting.of_length`, `SelfDelimiting.comap`, `SelfDelimiting.pair` — codes of one
      length, codes through another value, and codes one after the other,
    * `SelfDelimiting.counted` — a count and then the elements.

  Nothing here is about a particular format.
-/
import Mathlib

namespace Fdbus.Codec

open List

variable {σ α β : Type} {γ : Type} (place : List γ → List γ → σ)

/-- Started in front of `bytes`, the decoder stops right behind them with a value in `Q`. -/
def Decodes (m : StateT σ Option α) (bytes : List γ) (Q : α → Prop) : Prop :=
  ∀ before rest, ∃ a,
    m (place before (bytes ++ rest)) = some (a, place (before ++ bytes) rest) ∧ Q a

variable {place}

theorem Decodes.pure {a : α} {Q : α → Prop} (h : Q a) :
    Decodes place (pure a : StateT σ Option α) [] Q := by
  intro before rest
  refine ⟨a, ?_, h⟩
  rw [append_nil, nil_append]
  rfl

/-- **One decoder after another**: the bytes of the two lie behind each other. -/
theorem Decodes.bind {m : StateT σ Option α} {k : α → StateT σ Option β} {bytes bytes' : List γ}
    {Q : α → Prop} {R : β → Prop} (hm : Decodes place m bytes Q)
    (hk : ∀ a, Q a → Decodes place (k a) bytes' R) :
    Decodes place (m >>= k) (bytes ++ bytes') R := by
  intro before rest
  obtain ⟨a, hma, ha⟩ := hm before (bytes' ++ rest)
  obtain ⟨b, hkb, hb⟩ := hk a ha (before ++ bytes) rest
  refine ⟨b, ?_, hb⟩
  show (m _).bind (fun p => k p.1 p.2) = _
  rw [append_assoc, hma, Option.bind_some, ← append_assoc]
  exact hkb

/-- **A loop over elements**, by induction over the values that were encoded: each one is decoded
into the place of an old element. -/
theorem Decodes.mapM {ν : Type} {f : α → StateT σ Option β} {enc : ν → List γ}
    {R : ν → β → Prop} (vs : List ν) :
    ∀ (olds : List α), olds.length = vs.length →
      (∀ v ∈ vs, ∀ old, Decodes place (f old) (enc v) (R v)) →
      Decodes place (olds.mapM f) (vs.flatMap enc) (Forall₂ R vs) := by
  induction vs with
  | nil =>
    intro olds hlen _
    obtain rfl := length_eq_zero_iff.mp hlen
    exact Decodes.pure Forall₂.nil
  | cons v vs ih =>
    intro olds hlen helem
    cases olds with
    | nil => cases hlen
    | cons old olds =>
      rw [mapM_cons, flatMap_cons]
      refine (helem v mem_cons_self old).bind fun b hb => ?_
      have hrest := ih olds (Nat.succ.inj hlen) fun w hw => helem w (mem_cons_of_mem v hw)
      rw [← append_nil (vs.flatMap enc)]
      exact hrest.bind fun bs hbs => Decodes.pure (Forall₂.cons hb hbs)

/-! ## Codes that say where they end. -/

/-- Two codes that start the same input are codes of the same value. -/
def SelfDelimiting (D : α → Prop) (enc : α → List γ) : Prop :=
  ∀ v w, D v → D w → ∀ rest rest', enc v ++ rest = enc w ++ rest' → v = w ∧ rest = rest'

section SelfDelimiting

variable {D : α → Prop} {enc : α → List γ}

theorem SelfDelimiting.injective (h : SelfDelimiting D enc) {v w : α} (hv : D v) (hw : D w)
    (heq : enc v = enc w) : v = w :=
  (h v w hv hw [] [] (by rw [heq])).1

/-- Codes of one length. -/
theorem SelfDelimiting.of_length {n : Nat} (hlen : ∀ v, D v → (enc v).length = n)
    (hinj : ∀ v w, D v → D w → enc v = enc w → v = w) : SelfDelimiting D enc := by
  intro v w hv hw rest rest' heq
  obtain ⟨hcode, hrest⟩ := append_inj heq ((hlen v hv).trans (hlen w hw).symm)
  exact ⟨hinj v w hv hw hcode, hrest⟩

/-- The code of something from which the value can be told. -/
theorem SelfDelimiting.comap {E : β → Prop} {enc' : β → List γ} (h : SelfDelimiting D enc)
    {f : β → α} (hf : Function.Injective f) (henc : ∀ v, E v → D (f v) ∧ enc' v = enc (f v)) :
    SelfDelimiting E enc' := by
  intro v w hv hw rest rest' heq
  rw [(henc v hv).2, (henc w hw).2] at heq
  obtain ⟨hvw, hrest⟩ := h _ _ (henc v hv).1 (henc w hw).1 rest rest' heq
  exact ⟨hf hvw, hrest⟩

/-- Two codes one after the other. -/
theorem SelfDelimiting.pair {E : β → Prop} {enc' : β → List γ} (h : SelfDelimiting D enc)
    (h' : SelfDelimiting E enc') :
    SelfDelimiting (fun p : α × β => D p.1 ∧ E p.2) fun p => enc p.1 ++ enc' p.2 := by
  intro p q hp hq rest rest' heq
  rw [append_assoc, append_assoc] at heq
  obtain ⟨hfst, htail⟩ := h p.1 q.1 hp.1 hq.1 _ _ heq
  obtain ⟨hsnd, hrest⟩ := h' p.2 q.2 hp.2 hq.2 rest rest' htail
  exact ⟨Prod.ext hfst hsnd, hrest⟩

/-- As many codes one after the other on both sides, by induction over the values. -/
theorem SelfDelimiting.flatMap (h : SelfDelimiting D enc) (vs : List α) :
    ∀ (ws : List α), vs.length = ws.length → (∀ v ∈ vs, D v) → (∀ w ∈ ws, D w) →
      ∀ rest rest', vs.flatMap enc ++ rest = ws.flatMap enc ++ rest' → vs = ws ∧ rest = rest' := by
  induction vs with
  | nil =>
    intro ws hlen _ _ rest rest' heq
    obtain rfl := length_eq_zero_iff.mp hlen.symm
    exact ⟨rfl, heq⟩
  | cons v vs ih =>
    intro ws hlen hv hw rest rest' heq
    obtain ⟨w, ws, rfl⟩ := exists_cons_of_length_eq_add_one hlen.symm
    rw [flatMap_cons, flatMap_cons, append_assoc, append_assoc] at heq
    obtain ⟨rfl, htail⟩ := h v w (hv v mem_cons_self) (hw w mem_cons_self) _ _ heq
    obtain ⟨rfl, hrest⟩ := ih ws (Nat.succ.inj hlen)
      (fun x hx => hv x (mem_cons_of_mem v hx))
      (fun x hx => hw x (mem_cons_of_mem v hx)) rest rest' htail
    exact ⟨rfl, hrest⟩

/-- **A count and then the elements**, for the counts that have a code of their own. -/
theorem SelfDelimiting.counted {E : Nat → Prop} {count : Nat → List γ}
    (hcount : SelfDelimiting E count) (h : SelfDelimiting D enc) :
    SelfDelimiting (fun vs : List α => E vs.length ∧ ∀ v ∈ vs, D v)
      fun vs => count vs.length ++ vs.flatMap enc := by
  intro vs ws hvs hws rest rest' heq
  rw [append_assoc, append_assoc] at heq
  obtain ⟨hlen, htail⟩ := hcount _ _ hvs.1 hws.1 _ _ heq
  exact h.flatMap vs ws hlen hvs.2 hws.2 rest rest' htail

end SelfDelimiting

end Fdbus.Codec

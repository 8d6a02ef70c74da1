/-
  Fdbus.Library.Framing — which frames of a stream are complete in its first bytes.

  A stream is the concatenation of a list of frames.  `within frames n` are the frames
  that end in the first `n` elements of the stream, and `upToStop` cuts a list of frames
  behind the first one at which a reader stops.  A reader that has taken the frames `done`
  and holds less than the next one has taken exactly `within` (`within_of_pending`).
-/
import Mathlib

namespace Fdbus.Framing

open List

variable {α : Type*}

/-! ## §1. Complete frames. -/

/-- The frames that end in the first `n` elements of the stream. -/
def within : List (List α) → Nat → List (List α)
  | [], _ => []
  | f :: fs, n => if f.length ≤ n then f :: within fs (n - f.length) else []

/-- Frames that were taken completely come first. -/
theorem within_append (done rest : List (List α)) (n : Nat) :
    within (done ++ rest) (done.flatten.length + n) = done ++ within rest n := by
  induction done with
  | nil => simp
  | cons f fs ih =>
    have hle : f.length ≤ (f :: fs).flatten.length + n := by
      simp only [flatten_cons, length_append]
      omega
    have hsub : (f :: fs).flatten.length + n - f.length = fs.flatten.length + n := by
      simp only [flatten_cons, length_append]
      omega
    show (if f.length ≤ _ then f :: within (fs ++ rest) _ else []) = _
    rw [if_pos hle, hsub, ih]
    rfl

/-- **A reader that holds a proper part of the next frame has taken the complete ones.** -/
theorem within_of_pending {done rest : List (List α)} {held : Nat}
    (hheld : ∀ f fs, rest = f :: fs → held < f.length) :
    within (done ++ rest) (done.flatten.length + held) = done := by
  rw [within_append]
  cases rest with
  | nil => simp [within]
  | cons f fs =>
    have := hheld f fs rfl
    have hgt : ¬ f.length ≤ held := by omega
    simp [within, hgt]

/-- All frames are complete in the whole stream. -/
theorem within_all (frames : List (List α)) : within frames frames.flatten.length = frames := by
  have := within_append frames [] 0
  simpa [within] using this

variable {taken : List (List α)} {f : List α}

/-- Held elements and the stream to come spell a list of frames, and the first frame is
held completely: it is the front of the held elements. -/
theorem split_first_frame {held incoming : List α} {fs : List (List α)}
    (h : held ++ incoming = (f :: fs).flatten) (hle : f.length ≤ held.length) :
    held.take f.length = f ∧ held.drop f.length ++ incoming = fs.flatten := by
  rw [flatten_cons] at h
  constructor
  · have := congrArg (take f.length) h
    rwa [take_append_of_le_length hle, take_left] at this
  · have := congrArg (drop f.length) h
    rwa [drop_append_of_le_length hle, drop_left] at this

/-! ## §2. Readers that stop. -/

/-- The frames up to and including the first one at which the reader stops; `stops` sees
all frames taken so far. -/
def upToStop (stops : List (List α) → Bool) : List (List α) → List (List α) → List (List α)
  | _, [] => []
  | past, f :: fs =>
    f :: if stops (past ++ [f]) then [] else upToStop stops (past ++ [f]) fs

/-- The reader has taken the frames `taken` after `past` and not stopped at any of them. -/
def NoStop (stops : List (List α) → Bool) (past : List (List α)) : List (List α) → Prop
  | [] => True
  | f :: fs => stops (past ++ [f]) = false ∧ NoStop stops (past ++ [f]) fs

variable {stops : List (List α) → Bool}

theorem upToStop_append :
    ∀ {past taken : List (List α)} (rest : List (List α)), NoStop stops past taken →
      upToStop stops past (taken ++ rest) = taken ++ upToStop stops (past ++ taken) rest
  | past, [], rest, _ => by simp
  | past, f :: fs, rest, h => by
    have hrest : upToStop stops (past ++ [f]) (fs ++ rest)
        = fs ++ upToStop stops (past ++ [f] ++ fs) rest := upToStop_append rest h.2
    simp only [cons_append, upToStop, h.1, Bool.false_eq_true, if_false, hrest,
      append_assoc, nil_append]

theorem upToStop_of_noStop (h : NoStop stops [] taken) : upToStop stops [] taken = taken := by
  have := upToStop_append [] h
  simpa [upToStop] using this

/-- The reader stops at `f`: what comes later does not matter. -/
theorem upToStop_of_stop (rest : List (List α)) (h : NoStop stops [] taken)
    (hf : stops (taken ++ [f]) = true) : upToStop stops [] (taken ++ f :: rest) = taken ++ [f] := by
  rw [upToStop_append (f :: rest) h]
  simp [upToStop, hf]

theorem NoStop.concat :
    ∀ {past taken : List (List α)}, NoStop stops past taken →
      stops (past ++ taken ++ [f]) = false → NoStop stops past (taken ++ [f])
  | past, [], _, hf => ⟨by simpa using hf, trivial⟩
  | past, g :: gs, h, hf => ⟨h.1, NoStop.concat h.2 (by simpa using hf)⟩

theorem NoStop.within :
    ∀ {past frames : List (List α)} (n : Nat), NoStop stops past frames →
      NoStop stops past (within frames n)
  | _, [], _, _ => trivial
  | _, f :: _, n, h => by
    unfold Framing.within
    split
    · exact ⟨h.1, NoStop.within (n - f.length) h.2⟩
    · trivial

end Fdbus.Framing

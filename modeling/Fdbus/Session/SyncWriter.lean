/-
  Fdbus.Session.SyncWriter — the synchronous `CFdbSession::sendMessage(buffer, size)`.

  The function offers the rest of its frame to the socket until everything is accepted.
  Between two attempts it lets the worker dispatch input, and a handler that runs then may
  send on the same session: such a call is nested in the one that waits.  The state is the
  stack of calls, the innermost first, with the bytes the socket has accepted so far.

    * `whole_frames` — as long as the socket accepts bytes of a call only while the calls
      below it have written nothing, the accepted bytes are the beginning of a concatenation
      of whole frames.

  `mRecursiveDepth` is the number of calls on the stack.
-/
import Fdbus.Library.Run
import Fdbus.Worker.OutputChunk

namespace Fdbus.Session

open Fdbus.Run List Option
open Fdbus.Worker (WriteResult)

/-! ## §1. The calls. -/

/-- `FDB_SEND_RETRIES`. -/
def fdbSendRetries : Nat := 1024 * 10

/-- `FDB_SEND_MAX_RECURSIVE`. -/
def fdbSendMaxRecursive : Nat := 128

/-- A call of `sendMessage` that has not returned: its frame, how much of it the socket has
accepted, the attempts left, and whether it has made one. -/
structure SendCall where
  frame : List UInt8
  written : Nat
  retries : Nat
  tried : Bool
  written_le : written ≤ frame.length

/-- The bytes from `buffer` on. -/
def SendCall.rest (c : SendCall) : List UInt8 := c.frame.drop c.written

/-- The bytes of the frame that are on the wire. -/
def SendCall.begun (c : SendCall) : List UInt8 := c.frame.take c.written

/-- A call that has written nothing is within its frame. -/
theorem none_written (frame : List UInt8) : 0 ≤ frame.length := Nat.zero_le _

/-- A call that has made no attempt. -/
def SendCall.enter (frame : List UInt8) : SendCall :=
  ⟨frame, 0, fdbSendRetries, false, none_written frame⟩

/-- One attempt, of whose bytes the socket accepts `count` (no more than it is offered). -/
def SendCall.advance (c : SendCall) (count : Nat) : SendCall where
  frame := c.frame
  written := c.written + min count (c.frame.length - c.written)
  retries := c.retries - 1
  tried := true
  written_le := by
    have := c.written_le
    omega

/-- A session in synchronous mode, with what the environment sees of it: the bytes the
socket accepted and the frames `sendMessage` was called with. -/
structure SyncWriter where
  mFatalError : Bool
  calls : List SendCall
  wire : List UInt8
  frames : List (List UInt8)

/-- A session that has sent nothing. -/
def SyncWriter.start : SyncWriter := ⟨false, [], [], []⟩

/-- What happens to a session: `sendMessage` is called, the innermost call's attempt has a
result, or something else sets `fatalError`. -/
inductive SyncEvent where
  | sendMessage (frame : List UInt8)
  | attempt (result : WriteResult)
  | fatalError

/-- A call can begin: none is under way, or the innermost one is in `dispatchInput`. -/
def SyncWriter.mayCall (s : SyncWriter) : Bool :=
  match s.calls with
  | [] => true
  | c :: _ => c.tried && decide (s.calls.length < fdbSendMaxRecursive)

/-- The end of an attempt of `c`, which has `below` under it: the frame is complete, there
is no attempt left, or the call goes on. -/
def SyncWriter.endAttempt (s : SyncWriter) (c : SendCall) (below : List SendCall) : SyncWriter :=
  if c.rest = [] then { s with calls := below }
  else if c.retries = 0 then { s with mFatalError := true, calls := below }
  else { s with calls := c :: below }

/-- One event. -/
def SyncWriter.step (s : SyncWriter) : SyncEvent → Option SyncWriter
  | .sendMessage frame =>
    -- the call returns false at once
    if s.mFatalError then some s
    else if s.mayCall then
      some { s with calls := SendCall.enter frame :: s.calls, frames := s.frames ++ [frame] }
    else none
  | .attempt result =>
    match s.calls with
    | [] => none
    | c :: below =>
      match result with
      | .error => some { s with mFatalError := true, calls := below }
      | .accept count =>
        some ({ s with wire := s.wire ++ c.rest.take count }.endAttempt
          (c.advance count) below)
  | .fatalError => some { s with mFatalError := true }

/-! ## §2. What an attempt does to a call. -/

open SendCall

theorem SendCall.begun_advance (c : SendCall) (count : Nat) :
    (c.advance count).begun = c.begun ++ c.rest.take count := by
  unfold begun rest
  show c.frame.take (c.written + min count (c.frame.length - c.written)) = _
  have hrest : (c.frame.drop c.written).take (min count (c.frame.length - c.written))
      = (c.frame.drop c.written).take count := by
    rw [take_eq_take_iff, length_drop]
    omega
  rw [take_add, hrest]

variable {s : SyncWriter} {done : List (List UInt8)} {c : SendCall} {below : List SendCall}
  {count : Nat}

theorem SendCall.begun_of_rest_nil (h : c.rest = []) : c.begun = c.frame := by
  unfold rest at h
  rw [drop_eq_nil_iff] at h
  exact take_of_length_le h

theorem SendCall.begun_of_written_zero (h : c.written = 0) : c.begun = [] := by
  unfold begun
  rw [h, take_zero]

/-! ## §3. The invariant. -/

/-- Nothing is begun by calls that have written nothing. -/
theorem begun_nil {calls : List SendCall} (h : ∀ c ∈ calls, c.written = 0) :
    calls.flatMap begun = [] := by
  rw [flatMap_eq_nil_iff]
  intro c hc
  exact begun_of_written_zero (h c hc)

/-- At most one call of the stack has written something. -/
def OneBegun (calls : List SendCall) : Prop :=
  calls.Pairwise fun a b => a.written = 0 ∨ b.written = 0

/-- With the frames in `done` written completely, the wire holds them and what the calls
under way have written. -/
structure FramesKept (s : SyncWriter) (done : List (List UInt8)) : Prop where
  frames : (done ++ s.calls.map (·.frame)).Perm s.frames
  wire : s.wire = done.flatten ++ s.calls.flatMap SendCall.begun
  one : OneBegun s.calls

/-- What one call of the stack has begun is all that the stack has begun. -/
theorem OneBegun.begun_eq {calls : List SendCall} (h : OneBegun calls) :
    calls.flatMap begun = [] ∨ ∃ c ∈ calls, calls.flatMap begun = c.begun := by
  induction calls with
  | nil => exact .inl rfl
  | cons c below ih =>
    obtain ⟨hc, hbelow⟩ := pairwise_cons.mp h
    rw [flatMap_cons]
    by_cases hw : c.written = 0
    · rw [begun_of_written_zero hw, nil_append]
      rcases ih hbelow with hnil | ⟨c', hc', heq⟩
      · exact .inl hnil
      · exact .inr ⟨c', mem_cons_of_mem c hc', heq⟩
    · -- the innermost call has begun, so no other has
      have hzero : ∀ c' ∈ below, c'.written = 0 := fun c' hc' => (hc c' hc').resolve_left hw
      refine .inr ⟨c, mem_cons_self, ?_⟩
      rw [begun_nil hzero, append_nil]

/-- The accepted bytes are the beginning of a concatenation of frames that were sent, each
of them at most as often as it was. -/
def WholeFrames (s : SyncWriter) : Prop :=
  ∃ fs : List (List UInt8), fs.Subperm s.frames ∧ s.wire <+: fs.flatten

theorem FramesKept.wholeFrames (h : FramesKept s done) : WholeFrames s := by
  unfold WholeFrames
  rw [h.wire]
  rcases h.one.begun_eq with hnil | ⟨c, hc, heq⟩
  · refine ⟨done, ?_, by rw [hnil, append_nil]⟩
    exact (sublist_append_left done _).subperm.trans h.frames.subperm
  · refine ⟨done ++ [c.frame], ?_, ?_⟩
    · have hsub : [c.frame].Sublist (s.calls.map (·.frame)) :=
        singleton_sublist.mpr (mem_map.mpr ⟨c, hc, rfl⟩)
      exact ((Sublist.refl done).append hsub).subperm.trans h.frames.subperm
    · rw [heq, flatten_append, flatten_singleton]
      exact (prefix_append_right_inj _).mpr ( take_prefix _ _)

/-! ## §4. Runs. -/

/-- The socket accepts bytes only of a call below which nothing is half-written. -/
def BelowUnwritten (s : SyncWriter) : SyncEvent → Prop
  | .attempt (.accept count) => 0 < count → ∀ c ∈ s.calls.tail, c.written = 0
  | _ => True

/-- The bytes an attempt puts on the wire continue what its call has begun. -/
theorem wire_advance {wire done : List UInt8} {c : SendCall} {below : List SendCall}
    {count : Nat} (hwire : wire = done ++ (c :: below).flatMap begun)
    (hbelow : 0 < count → ∀ c ∈ below, c.written = 0) :
    wire ++ c.rest.take count
      = done ++ ((c.advance count).begun ++ below.flatMap begun) := by
  rw [hwire, flatMap_cons, begun_advance]
  by_cases hcount : 0 < count
  · rw [begun_nil (hbelow hcount)]
    simp
  · have hzero : count = 0 := by omega
    subst hzero
    simp

theorem oneBegun_advance
    (h : OneBegun (c :: below)) (hbelow : 0 < count → ∀ c ∈ below, c.written = 0) :
    OneBegun (c.advance count :: below) := by
  obtain ⟨hc, hrest⟩ := pairwise_cons.mp h
  refine pairwise_cons.mpr ⟨fun c' hc' => ?_, hrest⟩
  by_cases hcount : 0 < count
  · exact .inr (hbelow hcount c' hc')
  · have hsame : (c.advance count).written = c.written := by
      show c.written + min count _ = c.written
      omega
    rw [hsame]
    exact hc c' hc'

/-- An attempt keeps the frames whole, or fails. -/
theorem framesKept_accept (hcalls : s.calls = c :: below)
    (h : FramesKept s done) (hbelow : 0 < count → ∀ c ∈ below, c.written = 0) :
    let t := { s with wire := s.wire ++ c.rest.take count }.endAttempt (c.advance count) below
    t.mFatalError = true ∨ ∃ done', FramesKept t done' := by
  obtain ⟨hframes, hwire, hone⟩ := h
  rw [hcalls] at hframes hwire hone
  have hwire' := wire_advance hwire hbelow
  have hone' := oneBegun_advance hone hbelow
  show (SyncWriter.endAttempt _ _ _).mFatalError = true ∨ _
  unfold SyncWriter.endAttempt
  by_cases hrest : (c.advance count).rest = []
  · -- the frame is complete
    rw [if_pos hrest]
    refine .inr ⟨done ++ [c.frame], ?_, ?_, (pairwise_cons.mp hone').2⟩
    · rw [append_assoc]
      exact hframes
    · show s.wire ++ c.rest.take count = _
      have hframe : (c.advance count).begun = c.frame := begun_of_rest_nil hrest
      rw [hwire', hframe, flatten_append, flatten_singleton, append_assoc]
  · rw [if_neg hrest]
    by_cases hretries : (c.advance count).retries = 0
    · -- the last attempt was not enough
      rw [if_pos hretries]
      exact .inl rfl
    · -- the call goes on and may dispatch input
      rw [if_neg hretries]
      refine .inr ⟨done, hframes, ?_, hone'⟩
      show s.wire ++ c.rest.take count = _
      rw [hwire', flatMap_cons]

/-- Entering a call keeps the frames whole. -/
theorem framesKept_enter (h : FramesKept s done) (frame : List UInt8) :
    FramesKept { s with calls := enter frame :: s.calls, frames := s.frames ++ [frame] }
      done where
  frames := by
    show (done ++ frame :: s.calls.map (·.frame)).Perm (s.frames ++ [frame])
    exact (perm_middle.trans (h.frames.cons frame)).trans (perm_append_singleton _ _).symm
  wire := by
    show s.wire = done.flatten ++ (enter frame :: s.calls).flatMap begun
    exact h.wire
  one := pairwise_cons.mpr ⟨fun _ _ => .inl rfl, h.one⟩

/-- `fatalError` is never taken back. -/
theorem step_of_fatal {t : SyncWriter} {e : SyncEvent} (h : s.mFatalError = true)
    (hstep : s.step e = some t) : t.mFatalError = true := by
  unfold SyncWriter.step at hstep
  split at hstep
  · rw [if_pos h, some.injEq] at hstep
    exact hstep ▸ h
  · split at hstep
    · exact absurd hstep (by simp)
    · split at hstep
      · rw [some.injEq] at hstep
        exact hstep ▸ rfl
      · rw [some.injEq] at hstep
        rw [← hstep]
        unfold SyncWriter.endAttempt
        split
        · exact h
        · split
          · rfl
          · exact h
  · rw [some.injEq] at hstep
    exact hstep ▸ rfl

/-- One event keeps the frames whole until `fatalError` is set. -/
theorem framesKept_step {t : SyncWriter} {e : SyncEvent} (hg : BelowUnwritten s e)
    (h : s.mFatalError = true ∨ ∃ done, FramesKept s done) (hstep : s.step e = some t) :
    t.mFatalError = true ∨ ∃ done, FramesKept t done := by
  rcases h with hfatal | ⟨done, hkept⟩
  · exact .inl (step_of_fatal hfatal hstep)
  · unfold SyncWriter.step at hstep
    split at hstep
    · next frame =>
        split at hstep
        · rw [some.injEq] at hstep
          exact hstep ▸ .inr ⟨done, hkept⟩
        · split at hstep
          · rw [some.injEq] at hstep
            exact hstep ▸ .inr ⟨done, framesKept_enter hkept frame⟩
          · exact absurd hstep (by simp)
    · split at hstep
      · exact absurd hstep (by simp)
      · next c below hcalls =>
          split at hstep
          · rw [some.injEq] at hstep
            exact hstep ▸ .inl rfl
          · next count =>
              have hbelow : 0 < count → ∀ c ∈ below, c.written = 0 := by
                intro hcount
                have := hg hcount
                rwa [hcalls] at this
              rw [some.injEq] at hstep
              exact hstep ▸ framesKept_accept hcalls hkept hbelow
    · rw [some.injEq] at hstep
      exact hstep ▸ .inl rfl

/-- **Frames stay whole.**  In every run in which the socket accepts bytes only of a call
below which nothing is half-written, as long as `fatalError` is not set, the accepted bytes
are the beginning of a concatenation of frames that were sent. -/
theorem whole_frames {es : List SyncEvent} {s : SyncWriter}
    (hes : Along SyncWriter.step BelowUnwritten SyncWriter.start es)
    (hrun : run SyncWriter.step SyncWriter.start es = some s) (hok : s.mFatalError = false) :
    WholeFrames s := by
  have hstart : FramesKept SyncWriter.start [] := ⟨.rfl, rfl, Pairwise.nil⟩
  have h := run_along (P := fun s => s.mFatalError = true ∨ ∃ done, FramesKept s done)
    (fun _ _ _ hg hs hstep => framesKept_step hg hs hstep) (.inr ⟨[], hstart⟩) hes hrun
  rcases h with hfatal | ⟨done, hkept⟩
  · exact absurd hfatal (by simp [hok])
  · exact hkept.wholeFrames

/-- A call waits with nothing written while a nested one is written completely. -/
def nestedFirst : List SyncEvent :=
  [.sendMessage [1, 2], .attempt (.accept 0), .sendMessage [9], .attempt (.accept 1),
    .attempt (.accept 1)]

theorem whole_frames_nested :
    ∃ s, run SyncWriter.step SyncWriter.start nestedFirst = some s ∧ s.wire = [9, 1]
      ∧ WholeFrames s := by
  refine ⟨_, rfl, rfl, @whole_frames nestedFirst _ ?_ rfl rfl⟩
  refine along_cons trivial rfl (along_cons (fun h => absurd h (by decide)) rfl
    (along_cons trivial rfl (along_cons ?_ rfl (along_cons ?_ rfl trivial))))
  · intro _ c hc
    obtain rfl := mem_singleton.mp hc
    rfl
  · intro _ c hc
    cases hc

/-- The second frame is sent while one byte of the first is on the wire. -/
def nestedBetween : List SyncEvent :=
  [.sendMessage [1, 2, 3], .attempt (.accept 1), .sendMessage [9], .attempt (.accept 1)]

/-- The nested frame stands in the middle of the first one. -/
theorem frame_interleaved :
    ∃ s, run SyncWriter.step SyncWriter.start nestedBetween = some s
      ∧ s.mFatalError = false ∧ s.wire = [1, 9] ∧ ¬ WholeFrames s := by
  refine ⟨_, rfl, rfl, rfl, ?_⟩
  rintro ⟨fs, hsub, hwire⟩
  replace hwire : [1, 9] <+: fs.flatten := hwire
  match fs with
  | [] => exact absurd hwire (by decide)
  | f :: fs =>
    have hf : f ∈ [[1, 2, 3], [9]] := hsub.subset mem_cons_self
    rcases mem_cons.mp hf with rfl | hf
    · exact absurd hwire (by simp [cons_prefix_cons])
    · obtain rfl := mem_singleton.mp hf
      exact absurd hwire (by simp [cons_prefix_cons])

end Fdbus.Session

/-
  Fdbus.Worker.OutputChunk — the asynchronous writer of `CSysFdWatch`.

  `submitOutput` writes straight to the descriptor while nothing is queued and queues
  the rest of what it could not write; `processOutput` drains the queue when the
  descriptor polls writable.  `writeStream` is the environment: on each call it accepts
  any number of the bytes offered, or fails.

  The bytes it has accepted are recorded in `written`.  The invariant `OutputInv` says
  that they, followed by what the queue still holds, are what was submitted; from it:

    * `written_stream_exact` — along every interleaving of the two calls the accepted
      bytes are a prefix of the submitted ones, all of them once the queue is empty, and
      POLLOUT is set exactly while something is queued.

  A buffer is a byte list, so `mSize` is its length; that an allocation can fail is left
  out.  The logger's copy of a message (`mLogBuffer`) is kept, because both functions
  decide when it is sent.
-/
import Fdbus.Library.Run

namespace Fdbus.Worker

open List

/-! ## §1. The writer's state. -/

/-- One result of `writeStream`: a negative return, or a number of accepted bytes (of
which no more than the size offered counts). -/
inductive WriteResult where
  | error
  | accept (count : Nat)
  deriving Repr, DecidableEq

/-- `COutputDataChunk`: a submitted buffer, of which the first `mConsumed` bytes are
written already. -/
structure COutputDataChunk where
  mBuffer : List UInt8
  mConsumed : Nat
  mLogBuffer : Option (List UInt8)
  consumed_le : mConsumed ≤ mBuffer.length

/-- `mSize`. -/
def COutputDataChunk.mSize (c : COutputDataChunk) : Nat := c.mBuffer.length

/-- The bytes from `mBuffer + mConsumed` on. -/
def COutputDataChunk.rest (c : COutputDataChunk) : List UInt8 := c.mBuffer.drop c.mConsumed

/-- `POLLOUT`. -/
def pollOut : BitVec 32 := 4#32

/-- The part of `CSysFdWatch` the two output functions use, with what the environment
has seen of them: the bytes `writeStream` accepted and the logs handed to the logger. -/
structure COutputWatch where
  mOutputChunkList : List COutputDataChunk
  mFlags : BitVec 32
  mFatalError : Bool
  written : List UInt8
  logs : List (List UInt8)

/-- `updateFlags(mask, value)`. -/
def COutputWatch.updateFlags (w : COutputWatch) (mask value : BitVec 32) : COutputWatch :=
  { w with mFlags := (w.mFlags &&& ~~~mask) ||| value }

/-- The call `logger->sendLog(REQ_FDBUS_LOG, ..)`, made when there is a log buffer and a
logger. -/
def COutputWatch.sendLog (w : COutputWatch) (logger : Bool) (log : Option (List UInt8)) :
    COutputWatch :=
  match log with
  | some l => if logger then { w with logs := w.logs ++ [l] } else w
  | none => w

/-! ## §2. `submitOutput` and `processOutput`. -/

/-- `submitOutput(msg_buffer, msg_size, log_buffer, log_size)`. -/
def submitOutput (logger : Bool) (w : COutputWatch) (msg : List UInt8)
    (log : Option (List UInt8)) (r : WriteResult) : COutputWatch :=
  if msg = [] ∨ w.mFatalError = true then w
  else if w.mOutputChunkList ≠ [] then
    { w with mOutputChunkList := w.mOutputChunkList ++ [⟨msg, 0, log, Nat.zero_le _⟩] }
  else
    match r with
    | .error => { w with mFatalError := true }
    | .accept k =>
      let consumed := min k msg.length
      let w₁ := { w with written := w.written ++ msg.take consumed }
      if consumed < msg.length then
        COutputWatch.updateFlags
          { w₁ with mOutputChunkList := [⟨msg, consumed, log, Nat.min_le_right _ _⟩] }
          pollOut pollOut
      else w₁.sendLog logger log

/-- The `while` loop of `processOutput`, over the chunks still queued.  The results of
`writeStream` are consumed in order; when they run out the descriptor takes nothing. -/
def processOutputLoop (logger : Bool) :
    List COutputDataChunk → List WriteResult → COutputWatch → COutputWatch
  | [], _, w => { w with mOutputChunkList := [] }
  | c :: cs, rs, w =>
    if c.mSize = 0 then processOutputLoop logger cs rs w
    else
      match rs.headD (.accept 0) with
      | .error => { w with mFatalError := true, mOutputChunkList := [] }
      | .accept k =>
        let consumed := min k c.rest.length
        let w₁ := { w with written := w.written ++ c.rest.take consumed }
        if h : consumed < c.rest.length then
          { w₁ with mOutputChunkList := { c with
              mConsumed := c.mConsumed + consumed
              consumed_le := by
                simp only [COutputDataChunk.rest, List.length_drop] at h
                omega } :: cs }
        else processOutputLoop logger cs rs.tail (w₁.sendLog logger c.mLogBuffer)

/-- `processOutput()`. -/
def processOutput (logger : Bool) (w : COutputWatch) (rs : List WriteResult) : COutputWatch :=
  if w.mOutputChunkList = [] then w
  else
    let w₁ := processOutputLoop logger w.mOutputChunkList rs w
    if w₁.mOutputChunkList = [] then w₁.updateFlags pollOut 0 else w₁

/-! ## §3. Interleavings of the two calls. -/

/-- One call made on the watch. -/
inductive OutputCall where
  | submit (msg : List UInt8) (log : Option (List UInt8)) (result : WriteResult)
  | process (results : List WriteResult)

/-- The call as a step of the watch. -/
def outputStep (logger : Bool) (w : COutputWatch) : OutputCall → Option COutputWatch
  | .submit msg log r => some (submitOutput logger w msg log r)
  | .process rs => some (processOutput logger w rs)

/-- The bytes a call submits. -/
def OutputCall.bytes : OutputCall → List UInt8
  | .submit msg _ _ => msg
  | .process _ => []

/-- The concatenation of the submitted buffers, in submission order. -/
def submitted (calls : List OutputCall) : List UInt8 := calls.flatMap OutputCall.bytes

/-- A watch on which no output call has been made, with POLLOUT clear. -/
def COutputWatch.idle (flags : BitVec 32) : COutputWatch :=
  ⟨[], flags &&& ~~~pollOut, false, [], []⟩

/-- Is POLLOUT set in the flags? -/
def COutputWatch.pollOutSet (w : COutputWatch) : Bool := w.mFlags &&& pollOut != 0

/-- The bytes the queue still holds. -/
def COutputWatch.queued (w : COutputWatch) : List UInt8 :=
  w.mOutputChunkList.flatMap COutputDataChunk.rest

/-- Every queued chunk still has a byte to write. -/
def Unsent (cs : List COutputDataChunk) : Prop := ∀ c ∈ cs, c.mConsumed < c.mSize

variable (w : COutputWatch) (logger : Bool) {sent : List UInt8} (l : Option (List UInt8))

@[simp] theorem sendLog_written : (w.sendLog logger l).written = w.written := by
  cases l <;> cases logger <;> rfl

@[simp] theorem sendLog_mFlags : (w.sendLog logger l).mFlags = w.mFlags := by
  cases l <;> cases logger <;> rfl

@[simp] theorem sendLog_mFatalError : (w.sendLog logger l).mFatalError = w.mFatalError := by
  cases l <;> cases logger <;> rfl

@[simp] theorem sendLog_mOutputChunkList :
    (w.sendLog logger l).mOutputChunkList = w.mOutputChunkList := by
  cases l <;> cases logger <;> rfl

open COutputWatch COutputDataChunk

theorem pollOutSet_updateFlags_set : (w.updateFlags pollOut pollOut).pollOutSet = true := by
  simp only [pollOutSet, updateFlags, bne_iff_ne, ne_eq]
  intro h
  have := congrArg (fun b : BitVec 32 => b.getLsbD 2) h
  simp [pollOut] at this

theorem pollOut_and_clear (f : BitVec 32) : (f &&& ~~~pollOut) &&& pollOut = 0#32 := by
  ext i hi
  simp only [BitVec.getElem_and, BitVec.getElem_not, BitVec.getElem_zero]
  cases f[i] <;> cases pollOut[i] <;> rfl

/-! ## §4. What the drain loop does. -/

/-- **The loop moves bytes from the queue to the descriptor, in order.**  Unless a write
fails, what it wrote and what it left queued are together what was queued before. -/
theorem processOutputLoop_spec :
    ∀ (cs : List COutputDataChunk) (rs : List WriteResult) (w : COutputWatch), Unsent cs →
      ∃ moved left, moved ++ left = cs.flatMap rest
        ∧ (processOutputLoop logger cs rs w).written = w.written ++ moved
        ∧ (processOutputLoop logger cs rs w).mFlags = w.mFlags
        ∧ Unsent (processOutputLoop logger cs rs w).mOutputChunkList
        ∧ ((processOutputLoop logger cs rs w).mFatalError = true
              ∧ (processOutputLoop logger cs rs w).mOutputChunkList = []
            ∨ (processOutputLoop logger cs rs w).mFatalError = w.mFatalError
              ∧ (processOutputLoop logger cs rs w).queued = left) := by
  intro cs
  induction cs with
  | nil =>
    intro rs w _
    refine ⟨[], [], rfl, ?_, rfl, ?_, .inr ⟨rfl, rfl⟩⟩
    · simp [processOutputLoop]
    · intro c hc
      simp [processOutputLoop] at hc
  | cons c cs ih =>
    intro rs w hun
    have hc : c.mConsumed < c.mSize := hun c mem_cons_self
    have hcs : Unsent cs := fun d hd => hun d (mem_cons_of_mem c hd)
    have hsize : ¬ c.mSize = 0 := by omega
    unfold processOutputLoop
    rw [if_neg hsize]
    cases rs.headD (.accept 0) with
    | error =>
      -- the write failed: the queue is dropped
      refine ⟨[], _, rfl, by simp, rfl, ?_, .inl ⟨rfl, rfl⟩⟩
      intro d hd
      simp at hd
    | accept k =>
      dsimp only
      split
      next hpart =>
        -- a partial write: the chunk stays at the head of the queue
        refine ⟨c.rest.take (min k c.rest.length),
          c.rest.drop (min k c.rest.length) ++ cs.flatMap rest,
          ?_, rfl, rfl, ?_, .inr ⟨rfl, ?_⟩⟩
        · rw [← append_assoc, take_append_drop, flatMap_cons]
        · intro d hd
          rcases mem_cons.mp hd with hd | hd
          · subst hd
            simp only [rest, length_drop] at hpart
            simp only [mSize, rest, length_drop]
            omega
          · exact hcs d hd
        · simp only [queued, flatMap_cons]
          congr 1
          simp [rest, drop_drop]
      next hfull =>
        -- the chunk is written out: go on with the next one
        obtain ⟨moved, left, hsplit, hw, hf, hu, hend⟩ :=
          ih rs.tail (({ w with written :=
            w.written ++ c.rest.take (min k c.rest.length) } :
              COutputWatch).sendLog logger c.mLogBuffer) hcs
        have hall : c.rest.take (min k c.rest.length) = c.rest :=
          take_of_length_le (by omega)
        refine ⟨c.rest ++ moved, left, ?_, ?_, ?_, hu, ?_⟩
        · rw [append_assoc, hsplit, flatMap_cons]
        · rw [hw, sendLog_written, hall, append_assoc]
        · rw [hf, sendLog_mFlags]
        · rwa [sendLog_mFatalError] at hend

/-! ## §5. The stream invariant. -/

/-- What holds between calls when `sent` is what was submitted so far.  After a failed
write the queue is gone and only the prefix property is left. -/
structure OutputInv (sent : List UInt8) (w : COutputWatch) : Prop where
  accepted : w.written <+: sent
  dropped : w.mFatalError = true → w.mOutputChunkList = []
  unsent : Unsent w.mOutputChunkList
  stream : w.mFatalError = false → w.written ++ w.queued = sent
  poll : w.mFatalError = false → (w.pollOutSet = true ↔ w.mOutputChunkList ≠ [])

theorem outputInv_idle (flags : BitVec 32) : OutputInv [] (idle flags) where
  accepted := prefix_refl []
  dropped := fun _ => rfl
  unsent := fun _ hc => absurd hc (not_mem_nil)
  stream := fun _ => rfl
  poll := fun _ => by
    simp [pollOutSet, idle, pollOut_and_clear]

/-- A failed watch stays correct however much more is submitted. -/
theorem outputInv_of_fatal {more : List UInt8} {w : COutputWatch}
    (h : w.written <+: sent) (hd : w.mOutputChunkList = []) (hf : w.mFatalError = true) :
    OutputInv (sent ++ more) w where
  accepted := h.trans (prefix_append sent more)
  dropped := fun _ => hd
  unsent := fun c hc => absurd (hd ▸ hc) not_mem_nil
  stream := fun hf' => absurd (hf.symm.trans hf') (by decide)
  poll := fun hf' => absurd (hf.symm.trans hf') (by decide)

theorem submitOutput_inv {w : COutputWatch}
    (h : OutputInv sent w) (msg : List UInt8) (log : Option (List UInt8)) (r : WriteResult) :
    OutputInv (sent ++ msg) (submitOutput logger w msg log r) := by
  unfold submitOutput
  split
  next hskip =>
    rcases hskip with hmsg | hfatal
    · subst hmsg
      rwa [append_nil]
    · exact outputInv_of_fatal h.accepted (h.dropped hfatal) hfatal
  next hgo =>
    obtain ⟨hmsg, hfatal⟩ := not_or.mp hgo
    have hnf : w.mFatalError = false := by simpa using hfatal
    have hlen : 0 < msg.length := length_pos_iff.mpr hmsg
    have hstream := h.stream hnf
    split
    next hbusy =>
      -- something is queued already: append a fresh chunk behind it
      refine ⟨h.accepted.trans (prefix_append _ _),
        fun hf => absurd (hnf.symm.trans hf) (by decide), ?_, ?_, ?_⟩
      · exact forall_mem_append.mpr ⟨h.unsent, forall_mem_singleton.mpr hlen⟩
      · rw [← hstream]
        simp [queued, rest, append_assoc]
      · intro _
        have hpoll : w.pollOutSet = true := (h.poll hnf).mpr hbusy
        exact iff_of_true hpoll (by simp)
    next hidle =>
      have hempty : w.mOutputChunkList = [] := by simpa using hidle
      have hwritten : w.written = sent := by
        rw [← hstream]
        simp [queued, hempty]
      cases r with
      | error => exact outputInv_of_fatal h.accepted hempty rfl
      | accept k =>
        dsimp only
        split
        next hpart =>
          -- a partial write: the rest becomes the only chunk, and POLLOUT is raised
          refine ⟨?_, fun hf => absurd (hnf.symm.trans hf) (by decide), ?_, ?_, ?_⟩
          · show w.written ++ msg.take (min k msg.length) <+: sent ++ msg
            rw [hwritten]
            exact (prefix_append_right_inj sent).mpr ( take_prefix _ _)
          · intro c hc
            simp only [updateFlags, mem_singleton] at hc
            subst hc
            exact hpart
          · intro _
            show (w.written ++ msg.take (min k msg.length))
                ++ ([msg.drop (min k msg.length)].flatMap id) = sent ++ msg
            simp [hwritten, append_assoc]
          · rw [pollOutSet_updateFlags_set]
            simp [updateFlags]
        next hfull =>
          have hall : msg.take (min k msg.length) = msg :=
            take_of_length_le (by omega)
          refine ⟨?_, ?_, ?_, ?_, ?_⟩
          · rw [sendLog_written]
            show w.written ++ msg.take (min k msg.length) <+: sent ++ msg
            rw [hwritten, hall]
          · intro _
            rw [sendLog_mOutputChunkList, hempty]
          · rw [sendLog_mOutputChunkList]
            exact h.unsent
          · simp only [queued, sendLog_written, sendLog_mOutputChunkList]
            rw [hempty, hall, hwritten]
            simp
          · intro _
            have hpoll := h.poll hnf
            simp only [pollOutSet, sendLog_mFlags, sendLog_mOutputChunkList]
              at hpoll ⊢
            exact hpoll

theorem processOutput_inv {w : COutputWatch} (h : OutputInv sent w) (rs : List WriteResult) :
    OutputInv sent (processOutput logger w rs) := by
  unfold processOutput
  split
  next => exact h
  next hbusy =>
    obtain ⟨moved, left, hsplit, hw, hflags, hunsent, hend⟩ :=
      processOutputLoop_spec logger w.mOutputChunkList rs w h.unsent
    dsimp only
    generalize processOutputLoop logger w.mOutputChunkList rs w = w₁ at *
    have hnf : w.mFatalError = false := by
      cases hf : w.mFatalError with
      | false => rfl
      | true => exact absurd (h.dropped hf) hbusy
    have haccepted : w₁.written <+: sent := by
      rw [hw, ← h.stream hnf, queued, ← hsplit, ← append_assoc]
      exact prefix_append _ _
    have hstream : w₁.mFatalError = false → w₁.written ++ w₁.queued = sent := by
      intro hf
      rcases hend with ⟨hfatal, _⟩ | ⟨_, hqueued⟩
      · exact absurd (hfatal.symm.trans hf) (by decide)
      · rw [hw, hqueued, append_assoc, hsplit]
        exact h.stream hnf
    split
    next hdone =>
      -- the queue ran empty: POLLOUT is cleared
      refine ⟨haccepted, fun _ => hdone, hunsent, hstream, ?_⟩
      simp [pollOutSet, updateFlags, pollOut_and_clear, hdone]
    next hleft =>
      refine ⟨haccepted, ?_, hunsent, hstream, ?_⟩
      · intro hf
        rcases hend with ⟨_, hnil⟩ | ⟨hsame, _⟩
        · exact hnil
        · exact absurd (hsame.symm.trans hf) (by rw [hnf]; decide)
      · intro _
        have hpoll : w.pollOutSet = true := (h.poll hnf).mpr hbusy
        have hsame : w₁.pollOutSet = w.pollOutSet := by
          simp only [pollOutSet, hflags]
        exact iff_of_true (hsame.trans hpoll) hleft

/-- **One call preserves the invariant.** -/
theorem outputStep_inv {w w' : COutputWatch}
    {call : OutputCall} (h : OutputInv sent w) (hstep : outputStep logger w call = some w') :
    OutputInv (sent ++ call.bytes) w' := by
  cases call with
  | submit msg log r =>
    simp only [outputStep, Option.some.injEq] at hstep
    subst hstep
    exact submitOutput_inv logger h msg log r
  | process rs =>
    simp only [outputStep, Option.some.injEq] at hstep
    subst hstep
    rw [OutputCall.bytes, append_nil]
    exact processOutput_inv logger h rs

/-- Both calls return in every state, so every interleaving is a run. -/
theorem outputStep_total (calls : List OutputCall) :
    ∀ w, ∃ w', Run.run (outputStep logger) w calls = some w' := by
  induction calls with
  | nil => intro w; exact ⟨w, rfl⟩
  | cons call calls ih =>
    intro w
    cases call with
    | submit msg log r => exact ih (submitOutput logger w msg log r)
    | process rs => exact ih (processOutput logger w rs)

/-! ## §6. THE ASYNCHRONOUS WRITER PRESERVES THE STREAM. -/

/-- **The accepted bytes are the submitted stream, in order.**  Along every interleaving
of `submitOutput` and `processOutput`, whatever `writeStream` returns: the bytes it
accepted are a prefix of the submitted buffers' concatenation; without a fatal error they
are all of it once the queue is empty, and POLLOUT is set exactly while the queue is
not. -/
theorem written_stream_exact (logger : Bool) (flags : BitVec 32) (calls : List OutputCall) :
    ∃ w, Run.run (outputStep logger) (COutputWatch.idle flags) calls = some w
      ∧ w.written <+: submitted calls
      ∧ (w.mFatalError = false → w.mOutputChunkList = [] → w.written = submitted calls)
      ∧ (w.mFatalError = false → (w.pollOutSet = true ↔ w.mOutputChunkList ≠ [])) := by
  obtain ⟨w, hrun⟩ : ∃ w, Run.run (outputStep logger) (idle flags) calls = some w :=
    outputStep_total logger calls _
  have hinv : OutputInv (submitted calls) w :=
    Run.run_history (P := fun past w => OutputInv (submitted past) w)
      (fun past s call s' hs hstep => by
        have := outputStep_inv logger hs hstep
        rwa [submitted, flatMap_append, flatMap_singleton])
      (outputInv_idle flags) hrun
  refine ⟨w, hrun, hinv.accepted, ?_, hinv.poll⟩
  intro hf hempty
  have := hinv.stream hf
  simpa [queued, hempty] using this

end Fdbus.Worker

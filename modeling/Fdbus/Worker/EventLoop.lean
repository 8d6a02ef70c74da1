/-
  Fdbus.Worker.EventLoop — `CFdEventLoop` calls no watch that was removed.

  The loop calls its watches from three passes: over the watches with a fatal error while the
  poll table is built, over the watches `poll` reports, and, nested in a callback, over the
  watches `dispatchInput` reports.  A callback may remove any watch.  A removed watch is put on
  a black list, which is kept until the outermost pass ends, and a pass skips what is on it.

    * `removed_never_called_iff` — no removed watch is called in a run exactly when each
      watch the fatal-error pass turns to is still there: that pass does not look at the
      black list.

  The code of the loop between two callbacks is one step; what callbacks do are events.
  `mWatchList` and `mEnable` are left out: nothing here reads them.
-/
import Fdbus.Library.Run

set_option linter.unusedSectionVars false

namespace Fdbus.Worker

open Fdbus.Run List Function Bool

/-! ## §1. Watches and the loop. -/

/-- The poll events of a watch, or those `poll` reports for it. -/
structure PollEvents where
  pollin : Bool
  pollout : Bool
  pollerr : Bool
  pollhup : Bool
  deriving Repr, DecidableEq

/-- `CSysFdWatch`, as far as the loop reads it; `mEventLoop` says that it is set. -/
structure CSysFdWatch where
  mFd : Int
  mFlags : PollEvents
  mFatalError : Bool
  mEventLoop : Bool
  deriving Repr, DecidableEq

/-- What the loop calls on a watch. -/
inductive Method where
  | enable
  | onError
  | onHup
  | processInput
  | processOutput
  deriving Repr, DecidableEq

/-- A call of the loop, and whether the watch was removed at that time. -/
structure Called (W : Type) where
  watch : W
  method : Method
  removed : Bool
  deriving Repr, DecidableEq

variable {W : Type} [DecidableEq W]

/-- `CFdEventLoop`.  Of `mPollFds` only the order matters, which is that of `mPollWatches`.
`removed` are the watches that were removed and not added again, `calls` what the loop has
called. -/
structure CFdEventLoop (W : Type) where
  watch : W → CSysFdWatch
  mWatchWorkingList : List W
  mPollWatches : List W
  mWatchBlackList : Finset W
  mWatchRecursiveCnt : Nat
  mRebuildPollFd : Bool
  removed : Finset W
  calls : List (Called W)

/-- A change to a field of one watch. -/
def CFdEventLoop.set (l : CFdEventLoop W) (w : W) (c : CSysFdWatch) : CFdEventLoop W :=
  { l with watch := Function.update l.watch w c }

/-- `watchDestroyed(watch)`. -/
def CFdEventLoop.watchDestroyed (l : CFdEventLoop W) (w : W) : Bool :=
  decide (w ∈ l.mWatchBlackList)

/-- `addWatchToList(wlist, watch, enable)`. -/
def addWatchToList (wlist : List W) (w : W) (enable : Bool) : List W :=
  if enable then if w ∈ wlist then wlist else wlist ++ [w]
  else wlist.erase w

/-- `enableWatch(watch, enable)`. -/
def CFdEventLoop.enableWatch (l : CFdEventLoop W) (w : W) (enable : Bool) : CFdEventLoop W :=
  { l with
    mRebuildPollFd := true
    mWatchWorkingList := addWatchToList l.mWatchWorkingList w enable }

/-- `CSysFdWatch::enable(enb)`. -/
def CFdEventLoop.enable (l : CFdEventLoop W) (w : W) (enb : Bool) : CFdEventLoop W :=
  if !(l.watch w).mEventLoop then l
  else if enb then (l.set w { l.watch w with mFatalError := false }).enableWatch w true
  else l.enableWatch w false

/-- `addWatch(watch, enb)`. -/
def CFdEventLoop.addWatch (l : CFdEventLoop W) (w : W) (enb : Bool) : CFdEventLoop W :=
  { l.set w { l.watch w with mEventLoop := true } with removed := l.removed.erase w }.enable w enb

/-- `removeWatch(watch)`. -/
def CFdEventLoop.removeWatch (l : CFdEventLoop W) (w : W) : CFdEventLoop W :=
  let l₁ := { l with mWatchBlackList := insert w l.mWatchBlackList }.enable w false
  { l₁.set w { l₁.watch w with mEventLoop := false } with removed := insert w l.removed }

/-- `CSysFdWatch::fatalError(enb)`. -/
def CFdEventLoop.fatalError (l : CFdEventLoop W) (w : W) (enb : Bool) : CFdEventLoop W :=
  { l.set w { l.watch w with mFatalError := enb } with
    mRebuildPollFd :=
      l.mRebuildPollFd || ((l.watch w).mEventLoop && (l.watch w).mFatalError != enb) }

/-- `CSysFdWatch::updateFlags`, for the resulting flags. -/
def CFdEventLoop.updateFlags (l : CFdEventLoop W) (w : W) (flags : PollEvents) :
    CFdEventLoop W :=
  { l.set w { l.watch w with mFlags := flags } with
    mRebuildPollFd :=
      l.mRebuildPollFd || ((l.watch w).mEventLoop && (l.watch w).mFlags != flags) }

/-- `CSysFdWatch::descriptor(fd)`. -/
def CFdEventLoop.descriptor (l : CFdEventLoop W) (w : W) (fd : Int) : CFdEventLoop W :=
  l.set w { l.watch w with mFd := fd }

/-- `beginWatchBlackList()`. -/
def CFdEventLoop.beginWatchBlackList (l : CFdEventLoop W) : CFdEventLoop W :=
  { l with
    mWatchBlackList := if l.mWatchRecursiveCnt = 0 then ∅ else l.mWatchBlackList
    mWatchRecursiveCnt := l.mWatchRecursiveCnt + 1 }

/-- `endWatchBlackList()`. -/
def CFdEventLoop.endWatchBlackList (l : CFdEventLoop W) : CFdEventLoop W :=
  { l with
    mWatchRecursiveCnt := l.mWatchRecursiveCnt - 1
    mWatchBlackList := if l.mWatchRecursiveCnt - 1 = 0 then ∅ else l.mWatchBlackList }

/-- The loop calls a watch. -/
def CFdEventLoop.call (l : CFdEventLoop W) (w : W) (method : Method) : CFdEventLoop W :=
  { l with calls := l.calls ++ [⟨w, method, decide (w ∈ l.removed)⟩] }

/-- `w->enable(false); w->onError()`. -/
def CFdEventLoop.callError (l : CFdEventLoop W) (w : W) : CFdEventLoop W :=
  ((l.call w .enable).enable w false).call w .onError

/-- What is done when `onError` of a watch is left with an exception or without. -/
def CFdEventLoop.catchError (l : CFdEventLoop W) (w : W) (threw : Bool) : CFdEventLoop W :=
  if threw && !l.watchDestroyed w then (l.call w .enable).removeWatch w else l

/-! ## §2. The passes. -/

/-- What a callback the loop is in was called for: on an error, on a hang-up, on input (with
output to be processed after it or not), on output. -/
inductive Stage where
  | error
  | hup
  | input (out : Bool)
  | output
  deriving Repr, DecidableEq

/-- Where the loop is, with the watches a pass has still to look at: in a callback of the
fatal-error pass of `buildFdArray`, in the `poll` of `dispatch`, between two watches of
`processWatches` or in a callback of it, and the same for `processInputWatches`. -/
inductive Frame (W : Type) where
  | fatal (w : W) (todo : List W)
  | poll
  | watches (todo : List W)
  | watch (w : W) (todo : List W) (stage : Stage)
  | inputs (todo : List W)
  | input (w : W) (todo : List W)
  deriving Repr, DecidableEq

/-- The loop and its call stack. -/
structure Dispatch (W : Type) where
  loop : CFdEventLoop W
  stack : List (Frame W)

/-- The watches of the poll table. -/
def CFdEventLoop.pollable (l : CFdEventLoop W) : List W :=
  l.mWatchWorkingList.filter fun w => decide (0 ≤ (l.watch w).mFd) && !(l.watch w).mFatalError

/-- The watches of the fatal-error pass. -/
def CFdEventLoop.fatalErrorWatches (l : CFdEventLoop W) : List W :=
  l.mWatchWorkingList.filter fun w => decide (0 ≤ (l.watch w).mFd) && (l.watch w).mFatalError

/-- The watches of `buildInputFdArray`; the first one is that of the job queue. -/
def CFdEventLoop.inputWatches (l : CFdEventLoop W) : List W :=
  l.mWatchWorkingList.tail.filter fun w =>
    decide (0 ≤ (l.watch w).mFd) && (l.watch w).mFlags.pollin

/-- The fatal-error pass turns to a watch. -/
def CFdEventLoop.beginFatal (l : CFdEventLoop W) (w : W) (todo : List W)
    (rest : List (Frame W)) : Dispatch W :=
  ⟨l.beginWatchBlackList.callError w, .fatal w todo :: rest⟩

/-- The table is built again. -/
def CFdEventLoop.rebuilt (l : CFdEventLoop W) : CFdEventLoop W :=
  { l with mRebuildPollFd := false, mPollWatches := l.pollable }

/-- `buildFdArray()`, up to the first callback or to the `poll` after it. -/
def CFdEventLoop.buildFdArray (l : CFdEventLoop W) (rest : List (Frame W)) : Dispatch W :=
  if !l.mRebuildPollFd then ⟨l, .poll :: rest⟩
  else
    match l.fatalErrorWatches with
    -- nothing has changed since, so it is not built once more
    | [] => ⟨l.rebuilt, .poll :: rest⟩
    | w :: todo => l.rebuilt.beginFatal w todo rest

/-- The end of what `processWatches` does for a watch. -/
def CFdEventLoop.afterOutput (l : CFdEventLoop W) (w : W) (todo : List W)
    (rest : List (Frame W)) : Dispatch W :=
  if (l.watch w).mFatalError then ⟨l.callError w, .watch w todo .error :: rest⟩
  else ⟨l, .watches todo :: rest⟩

/-- `processWatches` for the next watch, with the events reported for it. -/
def CFdEventLoop.processWatch (l : CFdEventLoop W) (w : W) (todo : List W)
    (events : PollEvents) (rest : List (Frame W)) : Dispatch W :=
  if l.watchDestroyed w then ⟨l, .watches todo :: rest⟩
  else if (l.watch w).mFatalError || events.pollerr then
    ⟨l.callError w, .watch w todo .error :: rest⟩
  else if events.pollhup then ⟨l.call w .onHup, .watch w todo .hup :: rest⟩
  else if events.pollin then
    ⟨l.call w .processInput, .watch w todo (.input events.pollout) :: rest⟩
  else if events.pollout then ⟨l.call w .processOutput, .watch w todo .output :: rest⟩
  else ⟨l, .watches todo :: rest⟩

/-- `processInputWatches` for the next watch. -/
def CFdEventLoop.processInputWatch (l : CFdEventLoop W) (w : W) (todo : List W)
    (events : PollEvents) (rest : List (Frame W)) : Dispatch W :=
  if l.watchDestroyed w then ⟨l, .inputs todo :: rest⟩
  else if events.pollin then ⟨l.call w .processInput, .input w todo :: rest⟩
  else ⟨l, .inputs todo :: rest⟩

/-- The callback on top of the stack returns. -/
def Dispatch.returns (s : Dispatch W) (threw : Bool) : Option (Dispatch W) :=
  match s.stack with
  | .fatal w todo :: rest =>
    let l := (s.loop.catchError w threw).endWatchBlackList
    match todo with
    | v :: todo' => some (l.beginFatal v todo' rest)
    | [] => some (l.buildFdArray rest)
  | .watch w todo .error :: rest => some ⟨s.loop.catchError w threw, .watches todo :: rest⟩
  | .watch _ todo .hup :: rest => some ⟨s.loop, .watches todo :: rest⟩
  | .watch w todo (.input out) :: rest =>
    if s.loop.watchDestroyed w then some ⟨s.loop, .watches todo :: rest⟩
    else if out then some ⟨s.loop.call w .processOutput, .watch w todo .output :: rest⟩
    else some (s.loop.afterOutput w todo rest)
  | .watch w todo .output :: rest =>
    if s.loop.watchDestroyed w then some ⟨s.loop, .watches todo :: rest⟩
    else some (s.loop.afterOutput w todo rest)
  | .input _ todo :: rest => some ⟨s.loop, .inputs todo :: rest⟩
  | _ => none

/-- A pass looks at its next watch, or ends. -/
def Dispatch.next (s : Dispatch W) (events : PollEvents) : Option (Dispatch W) :=
  match s.stack with
  | .watches (w :: todo) :: rest => some (s.loop.processWatch w todo events rest)
  | .watches [] :: rest => some ⟨s.loop.endWatchBlackList, rest⟩
  | .inputs (w :: todo) :: rest => some (s.loop.processInputWatch w todo events rest)
  | .inputs [] :: rest => some ⟨s.loop.endWatchBlackList, rest⟩
  | _ => none

/-- The `poll` of `dispatch` returns; `ready` says that some watch has events. -/
def Dispatch.poll (s : Dispatch W) (ready : Bool) : Option (Dispatch W) :=
  match s.stack with
  | .poll :: rest =>
    if ready then
      -- the watch of the job queue is the first one and handled last
      some ⟨s.loop.beginWatchBlackList, .watches s.loop.mPollWatches.reverse :: rest⟩
    else some ⟨s.loop, rest⟩
  | _ => none

/-- User code runs: in a callback of a watch, in a timer, or outside `dispatch`. -/
def Dispatch.inCallback (s : Dispatch W) : Bool :=
  match s.stack with
  | [] | .fatal _ _ :: _ | .watch _ _ _ :: _ | .input _ _ :: _ => true
  | _ => false

/-- What user code does to the watches. -/
inductive Change (W : Type) where
  | addWatch (w : W) (enb : Bool)
  | removeWatch (w : W)
  | enable (w : W) (enb : Bool)
  | fatalError (w : W) (enb : Bool)
  | updateFlags (w : W) (flags : PollEvents)
  | descriptor (w : W) (fd : Int)

def CFdEventLoop.change (l : CFdEventLoop W) : Change W → CFdEventLoop W
  | .addWatch w enb => l.addWatch w enb
  | .removeWatch w => l.removeWatch w
  | .enable w enb => l.enable w enb
  | .fatalError w enb => l.fatalError w enb
  | .updateFlags w flags => l.updateFlags w flags
  | .descriptor w fd => l.descriptor w fd

/-- `dispatchInput`, up to the first watch; `ready` says that its `poll` reports some watch. -/
def Dispatch.dispatchInput (s : Dispatch W) (ready : Bool) : Dispatch W :=
  if s.loop.inputWatches = [] || !ready then s
  else ⟨s.loop.beginWatchBlackList, .inputs s.loop.inputWatches.reverse :: s.stack⟩

inductive LoopEvent (W : Type) where
  | dispatch
  | poll (ready : Bool)
  | next (events : PollEvents)
  | returns (threw : Bool)
  | dispatchInput (ready : Bool)
  | change (c : Change W)

/-- One step of the loop or of user code. -/
def Dispatch.step (s : Dispatch W) : LoopEvent W → Option (Dispatch W)
  | .dispatch => if s.stack = [] then some (s.loop.buildFdArray []) else none
  | .poll ready => s.poll ready
  | .next events => s.next events
  | .returns threw => s.returns threw
  | .dispatchInput ready => if s.inCallback then some (s.dispatchInput ready) else none
  | .change c => if s.inCallback then some ⟨s.loop.change c, s.stack⟩ else none

/-- A loop without watches, before its first `dispatch`. -/
def Dispatch.start (fd : W → Int) (flags : W → PollEvents) : Dispatch W :=
  ⟨⟨fun w => ⟨fd w, flags w, false, false⟩, [], [], ∅, 0, false, ∅, []⟩, []⟩

/-- No call was made on a removed watch. -/
def CFdEventLoop.Clean (l : CFdEventLoop W) : Prop := ∀ c ∈ l.calls, c.removed = false

/-- When a callback of the fatal-error pass returns, the watch that comes next in this pass is
not removed. -/
def NextStillThere (s : Dispatch W) : LoopEvent W → Prop
  | .returns _ =>
    match s.stack with
    | .fatal _ (v :: _) :: _ => v ∉ s.loop.removed
    | _ => True
  | _ => True

/-! ## §3. The lists of the loop. -/

/-- Only watches that are added are enabled, removed ones are not added, and as long as nothing
has changed the poll table holds enabled watches. -/
structure CFdEventLoop.WellFormed (l : CFdEventLoop W) : Prop where
  nodup : l.mWatchWorkingList.Nodup
  attached : ∀ w ∈ l.mWatchWorkingList, (l.watch w).mEventLoop = true
  detached : ∀ w ∈ l.removed, (l.watch w).mEventLoop = false
  fresh : l.mRebuildPollFd = false → ∀ w ∈ l.mPollWatches, w ∈ l.mWatchWorkingList

open CFdEventLoop

namespace CFdEventLoop

variable {l l' : CFdEventLoop W} {w : W}

theorem WellFormed.not_removed (h : l.WellFormed) (hw : w ∈ l.mWatchWorkingList) :
    w ∉ l.removed := by
  intro hrem
  have hatt := h.attached w hw
  rw [h.detached w hrem] at hatt
  cases hatt

/-- What changes neither a list nor whether a watch is added keeps the lists as they are. -/
theorem WellFormed.congr (h : l.WellFormed)
    (hworking : l'.mWatchWorkingList = l.mWatchWorkingList)
    (hattached : ∀ w, (l'.watch w).mEventLoop = (l.watch w).mEventLoop)
    (hremoved : l'.removed = l.removed) (hpoll : l'.mPollWatches = l.mPollWatches)
    (hrebuild : l'.mRebuildPollFd = false → l.mRebuildPollFd = false) : l'.WellFormed where
  nodup := by rw [hworking]; exact h.nodup
  attached := by
    intro w hw
    rw [hworking] at hw
    rw [hattached, h.attached w hw]
  detached := by
    intro w hw
    rw [hremoved] at hw
    rw [hattached, h.detached w hw]
  fresh := by
    intro hreb w hw
    rw [hpoll] at hw
    rw [hworking]
    exact h.fresh (hrebuild hreb) w hw

theorem set_mEventLoop (l : CFdEventLoop W) {w : W} {c : CSysFdWatch}
    (hc : c.mEventLoop = (l.watch w).mEventLoop) (v : W) :
    ((l.set w c).watch v).mEventLoop = (l.watch v).mEventLoop := by
  by_cases hv : v = w
  · subst hv
    simp only [set, update_self, hc]
  · simp only [set, update_of_ne hv]

theorem WellFormed.enableWatch (h : l.WellFormed) {enb : Bool}
    (hw : enb = true → (l.watch w).mEventLoop = true) : (l.enableWatch w enb).WellFormed := by
  refine ⟨?_, ?_, h.detached, fun hreb => absurd hreb true_eq_false.mp⟩
  · show (addWatchToList l.mWatchWorkingList w enb).Nodup
    unfold addWatchToList
    split
    · split
      · exact h.nodup
      · rename_i hnot
        exact nodup_append.mpr ⟨h.nodup, nodup_singleton w, fun a ha b hb hab =>
          hnot (by rw [mem_singleton.mp hb] at hab; exact hab ▸ ha)⟩
    · exact h.nodup.erase w
  · show ∀ v ∈ addWatchToList l.mWatchWorkingList w enb, (l.watch v).mEventLoop = true
    intro v hv
    unfold addWatchToList at hv
    split at hv
    · rename_i henb
      split at hv
      · exact h.attached v hv
      · rcases mem_append.mp hv with hv | hv
        · exact h.attached v hv
        · rw [mem_singleton.mp hv]
          exact hw henb
    · exact h.attached v (mem_of_mem_erase hv)

theorem WellFormed.enable (h : l.WellFormed) (w : W) (enb : Bool) :
    (l.enable w enb).WellFormed := by
  unfold CFdEventLoop.enable
  split
  · exact h
  · rename_i hatt
    have hatt : (l.watch w).mEventLoop = true := by simpa using hatt
    split
    · have hset : (l.set w { l.watch w with mFatalError := false }).WellFormed :=
        h.congr rfl (l.set_mEventLoop rfl) rfl rfl id
      exact hset.enableWatch fun _ => by simp only [set, update_self, hatt]
    · exact h.enableWatch (fun hfalse => absurd hfalse false_ne_true)

theorem WellFormed.addWatch (h : l.WellFormed) (w : W) (enb : Bool) :
    (l.addWatch w enb).WellFormed := by
  refine WellFormed.enable ?_ w enb
  refine ⟨h.nodup, ?_, ?_, h.fresh⟩
  · intro v hv
    by_cases hvw : v = w
    · subst hvw
      simp only [set, update_self]
    · simp only [set, update_of_ne hvw]
      exact h.attached v hv
  · intro v hv
    obtain ⟨hvw, hv⟩ := Finset.mem_erase.mp hv
    simp only [set, update_of_ne hvw]
    exact h.detached v hv

/-- Disabling a watch takes it off the list of enabled watches. -/
theorem WellFormed.not_mem_disable (h : l.WellFormed) (w : W) :
    w ∉ (l.enable w false).mWatchWorkingList := by
  unfold CFdEventLoop.enable
  split
  · rename_i hatt
    intro hw
    rw [h.attached w hw] at hatt
    cases hatt
  · show w ∉ l.mWatchWorkingList.erase w
    exact fun hw => (h.nodup.mem_erase_iff.mp hw).1 rfl

theorem disable_watch (l : CFdEventLoop W) (w : W) : (l.enable w false).watch = l.watch := by
  unfold enable
  split
  · rfl
  · rfl

section

variable (h : l.WellFormed)

include h

theorem WellFormed.removeWatch (w : W) : (l.removeWatch w).WellFormed := by
  have h₀ : ({ l with mWatchBlackList := insert w l.mWatchBlackList } : CFdEventLoop W).WellFormed :=
    h.congr rfl (fun _ => rfl) rfl rfl id
  have h₁ := h₀.enable w false
  have hout := h₀.not_mem_disable w
  have hwatch := disable_watch { l with mWatchBlackList := insert w l.mWatchBlackList } w
  unfold CFdEventLoop.removeWatch
  refine ⟨h₁.nodup, ?_, ?_, h₁.fresh⟩
  · intro v hv
    have hvw : v ≠ w := fun hvw => hout (hvw ▸ hv)
    simp only [set, update_of_ne hvw]
    exact h₁.attached v hv
  · intro v hv
    by_cases hvw : v = w
    · subst hvw
      simp only [set, update_self]
    · simp only [set, update_of_ne hvw, hwatch]
      exact h.detached v ((Finset.mem_insert.mp hv).resolve_left hvw)

theorem WellFormed.change (c : Change W) : (l.change c).WellFormed := by
  cases c with
  | addWatch w enb => exact h.addWatch w enb
  | removeWatch w => exact h.removeWatch w
  | enable w enb => exact h.enable w enb
  | fatalError | updateFlags =>
    exact h.congr rfl (l.set_mEventLoop rfl) rfl rfl fun hreb => (or_eq_false_iff.mp hreb).1
  | descriptor w fd => exact h.congr rfl (l.set_mEventLoop rfl) rfl rfl id

theorem WellFormed.call (w : W) (method : Method) : (l.call w method).WellFormed :=
  h.congr rfl (fun _ => rfl) rfl rfl id

theorem WellFormed.callError (w : W) : (l.callError w).WellFormed :=
  ((h.call w .enable).enable w false).call w .onError

theorem WellFormed.catchError (w : W) (threw : Bool) : (l.catchError w threw).WellFormed := by
  unfold CFdEventLoop.catchError
  split
  · exact (h.call w .enable).removeWatch w
  · exact h

theorem WellFormed.beginWatchBlackList : l.beginWatchBlackList.WellFormed :=
  h.congr rfl (fun _ => rfl) rfl rfl id

theorem WellFormed.endWatchBlackList : l.endWatchBlackList.WellFormed :=
  h.congr rfl (fun _ => rfl) rfl rfl id

theorem WellFormed.rebuilt : l.rebuilt.WellFormed :=
  ⟨h.nodup, h.attached, h.detached, fun _ _ hw => mem_of_mem_filter hw⟩

end

/-! ## §4. The black list. -/

/-- The black list has grown, and whatever has been removed is on it. -/
structure Extends (l l' : CFdEventLoop W) : Prop where
  count : l'.mWatchRecursiveCnt = l.mWatchRecursiveCnt
  grows : l.mWatchBlackList ⊆ l'.mWatchBlackList
  listed : ∀ w ∈ l'.removed, w ∈ l.removed ∨ w ∈ l'.mWatchBlackList

theorem Extends.trans {l₁ l₂ l₃ : CFdEventLoop W} (h₁ : Extends l₁ l₂) (h₂ : Extends l₂ l₃) :
    Extends l₁ l₃ := by
  refine ⟨h₂.count.trans h₁.count, h₁.grows.trans h₂.grows, fun w hw => ?_⟩
  rcases h₂.listed w hw with hw | hw
  · exact (h₁.listed w hw).imp_right fun hw => h₂.grows hw
  · exact .inr hw

/-- What touches neither the black list nor the removed watches. -/
theorem extends_of_eq (hcount : l'.mWatchRecursiveCnt = l.mWatchRecursiveCnt)
    (hblack : l'.mWatchBlackList = l.mWatchBlackList) (hremoved : l'.removed = l.removed) :
    Extends l l' :=
  ⟨hcount, hblack ▸ Finset.Subset.refl _, fun _ hw => .inl (hremoved ▸ hw)⟩

theorem enable_frame (l : CFdEventLoop W) (w : W) (enb : Bool) :
    Extends l (l.enable w enb) ∧ (l.enable w enb).calls = l.calls
      ∧ (l.enable w enb).removed = l.removed := by
  unfold enable
  split
  · exact ⟨extends_of_eq rfl rfl rfl, rfl, rfl⟩
  · split
    · exact ⟨extends_of_eq rfl rfl rfl, rfl, rfl⟩
    · exact ⟨extends_of_eq rfl rfl rfl, rfl, rfl⟩

theorem extends_enable (l : CFdEventLoop W) (w : W) (enb : Bool) : Extends l (l.enable w enb) :=
  (enable_frame l w enb).1

theorem extends_removeWatch (l : CFdEventLoop W) (w : W) : Extends l (l.removeWatch w) := by
  have hen := extends_enable { l with mWatchBlackList := insert w l.mWatchBlackList } w false
  refine ⟨hen.count, (Finset.subset_insert w _).trans hen.grows, fun v hv => ?_⟩
  rcases Finset.mem_insert.mp hv with hv | hv
  · rw [hv]
    exact .inr (hen.grows (Finset.mem_insert_self w l.mWatchBlackList))
  · exact .inl hv

theorem extends_addWatch (l : CFdEventLoop W) (w : W) (enb : Bool) :
    Extends l (l.addWatch w enb) := by
  have hadded : Extends l { l.set w { l.watch w with mEventLoop := true } with
      removed := l.removed.erase w } :=
    ⟨rfl, Finset.Subset.refl _, fun v hv => .inl (Finset.mem_of_mem_erase hv)⟩
  exact hadded.trans (extends_enable _ w enb)

theorem extends_change (l : CFdEventLoop W) (c : Change W) : Extends l (l.change c) := by
  cases c with
  | addWatch w enb => exact extends_addWatch l w enb
  | removeWatch w => exact extends_removeWatch l w
  | enable w enb => exact extends_enable l w enb
  | fatalError | updateFlags | descriptor => exact extends_of_eq rfl rfl rfl

theorem extends_call (l : CFdEventLoop W) (w : W) (method : Method) :
    Extends l (l.call w method) :=
  extends_of_eq rfl rfl rfl

theorem extends_callError (l : CFdEventLoop W) (w : W) : Extends l (l.callError w) :=
  ((extends_call l w .enable).trans (extends_enable _ w false)).trans (extends_call _ w .onError)

theorem extends_catchError (l : CFdEventLoop W) (w : W) (threw : Bool) :
    Extends l (l.catchError w threw) := by
  unfold catchError
  split
  · exact (extends_call l w .enable).trans (extends_removeWatch _ w)
  · exact extends_of_eq rfl rfl rfl

/-! ## §5. The calls. -/

theorem clean_call (hl : l.Clean) (w : W) (method : Method) :
    (l.call w method).Clean ↔ w ∉ l.removed := by
  constructor
  · intro h hw
    have := h ⟨w, method, decide (w ∈ l.removed)⟩ (mem_append_right _ (mem_singleton_self _))
    exact absurd hw (of_decide_eq_false this)
  · intro hw
    exact forall_mem_append.mpr ⟨hl, forall_mem_singleton.mpr (decide_eq_false hw)⟩

theorem calls_enable (l : CFdEventLoop W) (w : W) (enb : Bool) :
    (l.enable w enb).calls = l.calls :=
  (enable_frame l w enb).2.1

theorem calls_change (l : CFdEventLoop W) (c : Change W) : (l.change c).calls = l.calls := by
  cases c with
  | addWatch w enb => exact calls_enable _ w enb
  | removeWatch w =>
    exact calls_enable { l with mWatchBlackList := insert w l.mWatchBlackList } w false
  | enable w enb => exact calls_enable l w enb
  | fatalError | updateFlags | descriptor => rfl

theorem clean_callError (hl : l.Clean) (w : W) : (l.callError w).Clean ↔ w ∉ l.removed := by
  have hcalls := calls_enable (l.call w .enable) w false
  have hremoved := (enable_frame (l.call w .enable) w false).2.2
  constructor
  · intro h
    refine (clean_call hl w .enable).mp fun c hc => h c (mem_append_left _ ?_)
    rw [hcalls]
    exact hc
  · intro hw
    have h₁ : ((l.call w .enable).enable w false).Clean := by
      intro c hc
      rw [hcalls] at hc
      exact (clean_call hl w .enable).mpr hw c hc
    exact (clean_call h₁ w .onError).mpr (by rw [hremoved]; exact hw)

/-- A watch that is on the black list if it is removed. -/
def Listed (l : CFdEventLoop W) (w : W) : Prop := w ∈ l.removed → w ∈ l.mWatchBlackList

theorem Listed.not_removed (h : l.Listed w) (hw : ¬ l.watchDestroyed w = true) :
    w ∉ l.removed :=
  fun hrem => hw (decide_eq_true (h hrem))

theorem clean_catchError (hl : l.Clean) (h : l.Listed w) (threw : Bool) :
    (l.catchError w threw).Clean := by
  unfold catchError
  split
  · rename_i hthrew
    have hnot : ¬ l.watchDestroyed w = true := by
      simpa using (and_eq_true_iff.mp hthrew).2
    intro c hc
    rw [show ((l.call w .enable).removeWatch w).calls = (l.call w .enable).calls from
      calls_change _ (.removeWatch w)] at hc
    exact (clean_call hl w .enable).mpr (h.not_removed hnot) c hc
  · exact hl

end CFdEventLoop

/-! ## §6. The call stack. -/

/-- The frame counts in `mWatchRecursiveCnt`. -/
def Frame.isPass : Frame W → Bool
  | .poll => false
  | _ => true

/-- The watches a frame calls without looking anywhere but at the black list. -/
def Frame.looksUp : Frame W → List W
  | .fatal w _ => [w]
  | .poll => []
  | .watches todo | .inputs todo => todo
  | .watch w todo _ | .input w todo => w :: todo

/-- The recursion counter is the number of passes, what they will look up is on the black list
if it is removed, and the `poll` of `dispatch` calls nothing. -/
structure StackOk (l : CFdEventLoop W) (stack : List (Frame W)) : Prop where
  count : l.mWatchRecursiveCnt = stack.countP Frame.isPass
  listed : ∀ f ∈ stack, ∀ w ∈ f.looksUp, l.Listed w
  nodup : ∀ w todo, .fatal w todo ∈ stack → (w :: todo).Nodup
  poll : .poll ∉ stack.tail

/-- A pass goes on from one frame to the other: it has nothing new to look up. -/
structure Frame.GoesOn (f f' : Frame W) : Prop where
  pass : f.isPass = true
  pass' : f'.isPass = true
  notFatal : ∀ w todo, f' ≠ .fatal w todo
  looksUp : ∀ w ∈ f'.looksUp, w ∈ f.looksUp

section Stack

variable {l l' : CFdEventLoop W} {f : Frame W} {stack rest : List (Frame W)}

theorem StackOk.extend (h : StackOk l stack) (hext : l.Extends l') : StackOk l' stack := by
  refine ⟨hext.count.trans h.count, fun f hf w hw hrem => ?_, h.nodup, h.poll⟩
  rcases hext.listed w hrem with hrem | hlisted
  · exact hext.grows (h.listed f hf w hw hrem)
  · exact hlisted

theorem StackOk.top (h : StackOk l (f :: rest)) {w : W} (hw : w ∈ f.looksUp) : l.Listed w :=
  h.listed f mem_cons_self w hw

/-- A pass goes on to its next watch or callback. -/
theorem StackOk.replace (h : StackOk l (f :: rest)) {f' : Frame W} (hf : f.GoesOn f') :
    StackOk l (f' :: rest) := by
  refine ⟨?_, fun g hg w hw => ?_, fun w todo hmem => ?_, h.poll⟩
  · rw [h.count, countP_cons, countP_cons, hf.pass, hf.pass']
  · rcases mem_cons.mp hg with rfl | hg
    · exact h.top (hf.looksUp w hw)
    · exact h.listed g (mem_cons_of_mem f hg) w hw
  · rcases mem_cons.mp hmem with hmem | hmem
    · exact absurd hmem.symm (hf.notFatal w todo)
    · exact h.nodup w todo (mem_cons_of_mem f hmem)

theorem StackOk.polled (h : StackOk l (f :: rest)) (hf : f.isPass = false) : StackOk l rest := by
  refine ⟨?_, fun g hg => h.listed g (mem_cons_of_mem f hg),
    fun w todo hmem => h.nodup w todo (mem_cons_of_mem f hmem),
    fun hpoll => h.poll (mem_of_mem_tail hpoll)⟩
  rw [h.count, countP_cons, hf]
  simp

/-- A frame that has watches to look up is a pass, so the black list is kept for it. -/
theorem countP_pos (hf : f ∈ stack) {w : W} (hw : w ∈ f.looksUp) :
    0 < stack.countP Frame.isPass := by
  refine countP_pos_iff.mpr ⟨f, hf, ?_⟩
  cases f with
  | poll => cases hw
  | _ => rfl

/-- A pass ends.  The black list is given up only with the last one. -/
theorem StackOk.endWatchBlackList (h : StackOk l (f :: rest)) (hf : f.isPass = true) :
    StackOk l.endWatchBlackList rest := by
  have hcount : l.mWatchRecursiveCnt - 1 = rest.countP Frame.isPass := by
    rw [h.count, countP_cons, hf]
    simp
  refine ⟨hcount, fun g hg w hw hrem => ?_,
    fun w todo hmem => h.nodup w todo (mem_cons_of_mem f hmem),
    fun hpoll => h.poll (mem_of_mem_tail hpoll)⟩
  show w ∈ (if l.mWatchRecursiveCnt - 1 = 0 then ∅ else l.mWatchBlackList)
  have hpos := countP_pos hg hw
  rw [if_neg (by omega)]
  exact h.listed g (mem_cons_of_mem f hg) w hw hrem

/-- A pass begins.  The black list is cleared only if no other pass relies on it. -/
theorem StackOk.beginWatchBlackList (h : StackOk l stack) (hpoll : .poll ∉ stack)
    (hf : f.isPass = true) (hthere : ∀ w ∈ f.looksUp, w ∉ l.removed)
    (hfatal : ∀ w todo, f = .fatal w todo → (w :: todo).Nodup) :
    StackOk l.beginWatchBlackList (f :: stack) := by
  refine ⟨?_, fun g hg w hw hrem => ?_, fun w todo hmem => ?_, hpoll⟩
  · show l.mWatchRecursiveCnt + 1 = _
    rw [h.count, countP_cons, hf]
    simp
  · rcases mem_cons.mp hg with rfl | hg
    · exact absurd hrem (hthere w hw)
    · show w ∈ (if l.mWatchRecursiveCnt = 0 then ∅ else l.mWatchBlackList)
      have hpos := countP_pos hg hw
      have hcount := h.count
      rw [if_neg (by omega)]
      exact h.listed g hg w hw hrem
  · rcases mem_cons.mp hmem with hmem | hmem
    · exact hfatal w todo hmem.symm
    · exact h.nodup w todo hmem

end Stack

/-- What holds in every state of a run in which no removed watch was called. -/
structure Dispatch.Ok (s : Dispatch W) : Prop where
  loop : s.loop.WellFormed
  stack : StackOk s.loop s.stack
  built : s.stack.head? = some .poll → s.loop.mRebuildPollFd = false

/-! ## §7. Steps. -/

section Steps

variable {l l' : CFdEventLoop W} {f f' : Frame W} {rest : List (Frame W)} {w : W} {todo : List W}

section

variable (h : Dispatch.Ok ⟨l, f :: rest⟩)

include h

/-- A pass goes on, with what it or a callback of it did to the loop. -/
theorem Dispatch.Ok.goOn (hl : l'.WellFormed) (hext : l.Extends l') (hf : f.GoesOn f') :
    Dispatch.Ok ⟨l', f' :: rest⟩ := by
  refine ⟨hl, (h.stack.extend hext).replace hf, fun hpoll => ?_⟩
  rw [head?_cons, Option.some.injEq] at hpoll
  have hpass := hf.pass'
  rw [hpoll] at hpass
  cases hpass

theorem Dispatch.Ok.stay (hf : f.GoesOn f') : Dispatch.Ok ⟨l, f' :: rest⟩ :=
  h.goOn h.loop (extends_of_eq rfl rfl rfl) hf

section

variable (hclean : l.Clean)

include hclean

/-- A pass calls a watch that is there. -/
theorem ok_call (method : Method) (hw : w ∉ l.removed) (hf : f.GoesOn f') :
    Dispatch.Ok ⟨l.call w method, f' :: rest⟩ ∧ (l.call w method).Clean :=
  ⟨h.goOn (h.loop.call w method) (l.extends_call w method) hf,
    (clean_call hclean w method).mpr hw⟩

theorem ok_callError (hw : w ∉ l.removed) (hf : f.GoesOn f') :
    Dispatch.Ok ⟨l.callError w, f' :: rest⟩ ∧ (l.callError w).Clean :=
  ⟨h.goOn (h.loop.callError w) (l.extends_callError w) hf,
    (clean_callError hclean w).mpr hw⟩

end

end

theorem ok_beginFatal (hl : l.WellFormed) (hstack : StackOk l rest) (hpoll : .poll ∉ rest)
    (hnodup : (w :: todo).Nodup) (hw : w ∉ l.removed) : (l.beginFatal w todo rest).Ok := by
  have hbegin : StackOk l.beginWatchBlackList (.fatal w todo :: rest) := by
    refine hstack.beginWatchBlackList hpoll rfl (fun v hv => ?_) fun v todo' heq => ?_
    · rw [mem_singleton.mp hv]
      exact hw
    · cases heq
      exact hnodup
  exact ⟨hl.beginWatchBlackList.callError w, hbegin.extend (extends_callError _ w),
    nofun⟩

theorem clean_beginFatal (hl : l.Clean) :
    (l.beginFatal w todo rest).loop.Clean ↔ w ∉ l.removed :=
  clean_callError (l := l.beginWatchBlackList) hl w

theorem ok_poll (hl : l.WellFormed) (hstack : StackOk l rest) (hpoll : .poll ∉ rest)
    (hreb : l.mRebuildPollFd = false) : Dispatch.Ok ⟨l, .poll :: rest⟩ := by
  refine ⟨hl, ⟨?_, fun f hf w hw => ?_, fun w todo hmem => ?_, hpoll⟩, fun _ => hreb⟩
  · rw [hstack.count, countP_cons]
    rfl
  · rcases mem_cons.mp hf with rfl | hf
    · cases hw
    · exact hstack.listed f hf w hw
  · rcases mem_cons.mp hmem with hmem | hmem
    · cases hmem
    · exact hstack.nodup w todo hmem

/-- Building the poll table turns only to watches that are there. -/
theorem ok_buildFdArray (hl : l.WellFormed) (hclean : l.Clean) (hstack : StackOk l rest)
    (hpoll : .poll ∉ rest) :
    (l.buildFdArray rest).Ok ∧ (l.buildFdArray rest).loop.Clean := by
  have hrebuilt : StackOk l.rebuilt rest := hstack.extend (extends_of_eq rfl rfl rfl)
  unfold buildFdArray
  split
  · rename_i hreb
    exact ⟨ok_poll hl hstack hpoll (by simpa using hreb), hclean⟩
  · split
    · exact ⟨ok_poll hl.rebuilt hrebuilt hpoll rfl, hclean⟩
    · rename_i w todo hfatal
      have hnodup : (w :: todo).Nodup := hfatal ▸ hl.nodup.filter _
      have hw : w ∈ l.mWatchWorkingList := by
        have hmem : w ∈ l.fatalErrorWatches := by rw [hfatal]; exact mem_cons_self
        exact mem_of_mem_filter hmem
      have hthere : w ∉ l.removed := hl.not_removed hw
      exact ⟨ok_beginFatal hl.rebuilt hrebuilt hpoll hnodup hthere,
        (clean_beginFatal (l := l.rebuilt) hclean).mpr hthere⟩

theorem ok_afterOutput {stage : Stage} (h : Dispatch.Ok ⟨l, .watch w todo stage :: rest⟩)
    (hclean : l.Clean) (hw : ¬ l.watchDestroyed w = true) :
    (l.afterOutput w todo rest).Ok ∧ (l.afterOutput w todo rest).loop.Clean := by
  have hthere := (h.stack.top (mem_cons_self : w ∈ w :: todo)).not_removed hw
  unfold afterOutput
  split
  · exact ok_callError h hclean hthere ⟨rfl, rfl, nofun, fun _ hv => hv⟩
  · exact ⟨h.stay ⟨rfl, rfl, nofun, fun _ hv => mem_cons_of_mem w hv⟩, hclean⟩

theorem ok_processWatch (h : Dispatch.Ok ⟨l, .watches (w :: todo) :: rest⟩) (hclean : l.Clean)
    (events : PollEvents) :
    (l.processWatch w todo events rest).Ok
      ∧ (l.processWatch w todo events rest).loop.Clean := by
  have hskip : Dispatch.Ok ⟨l, .watches todo :: rest⟩ :=
    h.stay ⟨rfl, rfl, nofun, fun _ hv => mem_cons_of_mem w hv⟩
  unfold processWatch
  split
  · exact ⟨hskip, hclean⟩
  · rename_i hw
    have hthere := (h.stack.top (mem_cons_self : w ∈ w :: todo)).not_removed hw
    split
    · exact ok_callError h hclean hthere ⟨rfl, rfl, nofun, fun _ hv => hv⟩
    · split
      · exact ok_call h hclean _ hthere ⟨rfl, rfl, nofun, fun _ hv => hv⟩
      · split
        · exact ok_call h hclean _ hthere ⟨rfl, rfl, nofun, fun _ hv => hv⟩
        · split
          · exact ok_call h hclean _ hthere ⟨rfl, rfl, nofun, fun _ hv => hv⟩
          · exact ⟨hskip, hclean⟩

theorem ok_processInputWatch (h : Dispatch.Ok ⟨l, .inputs (w :: todo) :: rest⟩)
    (hclean : l.Clean) (events : PollEvents) :
    (l.processInputWatch w todo events rest).Ok
      ∧ (l.processInputWatch w todo events rest).loop.Clean := by
  have hskip : Dispatch.Ok ⟨l, .inputs todo :: rest⟩ :=
    h.stay ⟨rfl, rfl, nofun, fun _ hv => mem_cons_of_mem w hv⟩
  unfold processInputWatch
  split
  · exact ⟨hskip, hclean⟩
  · rename_i hw
    have hthere := (h.stack.top (mem_cons_self : w ∈ w :: todo)).not_removed hw
    split
    · exact ok_call h hclean _ hthere ⟨rfl, rfl, nofun, fun _ hv => hv⟩
    · exact ⟨hskip, hclean⟩

/-- A pass has looked at all its watches. -/
theorem ok_endPass (h : Dispatch.Ok ⟨l, f :: rest⟩) (hf : f.isPass = true) :
    Dispatch.Ok ⟨l.endWatchBlackList, rest⟩ := by
  refine ⟨h.loop.endWatchBlackList, h.stack.endWatchBlackList hf, fun hpoll => ?_⟩
  exact absurd (mem_of_head? hpoll) h.stack.poll

variable {s t : Dispatch W}

theorem ok_next (h : s.Ok) (hclean : s.loop.Clean) {events : PollEvents}
    (hstep : s.next events = some t) : t.Ok ∧ t.loop.Clean := by
  obtain ⟨l, stack⟩ := s
  unfold Dispatch.next at hstep
  split at hstep
  · rename_i w todo rest heq
    cases heq
    cases hstep
    exact ok_processWatch h hclean events
  · rename_i rest heq
    cases heq
    cases hstep
    exact ⟨ok_endPass h rfl, hclean⟩
  · rename_i w todo rest heq
    cases heq
    cases hstep
    exact ok_processInputWatch h hclean events
  · rename_i rest heq
    cases heq
    cases hstep
    exact ⟨ok_endPass h rfl, hclean⟩
  · cases hstep

theorem ok_pollReturns (h : s.Ok) (hclean : s.loop.Clean) {ready : Bool}
    (hstep : s.poll ready = some t) : t.Ok ∧ t.loop.Clean := by
  obtain ⟨l, stack⟩ := s
  unfold Dispatch.poll at hstep
  split at hstep
  · rename_i rest heq
    cases heq
    have hrest : StackOk l rest := h.stack.polled rfl
    have hpoll : .poll ∉ rest := h.stack.poll
    split at hstep
    · cases hstep
      refine ⟨⟨h.loop.beginWatchBlackList, ?_, nofun⟩, hclean⟩
      refine hrest.beginWatchBlackList hpoll rfl (fun w hw => ?_) nofun
      exact h.loop.not_removed (h.loop.fresh (h.built rfl) w (mem_reverse.mp hw))
    · cases hstep
      exact ⟨⟨h.loop, hrest, fun hhead => absurd (mem_of_head? hhead) hpoll⟩, hclean⟩
  · cases hstep

/-- While user code runs, `dispatch` is not in its `poll`. -/
theorem Dispatch.Ok.not_polling (h : s.Ok) (hs : s.inCallback = true) : .poll ∉ s.stack := by
  obtain ⟨l, stack⟩ := s
  intro hmem
  cases stack with
  | nil => cases hmem
  | cons f rest =>
    rcases mem_cons.mp hmem with hmem | hmem
    · subst hmem
      cases hs
    · exact h.stack.poll hmem

theorem ok_dispatchInput (h : s.Ok) (hclean : s.loop.Clean)
    (hs : s.inCallback = true) (ready : Bool) :
    (s.dispatchInput ready).Ok ∧ (s.dispatchInput ready).loop.Clean := by
  unfold Dispatch.dispatchInput
  split
  · exact ⟨h, hclean⟩
  · refine ⟨⟨h.loop.beginWatchBlackList, ?_, nofun⟩, hclean⟩
    refine h.stack.beginWatchBlackList (h.not_polling hs) rfl (fun w hw => ?_) nofun
    have hmem : w ∈ s.loop.mWatchWorkingList.tail :=
      mem_of_mem_filter (mem_reverse.mp hw)
    exact h.loop.not_removed (mem_of_mem_tail hmem)

theorem ok_change (h : s.Ok) (hclean : s.loop.Clean) (hs : s.inCallback = true) (c : Change W) :
    Dispatch.Ok ⟨s.loop.change c, s.stack⟩ ∧ (s.loop.change c).Clean := by
  refine ⟨⟨h.loop.change c, h.stack.extend (s.loop.extends_change c), fun hhead => ?_⟩, ?_⟩
  · exact absurd (mem_of_head? hhead) (h.not_polling hs)
  · intro d hd
    rw [s.loop.calls_change c] at hd
    exact hclean d hd

theorem removed_catchError {v : W} (hv : v ≠ w) (threw : Bool) :
    v ∈ (l.catchError w threw).removed ↔ v ∈ l.removed := by
  unfold catchError
  split
  · show v ∈ insert w l.removed ↔ _
    rw [Finset.mem_insert]
    exact or_iff_right hv
  · exact Iff.rfl

/-- A callback of the fatal-error pass returns: the next watch of the pass is called. -/
theorem returns_fatal {v : W} (h : Dispatch.Ok ⟨l, .fatal w (v :: todo) :: rest⟩)
    (hclean : l.Clean) (threw : Bool) :
    ((((l.catchError w threw).endWatchBlackList.beginFatal v todo rest).loop.Clean
        ↔ v ∉ l.removed)
      ∧ (v ∉ l.removed → ((l.catchError w threw).endWatchBlackList.beginFatal v todo rest).Ok)) := by
  have hnodup : (w :: v :: todo).Nodup := h.stack.nodup w (v :: todo) mem_cons_self
  have hvw : v ≠ w := fun hvw => (nodup_cons.mp hnodup).1 (hvw ▸ mem_cons_self)
  have hremoved := removed_catchError (l := l) hvw threw
  have hlisted : l.Listed w := h.stack.top (mem_singleton_self w)
  have hclean' : (l.catchError w threw).endWatchBlackList.Clean :=
    clean_catchError hclean hlisted threw
  refine ⟨(clean_beginFatal hclean').trans (not_congr hremoved), fun hv => ?_⟩
  have hend : StackOk (l.catchError w threw).endWatchBlackList rest :=
    (h.stack.extend (l.extends_catchError w threw)).endWatchBlackList rfl
  exact ok_beginFatal (h.loop.catchError w threw).endWatchBlackList hend h.stack.poll
    (nodup_cons.mp hnodup).2 (fun hrem => hv (hremoved.mp hrem))

theorem returns_iff (h : s.Ok) (hclean : s.loop.Clean) {threw : Bool}
    (hstep : s.returns threw = some t) :
    (t.loop.Clean ↔ NextStillThere s (.returns threw))
      ∧ (NextStillThere s (.returns threw) → t.Ok) := by
  obtain ⟨l, stack⟩ := s
  have hok : ∀ {t : Dispatch W}, t.Ok ∧ t.loop.Clean → NextStillThere ⟨l, stack⟩ (.returns threw) →
      (t.loop.Clean ↔ NextStillThere ⟨l, stack⟩ (.returns threw))
        ∧ (NextStillThere ⟨l, stack⟩ (.returns threw) → t.Ok) :=
    fun ht hg => ⟨⟨fun _ => hg, fun _ => ht.2⟩, fun _ => ht.1⟩
  unfold Dispatch.returns at hstep
  split at hstep
  · rename_i w todo rest heq
    cases heq
    cases todo with
    | cons v todo =>
      cases hstep
      exact returns_fatal h hclean threw
    | nil =>
      cases hstep
      have hend : StackOk (l.catchError w threw).endWatchBlackList rest :=
        (h.stack.extend (l.extends_catchError w threw)).endWatchBlackList rfl
      refine hok (ok_buildFdArray (h.loop.catchError w threw).endWatchBlackList ?_ hend
        h.stack.poll) trivial
      exact clean_catchError hclean (h.stack.top (mem_singleton_self w)) threw
  · rename_i w todo rest heq
    cases heq
    cases hstep
    exact hok ⟨h.goOn (h.loop.catchError w threw) (l.extends_catchError w threw)
      ⟨rfl, rfl, nofun, fun _ hv => mem_cons_of_mem w hv⟩,
      clean_catchError hclean (h.stack.top mem_cons_self) threw⟩ trivial
  · rename_i w todo rest heq
    cases heq
    cases hstep
    exact hok ⟨h.stay ⟨rfl, rfl, nofun, fun _ hv => mem_cons_of_mem w hv⟩, hclean⟩ trivial
  · rename_i w todo out rest heq
    cases heq
    split at hstep
    · cases hstep
      exact hok ⟨h.stay ⟨rfl, rfl, nofun, fun _ hv => mem_cons_of_mem w hv⟩, hclean⟩ trivial
    · rename_i hw
      split at hstep
      · cases hstep
        have hthere := (h.stack.top (mem_cons_self : w ∈ w :: todo)).not_removed hw
        exact hok (ok_call h hclean _ hthere ⟨rfl, rfl, nofun, fun _ hv => hv⟩) trivial
      · cases hstep
        exact hok (ok_afterOutput h hclean hw) trivial
  · rename_i w todo rest heq
    cases heq
    split at hstep
    · cases hstep
      exact hok ⟨h.stay ⟨rfl, rfl, nofun, fun _ hv => mem_cons_of_mem w hv⟩, hclean⟩ trivial
    · rename_i hw
      cases hstep
      exact hok (ok_afterOutput h hclean hw) trivial
  · rename_i w todo rest heq
    cases heq
    cases hstep
    exact hok ⟨h.stay ⟨rfl, rfl, nofun, fun _ hv => mem_cons_of_mem w hv⟩, hclean⟩ trivial
  · cases hstep

/-- What one step does: it calls no removed watch, unless the fatal-error pass turns to one. -/
theorem step_iff {e : LoopEvent W} (h : s.Ok) (hclean : s.loop.Clean) (hstep : s.step e = some t) :
    (t.loop.Clean ↔ NextStillThere s e) ∧ (NextStillThere s e → t.Ok) := by
  have hok : t.Ok ∧ t.loop.Clean → NextStillThere s e →
      (t.loop.Clean ↔ NextStillThere s e) ∧ (NextStillThere s e → t.Ok) :=
    fun ht hg => ⟨⟨fun _ => hg, fun _ => ht.2⟩, fun _ => ht.1⟩
  cases e with
  | dispatch =>
    simp only [Dispatch.step] at hstep
    split at hstep
    · rename_i hstack
      cases hstep
      exact hok (ok_buildFdArray h.loop hclean (hstack ▸ h.stack) not_mem_nil) trivial
    · cases hstep
  | poll ready => exact hok (ok_pollReturns h hclean hstep) trivial
  | next events => exact hok (ok_next h hclean hstep) trivial
  | returns threw => exact returns_iff h hclean hstep
  | dispatchInput ready =>
    simp only [Dispatch.step] at hstep
    split at hstep
    · rename_i hs
      cases hstep
      exact hok (ok_dispatchInput h hclean hs ready) trivial
    · cases hstep
  | change c =>
    simp only [Dispatch.step] at hstep
    split at hstep
    · rename_i hs
      cases hstep
      exact hok (ok_change h hclean hs c) trivial
    · cases hstep

end Steps

/-! ## §8. Runs. -/

theorem ok_start (fd : W → Int) (flags : W → PollEvents) : (Dispatch.start fd flags).Ok :=
  ⟨⟨nodup_nil, nofun, nofun, fun _ => nofun⟩,
    ⟨rfl, nofun, nofun, not_mem_nil⟩, nofun⟩

/-- **Removed watches are not called**: in a run of the loop no state is reached in which a
removed watch was called, exactly when each time a callback of the fatal-error pass returns the
watch that comes next in that pass is still there, or there again. -/
theorem removed_never_called_iff (fd : W → Int) (flags : W → PollEvents)
    {events : List (LoopEvent W)} {t : Dispatch W}
    (hrun : run Dispatch.step (Dispatch.start fd flags) events = some t) :
    Throughout Dispatch.step (fun s => s.loop.Clean) (Dispatch.start fd flags) events
      ↔ Along Dispatch.step NextStillThere (Dispatch.start fd flags) events :=
  throughout_iff_of_inv (I := Dispatch.Ok) (fun _ _ _ h hclean hstep => step_iff h hclean hstep)
    events _ t (ok_start fd flags) nofun hrun

/-- Watch 0 of the job queue, and two more watches that both have a fatal error. -/
def twoFatal : List (LoopEvent (Fin 3)) :=
  [.change (.addWatch 0 true), .change (.addWatch 1 true), .change (.addWatch 2 true),
    .change (.fatalError 1 true), .change (.fatalError 2 true), .dispatch]

def threeWatches : Dispatch (Fin 3) := Dispatch.start (fun _ => 3) fun _ => ⟨true, false, true, true⟩

/-- The first one removes itself, and the second one is called after it. -/
theorem removed_never_called_self :
    Throughout Dispatch.step (fun s => s.loop.Clean) threeWatches
        (twoFatal ++ [.change (.removeWatch 1), .returns false])
      ∧ (run Dispatch.step threeWatches
          (twoFatal ++ [.change (.removeWatch 1), .returns false])).map (·.loop.calls)
        = some [⟨1, .enable, false⟩, ⟨1, .onError, false⟩, ⟨2, .enable, false⟩,
          ⟨2, .onError, false⟩] := by
  refine ⟨(removed_never_called_iff _ _ rfl).mpr ?_, rfl⟩
  have hthere : (2 : Fin 3) ∉ insert 1 (∅ : Finset (Fin 3)) := by decide
  exact along_cons trivial rfl <| along_cons trivial rfl <| along_cons trivial rfl <|
    along_cons trivial rfl <| along_cons trivial rfl <| along_cons trivial rfl <|
    along_cons trivial rfl <| along_cons hthere rfl trivial

/-- The first one removes the second one, which is disabled and told of its error all the
same. -/
theorem removed_called :
    (run Dispatch.step threeWatches
        (twoFatal ++ [.change (.removeWatch 2), .returns false])).map (·.loop.calls)
      = some [⟨1, .enable, false⟩, ⟨1, .onError, false⟩, ⟨2, .enable, true⟩,
        ⟨2, .onError, true⟩] := by
  rfl

end Fdbus.Worker

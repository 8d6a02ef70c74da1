/-
  Fdbus.Worker.TimerQueue — the timers of a `CBaseEventLoop`.

  `mTimerWorkingList` holds the timers that are enabled, in the order in which they expire.
  `processTimers` takes those that are due, enables the cyclic ones again and then calls one after
  the other; a callback may add, remove, enable and configure any timer, and may even get to
  `processTimers` again.  The black list keeps removed timers from being called.

    * `Consistent` — each timer is in the list at most once, and exactly if it is enabled; the list
      is in the order of the expirations, and of the enablings where these are equal,
    * `TimerInv.enable` — `enable` keeps it, from any state,
    * `timers_consistent` — so do all operations, in any order and with any clock readings, inside
      and outside of callbacks.

  The code of `processTimers` between two callbacks is one step, and what callbacks do are events.
  `enabledAs` and `enablings` are no variables of the source: they number the enablings.
-/
import Fdbus.Library.Run
import Fdbus.Library.StableQueue

namespace Fdbus.Worker

open Fdbus.Run List Option Function

/-! ## §1. Timers and their loop. -/

/-- `CSysLoopTimer`; `mEventLoop` says that it is set.  `mExpiration` is a `uint64_t`. -/
structure CSysLoopTimer where
  mInterval : Int
  mRepeat : Bool
  mEnable : Bool
  mExpiration : Nat
  mEventLoop : Bool
  deriving DecidableEq

/-- `EEnable`. -/
inductive EEnable where
  | enable
  | disable
  | dontCare
  deriving DecidableEq

/-- `processTimers` under way: the timers that are still to be called, and the one whose callback is
running. -/
structure Pass (T : Type) where
  tos : List T
  running : Option T

/-- `CBaseEventLoop`, with the timers that it may get, and the passes that are under way. -/
structure CBaseEventLoop (T : Type) where
  timers : T → CSysLoopTimer
  mTimerList : List T
  mTimerWorkingList : List T
  mTimerBlackList : List T
  mTimerRecursiveCnt : Nat
  passes : List (Pass T)
  enablings : Nat
  enabledAs : T → Nat

variable {T : Type} [DecidableEq T]

namespace CBaseEventLoop

/-- The constructor, with timers of these intervals that have just been constructed. -/
def new (interval : T → Int) (rpt : T → Bool) : CBaseEventLoop T :=
  ⟨fun t => ⟨interval t, rpt t, false, 0, false⟩, [], [], [], 0, [], 0, fun _ => 0⟩

/-- Members of a timer are assigned. -/
def update (s : CBaseEventLoop T) (t : T) (f : CSysLoopTimer → CSysLoopTimer) : CBaseEventLoop T :=
  { s with timers := Function.update s.timers t (f (s.timers t)) }

/-- The first part of `enable`: an enabled timer is taken from the list of its event loop. -/
def takeOut (s : CBaseEventLoop T) (t : T) : Option (CBaseEventLoop T) :=
  if (s.timers t).mEnable then
    -- `mEventLoop->mTimerWorkingList`
    if (s.timers t).mEventLoop then
      some (update { s with mTimerWorkingList := s.mTimerWorkingList.erase t } t fun timer =>
        { timer with mEnable := false })
    else none
  else some s

/-- The rest for `enb`, if there is an interval: the timer is inserted. -/
def putIn (s : CBaseEventLoop T) (t : T) (expiration : Nat) : Option (CBaseEventLoop T) :=
  if (s.timers t).mEventLoop then
    let s := s.update t fun timer => { timer with mExpiration := expiration, mEnable := true }
    some { s with
      -- in front of the first timer with `expiration() > mExpiration`
      mTimerWorkingList :=
        StableQueue.insert (fun u => (s.timers u).mExpiration) t s.mTimerWorkingList
      enablings := s.enablings + 1
      enabledAs := Function.update s.enabledAs t s.enablings }
  else none

/-- `enable(enb, time_start, init_value)` while the clock reads `now`; `none` is the use of a null
pointer. -/
def enable (s : CBaseEventLoop T) (t : T) (enb : Bool) (timeStart : Nat) (initValue : Int)
    (now : Nat) : Option (CBaseEventLoop T) :=
  (s.takeOut t).bind fun s =>
    if enb then
      let timeStart := if timeStart = 0 then now else timeStart
      if initValue > 0 then s.putIn t ((timeStart + initValue.toNat) % 2 ^ 64)
      else if (s.timers t).mInterval > 0 then
        s.putIn t ((timeStart + (s.timers t).mInterval.toNat) % 2 ^ 64)
      else some s -- an error is logged, and the timer stays disabled
    else some s

/-- `config(enb, rpt, interval, init_value)`. -/
def config (s : CBaseEventLoop T) (t : T) (enb rpt : EEnable) (interval initValue : Int)
    (now : Nat) : Option (CBaseEventLoop T) :=
  let s := s.update t fun timer =>
    { timer with
      mRepeat := match rpt with
        | .enable => true
        | .disable => false
        | .dontCare => timer.mRepeat
      mInterval := if interval > 0 then interval else timer.mInterval }
  match enb with
  | .enable => s.enable t true 0 initValue now
  | .disable => s.enable t false 0 0 now
  | .dontCare => some s

/-- `addTimer(timer, enb)`. -/
def addTimer (s : CBaseEventLoop T) (t : T) (enb : Bool) (now : Nat) : Option (CBaseEventLoop T) :=
  if s.mTimerList.contains t then some s
  else
    let s := s.update t fun timer => { timer with mEventLoop := true }
    enable { s with mTimerList := s.mTimerList ++ [t] } t enb 0 0 now

/-- `removeTimer(timer)`. -/
def removeTimer (s : CBaseEventLoop T) (t : T) : Option (CBaseEventLoop T) :=
  -- `mTimerBlackList` is a set
  let blackList :=
    if s.mTimerBlackList.contains t then s.mTimerBlackList else t :: s.mTimerBlackList
  (enable { s with mTimerBlackList := blackList } t false 0 0 0).map fun s =>
    update { s with mTimerList := s.mTimerList.erase t } t fun timer =>
      { timer with mEventLoop := false }

/-- `timerDestroyed(timer)`. -/
def timerDestroyed (s : CBaseEventLoop T) (t : T) : Bool := s.mTimerBlackList.contains t

/-- `beginTimerBlackList()`. -/
def beginTimerBlackList (s : CBaseEventLoop T) : CBaseEventLoop T :=
  { s with
    mTimerBlackList := if s.mTimerRecursiveCnt = 0 then [] else s.mTimerBlackList
    mTimerRecursiveCnt := s.mTimerRecursiveCnt + 1 }

/-- `endTimerBlackList()`. -/
def endTimerBlackList (s : CBaseEventLoop T) : CBaseEventLoop T :=
  { s with
    mTimerBlackList := if s.mTimerRecursiveCnt - 1 = 0 then [] else s.mTimerBlackList
    mTimerRecursiveCnt := s.mTimerRecursiveCnt - 1 }

/-- `processTimers()` up to the loop with the callbacks.  If the clock reads 0, `enable` reads it
again for each timer. -/
def processTimers (s : CBaseEventLoop T) (now : Nat) (reread : T → Nat) :
    Option (CBaseEventLoop T) :=
  let tos := s.mTimerWorkingList.takeWhile fun t => decide ((s.timers t).mExpiration ≤ now)
  if tos = [] then some s
  else
    -- all of them are enabled again, or disabled, before the first callback
    (run (fun s t => s.enable t (s.timers t).mRepeat now 0 (reread t)) s.beginTimerBlackList
      tos).map fun s => { s with passes := ⟨tos, none⟩ :: s.passes }

/-- The loop of the innermost pass goes on: to the next timer that has not been removed, or to its
end. -/
def turn (s : CBaseEventLoop T) : CBaseEventLoop T :=
  match s.passes with
  | ⟨t :: tos, none⟩ :: passes =>
    -- `continue` for a timer that an earlier callback has removed
    { s with passes := ⟨tos, if s.timerDestroyed t then none else some t⟩ :: passes }
  | ⟨[], none⟩ :: passes => endTimerBlackList { s with passes := passes }
  | _ => s -- a callback is running, or no pass is under way

/-- The callback of the innermost pass returns, or throws an exception. -/
def returned (s : CBaseEventLoop T) (threw : Bool) : Option (CBaseEventLoop T) :=
  match s.passes with
  | ⟨tos, some t⟩ :: passes =>
    let s := { s with passes := ⟨tos, none⟩ :: passes }
    -- the `catch` clause
    if threw && !s.timerDestroyed t then s.removeTimer t else some s
  | _ => some s

end CBaseEventLoop

/-- What happens to the timers of a loop; `now` is what the clock reads. -/
inductive TimerEvent (T : Type) where
  | addTimer (t : T) (enb : Bool) (now : Nat)
  | removeTimer (t : T)
  | enable (t : T) (enb : Bool) (timeStart : Nat) (initValue : Int) (now : Nat)
  | config (t : T) (enb rpt : EEnable) (interval initValue : Int) (now : Nat)
  | processTimers (now : Nat) (reread : T → Nat)
  | turn
  | returned (threw : Bool)

/-- One event.  Where no pass can go on, `turn` and `returned` do nothing. -/
def timerStep (s : CBaseEventLoop T) : TimerEvent T → Option (CBaseEventLoop T)
  | .addTimer t enb now => s.addTimer t enb now
  | .removeTimer t => s.removeTimer t
  | .enable t enb timeStart initValue now => s.enable t enb timeStart initValue now
  | .config t enb rpt interval initValue now => s.config t enb rpt interval initValue now
  | .processTimers now reread => s.processTimers now reread
  | .turn => some s.turn
  | .returned threw => s.returned threw

/-- A timer that is enabled from outside is a timer of the loop. -/
def OfLoop (s : CBaseEventLoop T) : TimerEvent T → Prop
  | .enable t enb _ _ _ => enb = true → (s.timers t).mEventLoop = true
  | .config t enb _ _ _ _ => enb = .enable → (s.timers t).mEventLoop = true
  | _ => True

instance (s : CBaseEventLoop T) (e : TimerEvent T) : Decidable (OfLoop s e) :=
  match e with
  | .enable _ _ _ _ _ => inferInstanceAs (Decidable (_ → _))
  | .config _ _ _ _ _ _ => inferInstanceAs (Decidable (_ → _))
  | .addTimer _ _ _ | .removeTimer _ | .processTimers _ _ | .turn | .returned _ =>
    inferInstanceAs (Decidable True)

/-! ## §2. The invariant. -/

/-- `mTimerWorkingList` is as it should be. -/
structure Consistent (s : CBaseEventLoop T) : Prop where
  nodup : s.mTimerWorkingList.Nodup
  mem_iff : ∀ t, t ∈ s.mTimerWorkingList ↔ (s.timers t).mEnable = true
  ordered : StableQueue.Ordered (fun t => (s.timers t).mExpiration) s.enabledAs s.mTimerWorkingList

/-- With what keeps it so: enabled timers belong to the loop and have been enabled before now. -/
structure TimerInv (s : CBaseEventLoop T) : Prop extends Consistent s where
  attached : ∀ t, (s.timers t).mEnable = true → (s.timers t).mEventLoop = true
  earlier : ∀ t ∈ s.mTimerWorkingList, s.enabledAs t < s.enablings

omit [DecidableEq T] in
theorem timerInv_new (interval : T → Int) (rpt : T → Bool) :
    TimerInv (CBaseEventLoop.new interval rpt) where
  nodup := nodup_nil
  mem_iff t := by
    show t ∈ [] ↔ false = true
    simp
  ordered := Pairwise.nil
  attached t h := by cases h
  earlier t ht := absurd ht not_mem_nil

/-- The two states agree in everything the invariant is about. -/
structure SameQueue (s s' : CBaseEventLoop T) : Prop where
  timers : ∀ t, (s'.timers t).mEnable = (s.timers t).mEnable
    ∧ (s'.timers t).mExpiration = (s.timers t).mExpiration
  list : s'.mTimerWorkingList = s.mTimerWorkingList
  enablings : s'.enablings = s.enablings
  enabledAs : s'.enabledAs = s.enabledAs

omit [DecidableEq T] in
/-- Such a change keeps the invariant, if no enabled timer is taken from the loop. -/
theorem TimerInv.congr {s s' : CBaseEventLoop T} (h : TimerInv s) (hsame : SameQueue s s')
    (hattached : ∀ t, (s.timers t).mEnable = true → (s.timers t).mEventLoop = true →
      (s'.timers t).mEventLoop = true) : TimerInv s' where
  nodup := by rw [hsame.list]; exact h.nodup
  mem_iff t := by rw [hsame.list, (hsame.timers t).1]; exact h.mem_iff t
  ordered := by
    rw [hsame.list]
    exact h.ordered.congr fun t _ => ⟨(hsame.timers t).2, by rw [hsame.enabledAs]⟩
  attached t ht := by
    rw [(hsame.timers t).1] at ht
    exact hattached t ht (h.attached t ht)
  earlier t ht := by
    rw [hsame.list] at ht
    rw [hsame.enabledAs, hsame.enablings]
    exact h.earlier t ht

/-! ## §3. `enable` keeps the invariant. -/

section Operations

variable {s : CBaseEventLoop T}

/-- Members of other timers stay. -/
theorem update_other (s : CBaseEventLoop T) {t u : T} (f : CSysLoopTimer → CSysLoopTimer)
    (h : u ≠ t) : (s.update t f).timers u = s.timers u := update_of_ne h _ _

theorem update_self (s : CBaseEventLoop T) (t : T) (f : CSysLoopTimer → CSysLoopTimer) :
    (s.update t f).timers t = f (s.timers t) := Function.update_self _ _ _

section

variable (h : TimerInv s)

include h

/-- An assignment to members that the invariant is not about. -/
theorem TimerInv.update {t : T} {f : CSysLoopTimer → CSysLoopTimer}
    (henable : (f (s.timers t)).mEnable = (s.timers t).mEnable)
    (hexpiration : (f (s.timers t)).mExpiration = (s.timers t).mExpiration)
    (hattached : (s.timers t).mEnable = true → (f (s.timers t)).mEventLoop = true) :
    TimerInv (s.update t f) := by
  refine h.congr ⟨fun u => ?_, rfl, rfl, rfl⟩ fun u henabled hloop => ?_
  · by_cases hu : u = t
    · rw [hu, update_self]
      exact ⟨henable, hexpiration⟩
    · rw [update_other s f hu]
      exact ⟨rfl, rfl⟩
  · by_cases hu : u = t
    · rw [hu, update_self]
      exact hattached (hu ▸ henabled)
    · rwa [update_other s f hu]

/-- **The first part of `enable`**: afterwards the timer is disabled, and every timer belongs to the
loop if it did before. -/
theorem TimerInv.takeOut (t : T) :
    ∃ s', s.takeOut t = some s' ∧ TimerInv s' ∧ (s'.timers t).mEnable = false
      ∧ ∀ u, (s'.timers u).mEventLoop = (s.timers u).mEventLoop := by
  unfold CBaseEventLoop.takeOut
  by_cases henabled : (s.timers t).mEnable = true
  · rw [if_pos henabled, if_pos (h.attached t henabled)]
    refine ⟨_, rfl, ⟨⟨h.nodup.erase t, fun u => ?_, ?_⟩, fun u hu => ?_, fun u hu => ?_⟩, ?_,
      fun u => ?_⟩
    · -- the list has no duplicates, so `t` is gone from it
      show u ∈ s.mTimerWorkingList.erase t ↔ _
      rw [h.nodup.mem_erase_iff]
      by_cases hu : u = t
      · rw [hu, update_self]
        simp
      · rw [update_other _ _ hu, ← h.mem_iff u]
        exact and_iff_right hu
    · -- the expirations of those that are left have not changed
      refine (h.ordered.erase t).congr fun u hu => ⟨?_, rfl⟩
      rw [update_other _ _ (h.nodup.mem_erase_iff.mp hu).1]
    · by_cases hut : u = t
      · rw [hut, update_self] at hu
        cases hu
      · rw [update_other _ _ hut] at hu ⊢
        exact h.attached u hu
    · exact h.earlier u (mem_of_mem_erase hu)
    · rw [update_self]
    · by_cases hu : u = t
      · rw [hu, update_self]
      · rw [update_other _ _ hu]
  · rw [if_neg henabled]
    exact ⟨s, rfl, h, by simpa using henabled, fun _ => rfl⟩

/-- **The rest**: a disabled timer of the loop is inserted. -/
theorem TimerInv.putIn {t : T} (hdisabled : (s.timers t).mEnable = false)
    (hattached : (s.timers t).mEventLoop = true) (expiration : Nat) :
    ∃ s', s.putIn t expiration = some s' ∧ TimerInv s'
      ∧ ∀ u, (s'.timers u).mEventLoop = (s.timers u).mEventLoop := by
  have hout : t ∉ s.mTimerWorkingList := fun hin => by
    rw [(h.mem_iff t).mp hin] at hdisabled
    cases hdisabled
  have hne : ∀ u ∈ s.mTimerWorkingList, u ≠ t := fun u hu hut => hout (hut ▸ hu)
  unfold CBaseEventLoop.putIn
  rw [if_pos hattached]
  refine ⟨_, rfl, ⟨⟨?_, fun u => ?_, ?_⟩, fun u hu => ?_, fun u hu => ?_⟩, fun u => ?_⟩
  · exact (StableQueue.insert_perm _ t _).nodup_iff.mpr (nodup_cons.mpr ⟨hout, h.nodup⟩)
  · rw [StableQueue.mem_insert]
    by_cases hut : u = t
    · rw [hut, update_self]
      simp
    · rw [update_other _ _ hut, ← h.mem_iff u]
      exact or_iff_right hut
  · -- of all that are in the list, this timer has been enabled last
    refine StableQueue.ordered_insert (h.ordered.congr fun u hu => ?_) fun u hu => ?_
    · exact ⟨by rw [update_other _ _ (hne u hu)], update_of_ne (hne u hu) _ _⟩
    · show Function.update s.enabledAs t s.enablings u < Function.update s.enabledAs t s.enablings t
      rw [Function.update_of_ne (hne u hu), Function.update_self]
      exact h.earlier u hu
  · by_cases hut : u = t
    · rw [hut, update_self]
      exact hattached
    · rw [update_other _ _ hut] at hu ⊢
      exact h.attached u hu
  · show Function.update s.enabledAs t s.enablings u < s.enablings + 1
    rcases StableQueue.mem_insert.mp hu with rfl | hu
    · rw [Function.update_self]
      exact Nat.lt_succ_self _
    · rw [update_of_ne (hne u hu)]
      exact Nat.lt_succ_of_lt (h.earlier u hu)
  · by_cases hut : u = t
    · rw [hut, update_self]
    · rw [update_other _ _ hut]

/-- **`enable` keeps the invariant**, for a timer of the loop or to disable one. -/
theorem TimerInv.enable (t : T) (enb : Bool) (timeStart : Nat) (initValue : Int) (now : Nat)
    (hloop : enb = true → (s.timers t).mEventLoop = true) :
    ∃ s', s.enable t enb timeStart initValue now = some s' ∧ TimerInv s'
      ∧ (enb = false → (s'.timers t).mEnable = false)
      ∧ ∀ u, (s'.timers u).mEventLoop = (s.timers u).mEventLoop := by
  obtain ⟨s₁, hs₁, hinv, hdisabled, hsame⟩ := h.takeOut t
  unfold CBaseEventLoop.enable
  rw [hs₁, bind_some]
  cases enb with
  | false => exact ⟨s₁, rfl, hinv, fun _ => hdisabled, hsame⟩
  | true =>
    have hattached : (s₁.timers t).mEventLoop = true := (hsame t).trans (hloop rfl)
    have hput : ∀ expiration, ∃ s', s₁.putIn t expiration = some s' ∧ TimerInv s'
        ∧ (true = false → (s'.timers t).mEnable = false)
        ∧ ∀ u, (s'.timers u).mEventLoop = (s.timers u).mEventLoop := by
      intro expiration
      obtain ⟨s₂, hs₂, hinv₂, hsame₂⟩ := hinv.putIn hdisabled hattached expiration
      exact ⟨s₂, hs₂, hinv₂, fun hno => absurd hno (by decide),
        fun u => (hsame₂ u).trans (hsame u)⟩
    simp only [if_true]
    -- by the initial value, by the interval, or not at all
    split
    · exact hput _
    · split
      · exact hput _
      · exact ⟨s₁, rfl, hinv, fun _ => hdisabled, hsame⟩

/-! ## §4. So do the other operations. -/

theorem TimerInv.config (t : T) (enb rpt : EEnable) (interval initValue : Int) (now : Nat)
    (hloop : enb = .enable → (s.timers t).mEventLoop = true) :
    ∃ s', s.config t enb rpt interval initValue now = some s' ∧ TimerInv s' := by
  have hset := h.update (t := t) (f := fun timer =>
    { timer with
      mRepeat := match rpt with
        | .enable => true
        | .disable => false
        | .dontCare => timer.mRepeat
      mInterval := if interval > 0 then interval else timer.mInterval }) rfl rfl (h.attached t)
  cases enb with
  | enable =>
    obtain ⟨s', hs', hinv, -⟩ := hset.enable t true 0 initValue now fun _ => by
      rw [update_self]
      exact hloop rfl
    exact ⟨s', hs', hinv⟩
  | disable =>
    obtain ⟨s', hs', hinv, -⟩ := hset.enable t false 0 0 now
      fun hno => absurd hno Bool.false_ne_true
    exact ⟨s', hs', hinv⟩
  | dontCare => exact ⟨_, rfl, hset⟩

theorem TimerInv.addTimer (t : T) (enb : Bool) (now : Nat) :
    ∃ s', s.addTimer t enb now = some s' ∧ TimerInv s' := by
  unfold CBaseEventLoop.addTimer
  split
  · exact ⟨s, rfl, h⟩
  · have hset := h.update (t := t) (f := fun timer => { timer with mEventLoop := true }) rfl rfl
      fun _ => rfl
    have hlist : TimerInv { s.update t (fun timer => { timer with mEventLoop := true }) with
        mTimerList := s.mTimerList ++ [t] } :=
      hset.congr ⟨fun _ => ⟨rfl, rfl⟩, rfl, rfl, rfl⟩ fun _ _ hloop => hloop
    obtain ⟨s', hs', hinv, -⟩ := hlist.enable t enb 0 0 now fun _ => by
      show ((s.update t fun timer => { timer with mEventLoop := true }).timers t).mEventLoop = true
      rw [update_self]
    exact ⟨s', hs', hinv⟩

theorem TimerInv.removeTimer (t : T) : ∃ s', s.removeTimer t = some s' ∧ TimerInv s' := by
  unfold CBaseEventLoop.removeTimer
  have hblack : ∀ blackList, TimerInv { s with mTimerBlackList := blackList } := fun _ =>
    h.congr ⟨fun _ => ⟨rfl, rfl⟩, rfl, rfl, rfl⟩ fun _ _ hloop => hloop
  obtain ⟨s₁, hs₁, hinv, hdisabled, -⟩ := (hblack (if s.mTimerBlackList.contains t then
    s.mTimerBlackList else t :: s.mTimerBlackList)).enable t false 0 0 0
      fun hno => absurd hno Bool.false_ne_true
  simp only [hs₁, map_some]
  refine ⟨_, rfl, ?_⟩
  have hlist : TimerInv { s₁ with mTimerList := s₁.mTimerList.erase t } :=
    hinv.congr ⟨fun _ => ⟨rfl, rfl⟩, rfl, rfl, rfl⟩ fun _ _ hloop => hloop
  -- a timer may leave the loop because it is disabled by now
  refine hlist.update rfl rfl fun henabled => ?_
  rw [hdisabled rfl] at henabled
  cases henabled

end

/-- The due timers one after the other, by induction over them. -/
theorem TimerInv.run_enable (now : Nat) (reread : T → Nat) (tos : List T) :
    ∀ {s : CBaseEventLoop T}, TimerInv s → (∀ t ∈ tos, (s.timers t).mEventLoop = true) →
      ∃ s', run (fun s t => s.enable t (s.timers t).mRepeat now 0 (reread t)) s tos = some s'
        ∧ TimerInv s' := by
  induction tos with
  | nil => intro s h _; exact ⟨s, rfl, h⟩
  | cons t tos ih =>
    intro s h hloop
    obtain ⟨s₁, hs₁, hinv, -, hsame⟩ := h.enable t (s.timers t).mRepeat now 0 (reread t)
      fun _ => hloop t mem_cons_self
    obtain ⟨s₂, hs₂, hinv₂⟩ := ih hinv fun u hu =>
      (hsame u).trans (hloop u (mem_cons_of_mem t hu))
    refine ⟨s₂, ?_, hinv₂⟩
    show ((s.enable t (s.timers t).mRepeat now 0 (reread t)).bind fun s' => run _ s' tos)
      = some s₂
    rw [hs₁, bind_some, hs₂]

theorem TimerInv.processTimers (h : TimerInv s) (now : Nat) (reread : T → Nat) :
    ∃ s', s.processTimers now reread = some s' ∧ TimerInv s' := by
  unfold CBaseEventLoop.processTimers
  simp only
  split
  · exact ⟨s, rfl, h⟩
  · have hbegin : TimerInv s.beginTimerBlackList :=
      h.congr ⟨fun _ => ⟨rfl, rfl⟩, rfl, rfl, rfl⟩ fun _ _ hloop => hloop
    -- what is due is in the list, so it is enabled and belongs to the loop
    obtain ⟨s₁, hs₁, hinv⟩ := hbegin.run_enable now reread
      (s.mTimerWorkingList.takeWhile fun t => decide ((s.timers t).mExpiration ≤ now))
      fun t ht => h.attached t ((h.mem_iff t).mp (takeWhile_subset _ ht))
    rw [hs₁, map_some]
    exact ⟨_, rfl, hinv.congr ⟨fun _ => ⟨rfl, rfl⟩, rfl, rfl, rfl⟩ fun _ _ hloop => hloop⟩

theorem TimerInv.turn (h : TimerInv s) : TimerInv s.turn := by
  unfold CBaseEventLoop.turn
  split
  · exact h.congr ⟨fun _ => ⟨rfl, rfl⟩, rfl, rfl, rfl⟩ fun _ _ hloop => hloop
  · exact h.congr ⟨fun _ => ⟨rfl, rfl⟩, rfl, rfl, rfl⟩ fun _ _ hloop => hloop
  · exact h

theorem TimerInv.returned (h : TimerInv s) (threw : Bool) :
    ∃ s', s.returned threw = some s' ∧ TimerInv s' := by
  unfold CBaseEventLoop.returned
  split
  · rename_i tos t passes _
    have hpass : TimerInv { s with passes := ⟨tos, none⟩ :: passes } :=
      h.congr ⟨fun _ => ⟨rfl, rfl⟩, rfl, rfl, rfl⟩ fun _ _ hloop => hloop
    simp only
    split
    · exact hpass.removeTimer t
    · exact ⟨_, rfl, hpass⟩
  · exact ⟨s, rfl, h⟩

/-- **Every event** keeps the invariant and uses no null pointer, if only timers of the loop are
enabled. -/
theorem TimerInv.timerStep (h : TimerInv s) (e : TimerEvent T) (hloop : OfLoop s e) :
    ∃ s', timerStep s e = some s' ∧ TimerInv s' := by
  cases e with
  | addTimer t enb now => exact h.addTimer t enb now
  | removeTimer t => exact h.removeTimer t
  | enable t enb timeStart initValue now =>
    obtain ⟨s', hs', hinv, -⟩ := h.enable t enb timeStart initValue now hloop
    exact ⟨s', hs', hinv⟩
  | config t enb rpt interval initValue now =>
    exact h.config t enb rpt interval initValue now hloop
  | processTimers now reread => exact h.processTimers now reread
  | turn => exact ⟨s.turn, rfl, h.turn⟩
  | returned threw => exact h.returned threw

end Operations

/-- **The timer queue is always consistent**: after any sequence of operations on the timers of a
loop, whatever the clock reads and whatever the callbacks do. -/
theorem timers_consistent (interval : T → Int) (rpt : T → Bool) (es : List (TimerEvent T))
    (h : Along timerStep OfLoop (CBaseEventLoop.new interval rpt) es) :
    ∃ s, run timerStep (CBaseEventLoop.new interval rpt) es = some s ∧ Consistent s := by
  obtain ⟨s, hs, hinv⟩ := run_total_along (P := TimerInv)
    (fun s e hloop hinv => hinv.timerStep e hloop) es _ (timerInv_new interval rpt) h
  exact ⟨s, hs, hinv.toConsistent⟩

/-- Three timers, one of them cyclic; a callback removes one that is due and enables another. -/
def timerEvents : List (TimerEvent Nat) :=
  [.addTimer 0 true 100, .addTimer 1 true 100, .addTimer 2 false 100,
    .processTimers 110 (fun _ => 110), .turn, .removeTimer 1, .enable 2 true 0 5 110,
    .returned false, .turn, .turn]

theorem timers_consistent_timerEvents :
    ∃ s, run timerStep (CBaseEventLoop.new (fun _ => 10) fun t => t == 0) timerEvents = some s
      ∧ Consistent s := by
  apply timers_consistent
  decide

end Fdbus.Worker

/-
  Fdbus.Log.TraceFilter — which traces a process passes on, and which ones it prints.

  A trace is passed on by `checkLogTraceEnabled` and printed by `FDB_PRINT_LOG`.  Both compare its
  level with a limit, but in opposite directions.

    * `printLog_keepsSevere` — what is printed would be printed at every more severe level,
    * `traces_keepSevere_iff` — what is passed on would be passed on at every more severe level
      exactly if the limit is `FDB_LL_FATAL` or above, or a switch, the cache or the tag list stops
      every trace of the tag.
-/
import Fdbus.Common.Defs

namespace Fdbus.Log

/-- `EFdbLogLevel`. -/
inductive EFdbLogLevel where
  | verbose
  | debug
  | info
  | warning
  | error
  | fatal
  | silent
  | max
  deriving DecidableEq

/-- The number of a level, which grows with severity. -/
def EFdbLogLevel.value : EFdbLogLevel → Nat
  | .verbose => 0
  | .debug => 1
  | .info => 2
  | .warning => 3
  | .error => 4
  | .fatal => 5
  | .silent => 6
  | .max => 7

/-- `CLogProducer`, as far as traces go: `mLogCache` says of the cache whether it is full. -/
structure CLogProducer where
  mTraceDisableGlobal : Bool := false
  mTraceHostEnabled : Bool := true
  mLogCache : Option Bool := none
  sessionCount : Nat := 1
  mLogLevel : EFdbLogLevel := .info
  mTraceTagWhiteList : List (List UInt8) := []
  mReverseTags : Bool := false

/-- `checkCacheEnabled()`. -/
def CLogProducer.checkCacheEnabled (p : CLogProducer) : Bool :=
  match p.mLogCache with
  | some full => !(p.sessionCount == 0 && full)
  | none => p.sessionCount != 0

/-- The tag is not filtered out: it is on the list, or it is not and the list is reversed. -/
def CLogProducer.tagEnabled (p : CLogProducer) (tag : List UInt8) : Bool :=
  if p.mTraceTagWhiteList.isEmpty then true
  else
    let exclude := !p.mTraceTagWhiteList.contains tag
    !(p.mReverseTags ^^ exclude)

/-- `checkLogTraceEnabled(log_level, tag)`. -/
def CLogProducer.checkLogTraceEnabled (p : CLogProducer) (level : EFdbLogLevel) (tag : List UInt8) :
    Bool :=
  if p.mTraceDisableGlobal ∨ p.mTraceHostEnabled = false ∨ p.checkCacheEnabled = false
      ∨ level.value > p.mLogLevel.value ∨ level.value ≥ EFdbLogLevel.silent.value then false
  else p.tagEnabled tag

/-- `FDB_PRINT_LOG(_level_, _tag_)`: whether it prints. -/
def printLog (staticLogLevel level : EFdbLogLevel) : Bool :=
  !decide (level.value < staticLogLevel.value)

/-- Raising the severity of a message never hides it. -/
def KeepsSevere (pass : EFdbLogLevel → Bool) : Prop :=
  ∀ level level', pass level = true → level.value ≤ level'.value →
    level'.value < EFdbLogLevel.silent.value → pass level' = true

/-- The switches let traces with this tag pass: tracing is not disabled here or for the host, there
is a logger or room in the cache, and the tag is not filtered out. -/
def CLogProducer.SwitchedOn (p : CLogProducer) (tag : List UInt8) : Prop :=
  p.mTraceDisableGlobal = false ∧ p.mTraceHostEnabled = true ∧ p.checkCacheEnabled = true
    ∧ p.tagEnabled tag = true

theorem printLog_keepsSevere (staticLogLevel : EFdbLogLevel) :
    KeepsSevere (printLog staticLogLevel) := by
  intro level level' hpass hle _
  unfold printLog at hpass ⊢
  simp only [Bool.not_eq_true', decide_eq_false_iff_not, not_lt] at hpass ⊢
  omega

theorem checkLogTraceEnabled_iff (p : CLogProducer) (level : EFdbLogLevel) (tag : List UInt8) :
    p.checkLogTraceEnabled level tag = true
      ↔ p.SwitchedOn tag
        ∧ level.value ≤ p.mLogLevel.value ∧ level.value < EFdbLogLevel.silent.value := by
  unfold CLogProducer.checkLogTraceEnabled
  split
  · rename_i hoff
    refine ⟨nofun, fun h => ?_⟩
    obtain ⟨⟨hglobal, hhost, hcache, -⟩, hlimit, hsilent⟩ := h
    rcases hoff with hoff | hoff | hoff | hoff | hoff
    · rw [hglobal] at hoff
      cases hoff
    · rw [hhost] at hoff
      cases hoff
    · rw [hcache] at hoff
      cases hoff
    · omega
    · omega
  · rename_i hon
    simp only [not_or, Bool.not_eq_true, Bool.not_eq_false] at hon
    obtain ⟨hglobal, hhost, hcache, hlimit, hsilent⟩ := hon
    exact ⟨fun h => ⟨⟨hglobal, hhost, hcache, h⟩, by omega, by omega⟩, fun h => h.1.2.2.2⟩

/-- **Traces are hidden from above**: raising the severity of a trace never hides it exactly if
every level below `FDB_LL_SILENT` is within the limit, or one of the switches is off. -/
theorem traces_keepSevere_iff (p : CLogProducer) (tag : List UInt8) :
    KeepsSevere (p.checkLogTraceEnabled · tag)
      ↔ EFdbLogLevel.fatal.value ≤ p.mLogLevel.value ∨ ¬ p.SwitchedOn tag := by
  constructor
  · intro hkeep
    by_cases hon : p.SwitchedOn tag
    · -- the least severe level is within every limit, so it passes
      have hpass : p.checkLogTraceEnabled .verbose tag = true :=
        (checkLogTraceEnabled_iff p .verbose tag).mpr ⟨hon, Nat.zero_le _, by decide⟩
      have hfatal := hkeep .verbose .fatal hpass (by decide) (by decide)
      exact .inl ((checkLogTraceEnabled_iff p .fatal tag).mp hfatal).2.1
    · exact .inr hon
  · rintro (hlimit | hoff) level level' hpass _ hsilent
    · obtain ⟨hon, -, -⟩ := (checkLogTraceEnabled_iff p level tag).mp hpass
      have hle : level'.value ≤ EFdbLogLevel.fatal.value := Nat.lt_succ_iff.mp hsilent
      exact (checkLogTraceEnabled_iff p level' tag).mpr ⟨hon, hle.trans hlimit, hsilent⟩
    · exact absurd ((checkLogTraceEnabled_iff p level tag).mp hpass).1 hoff

/-- With the settings of a new `CLogProducer` that has a logger, information passes and errors do
not. -/
theorem errors_hidden :
    CLogProducer.checkLogTraceEnabled {} .info [116] = true
      ∧ CLogProducer.checkLogTraceEnabled {} .error [116] = false := by
  decide

end Fdbus.Log

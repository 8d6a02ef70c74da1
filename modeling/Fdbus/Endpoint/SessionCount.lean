/-
  Fdbus.Endpoint.SessionCount — the session counters of a `CBaseEndpoint`.

  `addConnectedSession` counts a session when it is authenticated, and the destructor of every
  session counts it back through `deleteConnectedSession`.  A session that fails the
  authentication is destroyed like any other, so it is counted back without having been counted.

    * `counters_exact_iff` — the counters and the is_first/is_last they report are exact
      throughout a run if and only if each rejected connection finds no connected session of its
      kind, and not exactly one of its group.

  The online and offline notifications of one session go to the endpoint and to its objects with
  the same flag; they are one `Report` here.
-/
import Fdbus.Library.Run
import Fdbus.Subscribe.Handle

namespace Fdbus.Endpoint

open Fdbus.Run List
open Fdbus.Subscribe (SessionPtr)

/-! ## §1. The counters. -/

/-- What the counters need of a `CFdbSession`: the socket it belongs to, and `isSecure()` of
that socket. -/
structure Session where
  ptr : SessionPtr
  skid : Nat
  secure : Bool
  deriving DecidableEq

/-- A call of `notifyOnline` or `notifyOffline`, with its flag.  The last two fields say what was
the case then: whether the session is one of the connected ones, and how many others its group
has. -/
structure Report where
  session : SessionPtr
  online : Bool
  firstOrLast : Bool
  connected : Bool
  others : Nat
  deriving DecidableEq

/-- The session counters of an endpoint and its registered sessions. -/
structure SessionCounts where
  mSecureSessionCnt : Nat
  mInsecureSessionCnt : Nat
  onlineSeparateChannel : Bool
  sessions : List Session
  reports : List Report

namespace SessionCounts

def start : SessionCounts := ⟨0, 0, false, [], []⟩

/-- Sessions of one group: all sessions, or those of the same kind if the channels are
separate. -/
def sameGroup (st : SessionCounts) (s t : Session) : Bool :=
  !st.onlineSeparateChannel || t.secure == s.secure

/-- The connected sessions in the group of `s`. -/
def inGroup (st : SessionCounts) (s : Session) : Nat := st.sessions.countP (st.sameGroup s)

/-- The other connected sessions in the group of `s`. -/
def others (st : SessionCounts) (s : Session) : Nat :=
  (st.sessions.erase s).countP (st.sameGroup s)

/-- What the counters say about the group of a session. -/
def groupCount (st : SessionCounts) (s : Session) : Nat :=
  if st.onlineSeparateChannel then
    if s.secure then st.mSecureSessionCnt else st.mInsecureSessionCnt
  else st.mSecureSessionCnt + st.mInsecureSessionCnt

/-- `addConnectedSession(socket, session)`. -/
def addConnectedSession (st : SessionCounts) (s : Session) (authenticated : Bool) :
    SessionCounts × Bool :=
  if authenticated then
    ({ st with
      mSecureSessionCnt := if s.secure then st.mSecureSessionCnt + 1 else st.mSecureSessionCnt
      mInsecureSessionCnt :=
        if s.secure then st.mInsecureSessionCnt else st.mInsecureSessionCnt + 1
      sessions := st.sessions ++ [s]
      reports := st.reports ++ [⟨s.ptr, true, st.groupCount s == 0, true, st.others s⟩] }, true)
  else (st, false)

/-- `deleteConnectedSession(session)`; a counter that is 0 stays 0, with an error in the log. -/
def deleteConnectedSession (st : SessionCounts) (s : Session) : SessionCounts :=
  { st with
    mSecureSessionCnt := if s.secure then st.mSecureSessionCnt - 1 else st.mSecureSessionCnt
    mInsecureSessionCnt :=
      if s.secure then st.mInsecureSessionCnt else st.mInsecureSessionCnt - 1
    sessions := st.sessions.erase s
    reports := st.reports
      ++ [⟨s.ptr, false, st.groupCount s == 1, decide (s ∈ st.sessions), st.others s⟩] }

/-- A new connection (`CServerSocket::onInput`, `CBaseClient::doConnect`): a session that is not
added is deleted. -/
def connect (st : SessionCounts) (s : Session) (authenticated : Bool) : SessionCounts :=
  let r := st.addConnectedSession s authenticated
  if r.2 then r.1 else r.1.deleteConnectedSession s

/-- `deleteSession(container)`: the sessions of a socket, one after the other. -/
def deleteSocket (st : SessionCounts) (skid : Nat) : SessionCounts :=
  (st.sessions.filter (·.skid == skid)).foldl deleteConnectedSession st

end SessionCounts

/-- What happens to the sessions of an endpoint. -/
inductive SessionEvent where
  | connect (s : Session) (authenticated : Bool)
  | disconnect (ptr : SessionPtr)
  | deleteSocket (skid : Nat)
  | onlineSeparateChannel (enable : Bool)

/-- One event. -/
def SessionCounts.step (st : SessionCounts) : SessionEvent → Option SessionCounts
  | .connect s authenticated =>
    if st.sessions.any (·.ptr == s.ptr) then none else some (st.connect s authenticated)
  | .disconnect ptr => (st.sessions.find? (·.ptr == ptr)).map st.deleteConnectedSession
  | .deleteSocket skid => some (st.deleteSocket skid)
  | .onlineSeparateChannel enable => some { st with onlineSeparateChannel := enable }

/-! ## §2. Exact counters. -/

/-- `is_first` is reported exactly for the first connected session of its group, and `is_last`
exactly for the last. -/
def Report.Right (r : Report) : Prop :=
  if r.online then r.firstOrLast = true ↔ r.others = 0
  else r.firstOrLast = true ↔ r.connected = true ∧ r.others = 0

/-- The counters are the numbers of connected sessions, and the reports are right. -/
structure Exact (st : SessionCounts) : Prop where
  secure : st.mSecureSessionCnt = st.sessions.countP (·.secure)
  insecure : st.mInsecureSessionCnt = st.sessions.countP (!·.secure)
  reports : ∀ r ∈ st.reports, r.Right

open SessionCounts

theorem exact_start : Exact start :=
  ⟨rfl, rfl, fun _ hr => absurd hr not_mem_nil⟩

section Counts

variable {st : SessionCounts} {s : Session}

theorem sameGroup_self : st.sameGroup s s = true := by
  unfold sameGroup
  simp

/-- The sessions of one kind are one of the counters. -/
theorem countP_kind (h : Exact st) :
    st.sessions.countP (fun t => t.secure == s.secure)
      = if s.secure then st.mSecureSessionCnt else st.mInsecureSessionCnt := by
  cases hs : s.secure with
  | true =>
    rw [if_pos rfl, h.secure]
    exact countP_congr fun t _ => by simp
  | false =>
    rw [if_neg (by decide), h.insecure]
    exact countP_congr fun t _ => by simp

/-- **Exact counters tell the size of a group.** -/
theorem groupCount_eq (h : Exact st) : st.groupCount s = st.inGroup s := by
  unfold groupCount inGroup sameGroup
  cases st.onlineSeparateChannel with
  | true =>
    rw [if_pos rfl, ← countP_kind h]
    simp
  | false =>
    -- one group: every session is of one kind or the other
    rw [if_neg (by decide), h.secure, h.insecure]
    have := length_eq_countP_add_countP (fun t : Session => t.secure) (l := st.sessions)
    simp only [Bool.not_false, Bool.true_or, countP_true, this]
    congr 1
    exact countP_congr fun t _ => by simp

theorem others_of_mem (hs : s ∈ st.sessions) : st.inGroup s = st.others s + 1 := by
  unfold others inGroup
  have hpos : 0 < st.sessions.countP (st.sameGroup s) :=
    countP_pos_iff.mpr ⟨s, hs, sameGroup_self⟩
  rw [countP_erase, if_pos ⟨hs, sameGroup_self⟩]
  omega

/-- A session that is authenticated is counted. -/
theorem Exact.add (h : Exact st) (hs : s ∉ st.sessions) : Exact (st.connect s true) := by
  refine ⟨?_, ?_, ?_⟩
  · show (if s.secure then st.mSecureSessionCnt + 1 else st.mSecureSessionCnt)
      = (st.sessions ++ [s]).countP (·.secure)
    rw [countP_append, ← h.secure, countP_singleton]
    split <;> rfl
  · show (if s.secure then st.mInsecureSessionCnt else st.mInsecureSessionCnt + 1)
      = (st.sessions ++ [s]).countP (!·.secure)
    rw [countP_append, ← h.insecure, countP_singleton]
    cases s.secure <;> rfl
  · refine forall_mem_append.mpr ⟨h.reports, forall_mem_singleton.mpr ?_⟩
    show (st.groupCount s == 0) = true ↔ st.others s = 0
    unfold others
    rw [beq_iff_eq, groupCount_eq h, erase_of_not_mem hs]
    rfl

/-- The end of a connected session is counted back. -/
theorem Exact.delete (h : Exact st) (hs : s ∈ st.sessions) :
    Exact (st.deleteConnectedSession s) := by
  refine ⟨?_, ?_, ?_⟩
  · show (if s.secure then st.mSecureSessionCnt - 1 else st.mSecureSessionCnt)
      = (st.sessions.erase s).countP (·.secure)
    rw [countP_erase, ← h.secure]
    cases s.secure <;> simp [hs]
  · show (if s.secure then st.mInsecureSessionCnt else st.mInsecureSessionCnt - 1)
      = (st.sessions.erase s).countP (!·.secure)
    rw [countP_erase, ← h.insecure]
    cases s.secure <;> simp [hs]
  · refine forall_mem_append.mpr ⟨h.reports, forall_mem_singleton.mpr ?_⟩
    show (st.groupCount s == 1) = true ↔ decide (s ∈ st.sessions) = true ∧ st.others s = 0
    rw [beq_iff_eq, groupCount_eq h, others_of_mem hs, decide_eq_true_eq]
    exact ⟨fun h1 => ⟨hs, by omega⟩, fun h0 => by omega⟩

/-- A socket's sessions go one after the other. -/
theorem Exact.foldl_delete (l : List Session) :
    ∀ st : SessionCounts, Exact st → l.Sublist st.sessions →
      Exact (l.foldl deleteConnectedSession st) := by
  induction l with
  | nil => intro st h _; exact h
  | cons s l ih =>
    intro st h hsub
    have hs : s ∈ st.sessions := hsub.subset mem_cons_self
    refine ih (st.deleteConnectedSession s) (h.delete hs) ?_
    -- what is left of the list is left of the table
    have := hsub.erase s
    rwa [erase_cons_head] at this

/-- **A rejected connection** leaves the counters exact if and only if there is no connected
session of its kind for it to count back, and not exactly one that it would report as the
last. -/
theorem exact_rejected_iff (h : Exact st) (hs : s ∉ st.sessions) :
    Exact (st.connect s false) ↔ (∀ t ∈ st.sessions, t.secure ≠ s.secure) ∧ st.inGroup s ≠ 1 := by
  have hkind : (∀ t ∈ st.sessions, t.secure ≠ s.secure)
      ↔ (if s.secure then st.mSecureSessionCnt else st.mInsecureSessionCnt) = 0 := by
    rw [← countP_kind h, countP_eq_zero]
    simp
  have hreport : Report.Right ⟨s.ptr, false, st.groupCount s == 1, decide (s ∈ st.sessions),
      st.others s⟩ ↔ st.inGroup s ≠ 1 := by
    show ((st.groupCount s == 1) = true ↔ decide (s ∈ st.sessions) = true ∧ st.others s = 0) ↔ _
    rw [beq_iff_eq, groupCount_eq h]
    simp [hs]
  rw [hkind, ← hreport]
  constructor
  · intro h'
    refine ⟨?_, h'.reports _ (mem_append_right _ (mem_singleton.mpr rfl))⟩
    -- the counter went down while the table stayed
    have hsecure : (if s.secure then st.mSecureSessionCnt - 1 else st.mSecureSessionCnt)
        = (st.sessions.erase s).countP (·.secure) := h'.secure
    have hinsecure : (if s.secure then st.mInsecureSessionCnt else st.mInsecureSessionCnt - 1)
        = (st.sessions.erase s).countP (!·.secure) := h'.insecure
    rw [erase_of_not_mem hs, ← h.secure] at hsecure
    rw [erase_of_not_mem hs, ← h.insecure] at hinsecure
    cases hsec : s.secure with
    | true =>
      rw [hsec, if_pos rfl] at hsecure
      rw [if_pos rfl]
      omega
    | false =>
      rw [hsec, if_neg (by decide)] at hinsecure
      rw [if_neg (by decide)]
      omega
  · rintro ⟨hzero, hright⟩
    refine ⟨?_, ?_, ?_⟩
    · show (if s.secure then st.mSecureSessionCnt - 1 else st.mSecureSessionCnt)
        = (st.sessions.erase s).countP (·.secure)
      rw [erase_of_not_mem hs, ← h.secure]
      cases hsec : s.secure <;> simp_all
    · show (if s.secure then st.mInsecureSessionCnt else st.mInsecureSessionCnt - 1)
        = (st.sessions.erase s).countP (!·.secure)
      rw [erase_of_not_mem hs, ← h.insecure]
      cases hsec : s.secure <;> simp_all
    · exact forall_mem_append.mpr ⟨h.reports, forall_mem_singleton.mpr hright⟩

end Counts

/-! ## §3. Runs. -/

/-- A rejected connection finds no connected session of its kind, and not exactly one of its
group. -/
def RejectedAlone (st : SessionCounts) : SessionEvent → Prop
  | .connect s false => (∀ t ∈ st.sessions, t.secure ≠ s.secure) ∧ st.inGroup s ≠ 1
  | _ => True

/-- One event. -/
theorem exact_step_iff (st : SessionCounts) (e : SessionEvent) (st' : SessionCounts)
    (h : Exact st) (hstep : st.step e = some st') : Exact st' ↔ RejectedAlone st e := by
  cases e with
  | connect s authenticated =>
    simp only [step] at hstep
    split at hstep
    · exact absurd hstep (by simp)
    · next hfresh =>
        cases hstep
        have hs : s ∉ st.sessions := by
          intro hmem
          exact hfresh (any_eq_true.mpr ⟨s, hmem, beq_self_eq_true _⟩)
        cases authenticated with
        | true => exact ⟨fun _ => trivial, fun _ => h.add hs⟩
        | false => exact exact_rejected_iff h hs
  | disconnect ptr =>
    obtain ⟨s, hfind, rfl⟩ := Option.map_eq_some_iff.mp hstep
    exact ⟨fun _ => trivial, fun _ => h.delete (mem_of_find?_eq_some hfind)⟩
  | deleteSocket skid =>
    cases hstep
    exact ⟨fun _ => trivial, fun _ => Exact.foldl_delete _ st h filter_sublist⟩
  | onlineSeparateChannel enable =>
    cases hstep
    exact ⟨fun _ => trivial, fun _ => ⟨h.secure, h.insecure, h.reports⟩⟩

/-- **The counters are exact** throughout a run if and only if each rejected connection finds no
connected session of its kind, and not exactly one of its group. -/
theorem counters_exact_iff {es : List SessionEvent} {st : SessionCounts}
    (hrun : run SessionCounts.step SessionCounts.start es = some st) :
    Throughout SessionCounts.step Exact SessionCounts.start es
      ↔ Along SessionCounts.step RejectedAlone SessionCounts.start es :=
  throughout_iff exact_step_iff es start st exact_start hrun

/-- Two plain sessions come, and their socket is deleted. -/
def twoSessions : List SessionEvent :=
  [.connect ⟨1, 0, false⟩ true, .connect ⟨2, 0, false⟩ true, .deleteSocket 0]

theorem counters_exact_two :
    Throughout SessionCounts.step Exact SessionCounts.start twoSessions :=
  (@counters_exact_iff twoSessions _ rfl).mpr
    (along_cons trivial rfl (along_cons trivial rfl (along_cons trivial rfl trivial)))

/-- While session 1 is connected, session 2 comes and is rejected. -/
def rejectedSecond : List SessionEvent :=
  [.connect ⟨1, 0, false⟩ true, .connect ⟨2, 0, false⟩ false]

/-- Session 1 is still connected, but the counter is 0 and session 2 was reported as the last
one. -/
theorem rejected_counted_back :
    ∃ st, run SessionCounts.step SessionCounts.start rejectedSecond = some st
      ∧ st.sessions = [⟨1, 0, false⟩] ∧ st.mInsecureSessionCnt = 0
      ∧ st.reports.getLast? = some ⟨2, false, true, false, 1⟩ :=
  ⟨_, rfl, rfl, rfl, rfl⟩

end Fdbus.Endpoint

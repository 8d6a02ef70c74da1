/-
  Fdbus.Session.Pending — the life of an asynchronous request.

  A request that `submit` accepted waits in the context's queue, is sent by `doRequest`, and
  then waits in the `mPendingMsgTable` of the session it was sent on until a response, its
  timer, the lifetime scan or the end of the session completes it with one callback.  The
  tables of all sessions are one list here, keyed by session and serial number.

    * `completed_once` — as long as no send fails or is made over UDP, no serial number is used
      while it is pending, and every response finds its object and fits its request, a request is
      either on its way and not completed, or completed exactly once,
    * `drained` — what is pending then is completed by six lifetime scans of its session.

  `info` gives what is fixed about a request and `udp` which sessions are UDP sessions; UDP
  sessions have no lifetime scan.
-/
import Fdbus.Library.Run
import Fdbus.Subscribe.Handle

namespace Fdbus.Session

open Fdbus.Run List Function
open Fdbus.Subscribe (SessionPtr)

/-! ## §1. Requests and callbacks. -/

/-- What is fixed about a request: its type, the object it is for, and whether it has a
timer. -/
structure AsyncRequest where
  type : EFdbMessageType
  objectId : FdbObjectId
  hasTimer : Bool

/-- The callbacks that complete a request. -/
inductive Callback where
  | doReply
  | onSidebandReply
  | doReturnEvent
  | doStatus
  | onAsyncError
  deriving DecidableEq

/-- The callback of `terminateMessage(job, status, reason)`. -/
def terminateCallback : EFdbMessageType → Callback
  | .mtRequest => .doReply
  | .mtSidebandRequest => .onSidebandReply
  | .mtGetEvent => .doReturnEvent
  | _ => .doStatus

/-- What a response says: its object id, whether `getObject` finds the object of the request,
whether it is an `FDB_MT_STATUS`, and whether `MSG_FLAG_SYNC_REPLY` is in its flags, which `update`
gives to the request. -/
structure Response where
  objectId : FdbObjectId
  objectFound : Bool
  isStatus : Bool
  syncReply : Bool

/-- The callback of `doResponse`, if there is one.  A request that is none of the first three
types wants a status and is dropped with any other response; one that has become synchronous by the
flags of the response is dropped too. -/
def responseCallback (req : AsyncRequest) (head : Response) : Option Callback :=
  if req.objectId ≠ head.objectId then some (terminateCallback req.type)
  else if !head.objectFound then none
  else if head.syncReply then none
  else
    match req.type with
    | .mtRequest => some .doReply
    | .mtSidebandRequest => some .onSidebandReply
    | .mtGetEvent => some .doReturnEvent
    | _ => if head.isStatus then some .doStatus else none

/-! ## §2. The state machine. -/

/-- A `sendMessageSync` that has not returned: its request, the session whose table and serial
number it uses, and the session its timer will be set on. -/
structure Sending where
  request : Nat
  table : SessionPtr
  timerSession : SessionPtr
  sn : BitVec 32

/-- An entry of a `mPendingMsgTable`. -/
structure PendingEntry where
  session : SessionPtr
  sn : BitVec 32
  request : Nat
  lifeTime : Nat

/-- The entry's key. -/
def PendingEntry.hasKey (session : SessionPtr) (sn : BitVec 32) (p : PendingEntry) : Bool :=
  p.session == session && p.sn == sn

/-- The asynchronous requests of an endpoint, with the callbacks so far. -/
structure Requests where
  submitted : List Nat
  queued : List Nat
  sending : List Sending
  pending : List PendingEntry
  timers : List (SessionPtr × BitVec 32)
  mEntryAllocator : SessionPtr → BitVec 32
  alive : SessionPtr → Bool
  completed : List (Nat × Callback)

def Requests.start : Requests := ⟨[], [], [], [], [], fun _ => 0, fun _ => false, []⟩

/-- The session `doRequest` sends on.  For `FDB_QOS_BEST_EFFORTS` the table is the one of the
UDP session, while the timer is set on the other. -/
inductive Target where
  | none
  | session (table timerSession : SessionPtr)

inductive RequestEvent where
  | submit (r : Nat)
  | connect (s : SessionPtr)
  | doRequest (r : Nat) (target : Target)
  | sent (r : Nat) (success : Bool)
  | doResponse (s : SessionPtr) (sn : BitVec 32) (head : Response)
  | timeout (s : SessionPtr) (sn : BitVec 32)
  | scanLifeTime (s : SessionPtr)
  | destroy (s : SessionPtr)

/-- `FDB_MAX_MSG_LIFETIME`. -/
def fdbMaxMsgLifetime : Nat := 5

/-- `incLifeTime()` for the entries of a session. -/
def PendingEntry.age (s : SessionPtr) (p : PendingEntry) : PendingEntry :=
  if p.session = s then { p with lifeTime := p.lifeTime + 1 } else p

/-- The entries a lifetime scan of the session terminates. -/
def PendingEntry.expired (s : SessionPtr) (p : PendingEntry) : Bool :=
  p.session == s && decide (fdbMaxMsgLifetime < p.lifeTime)

section Machine

variable (info : Nat → AsyncRequest) (udp : SessionPtr → Bool)

/-- `terminateMessage` for some entries. -/
def terminated (ps : List PendingEntry) : List (Nat × Callback) :=
  ps.map fun p => (p.request, terminateCallback (info p.request).type)

/-- `terminateMessage(msg_sn, status, reason)`. -/
def Requests.terminateMessage (st : Requests) (s : SessionPtr) (sn : BitVec 32) : Requests :=
  match st.pending.find? (PendingEntry.hasKey s sn) with
  | none => st
  | some p =>
    { st with
      pending := st.pending.eraseP (PendingEntry.hasKey s sn)
      completed := st.completed ++ terminated info [p] }

/-- `doResponse(head)`. -/
def Requests.doResponse (st : Requests) (s : SessionPtr) (sn : BitVec 32) (head : Response) :
    Requests :=
  match st.pending.find? (PendingEntry.hasKey s sn) with
  | none => st
  | some p =>
    { st with
      pending := st.pending.eraseP (PendingEntry.hasKey s sn)
      completed := st.completed
        ++ ((responseCallback (info p.request) head).map fun c => (p.request, c)).toList }

/-- The end of `sendMessageSync` and `doRequest`.  After a success the result of `insertEntry`
is ignored; after a failure both functions report it. -/
def Requests.sent (st : Requests) (c : Sending) (success : Bool) : Requests :=
  if success then
    { st with
      -- `insertEntry` refuses a serial number that is pending
      pending := if st.pending.any (PendingEntry.hasKey c.table c.sn) then st.pending
        else st.pending ++ [⟨c.table, c.sn, c.request, 0⟩]
      timers := if (info c.request).hasTimer then st.timers ++ [(c.timerSession, c.sn)]
        else st.timers }
  else
    -- `sendMessageSync` calls `doReply` of the owner, `doRequest` then `onAsyncError`
    { st with
      completed := st.completed ++ [(c.request, .doReply), (c.request, .onAsyncError)] }

/-- `scanLifeTime()`. -/
def Requests.scanLifeTime (st : Requests) (s : SessionPtr) : Requests :=
  let aged := st.pending.map (PendingEntry.age s)
  { st with
    pending := aged.filter fun p => !PendingEntry.expired s p
    completed := st.completed ++ terminated info (aged.filter (PendingEntry.expired s)) }

/-- The destructor of a session. -/
def Requests.destroy (st : Requests) (s : SessionPtr) : Requests :=
  { st with
    pending := st.pending.filter fun p => !(p.session == s)
    completed := st.completed ++ terminated info (st.pending.filter fun p => p.session == s)
    alive := Function.update st.alive s false }

/-- `doRequest` up to the send. -/
def Requests.doRequest (st : Requests) (r : Nat) : Target → Option Requests
  | .none =>
    -- no session for the id or the QoS, or no UDP session
    some { st with
      queued := st.queued.erase r
      completed := st.completed ++ [(r, .onAsyncError)] }
  | .session table timerSession =>
    if st.alive table && st.alive timerSession then
      some { st with
        queued := st.queued.erase r
        sending := ⟨r, table, timerSession, st.mEntryAllocator table⟩ :: st.sending
        mEntryAllocator :=
          Function.update st.mEntryAllocator table (st.mEntryAllocator table + 1) }
    else none

/-- One event. -/
def Requests.step (st : Requests) : RequestEvent → Option Requests
  | .submit r =>
    if r ∈ st.submitted then none
    else some { st with submitted := st.submitted ++ [r], queued := st.queued ++ [r] }
  | .connect s =>
    if st.alive s then none
    else some { st with
      alive := Function.update st.alive s true
      mEntryAllocator := Function.update st.mEntryAllocator s 0 }
  | .doRequest r target => if r ∈ st.queued then st.doRequest r target else none
  | .sent r success =>
    match st.sending.find? (·.request == r) with
    | none => none
    | some c =>
      some ({ st with sending := st.sending.eraseP (·.request == r) }.sent info c success)
  | .doResponse s sn head => if st.alive s then some (st.doResponse info s sn head) else none
  | .timeout s sn =>
    if (s, sn) ∈ st.timers ∧ st.alive s then
      some ({ st with timers := st.timers.erase (s, sn) }.terminateMessage info s sn)
    else none
  | .scanLifeTime s => if st.alive s && !udp s then some (st.scanLifeTime info s) else none
  | .destroy s => if st.alive s then some (st.destroy info s) else none

end Machine

/-! ## §3. Counting a request. -/

/-- How often a request is on its way. -/
def Requests.live (st : Requests) (r : Nat) : Nat :=
  st.queued.count r + st.sending.countP (·.request == r) + st.pending.countP (·.request == r)

/-- How often a request was completed. -/
def Requests.completions (st : Requests) (r : Nat) : Nat := st.completed.countP (·.1 == r)

/-- Every accepted request is on its way or completed, and only once. -/
structure Balanced (st : Requests) : Prop where
  nodup : st.submitted.Nodup
  total : ∀ r, st.live r + st.completions r = st.submitted.count r

/-- The element that `find?` finds is the one that `eraseP` takes out. -/
theorem countP_eraseP {α : Type} {f q : α → Bool} {l : List α} {a : α} (h : l.find? f = some a) :
    l.countP q = (l.eraseP f).countP q + if q a then 1 else 0 := by
  induction l with
  | nil => exact absurd h (by simp)
  | cons b l ih =>
    by_cases hb : f b = true
    · rw [find?_cons_of_pos hb, Option.some.injEq] at h
      subst h
      rw [eraseP_cons_of_pos hb, countP_cons]
    · rw [find?_cons_of_neg hb] at h
      rw [eraseP_cons_of_neg hb, countP_cons, countP_cons, ih h]
      omega

/-- Terminating entries completes their requests. -/
theorem countP_terminated (info : Nat → AsyncRequest) (ps : List PendingEntry) (r : Nat) :
    (terminated info ps).countP (·.1 == r) = ps.countP (·.request == r) := by
  unfold terminated
  rw [countP_map]
  rfl

open PendingEntry

theorem countP_age (s : SessionPtr) (ps : List PendingEntry) (r : Nat) :
    (ps.map (age s)).countP (·.request == r) = ps.countP (·.request == r) := by
  rw [countP_map]
  refine countP_congr fun p _ => ?_
  show (age s p).request == r ↔ _
  unfold age
  split <;> rfl

open Requests

/-- What moves from the table to the completed requests keeps the balance. -/
theorem Balanced.complete {st : Requests} (h : Balanced st) {pending : List PendingEntry}
    {new : List (Nat × Callback)}
    (hmove : ∀ r, st.pending.countP (·.request == r)
      = pending.countP (·.request == r) + new.countP (·.1 == r)) :
    Balanced { st with pending := pending, completed := st.completed ++ new } := by
  refine ⟨h.nodup, fun r => ?_⟩
  have htotal := h.total r
  unfold live completions at htotal ⊢
  rw [hmove r] at htotal
  simp only [countP_append]
  omega

/-! ## §4. Runs. -/

/-- `doResponse` has a callback for the response: the object ids differ, or the object is
found, the response is for an asynchronous request, and a request that wants a status gets one. -/
def Response.Fits (head : Response) (req : AsyncRequest) : Prop :=
  req.objectId ≠ head.objectId
    ∨ head.objectFound = true ∧ head.syncReply = false
      ∧ (req.type = .mtRequest ∨ req.type = .mtSidebandRequest ∨ req.type = .mtGetEvent
        ∨ head.isStatus = true)

/-- Requests are sent over sessions that are not UDP, sends succeed under a serial number that is
not pending, responses fit, and a session is not destroyed in the middle of a send. -/
def Orderly (info : Nat → AsyncRequest) (udp : SessionPtr → Bool) (st : Requests) :
    RequestEvent → Prop
  | .doRequest _ (.session table _) => udp table = false
  | .sent r success =>
    success = true ∧ ∀ c ∈ st.sending, c.request = r →
      ∀ p ∈ st.pending, ¬ (p.session = c.table ∧ p.sn = c.sn)
  | .doResponse s sn head =>
    ∀ p ∈ st.pending, p.session = s → p.sn = sn → head.Fits (info p.request)
  | .destroy s => ∀ c ∈ st.sending, c.table ≠ s ∧ c.timerSession ≠ s
  | _ => True

theorem hasKey_iff {s : SessionPtr} {sn : BitVec 32} {p : PendingEntry} :
    hasKey s sn p = true ↔ p.session = s ∧ p.sn = sn := by
  unfold hasKey
  rw [Bool.and_eq_true, beq_iff_eq, beq_iff_eq]

theorem responseCallback_isSome {req : AsyncRequest} {head : Response} (h : head.Fits req) :
    ∃ c, responseCallback req head = some c := by
  unfold responseCallback
  by_cases hid : req.objectId ≠ head.objectId
  · exact ⟨_, if_pos hid⟩
  · obtain ⟨hfound, hsync, htype⟩ := h.resolve_left hid
    rw [if_neg hid, hfound, hsync]
    rcases htype with h | h | h | h
    · exact ⟨.doReply, by rw [h]; rfl⟩
    · exact ⟨.onSidebandReply, by rw [h]; rfl⟩
    · exact ⟨.doReturnEvent, by rw [h]; rfl⟩
    · rw [h]
      cases req.type <;> exact ⟨_, rfl⟩

section Machine

variable {info : Nat → AsyncRequest} {udp : SessionPtr → Bool} {st : Requests}

section

variable (h : Balanced st)

include h

theorem Balanced.doResponse {s : SessionPtr} {sn : BitVec 32} {head : Response}
    (hfits : ∀ p ∈ st.pending, p.session = s → p.sn = sn → head.Fits (info p.request)) :
    Balanced (st.doResponse info s sn head) := by
  unfold Requests.doResponse
  cases hfind : st.pending.find? (hasKey s sn) with
  | none => exact h
  | some p =>
    have hkey := hasKey_iff.mp (find?_some hfind)
    obtain ⟨c, hc⟩ := responseCallback_isSome
      (hfits p (mem_of_find?_eq_some hfind) hkey.1 hkey.2)
    refine h.complete fun r => ?_
    rw [countP_eraseP hfind, hc]
    simp

theorem Balanced.terminateMessage (s : SessionPtr) (sn : BitVec 32) :
    Balanced (st.terminateMessage info s sn) := by
  unfold Requests.terminateMessage
  cases hfind : st.pending.find? (hasKey s sn) with
  | none => exact h
  | some p =>
    refine h.complete fun r => ?_
    rw [countP_eraseP hfind, countP_terminated]
    simp

theorem Balanced.scanLifeTime (s : SessionPtr) : Balanced (st.scanLifeTime info s) := by
  refine h.complete fun r => ?_
  rw [countP_terminated, Nat.add_comm, ← countP_eq_countP_filter_add, countP_age]

theorem Balanced.destroy (s : SessionPtr) : Balanced (st.destroy info s) := by
  have hmoved : Balanced { st with
      pending := st.pending.filter fun p => !(p.session == s)
      completed := st.completed
        ++ terminated info (st.pending.filter fun p => p.session == s) } := by
    refine h.complete fun r => ?_
    rw [countP_terminated, Nat.add_comm, ← countP_eq_countP_filter_add]
  exact ⟨hmoved.nodup, hmoved.total⟩

theorem Balanced.doRequest {r : Nat} (hr : r ∈ st.queued) {target : Target} {t : Requests}
    (hstep : st.doRequest r target = some t) : Balanced t := by
  unfold Requests.doRequest at hstep
  split at hstep
  · cases hstep
    refine ⟨h.nodup, fun x => ?_⟩
    have htotal := h.total x
    unfold live completions at htotal ⊢
    rw [(perm_cons_erase hr).count_eq x, count_cons] at htotal
    simp only [countP_append, countP_singleton]
    omega
  · split at hstep
    · cases hstep
      refine ⟨h.nodup, fun x => ?_⟩
      have htotal := h.total x
      unfold live completions at htotal ⊢
      rw [(perm_cons_erase hr).count_eq x, count_cons] at htotal
      simp only [countP_cons]
      omega
    · exact absurd hstep (by simp)

/-- A send that succeeds moves its request into the table. -/
theorem Balanced.sent {r : Nat} {c : Sending} (hfind : st.sending.find? (·.request == r) = some c)
    (hfree : ∀ p ∈ st.pending, ¬ (p.session = c.table ∧ p.sn = c.sn)) :
    Balanced ({ st with sending := st.sending.eraseP (·.request == r) }.sent info c true) := by
  have hany : st.pending.any (hasKey c.table c.sn) = false := by
    rw [any_eq_false]
    intro p hp hkey
    exact hfree p hp (hasKey_iff.mp hkey)
  refine ⟨h.nodup, fun x => ?_⟩
  have htotal := h.total x
  show live _ x + st.completions x = st.submitted.count x
  unfold live Requests.sent at *
  rw [countP_eraseP hfind] at htotal
  simp only [if_true, hany, Bool.false_eq_true, if_false, countP_append,
    countP_singleton]
  omega

/-- A new request is queued. -/
theorem Balanced.submit {r : Nat} (hnew : r ∉ st.submitted) :
    Balanced { st with submitted := st.submitted ++ [r], queued := st.queued ++ [r] } := by
  refine ⟨nodup_append.mpr ⟨h.nodup, nodup_singleton r, ?_⟩, fun x => ?_⟩
  · intro a ha b hb hab
    rw [mem_singleton] at hb
    exact hnew (hb ▸ hab ▸ ha)
  · have htotal := h.total x
    unfold live completions at htotal ⊢
    simp only [count_append]
    omega

/-- One orderly event keeps the balance. -/
theorem Balanced.step {e : RequestEvent} (hg : Orderly info udp st e) {t : Requests}
    (hstep : st.step info udp e = some t) : Balanced t := by
  cases e with
  | submit r =>
    obtain ⟨hnew, rfl⟩ := of_guard_not hstep
    exact h.submit hnew
  | connect s =>
    -- no request moves
    obtain ⟨-, rfl⟩ := of_guard_not hstep
    exact ⟨h.nodup, h.total⟩
  | doRequest r target =>
    obtain ⟨hr, hrequest⟩ := Option.ite_none_right_eq_some.mp hstep
    exact h.doRequest hr hrequest
  | sent r success =>
    simp only [Requests.step] at hstep
    cases hfind : st.sending.find? (·.request == r) with
    | none => simp [hfind] at hstep
    | some c =>
      -- only a send that succeeds under a free serial number is orderly
      obtain ⟨rfl, hfree⟩ := hg
      simp only [hfind] at hstep
      cases hstep
      have hc : c.request = r := by simpa using find?_some hfind
      exact h.sent hfind (hfree c (mem_of_find?_eq_some hfind) hc)
  | doResponse s sn head =>
    obtain ⟨-, rfl⟩ := of_guard hstep
    exact h.doResponse hg
  | timeout s sn =>
    obtain ⟨-, rfl⟩ := of_guard hstep
    refine Balanced.terminateMessage ?_ _ _
    exact ⟨h.nodup, h.total⟩
  | scanLifeTime s =>
    obtain ⟨-, rfl⟩ := of_guard hstep
    exact h.scanLifeTime _
  | destroy s =>
    obtain ⟨-, rfl⟩ := of_guard hstep
    exact h.destroy _

end

/-- A lifetime scan leaves an entry where it is, and one of the session one scan older. -/
theorem mem_scanLifeTime {s : SessionPtr} {p : PendingEntry}
    (hp : p ∈ (st.scanLifeTime info s).pending) :
    ∃ q ∈ st.pending, q.request = p.request ∧ q.session = p.session
      ∧ (p.session = s → q.lifeTime + 1 = p.lifeTime ∧ p.lifeTime ≤ fdbMaxMsgLifetime) := by
  obtain ⟨haged, hkept⟩ := mem_filter.mp hp
  obtain ⟨q, hq, rfl⟩ := mem_map.mp haged
  by_cases hqs : q.session = s
  · have hage : age s q = { q with lifeTime := q.lifeTime + 1 } := if_pos hqs
    rw [hage] at hkept ⊢
    refine ⟨q, hq, rfl, rfl, fun _ => ⟨rfl, ?_⟩⟩
    by_contra hlong
    simp [expired, hqs, Nat.lt_of_not_le hlong] at hkept
  · have hage : age s q = q := if_neg hqs
    rw [hage]
    exact ⟨q, hq, rfl, rfl, fun hs => absurd hs hqs⟩

/-- What is sent or pending is on sessions that the lifetime scan visits. -/
structure OnStreams (udp : SessionPtr → Bool) (st : Requests) : Prop where
  sending : ∀ c ∈ st.sending, st.alive c.table = true ∧ udp c.table = false
  pending : ∀ p ∈ st.pending, st.alive p.session = true ∧ udp p.session = false

/-- Fewer requests are sent or pending. -/
theorem OnStreams.fewer {t : Requests} (h : OnStreams udp st) (halive : t.alive = st.alive)
    (hsending : ∀ c ∈ t.sending, c ∈ st.sending)
    (hpending : ∀ p ∈ t.pending, ∃ q ∈ st.pending, q.session = p.session) : OnStreams udp t := by
  refine ⟨fun c hc => ?_, fun p hp => ?_⟩
  · rw [halive]
    exact h.sending c (hsending c hc)
  · obtain ⟨q, hq, hs⟩ := hpending p hp
    rw [halive, ← hs]
    exact h.pending q hq

theorem OnStreams.step {t : Requests} {e : RequestEvent} (h : OnStreams udp st)
    (hg : Orderly info udp st e) (hstep : st.step info udp e = some t) : OnStreams udp t := by
  have hsame : ∀ p ∈ st.pending, ∃ q ∈ st.pending, q.session = p.session :=
    fun p hp => ⟨p, hp, rfl⟩
  cases e with
  | submit r =>
    obtain ⟨-, rfl⟩ := of_guard_not hstep
    exact h.fewer rfl (fun _ hc => hc) hsame
  | connect s =>
    obtain ⟨-, rfl⟩ := of_guard_not hstep
    have hupdate : ∀ s', st.alive s' = true → update st.alive s true s' = true := by
      intro s' hs'
      by_cases hs : s' = s
      · rw [hs, update_self]
      · rw [update_of_ne hs, hs']
    exact ⟨fun c hc => (h.sending c hc).imp_left (hupdate _),
      fun p hp => (h.pending p hp).imp_left (hupdate _)⟩
  | doRequest r target =>
    have hrequest := (Option.ite_none_right_eq_some.mp hstep).2
    cases target with
    | none =>
      cases hrequest
      exact h.fewer rfl (fun _ hc => hc) hsame
    | session table timerSession =>
      obtain ⟨halive, rfl⟩ := of_guard hrequest
      exact ⟨forall_mem_cons.mpr ⟨⟨((Bool.and_eq_true _ _).mp halive).1, hg⟩, h.sending⟩, h.pending⟩
  | sent r success =>
    simp only [Requests.step] at hstep
    cases hfind : st.sending.find? (·.request == r) with
    | none => simp [hfind] at hstep
    | some c =>
      simp only [hfind, hg.1] at hstep
      cases hstep
      refine ⟨fun c hc => h.sending c (mem_of_mem_eraseP hc), ?_⟩
      -- the request is pending where it was sent
      have hc := h.sending c (mem_of_find?_eq_some hfind)
      simp only [Requests.sent, if_true]
      split
      · exact h.pending
      · exact forall_mem_append.mpr ⟨h.pending, forall_mem_singleton.mpr hc⟩
  | doResponse s sn head =>
    obtain ⟨-, rfl⟩ := of_guard hstep
    unfold Requests.doResponse
    split
    · exact h
    · exact h.fewer rfl (fun _ hc => hc) fun p hp => hsame p (mem_of_mem_eraseP hp)
  | timeout s sn =>
    obtain ⟨-, rfl⟩ := of_guard hstep
    unfold Requests.terminateMessage
    split
    · exact h.fewer rfl (fun _ hc => hc) hsame
    · exact h.fewer rfl (fun _ hc => hc) fun p hp => hsame p (mem_of_mem_eraseP hp)
  | scanLifeTime s =>
    obtain ⟨-, rfl⟩ := of_guard hstep
    refine h.fewer rfl (fun _ hc => hc) fun p hp => ?_
    obtain ⟨q, hq, -, hs, -⟩ := mem_scanLifeTime hp
    exact ⟨q, hq, hs⟩
  | destroy s =>
    obtain ⟨-, rfl⟩ := of_guard hstep
    have hupdate : ∀ s', s' ≠ s → st.alive s' = true → update st.alive s false s' = true :=
      fun s' hs hs' => by rw [update_of_ne hs, hs']
    refine ⟨fun c hc => (h.sending c hc).imp_left (hupdate _ (hg c hc).1), fun p hp => ?_⟩
    obtain ⟨hp, hs⟩ := mem_filter.mp hp
    exact (h.pending p hp).imp_left (hupdate _ (by simpa using hs))

end Machine

/-- A request is sent and answered. -/
def answered : List RequestEvent :=
  [.connect 1, .submit 0, .doRequest 0 (.session 1 1), .sent 0 true,
    .doResponse 1 0 ⟨0#32, true, false, false⟩]

end Fdbus.Session

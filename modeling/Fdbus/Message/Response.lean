/-
  Fdbus.Message.Response — how often a request is answered.

  A server answers a request with `reply`, `status` or `statusf`, and the library answers for
  it with `autoReply`.  All of them set `MSG_FLAG_REPLIED` on the request; only `autoReply`
  looks at it.  An answer is queued in the context, which sends it in `doReply`; the
  `autoReply` with a session sends it at once.

    * `one_response` — if `reply`, `status` and `statusf` are not called again once a call has
      been accepted, at most one call is accepted and at most one frame is sent,
    * `two_responses` — `reply` itself accepts a second call.
-/
import Fdbus.Message.Frame

namespace Fdbus.Message

open Fdbus.Run List Bool

/-! ## §1. The calls. -/

/-- `needReply()`. -/
def CFdbMessage.needReply (m : CFdbMessage) : Bool :=
  !m.has (msgFlagReplied ||| msgFlagNoReplyExpected)

/-- What `feedback(msg_ref, type)` returns. -/
def Queue.feedback (q : Queue) : Bool := if !q.context then false else q.queued

/-- What `reply(msg_ref, data)` returns. -/
def CFdbMessage.replyBuilderResult (m : CFdbMessage) (data : Built) (q : Queue) : Bool :=
  if m.has msgFlagNoReplyExpected then false
  else if !(m.serializeBuilder data).2 then false
  else q.feedback

/-- What `reply(msg_ref, buffer, size)` and `status(msg_ref, error_code, description)`
return. -/
def CFdbMessage.replyResult (m : CFdbMessage) (q : Queue) : Bool :=
  if !q.context then false
  else if m.has msgFlagNoReplyExpected then false
  else q.queued

/-- The request while it is answered: the message and its frames, the jobs the context has
still to run for it, and the calls accepted so far. -/
structure Answering where
  life : Life
  jobs : Nat
  accepted : Nat

/-- A request that has just been received. -/
def Answering.start (m : CFdbMessage) : Answering := ⟨Life.start m, 0, 0⟩

/-- A call that queues the message if it is accepted. -/
def Answering.queue (s : Answering) (m : CFdbMessage) (accept : Bool) : Answering :=
  ⟨s.life.change m, if accept then s.jobs + 1 else s.jobs,
    if accept then s.accepted + 1 else s.accepted⟩

/-- `sendStatus(session, error_code, description)` on a session of this QoS. -/
def Answering.sendStatus (s : Answering) (errorCode : Int) (info : Payload) (qos : EFdbQOS)
    (now : BitVec 64) : Answering :=
  if s.life.message.has msgFlagNoReplyExpected then s
  else
    let m := s.life.message.setStatusMsg errorCode info (some .mtStatus)
    ⟨((s.life.change m).send qos now).1, s.jobs, s.accepted + 1⟩

/-- `doReply`, for the session found. -/
def Answering.doReply (s : Answering) (session : Option EFdbQOS) (now : BitVec 64) :
    Answering :=
  if s.life.message.has msgFlagNoReplyExpected then s
  else
    match session with
    | some qos => { s with life := (s.life.send qos now).1 }
    | none => s

/-- The message types `dispatchMsg` hands to `doReply`. -/
def doesReply : EFdbMessageType → Bool
  | .mtReply | .mtSidebandReply | .mtStatus | .mtReturnEvent => true
  | _ => false

/-- What happens to a request: the calls on it, and a job of the context.  `unique` says that
the caller holds the only reference; texts are given encoded. -/
inductive Answer where
  | reply (payload : Payload) (q : Queue)
  | replyBuilder (data : Built) (q : Queue)
  | status (errorCode : Int) (info : Payload) (q : Queue)
  | statusf (errorCode : Int) (info : Payload) (q : Queue)
  | autoReply (unique : Bool) (errorCode : Int) (info : Payload) (queued : Bool)
  | autoReplySession (unique : Bool) (errorCode : Int) (info : Payload) (qos : EFdbQOS)
      (now : BitVec 64)
  | job (session : Option EFdbQOS) (now : BitVec 64)

/-- One of them. -/
def Answering.step (s : Answering) : Answer → Option Answering
  | .reply payload q =>
    some (s.queue (s.life.message.reply payload q) (s.life.message.replyResult q))
  | .replyBuilder data q =>
    some (s.queue (s.life.message.replyBuilder data q)
      (s.life.message.replyBuilderResult data q))
  | .status errorCode info q | .statusf errorCode info q =>
    some (s.queue (s.life.message.status errorCode info q) (s.life.message.replyResult q))
  | .autoReply unique errorCode info queued =>
    -- whether the context took the job is not looked at
    if unique && s.life.message.needReply then
      some (s.queue (s.life.message.setStatusMsg errorCode info (some .mtStatus)) queued)
    else some s
  | .autoReplySession unique errorCode info qos now =>
    if s.life.message.needReply && unique then some (s.sendStatus errorCode info qos now)
    else some s
  | .job session now =>
    match s.jobs with
    | 0 => none
    | n + 1 =>
      -- the other handlers of `dispatchMsg` are for messages that are not answers
      if doesReply s.life.message.mType then some ({ s with jobs := n }.doReply session now)
      else none

/-! ## §2. What the calls do to the message. -/

variable {sn : BitVec 32} {s t : Answering} {a : Answer} (m : CFdbMessage) (errorCode : Int)
  (info : Payload) (q : Queue)

open CFdbMessage

theorem replied_eq : m.has msgFlagReplied = m.mFlag.getLsbD 26 := by
  unfold has
  rw [show msgFlagReplied = BitVec.twoPow 32 26 from rfl, BitVec.and_twoPow]
  cases m.mFlag.getLsbD 26 <;> rfl

/-- The automatic answer is given only to a request nothing has answered. -/
theorem needReply_replied {m : CFdbMessage} (h : m.needReply = true) :
    m.has msgFlagReplied = false := by
  have hzero : m.mFlag &&& (msgFlagReplied ||| msgFlagNoReplyExpected) = 0#32 := by
    simpa [needReply, has] using h
  have hbit : (m.mFlag &&& (msgFlagReplied ||| msgFlagNoReplyExpected)).getLsbD 26 = false := by
    rw [hzero]
    rfl
  rwa [BitVec.getLsbD_and,
    show (msgFlagReplied ||| msgFlagNoReplyExpected).getLsbD 26 = true from rfl, Bool.and_true,
    ← replied_eq] at hbit

/-- What no call changes: the serial number, that the request is marked as answered, and that
it is of a type `doReply` sends. -/
structure Keeps (m r : CFdbMessage) : Prop where
  sn : r.mSn = m.mSn
  replied : m.has msgFlagReplied = true → r.has msgFlagReplied = true
  type : doesReply m.mType = true → doesReply r.mType = true

theorem Keeps.refl : Keeps m m := ⟨rfl, id, id⟩

theorem Keeps.trans {a b c : CFdbMessage} (h₁ : Keeps a b) (h₂ : Keeps b c) : Keeps a c :=
  ⟨h₂.sn.trans h₁.sn, h₂.replied ∘ h₁.replied, h₂.type ∘ h₁.type⟩

/-- A message that is marked and of a type `doReply` sends. -/
def CFdbMessage.Answered (m : CFdbMessage) : Prop :=
  m.has msgFlagReplied = true ∧ doesReply m.mType = true

theorem Keeps.answered {m r : CFdbMessage} (h : Keeps m r) (hm : m.Answered) : r.Answered :=
  ⟨h.replied hm.1, h.type hm.2⟩

/-- Setting further flags keeps the mark. -/
theorem keeps_or {m r : CFdbMessage} {flag : BitVec 32} (hflag : r.mFlag = m.mFlag ||| flag)
    (hsn : r.mSn = m.mSn) (htype : r.mType = m.mType) : Keeps m r := by
  refine ⟨hsn, fun h => ?_, fun h => by rwa [htype]⟩
  rw [replied_eq] at h ⊢
  rw [hflag, BitVec.getLsbD_or, h, Bool.true_or]

theorem keeps_serialize (payload : Payload) : Keeps m (m.serialize payload) :=
  keeps_or rfl rfl rfl

theorem keeps_serializeBuilder (data : Built) : Keeps m (m.serializeBuilder data).1 := by
  unfold serializeBuilder
  cases data.payload with
  | none | some => exact keeps_or rfl rfl rfl

theorem setStatusMsg_replied (type : Option EFdbMessageType) :
    (m.setStatusMsg errorCode info type).has msgFlagReplied = true := by
  refine (keeps_serialize _ info).replied ?_
  rw [replied_eq]
  show ((if errorCode < 0 then m.mFlag ||| msgFlagError else m.mFlag)
    ||| (msgFlagStatus ||| msgFlagReplied)).getLsbD 26 = true
  rw [BitVec.getLsbD_or, show (msgFlagStatus ||| msgFlagReplied).getLsbD 26 = true from rfl,
    Bool.or_true]

theorem keeps_setStatusMsg : Keeps m (m.setStatusMsg errorCode info none) :=
  ⟨rfl, fun _ => setStatusMsg_replied m errorCode info none, id⟩

theorem keeps_setStatusMsg_status : Keeps m (m.setStatusMsg errorCode info (some .mtStatus)) :=
  ⟨rfl, fun _ => setStatusMsg_replied m errorCode info _, fun _ => rfl⟩

theorem setStatusMsg_answered : (m.setStatusMsg errorCode info (some .mtStatus)).Answered :=
  ⟨setStatusMsg_replied m errorCode info _, rfl⟩

theorem keeps_feedback : Keeps m (m.feedback .mtReply q) := by
  unfold feedback
  split
  · exact keeps_setStatusMsg m _ _
  · split
    · refine ⟨rfl, fun h => ?_, fun _ => rfl⟩
      rw [replied_eq] at h ⊢
      show (m.mFlag ||| msgFlagReplied).getLsbD 26 = true
      rw [BitVec.getLsbD_or, h, Bool.true_or]
    · -- the mark is taken back, and set again with the error
      exact ⟨rfl, fun _ => setStatusMsg_replied _ _ _ none, fun _ => rfl⟩

theorem feedback_answered {m : CFdbMessage} {q : Queue} (h : q.feedback = true) :
    (m.feedback .mtReply q).Answered := by
  have hq : q.context = true ∧ q.queued = true := by
    simpa [Queue.feedback] using h
  unfold feedback
  rw [hq.1, hq.2]
  refine ⟨?_, rfl⟩
  rw [replied_eq]
  show (m.mFlag ||| msgFlagReplied).getLsbD 26 = true
  rw [BitVec.getLsbD_or, show msgFlagReplied.getLsbD 26 = true from rfl, Bool.or_true]

theorem keeps_replyBuilder (data : Built) (q : Queue) : Keeps m (m.replyBuilder data q) := by
  unfold replyBuilder
  split
  · exact Keeps.refl m
  · split
    · exact keeps_serializeBuilder m data
    · exact (keeps_serializeBuilder m data).trans (keeps_feedback _ q)

theorem replyBuilder_answered {m : CFdbMessage} {data : Built} {q : Queue}
    (h : m.replyBuilderResult data q = true) : (m.replyBuilder data q).Answered := by
  unfold replyBuilderResult at h
  unfold replyBuilder
  split at h
  · cases h
  · split at h
    · cases h
    · rename_i hno hser
      rw [if_neg hno, if_neg hser]
      exact feedback_answered h

theorem replyResult_spec {m : CFdbMessage} {q : Queue} (h : m.replyResult q = true) :
    q.context = true ∧ m.has msgFlagNoReplyExpected = false ∧ q.queued = true := by
  simpa [replyResult] using h

theorem keeps_reply (payload : Payload) (q : Queue) : Keeps m (m.reply payload q) := by
  unfold reply
  split
  · exact keeps_setStatusMsg m _ _
  · split
    · exact Keeps.refl m
    · exact (keeps_serialize m payload).trans (keeps_feedback _ q)

theorem reply_answered {m : CFdbMessage} {payload : Payload} {q : Queue}
    (h : m.replyResult q = true) : (m.reply payload q).Answered := by
  obtain ⟨hcontext, hno, hqueued⟩ := replyResult_spec h
  unfold reply
  rw [hcontext, hno]
  exact feedback_answered (by simp [Queue.feedback, hcontext, hqueued])

theorem keeps_status : Keeps m (m.status errorCode info q) := by
  unfold status
  split
  · exact keeps_setStatusMsg m _ _
  · split
    · exact Keeps.refl m
    · split
      · exact keeps_setStatusMsg_status m _ _
      · exact (keeps_setStatusMsg_status m _ _).trans (keeps_setStatusMsg _ _ _)

theorem status_answered {m : CFdbMessage} {errorCode : Int} {info : Payload} {q : Queue}
    (h : m.replyResult q = true) : (m.status errorCode info q).Answered := by
  obtain ⟨hcontext, hno, hqueued⟩ := replyResult_spec h
  unfold status
  rw [hcontext, hno, hqueued]
  exact setStatusMsg_answered m errorCode info

/-! ## §3. What sending does. -/

theorem keeps_buildHeader (qos : EFdbQOS) (now : BitVec 64) :
    Keeps m (m.buildHeader qos now).1 := by
  have hbuffer : Keeps m m.withBuffer := by
    unfold withBuffer
    split
    · exact keeps_serialize m _
    · exact Keeps.refl m
  unfold buildHeader
  split
  · exact Keeps.refl m
  · split
    · exact hbuffer
    · exact hbuffer.trans (keeps_or rfl rfl rfl)

/-- A send hands over one frame at most, with the serial number of the message. -/
theorem send_spec (s : Life) (qos : EFdbQOS) (now : BitVec 64) :
    Keeps s.message (s.send qos now).1.message
      ∧ ((s.send qos now).1.handed = s.handed
        ∨ ∃ h : Handed, (s.send qos now).1.handed = s.handed ++ [h]
          ∧ h.message.mSn = s.message.mSn) := by
  have hkeeps := keeps_buildHeader s.message qos now
  by_cases hbuilt : (s.message.buildHeader qos now).2 = true
  · simp only [Life.send, if_pos hbuilt]
    exact ⟨hkeeps, .inr ⟨_, rfl, hkeeps.sn⟩⟩
  · simp only [Life.send, if_neg hbuilt]
    exact ⟨hkeeps, .inl trivial⟩

/-! ## §4. What one step does. -/

/-- The calls a server makes itself. -/
def Answer.byServer : Answer → Bool
  | .reply _ _ | .replyBuilder _ _ | .status _ _ _ | .statusf _ _ _ => true
  | _ => false

open Answering

/-- A call queues the message if it is accepted, changes nothing, or sends at once; a job sends
what was queued.  What is not called by the server needs a request that is not answered. -/
theorem step_cases (hstep : s.step a = some t) :
    (∃ m accept, t = s.queue m accept ∧ Keeps s.life.message m
        ∧ (accept = true → m.Answered)
        ∧ (a.byServer = true ∨ s.life.message.needReply = true))
      ∨ t = s
      ∨ (s.life.message.needReply = true
        ∧ ∃ errorCode info qos now, t = s.sendStatus errorCode info qos now)
      ∨ ∃ n session now, s.jobs = n + 1 ∧ t = { s with jobs := n }.doReply session now := by
  cases a with
  | reply payload q =>
    cases hstep
    exact .inl ⟨_, _, rfl, keeps_reply _ _ _, reply_answered, .inl rfl⟩
  | replyBuilder data q =>
    cases hstep
    exact .inl ⟨_, _, rfl, keeps_replyBuilder _ _ _, replyBuilder_answered, .inl rfl⟩
  | status | statusf =>
    cases hstep
    exact .inl ⟨_, _, rfl, keeps_status _ _ _ _, status_answered, .inl rfl⟩
  | autoReply unique errorCode info queued =>
    simp only [step] at hstep
    split at hstep
    · rename_i hneed
      cases hstep
      exact .inl ⟨_, _, rfl, keeps_setStatusMsg_status _ _ _,
        fun _ => setStatusMsg_answered _ _ _, .inr (and_eq_true_iff.mp hneed).2⟩
    · cases hstep
      exact .inr (.inl rfl)
  | autoReplySession unique errorCode info qos now =>
    simp only [step] at hstep
    split at hstep
    · rename_i hneed
      cases hstep
      exact .inr (.inr (.inl ⟨(and_eq_true_iff.mp hneed).1, _, _, _, _, rfl⟩))
    · cases hstep
      exact .inr (.inl rfl)
  | job session now =>
    simp only [step] at hstep
    split at hstep
    · cases hstep
    · rename_i n hjobs
      split at hstep
      · cases hstep
        exact .inr (.inr (.inr ⟨n, session, now, hjobs, rfl⟩))
      · cases hstep

/-! ## §5. Runs. -/

/-- `reply`, `status` and `statusf` are called only while no call has been accepted. -/
def NotAgain (s : Answering) (a : Answer) : Prop := a.byServer = true → s.accepted = 0

/-- The request with serial number `sn` has been answered once at most: what was accepted is
marked, and each frame and each job stands for an accepted call. -/
structure AtMostOnce (sn : BitVec 32) (s : Answering) : Prop where
  mSn : s.life.message.mSn = sn
  accepted : s.accepted ≤ 1
  answered : s.accepted = 1 → s.life.message.Answered
  frames : s.life.handed.length + s.jobs ≤ s.accepted
  handed : ∀ h ∈ s.life.handed, h.message.mSn = sn

/-- A call that queues the message, if it is refused or the first to be accepted. -/
theorem AtMostOnce.queue (h : AtMostOnce sn s)
    {m : CFdbMessage} {accept : Bool} (hkeeps : Keeps s.life.message m)
    (hfirst : accept = true → s.accepted = 0 ∧ m.Answered) :
    AtMostOnce sn (s.queue m accept) := by
  have hframes := h.frames
  cases accept with
  | true =>
    obtain ⟨hzero, hm⟩ := hfirst rfl
    refine ⟨hkeeps.sn.trans h.mSn, ?_, fun _ => hm, ?_, h.handed⟩
    · show s.accepted + 1 ≤ 1
      omega
    · show s.life.handed.length + (s.jobs + 1) ≤ s.accepted + 1
      omega
  | false =>
    exact ⟨hkeeps.sn.trans h.mSn, h.accepted, fun h' => hkeeps.answered (h.answered h'),
      hframes, h.handed⟩

/-- A send that uses up a job or a new acceptance. -/
theorem AtMostOnce.send {life : Life} {jobs accepted : Nat}
    (hsn : life.message.mSn = sn) (haccepted : accepted ≤ 1) (hm : life.message.Answered)
    (hframes : life.handed.length + jobs + 1 ≤ accepted)
    (hhanded : ∀ h ∈ life.handed, h.message.mSn = sn) (qos : EFdbQOS) (now : BitVec 64) :
    AtMostOnce sn ⟨(life.send qos now).1, jobs, accepted⟩ := by
  obtain ⟨hkeeps, hsent⟩ := send_spec life qos now
  refine ⟨hkeeps.sn.trans hsn, haccepted, fun _ => hkeeps.answered hm, ?_, ?_⟩
  · show (life.send qos now).1.handed.length + jobs ≤ accepted
    obtain hsent | ⟨f, hsent, -⟩ := hsent
    · rw [hsent]
      omega
    · rw [hsent, length_append, length_singleton]
      omega
  · show ∀ h ∈ (life.send qos now).1.handed, h.message.mSn = sn
    obtain hsent | ⟨f, hsent, hf⟩ := hsent
    · rwa [hsent]
    · rw [hsent]
      exact forall_mem_append.mpr ⟨hhanded, forall_mem_singleton.mpr (by rw [hf, hsn])⟩

/-- A request that may be answered automatically has not been answered. -/
theorem AtMostOnce.needReply (h : AtMostOnce sn s)
    (hneed : s.life.message.needReply = true) : s.accepted = 0 := by
  have hle := h.accepted
  by_contra hne
  have hmark := (h.answered (by omega)).1
  rw [needReply_replied hneed] at hmark
  cases hmark

theorem AtMostOnce.sendStatus (h : AtMostOnce sn s)
    (hzero : s.accepted = 0) (errorCode : Int) (info : Payload) (qos : EFdbQOS)
    (now : BitVec 64) : AtMostOnce sn (s.sendStatus errorCode info qos now) := by
  unfold Answering.sendStatus
  split
  · exact h
  · have hframes := h.frames
    have hanswered := setStatusMsg_answered s.life.message errorCode info
    have hsn : (s.life.change (s.life.message.setStatusMsg errorCode info
        (some .mtStatus))).message.mSn = sn := h.mSn
    refine AtMostOnce.send hsn (by omega) hanswered ?_ h.handed qos now
    show s.life.handed.length + s.jobs + 1 ≤ s.accepted + 1
    omega

theorem AtMostOnce.doReply (h : AtMostOnce sn s) {n : Nat}
    (hjobs : s.jobs = n + 1) (session : Option EFdbQOS) (now : BitVec 64) :
    AtMostOnce sn ({ s with jobs := n }.doReply session now) := by
  have hframes := h.frames
  have haccepted := h.accepted
  have hdrop : AtMostOnce sn { s with jobs := n } :=
    ⟨h.mSn, h.accepted, h.answered, by show s.life.handed.length + n ≤ s.accepted; omega,
      h.handed⟩
  unfold Answering.doReply
  split
  · exact hdrop
  · cases session with
    | none => exact hdrop
    | some qos =>
      refine AtMostOnce.send h.mSn h.accepted (h.answered (by omega)) ?_ h.handed qos now
      show s.life.handed.length + n + 1 ≤ s.accepted
      omega

theorem AtMostOnce.step (hg : NotAgain s a)
    (h : AtMostOnce sn s) (hstep : s.step a = some t) : AtMostOnce sn t := by
  obtain ⟨m, accept, rfl, hkeeps, hm, hcall⟩ | rfl | ⟨hneed, errorCode, info, qos, now, rfl⟩
    | ⟨n, session, now, hjobs, rfl⟩ := step_cases hstep
  · have hzero : s.accepted = 0 := hcall.elim hg h.needReply
    exact h.queue hkeeps fun haccept => ⟨hzero, hm haccept⟩
  · exact h
  · exact h.sendStatus (h.needReply hneed) errorCode info qos now
  · exact h.doReply hjobs session now

/-- **One answer to a request**: in every run in which `reply`, `status` and `statusf` are not
called again once a call has been accepted, one call is accepted at most, and one frame at
most is sent; it carries the request's serial number. -/
theorem one_response {m : CFdbMessage} {calls : List Answer} {s : Answering}
    (hcalls : Along Answering.step NotAgain (Answering.start m) calls)
    (hrun : run Answering.step (Answering.start m) calls = some s) :
    s.accepted ≤ 1 ∧ s.life.handed.length ≤ 1
      ∧ ∀ h ∈ s.life.handed, h.message.mSn = m.mSn := by
  have h₀ : AtMostOnce m.mSn (start m) :=
    ⟨rfl, Nat.zero_le 1, fun h => absurd h Nat.zero_ne_one, Nat.le_refl 0,
      fun h hh => absurd hh not_mem_nil⟩
  have h : AtMostOnce m.mSn s :=
    run_along (fun _ _ _ hg h hstep => h.step hg hstep) h₀ hcalls hrun
  have hframes := h.frames
  exact ⟨h.accepted, by have := h.accepted; omega, h.handed⟩

/-- A request as it is received, with serial number 5. -/
def plainRequest : CFdbMessage :=
  { plainEvent with mType := .mtRequest, mSn := 5#32, mFlag := 0#32 }

/-- A context that takes the job. -/
def openQueue : Queue := ⟨true, true, Payload.empty⟩

/-- A reply, the automatic reply of the library after it, and the job of the reply. -/
def repliedOnce : List Answer :=
  [.reply Payload.empty openQueue, .autoReply true 0 Payload.empty true,
    .job (some .qosReliable) 0#64]

theorem one_response_replied :
    ∃ s, run Answering.step (Answering.start plainRequest) repliedOnce = some s
      ∧ s.accepted = 1 ∧ s.life.handed.map (·.message.mSn) = [5#32]
      ∧ s.accepted ≤ 1 ∧ s.life.handed.length ≤ 1
      ∧ ∀ h ∈ s.life.handed, h.message.mSn = plainRequest.mSn := by
  have hshape : (run step (start plainRequest) repliedOnce).map
      (fun s => (s.accepted, s.life.handed.map (·.message.mSn))) = some (1, [5#32]) := by
    decide +kernel
  obtain ⟨s, hs, hpair⟩ := Option.map_eq_some_iff.mp hshape
  have hcalls : Along step NotAgain (start plainRequest) repliedOnce :=
    along_cons (fun _ => rfl) rfl (along_cons nofun rfl (along_cons nofun rfl trivial))
  exact ⟨s, hs, congrArg Prod.fst hpair, congrArg Prod.snd hpair, one_response hcalls hs⟩

/-- Two replies to one request: both are accepted, and two frames with its serial number are
sent. -/
def repliedTwice : List Answer :=
  [.reply Payload.empty openQueue, .reply Payload.empty openQueue,
    .job (some .qosReliable) 0#64, .job (some .qosReliable) 0#64]

theorem two_responses :
    (run Answering.step (Answering.start plainRequest) repliedTwice).map
        (fun s => (s.accepted, s.life.handed.map (·.message.mSn)))
      = some (2, [5#32, 5#32]) := by
  decide +kernel

end Fdbus.Message

/-
  Fdbus.Subscribe.Broadcast — `CEventSubscribeHandle::broadcast` and
  `CFdbBaseObject::broadcastMsg`.

  An event goes to the pairs (session, object id) that subscribed it: first to those of the
  event itself, then to those of its group, then to those of all groups, and in each table
  to those of its topic and those of the empty one.  A subscription with
  `FDB_SUBFLAG_NO_REFLECT` keeps the publisher from getting its own event back.

    * `count_broadcastMsg` — how many copies a pair is sent: one for each subscription that
      matches and is not suppressed,
    * `broadcastMsg_reaches` — a pair gets no more copies than it has matching subscriptions,
      at least one if no-reflect leaves one of them, and none if it excludes all of them.

  `broadcast(msg, session)` sends to one session only and stops at the first table with a
  subscription.  Topics are C strings, so no topic contains a NUL.
-/
import Fdbus.Subscribe.Handle

namespace Fdbus.Subscribe

open Fdbus.OrderedMap List

/-! ## §1. Broadcasting over a table. -/

/-- What `broadcast` reads of the message and never changes: its code and topic, the id of
the session it was published on, and `isNoReflect()`. -/
structure EventMessage where
  code : FdbMsgCode
  topic : Topic
  session : Int
  isNoReflect : Bool

/-- `sub_item.mFlag & FDB_SUBFLAG_NO_REFLECT`. -/
def CSubscribeItem.noReflect (item : CSubscribeItem) : Bool := item.mFlag &&& 1#32 != 0#32

/-- What changes during a broadcast: the object id of the message, the copies handed to
`session->sendMessage` with the object id they had, and the result `sent`. -/
structure Broadcasting where
  objectId : FdbObjectId
  copies : List (SessionPtr × FdbObjectId)
  sent : Bool

section Handle

variable (sid : SessionPtr → Int) (msg : EventMessage) (sender : FdbObjectId)

/-- `broadcastOneMsg` holds the message back from this subscription. -/
def suppressed (session : SessionPtr) (obj : FdbObjectId) (item : CSubscribeItem) : Bool :=
  msg.isNoReflect && item.noReflect && (msg.session == sid session) && (sender == obj)

/-- `broadcastOneMsg` for the subscription of a topic, if there is one. -/
def broadcastTopic (session : SessionPtr) (items : SubItemTable) (topic : Topic)
    (st : Broadcasting) : Broadcasting :=
  match items[topic]? with
  | some item =>
    { st with
      copies := if suppressed sid msg sender session st.objectId item then st.copies
        else st.copies ++ [(session, st.objectId)]
      sent := true }
  | none => st

/-- The topics whose subscriptions match: the message's own, and the empty one. -/
def matchingTopics : List Topic := if msg.topic = [] then [[]] else [msg.topic, []]

/-- The body of the loop over the objects of a session. -/
def broadcastObject (session : SessionPtr) (st : Broadcasting) (obj : FdbObjectId)
    (items : SubItemTable) : Broadcasting :=
  (matchingTopics msg).foldl (fun st topic => broadcastTopic sid msg sender session items topic st)
    { st with objectId := obj }

/-- `broadcast(msg, event)`; the sender's object id is the one the message has at the
start. -/
def SubscribeTable.broadcast (t : SubscribeTable) (event : FdbMsgCode) (st : Broadcasting) :
    Broadcasting :=
  match t[event]? with
  | some sessions =>
    -- `st.objectId` is read before the loop, `st'.objectId` changes with every pair
    sessions.foldl (fun st' session objects =>
      objects.foldl (broadcastObject sid msg st.objectId session) st') st
  | none => st

/-- The body of the loop of `broadcast(msg, session, event)`: objects of another class are
passed over, and the empty topic is asked for only when the message's own is not found. -/
def broadcastObjectTo (session : SessionPtr) (st : Broadcasting) (obj : FdbObjectId)
    (items : SubItemTable) : Broadcasting :=
  if fdbObjectGetClass obj ≠ fdbObjectGetClass st.objectId then st
  else
    let topic := if items[msg.topic]?.isSome then msg.topic else []
    broadcastTopic sid msg sender session items topic { st with objectId := obj }

/-- `broadcast(msg, session, event)`. -/
def SubscribeTable.broadcastTo (t : SubscribeTable) (session : SessionPtr) (event : FdbMsgCode)
    (st : Broadcasting) : Broadcasting :=
  match t[event]?.bind fun sessions => sessions[session]? with
  | some objects => objects.foldl (broadcastObjectTo sid msg st.objectId session) st
  | none => st

/-! ## §2. The copies a pair is sent from one table. -/

/-- The copies for what a pair holds under a topic. -/
def received (s : SessionPtr) (o : FdbObjectId) : Option CSubscribeItem → Nat
  | some item => if suppressed sid msg sender s o item then 0 else 1
  | none => 0

/-- The copies for the items of a pair. -/
def receivedItems (s : SessionPtr) (o : FdbObjectId) (items : SubItemTable) : Nat :=
  ((matchingTopics msg).map fun topic => received sid msg sender s o items[topic]?).sum

variable (session : SessionPtr) (items : SubItemTable)

@[simp] theorem broadcastTopic_objectId (topic : Topic) (st : Broadcasting) :
    (broadcastTopic sid msg sender session items topic st).objectId = st.objectId := by
  unfold broadcastTopic
  split <;> rfl

theorem count_broadcastTopic (topic : Topic)
    (st : Broadcasting) (s : SessionPtr) (o : FdbObjectId) :
    (broadcastTopic sid msg sender session items topic st).copies.count (s, o)
      = st.copies.count (s, o)
        + if st.objectId = o ∧ session = s then received sid msg sender s o items[topic]? else 0 := by
  unfold broadcastTopic
  cases items[topic]? with
  | none => simp [received]
  | some item =>
    by_cases hpair : st.objectId = o ∧ session = s
    · obtain ⟨rfl, rfl⟩ := hpair
      by_cases hsup : suppressed sid msg sender session st.objectId item = true
      · simp [received, hsup]
      · simp [received, hsup]
    · -- a copy for another pair does not count
      have hne : (session, st.objectId) ≠ (s, o) := by
        rintro ⟨⟩
        exact hpair ⟨rfl, rfl⟩
      by_cases hsup : suppressed sid msg sender session st.objectId item = true
      · simp [hpair, hsup]
      · simp [hpair, hsup, count_append, hne]

theorem count_broadcastTopics
    (topics : List Topic) (st : Broadcasting) (s : SessionPtr) (o : FdbObjectId) :
    (topics.foldl (fun st topic => broadcastTopic sid msg sender session items topic st)
        st).copies.count (s, o)
      = st.copies.count (s, o)
        + if st.objectId = o ∧ session = s
          then (topics.map fun topic => received sid msg sender s o items[topic]?).sum else 0 := by
  induction topics generalizing st with
  | nil => simp
  | cons topic topics ih =>
    rw [foldl_cons, ih, broadcastTopic_objectId, count_broadcastTopic]
    by_cases hpair : st.objectId = o ∧ session = s
    · simp only [if_pos hpair, map_cons, sum_cons]
      omega
    · simp only [if_neg hpair]

theorem count_broadcastObject (st : Broadcasting) (obj : FdbObjectId)
    (items : SubItemTable) (s : SessionPtr) (o : FdbObjectId) :
    (broadcastObject sid msg sender session st obj items).copies.count (s, o)
      = st.copies.count (s, o) + if obj = o then
          if session = s then receivedItems sid msg sender s o items else 0 else 0 := by
  unfold broadcastObject receivedItems
  rw [count_broadcastTopics]
  simp only [ite_and]

theorem count_broadcastSession (objects : ObjectTable)
    (st : Broadcasting) (s : SessionPtr) (o : FdbObjectId) :
    (objects.foldl (broadcastObject sid msg sender session) st).copies.count (s, o)
      = st.copies.count (s, o)
        + if session = s then objects[o]?.elim 0 (receivedItems sid msg sender s o) else 0 := by
  rw [foldl_measure (fun st : Broadcasting => st.copies.count (s, o))
    (fun st obj items => count_broadcastObject sid msg sender session st obj items s o)]
  by_cases hs : session = s
  · simp only [if_pos hs]
  · simp only [if_neg hs]
    cases objects[o]? <;> rfl

/-- **One table.**  A pair is sent one copy for each of its subscriptions that matches and
is not suppressed. -/
theorem count_broadcast (t : SubscribeTable) (event : FdbMsgCode) (st : Broadcasting)
    (s : SessionPtr) (o : FdbObjectId) :
    (t.broadcast sid msg event st).copies.count (s, o)
      = st.copies.count (s, o)
        + ((matchingTopics msg).map fun topic =>
            received sid msg st.objectId s o (t.lookup event s o topic)).sum := by
  unfold SubscribeTable.broadcast SubscribeTable.lookup
  cases t[event]? with
  | none => simp [received]
  | some sessions =>
    show (sessions.foldl _ st).copies.count (s, o) = _
    rw [foldl_measure (fun st : Broadcasting => st.copies.count (s, o))
      (fun st' session objects =>
        count_broadcastSession sid msg st.objectId session objects st' s o)]
    congr 1
    cases hobjects : sessions[s]? with
    | none => simp [received, hobjects]
    | some objects =>
      cases hitems : objects[o]? with
      | none => simp [received, hobjects, hitems]
      | some items => simp [receivedItems, hobjects, hitems]

end Handle

/-! ## §3. `broadcastMsg`. -/

/-- `broadcastMsg(msg)` for a message with the object id `sender`. -/
def CFdbBaseObject.broadcastMsg (obj : CFdbBaseObject) (sid : SessionPtr → Int)
    (msg : EventMessage) (sender : FdbObjectId) : Broadcasting :=
  let st := obj.mEventSubscribeHandle.broadcast sid msg msg.code ⟨sender, [], false⟩
  let st := obj.mGroupSubscribeHandle.broadcast sid msg (fdbMakeGroup msg.code) st
  if fdbEventInAllGroups msg.code then st
  else obj.mGroupSubscribeHandle.broadcast sid msg fdbAllGroupsEvent st

/-- What `broadcast(msg, session)` does once the event cache is updated: a table is asked
only when the ones before it had no subscription. -/
def CFdbBaseObject.broadcastTo (obj : CFdbBaseObject) (sid : SessionPtr → Int)
    (msg : EventMessage) (session : SessionPtr) (sender : FdbObjectId) : Broadcasting :=
  let st := obj.mEventSubscribeHandle.broadcastTo sid msg session msg.code ⟨sender, [], false⟩
  if st.sent then st
  else
    let st := obj.mGroupSubscribeHandle.broadcastTo sid msg session (fdbMakeGroup msg.code) st
    if st.sent then st
    else if fdbEventInAllGroups msg.code then st
    else obj.mGroupSubscribeHandle.broadcastTo sid msg session fdbAllGroupsEvent st

/-- A subscription of a pair. -/
structure Subscription where
  code : FdbMsgCode
  topic : Topic
  item : CSubscribeItem
  deriving DecidableEq

/-- The codes whose subscriptions match: the event, its group, and all groups. -/
def matchingCodes (msg : EventMessage) : List FdbMsgCode :=
  [msg.code, fdbMakeGroup msg.code, fdbAllGroupsEvent].dedup

theorem mem_matchingTopics (msg : EventMessage) (topic : Topic) :
    topic ∈ matchingTopics msg ↔ topic = [] ∨ topic = msg.topic := by
  unfold matchingTopics
  by_cases h : msg.topic = []
  · simp [h]
  · rw [if_neg h]
    simp only [mem_cons, not_mem_nil, or_false]
    exact or_comm

theorem mem_matchingCodes (msg : EventMessage) (code : FdbMsgCode) :
    code ∈ matchingCodes msg
      ↔ code = msg.code ∨ code = fdbMakeGroup msg.code ∨ code = fdbAllGroupsEvent := by
  unfold matchingCodes
  simp only [mem_dedup, mem_cons, not_mem_nil, or_false]

/-- The subscriptions of a pair for one code that match the topic. -/
def matchingAt (obj : CFdbBaseObject) (msg : EventMessage) (s : SessionPtr) (o : FdbObjectId)
    (code : FdbMsgCode) : List Subscription :=
  (matchingTopics msg).filterMap fun topic =>
    (obj.lookup code s o topic).map fun item => ⟨code, topic, item⟩

/-- The subscriptions of a pair that match the message. -/
def matching (obj : CFdbBaseObject) (msg : EventMessage) (s : SessionPtr) (o : FdbObjectId) :
    List Subscription :=
  (matchingCodes msg).flatMap (matchingAt obj msg s o)

section Object

variable (obj : CFdbBaseObject) (sid : SessionPtr → Int) (msg : EventMessage)
  (s : SessionPtr) (o : FdbObjectId)

theorem lookup_eventHandle (code : FdbMsgCode) (tp : Topic) :
    obj.mEventSubscribeHandle.lookup code s o tp
      = if fdbIsGroup code then none else obj.lookup code s o tp := by
  unfold CFdbBaseObject.lookup CFdbBaseObject.handleFor
  by_cases hg : fdbIsGroup code = true
  · unfold SubscribeTable.lookup
    rw [if_pos hg, obj.events_only code hg]
    rfl
  · rw [if_neg hg, if_neg hg]

variable {code : FdbMsgCode} (sender : FdbObjectId)

theorem lookup_groupHandle (hg : fdbIsGroup code = true) (tp : Topic) :
    obj.mGroupSubscribeHandle.lookup code s o tp = obj.lookup code s o tp := by
  unfold CFdbBaseObject.lookup CFdbBaseObject.handleFor
  rw [if_pos hg]

/-- The subscriptions for one code that are not suppressed. -/
def notSuppressed (sender : FdbObjectId) (sub : Subscription) : Bool :=
  !suppressed sid msg sender s o sub.item

theorem received_topics (code : FdbMsgCode) :
    ((matchingTopics msg).map fun topic =>
        received sid msg sender s o (obj.lookup code s o topic)).sum
      = (matchingAt obj msg s o code).countP (notSuppressed sid msg s o sender) := by
  unfold matchingAt
  induction matchingTopics msg with
  | nil => rfl
  | cons topic topics ih =>
    rw [map_cons, sum_cons, ih, filterMap_cons]
    cases obj.lookup code s o topic with
    | none => simp [received]
    | some item =>
      simp only [received, Option.map_some, countP_cons, notSuppressed]
      by_cases hsup : suppressed sid msg sender s o item = true
      · simp [hsup]
      · simp [hsup, Nat.add_comm]

theorem code_of_mem_matchingAt {sub : Subscription}
    (h : sub ∈ matchingAt obj msg s o code) : sub.code = code := by
  obtain ⟨topic, _, hsub⟩ := mem_filterMap.mp h
  obtain ⟨item, _, rfl⟩ := Option.map_eq_some_iff.mp hsub
  rfl

/-- The copies for one code. -/
def copiesAt (sender : FdbObjectId) (code : FdbMsgCode) : Nat :=
  (matchingAt obj msg s o code).countP (notSuppressed sid msg s o sender)

theorem countP_matching (senderAt : FdbMsgCode → FdbObjectId) (codes : List FdbMsgCode) :
    (codes.flatMap (matchingAt obj msg s o)).countP
        (fun sub => notSuppressed sid msg s o (senderAt sub.code) sub)
      = (codes.map fun code => copiesAt obj sid msg s o (senderAt code) code).sum := by
  rw [countP_flatMap]
  congr 1
  refine map_congr_left fun code _ => ?_
  refine countP_congr fun sub hsub => ?_
  rw [code_of_mem_matchingAt obj msg s o hsub]

theorem count_eventHandle (st : Broadcasting) :
    (obj.mEventSubscribeHandle.broadcast sid msg msg.code st).copies.count (s, o)
      = st.copies.count (s, o)
        + if fdbIsGroup msg.code then 0 else copiesAt obj sid msg s o st.objectId msg.code := by
  rw [count_broadcast]
  simp only [lookup_eventHandle]
  by_cases hg : fdbIsGroup msg.code = true
  · simp [hg, received]
  · simp only [hg, if_false, Bool.false_eq_true]
    rw [received_topics]
    rfl

theorem count_groupHandle (hg : fdbIsGroup code = true) (st : Broadcasting) :
    (obj.mGroupSubscribeHandle.broadcast sid msg code st).copies.count (s, o)
      = st.copies.count (s, o) + copiesAt obj sid msg s o st.objectId code := by
  rw [count_broadcast]
  simp only [lookup_groupHandle obj s o hg]
  rw [received_topics]
  rfl

/-- The codes that the three tables are asked for: a group is its own group, and an event
whose group is all groups is not looked up there again. -/
theorem matchingCodes_eq :
    matchingCodes msg
      = (if fdbIsGroup msg.code then [] else [msg.code])
        ++ (if fdbEventInAllGroups msg.code then [fdbAllGroupsEvent]
          else [fdbMakeGroup msg.code, fdbAllGroupsEvent]) := by
  unfold matchingCodes
  have hgroup := fdbIsGroup_makeGroup msg.code
  have hall := fdbEventInAllGroups_iff msg.code
  by_cases hin : fdbEventInAllGroups msg.code = true
  · have heq := hall.mp hin
    by_cases hg : fdbIsGroup msg.code = true
    · have hself := fdbMakeGroup_of_isGroup hg
      have hcode : msg.code = fdbAllGroupsEvent := by rw [← hself, heq]
      rw [if_pos hg, if_pos hin, heq, hcode]
      simp
    · have hne : msg.code ≠ fdbAllGroupsEvent := by
        intro h
        exact hg (h ▸ fdbIsGroup_allGroups)
      simp [hin, hg, heq, hne]
  · have hne : fdbMakeGroup msg.code ≠ fdbAllGroupsEvent := fun h => hin (hall.mpr h)
    by_cases hg : fdbIsGroup msg.code = true
    · have hself := fdbMakeGroup_of_isGroup hg
      rw [hself] at hne ⊢
      simp [hin, hg, hne]
    · have hne' : msg.code ≠ fdbAllGroupsEvent := by
        intro h
        exact hg (h ▸ fdbIsGroup_allGroups)
      have hne'' : msg.code ≠ fdbMakeGroup msg.code := by
        intro h
        exact hg (h ▸ hgroup)
      simp [hin, hg, hne, hne', hne'']

/-- The sender's object id when the table of a code is walked, given the ids the message is
left with by the event table and by the group's. -/
def senderOf (sender afterEvent afterGroup : FdbObjectId) (code : FdbMsgCode) : FdbObjectId :=
  if fdbIsGroup code = false then sender
  else if code = fdbMakeGroup msg.code then afterEvent else afterGroup

/-- **The copies of a pair.**  A pair is sent one copy for each matching subscription that
is not suppressed.  For a subscription of the event itself the sender is the message's
object id; for one of a group it is the id the message was left with by the table before,
so only its existence is stated. -/
theorem count_broadcastMsg :
    ∃ senderAt : FdbMsgCode → FdbObjectId,
      (∀ code, fdbIsGroup code = false → senderAt code = sender)
      ∧ (obj.broadcastMsg sid msg sender).copies.count (s, o)
        = (matching obj msg s o).countP fun sub =>
            notSuppressed sid msg s o (senderAt sub.code) sub := by
  let st := obj.mEventSubscribeHandle.broadcast sid msg msg.code ⟨sender, [], false⟩
  let st' := obj.mGroupSubscribeHandle.broadcast sid msg (fdbMakeGroup msg.code) st
  have hst : st.copies.count (s, o)
      = if fdbIsGroup msg.code then 0 else copiesAt obj sid msg s o sender msg.code := by
    rw [count_eventHandle]
    simp
  have hst' := count_groupHandle obj sid msg s o (fdbIsGroup_makeGroup msg.code) st
  have hlast := count_groupHandle obj sid msg s o fdbIsGroup_allGroups st'
  refine ⟨senderOf msg sender st.objectId st'.objectId, fun code hcode => if_pos hcode, ?_⟩
  unfold matching
  rw [countP_matching, matchingCodes_eq]
  have hgroup : senderOf msg sender st.objectId st'.objectId (fdbMakeGroup msg.code)
      = st.objectId := by
    unfold senderOf
    rw [fdbIsGroup_makeGroup, if_neg (by decide), if_pos rfl]
  -- a group code is not in the event table
  have hevent : (if fdbIsGroup msg.code = true then 0 else copiesAt obj sid msg s o sender msg.code)
      = ((if fdbIsGroup msg.code = true then [] else [msg.code]).map fun code =>
          copiesAt obj sid msg s o (senderOf msg sender st.objectId st'.objectId code) code).sum := by
    by_cases hg : fdbIsGroup msg.code = true
    · simp [hg]
    · simp [hg, senderOf]
  rw [map_append, sum_append, ← hevent, ← hst]
  unfold CFdbBaseObject.broadcastMsg
  by_cases hin : fdbEventInAllGroups msg.code = true
  · -- the group of the event is all groups
    have hall := (fdbEventInAllGroups_iff msg.code).mp hin
    rw [if_pos hin, if_pos hin, hst', ← hall]
    simp [hgroup]
  · have hall : fdbAllGroupsEvent ≠ fdbMakeGroup msg.code := fun h =>
      hin ((fdbEventInAllGroups_iff msg.code).mpr h.symm)
    have hlastAt : senderOf msg sender st.objectId st'.objectId fdbAllGroupsEvent
        = st'.objectId := by
      unfold senderOf
      rw [fdbIsGroup_allGroups, if_neg (by decide), if_neg hall]
    rw [if_neg hin, if_neg hin, hlast, hst']
    simp [hgroup, hlastAt, Nat.add_assoc]

/-! ## §4. Who is reached. -/

/-- The message was published with no-reflect on this session, and the subscription asks
for it. -/
def NoReflect (sub : Subscription) : Prop :=
  msg.isNoReflect = true ∧ sub.item.noReflect = true ∧ msg.session = sid s

theorem suppressed_iff (sub : Subscription) :
    suppressed sid msg sender s o sub.item = true ↔ NoReflect sid msg s sub ∧ sender = o := by
  unfold suppressed NoReflect
  simp only [Bool.and_eq_true, beq_iff_eq, and_assoc]

/-- **Every subscriber is reached.**  A pair is sent at most as many copies as it has
matching subscriptions, so none without one; it is sent at least one if no-reflect does not
exclude all of them; and it is sent none if they are all subscriptions of the event itself
that no-reflect excludes. -/
theorem broadcastMsg_reaches (sender : FdbObjectId) :
    (obj.broadcastMsg sid msg sender).copies.count (s, o) ≤ (matching obj msg s o).length
      ∧ ((∃ sub ∈ matching obj msg s o,
            ¬ NoReflect sid msg s sub ∨ fdbIsGroup sub.code = false ∧ sender ≠ o) →
          1 ≤ (obj.broadcastMsg sid msg sender).copies.count (s, o))
      ∧ ((∀ sub ∈ matching obj msg s o,
            NoReflect sid msg s sub ∧ fdbIsGroup sub.code = false ∧ sender = o) →
          (obj.broadcastMsg sid msg sender).copies.count (s, o) = 0) := by
  obtain ⟨senderAt, hsender, hcount⟩ := count_broadcastMsg obj sid msg s o sender
  rw [hcount]
  refine ⟨countP_le_length, ?_, ?_⟩
  · rintro ⟨sub, hmem, hsub⟩
    apply countP_pos_iff.mpr
    refine ⟨sub, hmem, ?_⟩
    unfold notSuppressed
    rw [Bool.not_eq_true', Bool.eq_false_iff, Ne, suppressed_iff]
    rintro ⟨hno, hobj⟩
    rcases hsub with hyes | ⟨hcode, hne⟩
    · exact hyes hno
    · exact hne (hsender sub.code hcode ▸ hobj)
  · intro hall
    apply countP_eq_zero.mpr
    intro sub hmem
    obtain ⟨hno, hcode, hobj⟩ := hall sub hmem
    have hsup : suppressed sid msg (senderAt sub.code) s o sub.item = true := by
      rw [suppressed_iff, hsender sub.code hcode]
      exact ⟨hno, hobj⟩
    simp [notSuppressed, hsup]

end Object

/-- Session 1 has subscribed event 7 with `FDB_SUBFLAG_NO_REFLECT`. -/
def noReflectObject : CFdbBaseObject :=
  CFdbBaseObject.empty.subscribe 1 7#32 fdbObjectMain none 1#32

/-- Session 1 publishes event 7. -/
def ownEvent : EventMessage := ⟨7#32, [], 1, true⟩

/-- The publisher holds a matching subscription and is sent no copy. -/
theorem publisher_not_reached :
    matching noReflectObject ownEvent 1 fdbObjectMain ≠ []
      ∧ (noReflectObject.broadcastMsg Int.ofNat ownEvent fdbObjectMain).copies.count
          (1, fdbObjectMain) = 0 := by
  decide +kernel

/-- Next to the publisher, session 2 has subscribed event 7 and gets it. -/
theorem broadcastMsg_reaches_other :
    1 ≤ ((noReflectObject.subscribe 2 7#32 fdbObjectMain none 0#32).broadcastMsg Int.ofNat
        ownEvent fdbObjectMain).copies.count (2, fdbObjectMain) := by
  refine (broadcastMsg_reaches (noReflectObject.subscribe 2 7#32 fdbObjectMain none 0#32)
    Int.ofNat ownEvent 2 fdbObjectMain fdbObjectMain).2.1 ⟨⟨7#32, [], ⟨0#32⟩⟩, ?_, ?_⟩
  · exact mem_singleton.mpr rfl
  · exact .inl fun h => absurd h.2.1 (by decide)

end Fdbus.Subscribe

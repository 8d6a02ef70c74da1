/-
  Fdbus.Subscribe.Publish — `CFdbBaseObject::doPublish`.

  A published event is forwarded to the subscribers in a new message, with no-reflect set, so
  that a client that publishes what it has subscribed does not hear itself.  The new message is
  addressed by the object that forwards it, and its object id is overwritten with every
  subscriber's while a table is walked; the next table takes what is left for the sender's.

    * `copies_broadcastMsg` — a broadcast entry by entry: `delivered` lists the subscriptions
      that are sent a copy, in the order of the copies,
    * `senderAt` — the sender's id that a subscription is compared with: in the table of a
      group it is the last object of the table before,
    * `doPublish_noReflect_iff` — exactly when the publisher does not hear itself and nobody
      else is affected.

  The payload is always serialized: memory does not run out.
-/
import Fdbus.Subscribe.EventCache

namespace Fdbus.Subscribe

open Fdbus.OrderedMap Std.ExtTreeMap

/-! ## §1. A broadcast, entry by entry. -/

/-- A subscription with the pair that holds it. -/
structure Entry where
  code : FdbMsgCode
  session : SessionPtr
  obj : FdbObjectId
  topic : Topic
  item : CSubscribeItem
  deriving DecidableEq

/-- The pair an entry belongs to. -/
def Entry.pair (e : Entry) : SessionPtr × FdbObjectId := (e.session, e.obj)

/-- The objects of the sessions that subscribed a code, in the order of the two loops. -/
def SubscribeTable.walk (t : SubscribeTable) (code : FdbMsgCode) :
    List (SessionPtr × FdbObjectId × SubItemTable) :=
  match t[code]? with
  | some sessions => sessions.toList.flatMap fun s => s.2.toList.map fun o => (s.1, o.1, o.2)
  | none => []

/-- The object id that a message is left with when the table of a code has been walked, if
there is any object in it. -/
def SubscribeTable.lastObject (t : SubscribeTable) (code : FdbMsgCode) : Option FdbObjectId :=
  ((t.walk code).map fun w => w.2.1).getLast?

open SubscribeTable

section Table

variable (sid : SessionPtr → Int) (msg : EventMessage)

/-- The entries of one object that match the topic. -/
def entriesOf (code : FdbMsgCode) (w : SessionPtr × FdbObjectId × SubItemTable) : List Entry :=
  (matchingTopics msg).filterMap fun topic =>
    w.2.2[topic]?.map fun item => ⟨code, w.1, w.2.1, topic, item⟩

/-- The entries of a code that match the topic. -/
def SubscribeTable.entries (t : SubscribeTable) (code : FdbMsgCode) : List Entry :=
  (t.walk code).flatMap (entriesOf msg code)

/-- `broadcastOneMsg` sends the message to this entry. -/
def Entry.sends (sender : FdbObjectId) (e : Entry) : Bool :=
  !suppressed sid msg sender e.session e.obj e.item

/-- The pairs of the entries that are sent the message. -/
def copiesOf (sender : FdbObjectId) (l : List Entry) : List (SessionPtr × FdbObjectId) :=
  (l.filter (Entry.sends sid msg sender)).map Entry.pair

variable (sender : FdbObjectId) (t : SubscribeTable) (code : FdbMsgCode) (st : Broadcasting)

theorem broadcast_eq_foldl :
    t.broadcast sid msg code st
      = (t.walk code).foldl (fun st' w => broadcastObject sid msg st.objectId w.1 st' w.2.1 w.2.2)
          st := by
  unfold broadcast walk
  cases t[code]? with
  | none => rfl
  | some sessions =>
    show sessions.foldl _ st = _
    rw [foldl_eq_foldl_toList, List.foldl_flatMap]
    congr 1
    funext st' s
    rw [foldl_eq_foldl_toList, List.foldl_map]

/-- The copies for the topics of one object. -/
theorem copies_broadcastTopics
    (w : SessionPtr × FdbObjectId × SubItemTable) (topics : List Topic) (st : Broadcasting)
    (hobj : st.objectId = w.2.1) :
    (topics.foldl (fun st topic => broadcastTopic sid msg sender w.1 w.2.2 topic st) st).objectId
        = w.2.1
      ∧ (topics.foldl (fun st topic => broadcastTopic sid msg sender w.1 w.2.2 topic st) st).copies
        = st.copies ++ copiesOf sid msg sender (topics.filterMap fun topic =>
            w.2.2[topic]?.map fun item => ⟨code, w.1, w.2.1, topic, item⟩) := by
  induction topics generalizing st with
  | nil => exact ⟨hobj, by simp [copiesOf]⟩
  | cons topic topics ih =>
    rw [List.foldl_cons]
    obtain ⟨hid, hcopies⟩ := ih (broadcastTopic sid msg sender w.1 w.2.2 topic st)
      (by rw [broadcastTopic_objectId, hobj])
    refine ⟨hid, ?_⟩
    rw [hcopies, List.filterMap_cons]
    unfold broadcastTopic
    cases w.2.2[topic]? with
    | none => rfl
    | some item =>
      -- the copy carries the id of the object that is walked
      by_cases hsup : suppressed sid msg sender w.1 w.2.1 item = true
      · simp [copiesOf, Entry.sends, hobj, hsup]
      · simp [copiesOf, Entry.sends, Entry.pair, hobj, hsup]

theorem copies_foldl_broadcastObject
    (l : List (SessionPtr × FdbObjectId × SubItemTable)) (st : Broadcasting) :
    (l.foldl (fun st' w => broadcastObject sid msg sender w.1 st' w.2.1 w.2.2) st).objectId
        = (l.map fun w => w.2.1).getLast?.getD st.objectId
      ∧ (l.foldl (fun st' w => broadcastObject sid msg sender w.1 st' w.2.1 w.2.2) st).copies
        = st.copies ++ copiesOf sid msg sender (l.flatMap (entriesOf msg code)) := by
  induction l generalizing st with
  | nil => simp [copiesOf]
  | cons w l ih =>
    rw [List.foldl_cons]
    obtain ⟨hid, hcopies⟩ := ih (broadcastObject sid msg sender w.1 st w.2.1 w.2.2)
    obtain ⟨hobj, hnew⟩ := copies_broadcastTopics sid msg sender code w (matchingTopics msg)
      { st with objectId := w.2.1 } rfl
    unfold copiesOf at hcopies hnew ⊢
    rw [hid, hcopies, List.flatMap_cons, List.filter_append, List.map_append, ← List.append_assoc]
    unfold broadcastObject
    rw [hobj, hnew, List.map_cons, List.getLast?_cons]
    exact ⟨rfl, rfl⟩

/-- What one table leaves as the object id. -/
theorem broadcast_objectId :
    (t.broadcast sid msg code st).objectId = (t.lastObject code).getD st.objectId := by
  rw [broadcast_eq_foldl]
  exact (copies_foldl_broadcastObject sid msg st.objectId code (t.walk code) st).1

/-- The copies from one table. -/
theorem broadcast_copies :
    (t.broadcast sid msg code st).copies
      = st.copies ++ copiesOf sid msg st.objectId (t.entries msg code) := by
  rw [broadcast_eq_foldl]
  exact (copies_foldl_broadcastObject sid msg st.objectId code (t.walk code) st).2

theorem mem_entries (e : Entry) :
    e ∈ t.entries msg code
      ↔ e.code = code ∧ e.topic ∈ matchingTopics msg
        ∧ t.lookup code e.session e.obj e.topic = some e.item := by
  unfold entries walk lookup entriesOf
  cases t[code]? with
  | none => simp
  | some sessions =>
    simp only [List.mem_flatMap, List.mem_map, List.mem_filterMap, Option.map_eq_some_iff,
      Option.bind_some, Option.bind_eq_some_iff]
    constructor
    · rintro ⟨w, ⟨s, hs, o, ho, rfl⟩, topic, htopic, item, hitem, rfl⟩
      exact ⟨rfl, htopic, s.2, mem_toList_iff_getElem?_eq_some.mp hs, o.2,
        mem_toList_iff_getElem?_eq_some.mp ho, hitem⟩
    · rintro ⟨rfl, htopic, objects, hobjects, items, hitems, hitem⟩
      refine ⟨(e.session, e.obj, items), ⟨(e.session, objects), ?_, (e.obj, items), ?_, rfl⟩,
        e.topic, htopic, e.item, hitem, rfl⟩
      · exact mem_toList_iff_getElem?_eq_some.mpr hobjects
      · exact mem_toList_iff_getElem?_eq_some.mpr hitems

theorem lastObject_of_none {t : SubscribeTable} {code : FdbMsgCode} (h : t[code]? = none) :
    t.lastObject code = none := by
  unfold lastObject walk
  rw [h]
  rfl

end Table

/-! ## §2. The three tables. -/

section Object

variable (obj : CFdbBaseObject) (sid : SessionPtr → Int) (msg : EventMessage)
  (sender : FdbObjectId)

/-- The sender's object id in the table of the group: what the table of the event leaves. -/
def senderAtGroup : FdbObjectId := (obj.mEventSubscribeHandle.lastObject msg.code).getD sender

/-- The sender's object id in the table of all groups: what the table of the group leaves. -/
def senderAtAllGroups : FdbObjectId :=
  (obj.mGroupSubscribeHandle.lastObject (fdbMakeGroup msg.code)).getD (senderAtGroup obj msg sender)

/-- The sender's object id when the subscriptions of a code are walked. -/
def senderAt (code : FdbMsgCode) : FdbObjectId :=
  senderOf msg sender (senderAtGroup obj msg sender) (senderAtAllGroups obj msg sender) code

/-- The entries that match the message, in the order of the tables. -/
def matchingEntries : List Entry :=
  obj.mEventSubscribeHandle.entries msg msg.code
    ++ obj.mGroupSubscribeHandle.entries msg (fdbMakeGroup msg.code)
    ++ if fdbEventInAllGroups msg.code then []
      else obj.mGroupSubscribeHandle.entries msg fdbAllGroupsEvent

/-- The entries that are sent a copy. -/
def delivered : List Entry :=
  (matchingEntries obj msg).filter fun e => e.sends sid msg (senderAt obj msg sender e.code)

theorem mem_eventHandle_entries (e : Entry) :
    e ∈ obj.mEventSubscribeHandle.entries msg msg.code
      ↔ (fdbIsGroup msg.code = false ∧ e.code = msg.code) ∧ e.topic ∈ matchingTopics msg
        ∧ obj.lookup e.code e.session e.obj e.topic = some e.item := by
  rw [mem_entries, lookup_eventHandle]
  cases hg : fdbIsGroup msg.code with
  | true => simp
  | false =>
    simp only [Bool.false_eq_true, if_false, true_and]
    refine and_congr_right fun hcode => ?_
    rw [hcode]

theorem mem_groupHandle_entries {code : FdbMsgCode} (hg : fdbIsGroup code = true) (e : Entry) :
    e ∈ obj.mGroupSubscribeHandle.entries msg code
      ↔ e.code = code ∧ e.topic ∈ matchingTopics msg
        ∧ obj.lookup e.code e.session e.obj e.topic = some e.item := by
  rw [mem_entries, lookup_groupHandle obj _ _ hg]
  refine and_congr_right fun hcode => ?_
  rw [hcode]

/-- An entry matches by its code and its topic. -/
theorem mem_matchingEntries (e : Entry) :
    e ∈ matchingEntries obj msg
      ↔ e.code ∈ matchingCodes msg ∧ e.topic ∈ matchingTopics msg
        ∧ obj.lookup e.code e.session e.obj e.topic = some e.item := by
  unfold matchingEntries
  rw [matchingCodes_eq, List.mem_append, List.mem_append, List.mem_append,
    mem_eventHandle_entries, mem_groupHandle_entries obj msg (fdbIsGroup_makeGroup msg.code)]
  have hevent : e.code ∈ (if fdbIsGroup msg.code = true then [] else [msg.code])
      ↔ fdbIsGroup msg.code = false ∧ e.code = msg.code := by
    cases fdbIsGroup msg.code <;> simp
  rw [hevent]
  cases hin : fdbEventInAllGroups msg.code with
  | true =>
    -- the group of the event is all groups
    rw [(fdbEventInAllGroups_iff msg.code).mp hin]
    simp only [if_true, List.not_mem_nil, or_false, List.mem_singleton, or_and_right]
  | false =>
    simp only [Bool.false_eq_true, if_false, List.mem_cons, List.not_mem_nil, or_false,
      mem_groupHandle_entries obj msg fdbIsGroup_allGroups, or_and_right, or_assoc]

theorem senderAt_event {code : FdbMsgCode} (h : fdbIsGroup code = false) :
    senderAt obj msg sender code = sender := if_pos h

theorem senderAt_group :
    senderAt obj msg sender (fdbMakeGroup msg.code) = senderAtGroup obj msg sender := by
  unfold senderAt senderOf
  rw [fdbIsGroup_makeGroup, if_neg (by decide), if_pos rfl]

theorem senderAt_allGroups (h : fdbEventInAllGroups msg.code = false) :
    senderAt obj msg sender fdbAllGroupsEvent = senderAtAllGroups obj msg sender := by
  have hne : fdbAllGroupsEvent ≠ fdbMakeGroup msg.code := by
    intro heq
    rw [(fdbEventInAllGroups_iff msg.code).mpr heq.symm] at h
    cases h
  unfold senderAt senderOf
  rw [fdbIsGroup_allGroups, if_neg (by decide), if_neg hne]

/-- In the table of one code the sender is the same for every entry. -/
theorem filter_sends {l : List Entry} {sender' : FdbObjectId}
    (h : ∀ e ∈ l, senderAt obj msg sender e.code = sender') :
    l.filter (fun e => e.sends sid msg (senderAt obj msg sender e.code))
      = l.filter (Entry.sends sid msg sender') :=
  List.filter_congr fun e he => by rw [h e he]

/-- **A broadcast, entry by entry.** -/
theorem copies_broadcastMsg :
    (obj.broadcastMsg sid msg sender).copies = (delivered obj sid msg sender).map Entry.pair := by
  have hevent := filter_sends obj sid msg sender
    (l := obj.mEventSubscribeHandle.entries msg msg.code) fun e he => by
      obtain ⟨⟨hg, hcode⟩, -⟩ := (mem_eventHandle_entries obj msg e).mp he
      exact senderAt_event obj msg sender (hcode ▸ hg)
  have hgroup := filter_sends obj sid msg sender
    (l := obj.mGroupSubscribeHandle.entries msg (fdbMakeGroup msg.code)) fun e he => by
      rw [((mem_groupHandle_entries obj msg (fdbIsGroup_makeGroup msg.code) e).mp he).1,
        senderAt_group]
  unfold delivered matchingEntries
  rw [List.filter_append, List.filter_append, hevent, hgroup]
  cases hin : fdbEventInAllGroups msg.code with
  | true =>
    simp only [CFdbBaseObject.broadcastMsg, hin, if_true, broadcast_copies, broadcast_objectId,
      List.nil_append, List.filter_nil, List.append_nil, List.map_append]
    rfl
  | false =>
    have hall := filter_sends obj sid msg sender
      (l := obj.mGroupSubscribeHandle.entries msg fdbAllGroupsEvent) fun e he => by
        rw [((mem_groupHandle_entries obj msg fdbIsGroup_allGroups e).mp he).1,
          senderAt_allGroups obj msg sender hin]
    simp only [CFdbBaseObject.broadcastMsg, hin, Bool.false_eq_true, if_false, broadcast_copies,
      broadcast_objectId, List.nil_append, hall, List.map_append]
    rfl

/-- **Who is reached**: a message without no-reflect goes to every pair that has a matching
subscription, and to no other. -/
theorem mem_copies_broadcastMsg {msg : EventMessage} (hreflect : msg.isNoReflect = false)
    (s : SessionPtr) (o : FdbObjectId) :
    (s, o) ∈ (obj.broadcastMsg sid msg sender).copies
      ↔ ∃ code ∈ matchingCodes msg, ∃ topic ∈ matchingTopics msg,
          (obj.lookup code s o topic).isSome := by
  have hall : delivered obj sid msg sender = matchingEntries obj msg := by
    unfold delivered
    rw [List.filter_eq_self]
    simp [Entry.sends, suppressed, hreflect]
  rw [copies_broadcastMsg, hall, List.mem_map]
  constructor
  · rintro ⟨e, he, hpair⟩
    obtain ⟨hcode, htopic, hlookup⟩ := (mem_matchingEntries obj msg e).mp he
    obtain ⟨rfl, rfl⟩ := Prod.mk.inj hpair
    exact ⟨e.code, hcode, e.topic, htopic, Option.isSome_iff_exists.mpr ⟨_, hlookup⟩⟩
  · rintro ⟨code, hcode, topic, htopic, hsome⟩
    obtain ⟨item, hitem⟩ := Option.isSome_iff_exists.mp hsome
    exact ⟨⟨code, s, o, topic, item⟩,
      (mem_matchingEntries obj msg _).mpr ⟨hcode, htopic, hitem⟩, rfl⟩

end Object

/-! ## §3. An entry on its own. -/

/-- The tables that hold this entry and no other. -/
def Entry.only (e : Entry) : CFdbBaseObject :=
  CFdbBaseObject.empty.subscribe e.session e.code e.obj (some e.topic) e.item.mFlag

theorem handleFor_only_ne (e : Entry) {code : FdbMsgCode} (hne : e.code ≠ code) :
    (e.only.handleFor code)[code]? = none := by
  unfold Entry.only CFdbBaseObject.subscribe
  rw [handleFor_onHandle]
  have hempty : (CFdbBaseObject.empty.handleFor code)[code]? = none := by
    unfold CFdbBaseObject.handleFor CFdbBaseObject.empty
    simp
  split
  · rw [get_subscribe_ne _ _ hne, hempty]
  · exact hempty

/-- With no other entry the sender is the same for every table. -/
theorem senderAt_only (msg : EventMessage) (e : Entry) (sender : FdbObjectId) :
    senderAt e.only msg sender e.code = sender := by
  cases hg : fdbIsGroup e.code with
  | false => exact senderAt_event e.only msg sender hg
  | true =>
    have hevent : senderAtGroup e.only msg sender = sender := by
      unfold senderAtGroup
      rw [lastObject_of_none, Option.getD_none]
      cases hm : fdbIsGroup msg.code with
      | true => exact e.only.events_only _ hm
      | false =>
        have hne : e.code ≠ msg.code := by
          intro heq
          rw [heq, hm] at hg
          cases hg
        have := handleFor_only_ne e hne
        unfold CFdbBaseObject.handleFor at this
        rwa [hm] at this
    by_cases hgroup : e.code = fdbMakeGroup msg.code
    · rw [hgroup, senderAt_group, hevent]
    · -- the code is all groups, and the group's table is empty
      have hall : senderAt e.only msg sender e.code = senderAtAllGroups e.only msg sender := by
        unfold senderAt senderOf
        rw [if_neg (by simp [hg]), if_neg hgroup]
      have hnone := handleFor_only_ne e hgroup
      unfold CFdbBaseObject.handleFor at hnone
      rw [if_pos (fdbIsGroup_makeGroup msg.code)] at hnone
      rw [hall]
      unfold senderAtAllGroups
      rw [lastObject_of_none hnone, Option.getD_none, hevent]

/-! ## §4. `doPublish`. -/

/-- A published message: what the cache reads of it, and the id of the object that
published it. -/
structure PublishMessage extends CacheMessage where
  objectId : FdbObjectId

/-- What `doPublish` does: the object afterwards, the broadcast of the forwarded event, if there
is one, and whether the event is handed to `doSetEvent`. -/
structure Publication where
  object : EventObject
  forwarded : Option Broadcasting
  setEvent : Bool

/-- The message that is forwarded. -/
def PublishMessage.outMsg (msg : PublishMessage) : EventMessage :=
  ⟨msg.code, msg.topic, msg.session, true⟩

/-- `doPublish(msg_ref)` of an object with the id `objId`. -/
def EventObject.doPublish (o : EventObject) (sid : SessionPtr → Int) (objId : FdbObjectId)
    (msg : PublishMessage) : Publication :=
  let r := o.updateEventCache msg.toCacheMessage
  if r.2 = 1 then
    let published := r.1.tables.broadcastMsg sid msg.outMsg objId
    ⟨r.1, some published, !published.sent⟩
  else ⟨r.1, none, r.2 ≠ 0⟩

section Publish

variable (obj : CFdbBaseObject) (sid : SessionPtr → Int) (msg : EventMessage)
  (objId publisher : FdbObjectId)

/-- The entry belongs to the publisher and asks for no-reflect. -/
def Entry.OfPublisher (e : Entry) : Prop :=
  sid e.session = msg.session ∧ e.obj = publisher ∧ e.item.noReflect = true

instance (e : Entry) : Decidable (e.OfPublisher sid msg publisher) :=
  inferInstanceAs (Decidable (_ ∧ _))

/-- The publisher is sent nothing for its own no-reflect entries, and every other matching entry
is sent the event exactly when it is sent it with no other entry in the tables. -/
def HearsOthersOnly : Prop :=
  ∀ e ∈ matchingEntries obj msg,
    if e.OfPublisher sid msg publisher then e ∉ delivered obj sid msg objId
    else (e ∈ delivered obj sid msg objId ↔ e ∈ delivered e.only sid msg objId)

/-- A no-reflect entry on the publisher's session meets its own id as the sender's exactly if it
belongs to the publisher or has the id of the forwarding object. -/
def SenderKept : Prop :=
  ∀ e ∈ matchingEntries obj msg, sid e.session = msg.session → e.item.noReflect = true →
    (senderAt obj msg objId e.code = e.obj ↔ e.obj = publisher ∨ e.obj = objId)

instance : Decidable (HearsOthersOnly obj sid msg objId publisher) :=
  inferInstanceAs (Decidable (∀ e ∈ matchingEntries obj msg, _))

instance : Decidable (SenderKept obj sid msg objId publisher) :=
  inferInstanceAs (Decidable (∀ e ∈ matchingEntries obj msg, _))

theorem sends_iff (hmsg : msg.isNoReflect = true) (sender : FdbObjectId) (e : Entry) :
    e.sends sid msg sender = true
      ↔ ¬ (sid e.session = msg.session ∧ e.item.noReflect = true ∧ sender = e.obj) := by
  unfold Entry.sends suppressed
  simp only [hmsg, Bool.true_and, Bool.not_eq_true', Bool.and_eq_false_iff, beq_eq_false_iff_ne]
  by_cases hs : sid e.session = msg.session
  · cases hf : e.item.noReflect with
    | false => simp
    | true => simp [hs]
  · simp [hs, Ne.symm hs]

/-- A matching entry is sent the event unless it asks for no-reflect on the publisher's session
and has the sender's id. -/
theorem mem_delivered_iff (hmsg : msg.isNoReflect = true) {e : Entry}
    (h : e ∈ matchingEntries obj msg) :
    e ∈ delivered obj sid msg objId
      ↔ ¬ (sid e.session = msg.session ∧ e.item.noReflect = true
        ∧ senderAt obj msg objId e.code = e.obj) := by
  unfold delivered
  rw [List.mem_filter, sends_iff sid msg hmsg]
  exact and_iff_right h

theorem hearsOthersOnly_iff (hmsg : msg.isNoReflect = true) :
    HearsOthersOnly obj sid msg objId publisher ↔ SenderKept obj sid msg objId publisher := by
  refine forall_congr' fun e => forall_congr' fun he => ?_
  have hiff := mem_delivered_iff obj sid msg objId hmsg he
  -- alone in its table the entry matches as well
  obtain ⟨hcode, htopic, -⟩ := (mem_matchingEntries obj msg e).mp he
  have hlookup : e.only.lookup e.code e.session e.obj e.topic = some e.item := by
    unfold Entry.only
    rw [CFdbBaseObject.lookup_subscribe, if_pos ⟨rfl, rfl, rfl, rfl⟩]
  have honly := mem_delivered_iff e.only sid msg objId hmsg
    ((mem_matchingEntries e.only msg e).mpr ⟨hcode, htopic, hlookup⟩)
  rw [senderAt_only] at honly
  by_cases hsid : sid e.session = msg.session
  · by_cases hflag : e.item.noReflect = true
    · simp only [hsid, hflag, true_and, forall_const] at hiff honly ⊢
      by_cases hown : e.obj = publisher
      · -- the publisher's own entry must be held back
        rw [if_pos ⟨hsid, hown, hflag⟩, hiff, not_not]
        simp only [hown, true_or, iff_true]
      · rw [if_neg fun h : e.OfPublisher sid msg publisher => hown h.2.1, hiff, honly, not_iff_not]
        simp only [hown, false_or, eq_comm]
    · rw [if_neg fun h : e.OfPublisher sid msg publisher => hflag h.2.2]
      simp only [hflag, Bool.false_eq_true, false_and, and_false, not_false_iff, iff_true]
        at hiff honly
      simp only [hiff, honly, hflag, Bool.false_eq_true, IsEmpty.forall_iff, implies_true]
  · rw [if_neg fun h : e.OfPublisher sid msg publisher => hsid h.1]
    simp only [hsid, false_and, not_false_iff, iff_true] at hiff honly
    simp only [hiff, honly, hsid, IsEmpty.forall_iff]

end Publish

/-- **Publishing with no-reflect.**  A forwarded event is sent to the entries that `delivered`
lists.  The publisher does not hear itself and nobody else is affected if and only if every
no-reflect entry on its session is compared with a sender's id that is its own just in case the
entry is the publisher's or has the forwarding object's id. -/
theorem doPublish_noReflect_iff (o : EventObject) (sid : SessionPtr → Int) (objId : FdbObjectId)
    (msg : PublishMessage) (hforward : (o.updateEventCache msg.toCacheMessage).2 = 1) :
    ∃ b, (o.doPublish sid objId msg).forwarded = some b
      ∧ b.copies = (delivered o.tables sid msg.outMsg objId).map Entry.pair
      ∧ (HearsOthersOnly o.tables sid msg.outMsg objId msg.objectId
          ↔ SenderKept o.tables sid msg.outMsg objId msg.objectId) := by
  have htables : (o.updateEventCache msg.toCacheMessage).1.tables = o.tables := by
    unfold EventObject.updateEventCache
    split <;> rfl
  refine ⟨o.tables.broadcastMsg sid msg.outMsg objId, ?_, copies_broadcastMsg _ _ _ _,
    hearsOthersOnly_iff _ _ _ _ _ rfl⟩
  unfold EventObject.doPublish
  rw [if_pos hforward, htables]

/-- A server object without event cache and event route. -/
def forwarding (tables : CFdbBaseObject) : EventObject :=
  ⟨tables, ∅, false, false, .server⟩

/-- The first object of class 1 on session 1 publishes event 7. -/
def publishing : PublishMessage where
  code := 7#32
  topic := []
  session := 1
  isNoReflect := false
  type := .mtPublish
  payload := []
  forceUpdate := false
  objectId := 0x10001#32

/-- The publisher has subscribed event 7 with no-reflect, session 2 as well. -/
def singleEvent : CFdbBaseObject :=
  (CFdbBaseObject.empty.subscribe 1 7#32 0x10001#32 none 1#32).subscribe 2 7#32 0x10001#32 none 1#32

/-- Only session 2 is sent the event. -/
theorem doPublish_noReflect_single :
    HearsOthersOnly singleEvent Int.ofNat publishing.outMsg 0x10001#32 0x10001#32 := by
  obtain ⟨b, -, -, hiff⟩ := doPublish_noReflect_iff (forwarding singleEvent) Int.ofNat 0x10001#32
    publishing (by decide)
  exact hiff.mpr (by decide +kernel)

/-- The publisher has subscribed the group of event 7 with no-reflect.  A second object on its
session has subscribed both the event and the group, the group with no-reflect. -/
def eventAndGroup : CFdbBaseObject :=
  ((CFdbBaseObject.empty.subscribe 1 7#32 0x20001#32 none 0#32).subscribe
    1 0x00ffffff#32 0x10001#32 none 1#32).subscribe 1 0x00ffffff#32 0x20001#32 none 1#32

/-- The publisher hears itself, and the second object does not get the copy for its group that
it would get without its other entry. -/
theorem publisher_hears_itself :
    ((forwarding eventAndGroup).doPublish Int.ofNat 0x10001#32 publishing).forwarded.map (·.copies)
        = some [(1, 0x20001#32), (1, 0x10001#32)]
      ∧ ¬ HearsOthersOnly eventAndGroup Int.ofNat publishing.outMsg 0x10001#32 0x10001#32 := by
  decide +kernel

end Fdbus.Subscribe

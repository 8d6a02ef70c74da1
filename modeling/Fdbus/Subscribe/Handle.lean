/-
  Fdbus.Subscribe.Handle — `CEventSubscribeHandle` and the tables of an object.

  A handle keeps who subscribed what in four nested maps: event code, session, object id,
  topic.  A level that becomes empty is erased from the level above.  An object has two
  handles, one for single events and one for groups of events.

  `lookup` is the flat view of a handle; every operation is specified by it
  (`lookup_subscribe`, `lookup_unsubscribe`, `lookup_unsubscribeSession`,
  `lookup_unsubscribeObject`), and nothing above this module looks into the nested maps to
  say who is subscribed.
-/
import Fdbus.Common.Defs
import Fdbus.Library.OrderedMap

namespace Fdbus.Subscribe

open Fdbus.OrderedMap Std.ExtTreeMap

/-! ## §1. The tables. -/

/-- A topic; the empty one stands for any topic. -/
abbrev Topic := List UInt8

/-- A `CFdbSession *`, the key of a session in the tables. -/
abbrev SessionPtr := Nat

/-- `CSubscribeItem`. -/
structure CSubscribeItem where
  mFlag : BitVec 32
  deriving DecidableEq

/-- The order of codes and object ids: that of their unsigned values. -/
instance instTransOrdFdbMsgCode : Std.TransOrd FdbMsgCode := inferInstance

/-- `SubItemTable_t`. -/
abbrev SubItemTable := Map Topic CSubscribeItem

/-- `ObjectTable_t`. -/
abbrev ObjectTable := Map FdbObjectId SubItemTable

/-- `SessionTable_t`. -/
abbrev SessionTable := Map SessionPtr ObjectTable

/-- `SubscribeTable_t`.  The source orders codes as signed numbers, this map as unsigned ones.
The functions of this module look codes up; a function that walks them (`subscribedTopics`) lists
the same entries in another order if a code has its top bit set, and the results about it are
about what is listed. -/
abbrev SubscribeTable := Map FdbMsgCode SessionTable

/-! ## §2. The operations of a handle. -/

/-- `subscribe(session, msg, obj_id, topic, flag)`; a null topic is the empty one. -/
def SubscribeTable.subscribe (t : SubscribeTable) (session : SessionPtr) (msg : FdbMsgCode)
    (obj : FdbObjectId) (topic : Option Topic) (flag : BitVec 32) : SubscribeTable :=
  upsert t msg ∅ fun sessions =>
    upsert sessions session ∅ fun objects =>
      upsert objects obj ∅ fun items =>
        items.insert (topic.getD []) ⟨flag⟩

/-- What `unsubscribe` leaves of the items of an object: with a topic the others, without
one nothing. -/
def removeTopic (topic : Option Topic) (items : SubItemTable) : SubItemTable :=
  match topic with
  | some topic => items.erase topic
  | none => ∅

/-- `unsubscribe(session, msg, obj_id, topic)`. -/
def SubscribeTable.unsubscribe (t : SubscribeTable) (session : SessionPtr) (msg : FdbMsgCode)
    (obj : FdbObjectId) (topic : Option Topic) : SubscribeTable :=
  pruneAt (·.isEmpty) t msg fun sessions =>
    pruneAt (·.isEmpty) sessions session fun objects =>
      pruneAt (·.isEmpty) objects obj (removeTopic topic)

/-- `unsubscribe(session)`. -/
def SubscribeTable.unsubscribeSession (t : SubscribeTable) (session : SessionPtr) :
    SubscribeTable :=
  pruneAll (·.isEmpty) t fun sessions => sessions.erase session

/-- `unsubscribe(obj_id)`: the object is erased below every session. -/
def SubscribeTable.unsubscribeObject (t : SubscribeTable) (obj : FdbObjectId) :
    SubscribeTable :=
  pruneAll (·.isEmpty) t fun sessions =>
    pruneAll (·.isEmpty) sessions fun objects => objects.erase obj

/-! ## §3. The flat view. -/

/-- The subscription of a pair for an event code and a topic. -/
def SubscribeTable.lookup (t : SubscribeTable) (msg : FdbMsgCode) (session : SessionPtr)
    (obj : FdbObjectId) (topic : Topic) : Option CSubscribeItem :=
  t[msg]?.bind fun sessions => sessions[session]?.bind fun objects =>
    objects[obj]?.bind fun items => items[topic]?

/-- Below an empty session table nothing is found. -/
theorem below_empty_sessions {β : Type} {g : ObjectTable → Option β} (s : SessionPtr)
    (v : SessionTable) (h : v.isEmpty = true) : v[s]?.bind g = none := by
  rw [get_of_isEmpty h]
  rfl

theorem below_empty_objects {β : Type} {g : SubItemTable → Option β} (o : FdbObjectId)
    (v : ObjectTable) (h : v.isEmpty = true) : v[o]?.bind g = none := by
  rw [get_of_isEmpty h]
  rfl

/-- The innermost two levels under `subscribe`. -/
theorem find_insertItem (objects : ObjectTable) (obj o : FdbObjectId) (topic tp : Topic)
    (item : CSubscribeItem) :
    ((upsert objects obj ∅ fun items => items.insert topic item)[o]?.bind fun items => items[tp]?)
      = if obj = o ∧ topic = tp then some item else objects[o]?.bind fun items => items[tp]? := by
  rw [bind_get_upsert]
  by_cases ho : obj = o
  · subst ho
    simp only [if_true, true_and, getElem?_insert,
      Std.LawfulEqCmp.compare_eq_iff_eq]
    split
    · rfl
    · cases objects[obj]? with
      | none => simp
      | some items => rfl
  · simp [ho]

/-- The innermost two levels under `unsubscribe`. -/
theorem find_removeItem (objects : ObjectTable) (obj o : FdbObjectId) (topic : Option Topic)
    (tp : Topic) :
    ((pruneAt (·.isEmpty) objects obj (removeTopic topic))[o]?.bind fun items => items[tp]?)
      = if obj = o ∧ (topic = none ∨ topic = some tp) then none
        else objects[o]?.bind fun items => items[tp]? := by
  rw [bind_get_pruneAt fun items h => get_of_isEmpty h tp]
  by_cases ho : obj = o
  · subst ho
    cases topic with
    | none => simp [removeTopic]
    | some topic =>
      simp only [if_true, true_and, removeTopic, getElem?_erase,
        Std.LawfulEqCmp.compare_eq_iff_eq, reduceCtorEq, Option.some.injEq, false_or]
      by_cases ht : topic = tp <;> simp [ht]
  · simp [ho]

variable (t : SubscribeTable) (obj : CFdbBaseObject) (session : SessionPtr) (msg : FdbMsgCode)
  (objId : FdbObjectId) (topic : Option Topic) (m : FdbMsgCode) (s : SessionPtr) (o : FdbObjectId)
  (tp : Topic)

/-- A subscription enters exactly its own key. -/
theorem lookup_subscribe (obj : FdbObjectId) (topic : Option Topic) (flag : BitVec 32)
    (m : FdbMsgCode) (s : SessionPtr) (o : FdbObjectId) (tp : Topic) :
    (t.subscribe session msg obj topic flag).lookup m s o tp
      = if msg = m ∧ session = s ∧ obj = o ∧ topic.getD [] = tp then some ⟨flag⟩
        else t.lookup m s o tp := by
  unfold SubscribeTable.subscribe SubscribeTable.lookup
  rw [bind_get_upsert]
  by_cases hm : msg = m
  · subst hm
    rw [if_pos rfl, bind_get_upsert, bind_get_getD]
    by_cases hs : session = s
    · subst hs
      rw [if_pos rfl, find_insertItem]
      -- a session without objects so far has nothing below it
      simp only [true_and, bind_get_getD]
    · simp [hs]
  · simp [hm]

/-- A single unsubscription removes exactly the topic of its own pair, or all of them. -/
theorem lookup_unsubscribe (obj : FdbObjectId) (topic : Option Topic)
    (m : FdbMsgCode) (s : SessionPtr) (o : FdbObjectId) (tp : Topic) :
    (t.unsubscribe session msg obj topic).lookup m s o tp
      = if msg = m ∧ session = s ∧ obj = o ∧ (topic = none ∨ topic = some tp) then none
        else t.lookup m s o tp := by
  unfold SubscribeTable.unsubscribe SubscribeTable.lookup
  rw [bind_get_pruneAt (below_empty_sessions s)]
  by_cases hm : msg = m
  · subst hm
    simp only [if_true, true_and, bind_get_pruneAt (below_empty_objects o)]
    by_cases hs : session = s
    · subst hs
      simp only [if_true, true_and, find_removeItem]
      split <;> simp
    · simp [hs]
  · simp [hm]

/-- Unsubscribing a session removes its subscriptions and no others. -/
theorem lookup_unsubscribeSession :
    (t.unsubscribeSession session).lookup m s o tp
      = if session = s then none else t.lookup m s o tp := by
  unfold SubscribeTable.unsubscribeSession SubscribeTable.lookup
  rw [bind_get_pruneAll (below_empty_sessions s)]
  simp only [getElem?_erase, Std.LawfulEqCmp.compare_eq_iff_eq]
  by_cases hs : session = s <;> simp [hs]

/-- Unsubscribing an object removes its subscriptions below every session. -/
theorem lookup_unsubscribeObject (obj : FdbObjectId)
    (m : FdbMsgCode) (s : SessionPtr) (o : FdbObjectId) (tp : Topic) :
    (t.unsubscribeObject obj).lookup m s o tp
      = if obj = o then none else t.lookup m s o tp := by
  unfold SubscribeTable.unsubscribeObject SubscribeTable.lookup
  rw [bind_get_pruneAll (below_empty_sessions s)]
  simp only [bind_get_pruneAll (below_empty_objects o), getElem?_erase,
    Std.LawfulEqCmp.compare_eq_iff_eq]
  by_cases ho : obj = o <;> simp [ho]

/-! ## §4. The two handles of an object. -/

/-- The subscribe tables of a `CFdbBaseObject`: single events in one handle, groups in the
other. -/
structure CFdbBaseObject where
  mEventSubscribeHandle : SubscribeTable
  mGroupSubscribeHandle : SubscribeTable
  events_only : ∀ m, fdbIsGroup m = true → mEventSubscribeHandle[m]? = none
  groups_only : ∀ m, fdbIsGroup m = false → mGroupSubscribeHandle[m]? = none

/-- An object nobody has subscribed to. -/
def CFdbBaseObject.empty : CFdbBaseObject := ⟨∅, ∅, by simp, by simp⟩

/-- Apply an operation to the handle that is responsible for `msg`; it touches no other
code. -/
def CFdbBaseObject.onHandle (obj : CFdbBaseObject) (msg : FdbMsgCode)
    (op : SubscribeTable → SubscribeTable)
    (hop : ∀ (t : SubscribeTable) m, msg ≠ m → (op t)[m]? = t[m]?) : CFdbBaseObject :=
  if h : fdbIsGroup msg = true then
    { obj with
      mGroupSubscribeHandle := op obj.mGroupSubscribeHandle
      groups_only := by
        intro m hm
        have hne : msg ≠ m := by
          rintro rfl
          simp [h] at hm
        rw [hop _ m hne, obj.groups_only m hm] }
  else
    { obj with
      mEventSubscribeHandle := op obj.mEventSubscribeHandle
      events_only := by
        intro m hm
        have hne : msg ≠ m := by
          rintro rfl
          exact h hm
        rw [hop _ m hne, obj.events_only m hm] }

theorem get_subscribe_ne {session : SessionPtr} {msg : FdbMsgCode} {obj : FdbObjectId}
    {topic : Option Topic} {flag : BitVec 32} (t : SubscribeTable) (m : FdbMsgCode)
    (h : msg ≠ m) : (t.subscribe session msg obj topic flag)[m]? = t[m]? := by
  unfold SubscribeTable.subscribe
  rw [get_upsert, if_neg h]

theorem get_unsubscribe_ne {session : SessionPtr} {msg : FdbMsgCode} {obj : FdbObjectId}
    {topic : Option Topic} (t : SubscribeTable) (m : FdbMsgCode) (h : msg ≠ m) :
    (t.unsubscribe session msg obj topic)[m]? = t[m]? := by
  unfold SubscribeTable.unsubscribe
  rw [get_pruneAt, if_neg h]

theorem get_unsubscribeObject_none {t : SubscribeTable} {m : FdbMsgCode} (h : t[m]? = none)
    (obj : FdbObjectId) : (t.unsubscribeObject obj)[m]? = none := by
  unfold SubscribeTable.unsubscribeObject
  rw [get_pruneAll, h]
  rfl

theorem get_unsubscribeSession_none {t : SubscribeTable} {m : FdbMsgCode} (h : t[m]? = none)
    (session : SessionPtr) : (t.unsubscribeSession session)[m]? = none := by
  unfold SubscribeTable.unsubscribeSession
  rw [get_pruneAll, h]
  rfl

/-- `subscribe(session, msg, obj_id, topic, flag)`. -/
def CFdbBaseObject.subscribe (obj : CFdbBaseObject) (session : SessionPtr) (msg : FdbMsgCode)
    (objId : FdbObjectId) (topic : Option Topic) (flag : BitVec 32) : CFdbBaseObject :=
  obj.onHandle msg (·.subscribe session msg objId topic flag) get_subscribe_ne

/-- `unsubscribe(session, msg, obj_id, topic)`. -/
def CFdbBaseObject.unsubscribe (obj : CFdbBaseObject) (session : SessionPtr) (msg : FdbMsgCode)
    (objId : FdbObjectId) (topic : Option Topic) : CFdbBaseObject :=
  obj.onHandle msg (·.unsubscribe session msg objId topic) get_unsubscribe_ne

/-- `unsubscribe(obj_id)`. -/
def CFdbBaseObject.unsubscribeObject (obj : CFdbBaseObject) (objId : FdbObjectId) :
    CFdbBaseObject where
  mEventSubscribeHandle := obj.mEventSubscribeHandle.unsubscribeObject objId
  mGroupSubscribeHandle := obj.mGroupSubscribeHandle.unsubscribeObject objId
  events_only m hm := get_unsubscribeObject_none (obj.events_only m hm) objId
  groups_only m hm := get_unsubscribeObject_none (obj.groups_only m hm) objId

/-- `unsubscribe(session)`. -/
def CFdbBaseObject.unsubscribeSession (obj : CFdbBaseObject) (session : SessionPtr) :
    CFdbBaseObject where
  mEventSubscribeHandle := obj.mEventSubscribeHandle.unsubscribeSession session
  mGroupSubscribeHandle := obj.mGroupSubscribeHandle.unsubscribeSession session
  events_only m hm := get_unsubscribeSession_none (obj.events_only m hm) session
  groups_only m hm := get_unsubscribeSession_none (obj.groups_only m hm) session

/-- The handle that is responsible for a code. -/
def CFdbBaseObject.handleFor (obj : CFdbBaseObject) (msg : FdbMsgCode) : SubscribeTable :=
  if fdbIsGroup msg then obj.mGroupSubscribeHandle else obj.mEventSubscribeHandle

/-- The subscription of a pair (session, object id) for a code and a topic. -/
def CFdbBaseObject.lookup (obj : CFdbBaseObject) (msg : FdbMsgCode) (session : SessionPtr)
    (objId : FdbObjectId) (topic : Topic) : Option CSubscribeItem :=
  (obj.handleFor msg).lookup msg session objId topic

open CFdbBaseObject

theorem handleFor_onHandle (op : SubscribeTable → SubscribeTable)
    (hop : ∀ (t : SubscribeTable) m, msg ≠ m → (op t)[m]? = t[m]?) :
    (obj.onHandle msg op hop).handleFor m
      = if fdbIsGroup msg = fdbIsGroup m then op (obj.handleFor m) else obj.handleFor m := by
  unfold onHandle handleFor
  by_cases hmsg : fdbIsGroup msg = true
  · rw [dif_pos hmsg, hmsg]
    cases fdbIsGroup m <;> rfl
  · rw [dif_neg hmsg, Bool.eq_false_iff.mpr hmsg]
    cases fdbIsGroup m <;> rfl

theorem CFdbBaseObject.lookup_empty : empty.lookup m s o tp = none := by
  unfold lookup handleFor empty
    SubscribeTable.lookup
  simp

/-- A subscription enters exactly its own key. -/
theorem CFdbBaseObject.lookup_subscribe (flag : BitVec 32)
    (m : FdbMsgCode) (s : SessionPtr) (o : FdbObjectId) (tp : Topic) :
    (obj.subscribe session msg objId topic flag).lookup m s o tp
      = if msg = m ∧ session = s ∧ objId = o ∧ topic.getD [] = tp then some ⟨flag⟩
        else obj.lookup m s o tp := by
  unfold subscribe lookup
  rw [handleFor_onHandle]
  split
  · rw [Subscribe.lookup_subscribe]
  · next hne =>
      have hm : msg ≠ m := fun h => hne (by rw [h])
      simp [hm]

/-- A single unsubscription removes exactly the topic of its own pair, or all of them. -/
theorem CFdbBaseObject.lookup_unsubscribe :
    (obj.unsubscribe session msg objId topic).lookup m s o tp
      = if msg = m ∧ session = s ∧ objId = o ∧ (topic = none ∨ topic = some tp) then none
        else obj.lookup m s o tp := by
  unfold unsubscribe lookup
  rw [handleFor_onHandle]
  split
  · rw [Subscribe.lookup_unsubscribe]
  · next hne =>
      have hm : msg ≠ m := fun h => hne (by rw [h])
      simp [hm]

/-- Unsubscribing a session removes its subscriptions and no others. -/
theorem CFdbBaseObject.lookup_unsubscribeSession :
    (obj.unsubscribeSession session).lookup m s o tp
      = if session = s then none else obj.lookup m s o tp := by
  unfold unsubscribeSession lookup handleFor
  cases fdbIsGroup m with
  | false | true => exact Subscribe.lookup_unsubscribeSession _ session m s o tp

/-- Unsubscribing an object removes its subscriptions below every session. -/
theorem CFdbBaseObject.lookup_unsubscribeObject :
    (obj.unsubscribeObject objId).lookup m s o tp
      = if objId = o then none else obj.lookup m s o tp := by
  unfold unsubscribeObject lookup handleFor
  cases fdbIsGroup m with
  | false | true => exact Subscribe.lookup_unsubscribeObject _ objId m s o tp

end Fdbus.Subscribe

/-
  Fdbus.Subscribe.ToSession — `broadcast(msg, session)`, exactly.

  An event for one session goes to the objects of the message's class that hold its topic or
  any topic, in the first of the three tables in which there is such an object.

    * `hearers` lists these objects; `broadcastTo_copies` says that they are sent one copy each,
    * `hearers_ne_nil_iff`, `mem_hearers_of_only` — who hears it, as a condition on the
      subscriptions of the session.
-/
import Fdbus.Subscribe.Broadcast

namespace Fdbus.Subscribe

open Fdbus.OrderedMap List

/-! ## §1. One table. -/

/-- The object holds the topic of the message, or any topic. -/
def holdsTopic (msg : EventMessage) (items : SubItemTable) : Bool :=
  items[msg.topic]?.isSome || items[([] : Topic)]?.isSome

/-- The objects of a class that a session subscribed a code with and that hold the topic, in the
order they are walked. -/
def SubscribeTable.hearers (t : SubscribeTable) (msg : EventMessage) (session : SessionPtr)
    (cls : BitVec 32) (code : FdbMsgCode) : List FdbObjectId :=
  match t[code]?.bind fun sessions => sessions[session]? with
  | some objects =>
    (objects.toList.filter fun e => fdbObjectGetClass e.1 = cls ∧ holdsTopic msg e.2).map (·.1)
  | none => []

theorem holdsTopic_iff (msg : EventMessage) (items : SubItemTable) :
    holdsTopic msg items = true ↔ ∃ topic ∈ matchingTopics msg, items[topic]?.isSome = true := by
  unfold holdsTopic
  simp only [mem_matchingTopics, Bool.or_eq_true]
  constructor
  · rintro (h | h)
    · exact ⟨msg.topic, .inr rfl, h⟩
    · exact ⟨[], .inl rfl, h⟩
  · rintro ⟨topic, rfl | rfl, h⟩
    · exact .inr h
    · exact .inl h

open SubscribeTable

theorem SubscribeTable.mem_hearers (t : SubscribeTable) (msg : EventMessage)
    (session : SessionPtr) (cls : BitVec 32) (code : FdbMsgCode) (o : FdbObjectId) :
    o ∈ t.hearers msg session cls code
      ↔ fdbObjectGetClass o = cls
        ∧ ∃ topic ∈ matchingTopics msg, (t.lookup code session o topic).isSome = true := by
  unfold hearers lookup
  have hpath : ∀ topic : Topic, (t[code]?.bind fun sessions => sessions[session]?.bind fun objects =>
      objects[o]?.bind fun items => items[topic]?)
        = (t[code]?.bind fun sessions => sessions[session]?).bind fun objects =>
          objects[o]?.bind fun items => items[topic]? := fun _ => (Option.bind_assoc ..).symm
  simp only [hpath]
  cases t[code]?.bind fun sessions => sessions[session]? with
  | none => simp
  | some objects =>
    simp only [Option.bind_some, mem_map, mem_filter, decide_eq_true_eq]
    constructor
    · rintro ⟨e, ⟨he, hclass, hholds⟩, rfl⟩
      obtain ⟨topic, htopic, hitem⟩ := (holdsTopic_iff msg e.2).mp hholds
      refine ⟨hclass, topic, htopic, ?_⟩
      rw [Std.ExtTreeMap.mem_toList_iff_getElem?_eq_some.mp he]
      exact hitem
    · rintro ⟨hclass, topic, htopic, hitem⟩
      cases hitems : objects[o]? with
      | none => simp [hitems] at hitem
      | some items =>
        rw [hitems] at hitem
        exact ⟨(o, items), ⟨Std.ExtTreeMap.mem_toList_iff_getElem?_eq_some.mpr hitems, hclass,
          (holdsTopic_iff msg items).mpr ⟨topic, htopic, hitem⟩⟩, rfl⟩

section Copies

variable (sid : SessionPtr → Int) {msg : EventMessage} (hreflect : msg.isNoReflect = false)
include hreflect

variable (sender : FdbObjectId) (session : SessionPtr)

theorem broadcastTopic_reflect (items : SubItemTable) (topic : Topic) (st : Broadcasting) :
    broadcastTopic sid msg sender session items topic st
      = if items[topic]?.isSome
        then { st with copies := st.copies ++ [(session, st.objectId)], sent := true } else st := by
  unfold broadcastTopic suppressed
  cases items[topic]? with
  | none => rfl
  | some item => simp [hreflect]

/-- One object: it is sent a copy if it is of the class and holds the topic. -/
theorem broadcastObjectTo_reflect (st : Broadcasting) (obj : FdbObjectId) (items : SubItemTable) :
    broadcastObjectTo sid msg sender session st obj items
      = if fdbObjectGetClass obj = fdbObjectGetClass st.objectId then
          if holdsTopic msg items then ⟨obj, st.copies ++ [(session, obj)], true⟩
          else { st with objectId := obj }
        else st := by
  unfold broadcastObjectTo holdsTopic
  by_cases hclass : fdbObjectGetClass obj = fdbObjectGetClass st.objectId
  · rw [if_neg (not_not.mpr hclass), if_pos hclass, broadcastTopic_reflect sid hreflect]
    by_cases hown : items[msg.topic]?.isSome = true
    · simp [hown]
    · simp [hown]
  · rw [if_pos hclass, if_neg hclass]

/-- The objects of a session, by induction over the list that is walked: the class of the
message's object id stays what it was. -/
theorem foldl_broadcastObjectTo {cls : BitVec 32}
    (l : List (FdbObjectId × SubItemTable)) (st : Broadcasting)
    (hcls : fdbObjectGetClass st.objectId = cls) :
    ∃ o, fdbObjectGetClass o = cls
      ∧ l.foldl (fun st e => broadcastObjectTo sid msg sender session st e.1 e.2) st
        = ⟨o, st.copies ++ ((l.filter fun e => fdbObjectGetClass e.1 = cls ∧ holdsTopic msg e.2).map
              fun e => (session, e.1)),
            st.sent || !(l.filter fun e => fdbObjectGetClass e.1 = cls ∧ holdsTopic msg e.2).isEmpty⟩
    := by
  induction l generalizing st with
  | nil => exact ⟨st.objectId, hcls, by simp⟩
  | cons e l ih =>
    rw [foldl_cons, broadcastObjectTo_reflect sid hreflect, hcls]
    by_cases hclass : fdbObjectGetClass e.1 = cls
    · rw [if_pos hclass]
      by_cases hholds : holdsTopic msg e.2 = true
      · obtain ⟨o, ho, heq⟩ := ih ⟨e.1, st.copies ++ [(session, e.1)], true⟩ hclass
        refine ⟨o, ho, ?_⟩
        rw [if_pos hholds, heq]
        simp [hclass, hholds]
      · obtain ⟨o, ho, heq⟩ := ih { st with objectId := e.1 } hclass
        refine ⟨o, ho, ?_⟩
        rw [if_neg hholds, heq]
        simp [hclass, hholds]
    · obtain ⟨o, ho, heq⟩ := ih st hcls
      refine ⟨o, ho, ?_⟩
      rw [if_neg hclass, heq]
      simp [hclass]

/-- **One table.** -/
theorem SubscribeTable.broadcastTo_eq (t : SubscribeTable) (session : SessionPtr)
    (code : FdbMsgCode) {cls : BitVec 32} (st : Broadcasting)
    (hcls : fdbObjectGetClass st.objectId = cls) :
    ∃ o, fdbObjectGetClass o = cls
      ∧ t.broadcastTo sid msg session code st
        = ⟨o, st.copies ++ (t.hearers msg session cls code).map fun o => (session, o),
            st.sent || !(t.hearers msg session cls code).isEmpty⟩ := by
  unfold broadcastTo hearers
  cases t[code]?.bind fun sessions => sessions[session]? with
  | none => exact ⟨st.objectId, hcls, by simp⟩
  | some objects =>
    obtain ⟨o, ho, heq⟩ := foldl_broadcastObjectTo sid hreflect st.objectId session objects.toList
      st hcls
    refine ⟨o, ho, ?_⟩
    show objects.foldl _ st = _
    rw [Std.ExtTreeMap.foldl_eq_foldl_toList, heq, map_map, isEmpty_map]
    rfl

end Copies

/-! ## §2. The three tables. -/

section Object

variable (obj : CFdbBaseObject) (msg : EventMessage) (session : SessionPtr) (cls : BitVec 32)

/-- The objects that hear an event by their subscriptions of one code. -/
def CFdbBaseObject.hearersAt (code : FdbMsgCode) : List FdbObjectId :=
  (obj.handleFor code).hearers msg session cls code

/-- The objects that hear an event: those of the first code that has any. -/
def CFdbBaseObject.hearers : List FdbObjectId :=
  (((matchingCodes msg).map (obj.hearersAt msg session cls)).find? fun l => !l.isEmpty).getD []

theorem mem_hearersAt (code : FdbMsgCode) (o : FdbObjectId) :
    o ∈ obj.hearersAt msg session cls code
      ↔ fdbObjectGetClass o = cls
        ∧ ∃ topic ∈ matchingTopics msg, (obj.lookup code session o topic).isSome = true :=
  mem_hearers _ msg session cls code o

/-- Who hears the event holds a subscription that matches it. -/
theorem mem_hearers {o : FdbObjectId} (h : o ∈ obj.hearers msg session cls) :
    fdbObjectGetClass o = cls ∧ ∃ code ∈ matchingCodes msg, ∃ topic ∈ matchingTopics msg,
      (obj.lookup code session o topic).isSome = true := by
  unfold CFdbBaseObject.hearers at h
  cases hfind : ((matchingCodes msg).map (obj.hearersAt msg session cls)).find?
      fun l => !l.isEmpty with
  | none => simp [hfind] at h
  | some l =>
    rw [hfind] at h
    obtain ⟨code, hcode, rfl⟩ := mem_map.mp (mem_of_find?_eq_some hfind)
    obtain ⟨hclass, hsub⟩ := (mem_hearersAt obj msg session cls code o).mp h
    exact ⟨hclass, code, hcode, hsub⟩

/-- Somebody hears the event if an object of the class holds a subscription that matches it. -/
theorem hearers_ne_nil_iff :
    obj.hearers msg session cls ≠ []
      ↔ ∃ o, fdbObjectGetClass o = cls ∧ ∃ code ∈ matchingCodes msg, ∃ topic ∈ matchingTopics msg,
        (obj.lookup code session o topic).isSome = true := by
  constructor
  · intro h
    obtain ⟨o, ho⟩ := exists_mem_of_ne_nil _ h
    exact ⟨o, mem_hearers obj msg session cls ho⟩
  · rintro ⟨o, hclass, code, hcode, hsub⟩
    have ho : o ∈ obj.hearersAt msg session cls code :=
      (mem_hearersAt obj msg session cls code o).mpr ⟨hclass, hsub⟩
    unfold CFdbBaseObject.hearers
    cases hfind : ((matchingCodes msg).map (obj.hearersAt msg session cls)).find?
        fun l => !l.isEmpty with
    | none =>
      have hempty := find?_eq_none.mp hfind _ (mem_map_of_mem hcode)
      rw [Bool.not_eq_true, Bool.not_eq_false', List.isEmpty_iff] at hempty
      rw [hempty] at ho
      cases ho
    | some l =>
      have hne := find?_some hfind
      rw [Bool.not_eq_true', isEmpty_eq_false_iff] at hne
      exact hne

/-- On a session with a single object, that object hears exactly what matches one of its
subscriptions. -/
theorem mem_hearers_of_only {o : FdbObjectId}
    (honly : ∀ code o' topic, (obj.lookup code session o' topic).isSome = true → o' = o)
    (o' : FdbObjectId) :
    o' ∈ obj.hearers msg session cls
      ↔ o' = o ∧ fdbObjectGetClass o = cls ∧ ∃ code ∈ matchingCodes msg,
        ∃ topic ∈ matchingTopics msg, (obj.lookup code session o topic).isSome = true := by
  constructor
  · intro h
    obtain ⟨hclass, code, hcode, topic, htopic, hsub⟩ := mem_hearers obj msg session cls h
    obtain rfl := honly code o' topic hsub
    exact ⟨rfl, hclass, code, hcode, topic, htopic, hsub⟩
  · rintro ⟨rfl, hclass, code, hcode, topic, htopic, hsub⟩
    have hne := (hearers_ne_nil_iff obj msg session cls).mpr
      ⟨o', hclass, code, hcode, topic, htopic, hsub⟩
    -- some object hears it, and there is no other
    obtain ⟨o, ho⟩ := exists_mem_of_ne_nil _ hne
    obtain ⟨_, code', _, topic', _, hsub'⟩ := mem_hearers obj msg session cls ho
    rwa [honly code' o topic' hsub'] at ho

/-- The first code that is asked for is the event's own. -/
theorem matchingCodes_cons : ∃ codes, matchingCodes msg = msg.code :: codes := by
  rw [matchingCodes_eq]
  cases hg : fdbIsGroup msg.code with
  | false => exact ⟨_, rfl⟩
  | true =>
    have hself := fdbMakeGroup_of_isGroup hg
    cases hin : fdbEventInAllGroups msg.code with
    | false => exact ⟨[fdbAllGroupsEvent], by simp [hself]⟩
    | true =>
      have hall := (fdbEventInAllGroups_iff msg.code).mp hin
      rw [hself] at hall
      exact ⟨[], by simp [hall]⟩

/-- An object that subscribed the event by its own code hears it. -/
theorem mem_hearers_of_event {o : FdbObjectId} {topic : Topic} (htopic : topic ∈ matchingTopics msg)
    (h : (obj.lookup msg.code session o topic).isSome = true) :
    o ∈ obj.hearers msg session (fdbObjectGetClass o) := by
  have ho : o ∈ obj.hearersAt msg session (fdbObjectGetClass o) msg.code :=
    (mem_hearersAt obj msg session _ msg.code o).mpr ⟨rfl, topic, htopic, h⟩
  obtain ⟨codes, hcodes⟩ := matchingCodes_cons msg
  unfold CFdbBaseObject.hearers
  rw [hcodes, map_cons, find?_cons_of_pos (by simp [ne_nil_of_mem ho])]
  exact ho

/-- The table of single events has nothing for a group. -/
theorem hearers_eventHandle (h : fdbIsGroup msg.code = true) :
    obj.mEventSubscribeHandle.hearers msg session cls msg.code = [] := by
  unfold hearers
  rw [obj.events_only msg.code h]
  rfl

theorem hearersAt_group {code : FdbMsgCode} (h : fdbIsGroup code = true) :
    obj.hearersAt msg session cls code = obj.mGroupSubscribeHandle.hearers msg session cls code := by
  unfold CFdbBaseObject.hearersAt CFdbBaseObject.handleFor
  rw [if_pos h]

theorem hearersAt_event (h : fdbIsGroup msg.code = false) :
    obj.hearersAt msg session cls msg.code
      = obj.mEventSubscribeHandle.hearers msg session cls msg.code := by
  unfold CFdbBaseObject.hearersAt CFdbBaseObject.handleFor
  rw [h, if_neg Bool.false_ne_true]

/-- The hearers, table by table. -/
theorem hearers_eq :
    obj.hearers msg session cls
      = if obj.mEventSubscribeHandle.hearers msg session cls msg.code ≠ [] then
          obj.mEventSubscribeHandle.hearers msg session cls msg.code
        else if obj.mGroupSubscribeHandle.hearers msg session cls (fdbMakeGroup msg.code) ≠ [] then
          obj.mGroupSubscribeHandle.hearers msg session cls (fdbMakeGroup msg.code)
        else if fdbEventInAllGroups msg.code then []
        else obj.mGroupSubscribeHandle.hearers msg session cls fdbAllGroupsEvent := by
  unfold CFdbBaseObject.hearers
  rw [matchingCodes_eq, map_append, find?_append]
  have hgroup := hearersAt_group obj msg session cls (fdbIsGroup_makeGroup msg.code)
  have hall := hearersAt_group obj msg session cls fdbIsGroup_allGroups
  -- what the two group tables add
  have hgroups : (((if fdbEventInAllGroups msg.code = true then [fdbAllGroupsEvent]
        else [fdbMakeGroup msg.code, fdbAllGroupsEvent]).map
          (obj.hearersAt msg session cls)).find? fun l => !l.isEmpty).getD []
      = if obj.mGroupSubscribeHandle.hearers msg session cls (fdbMakeGroup msg.code) ≠ [] then
          obj.mGroupSubscribeHandle.hearers msg session cls (fdbMakeGroup msg.code)
        else if fdbEventInAllGroups msg.code then []
        else obj.mGroupSubscribeHandle.hearers msg session cls fdbAllGroupsEvent := by
    cases hin : fdbEventInAllGroups msg.code with
    | true =>
      rw [(fdbEventInAllGroups_iff msg.code).mp hin]
      simp only [if_true, map_cons, map_nil, hall]
      cases obj.mGroupSubscribeHandle.hearers msg session cls fdbAllGroupsEvent <;> rfl
    | false =>
      simp only [Bool.false_eq_true, if_false, map_cons, map_nil, hgroup, hall]
      cases obj.mGroupSubscribeHandle.hearers msg session cls (fdbMakeGroup msg.code) with
      | nil => cases obj.mGroupSubscribeHandle.hearers msg session cls fdbAllGroupsEvent <;> rfl
      | cons o l => rfl
  cases hg : fdbIsGroup msg.code with
  | true =>
    rw [hearers_eventHandle obj msg session cls hg]
    simpa using hgroups
  | false =>
    simp only [Bool.false_eq_true, if_false, map_cons, map_nil,
      hearersAt_event obj msg session cls hg]
    cases obj.mEventSubscribeHandle.hearers msg session cls msg.code with
    | nil => simpa using hgroups
    | cons o l => rfl

end Object

/-- **Who is sent an event for one session**: the hearers, one copy each. -/
theorem broadcastTo_copies (obj : CFdbBaseObject) (sid : SessionPtr → Int) {msg : EventMessage}
    (hreflect : msg.isNoReflect = false) (session : SessionPtr) (sender : FdbObjectId) :
    (obj.broadcastTo sid msg session sender).copies
      = (obj.hearers msg session (fdbObjectGetClass sender)).map fun o => (session, o) := by
  rw [hearers_eq]
  unfold CFdbBaseObject.broadcastTo
  obtain ⟨o₁, h₁, he₁⟩ := broadcastTo_eq sid hreflect obj.mEventSubscribeHandle
    session msg.code ⟨sender, [], false⟩ rfl
  rw [he₁]
  cases obj.mEventSubscribeHandle.hearers msg session (fdbObjectGetClass sender) msg.code with
  | cons o l => rfl
  | nil =>
    obtain ⟨o₂, h₂, he₂⟩ := broadcastTo_eq sid hreflect obj.mGroupSubscribeHandle
      session (fdbMakeGroup msg.code) ⟨o₁, [], false⟩ h₁
    simp only [map_nil, append_nil, isEmpty_nil, Bool.not_true, Bool.or_false,
      Bool.false_eq_true, if_false, ne_eq, not_true_eq_false, he₂]
    cases obj.mGroupSubscribeHandle.hearers msg session (fdbObjectGetClass sender)
        (fdbMakeGroup msg.code) with
    | cons o l => rfl
    | nil =>
      obtain ⟨o₃, -, he₃⟩ := broadcastTo_eq sid hreflect
        obj.mGroupSubscribeHandle session fdbAllGroupsEvent ⟨o₂, [], false⟩ h₂
      simp only [map_nil, append_nil, isEmpty_nil, Bool.not_true, Bool.or_false,
        Bool.false_eq_true, if_false, not_true_eq_false, he₃]
      cases fdbEventInAllGroups msg.code <;> rfl

end Fdbus.Subscribe

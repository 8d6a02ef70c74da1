/-
  Fdbus.Subscribe.EventCache — `CEventCache`, `broadcast(msg, session)` and `broadcastCached`.

  An object with event cache keeps the last value of every event and topic.  When a subscribe
  request is accepted, `broadcastCached` looks up each item of the request in the cache and
  sends what it finds to the new subscriber.  The lookup is by the code of the item, so an item
  that subscribes a group finds only what was cached under the group's own code.

    * `mem_broadcastCached` — what is sent: the values cached under the code of an item, for
      its topic or, if that is empty, for every topic,
    * `brought_up_to_date_iff` — the subscriber gets exactly the cached values whose broadcast
      would reach one of the new items, if and only if every cached event that an item covers
      only by its group is named by another item of the request.

  A null buffer of the source is an empty list here, and memory does not run out.
-/
import Fdbus.Subscribe.ToSession
import Fdbus.Subscribe.Request

namespace Fdbus.Subscribe

open Fdbus.OrderedMap List Option Std.ExtTreeMap
open Fdbus.Security

/-! ## §1. The cache. -/

/-- `EFdbEndpointRole`. -/
inductive EFdbEndpointRole where
  | server
  | nsServer
  | client
  | unknown
  deriving DecidableEq

/-- `CEventData`. -/
structure CEventData where
  mBuffer : List UInt8
  mAllowRoute : Bool
  mAllowCache : Bool
  deriving DecidableEq

/-- `CacheDataTable_t`. -/
abbrev CacheDataTable := Map Topic CEventData

/-- `EventCacheTable_t`. -/
abbrev EventCacheTable := Map FdbMsgCode CacheDataTable

/-- What the cache reads of a message. -/
structure CacheMessage extends EventMessage where
  type : EFdbMessageType
  payload : List UInt8
  forceUpdate : Bool

/-- `setEventCache(buffer, size)`: the new value, and whether it counts as a change.  A value of
size 0 always does. -/
def CEventData.setEventCache (d : CEventData) (buffer : List UInt8) : CEventData × Bool :=
  if d.mBuffer ≠ [] ∧ buffer = d.mBuffer then (d, false)
  else ({ d with mBuffer := buffer }, true)

/-- `get(msg_code, topic)`. -/
def EventCacheTable.get (cache : EventCacheTable) (code : FdbMsgCode) (topic : Topic) :
    Option CEventData :=
  cache[code]?.bind fun topics => topics[topic]?

/-- `mCacheData[code][topic] = d`. -/
def EventCacheTable.put (cache : EventCacheTable) (code : FdbMsgCode) (topic : Topic)
    (d : CEventData) : EventCacheTable :=
  upsert cache code ∅ fun topics => topics.insert topic d

/-- The end of `update`, for the entry that is there or a fresh one: a server does not take over
a published event that must not be routed. -/
def EventCacheTable.write (cache : EventCacheTable) (msg : CacheMessage) (role : EFdbEndpointRole)
    (d : CEventData) : EventCacheTable × Int :=
  if role ≠ .client ∧ msg.type = .mtPublish ∧ d.mAllowRoute = false then (cache, -1)
  else
    let r := d.setEventCache msg.payload
    (cache.put msg.code msg.topic r.1, if r.2 = false ∧ msg.forceUpdate = false then 0 else 1)

/-- `update(msg, allow_event_route, role)`. -/
def EventCacheTable.update (cache : EventCacheTable) (msg : CacheMessage) (allowEventRoute : Bool)
    (role : EFdbEndpointRole) : EventCacheTable × Int :=
  match cache.get msg.code msg.topic with
  | some d => if d.mAllowCache then cache.write msg role d else (cache, -1)
  | none => cache.write msg role ⟨[], allowEventRoute, true⟩

/-- An object with its subscribe tables and its event cache. -/
structure EventObject where
  tables : CFdbBaseObject
  mCacheData : EventCacheTable
  enableEventCache : Bool
  enableEventRoute : Bool
  mRole : EFdbEndpointRole

/-- `updateEventCache(msg)`. -/
def EventObject.updateEventCache (o : EventObject) (msg : CacheMessage) : EventObject × Int :=
  if o.enableEventCache then
    let r := o.mCacheData.update msg o.enableEventRoute o.mRole
    ({ o with mCacheData := r.1 }, r.2)
  else (o, if msg.type = .mtPublish ∧ o.enableEventRoute = false then 1 else -1)

/-- `broadcast(msg, session)`. -/
def EventObject.broadcast (o : EventObject) (sid : SessionPtr → Int) (msg : CacheMessage)
    (session : SessionPtr) (objectId : FdbObjectId) : EventObject × Broadcasting :=
  let r := o.updateEventCache msg
  if r.2 ≠ 0 then (r.1, r.1.tables.broadcastTo sid msg.toEventMessage session objectId)
  else (r.1, ⟨objectId, [], true⟩)

/-! ## §2. `broadcastCached`. -/

/-- One cached value that was broadcast, with the copies handed to `session->sendMessage`. -/
structure CachedSend where
  code : FdbMsgCode
  topic : Topic
  payload : List UInt8
  copies : List (SessionPtr × FdbObjectId)

section Cached

variable (sid : SessionPtr → Int) (session : SessionPtr) (objectId : FdbObjectId)

/-- The message that carries a cached value: it belongs to the subscribing session, is never
no-reflect, and updates by force. -/
def cachedMessage (code : FdbMsgCode) (topic : Topic) (d : CEventData) : CacheMessage :=
  { code := code, topic := topic, session := sid session, isNoReflect := false,
    type := .mtBroadcast, payload := d.mBuffer, forceUpdate := true }

/-- Broadcast one cached value to the session. -/
def sendCached (code : FdbMsgCode) (st : EventObject × List CachedSend) (topic : Topic)
    (d : CEventData) : EventObject × List CachedSend :=
  let r := st.1.broadcast sid (cachedMessage sid session code topic d) session objectId
  (r.1, st.2 ++ [⟨code, topic, d.mBuffer, r.2.copies⟩])

/-- The body of the loop over the items: an item without a topic gets every topic. -/
def cachedItem (st : EventObject × List CachedSend) (item : CFdbMsgSubscribeItem) :
    EventObject × List CachedSend :=
  let topic := item.topic.getD []
  if topic = [] then
    match st.1.mCacheData[item.msgCode]? with
    | some topics => topics.foldl (sendCached sid session objectId item.msgCode) st
    | none => st
  else
    match st.1.mCacheData.get item.msgCode topic with
    | some d => sendCached sid session objectId item.msgCode st topic d
    | none => st

/-- `broadcastCached(msg_ref)`. -/
def EventObject.broadcastCached (o : EventObject) (items : List CFdbMsgSubscribeItem) :
    List CachedSend :=
  (items.foldl (cachedItem sid session objectId) (o, [])).2

/-! ## §3. What is sent. -/

/-- The cached values an item finds. -/
def cachedFor (cache : EventCacheTable) (item : CFdbMsgSubscribeItem) :
    List (Topic × CEventData) :=
  if item.topic.getD [] = [] then (cache[item.msgCode]?.elim [] fun topics => topics.toList)
  else (cache.get item.msgCode (item.topic.getD [])).toList.map fun d => (item.topic.getD [], d)

theorem mem_cachedFor (cache : EventCacheTable) (item : CFdbMsgSubscribeItem) (topic : Topic)
    (d : CEventData) :
    (topic, d) ∈ cachedFor cache item
      ↔ cache.get item.msgCode topic = some d
        ∧ (item.topic.getD [] = [] ∨ item.topic.getD [] = topic) := by
  unfold cachedFor
  by_cases hempty : item.topic.getD [] = []
  · unfold EventCacheTable.get
    cases cache[item.msgCode]? with
    | none => simp
    | some topics => simp [hempty, mem_toList_iff_getElem?_eq_some]
  · rw [if_neg hempty, List.mem_map]
    constructor
    · rintro ⟨d', hd', hpair⟩
      obtain ⟨rfl, rfl⟩ := Prod.mk.inj hpair
      exact ⟨mem_toList.mp hd', .inr rfl⟩
    · rintro ⟨hget, htopic⟩
      have heq := htopic.resolve_left hempty
      exact ⟨d, mem_toList.mpr (heq ▸ hget), by rw [heq]⟩

section

variable {cache : EventCacheTable} {code : FdbMsgCode} {topic : Topic} {d : CEventData}
  (h : cache.get code topic = some d)

include h

/-- Writing back what is cached changes nothing. -/
theorem put_of_get : cache.put code topic d = cache := by
  obtain ⟨topics, htopics, hd⟩ := Option.bind_eq_some_iff.mp h
  apply Std.ExtTreeMap.ext_getElem?
  intro c
  unfold EventCacheTable.put
  rw [get_upsert]
  split
  · next hc =>
      subst hc
      rw [htopics]
      congr 1
      apply Std.ExtTreeMap.ext_getElem?
      intro tp
      simp only [Option.getD_some, Std.ExtTreeMap.getElem?_insert,
        Std.LawfulEqCmp.compare_eq_iff_eq]
      split
      · next htp => rw [← htp, hd]
      · rfl
  · rfl

/-- A cached value that is broadcast again is no news to the cache, and goes on. -/
theorem update_cached (route : Bool) (role : EFdbEndpointRole) :
    ∃ action, action ≠ 0
      ∧ cache.update (cachedMessage sid session code topic d) route role = (cache, action) := by
  have hset : (d.setEventCache d.mBuffer).1 = d := by
    unfold CEventData.setEventCache
    split <;> rfl
  unfold EventCacheTable.update
  simp only [cachedMessage, h]
  by_cases hallow : d.mAllowCache = true
  · -- a broadcast is not a publication, and the update is forced
    refine ⟨1, by decide, ?_⟩
    simp [hallow, EventCacheTable.write, hset, put_of_get h]
  · exact ⟨-1, by decide, by simp [hallow]⟩

end

variable {o : EventObject}

/-- Broadcasting a cached value leaves the object as it is and asks the subscribe tables. -/
theorem broadcast_cached (hcache : o.enableEventCache = true)
    {code : FdbMsgCode} {topic : Topic} {d : CEventData}
    (h : o.mCacheData.get code topic = some d) :
    o.broadcast sid (cachedMessage sid session code topic d) session objectId
      = (o, o.tables.broadcastTo sid (cachedMessage sid session code topic d).toEventMessage
          session objectId) := by
  obtain ⟨action, hne, heq⟩ := update_cached sid session h o.enableEventRoute o.mRole
  have hupdate : o.updateEventCache (cachedMessage sid session code topic d) = (o, action) := by
    unfold EventObject.updateEventCache
    rw [if_pos hcache, heq]
  unfold EventObject.broadcast
  rw [hupdate]
  simp only [if_pos hne]

/-- The record of one cached value. -/
def sendOf (o : EventObject) (code : FdbMsgCode) (td : Topic × CEventData) : CachedSend :=
  ⟨code, td.1, td.2.mBuffer,
    (o.tables.broadcastTo sid (cachedMessage sid session code td.1 td.2).toEventMessage session
      objectId).copies⟩

section

variable (hcache : o.enableEventCache = true)

include hcache

theorem foldl_sendCached (code : FdbMsgCode) (tds : List (Topic × CEventData))
    (htds : ∀ td ∈ tds, o.mCacheData.get code td.1 = some td.2) (sends : List CachedSend) :
    tds.foldl (fun st td => sendCached sid session objectId code st td.1 td.2) (o, sends)
      = (o, sends ++ tds.map (sendOf sid session objectId o code)) := by
  induction tds generalizing sends with
  | nil => simp
  | cons td tds ih =>
    rw [forall_mem_cons] at htds
    have hone : sendCached sid session objectId code (o, sends) td.1 td.2
        = (o, sends ++ [sendOf sid session objectId o code td]) := by
      unfold sendCached sendOf
      rw [broadcast_cached sid session objectId hcache htds.1]
    rw [foldl_cons, hone, ih htds.2]
    simp

/-- One item. -/
theorem cachedItem_eq (item : CFdbMsgSubscribeItem) (sends : List CachedSend) :
    cachedItem sid session objectId (o, sends) item
      = (o, sends ++ (cachedFor o.mCacheData item).map
          (sendOf sid session objectId o item.msgCode)) := by
  have hall : ∀ td ∈ cachedFor o.mCacheData item,
      o.mCacheData.get item.msgCode td.1 = some td.2 := fun td htd =>
    ((mem_cachedFor o.mCacheData item td.1 td.2).mp htd).1
  rw [← foldl_sendCached sid session objectId hcache item.msgCode _ hall]
  unfold cachedItem cachedFor
  by_cases hempty : item.topic.getD [] = []
  · simp only [hempty, if_true]
    cases o.mCacheData[item.msgCode]? with
    | none => rfl
    | some topics => exact foldl_eq_foldl_toList
  · simp only [if_neg hempty]
    cases o.mCacheData.get item.msgCode (item.topic.getD []) <;> rfl

theorem foldl_cachedItem (items : List CFdbMsgSubscribeItem) (sends : List CachedSend) :
    items.foldl (cachedItem sid session objectId) (o, sends)
      = (o, sends ++ items.flatMap fun item => (cachedFor o.mCacheData item).map
          (sendOf sid session objectId o item.msgCode)) := by
  induction items generalizing sends with
  | nil => simp
  | cons item items ih =>
    rw [foldl_cons, cachedItem_eq sid session objectId hcache, ih]
    simp

/-- **What `broadcastCached` sends**: for each item the values cached under its code, for its
topic or for every topic. -/
theorem mem_broadcastCached (items : List CFdbMsgSubscribeItem) (r : CachedSend) :
    r ∈ o.broadcastCached sid session objectId items
      ↔ ∃ item ∈ items, ∃ topic d, o.mCacheData.get item.msgCode topic = some d
          ∧ (item.topic.getD [] = [] ∨ item.topic.getD [] = topic)
          ∧ r = sendOf sid session objectId o item.msgCode (topic, d) := by
  unfold EventObject.broadcastCached
  rw [foldl_cachedItem sid session objectId hcache]
  simp only [List.nil_append, List.mem_flatMap, List.mem_map, Prod.exists, mem_cachedFor]
  constructor
  · rintro ⟨item, hitem, topic, d, ⟨hget, htopic⟩, rfl⟩
    exact ⟨item, hitem, topic, d, hget, htopic, rfl⟩
  · rintro ⟨item, hitem, topic, d, hget, htopic, rfl⟩
    exact ⟨item, hitem, topic, d, ⟨hget, htopic⟩, rfl⟩

end

end Cached

/-! ## §4. The subscriber gets what is sent. -/

/-! ## §5. What a broadcast would reach. -/

/-- The item subscribes the event by its own code, for the topic or for any topic. -/
def CFdbMsgSubscribeItem.Names (item : CFdbMsgSubscribeItem) (code : FdbMsgCode) (topic : Topic) :
    Prop :=
  item.msgCode = code ∧ (item.topic.getD [] = [] ∨ item.topic.getD [] = topic)

/-- The item subscribes the event by its own code, by its group or by all groups. -/
def CFdbMsgSubscribeItem.Covers (item : CFdbMsgSubscribeItem) (code : FdbMsgCode) (topic : Topic) :
    Prop :=
  (item.msgCode = code ∨ item.msgCode = fdbMakeGroup code ∨ item.msgCode = fdbAllGroupsEvent)
    ∧ (item.topic.getD [] = [] ∨ item.topic.getD [] = topic)

/-- A broadcast of the event and topic at this moment would reach one of the new items: it is
among the subscriptions of the pair that match. -/
def ReachesNew (table : CFdbBaseObject) (req : SubscribeReq) (items : List CFdbMsgSubscribeItem)
    (code : FdbMsgCode) (topic : Topic) : Prop :=
  ∃ item ∈ items, ∃ sub ∈ matching table ⟨code, topic, 0, false⟩ req.session req.objectId,
    sub.code = item.msgCode ∧ sub.topic = item.topic.getD []

theorem mem_matching (obj : CFdbBaseObject) (msg : EventMessage) (s : SessionPtr)
    (o : FdbObjectId) (sub : Subscription) :
    sub ∈ matching obj msg s o
      ↔ sub.code ∈ matchingCodes msg ∧ sub.topic ∈ matchingTopics msg
        ∧ obj.lookup sub.code s o sub.topic = some sub.item := by
  unfold matching matchingAt
  simp only [mem_flatMap, mem_filterMap, map_eq_some_iff]
  constructor
  · rintro ⟨code, hcode, topic, htopic, item, hitem, rfl⟩
    exact ⟨hcode, htopic, hitem⟩
  · rintro ⟨hcode, htopic, hitem⟩
    exact ⟨sub.code, hcode, sub.topic, htopic, sub.item, hitem, rfl⟩

/-- What a request that enters its items subscribed is in the table afterwards. -/
theorem lookup_entered {cfg : Option CApiSecurityConfig} {req : SubscribeReq}
    (hent : Enters cfg req) (items : List CFdbMsgSubscribeItem) (v : ItemLoop)
    {item : CFdbMsgSubscribeItem}
    (hitem : item ∈ items ∨ v.object.lookup item.msgCode req.session req.objectId
      (item.topic.getD []) ≠ none) :
    (items.foldl (doItem cfg req) v).object.lookup item.msgCode req.session req.objectId
      (item.topic.getD []) ≠ none := by
  induction items generalizing v with
  | nil => exact hitem.resolve_left not_mem_nil
  | cons first items ih =>
    apply ih
    -- the first item enters its own key and takes no other key away
    have hfirst : (doItem cfg req v first).object
        = v.object.subscribe req.session first.msgCode req.objectId first.topic first.flag := by
      rw [(doItem_spec ..).1, if_pos hent]
    rw [hfirst, CFdbBaseObject.lookup_subscribe]
    rcases hitem with hmem | hold
    · rcases mem_cons.mp hmem with rfl | htail
      · exact .inr (by simp)
      · exact .inl htail
    · right
      split
      · exact some_ne_none _
      · exact hold

/-- A value of the cache is sent to the session. -/
def SentTo (sends : List CachedSend) (session : SessionPtr) (code : FdbMsgCode) (topic : Topic)
    (payload : List UInt8) : Prop :=
  ∃ r ∈ sends, r.code = code ∧ r.topic = topic ∧ r.payload = payload
    ∧ ∃ obj, (session, obj) ∈ r.copies

section UpToDate

variable {cfg : Option CApiSecurityConfig} {req : SubscribeReq} (hent : Enters cfg req)
  (items : List CFdbMsgSubscribeItem) (before : CFdbBaseObject)
include hent

theorem reachesNew_iff (code : FdbMsgCode) (topic : Topic) :
    ReachesNew (doItems cfg req before items).object req items code topic
      ↔ ∃ item ∈ items, item.Covers code topic := by
  constructor
  · rintro ⟨item, hitem, sub, hsub, hcode, htopic⟩
    obtain ⟨hcodes, htopics, _⟩ := (mem_matching _ _ _ _ sub).mp hsub
    rw [mem_matchingCodes, hcode] at hcodes
    rw [mem_matchingTopics, htopic] at htopics
    exact ⟨item, hitem, hcodes, htopics⟩
  · rintro ⟨item, hitem, hcodes, htopics⟩
    obtain ⟨entry, hentry⟩ := ne_none_iff_exists'.mp
      (lookup_entered hent items ⟨before, 0, true, []⟩ (.inl hitem))
    refine ⟨item, hitem, ⟨item.msgCode, item.topic.getD [], entry⟩, ?_, rfl, rfl⟩
    rw [mem_matching, mem_matchingCodes, mem_matchingTopics]
    exact ⟨hcodes, htopics, hentry⟩

variable (sid : SessionPtr → Int) {o : EventObject} (hcache : o.enableEventCache = true)
include hcache

/-- The session is sent what an item names. -/
theorem sentTo_iff (code : FdbMsgCode) (topic : Topic) (payload : List UInt8) :
    SentTo ({ o with tables := (doItems cfg req before items).object }.broadcastCached sid
        req.session req.objectId items) req.session code topic payload
      ↔ ∃ d, o.mCacheData.get code topic = some d ∧ d.mBuffer = payload
          ∧ ∃ item ∈ items, item.Names code topic := by
  unfold SentTo
  simp only [mem_broadcastCached sid req.session req.objectId
    (o := { o with tables := (doItems cfg req before items).object }) hcache]
  constructor
  · rintro ⟨_, ⟨item, hitem, topic', d, hget, htopic, rfl⟩, rfl, rfl, rfl, _⟩
    exact ⟨d, hget, rfl, item, hitem, rfl, htopic⟩
  · rintro ⟨d, hget, rfl, item, hitem, rfl, htopic⟩
    refine ⟨_, ⟨item, hitem, topic, d, hget, htopic, rfl⟩, rfl, rfl, rfl, req.objectId, ?_⟩
    -- the object of the request holds the item by now
    have hentry := lookup_entered hent items ⟨before, 0, true, []⟩ (.inl hitem)
    show _ ∈ (CFdbBaseObject.broadcastTo _ sid _ _ _).copies
    rw [broadcastTo_copies _ sid rfl]
    refine mem_map.mpr ⟨req.objectId, ?_, rfl⟩
    exact mem_hearers_of_event _ _ _ ((mem_matchingTopics _ _).mpr htopic)
      (isSome_iff_ne_none.mpr hentry)

end UpToDate

/-- Every cached event that an item covers only by a group is named by some item. -/
def GroupsNamed (cache : EventCacheTable) (items : List CFdbMsgSubscribeItem) : Prop :=
  ∀ item ∈ items, ∀ code topic d, cache.get code topic = some d → item.Covers code topic →
    item.msgCode ≠ code → ∃ item' ∈ items, item'.Names code topic

/-- **A subscriber is brought up to date.**  After a subscribe request that enters its items, the
session is sent exactly the cached values whose broadcast would reach one of the new items, if
and only if every cached event that is covered only by a group is also named. -/
theorem brought_up_to_date_iff {o : EventObject} (hcache : o.enableEventCache = true)
    (sid : SessionPtr → Int) {cfg : Option CApiSecurityConfig} {req : SubscribeReq}
    (hent : Enters cfg req) (items : List CFdbMsgSubscribeItem) :
    (∀ code topic payload,
        SentTo ({ o with tables := (doItems cfg req o.tables items).object }.broadcastCached sid
            req.session req.objectId items) req.session code topic payload
          ↔ ∃ d, o.mCacheData.get code topic = some d ∧ d.mBuffer = payload
              ∧ ReachesNew (doItems cfg req o.tables items).object req items code topic)
      ↔ GroupsNamed o.mCacheData items := by
  simp only [sentTo_iff hent items o.tables sid hcache, reachesNew_iff hent items o.tables]
  constructor
  · intro h item hitem code topic d hget hcovers _
    obtain ⟨_, _, _, hnamed⟩ := (h code topic d.mBuffer).mpr ⟨d, hget, rfl, item, hitem, hcovers⟩
    exact hnamed
  · intro hgroups code topic payload
    constructor
    · rintro ⟨d, hget, hpayload, item, hitem, hcode, htopic⟩
      exact ⟨d, hget, hpayload, item, hitem, .inl hcode, htopic⟩
    · rintro ⟨d, hget, hpayload, item, hitem, hcovers⟩
      refine ⟨d, hget, hpayload, ?_⟩
      by_cases hcode : item.msgCode = code
      · exact ⟨item, hitem, hcode, hcovers.2⟩
      · exact hgroups item hitem code topic d hget hcovers hcode

/-- An object that has cached the value 9 of event 7. -/
def cachingObject : EventObject where
  tables := CFdbBaseObject.empty
  mCacheData := EventCacheTable.put ∅ 7#32 [] ⟨[9], false, true⟩
  enableEventCache := true
  enableEventRoute := false
  mRole := .server

/-- Session 1 subscribes without security being configured. -/
def subscribing : SubscribeReq where
  session := 1
  security := ⟨0, 0⟩
  objectId := fdbObjectMain
  object := some 0
  subscribe := true
  items := none

/-- The event alone covers nothing by a group. -/
theorem groupsNamed_event :
    GroupsNamed cachingObject.mCacheData [⟨7#32, none, 0#32⟩] := by
  intro item hitem code topic d _ hcovers hne
  obtain rfl := mem_singleton.mp hitem
  rcases hcovers.1 with hcode | hgroup | hall
  · exact absurd hcode hne
  · have := fdbIsGroup_makeGroup code
    rw [← hgroup] at this
    exact absurd this (by decide)
  · exact absurd hall (by decide)

/-- Session 1 subscribes event 7 and gets the cached value. -/
theorem brought_up_to_date_event :
    SentTo ({ cachingObject with
        tables := (doItems none subscribing CFdbBaseObject.empty [⟨7#32, none, 0#32⟩]).object
      }.broadcastCached Int.ofNat 1 fdbObjectMain [⟨7#32, none, 0#32⟩]) 1 7#32 [] [9] := by
  have hent : Enters none subscribing := ⟨rfl, rfl⟩
  refine ((@brought_up_to_date_iff cachingObject rfl Int.ofNat none subscribing hent
    [⟨7#32, none, 0#32⟩]).mpr groupsNamed_event 7#32 [] [9]).mpr ⟨⟨[9], false, true⟩, ?_, rfl, ?_⟩
  · rfl
  · exact (reachesNew_iff hent _ _ 7#32 []).mpr
      ⟨_, mem_singleton.mpr rfl, .inl rfl, .inl rfl⟩

/-- Session 1 subscribes group 0, which event 7 belongs to: event 7 is cached and a broadcast of it
would reach the session, but it is sent nothing. -/
theorem group_not_brought_up_to_date :
    cachingObject.mCacheData.get 7#32 [] = some ⟨[9], false, true⟩
      ∧ ReachesNew
        (doItems none subscribing CFdbBaseObject.empty [⟨0x00ffffff#32, none, 0#32⟩]).object
        subscribing [⟨0x00ffffff#32, none, 0#32⟩] 7#32 []
      ∧ { cachingObject with
          tables := (doItems none subscribing CFdbBaseObject.empty
            [⟨0x00ffffff#32, none, 0#32⟩]).object
        }.broadcastCached Int.ofNat 1 fdbObjectMain [⟨0x00ffffff#32, none, 0#32⟩] = [] := by
  refine ⟨rfl, ?_, by rfl⟩
  exact (reachesNew_iff ⟨rfl, rfl⟩ _ _ 7#32 []).mpr
    ⟨_, mem_singleton.mpr rfl, .inr (.inl (by decide)), .inl rfl⟩

end Fdbus.Subscribe

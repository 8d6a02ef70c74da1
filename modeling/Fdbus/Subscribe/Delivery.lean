/-
  Fdbus.Subscribe.Delivery — which published events are forwarded, and who gets an event that is
  broadcast to one session.

  `updateEventCache` decides about a publication with one of three answers, and `doPublish` forwards
  it for the answer 1.  The table above `CEventCache::update` says what the answers should be.
  `broadcast(msg, session)` asks the tables of the event, of its group and of all groups, and stops
  at the first one with a subscription; `broadcastMsg` asks all of them.

    * `doPublish_routing_iff` — a server forwards a publication just when routing is allowed for it,
      exactly if it has the event cache enabled: without it, the answer for publications is the
      opposite of what the table says,
    * `broadcast_restricts_iff` — a broadcast to one session reaches the objects of a class that the
      full broadcast reaches there, exactly if nobody is there to be reached, or the event is news
      to the cache and whoever has subscribed it has done so with the first code that anybody has.
-/
import Fdbus.Subscribe.Publish

namespace Fdbus.Subscribe

open Fdbus.OrderedMap List

/-! ## §1. The decision of the cache. -/

section Cache

variable (o : EventObject) (msg : CacheMessage)

/-- The entry of the event, or the one that is made for it. -/
def EventObject.entryFor : CEventData :=
  (o.mCacheData.get msg.code msg.topic).getD ⟨[], o.enableEventRoute, true⟩

/-- The payload is new to the entry, or the update is forced. -/
def EventObject.Changes : Prop :=
  ((o.entryFor msg).setEventCache msg.payload).2 = true ∨ msg.forceUpdate = true

instance : Decidable (o.Changes msg) := inferInstanceAs (Decidable (_ ∨ _))

/-- `update`, for the entry that is there or made. -/
theorem update_eq :
    o.mCacheData.update msg o.enableEventRoute o.mRole
      = if (o.entryFor msg).mAllowCache then o.mCacheData.write msg o.mRole (o.entryFor msg)
        else (o.mCacheData, -1) := by
  unfold EventCacheTable.update EventObject.entryFor
  cases o.mCacheData.get msg.code msg.topic with
  | none => rfl
  | some d => rfl

/-- The answers of `updateEventCache` with event cache. -/
theorem updateEventCache_cached (hcache : o.enableEventCache = true) :
    (o.updateEventCache msg).2
      = if (o.entryFor msg).mAllowCache = false
            ∨ o.mRole ≠ .client ∧ msg.type = .mtPublish
              ∧ (o.entryFor msg).mAllowRoute = false then -1
        else if o.Changes msg then 1 else 0 := by
  unfold EventObject.updateEventCache
  rw [if_pos hcache, update_eq]
  unfold EventCacheTable.write EventObject.Changes
  cases hallow : (o.entryFor msg).mAllowCache with
  | false => simp
  | true =>
    by_cases hroute : o.mRole ≠ .client ∧ msg.type = .mtPublish
        ∧ (o.entryFor msg).mAllowRoute = false
    · simp [hroute]
    · simp only [if_true, if_neg hroute, Bool.true_eq_false, false_or]
      by_cases hset : ((o.entryFor msg).setEventCache msg.payload).2 = true
      · simp [hset]
      · by_cases hforce : msg.forceUpdate = true
        · simp [hforce]
        · simp [hset, hforce]

end Cache

/-! ## §2. Publications. -/

/-- Routing is allowed for a publication: by the flag of the object, or with event cache by the
entry of the event, if the publication changes it. -/
def EventObject.RoutingAllowed (o : EventObject) (msg : CacheMessage) : Prop :=
  if o.enableEventCache = true then
    (o.entryFor msg).mAllowRoute = true ∧ (o.entryFor msg).mAllowCache = true ∧ o.Changes msg
  else o.enableEventRoute = true

/-- The copies that a publication is sent in. -/
def Publication.copies (p : Publication) : List (SessionPtr × FdbObjectId) :=
  p.forwarded.elim [] (·.copies)

/-- A publication is forwarded just when routing is allowed, and else nobody is sent it. -/
def ForwardsAllowed (o : EventObject) (sid : SessionPtr → Int) (objId : FdbObjectId)
    (msg : PublishMessage) : Prop :=
  ((o.doPublish sid objId msg).forwarded.isSome = true ↔ o.RoutingAllowed msg.toCacheMessage)
    ∧ (¬ o.RoutingAllowed msg.toCacheMessage → (o.doPublish sid objId msg).copies = [])

variable (o : EventObject) (sid : SessionPtr → Int) {msg : CacheMessage}

/-- A publication is forwarded for the answer 1. -/
theorem forwarded_iff (objId : FdbObjectId) (msg : PublishMessage) :
    (o.doPublish sid objId msg).forwarded.isSome = true
      ↔ (o.updateEventCache msg.toCacheMessage).2 = 1 := by
  unfold EventObject.doPublish
  by_cases h : (o.updateEventCache msg.toCacheMessage).2 = 1
  · simp [h]
  · simp [h]

/-- With event cache, the answer 1 is given where routing is allowed. -/
theorem updateEventCache_one_iff {o : EventObject} (hcache : o.enableEventCache = true)
    (hrole : o.mRole ≠ .client) {msg : CacheMessage} (htype : msg.type = .mtPublish) :
    (o.updateEventCache msg).2 = 1 ↔ o.RoutingAllowed msg := by
  unfold EventObject.RoutingAllowed
  rw [if_pos hcache, updateEventCache_cached o msg hcache]
  cases hallow : (o.entryFor msg).mAllowCache with
  | false => simp
  | true =>
    cases hroute : (o.entryFor msg).mAllowRoute with
    | false => simp [hrole, htype]
    | true =>
      by_cases hchanges : o.Changes msg
      · simp [hchanges]
      · simp [hchanges]

/-- **Which publications are forwarded**: with event cache exactly those that are allowed; without
it exactly those that are not. -/
theorem doPublish_routing_iff (o : EventObject) (hrole : o.mRole ≠ .client)
    (sid : SessionPtr → Int) (objId : FdbObjectId) (msg : PublishMessage)
    (htype : msg.type = .mtPublish) :
    ForwardsAllowed o sid objId msg ↔ o.enableEventCache = true := by
  constructor
  · intro h
    have hiff := h.1
    by_contra hcache
    rw [forwarded_iff] at hiff
    have hanswer : (o.updateEventCache msg.toCacheMessage).2
        = if o.enableEventRoute = false then 1 else -1 := by
      unfold EventObject.updateEventCache
      simp [hcache, htype]
    -- the flag of the object is taken the other way round
    rw [hanswer, EventObject.RoutingAllowed, if_neg hcache] at hiff
    cases hroute : o.enableEventRoute with
    | false => simp [hroute] at hiff
    | true => simp [hroute] at hiff
  · intro hcache
    have hiff := (forwarded_iff o sid objId msg).trans (updateEventCache_one_iff hcache hrole htype)
    refine ⟨hiff, fun hnot => ?_⟩
    have hnone : (o.doPublish sid objId msg).forwarded = none := by
      rwa [← hiff, Bool.not_eq_true, Option.isSome_eq_false_iff, Option.isNone_iff_eq_none] at hnot
    unfold Publication.copies
    rw [hnone]
    rfl

/-- A server object with event cache and event route. -/
def caching (tables : CFdbBaseObject) : EventObject := ⟨tables, ∅, true, true, .server⟩

theorem doPublish_routing_caching :
    ForwardsAllowed (caching singleEvent) Int.ofNat 0x10001#32 publishing :=
  (doPublish_routing_iff (caching singleEvent) (by decide) Int.ofNat 0x10001#32 publishing rfl).mpr
    rfl

/-- A server object without event cache forwards a publication although it has event route
disabled, and does not forward it with event route enabled. -/
theorem uncached_forwards_disallowed :
    ((⟨singleEvent, ∅, false, false, .server⟩ : EventObject).doPublish Int.ofNat 0x10001#32
        publishing).copies = [(2, 0x10001#32)]
      ∧ ((⟨singleEvent, ∅, false, true, .server⟩ : EventObject).doPublish Int.ofNat 0x10001#32
        publishing).forwarded.isSome = false := by
  decide +kernel

/-! ## §3. Broadcasts to one session. -/

section Session

variable (obj : CFdbBaseObject) (msg : EventMessage) (session : SessionPtr) (cls : BitVec 32)

/-- Whoever hears the event by a later code also hears it by the first code that anybody hears it
by. -/
def HeardByFirstCode : Prop :=
  ∀ pre code post, matchingCodes msg = pre ++ code :: post →
    (∀ c ∈ pre, obj.hearersAt msg session cls c = []) →
    obj.hearersAt msg session cls code ≠ [] →
    ∀ c ∈ post, ∀ oid ∈ obj.hearersAt msg session cls c, oid ∈ obj.hearersAt msg session cls code

/-- Whoever is a hearer hears the event by one of its codes. -/
theorem exists_hearersAt {oid : FdbObjectId} (h : oid ∈ obj.hearers msg session cls) :
    ∃ c ∈ matchingCodes msg, oid ∈ obj.hearersAt msg session cls c := by
  obtain ⟨hclass, c, hc, htopic⟩ := mem_hearers obj msg session cls h
  exact ⟨c, hc, (mem_hearersAt obj msg session cls c oid).mpr ⟨hclass, htopic⟩⟩

theorem not_heard_iff :
    (∀ oid, ¬ ∃ c ∈ matchingCodes msg, oid ∈ obj.hearersAt msg session cls c)
      ↔ ∀ c ∈ matchingCodes msg, obj.hearersAt msg session cls c = [] := by
  constructor
  · intro h c hc
    by_contra hne
    obtain ⟨oid, hoid⟩ := exists_mem_of_ne_nil _ hne
    exact h oid ⟨c, hc, hoid⟩
  · intro h oid hheard
    obtain ⟨c, hc, hoid⟩ := hheard
    rw [h c hc] at hoid
    exact not_mem_nil hoid

/-- The hearers are those of the first code that has any. -/
theorem hearers_eq_of_first {pre post : List FdbMsgCode} {code : FdbMsgCode}
    (hcodes : matchingCodes msg = pre ++ code :: post)
    (hpre : ∀ c ∈ pre, obj.hearersAt msg session cls c = [])
    (hcode : obj.hearersAt msg session cls code ≠ []) :
    obj.hearers msg session cls = obj.hearersAt msg session cls code := by
  unfold CFdbBaseObject.hearers
  have hnone : (pre.map (obj.hearersAt msg session cls)).find? (fun l => !l.isEmpty) = none := by
    rw [find?_eq_none]
    intro l hl
    obtain ⟨c, hc, rfl⟩ := mem_map.mp hl
    simp [hpre c hc]
  rw [hcodes, map_append, find?_append, hnone, map_cons,
    find?_cons_of_pos (by simp [hcode])]
  rfl

/-- Either nobody hears the event, or there is a first code that it is heard by. -/
theorem first_code_or_none :
    (∀ c ∈ matchingCodes msg, obj.hearersAt msg session cls c = [])
      ∨ ∃ pre code post, matchingCodes msg = pre ++ code :: post
        ∧ (∀ c ∈ pre, obj.hearersAt msg session cls c = [])
        ∧ obj.hearersAt msg session cls code ≠ [] := by
  cases hfind : (matchingCodes msg).find? fun c => !(obj.hearersAt msg session cls c).isEmpty with
  | none =>
    left
    intro c hc
    have := find?_eq_none.mp hfind c hc
    simpa using this
  | some code =>
    right
    obtain ⟨hcode, pre, post, hcodes, hpre⟩ := find?_eq_some_iff_append.mp hfind
    exact ⟨pre, code, post, hcodes, fun c hc => by simpa using hpre c hc, by simpa using hcode⟩

/-- **The hearers are all that have a matching subscription**, exactly if they hear it by the first
code. -/
theorem hearers_complete_iff :
    (∀ oid, oid ∈ obj.hearers msg session cls
        ↔ ∃ c ∈ matchingCodes msg, oid ∈ obj.hearersAt msg session cls c)
      ↔ HeardByFirstCode obj msg session cls := by
  constructor
  · intro h pre code post hcodes hpre hcode c hc oid hoid
    rw [← hearers_eq_of_first obj msg session cls hcodes hpre hcode]
    refine (h oid).mpr ⟨c, ?_, hoid⟩
    rw [hcodes]
    exact mem_append_right _ (mem_cons_of_mem _ hc)
  · intro h oid
    rcases first_code_or_none obj msg session cls with
      hnone | ⟨pre, code, post, hcodes, hpre, hcode⟩
    · have hnobody := (not_heard_iff obj msg session cls).mpr hnone oid
      exact iff_of_false (fun h => hnobody (exists_hearersAt obj msg session cls h)) hnobody
    · rw [hearers_eq_of_first obj msg session cls hcodes hpre hcode, hcodes]
      constructor
      · intro hoid
        exact ⟨code, mem_append_right _ mem_cons_self, hoid⟩
      · intro ⟨c, hc, hoid⟩
        rcases mem_append.mp hc with hc | hc
        · rw [hpre c hc] at hoid
          cases hoid
        · rcases mem_cons.mp hc with rfl | hc
          · exact hoid
          · exact h pre code post hcodes hpre hcode c hc oid hoid

end Session

/-- The event as it is broadcast to its subscribers: nothing is held back. -/
def eventOf (code : FdbMsgCode) (topic : Topic) (sender : Int) (type : EFdbMessageType)
    (payload : List UInt8) (forceUpdate : Bool) : CacheMessage :=
  ⟨⟨code, topic, sender, false⟩, type, payload, forceUpdate⟩

section Restriction

variable (o : EventObject) (sid : SessionPtr → Int) (msg : CacheMessage) (session : SessionPtr)
  (objectId : FdbObjectId)

/-- Of the objects of the class, the two broadcasts reach the same ones on the session. -/
def SameReceivers : Prop :=
  ∀ oid, fdbObjectGetClass oid = fdbObjectGetClass objectId →
    ((session, oid) ∈ (o.broadcast sid msg session objectId).2.copies
      ↔ (session, oid) ∈ (o.tables.broadcastMsg sid msg.toEventMessage objectId).copies)

/-- The cache has the event with this payload, and may take it over again. -/
def EventObject.NoNews : Prop :=
  o.enableEventCache = true ∧ (o.entryFor msg).mAllowCache = true
    ∧ ¬ (o.mRole ≠ .client ∧ msg.type = .mtPublish ∧ (o.entryFor msg).mAllowRoute = false)
    ∧ ¬ o.Changes msg

/-- Nobody is there to be reached; or the event is news, and heard by the first code. -/
def ReachesAlike : Prop :=
  (∀ c ∈ matchingCodes msg.toEventMessage,
      o.tables.hearersAt msg.toEventMessage session (fdbObjectGetClass objectId) c = [])
    ∨ ¬ o.NoNews msg
      ∧ HeardByFirstCode o.tables msg.toEventMessage session (fdbObjectGetClass objectId)

end Restriction

/-- The answer 0 is given where there is no news. -/
theorem updateEventCache_zero_iff (msg : CacheMessage) :
    (o.updateEventCache msg).2 = 0 ↔ o.NoNews msg := by
  unfold EventObject.NoNews
  cases hcache : o.enableEventCache with
  | false =>
    unfold EventObject.updateEventCache
    simp only [hcache, Bool.false_eq_true, if_false, false_and, iff_false]
    split <;> decide
  | true =>
    rw [updateEventCache_cached o msg hcache]
    cases hallow : (o.entryFor msg).mAllowCache with
    | false => simp
    | true =>
      by_cases hroute : o.mRole ≠ .client ∧ msg.type = .mtPublish
          ∧ (o.entryFor msg).mAllowRoute = false
      · simp [hroute]
      · by_cases hchanges : o.Changes msg
        · simp [hroute, hchanges]
        · simp [hroute, hchanges]

/-- The copies of a broadcast to one session, for an event that is news or not. -/
theorem mem_broadcast_copies
    (hreflect : msg.isNoReflect = false) (session : SessionPtr) (objectId oid : FdbObjectId) :
    (session, oid) ∈ (o.broadcast sid msg session objectId).2.copies
      ↔ ¬ o.NoNews msg
        ∧ oid ∈ o.tables.hearers msg.toEventMessage session (fdbObjectGetClass objectId) := by
  have htables : (o.updateEventCache msg).1.tables = o.tables := by
    unfold EventObject.updateEventCache
    split <;> rfl
  unfold EventObject.broadcast
  rw [← updateEventCache_zero_iff]
  by_cases hzero : (o.updateEventCache msg).2 = 0
  · simp [hzero]
  · simp only [ne_eq, hzero, not_false_eq_true, if_true, htables, true_and,
      broadcastTo_copies o.tables sid hreflect, mem_map, Prod.mk.injEq, exists_eq_right]

/-- Who is reached alike, in terms of the hearers: of the class, the full broadcast reaches those
that hear the event by some code. -/
theorem sameReceivers_iff
    (hreflect : msg.isNoReflect = false) (session : SessionPtr) (objectId : FdbObjectId) :
    SameReceivers o sid msg session objectId
      ↔ ∀ oid, (¬ o.NoNews msg
            ∧ oid ∈ o.tables.hearers msg.toEventMessage session (fdbObjectGetClass objectId))
          ↔ ∃ c ∈ matchingCodes msg.toEventMessage, oid ∈ o.tables.hearersAt msg.toEventMessage
              session (fdbObjectGetClass objectId) c := by
  have hfull : ∀ oid, fdbObjectGetClass oid = fdbObjectGetClass objectId →
      ((session, oid) ∈ (o.tables.broadcastMsg sid msg.toEventMessage objectId).copies
        ↔ ∃ c ∈ matchingCodes msg.toEventMessage, oid ∈ o.tables.hearersAt msg.toEventMessage
            session (fdbObjectGetClass objectId) c) := by
    intro oid hoid
    rw [mem_copies_broadcastMsg o.tables sid objectId hreflect]
    simp only [mem_hearersAt, hoid, true_and]
  unfold SameReceivers
  simp only [mem_broadcast_copies o sid hreflect]
  constructor
  · intro h oid
    by_cases hoid : fdbObjectGetClass oid = fdbObjectGetClass objectId
    · rw [h oid hoid, hfull oid hoid]
    · -- of another class, none is heard either way
      refine iff_of_false (fun hin => hoid ?_) fun hin => hoid ?_
      · exact (mem_hearers o.tables _ session _ hin.2).1
      · obtain ⟨c, -, hin⟩ := hin
        exact ((mem_hearersAt o.tables _ session _ c oid).mp hin).1
  · intro h oid hoid
    rw [h oid, hfull oid hoid]

/-- **A broadcast to one session** reaches whom the full broadcast reaches there, exactly if nobody
is there, or the event is news and everybody hears it by the first code. -/
theorem broadcast_restricts_iff (o : EventObject) (sid : SessionPtr → Int) (code : FdbMsgCode)
    (topic : Topic) (sender : Int) (type : EFdbMessageType) (payload : List UInt8)
    (forceUpdate : Bool) (session : SessionPtr) (objectId : FdbObjectId) :
    SameReceivers o sid (eventOf code topic sender type payload forceUpdate) session objectId
      ↔ ReachesAlike o (eventOf code topic sender type payload forceUpdate) session objectId := by
  have hreflect : (eventOf code topic sender type payload forceUpdate).isNoReflect = false := rfl
  generalize eventOf code topic sender type payload forceUpdate = msg at hreflect
  rw [sameReceivers_iff o sid hreflect]
  unfold ReachesAlike
  rw [← hearers_complete_iff, ← not_heard_iff]
  by_cases hnews : o.NoNews msg
  · simp only [hnews, not_true_eq_false, false_and, false_iff, or_false]
  · simp only [hnews, not_false_eq_true, true_and]
    refine ⟨.inr, fun h => h.elim (fun hnobody oid => ?_) id⟩
    -- without hearers of any code there are none of the first one
    exact iff_of_false (fun hin => hnobody oid (exists_hearersAt o.tables _ session _ hin))
      (hnobody oid)

/-- Two objects of a class on session 1: one has subscribed event 7, the other its group. -/
def eventThenGroup : CFdbBaseObject :=
  (CFdbBaseObject.empty.subscribe 1 7#32 0x10001#32 none 0#32).subscribe
    1 0x00ffffff#32 0x20001#32 none 0#32

/-- A broadcast of event 7 reaches both of them, one to session 1 only the first; and it reaches
nobody if the cache has the event with the same payload. -/
theorem broadcast_to_session_misses :
    fdbObjectGetClass 0x10001#32 = fdbObjectGetClass 0x20001#32
      ∧ (eventThenGroup.broadcastMsg Int.ofNat
          (eventOf 7#32 [] 0 .mtBroadcast [1] false).toEventMessage 0x10001#32).copies
        = [(1, 0x10001#32), (1, 0x20001#32)]
      ∧ ((⟨eventThenGroup, ∅, false, false, .server⟩ : EventObject).broadcast Int.ofNat
          (eventOf 7#32 [] 0 .mtBroadcast [1] false) 1 0x10001#32).2.copies = [(1, 0x10001#32)]
      ∧ ((⟨eventThenGroup, EventCacheTable.put ∅ 7#32 [] ⟨[1], true, true⟩, true, true,
          .server⟩ : EventObject).broadcast Int.ofNat
          (eventOf 7#32 [] 0 .mtBroadcast [1] false) 1 0x10001#32).2.copies = [] := by
  decide +kernel

end Fdbus.Subscribe

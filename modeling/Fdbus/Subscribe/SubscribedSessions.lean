/-
  Fdbus.Subscribe.SubscribedSessions — `getSubscribeTable(code, topic, session_tbl)`.

  The list of the sessions that want an event is made by a second walk over the tables that
  `broadcastMsg` walks.  It leaves a session at the first object with a subscription, and asks for
  the empty topic only where the topic itself is not found.

    * `subscribedSessions_eq_receivers` — the sessions that are listed are those that
      `broadcastMsg` sends a copy to, when no-reflect holds nothing back.

  `tSubscribedSessionSets` is a set of sessions.
-/
import Fdbus.Subscribe.Publish

namespace Fdbus.Subscribe

open Fdbus.OrderedMap List Std.ExtTreeMap

/-! ## §1. The walk. -/

/-- The items of an object have the topic, or else the empty one. -/
def wantsTopic (topic : Topic) (items : SubItemTable) : Bool :=
  match items[topic]? with
  | some _ => true
  | none => decide (topic ≠ []) && items[([] : Topic)]?.isSome

/-- `getSubscribeTable(code, topic, session_tbl)` of a handle; a null topic is the empty one. -/
def SubscribeTable.getSubscribeTable (t : SubscribeTable) (code : FdbMsgCode)
    (topic : Option Topic) (sessionTbl : Finset SessionPtr) : Finset SessionPtr :=
  match t[code]? with
  | some sessions =>
    sessions.foldl (fun tbl session objects =>
      if objects.toList.any fun o => wantsTopic (topic.getD []) o.2 then insert session tbl
      else tbl) sessionTbl
  | none => sessionTbl

/-- `getSubscribeTable(code, topic, session_tbl)`. -/
def CFdbBaseObject.getSubscribeTable (obj : CFdbBaseObject) (code : FdbMsgCode)
    (topic : Option Topic) (sessionTbl : Finset SessionPtr) : Finset SessionPtr :=
  let tbl := obj.mEventSubscribeHandle.getSubscribeTable code topic sessionTbl
  let tbl := obj.mGroupSubscribeHandle.getSubscribeTable (fdbMakeGroup code) topic tbl
  if fdbEventInAllGroups code then tbl
  else obj.mGroupSubscribeHandle.getSubscribeTable fdbAllGroupsEvent topic tbl

/-! ## §2. Who is listed. -/

/-- The topics that count are the ones a broadcast looks for. -/
theorem wantsTopic_iff (topic : Topic) (items : SubItemTable) :
    wantsTopic topic items = true
      ↔ ∃ tp, (tp = [] ∨ tp = topic) ∧ items[tp]?.isSome = true := by
  unfold wantsTopic
  cases hitem : items[topic]? with
  | some item => exact ⟨fun _ => ⟨topic, .inr rfl, by rw [hitem]; rfl⟩, fun _ => rfl⟩
  | none =>
    rw [Bool.and_eq_true, decide_eq_true_eq]
    constructor
    · intro h
      exact ⟨[], .inl rfl, h.2⟩
    · rintro ⟨tp, rfl | rfl, htp⟩
      · refine ⟨?_, htp⟩
        rintro rfl
        rw [hitem] at htp
        cases htp
      · rw [hitem] at htp
        cases htp

/-- A loop that inserts the keys of some entries. -/
theorem mem_foldl_insertKeys {K V : Type} [DecidableEq K] (p : V → Bool) (k : K) :
    ∀ (l : List (K × V)) (tbl : Finset K),
      k ∈ l.foldl (fun tbl e => if p e.2 then insert e.1 tbl else tbl) tbl
        ↔ k ∈ tbl ∨ ∃ v, (k, v) ∈ l ∧ p v = true := by
  intro l
  induction l with
  | nil => simp
  | cons e l ih =>
    intro tbl
    rw [foldl_cons, ih]
    by_cases hp : p e.2 = true
    · rw [if_pos hp, Finset.mem_insert]
      constructor
      · rintro ((rfl | htbl) | ⟨v, hmem, hv⟩)
        · exact .inr ⟨e.2, mem_cons_self, hp⟩
        · exact .inl htbl
        · exact .inr ⟨v, mem_cons_of_mem _ hmem, hv⟩
      · rintro (htbl | ⟨v, hmem, hv⟩)
        · exact .inl (.inr htbl)
        · rcases mem_cons.mp hmem with rfl | hmem
          · exact .inl (.inl rfl)
          · exact .inr ⟨v, hmem, hv⟩
    · rw [if_neg hp]
      refine or_congr_right ⟨?_, ?_⟩
      · rintro ⟨v, hmem, hv⟩
        exact ⟨v, mem_cons_of_mem _ hmem, hv⟩
      · rintro ⟨v, hmem, hv⟩
        rcases mem_cons.mp hmem with rfl | hmem
        · exact absurd hv hp
        · exact ⟨v, hmem, hv⟩

/-- **One table.**  A session is added if one of its objects has the topic or the empty one. -/
theorem mem_getSubscribeTable_handle (t : SubscribeTable) (code : FdbMsgCode)
    (topic : Option Topic) (tbl : Finset SessionPtr) (session : SessionPtr) :
    session ∈ t.getSubscribeTable code topic tbl
      ↔ session ∈ tbl ∨ ∃ o tp, (tp = [] ∨ tp = topic.getD [])
        ∧ (t.lookup code session o tp).isSome = true := by
  unfold SubscribeTable.getSubscribeTable SubscribeTable.lookup
  cases t[code]? with
  | none => simp
  | some sessions =>
    dsimp only [Option.bind_some]
    rw [foldl_eq_foldl_toList, mem_foldl_insertKeys fun objects : ObjectTable =>
      objects.toList.any fun o => wantsTopic (topic.getD []) o.2]
    refine or_congr_right ?_
    simp only [mem_toList_iff_getElem?_eq_some, any_eq_true, wantsTopic_iff,
      Prod.exists]
    constructor
    · rintro ⟨objects, hobjects, o, items, hitems, tp, htp, hsome⟩
      refine ⟨o, tp, htp, ?_⟩
      rw [hobjects, Option.bind_some, hitems]
      exact hsome
    · rintro ⟨o, tp, htp, hsome⟩
      obtain ⟨item, hitem⟩ := Option.isSome_iff_exists.mp hsome
      obtain ⟨objects, hobjects, hitem⟩ := Option.bind_eq_some_iff.mp hitem
      obtain ⟨items, hitems, hitem⟩ := Option.bind_eq_some_iff.mp hitem
      exact ⟨objects, hobjects, o, items, hitems, tp, htp, by rw [hitem]; rfl⟩

/-! ## §3. The list and the broadcast. -/

section Object

variable (obj : CFdbBaseObject)

/-- An object of the session has subscribed this code with the topic or the empty one. -/
def WantsUnder (session : SessionPtr) (topic : Topic) (code : FdbMsgCode) : Prop :=
  ∃ o tp, (tp = [] ∨ tp = topic) ∧ (obj.lookup code session o tp).isSome = true

/-- The event table has what is subscribed under the code, if that is no group. -/
theorem wants_eventHandle (session : SessionPtr) (topic : Topic) (code : FdbMsgCode) :
    (∃ o tp, (tp = [] ∨ tp = topic)
        ∧ (obj.mEventSubscribeHandle.lookup code session o tp).isSome = true)
      ↔ fdbIsGroup code = false ∧ WantsUnder obj session topic code := by
  unfold WantsUnder
  simp only [lookup_eventHandle]
  cases fdbIsGroup code with
  | true => simp
  | false => simp

/-- **Who is listed**: the sessions with a subscription of the event, its group or all groups. -/
theorem session_mem_getSubscribeTable (code : FdbMsgCode) (topic : Option Topic)
    (tbl : Finset SessionPtr) (session : SessionPtr) :
    session ∈ obj.getSubscribeTable code topic tbl
      ↔ session ∈ tbl ∨ WantsUnder obj session (topic.getD []) code
        ∨ WantsUnder obj session (topic.getD []) (fdbMakeGroup code)
        ∨ WantsUnder obj session (topic.getD []) fdbAllGroupsEvent := by
  have hgroup : ∀ c, fdbIsGroup c = true → ∀ tbl,
      (session ∈ obj.mGroupSubscribeHandle.getSubscribeTable c topic tbl
        ↔ session ∈ tbl ∨ WantsUnder obj session (topic.getD []) c) := by
    intro c hc tbl
    rw [mem_getSubscribeTable_handle]
    simp only [lookup_groupHandle obj _ _ hc]
    rfl
  -- under a group code the event table has nothing, but then the code is its own group
  have hevent : fdbIsGroup code = false ∧ WantsUnder obj session (topic.getD []) code
        ∨ WantsUnder obj session (topic.getD []) (fdbMakeGroup code)
      ↔ WantsUnder obj session (topic.getD []) code
        ∨ WantsUnder obj session (topic.getD []) (fdbMakeGroup code) := by
    cases hg : fdbIsGroup code with
    | true => simp [fdbMakeGroup_of_isGroup hg]
    | false => simp
  unfold CFdbBaseObject.getSubscribeTable
  split
  · next hin =>
      -- all groups is the group of the event, and is not asked for again
      rw [← (fdbEventInAllGroups_iff code).mp hin, hgroup _ (fdbIsGroup_makeGroup code),
        mem_getSubscribeTable_handle, wants_eventHandle, or_assoc, hevent, or_self]
  · rw [hgroup _ fdbIsGroup_allGroups, hgroup _ (fdbIsGroup_makeGroup code),
      mem_getSubscribeTable_handle, wants_eventHandle, or_assoc, or_assoc,
      ← or_assoc (a := _ ∧ _), hevent, or_assoc]

/-- In the terms of a broadcast: the sessions with a subscription that matches the message. -/
theorem mem_getSubscribeTable_matching (msg : EventMessage) {topic : Option Topic}
    (htopic : topic.getD [] = msg.topic) (session : SessionPtr) :
    session ∈ obj.getSubscribeTable msg.code topic ∅
      ↔ ∃ o, ∃ c ∈ matchingCodes msg, ∃ tp ∈ matchingTopics msg,
        (obj.lookup c session o tp).isSome = true := by
  simp only [session_mem_getSubscribeTable, htopic, Finset.notMem_empty, false_or,
    mem_matchingCodes, mem_matchingTopics]
  constructor
  · rintro (⟨o, tp, htp, h⟩ | ⟨o, tp, htp, h⟩ | ⟨o, tp, htp, h⟩)
    · exact ⟨o, msg.code, .inl rfl, tp, htp, h⟩
    · exact ⟨o, fdbMakeGroup msg.code, .inr (.inl rfl), tp, htp, h⟩
    · exact ⟨o, fdbAllGroupsEvent, .inr (.inr rfl), tp, htp, h⟩
  · rintro ⟨o, c, hc, tp, htp, h⟩
    rcases hc with rfl | rfl | rfl
    · exact .inl ⟨o, tp, htp, h⟩
    · exact .inr (.inl ⟨o, tp, htp, h⟩)
    · exact .inr (.inr ⟨o, tp, htp, h⟩)

/-- **The list of subscribers is the set of receivers**: `getSubscribeTable` lists exactly the
sessions that `broadcastMsg` sends a copy of an event with this code and topic to. -/
theorem subscribedSessions_eq_receivers (sid : SessionPtr → Int) (code : FdbMsgCode)
    (topic : Option Topic) (publisher : Int) (sender : FdbObjectId) :
    {session | session ∈ obj.getSubscribeTable code topic ∅}
      = {session | ∃ o, (session, o)
          ∈ (obj.broadcastMsg sid ⟨code, topic.getD [], publisher, false⟩ sender).copies} := by
  ext session
  have hlisted := mem_getSubscribeTable_matching obj ⟨code, topic.getD [], publisher, false⟩ rfl
    session
  refine hlisted.trans (exists_congr fun o => ?_)
  exact (mem_copies_broadcastMsg obj sid sender rfl session o).symm

end Object

end Fdbus.Subscribe

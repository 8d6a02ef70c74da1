/-
  Fdbus.DataPool.Topics — the topics of a data pool, and the two ways to match them.

  A data pool consists of servers that own topics and clients that borrow them.  A topic is a
  topic id with a name; the id may be a group, or all groups, and an empty name stands for every
  name.

    * `TopicTbl` — `tTopicTbl`: a table whose entries are stored under what they say they are,
    * `fromTopicInfo`, `toTopicInfo` — the list that is sent, and the table made of one,
    * `topicCreated` — a created topic covers the one that is asked for,
    * `topicMatched` — two topics match, whichever of them is the wider one.

  A topic that covers another matches it (`matched_of_covers`), but not the other way round.
-/
import Fdbus.Subscribe.EventCache

namespace Fdbus.DataPool

open Fdbus.OrderedMap Fdbus.Subscribe List Option Std.ExtTreeMap

/-! ## §1. Topics. -/

/-- `FdbDomainId_t`. -/
abbrev FdbDomainId := BitVec 8

/-- `CTopicInfo`. -/
structure CTopicInfo where
  mTopic : Topic
  mTopicId : FdbMsgCode
  mPoolName : Topic
  mDomainId : FdbDomainId
  deriving DecidableEq

/-- `topicMatched(id_intended, it_stored)`. -/
def topicIdMatched (intended stored : FdbMsgCode) : Bool :=
  stored = intended
    || (fdbIsGroup intended || fdbIsGroup stored)
      && (fdbEventInGroup intended fdbEventAllGroups || fdbEventInGroup stored fdbEventAllGroups
        || fdbSameGroup intended stored)

/-- `topicMatched(topic_intended, topic_stored)`. -/
def topicMatched (intended stored : Topic) : Bool :=
  stored = intended || (stored = [] || intended = [])

namespace CTopicInfo

/-- The test in the loop of `topicCreated`: a created topic is also everything below it. -/
def covers (info : CTopicInfo) (id : FdbMsgCode) (topic : Topic) : Bool :=
  (info.mTopic = [] || info.mTopic = topic)
    && (info.mTopicId = id
      || fdbIsGroup info.mTopicId
        && (fdbEventInGroup info.mTopicId fdbEventAllGroups || fdbSameGroup info.mTopicId id))

/-- Both `topicMatched`, for an announced topic and a subscription. -/
def matched (info : CTopicInfo) (id : FdbMsgCode) (topic : Topic) : Bool :=
  topicIdMatched info.mTopicId id && topicMatched info.mTopic topic

theorem matched_of_covers {info : CTopicInfo} {id : FdbMsgCode} {topic : Topic}
    (h : info.covers id topic = true) : info.matched id topic = true := by
  unfold covers at h
  unfold matched topicIdMatched topicMatched
  simp only [Bool.and_eq_true, Bool.or_eq_true, decide_eq_true_eq] at h ⊢
  obtain ⟨htopic, hid⟩ := h
  refine ⟨?_, ?_⟩
  · rcases hid with heq | ⟨hgroup, hall | hsame⟩
    · exact .inl heq.symm
    · exact .inr ⟨.inl hgroup, .inl (.inl hall)⟩
    · exact .inr ⟨.inl hgroup, .inr hsame⟩
  · rcases htopic with hempty | heq
    · exact .inr (.inr hempty)
    · exact .inl heq.symm

end CTopicInfo

/-! ## §2. Tables of topics. -/

/-- What is found in two nested tables. -/
def findTopic (table : Map FdbMsgCode (Map Topic CTopicInfo)) (id : FdbMsgCode) (topic : Topic) :
    Option CTopicInfo :=
  table[id]?.bind fun topics => topics[topic]?

/-- `tTopicTbl`.  A topic is stored under its own id and name, and no id is left without a
topic.  The source orders ids as signed numbers, this map as unsigned ones. -/
@[ext] structure TopicTbl where
  table : Map FdbMsgCode (Map Topic CTopicInfo)
  keyed : ∀ id topic info, findTopic table id topic = some info →
    info.mTopicId = id ∧ info.mTopic = topic
  pruned : Pruned (fun topics => topics.isEmpty) (fun _ => True) table

namespace TopicTbl

/-- What the table holds for an id and a name. -/
def find (tbl : TopicTbl) (id : FdbMsgCode) (topic : Topic) : Option CTopicInfo :=
  findTopic tbl.table id topic

variable (tbl : TopicTbl) (gone : FdbMsgCode) (name : Topic) (new info : CTopicInfo)
  (id : FdbMsgCode) (topic : Topic)

theorem keyed_empty (info : CTopicInfo)
    (h : findTopic ∅ id topic = some info) : info.mTopicId = id ∧ info.mTopic = topic := by
  simp [findTopic] at h

/-- A table without topics. -/
def empty : TopicTbl := ⟨∅, keyed_empty, pruned_empty⟩

@[simp] theorem find_empty : empty.find id topic = none := by
  simp [find, findTopic, empty]

theorem findTopic_upsert (table : Map FdbMsgCode (Map Topic CTopicInfo)) (new : CTopicInfo)
    (id : FdbMsgCode) (topic : Topic) :
    findTopic (upsert table new.mTopicId ∅ (·.insert new.mTopic new)) id topic
      = if new.mTopicId = id ∧ new.mTopic = topic then some new else findTopic table id topic := by
  unfold findTopic
  rw [bind_get_upsert, get_insert]
  by_cases hid : new.mTopicId = id
  · subst hid
    by_cases htopic : new.mTopic = topic
    · rw [if_pos rfl, if_pos htopic, if_pos ⟨rfl, htopic⟩]
    · rw [if_pos rfl, if_neg htopic, if_neg (fun h => htopic h.2)]
      cases table[new.mTopicId]? with
      | none => simp
      | some topics => rfl
  · rw [if_neg hid, if_neg (fun h => hid h.1)]

theorem keyed_insert (info : CTopicInfo)
    (h : findTopic (upsert tbl.table new.mTopicId ∅ (·.insert new.mTopic new)) id topic
      = some info) : info.mTopicId = id ∧ info.mTopic = topic := by
  rw [findTopic_upsert] at h
  split at h
  · next heq =>
      cases h
      exact heq
  · exact tbl.keyed id topic info h

theorem pruned_insert :
    Pruned (fun topics => topics.isEmpty) (fun _ => True)
      (upsert tbl.table new.mTopicId ∅ (·.insert new.mTopic new)) := by
  refine tbl.pruned.upsert trivial ?_ (fun _ _ => trivial) new.mTopicId
  simp

/-- `tbl[info.mTopicId][info.mTopic] = info`. -/
def insert (tbl : TopicTbl) (info : CTopicInfo) : TopicTbl where
  table := upsert tbl.table info.mTopicId ∅ (·.insert info.mTopic info)
  keyed := keyed_insert tbl info
  pruned := pruned_insert tbl info

theorem find_insert :
    (tbl.insert info).find id topic
      = if info.mTopicId = id ∧ info.mTopic = topic then some info else tbl.find id topic :=
  findTopic_upsert tbl.table info id topic

theorem findTopic_pruneAt (table : Map FdbMsgCode (Map Topic CTopicInfo)) (gone : FdbMsgCode)
    (name : Topic) (id : FdbMsgCode) (topic : Topic) :
    findTopic (pruneAt (fun topics => topics.isEmpty) table gone (·.erase name)) id topic
      = if gone = id ∧ name = topic then none else findTopic table id topic := by
  unfold findTopic
  rw [bind_get_pruneAt (fun topics h => get_of_isEmpty h topic)]
  by_cases hid : gone = id
  · subst hid
    simp only [get_erase, true_and, if_true]
    by_cases htopic : name = topic
    · simp only [if_pos htopic]
      cases table[gone]? <;> rfl
    · simp only [if_neg htopic]
  · rw [if_neg hid, if_neg (fun h => hid h.1)]

theorem keyed_erase (info : CTopicInfo)
    (h : findTopic (pruneAt (fun topics => topics.isEmpty) tbl.table gone (·.erase name)) id topic
      = some info) : info.mTopicId = id ∧ info.mTopic = topic := by
  rw [findTopic_pruneAt] at h
  split at h
  · cases h
  · exact tbl.keyed id topic info h

/-- A topic is erased, and its id with it if that has no other one. -/
def erase (tbl : TopicTbl) (id : FdbMsgCode) (topic : Topic) : TopicTbl where
  table := pruneAt (fun topics => topics.isEmpty) tbl.table id (·.erase topic)
  keyed := keyed_erase tbl id topic
  pruned := tbl.pruned.pruneAt (fun _ _ => trivial) id

theorem find_erase :
    (tbl.erase gone name).find id topic
      = if gone = id ∧ name = topic then none else tbl.find id topic :=
  findTopic_pruneAt tbl.table gone name id topic

/-- A table is what can be found in it. -/
theorem ext_find {tbl tbl' : TopicTbl} (h : ∀ id topic, tbl.find id topic = tbl'.find id topic) :
    tbl = tbl' := by
  apply TopicTbl.ext
  refine tbl.pruned.ext (fun topics topic => topics[topic]?) tbl'.pruned ?_ ?_ h
  · intro topics hne _
    obtain ⟨topic, info, hinfo⟩ := exists_get_of_not_isEmpty hne
    exact ⟨topic, by rw [hinfo]; exact some_ne_none info⟩
  · intro topics topics' _ _ hsame
    exact ext_getElem? hsame

/-- Erasing what is not there changes nothing. -/
theorem erase_of_find_none {tbl : TopicTbl} {id : FdbMsgCode} {topic : Topic}
    (h : tbl.find id topic = none) : tbl.erase id topic = tbl := by
  apply ext_find
  intro id' topic'
  rw [find_erase]
  split
  · next heq => rw [← heq.1, ← heq.2, h]
  · rfl

/-! ## §3. Lists of topics. -/

/-- `fromTopicInfo(info_list)`, up to the order of the ids that have their top bit set; what is
proved of the list is what it contains. -/
def fromTopicInfo (tbl : TopicTbl) : List CTopicInfo :=
  tbl.table.toList.flatMap fun e => e.2.toList.map (·.2)

/-- `toTopicInfo(info_list)`. -/
def toTopicInfo (tbl : TopicTbl) (items : List CTopicInfo) : TopicTbl :=
  items.foldl insert tbl

theorem mem_fromTopicInfo :
    info ∈ tbl.fromTopicInfo ↔ tbl.find info.mTopicId info.mTopic = some info := by
  unfold fromTopicInfo
  simp only [List.mem_flatMap, List.mem_map, Prod.exists]
  constructor
  · rintro ⟨id, topics, hid, topic, found, htopic, rfl⟩
    rw [Std.ExtTreeMap.mem_toList_iff_getElem?_eq_some] at hid htopic
    have hfind : tbl.find id topic = some found := by
      unfold find findTopic
      rw [hid]
      exact htopic
    obtain ⟨hkeyId, hkeyTopic⟩ := tbl.keyed id topic found hfind
    rw [hkeyId, hkeyTopic, hfind]
  · intro h
    obtain ⟨topics, hid, htopic⟩ := Option.bind_eq_some_iff.mp h
    exact ⟨info.mTopicId, topics, Std.ExtTreeMap.mem_toList_iff_getElem?_eq_some.mpr hid,
      info.mTopic, info, Std.ExtTreeMap.mem_toList_iff_getElem?_eq_some.mpr htopic, rfl⟩

/-- What is in a table made of a list is in the list, and every topic of the list is there. -/
theorem find_toTopicInfo (items : List CTopicInfo) (tbl : TopicTbl) (id : FdbMsgCode)
    (topic : Topic) :
    (tbl.toTopicInfo items).find id topic
      = ((items.reverse.find? fun it => it.mTopicId = id ∧ it.mTopic = topic).or
          (tbl.find id topic)) := by
  induction items generalizing tbl with
  | nil => rfl
  | cons it items ih =>
    show ((tbl.insert it).toTopicInfo items).find id topic = _
    rw [ih, List.reverse_cons, List.find?_append, Option.or_assoc, find_insert]
    congr 1
    by_cases h : it.mTopicId = id ∧ it.mTopic = topic
    · simp [h]
    · simp [h]

/-- `topicCreated(topic, topic_id, topic_tbl)`. -/
def topicCreated (tbl : TopicTbl) (topic : Topic) (id : FdbMsgCode) : Bool :=
  (tbl.find id topic).isSome
    || tbl.table.toList.any fun e => e.2.toList.any fun f => f.2.covers id topic

/-- **A topic is created** exactly if a topic of the table covers it. -/
theorem topicCreated_iff (id : FdbMsgCode) :
    tbl.topicCreated topic id = true
      ↔ ∃ info, tbl.find info.mTopicId info.mTopic = some info ∧ info.covers id topic = true := by
  have hloop : (tbl.table.toList.any fun e => e.2.toList.any fun f => f.2.covers id topic)
      = tbl.fromTopicInfo.any fun info => info.covers id topic := by
    simp only [fromTopicInfo, List.any_flatMap, List.any_map]
    rfl
  unfold topicCreated
  rw [hloop, Bool.or_eq_true, List.any_eq_true]
  simp only [mem_fromTopicInfo]
  constructor
  · intro h
    rcases h with hfind | hcover
    · -- a topic that is stored under the id and the name covers them
      obtain ⟨info, hinfo⟩ := isSome_iff_exists.mp hfind
      obtain ⟨rfl, rfl⟩ := tbl.keyed id topic info hinfo
      exact ⟨info, hinfo, by simp [CTopicInfo.covers]⟩
    · exact hcover
  · intro h
    exact .inr h

end TopicTbl

end Fdbus.DataPool

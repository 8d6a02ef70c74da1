/-
  Fdbus.DataPool.Server — `CDpServer`: the owner of topics tells its peers what it owns.

  `createData` enters a topic that none of the others covers, `destroyData` takes one out.  The
  peers know the owner's topics from the list that was broadcast last.

    * `CDpServer`, `createData`, `destroyData` — as the source has them,
    * `Told` — the list that was broadcast last is the table,
    * `told_iff` — so it is after every call of a run, exactly if each topic that is destroyed is
      the only one of its id.

  `destroyData` broadcasts when the id has no topic any more, and not when the topic is gone.
-/
import Fdbus.Library.Run
import Fdbus.DataPool.Topics

namespace Fdbus.DataPool

open Fdbus.OrderedMap Fdbus.Run Fdbus.Subscribe

/-! ## §1. The server. -/

/-- `replace(id, topic, buffer, size, allow_event_route)`. -/
def replaceEventCache (cache : EventCacheTable) (id : FdbMsgCode) (topic : Topic)
    (data : List UInt8) (allowEventRoute : Bool) : EventCacheTable :=
  let d := (cache.get id topic).getD ⟨[], false, true⟩
  cache.put id topic ⟨if data = [] then d.mBuffer else data, allowEventRoute, true⟩

/-- `CDpServer`, with the lists that its control channel has broadcast.  `L` are the listeners. -/
structure CDpServer (L : Type) where
  name : Topic
  domainId : FdbDomainId
  mTopicTbl : TopicTbl := .empty
  mCacheData : EventCacheTable := ∅
  enableEventRoute : Bool := false
  mSetEvtDispather : List (FdbMsgCode × Topic × L) := []
  broadcasts : List (List CTopicInfo) := []

namespace CDpServer

variable {L : Type}

/-- A server that has just been made. -/
def new (name : Topic) (domainId : FdbDomainId) : CDpServer L := { name, domainId }

/-- `populateTopicList(topic_list)`. -/
def populateTopicList (s : CDpServer L) : List CTopicInfo := s.mTopicTbl.fromTopicInfo

/-- "broadcast updated topic table". -/
def broadcastTopics (s : CDpServer L) : CDpServer L :=
  { s with broadcasts := s.broadcasts ++ [s.populateTopicList] }

/-- The topic is entered. -/
def enter (s : CDpServer L) (id : FdbMsgCode) (topic : Topic) : CDpServer L :=
  { s with mTopicTbl := s.mTopicTbl.insert ⟨topic, id, s.name, s.domainId⟩ }

/-- `doRegisterSetEvtHandle`, if there is a listener. -/
def registerModify (s : CDpServer L) (id : FdbMsgCode) (topic : Topic) (modify : Option L) :
    CDpServer L :=
  { s with mSetEvtDispather := s.mSetEvtDispather ++ (modify.map fun l => (id, topic, l)).toList }

/-- The value that a topic starts with.  Who creates everything says only whether events are
routed. -/
def initCache (s : CDpServer L) (id : FdbMsgCode) (topic : Topic) (data : List UInt8)
    (allowEventRoute : Bool) : CDpServer L :=
  if id = fdbMakeGroupEvent fdbEventAllGroups ∧ topic = [] then
    { s with enableEventRoute := allowEventRoute }
  else
    { s with mCacheData := replaceEventCache s.mCacheData id topic data allowEventRoute }

/-- `createData(topic_id, topic, data, size, modify_listener)`. -/
def createData (s : CDpServer L) (id : FdbMsgCode) (topic : Topic) (data : List UInt8)
    (modify : Option L) : CDpServer L :=
  if s.mTopicTbl.topicCreated topic id then s
  else
    (((s.enter id topic).registerModify id topic modify).initCache id topic data
      modify.isNone).broadcastTopics

/-- `destroyData(topic_id, topic)`. -/
def destroyData (s : CDpServer L) (id : FdbMsgCode) (topic : Topic) : CDpServer L :=
  -- set where the id is left without topics, not where the topic is erased
  let destroyed := s.mTopicTbl.table[id]?.any fun topics => (topics.erase topic).isEmpty
  let s' := { s with mTopicTbl := s.mTopicTbl.erase id topic }
  if destroyed then s'.broadcastTopics else s'

/-! ## §2. Runs. -/

/-- The topic list that was broadcast last, or the empty list. -/
def lastBroadcast (s : CDpServer L) : List CTopicInfo := s.broadcasts.getLast?.getD []

/-- The peers know the topics of the table. -/
def Told (s : CDpServer L) : Prop := s.lastBroadcast = s.mTopicTbl.fromTopicInfo

instance (s : CDpServer L) : Decidable s.Told := inferInstanceAs (Decidable (_ = _))

end CDpServer

/-- A call of the server. -/
inductive DataCall (L : Type) where
  | createData (id : FdbMsgCode) (topic : Topic) (data : List UInt8) (modify : Option L)
  | destroyData (id : FdbMsgCode) (topic : Topic)

namespace CDpServer

variable {L : Type}

/-- One call. -/
def call (s : CDpServer L) : DataCall L → Option (CDpServer L)
  | .createData id topic data modify => some (s.createData id topic data modify)
  | .destroyData id topic => some (s.destroyData id topic)

/-- A topic that is destroyed is the only one of its id. -/
def DestroysLast (s : CDpServer L) : DataCall L → Prop
  | .createData _ _ _ _ => True
  | .destroyData id topic =>
    (s.mTopicTbl.find id topic).isSome = true →
      ∀ topic', (s.mTopicTbl.find id topic').isSome = true → topic' = topic

@[simp] theorem told_broadcastTopics (s : CDpServer L) : s.broadcastTopics.Told := by
  unfold Told lastBroadcast broadcastTopics populateTopicList
  simp

/-- The id is left without a topic exactly if the others of it, too, are the one that goes. -/
theorem destroyed_iff (tbl : TopicTbl) (id : FdbMsgCode) (topic : Topic) :
    (tbl.table[id]?.any fun topics => (topics.erase topic).isEmpty) = true
      ↔ (tbl.find id topic).isSome = true
        ∧ ∀ topic', (tbl.find id topic').isSome = true → topic' = topic := by
  unfold TopicTbl.find findTopic
  cases hid : tbl.table[id]? with
  | none => simp
  | some topics =>
    show (topics.erase topic).isEmpty = true
      ↔ topics[topic]?.isSome = true ∧ ∀ topic', topics[topic']?.isSome = true → topic' = topic
    constructor
    · intro hempty
      have hall : ∀ topic', topics[topic']?.isSome = true → topic' = topic := by
        intro topic' hsome
        by_contra hne
        have hgone := get_of_isEmpty hempty topic'
        rw [get_erase, if_neg (Ne.symm hne)] at hgone
        rw [hgone] at hsome
        cases hsome
      -- an id in the table has a topic, and that can only be this one
      obtain ⟨some', info, hinfo⟩ := exists_get_of_not_isEmpty (tbl.pruned id topics hid).1
      have hsome : topics[some']?.isSome = true := by rw [hinfo]; rfl
      exact ⟨hall some' hsome ▸ hsome, hall⟩
    · intro h
      by_contra hne
      obtain ⟨topic', info, hinfo⟩ :=
        exists_get_of_not_isEmpty (Bool.eq_false_iff.mpr hne)
      rw [get_erase] at hinfo
      split at hinfo
      · cases hinfo
      · next htopic =>
          exact htopic (h.2 topic' (by rw [hinfo]; rfl)).symm

theorem told_destroyData {s : CDpServer L} (hs : s.Told) (id : FdbMsgCode) (topic : Topic) :
    (s.destroyData id topic).Told ↔ s.DestroysLast (.destroyData id topic) := by
  unfold destroyData DestroysLast
  dsimp only
  by_cases hlast : (s.mTopicTbl.table[id]?.any fun topics => (topics.erase topic).isEmpty) = true
  · rw [if_pos hlast]
    have hall := ((destroyed_iff s.mTopicTbl id topic).mp hlast).2
    exact ⟨fun _ _ => hall, fun _ => told_broadcastTopics _⟩
  · rw [if_neg hlast]
    rw [destroyed_iff] at hlast
    cases hfind : s.mTopicTbl.find id topic with
    | none =>
      rw [TopicTbl.erase_of_find_none hfind]
      constructor
      · intro _ h
        cases h
      · intro _
        exact hs
    | some info =>
      rw [hfind] at hlast
      -- the topic is gone from the table, but not from the list that was broadcast
      obtain ⟨rfl, rfl⟩ := s.mTopicTbl.keyed id topic info hfind
      have hlisted : info ∈ s.lastBroadcast := by
        rw [hs, TopicTbl.mem_fromTopicInfo]
        exact hfind
      have hgone : info ∉ (s.mTopicTbl.erase info.mTopicId info.mTopic).fromTopicInfo := by
        rw [TopicTbl.mem_fromTopicInfo, TopicTbl.find_erase, if_pos ⟨rfl, rfl⟩]
        exact (Option.some_ne_none info).symm
      constructor
      · intro htold
        exact absurd (htold ▸ hlisted) hgone
      · intro h
        exact absurd ⟨rfl, h rfl⟩ hlast

/-- **The peers see the owner's topics** after each of its calls, exactly if each topic that is
destroyed is the only one of its id. -/
theorem told_iff (name : Topic) (domainId : FdbDomainId) (calls : List (DataCall L)) :
    Throughout call Told (new name domainId) calls
      ↔ Along call DestroysLast (new name domainId) calls := by
  have hstart : (new name domainId : CDpServer L).Told := rfl
  have htotal : ∀ (s : CDpServer L) c, True → ∃ s', s.call c = some s' ∧ True := by
    intro s c _
    cases c with
    | createData id topic data modify => exact ⟨_, rfl, trivial⟩
    | destroyData id topic => exact ⟨_, rfl, trivial⟩
  obtain ⟨t, hrun, -⟩ := run_total htotal calls (new name domainId) trivial
  refine throughout_iff ?_ calls (new name domainId) t hstart hrun
  intro s c s' hs hstep
  cases c with
  | createData id topic data modify =>
    cases hstep
    refine ⟨fun _ => trivial, fun _ => ?_⟩
    unfold createData
    split
    · exact hs
    · exact told_broadcastTopics _
  | destroyData id topic =>
    cases hstep
    exact told_destroyData hs id topic

/-- Two topics of one id are created, and the first is destroyed: the list that was broadcast last
still has both. -/
theorem not_told_after_destroy :
    ∃ s, run call (new [100] 0#8 : CDpServer Unit)
        [.createData 1#32 [97] [] none, .createData 1#32 [98] [] none, .destroyData 1#32 [97]]
          = some s
      ∧ s.lastBroadcast.map (·.mTopic) = [[97], [98]]
      ∧ s.mTopicTbl.fromTopicInfo.map (·.mTopic) = [[98]] := by
  refine ⟨_, rfl, ?_, ?_⟩
  · decide +kernel
  · decide +kernel

end CDpServer

end Fdbus.DataPool

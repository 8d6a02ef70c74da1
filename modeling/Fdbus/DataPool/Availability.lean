/-
  Fdbus.DataPool.Availability — what the listeners for topics are told.

  A pool tells its listeners when a topic is announced by a client's server, and when it is no
  longer.

    * `announced` — the client knows the topic,
    * `Truthful` — in a step a listener is told "created" once for each client for which the topic
      becomes announced, and "destroyed" once for each for which it ceases to be,
    * `truthful_iff` — so it is in each step of a run, exactly if a client hears a list only once,
      while it knows no topic, and no topic is in the list twice.

  `updateTopicList` replaces the table of topics and tells "created" for every topic of the new
  list, also for those that it knew; of those that are gone it tells nothing.
-/
import Fdbus.Library.Run
import Fdbus.DataPool.Pool

namespace Fdbus.DataPool

open Fdbus.OrderedMap Fdbus.Run Fdbus.Subscribe List

/-! ## §1. Notifications, one after the other. -/

/-- `notify` for several topics. -/
def NotificationCenter.notifyAll (nc : NotificationCenter) (infos : List CTopicAvailableInfo) :
    NotificationCenter :=
  infos.foldl NotificationCenter.notify nc

open NotificationCenter CTopicInfo

theorem NotificationCenter.registered_notifyAll (nc : NotificationCenter)
    (infos : List CTopicAvailableInfo) : (nc.notifyAll infos).registered = nc.registered := by
  unfold notifyAll
  induction infos generalizing nc with
  | nil => rfl
  | cons info infos ih => rw [foldl_cons, ih]; rfl

theorem NotificationCenter.told_notifyAll {nc : NotificationCenter} {n : Nat}
    (hn : n ∈ nc.registered) (infos : List CTopicAvailableInfo) (info : CTopicAvailableInfo) :
    (nc.notifyAll infos).told n info = nc.told n info + infos.count info := by
  unfold notifyAll
  induction infos generalizing nc with
  | nil => rfl
  | cons said infos ih =>
    rw [foldl_cons, ih (show n ∈ (nc.notify said).registered from hn),
      told_notify hn, count_cons]
    by_cases h : said = info
    · simp [h]
      omega
    · simp [h]

/-- The topic id and the name. -/
def CTopicInfo.key (info : CTopicInfo) : FdbMsgCode × Topic := (info.mTopicId, info.mTopic)

/-- What listeners are told about a topic. -/
def CTopicInfo.availability (created : Bool) (info : CTopicInfo) : CTopicAvailableInfo :=
  ⟨info.mTopic, info.mTopicId, created⟩

/-- How often a list of notifications says that a topic is created, or destroyed. -/
theorem count_availability (created said : Bool) (infos : List CTopicInfo) (id : FdbMsgCode)
    (topic : Topic) :
    (infos.map (availability said)).count ⟨topic, id, created⟩
      = if said = created then (infos.map key).count (id, topic) else 0 := by
  induction infos with
  | nil => simp
  | cons info infos ih =>
    simp only [map_cons, count_cons, ih]
    by_cases hsaid : said = created
    · subst hsaid
      have hkey : (info.availability said == ⟨topic, id, said⟩) = (info.key == (id, topic)) := by
        simp [availability, key, and_comm]
      simp [hkey]
    · have hne : (info.availability said == ⟨topic, id, created⟩) = false := by
        simp [availability, hsaid]
      simp [hsaid, hne]

/-- The keys of the topics of a table. -/
theorem TopicTbl.map_key (tbl : TopicTbl) :
    tbl.fromTopicInfo.map key = keyPairs tbl.table := by
  unfold TopicTbl.fromTopicInfo keyPairs
  rw [map_flatMap]
  apply flatMap_congr
  intro e he
  rw [map_map]
  apply map_congr_left
  intro f hf
  rw [Std.ExtTreeMap.mem_toList_iff_getElem?_eq_some] at he hf
  have hfind : findTopic tbl.table e.1 f.1 = some f.2 := by
    unfold findTopic
    rw [he]
    exact hf
  obtain ⟨hid, htopic⟩ := tbl.keyed e.1 f.1 f.2 hfind
  exact Prod.ext hid htopic

/-- A table lists each of its topics once. -/
theorem TopicTbl.count_key (tbl : TopicTbl) (id : FdbMsgCode) (topic : Topic) :
    (tbl.fromTopicInfo.map key).count (id, topic)
      = if (tbl.find id topic).isSome = true then 1 else 0 := by
  rw [TopicTbl.map_key]
  by_cases h : (tbl.find id topic).isSome = true
  · rw [if_pos h]
    have hmem := (mem_keyPairs tbl.table id topic).mpr h
    exact count_eq_one_of_mem (nodup_keyPairs tbl.table) hmem
  · rw [if_neg h]
    apply count_eq_zero_of_not_mem
    intro hmem
    exact h ((mem_keyPairs tbl.table id topic).mp hmem)

namespace CDataPool

variable {L : Type}

/-! ## §2. What the events tell. -/

section Events

variable (p : CDataPool L)

/-- The client knows the topic. -/
def announced (c : ClientPtr) (id : FdbMsgCode) (topic : Topic) : Bool :=
  p.clients[c]?.any fun client => (client.mTopicTbl.find id topic).isSome

/-- **A list of topics** is told topic by topic. -/
theorem ntfCenter_updateTopicList (c : ClientPtr) (client : CDpClient) (items : List CTopicInfo) :
    (p.updateTopicList c client items).mTopicAvailableNtfCenter
      = p.mTopicAvailableNtfCenter.notifyAll (items.map (availability true)) := by
  have hfold : ∀ (items : List CTopicInfo) (q : CDataPool L),
      (items.foldl (onTopicCreated c) q).mTopicAvailableNtfCenter
        = q.mTopicAvailableNtfCenter.notifyAll (items.map (availability true)) := by
    intro items
    induction items with
    | nil =>
      intro q
      rfl
    | cons info items ih =>
      intro q
      refine (ih (onTopicCreated c q info)).trans ?_
      show notifyAll (notify
        (foldl (attach c) q _).mTopicAvailableNtfCenter _) _ = _
      rw [(onlyListeners_attachAll q c _).ntfCenter]
      rfl
  exact hfold items (p.setTopics c client items)

/-- **A client that is destroyed** tells of each of its topics. -/
theorem ntfCenter_destroyClient (c : ClientPtr) (client : CDpClient) :
    (p.destroyClient c client).mTopicAvailableNtfCenter
      = p.mTopicAvailableNtfCenter.notifyAll
        (client.mTopicTbl.fromTopicInfo.map (availability false)) := by
  have hcenter : (p.unregister c).mTopicAvailableNtfCenter = p.mTopicAvailableNtfCenter := by
    unfold unregister
    cases p.mClientSubscriptionHandle[c]? with
    | none => rfl
    | some handles => exact (onlyListeners_resubscribe (p.eraseClient c) handles.entries).ntfCenter
  have hloop : ∀ (infos : List CTopicInfo) (q : CDataPool L),
      (q.notifyDestroyed infos).mTopicAvailableNtfCenter
        = q.mTopicAvailableNtfCenter.notifyAll (infos.map (availability false)) := by
    intro infos
    induction infos with
    | nil =>
      intro q
      rfl
    | cons info infos ih =>
      intro q
      exact ih (q.notifyTopicCreated info.mTopic info.mTopicId false)
  show ((p.unregister c).notifyDestroyed _).mTopicAvailableNtfCenter = _
  rw [hloop, hcenter]

end Events

/-! ## §3. What they ought to tell. -/

/-- The clients for which a topic becomes announced. -/
def becomes (p p' : CDataPool L) (id : FdbMsgCode) (topic : Topic) : Set ClientPtr :=
  {c | p.announced c id topic = false ∧ p'.announced c id topic = true}

/-- A listener is told "created" once for each client for which a topic becomes announced, and
"destroyed" once for each for which it ceases to be. -/
def TruthfulStep (n : Nat) (p p' : CDataPool L) : Prop :=
  ∀ id topic,
    p'.mTopicAvailableNtfCenter.told n ⟨topic, id, true⟩
        = p.mTopicAvailableNtfCenter.told n ⟨topic, id, true⟩ + (becomes p p' id topic).ncard
      ∧ p'.mTopicAvailableNtfCenter.told n ⟨topic, id, false⟩
        = p.mTopicAvailableNtfCenter.told n ⟨topic, id, false⟩ + (becomes p' p id topic).ncard

/-- The event tells a listener the truth. -/
def Truthful (n : Nat) (p : CDataPool L) (e : PoolEvent L) : Prop :=
  ∀ p', p.step e = some p' → TruthfulStep n p p'

/-- A client that hears a list knows no topic yet, and no topic is in the list twice. -/
def FirstList (p : CDataPool L) : PoolEvent L → Prop
  | .updateTopicList c items =>
    ∀ client, p.clients[c]? = some client →
      (∀ id topic, client.mTopicTbl.find id topic = none) ∧ (items.map CTopicInfo.key).Nodup
  | _ => True

/-- If only one client changes, the number is 1 or 0. -/
theorem ncard_becomes {p p' : CDataPool L} {c : ClientPtr}
    (h : ∀ c' id topic, c' ≠ c → p'.announced c' id topic = p.announced c' id topic)
    (id : FdbMsgCode) (topic : Topic) :
    (becomes p p' id topic).ncard
      = if p.announced c id topic = false ∧ p'.announced c id topic = true then 1 else 0 := by
  have honly : ∀ c', c' ∈ becomes p p' id topic → c' = c := by
    intro c' hc'
    by_contra hne
    have hboth : p.announced c' id topic = false ∧ p'.announced c' id topic = true := hc'
    rw [h c' id topic hne, hboth.1] at hboth
    exact absurd hboth.2 Bool.false_ne_true
  by_cases hc : p.announced c id topic = false ∧ p'.announced c id topic = true
  · rw [if_pos hc, Set.ncard_eq_one]
    exact ⟨c, Set.eq_singleton_iff_unique_mem.mpr ⟨hc, honly⟩⟩
  · rw [if_neg hc]
    have hempty : becomes p p' id topic = ∅ := by
      apply Set.eq_empty_of_forall_notMem
      intro c' hc'
      exact hc (honly c' hc' ▸ hc')
    rw [hempty, Set.ncard_empty]

section Steps

variable {p : CDataPool L} {n : Nat} (hn : n ∈ p.mTopicAvailableNtfCenter.registered)

variable {c : ClientPtr} {client : CDpClient}

theorem announced_of_get (h : p.clients[c]? = some client) (id : FdbMsgCode) (topic : Topic) :
    p.announced c id topic = (client.mTopicTbl.find id topic).isSome := by
  unfold announced
  rw [h]
  rfl

/-- After a list the client knows the topics of the list, and no others. -/
theorem announced_updateTopicList (c : ClientPtr) (client : CDpClient) (items : List CTopicInfo)
    (c' : ClientPtr) (id : FdbMsgCode) (topic : Topic) :
    (p.updateTopicList c client items).announced c' id topic = true
      ↔ if c = c' then (id, topic) ∈ items.map key
        else p.announced c' id topic = true := by
  unfold announced
  rw [(frame_updateTopicList p c client items).1]
  show ((p.clients.insert c _)[c']?.any _) = true ↔ _
  rw [get_insert]
  by_cases hc : c = c'
  · rw [if_pos hc, if_pos hc]
    show ((TopicTbl.empty.toTopicInfo items).find id topic).isSome = true ↔ _
    rw [TopicTbl.find_toTopicInfo, TopicTbl.find_empty, Option.or_none, find?_isSome,
      mem_map]
    simp only [mem_reverse, decide_eq_true_eq, key, Prod.mk.injEq]
  · rw [if_neg hc, if_neg hc]

include hn in
/-- If only one client changes, a step is truthful exactly if it tells how that client changes. -/
theorem truthfulStep_iff {p' : CDataPool L} {c : ClientPtr} {infos : List CTopicAvailableInfo}
    (hcenter : p'.mTopicAvailableNtfCenter = p.mTopicAvailableNtfCenter.notifyAll infos)
    (hothers : ∀ c' id topic, c' ≠ c → p'.announced c' id topic = p.announced c' id topic) :
    TruthfulStep n p p' ↔ ∀ id topic,
      infos.count ⟨topic, id, true⟩
          = (if p.announced c id topic = false ∧ p'.announced c id topic = true then 1 else 0)
        ∧ infos.count ⟨topic, id, false⟩
          = (if p'.announced c id topic = false ∧ p.announced c id topic = true then 1 else 0) := by
  have hback : ∀ c' id topic, c' ≠ c → p.announced c' id topic = p'.announced c' id topic :=
    fun c' id topic hne => (hothers c' id topic hne).symm
  unfold TruthfulStep
  simp only [hcenter, told_notifyAll hn, ncard_becomes hothers,
    ncard_becomes hback, Nat.add_left_cancel_iff]

include hn in
/-- **A list is told truthfully** exactly if it is the first one and has no topic twice. -/
theorem truthful_updateTopicList (hc : p.clients[c]? = some client) (items : List CTopicInfo) :
    TruthfulStep n p (p.updateTopicList c client items)
      ↔ (∀ id topic, client.mTopicTbl.find id topic = none)
        ∧ (items.map key).Nodup := by
  have hothers : ∀ c' id topic, c' ≠ c →
      (p.updateTopicList c client items).announced c' id topic = p.announced c' id topic := by
    intro c' id topic hne
    rw [Bool.eq_iff_iff, announced_updateTopicList, if_neg hne.symm]
  have hnew : ∀ id topic, (p.updateTopicList c client items).announced c id topic = true
      ↔ (id, topic) ∈ items.map key := by
    intro id topic
    rw [announced_updateTopicList, if_pos rfl]
  rw [truthfulStep_iff hn (ntfCenter_updateTopicList p c client items) hothers]
  simp only [count_availability, if_true, Bool.true_eq_false, if_false, hnew, announced_of_get hc]
  constructor
  · intro h
    have hnone : ∀ id topic, client.mTopicTbl.find id topic = none := by
      intro id topic
      obtain ⟨hcreated, hdestroyed⟩ := h id topic
      cases hfind : client.mTopicTbl.find id topic with
      | none => rfl
      | some info =>
        -- a topic that was known is either told again, or not told to be gone
        rw [hfind] at hcreated hdestroyed
        by_cases hmem : (id, topic) ∈ items.map key
        · have hpos := count_pos_iff.mpr hmem
          simp only [Option.isSome_some, Bool.true_eq_false, false_and, if_false] at hcreated
          omega
        · have hgone : (p.updateTopicList c client items).announced c id topic = false := by
            rw [Bool.eq_false_iff]
            intro htrue
            exact hmem ((hnew id topic).mp htrue)
          simp [hgone] at hdestroyed
    refine ⟨hnone, nodup_iff_count_le_one.mpr ?_⟩
    rintro ⟨id, topic⟩
    rw [(h id topic).1]
    split <;> omega
  · intro h id topic
    obtain ⟨hnone, hnodup⟩ := h
    rw [hnone id topic]
    refine ⟨?_, by simp⟩
    by_cases hmem : (id, topic) ∈ items.map key
    · simp [hmem, count_eq_one_of_mem hnodup hmem]
    · simp [hmem, count_eq_zero_of_not_mem hmem]

include hn in
theorem truthful_destroyClient
    (hc : p.clients[c]? = some client) : TruthfulStep n p (p.destroyClient c client) := by
  have hann : ∀ c' id topic, (p.destroyClient c client).announced c' id topic
      = if c = c' then false else p.announced c' id topic := by
    intro c' id topic
    unfold announced
    rw [clients_destroyClient, get_erase]
    split <;> rfl
  have hothers : ∀ c' id topic, c' ≠ c →
      (p.destroyClient c client).announced c' id topic = p.announced c' id topic := by
    intro c' id topic hne
    rw [hann, if_neg hne.symm]
  rw [truthfulStep_iff hn (ntfCenter_destroyClient p c client) hothers]
  intro id topic
  rw [count_availability, count_availability, hann, TopicTbl.count_key, announced_of_get hc]
  simp

include hn in
/-- A subscription tells nothing, and nothing is announced by it. -/
theorem truthful_doSubscribeData (id : FdbMsgCode) (topic : Topic) (l : L) :
    TruthfulStep n p (p.doSubscribeData id topic l) := by
  have hann : ∀ c' id' topic',
      (p.doSubscribeData id topic l).announced c' id' topic' = p.announced c' id' topic' := by
    intro c' id' topic'
    unfold announced
    rw [(onlyListeners_doSubscribeData p id topic l).clients]
  have hcenter : (p.doSubscribeData id topic l).mTopicAvailableNtfCenter
      = p.mTopicAvailableNtfCenter.notifyAll [] :=
    (onlyListeners_doSubscribeData p id topic l).ntfCenter
  rw [truthfulStep_iff hn (c := 0) hcenter fun c' id' topic' _ => hann c' id' topic']
  intro id' topic'
  rw [hann]
  simp

include hn in
theorem truthful_event (e : PoolEvent L) : Truthful n p e ↔ p.FirstList e := by
  cases e with
  | subscribeData id topic l =>
    refine ⟨fun _ => trivial, fun _ p' hp' => ?_⟩
    cases hp'
    exact truthful_doSubscribeData hn id topic l
  | updateTopicList c items =>
    constructor
    · intro h client hc
      refine (truthful_updateTopicList hn hc items).mp (h _ ?_)
      simp only [step, hc, Option.map_some]
    · intro h p' hp'
      obtain ⟨client, hc, rfl⟩ := Option.map_eq_some_iff.mp hp'
      exact (truthful_updateTopicList hn hc items).mpr (h client hc)
  | destroy c =>
    refine ⟨fun _ => trivial, fun _ p' hp' => ?_⟩
    obtain ⟨client, hc, rfl⟩ := Option.map_eq_some_iff.mp hp'
    exact truthful_destroyClient hn hc

/-- A listener stays registered. -/
theorem registered_step {p' : CDataPool L} {e : PoolEvent L} (h : p.step e = some p') :
    p'.mTopicAvailableNtfCenter.registered = p.mTopicAvailableNtfCenter.registered := by
  cases e with
  | subscribeData id topic l =>
    cases h
    rw [(onlyListeners_doSubscribeData p id topic l).ntfCenter]
  | updateTopicList c items =>
    obtain ⟨client, _, rfl⟩ := Option.map_eq_some_iff.mp h
    rw [ntfCenter_updateTopicList, registered_notifyAll]
  | destroy c =>
    obtain ⟨client, _, rfl⟩ := Option.map_eq_some_iff.mp h
    rw [ntfCenter_destroyClient, registered_notifyAll]

end Steps

/-- **The listeners are told the truth** in each step of a run, exactly if every list that a client
hears is its first, and has no topic twice. -/
theorem truthful_iff {p : CDataPool L} {n : Nat}
    (hn : n ∈ p.mTopicAvailableNtfCenter.registered) (es : List (PoolEvent L)) :
    Along step (Truthful n) p es ↔ Along step FirstList p es := by
  refine along_iff_of_inv (I := fun q => n ∈ q.mTopicAvailableNtfCenter.registered) ?_ ?_ es p hn
  · intro q e hq
    exact truthful_event hq e
  · intro q e q' hq _ hstep
    rw [registered_step hstep]
    exact hq

/-- A client that hears one list and is destroyed tells the truth. -/
theorem truthful_solo :
    Along step (Truthful 1) (solo : CDataPool Nat)
      [.updateTopicList 0 [⟨[97], 1#32, [], 0#8⟩], .destroy 0] := by
  refine (truthful_iff (mem_singleton_self 1) _).mpr
    ⟨?_, fun _ _ => ⟨trivial, fun _ _ => trivial⟩⟩
  intro client hc
  obtain rfl := Option.some.inj (get_solo.symm.trans hc)
  exact ⟨TopicTbl.find_empty, nodup_singleton _⟩

/-- A second list: of the topic that is gone nothing is told, and a topic that stays is told to be
created again. -/
theorem untruthful_solo :
    (∃ p', run step (solo : CDataPool Nat) [.updateTopicList 0 [⟨[97], 1#32, [], 0#8⟩],
        .updateTopicList 0 [⟨[98], 1#32, [], 0#8⟩]] = some p'
      ∧ p'.announced 0 1#32 [97] = false
      ∧ p'.mTopicAvailableNtfCenter.told 1 ⟨[97], 1#32, true⟩ = 1
      ∧ p'.mTopicAvailableNtfCenter.told 1 ⟨[97], 1#32, false⟩ = 0)
    ∧ ∃ p', run step (solo : CDataPool Nat) [.updateTopicList 0 [⟨[97], 1#32, [], 0#8⟩],
        .updateTopicList 0 [⟨[97], 1#32, [], 0#8⟩]] = some p'
      ∧ p'.mTopicAvailableNtfCenter.told 1 ⟨[97], 1#32, true⟩ = 2 := by
  refine ⟨⟨_, rfl, ?_, ?_, ?_⟩, _, rfl, ?_⟩
  · decide +kernel
  · decide +kernel
  · decide +kernel
  · decide +kernel

end CDataPool

end Fdbus.DataPool

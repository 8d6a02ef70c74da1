/-
  Fdbus.DataPool.Attachment — when a subscription finds its topic.

  A subscription may come before the topics are announced, or after.  Before, it waits in the
  pending table, and `onTopicCreated` looks through the table with `topicMatched`; after, the
  client is asked directly.  In the end the client decides, both times with `topicCreated`.

    * `pending_updateTopicList`, `attached_updateTopicList` — what an announcement does to the
      listeners of one topic,
    * `EndsUp` — the listener ends up with the client if the topics match, and else is pending,
    * `endsUp_iff` — so it is in both orders, exactly if with a topic that matches one is announced
      that covers the subscription.

  `topicMatched` lets the subscription be the wider one; `topicCreated` does not.
-/
import Fdbus.Library.Run
import Fdbus.DataPool.Pool

namespace Fdbus.DataPool

open Fdbus.OrderedMap Fdbus.Run Fdbus.Subscribe List Option

namespace CDataPool

variable {L : Type}

/-! ## §1. What an announcement does. -/

/-- The listeners that wait for a topic go to the client under a condition, and stay otherwise. -/
structure Moved (c : ClientPtr) (id : FdbMsgCode) (topic : Topic) (cond : Prop)
    (p p' : CDataPool L) : Prop where
  clients : p'.clients = p.clients
  table : p'.mDpClientTbl = p.mDpClientTbl
  moved : cond → p'.attached c id topic = p.attached c id topic ++ p.pending id topic
    ∧ p'.pending id topic = []
  stayed : ¬cond → p'.attached c id topic = p.attached c id topic
    ∧ p'.pending id topic = p.pending id topic

section Announce

variable {p q r : CDataPool L} {c : ClientPtr} {id : FdbMsgCode} {topic : Topic}

theorem Moved.refl (p : CDataPool L) : Moved c id topic False p p :=
  ⟨rfl, rfl, False.elim, fun _ => ⟨rfl, rfl⟩⟩

theorem Moved.congr {A B : Prop} (h : Moved c id topic A p q) (hiff : A ↔ B) :
    Moved c id topic B p q :=
  ⟨h.clients, h.table, fun hB => h.moved (hiff.mpr hB),
    fun hB => h.stayed fun hA => hB (hiff.mp hA)⟩

/-- Where nothing waits, the condition does not matter. -/
theorem Moved.of_nothing {A B : Prop} (h : Moved c id topic A p q)
    (hnone : p.pending id topic = []) : Moved c id topic B p q := by
  have hsame : q.attached c id topic = p.attached c id topic ∧ q.pending id topic = [] := by
    by_cases hA : A
    · obtain ⟨hattached, hpending⟩ := h.moved hA
      rw [hnone, append_nil] at hattached
      exact ⟨hattached, hpending⟩
    · obtain ⟨hattached, hpending⟩ := h.stayed hA
      exact ⟨hattached, hpending.trans hnone⟩
  refine ⟨h.clients, h.table, ?_, ?_⟩
  · intro _
    rw [hnone, append_nil]
    exact hsame
  · intro _
    rw [hnone]
    exact hsame

/-- Listeners that have moved have no second move. -/
theorem Moved.trans {A B : Prop} (hpq : Moved c id topic A p q) (hqr : Moved c id topic B q r) :
    Moved c id topic (A ∨ B) p r := by
  refine ⟨hqr.clients.trans hpq.clients, hqr.table.trans hpq.table, ?_, ?_⟩
  · intro h
    by_cases hA : A
    · obtain ⟨hattached, hpending⟩ := hpq.moved hA
      by_cases hB : B
      · obtain ⟨hattached', hpending'⟩ := hqr.moved hB
        rw [hattached', hattached, hpending, append_nil]
        exact ⟨rfl, hpending'⟩
      · obtain ⟨hattached', hpending'⟩ := hqr.stayed hB
        exact ⟨hattached'.trans hattached, hpending'.trans hpending⟩
    · obtain ⟨hattached, hpending⟩ := hpq.stayed hA
      obtain ⟨hattached', hpending'⟩ := hqr.moved (h.resolve_left hA)
      rw [hattached', hattached, hpending]
      exact ⟨rfl, hpending'⟩
  · intro h
    obtain ⟨hattached, hpending⟩ := hpq.stayed (fun hA => h (.inl hA))
    obtain ⟨hattached', hpending'⟩ := hqr.stayed (fun hB => h (.inr hB))
    exact ⟨hattached'.trans hattached, hpending'.trans hpending⟩

/-- What the steps of a walk move, if the clients stay as they are, the walk moves. -/
theorem Moved.foldl {α : Type} {f : CDataPool L → α → CDataPool L} {A : α → Prop} {T : Prop}
    (hf : ∀ (q : CDataPool L) a, (q.takes c id topic = true ↔ T) →
      Moved c id topic (A a ∧ T) q (f q a))
    (as : List α) (hT : p.takes c id topic = true ↔ T) :
    Moved c id topic ((∃ a ∈ as, A a) ∧ T) p (as.foldl f p) := by
  induction as generalizing p with
  | nil => exact (Moved.refl p).congr (by simp)
  | cons a as ih =>
    have hone := hf p a hT
    have hT' : (f p a).takes c id topic = true ↔ T := by
      unfold takes
      rw [hone.clients]
      exact hT
    refine (hone.trans (ih hT')).congr ?_
    rw [← or_and_right, exists_mem_cons_iff]

theorem moved_attach (p : CDataPool L) (c : ClientPtr) (key : FdbMsgCode × Topic) :
    Moved c id topic (key = (id, topic) ∧ p.takes c id topic = true) p (attach c p key) := by
  have hmoved := onlyListeners_attach p c key
  refine ⟨hmoved.clients, hmoved.table, ?_, ?_⟩
  · intro h
    rw [attached_attach, pending_attach, if_pos ⟨rfl, h⟩, if_pos h]
    exact ⟨rfl, rfl⟩
  · intro h
    rw [attached_attach, pending_attach, if_neg (fun h' => h h'.2), if_neg h, append_nil]
    exact ⟨rfl, rfl⟩

/-- **One topic**: the listeners that match it go to the client, if that takes them. -/
theorem moved_onTopicCreated (p : CDataPool L) (c : ClientPtr) (info : CTopicInfo) :
    Moved c id topic (info.matched id topic = true ∧ p.takes c id topic = true) p
      (onTopicCreated c p info) := by
  have hwalk : Moved c id topic _ p
      ((p.matchingKeys info.mTopicId info.mTopic).foldl (attach c) p) :=
    Moved.foldl (A := fun key => key = (id, topic))
      (fun q key hq => (moved_attach q c key).congr (and_congr_right fun _ => hq)) _ Iff.rfl
  have hmem : (∃ key ∈ p.matchingKeys info.mTopicId info.mTopic, key = (id, topic))
      ↔ (id, topic) ∈ keyPairs p.mPendingSubscriptionHandle ∧ info.matched id topic = true := by
    rw [exists_eq_right]
    exact mem_filter
  have hfound : Moved c id topic (info.matched id topic = true ∧ p.takes c id topic = true) p
      ((p.matchingKeys info.mTopicId info.mTopic).foldl (attach c) p) := by
    by_cases hnone : p.pending id topic = []
    · exact hwalk.of_nothing hnone
    · -- a topic that is waited for is in the table
      refine hwalk.congr (and_congr_left fun _ => hmem.trans (and_iff_right ?_))
      exact MultiMap.mem_keyPairs_of_list hnone
  exact ⟨hfound.clients, hfound.table, hfound.moved, hfound.stayed⟩

/-- After an announcement the client takes what a topic of the list covers. -/
theorem takes_setTopics (p : CDataPool L) (c : ClientPtr) (client : CDpClient)
    (items : List CTopicInfo) :
    (p.setTopics c client items).takes c id topic = true
      ↔ ∃ info ∈ items, info.covers id topic = true := by
  have htakes : (p.setTopics c client items).takes c id topic
      = (TopicTbl.empty.toTopicInfo items).topicCreated topic id := by
    unfold takes setTopics
    rw [get_insert, if_pos rfl]
    rfl
  rw [htakes, TopicTbl.topicCreated_iff]
  simp only [TopicTbl.find_toTopicInfo, TopicTbl.find_empty, or_none]
  constructor
  · intro h
    obtain ⟨info, hfind, hcovers⟩ := h
    exact ⟨info, mem_reverse.mp (mem_of_find?_eq_some hfind), hcovers⟩
  · intro h
    obtain ⟨info, hmem, hcovers⟩ := h
    -- the table may hold another entry of the list with the same id and name
    have hsome : (items.reverse.find? fun it =>
        it.mTopicId = info.mTopicId ∧ it.mTopic = info.mTopic).isSome = true := by
      rw [find?_isSome]
      exact ⟨info, mem_reverse.mpr hmem, by simp⟩
    obtain ⟨found, hfound⟩ := isSome_iff_exists.mp hsome
    have hsame := find?_some hfound
    rw [decide_eq_true_eq] at hsame
    refine ⟨found, ?_, ?_⟩
    · rw [hsame.1, hsame.2]
      exact hfound
    · unfold CTopicInfo.covers
      rw [hsame.1, hsame.2]
      exact hcovers

/-- **An announcement** gives the client the listeners that wait for a topic, exactly if the list
covers the topic. -/
theorem moved_updateTopicList (p : CDataPool L) (c : ClientPtr) (client : CDpClient)
    (items : List CTopicInfo) (id : FdbMsgCode) (topic : Topic) :
    Moved c id topic (∃ info ∈ items, info.covers id topic = true) (p.setTopics c client items)
      (p.updateTopicList c client items) := by
  have hwalk : Moved c id topic _ (p.setTopics c client items)
      (items.foldl (onTopicCreated c) (p.setTopics c client items)) :=
    Moved.foldl (A := fun info => info.matched id topic = true)
      (fun q info hq => (moved_onTopicCreated q c info).congr (and_congr_right fun _ => hq)) items
      (takes_setTopics p c client items)
  refine hwalk.congr ⟨fun h => h.2, fun h => ⟨?_, h⟩⟩
  obtain ⟨info, hmem, hcovers⟩ := h
  exact ⟨info, hmem, CTopicInfo.matched_of_covers hcovers⟩

end Announce

/-! ## §2. Both orders. -/

section Orders

variable {p : CDataPool L} {c : ClientPtr} {id : FdbMsgCode} {topic : Topic}

/-- With one client, a subscription goes to that client if it takes it. -/
theorem doSubscribeData_one (htable : p.mDpClientTbl = [c]) (id : FdbMsgCode) (topic : Topic)
    (l : L) :
    (p.takes c id topic = true →
      (p.doSubscribeData id topic l).attached c id topic = p.attached c id topic ++ [l]
        ∧ (p.doSubscribeData id topic l).pending id topic = p.pending id topic)
    ∧ (¬p.takes c id topic = true →
      (p.doSubscribeData id topic l).attached c id topic = p.attached c id topic
        ∧ (p.doSubscribeData id topic l).pending id topic = p.pending id topic ++ [l]) := by
  unfold doSubscribeData
  constructor
  · intro htakes
    have hfind : (p.mDpClientTbl.find? fun c => p.takes c id topic) = some c := by
      rw [htable]
      simp [htakes]
    rw [hfind]
    show (p.saveSubscribeHandleForClient c id topic l).attached c id topic = _ ∧ _ = _
    rw [attached_save, if_pos ⟨rfl, rfl, rfl⟩]
    exact ⟨rfl, rfl⟩
  · intro htakes
    have hfind : (p.mDpClientTbl.find? fun c => p.takes c id topic) = none := by
      rw [htable]
      simp [htakes]
    rw [hfind]
    refine ⟨rfl, ?_⟩
    show (p.mPendingSubscriptionHandle.push id topic l).list id topic = _
    rw [MultiMap.list_push, if_pos ⟨rfl, rfl⟩]
    rfl

/-- The listener of a subscription ends up with the client if the topics match, behind those that
were there and those that waited; otherwise it is pending. -/
def EndsUp (c : ClientPtr) (id : FdbMsgCode) (topic : Topic) (l : L) (doMatch : Prop)
    (p p' : CDataPool L) : Prop :=
  (doMatch → p'.attached c id topic = p.attached c id topic ++ p.pending id topic ++ [l]
    ∧ p'.pending id topic = [])
  ∧ (¬doMatch → p'.attached c id topic = p.attached c id topic
    ∧ p'.pending id topic = p.pending id topic ++ [l])

/-- A listener cannot end up in both places. -/
theorem EndsUp.unique {l : L} {A B : Prop} {p' : CDataPool L} (hA : EndsUp c id topic l A p p')
    (hB : EndsUp c id topic l B p p') : A ↔ B := by
  have hne : p.attached c id topic ++ p.pending id topic ++ [l] ≠ p.attached c id topic := by
    intro h
    have := congrArg length h
    simp at this
  constructor
  · intro h
    by_contra hB'
    exact hne ((hA.1 h).1.symm.trans (hB.2 hB').1)
  · intro h
    by_contra hA'
    exact hne ((hB.1 h).1.symm.trans (hA.2 hA').1)

theorem EndsUp.congr {l : L} {A B : Prop} {p' : CDataPool L} (h : EndsUp c id topic l A p p')
    (hiff : A ↔ B) : EndsUp c id topic l B p p' :=
  ⟨fun hB => h.1 (hiff.mpr hB), fun hB => h.2 (fun hA => hB (hiff.mp hA))⟩

variable {client : CDpClient} (htable : p.mDpClientTbl = [c])

include htable in
/-- The subscription comes first: the client has no topics yet, and the listener waits. -/
theorem endsUp_subscribed (hclient : p.clients[c]? = some client)
    (hempty : client.mTopicTbl = .empty) (items : List CTopicInfo) (id : FdbMsgCode)
    (topic : Topic) (l : L) :
    EndsUp c id topic l (∃ info ∈ items, info.covers id topic = true) p
      ((p.doSubscribeData id topic l).updateTopicList c client items) := by
  have htakes : ¬p.takes c id topic = true := by
    unfold takes
    rw [hclient]
    show ¬client.mTopicTbl.topicCreated topic id = true
    rw [hempty, TopicTbl.topicCreated_iff]
    simp
  obtain ⟨hattached, hpending⟩ := (doSubscribeData_one htable id topic l).2 htakes
  have hmove := moved_updateTopicList (p.doSubscribeData id topic l) c client items id topic
  constructor
  · intro h
    obtain ⟨hattached', hpending'⟩ := hmove.moved h
    refine ⟨hattached'.trans ?_, hpending'⟩
    show (p.doSubscribeData id topic l).attached c id topic
      ++ (p.doSubscribeData id topic l).pending id topic = _
    rw [hattached, hpending, append_assoc]
  · intro h
    obtain ⟨hattached', hpending'⟩ := hmove.stayed h
    exact ⟨hattached'.trans hattached, hpending'.trans hpending⟩

include htable in
/-- The announcement comes first: the client is asked. -/
theorem endsUp_announced (items : List CTopicInfo) (id : FdbMsgCode) (topic : Topic) (l : L) :
    EndsUp c id topic l (∃ info ∈ items, info.covers id topic = true) p
      ((p.updateTopicList c client items).doSubscribeData id topic l) := by
  have hmove := moved_updateTopicList p c client items id topic
  have htakes : (p.updateTopicList c client items).takes c id topic = true
      ↔ ∃ info ∈ items, info.covers id topic = true := by
    rw [← takes_setTopics p c client items]
    unfold takes
    rw [hmove.clients]
  obtain ⟨htook, hnot⟩ := doSubscribeData_one (hmove.table.trans htable) id topic l
  constructor
  · intro h
    obtain ⟨hattached, hpending⟩ := hmove.moved h
    obtain ⟨hattached', hpending'⟩ := htook (htakes.mpr h)
    refine ⟨?_, hpending'.trans hpending⟩
    rw [hattached', hattached]
    rfl
  · intro h
    obtain ⟨hattached, hpending⟩ := hmove.stayed h
    obtain ⟨hattached', hpending'⟩ := hnot (fun ht => h (htakes.mp ht))
    refine ⟨hattached'.trans hattached, ?_⟩
    rw [hpending', hpending]
    rfl

include htable in
/-- **A subscription finds a topic that matches it**, whether it is made before or after the
announcement, exactly if among the announced topics, with one that matches it there is one that
covers it. -/
theorem endsUp_iff (hclient : p.clients[c]? = some client) (hempty : client.mTopicTbl = .empty)
    (items : List CTopicInfo) (id : FdbMsgCode) (topic : Topic) (l : L) :
    ((∃ p', run step p [.subscribeData id topic l, .updateTopicList c items] = some p'
        ∧ EndsUp c id topic l (∃ info ∈ items, info.matched id topic = true) p p')
      ∧ ∃ p', run step p [.updateTopicList c items, .subscribeData id topic l] = some p'
        ∧ EndsUp c id topic l (∃ info ∈ items, info.matched id topic = true) p p')
    ↔ ((∃ info ∈ items, info.matched id topic = true) →
        ∃ info ∈ items, info.covers id topic = true) := by
  have hfirst : run step p [.subscribeData id topic l, .updateTopicList c items]
      = some ((p.doSubscribeData id topic l).updateTopicList c client items) := by
    simp [run, step, (onlyListeners_doSubscribeData p id topic l).clients, hclient]
  have hlast : run step p [.updateTopicList c items, .subscribeData id topic l]
      = some ((p.updateTopicList c client items).doSubscribeData id topic l) := by
    simp [run, step, hclient]
  have hsubscribed := endsUp_subscribed htable hclient hempty items id topic l
  constructor
  · intro h
    obtain ⟨⟨p', hp', hends⟩, -⟩ := h
    rw [hfirst, some.injEq] at hp'
    subst hp'
    exact (hends.unique hsubscribed).mp
  · intro h
    have hiff : (∃ info ∈ items, info.covers id topic = true)
        ↔ ∃ info ∈ items, info.matched id topic = true := by
      refine ⟨?_, h⟩
      intro hcovers
      obtain ⟨info, hmem, hcover⟩ := hcovers
      exact ⟨info, hmem, CTopicInfo.matched_of_covers hcover⟩
    exact ⟨⟨_, hfirst, hsubscribed.congr hiff⟩,
      ⟨_, hlast, (endsUp_announced htable items id topic l).congr hiff⟩⟩

end Orders

/-- A listener for everything finds everything, if a server owns everything. -/
theorem endsUp_solo :
    ∃ p', run step (solo : CDataPool Nat) [.subscribeData fdbAllGroupsEvent [] 7,
        .updateTopicList 0 [⟨[], fdbAllGroupsEvent, [], 0#8⟩]] = some p'
      ∧ EndsUp 0 fdbAllGroupsEvent [] 7 (∃ info ∈ [(⟨[], fdbAllGroupsEvent, [], 0#8⟩ : CTopicInfo)],
        info.matched fdbAllGroupsEvent [] = true) solo p' :=
  ((endsUp_iff (c := 0) rfl get_solo rfl [⟨[], fdbAllGroupsEvent, [], 0#8⟩] fdbAllGroupsEvent []
    7).mpr (fun _ => ⟨_, mem_singleton_self _, by decide⟩)).1

/-- **Who subscribes everything does not get a topic of another pool**: the topic matches, but it
does not cover everything. -/
theorem pending_though_matched :
    ∃ p', run step (solo : CDataPool Nat) [.subscribeData fdbAllGroupsEvent [] 7,
        .updateTopicList 0 [⟨[97], 1#32, [], 0#8⟩]] = some p'
      ∧ (⟨[97], 1#32, [], 0#8⟩ : CTopicInfo).matched fdbAllGroupsEvent [] = true
      ∧ p'.attached 0 fdbAllGroupsEvent [] = []
      ∧ p'.pending fdbAllGroupsEvent [] = [7] := by
  refine ⟨_, rfl, ?_, ?_, ?_⟩
  · decide +kernel
  · decide +kernel
  · decide +kernel

end CDataPool

end Fdbus.DataPool

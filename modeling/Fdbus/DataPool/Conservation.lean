/-
  Fdbus.DataPool.Conservation — no subscription of a data pool is lost or doubled.

  A listener moves from the pending table to a client when the client hears of a topic, and back,
  or to another client, when the client is destroyed.

    * `stored` — how often a listener is stored for a topic, over the pending table and all
      clients,
    * `stored_attach`, `stored_unregister` — the two moves keep it,
    * `subscriptions_conserved` — in a run it grows with each subscription by one, and changes by
      nothing else; the listeners are with clients that exist.

  A pool in which `mDpClientTbl` names a client twice is not considered: the second pointer would
  get the listeners of a client that is being destroyed.
-/
import Fdbus.Library.Run
import Fdbus.DataPool.Pool

namespace Fdbus.DataPool

open Fdbus.OrderedMap Fdbus.Run Fdbus.Subscribe List Option

namespace CDataPool

variable {L : Type}

/-! ## §1. What is stored. -/

section Stored

variable [DecidableEq L] (p : CDataPool L) (id : FdbMsgCode) (topic : Topic) (l : L)

/-- How often a listener is stored for a topic with the clients. -/
def storedByClients : Nat :=
  total (fun _ handles => (MultiMap.list handles id topic).count l) p.mClientSubscriptionHandle

/-- How often a listener is stored for a topic. -/
def stored : Nat := (p.pending id topic).count l + p.storedByClients id topic l

/-- Only the listeners of one client have changed. -/
theorem storedByClients_split {p q : CDataPool L} {c : ClientPtr}
    (h : ∀ c', c' ≠ c → q.mClientSubscriptionHandle[c']? = p.mClientSubscriptionHandle[c']?)
    (id : FdbMsgCode) (topic : Topic) (l : L) :
    q.storedByClients id topic l + (p.attached c id topic).count l
      = p.storedByClients id topic l + (q.attached c id topic).count l := by
  have hat : ∀ o : Option (SubscriptionHandleTbl L),
      o.elim 0 (fun handles => (MultiMap.list handles id topic).count l)
        = ((o.getD ∅).list id topic).count l := by
    intro o
    cases o with
    | none => simp
    | some handles => rfl
  have hsplit := total_split h fun _ handles => (MultiMap.list handles id topic).count l
  rw [hat, hat] at hsplit
  exact hsplit

theorem stored_save (c : ClientPtr) (id' : FdbMsgCode) (topic' : Topic) (l' : L) :
    (p.saveSubscribeHandleForClient c id' topic' l').stored id topic l
      = p.stored id topic l + if id' = id ∧ topic' = topic ∧ l' = l then 1 else 0 := by
  have hsplit := storedByClients_split (p := p)
    (q := p.saveSubscribeHandleForClient c id' topic' l') (c := c)
    (fun c' hc' => others_save p id' topic' l' hc') id topic l
  rw [attached_save, count_append] at hsplit
  have hone : (if c = c ∧ id' = id ∧ topic' = topic then [l'] else []).count l
      = if id' = id ∧ topic' = topic ∧ l' = l then 1 else 0 := by
    by_cases hkey : id' = id ∧ topic' = topic
    · rw [if_pos ⟨rfl, hkey⟩, count_singleton]
      by_cases hl : l' = l
      · simp [hkey, hl]
      · simp [hl]
    · rw [if_neg (fun h => hkey h.2), if_neg (fun h => hkey ⟨h.1, h.2.1⟩)]
      rfl
  unfold stored
  rw [pending_save]
  omega

theorem stored_doSubscribeData (id' : FdbMsgCode) (topic' : Topic) (l' : L) :
    (p.doSubscribeData id' topic' l').stored id topic l
      = p.stored id topic l + if id' = id ∧ topic' = topic ∧ l' = l then 1 else 0 := by
  unfold doSubscribeData
  cases p.mDpClientTbl.find? fun c => p.takes c id' topic' with
  | some c => exact stored_save p id topic l c id' topic' l'
  | none =>
    show ((p.mPendingSubscriptionHandle.push id' topic' l').list id topic).count l
      + p.storedByClients id topic l = _
    rw [MultiMap.list_push, count_append]
    unfold stored pending
    by_cases hkey : id' = id ∧ topic' = topic
    · rw [if_pos hkey, count_singleton]
      by_cases hl : l' = l
      · simp [hkey, hl]
        omega
      · simp [hl]
    · rw [if_neg hkey, if_neg (fun h => hkey ⟨h.1, h.2.1⟩)]
      simp

end Stored

/-! ## §2. A client takes what is pending. -/

section Attach

variable (p : CDataPool L) (c : ClientPtr)

/-- **What stays pending and what is attached** is together what was pending and attached. -/
theorem stored_attach [DecidableEq L] (key : FdbMsgCode × Topic) (id : FdbMsgCode)
    (topic : Topic) (l : L) : (attach c p key).stored id topic l = p.stored id topic l := by
  have hsplit := storedByClients_split (fun c' hc' => others_attach p c key hc') id topic l
  rw [attached_attach, count_append] at hsplit
  unfold stored
  rw [pending_attach]
  by_cases h : key = (id, topic) ∧ p.takes c id topic = true
  · rw [if_pos h]
    rw [if_pos ⟨rfl, h⟩] at hsplit
    rw [count_nil]
    omega
  · rw [if_neg h]
    rw [if_neg (fun h' => h h'.2), count_nil] at hsplit
    omega

end Attach

/-! ## §3. The events. -/

/-- Only clients that exist have listeners. -/
def Owned (p : CDataPool L) : Prop :=
  ∀ c : ClientPtr, p.mClientSubscriptionHandle[c]?.isSome = true → p.live c = true

/-- No client is named twice, and only clients that exist have listeners. -/
structure Sound (p : CDataPool L) : Prop where
  nodup : p.mDpClientTbl.Nodup
  owned : p.Owned

section Events

variable {p : CDataPool L}

theorem live_of_takes {c : ClientPtr} {id : FdbMsgCode} {topic : Topic}
    (h : p.takes c id topic = true) : p.live c = true := by
  unfold takes at h
  unfold live
  cases hc : p.clients[c]? with
  | none =>
    rw [hc] at h
    cases h
  | some client => rfl

/-- Listeners are saved only for clients that exist. -/
theorem owned_of_others {p' : CDataPool L} {c : ClientPtr} (hp : p.Owned)
    (hclients : p'.clients = p.clients) (hc : p.live c = true)
    (hothers : ∀ c' : ClientPtr, c' ≠ c →
      p'.mClientSubscriptionHandle[c']? = p.mClientSubscriptionHandle[c']?) : p'.Owned := by
  intro c' h
  unfold live
  rw [hclients]
  by_cases hc' : c' = c
  · exact hc' ▸ hc
  · rw [hothers c' hc'] at h
    exact hp c' h

theorem sound_doSubscribeData (hp : p.Sound) (id : FdbMsgCode) (topic : Topic) (l : L) :
    (p.doSubscribeData id topic l).Sound := by
  refine ⟨(onlyListeners_doSubscribeData p id topic l).table ▸ hp.nodup, ?_⟩
  unfold doSubscribeData
  cases hfind : p.mDpClientTbl.find? fun c => p.takes c id topic with
  | some c =>
    have htakes := find?_some hfind
    refine owned_of_others hp.owned rfl (live_of_takes htakes) ?_
    intro c' hc'
    exact others_save p id topic l hc'
  | none => exact hp.owned

theorem sound_attach {c : ClientPtr} (hp : p.Sound) (key : FdbMsgCode × Topic) :
    (attach c p key).Sound := by
  by_cases htakes : p.takes c key.1 key.2 = true
  · refine ⟨(onlyListeners_attach p c key).table ▸ hp.nodup, ?_⟩
    exact owned_of_others hp.owned (onlyListeners_attach p c key).clients (live_of_takes htakes)
      (fun c' hc' => others_attach p c key hc')
  · unfold attach
    rw [if_neg htakes]
    exact hp

/-- A client that is not in the table gets no listener that is subscribed. -/
theorem handles_resubscribe (entries : List (FdbMsgCode × Topic × L)) {c : ClientPtr}
    (hc : c ∉ p.mDpClientTbl) :
    (p.resubscribe entries).mClientSubscriptionHandle[c]? = p.mClientSubscriptionHandle[c]? := by
  unfold resubscribe
  induction entries generalizing p with
  | nil => rfl
  | cons e entries ih =>
    rw [foldl_cons, ih ((onlyListeners_doSubscribeData p e.1 e.2.1 e.2.2).table ▸ hc)]
    unfold doSubscribeData
    cases hfind : p.mDpClientTbl.find? fun c => p.takes c e.1 e.2.1 with
    | some c' =>
      have hne : c ≠ c' := fun h => hc (h ▸ mem_of_find?_eq_some hfind)
      exact others_save p e.1 e.2.1 e.2.2 hne
    | none => rfl

theorem sound_resubscribe (entries : List (FdbMsgCode × Topic × L)) (hp : p.Sound) :
    (p.resubscribe entries).Sound := by
  induction entries generalizing p with
  | nil => exact hp
  | cons e entries ih =>
    exact ih (sound_doSubscribeData hp e.1 e.2.1 e.2.2)

section Counted

variable [DecidableEq L]

/-- The pool is sound, and stores what another one stores. -/
def Keeps (p p' : CDataPool L) : Prop :=
  p'.Sound ∧ ∀ id topic l, p'.stored id topic l = p.stored id topic l

/-- What each step of a walk keeps, the walk keeps. -/
theorem keeps_foldl {α : Type} {f : CDataPool L → α → CDataPool L}
    (hf : ∀ (q : CDataPool L) a, q.Sound → Keeps q (f q a)) (as : List α) (hp : p.Sound) :
    Keeps p (as.foldl f p) := by
  induction as generalizing p with
  | nil => exact ⟨hp, fun _ _ _ => rfl⟩
  | cons a as ih =>
    obtain ⟨hone, hstored⟩ := hf p a hp
    obtain ⟨hsound, hrest⟩ := ih hone
    refine ⟨hsound, ?_⟩
    intro id topic l
    rw [foldl_cons, hrest, hstored]

theorem keeps_onTopicCreated {c : ClientPtr} (hp : p.Sound) (info : CTopicInfo) :
    Keeps p (onTopicCreated c p info) := by
  obtain ⟨hsound, hstored⟩ := keeps_foldl
    (fun q key hq => ⟨sound_attach (c := c) hq key, stored_attach q c key⟩)
    (p.matchingKeys info.mTopicId info.mTopic) hp
  exact ⟨⟨hsound.nodup, hsound.owned⟩, hstored⟩

theorem keeps_updateTopicList {c : ClientPtr} (client : CDpClient) (items : List CTopicInfo)
    (hp : p.Sound) : Keeps p (p.updateTopicList c client items) := by
  have hset : (p.setTopics c client items).Sound := by
    refine ⟨hp.nodup, ?_⟩
    intro c' h
    show (p.clients.insert c _)[c']?.isSome = true
    rw [get_insert]
    split
    · rfl
    · exact hp.owned c' h
  exact keeps_foldl (fun q info hq => keeps_onTopicCreated hq info) items hset

/-- Subscribing listeners again stores each of them once more. -/
theorem stored_resubscribe (entries : List (FdbMsgCode × Topic × L)) (id : FdbMsgCode)
    (topic : Topic) (l : L) :
    (p.resubscribe entries).stored id topic l
      = p.stored id topic l + entries.count (id, topic, l) := by
  unfold resubscribe
  induction entries generalizing p with
  | nil => simp
  | cons e entries ih =>
    obtain ⟨id₀, topic₀, l₀⟩ := e
    rw [foldl_cons, ih, stored_doSubscribeData, count_cons]
    have hkey : ((id₀, topic₀, l₀) == (id, topic, l)) = true
        ↔ id₀ = id ∧ topic₀ = topic ∧ l₀ = l := by simp
    by_cases h : id₀ = id ∧ topic₀ = topic ∧ l₀ = l
    · rw [if_pos h, if_pos (hkey.mpr h)]
      omega
    · rw [if_neg h, if_neg (fun h' => h (hkey.mp h'))]
      omega

/-- What a client gives up is no longer stored. -/
theorem stored_eraseHandles (c : ClientPtr) (id : FdbMsgCode) (topic : Topic) (l : L) :
    (p.eraseHandles c).stored id topic l + (p.attached c id topic).count l
      = p.stored id topic l := by
  have hsplit := storedByClients_split (p := p) (q := p.eraseHandles c) (c := c)
    (fun c' hc' => by
      show (p.mClientSubscriptionHandle.erase c)[c']? = _
      rw [get_erase, if_neg hc'.symm]) id topic l
  have hgone : (p.eraseHandles c).attached c id topic = [] := by
    unfold attached eraseHandles
    rw [get_erase, if_pos rfl]
    exact MultiMap.list_empty id topic
  rw [hgone, count_nil] at hsplit
  unfold stored
  show (p.pending id topic).count l + _ + _ = _
  omega

/-- **A client that goes gives up its listeners**, and each of them is stored elsewhere. -/
theorem stored_unregister (c : ClientPtr) (hp : p.Sound) (id : FdbMsgCode) (topic : Topic)
    (l : L) : (p.unregister c).stored id topic l = p.stored id topic l := by
  unfold unregister
  cases hhandles : p.mClientSubscriptionHandle[c]? with
  | none => rfl
  | some handles =>
    show (((p.eraseClient c).resubscribe handles.entries).eraseHandles c).stored id topic l = _
    have hsame : ((p.eraseClient c).resubscribe handles.entries).mClientSubscriptionHandle[c]?
        = some handles := by
      rw [handles_resubscribe handles.entries hp.nodup.not_mem_erase]
      exact hhandles
    have hhad : ((p.eraseClient c).resubscribe handles.entries).attached c id topic
        = handles.list id topic := by
      unfold attached
      rw [hsame]
      rfl
    -- what was stored again is what is now given up
    have hagain := stored_resubscribe (p := p.eraseClient c) handles.entries id topic l
    have hgone := stored_eraseHandles
      (p := (p.eraseClient c).resubscribe handles.entries) c id topic l
    rw [MultiMap.count_entries] at hagain
    rw [hhad] at hgone
    change _ = p.stored id topic l + _ at hagain
    omega

end Counted

/-- The clients that are left have the listeners; the one that goes has none. -/
theorem owned_unregister (c : ClientPtr) (hp : p.Sound) :
    (p.unregister c).Owned ∧ (p.unregister c).mClientSubscriptionHandle[c]? = none := by
  unfold unregister
  cases hhandles : p.mClientSubscriptionHandle[c]? with
  | none => exact ⟨hp.owned, hhandles⟩
  | some handles =>
    have hsound : ((p.eraseClient c).resubscribe handles.entries).Sound :=
      sound_resubscribe handles.entries ⟨hp.nodup.erase c, hp.owned⟩
    have hget : ∀ c' : ClientPtr,
        (((p.eraseClient c).resubscribe handles.entries).eraseHandles
            c).mClientSubscriptionHandle[c']?
          = if c = c' then none
            else ((p.eraseClient c).resubscribe handles.entries).mClientSubscriptionHandle[c']? :=
      fun c' => get_erase _ c c'
    refine ⟨?_, (hget c).trans (if_pos rfl)⟩
    intro c' h
    apply hsound.owned c'
    rw [hget] at h
    split at h
    · cases h
    · exact h

theorem keeps_destroyClient [DecidableEq L] (c : ClientPtr) (client : CDpClient) (hp : p.Sound) :
    Keeps p (p.destroyClient c client) := by
  obtain ⟨howned, hnone⟩ := owned_unregister c hp
  unfold destroyClient
  rw [notifyDestroyed_eq]
  refine ⟨⟨?_, ?_⟩, stored_unregister c hp⟩
  · show (p.unregister c).mDpClientTbl.Nodup
    rw [table_unregister]
    exact hp.nodup.erase c
  · intro c' h
    change (p.unregister c).mClientSubscriptionHandle[c']?.isSome = true at h
    show ((p.unregister c).clients.erase c)[c']?.isSome = true
    rw [get_erase]
    split
    · next heq =>
        rw [← heq, hnone] at h
        cases h
    · exact howned c' h

end Events

/-! ## §4. Runs. -/

/-- The event subscribes this listener for this topic. -/
def subscribes [DecidableEq L] (id : FdbMsgCode) (topic : Topic) (l : L) : PoolEvent L → Bool
  | .subscribeData id' topic' l' => id' = id ∧ topic' = topic ∧ l' = l
  | _ => false

theorem stored_step [DecidableEq L] {p p' : CDataPool L} {e : PoolEvent L} (hp : p.Sound)
    (h : p.step e = some p') :
    p'.Sound ∧ ∀ id topic l, p'.stored id topic l
      = p.stored id topic l + if subscribes id topic l e then 1 else 0 := by
  cases e with
  | subscribeData id' topic' l' =>
    cases h
    refine ⟨sound_doSubscribeData hp id' topic' l', ?_⟩
    intro id topic l
    rw [stored_doSubscribeData]
    simp only [subscribes, decide_eq_true_eq]
  | updateTopicList c items =>
    obtain ⟨client, _, rfl⟩ := map_eq_some_iff.mp h
    exact keeps_updateTopicList client items hp
  | destroy c =>
    obtain ⟨client, _, rfl⟩ := map_eq_some_iff.mp h
    exact keeps_destroyClient c client hp

/-- **Subscriptions are conserved.**  Whatever happens to a pool that names no client twice: a
listener is stored for a topic as often as it was at first and has been subscribed for it since,
in the pending table or with a client, and the clients with listeners exist. -/
theorem subscriptions_conserved [DecidableEq L] {p p' : CDataPool L}
    (hnodup : p.mDpClientTbl.Nodup) (howned : p.Owned)
    {es : List (PoolEvent L)} (hrun : run step p es = some p') :
    (∀ id topic l, (p'.pending id topic).count l + p'.storedByClients id topic l
      = (p.pending id topic).count l + p.storedByClients id topic l
        + es.countP (subscribes id topic l))
    ∧ p'.Owned := by
  have hinv : p'.Sound ∧ ∀ id topic l,
      p'.stored id topic l = p.stored id topic l + es.countP (subscribes id topic l) := by
    refine run_history (P := fun past q => q.Sound ∧ ∀ id topic l,
      q.stored id topic l = p.stored id topic l + past.countP (subscribes id topic l))
      ?_ ⟨⟨hnodup, howned⟩, fun _ _ _ => rfl⟩ hrun
    intro past q e q' hq hstep
    obtain ⟨hq', hone⟩ := stored_step hq.1 hstep
    refine ⟨hq', ?_⟩
    intro id topic l
    rw [hone, hq.2, countP_append, countP_singleton]
    omega
  exact ⟨hinv.2, hinv.1.owned⟩

/-- A listener that moved to a client and back is still there, once. -/
theorem conserved_solo :
    ∃ p', run step (solo : CDataPool Nat)
        [.subscribeData 1#32 [97] 7, .updateTopicList 0 [⟨[97], 1#32, [], 0#8⟩], .destroy 0]
          = some p'
      ∧ (p'.pending 1#32 [97]).count 7 + p'.storedByClients 1#32 [97] 7 = 1 ∧ p'.Owned := by
  obtain ⟨p', hrun⟩ := isSome_iff_exists.mp (show (run step (solo : CDataPool Nat)
    [.subscribeData 1#32 [97] 7, .updateTopicList 0 [⟨[97], 1#32, [], 0#8⟩],
      .destroy 0]).isSome = true by decide +kernel)
  have howned : (solo : CDataPool Nat).Owned := by
    intro c h
    simp [solo] at h
  obtain ⟨hcount, howned'⟩ := subscriptions_conserved (nodup_singleton 0) howned hrun
  exact ⟨p', hrun, hcount 1#32 [97] 7, howned'⟩

end CDataPool

end Fdbus.DataPool

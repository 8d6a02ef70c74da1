/-
  Fdbus.DataPool.Pool — `CDataPool` and its clients: who has subscribed what, and where.

  A pool has a client for each server of another pool.  A client knows the topics that its server
  announced last.  A listener is attached to a client whose topics cover what it subscribes; as
  long as there is none, it is pending.

    * `CDataPool`, `doSubscribeData`, `onTopicCreated`, `unregister` — as the source has them,
    * `updateTopicList`, `destroyClient` — what a client does when it hears a list, and when it is
      destroyed,
    * `PoolEvent`, `step` — what happens to the subscriptions of a pool.

  The clients that exist are in a table of their own (`clients`), apart from `mDpClientTbl`, which
  holds pointers.  The registration of a listener at the client's own dispatcher is left out.
-/
import Fdbus.Library.MultiMap
import Fdbus.Client.Connect
import Fdbus.DataPool.Topics

namespace Fdbus.DataPool

open Fdbus.OrderedMap Fdbus.Client Fdbus.Security Fdbus.Server Fdbus.Subscribe List

/-! ## §1. The notification center. -/

/-- `CTopicAvailableInfo`. -/
structure CTopicAvailableInfo where
  mTopic : Topic
  mTopicId : FdbMsgCode
  mAvailable : Bool
  deriving DecidableEq

/-- `CBaseNotificationCenter<CTopicAvailableInfo>`: a set of listeners, and what each has been
told. -/
structure NotificationCenter where
  registered : List Nat
  nodup : registered.Nodup
  notified : List (Nat × CTopicAvailableInfo)

/-- `notify(data)`. -/
def NotificationCenter.notify (nc : NotificationCenter) (info : CTopicAvailableInfo) :
    NotificationCenter :=
  { nc with notified := nc.notified ++ nc.registered.map fun n => (n, info) }

/-- How often a listener has been told something. -/
def NotificationCenter.told (nc : NotificationCenter) (n : Nat) (info : CTopicAvailableInfo) :
    Nat :=
  nc.notified.count (n, info)

/-- Each listener is told once. -/
theorem NotificationCenter.told_notify {nc : NotificationCenter} {n : Nat}
    (hn : n ∈ nc.registered) (info said : CTopicAvailableInfo) :
    (nc.notify said).told n info = nc.told n info + if said = info then 1 else 0 := by
  unfold NotificationCenter.notify NotificationCenter.told
  rw [count_append]
  congr 1
  by_cases h : said = info
  · subst h
    rw [if_pos rfl, count_map_of_injective nc.registered (fun n => (n, said))
      (fun a b hab => (Prod.mk.inj hab).1) n]
    exact count_eq_one_of_mem nc.nodup hn
  · rw [if_neg h]
    apply count_eq_zero_of_not_mem
    intro hmem
    obtain ⟨m, _, hm⟩ := mem_map.mp hmem
    exact h (Prod.mk.inj hm).2

/-! ## §2. The pool. -/

/-- `CDpClient *`. -/
abbrev ClientPtr := Nat

/-- `CDpClient`. -/
structure CDpClient extends CBaseClient where
  mHostName : Text := []
  mTopicTbl : TopicTbl := .empty

/-- `tSubscriptionHandleTbl`. -/
abbrev SubscriptionHandleTbl (L : Type) := MultiMap FdbMsgCode Topic L

/-- `CDataPool`, with the clients that exist; of its server it reads the instance.  `L` are the
listeners. -/
structure CDataPool (L : Type) where
  mDomainId : FdbDomainId
  mDpServer : Option FdbInstanceId
  clients : Map ClientPtr CDpClient
  mDpClientTbl : List ClientPtr
  mPendingSubscriptionHandle : SubscriptionHandleTbl L
  mClientSubscriptionHandle : Map ClientPtr (SubscriptionHandleTbl L)
  mTopicAvailableNtfCenter : NotificationCenter

namespace CDataPool

variable {L : Type}

/-- `notifyTopicCreated(topic, topic_id, created)`. -/
def notifyTopicCreated (p : CDataPool L) (topic : Topic) (id : FdbMsgCode) (created : Bool) :
    CDataPool L :=
  { p with mTopicAvailableNtfCenter := p.mTopicAvailableNtfCenter.notify ⟨topic, id, created⟩ }

/-- `client->topicCreated(topic, topic_id)`. -/
def takes (p : CDataPool L) (c : ClientPtr) (id : FdbMsgCode) (topic : Topic) : Bool :=
  p.clients[c]?.any fun client => client.mTopicTbl.topicCreated topic id

/-- `saveSubscribeHandleForClient(client, topic_id, topic, publish_listener)`. -/
def saveSubscribeHandleForClient (p : CDataPool L) (c : ClientPtr) (id : FdbMsgCode)
    (topic : Topic) (l : L) : CDataPool L :=
  { p with
    mClientSubscriptionHandle := upsert p.mClientSubscriptionHandle c ∅ (·.push id topic l) }

/-- `doSubscribeData(topic_id, topic, publish_listener)`: the first client that takes the
subscription gets it. -/
def doSubscribeData (p : CDataPool L) (id : FdbMsgCode) (topic : Topic) (l : L) : CDataPool L :=
  match p.mDpClientTbl.find? fun c => p.takes c id topic with
  | some c => p.saveSubscribeHandleForClient c id topic l
  | none =>
    { p with mPendingSubscriptionHandle := p.mPendingSubscriptionHandle.push id topic l }

/-- The listeners that wait for a topic. -/
def pending (p : CDataPool L) (id : FdbMsgCode) (topic : Topic) : List L :=
  p.mPendingSubscriptionHandle.list id topic

/-- One entry in the loops of `onTopicCreated`: the client gets all listeners of the entry, if it
takes the subscription. -/
def attach (c : ClientPtr) (p : CDataPool L) (key : FdbMsgCode × Topic) : CDataPool L :=
  if p.takes c key.1 key.2 then
    let p' := (p.pending key.1 key.2).foldl
      (fun p l => p.saveSubscribeHandleForClient c key.1 key.2 l) p
    { p' with mPendingSubscriptionHandle := p'.mPendingSubscriptionHandle.drop key.1 key.2 }
  else p

/-- The entries that `onTopicCreated` looks at: those that match the topic. -/
def matchingKeys (p : CDataPool L) (id : FdbMsgCode) (topic : Topic) :
    List (FdbMsgCode × Topic) :=
  (keyPairs p.mPendingSubscriptionHandle).filter fun key =>
    topicIdMatched id key.1 && topicMatched topic key.2

/-- `onTopicCreated(topic_id, topic, client)`. -/
def onTopicCreated (c : ClientPtr) (p : CDataPool L) (info : CTopicInfo) : CDataPool L :=
  ((p.matchingKeys info.mTopicId info.mTopic).foldl (attach c) p).notifyTopicCreated info.mTopic
    info.mTopicId true

/-- The client replaces its table of topics. -/
def setTopics (p : CDataPool L) (c : ClientPtr) (client : CDpClient) (items : List CTopicInfo) :
    CDataPool L :=
  { p with
    clients := p.clients.insert c { client with mTopicTbl := TopicTbl.empty.toTopicInfo items } }

/-- `CDpClient::updateTopicList(topic_list)`. -/
def updateTopicList (p : CDataPool L) (c : ClientPtr) (client : CDpClient)
    (items : List CTopicInfo) : CDataPool L :=
  -- `mTopicTbl.clear()` tells nothing of the topics that the client knew
  items.foldl (onTopicCreated c) (p.setTopics c client items)

/-- One pointer to the client goes from `mDpClientTbl`. -/
def eraseClient (p : CDataPool L) (c : ClientPtr) : CDataPool L :=
  { p with mDpClientTbl := p.mDpClientTbl.erase c }

/-- The listeners that a client has are subscribed again. -/
def resubscribe (p : CDataPool L) (entries : List (FdbMsgCode × Topic × L)) : CDataPool L :=
  entries.foldl (fun p e => p.doSubscribeData e.1 e.2.1 e.2.2) p

/-- `mClientSubscriptionHandle.erase(it_subscribed)`. -/
def eraseHandles (p : CDataPool L) (c : ClientPtr) : CDataPool L :=
  { p with mClientSubscriptionHandle := p.mClientSubscriptionHandle.erase c }

/-- `unregister(client)`. -/
def unregister (p : CDataPool L) (c : ClientPtr) : CDataPool L :=
  match p.mClientSubscriptionHandle[c]? with
  | none => p.eraseClient c
  | some handles => ((p.eraseClient c).resubscribe handles.entries).eraseHandles c

/-- The loop in `CDpClient::~CDpClient()`. -/
def notifyDestroyed (p : CDataPool L) (infos : List CTopicInfo) : CDataPool L :=
  infos.foldl (fun p info => p.notifyTopicCreated info.mTopic info.mTopicId false) p

/-- `CDpClient::~CDpClient()`. -/
def destroyClient (p : CDataPool L) (c : ClientPtr) (client : CDpClient) : CDataPool L :=
  let p := (p.unregister c).notifyDestroyed client.mTopicTbl.fromTopicInfo
  { p with clients := p.clients.erase c }

end CDataPool

/-! ## §3. Events. -/

/-- What happens to the subscriptions of a pool: a listener subscribes, a client hears a list of
topics, and a client is destroyed. -/
inductive PoolEvent (L : Type) where
  | subscribeData (id : FdbMsgCode) (topic : Topic) (l : L)
  | updateTopicList (c : ClientPtr) (items : List CTopicInfo)
  | destroy (c : ClientPtr)

namespace CDataPool

variable {L : Type}

/-- One event; `none` if there is no such client. -/
def step (p : CDataPool L) : PoolEvent L → Option (CDataPool L)
  | .subscribeData id topic l => some (p.doSubscribeData id topic l)
  | .updateTopicList c items =>
    p.clients[c]?.map fun client => p.updateTopicList c client items
  | .destroy c => p.clients[c]?.map fun client => p.destroyClient c client

theorem nodup_one : [(1 : Nat)].Nodup := nodup_singleton 1

/-- A pool with one client, which has heard of no topic, and one listener for topics. -/
def solo : CDataPool L where
  mDomainId := 0#8
  mDpServer := none
  clients := (∅ : Map ClientPtr CDpClient).insert 0 {}
  mDpClientTbl := [0]
  mPendingSubscriptionHandle := ∅
  mClientSubscriptionHandle := ∅
  mTopicAvailableNtfCenter := ⟨[1], nodup_one, []⟩

theorem get_solo : (solo : CDataPool L).clients[(0 : ClientPtr)]? = some {} := by
  show ((∅ : Map ClientPtr CDpClient).insert 0 {})[(0 : ClientPtr)]? = _
  rw [get_insert, if_pos rfl]

/-! ## §4. What a step leaves alone. -/

section Frame

variable (p : CDataPool L)

/-- The client exists. -/
def live (c : ClientPtr) : Bool := p.clients[c]?.isSome

/-- The listeners that a client has for a topic. -/
def attached (c : ClientPtr) (id : FdbMsgCode) (topic : Topic) : List L :=
  (p.mClientSubscriptionHandle[c]?.getD ∅).list id topic

variable (c : ClientPtr) (id : FdbMsgCode) (topic : Topic) (l : L)

@[simp] theorem pending_save (id' : FdbMsgCode) (topic' : Topic) :
    (p.saveSubscribeHandleForClient c id topic l).pending id' topic' = p.pending id' topic' := rfl

theorem attached_save (c' : ClientPtr) (id' : FdbMsgCode) (topic' : Topic) :
    (p.saveSubscribeHandleForClient c id topic l).attached c' id' topic'
      = p.attached c' id' topic'
        ++ if c = c' ∧ id = id' ∧ topic = topic' then [l] else [] := by
  unfold attached saveSubscribeHandleForClient
  rw [get_upsert]
  by_cases hc : c = c'
  · subst hc
    rw [if_pos rfl, Option.getD_some, MultiMap.list_push]
    simp only [true_and]
  · rw [if_neg hc, if_neg (fun h => hc h.1), append_nil]

theorem others_save {c c' : ClientPtr} (hc' : c' ≠ c) :
    (p.saveSubscribeHandleForClient c id topic l).mClientSubscriptionHandle[c']?
      = p.mClientSubscriptionHandle[c']? := by
  show (upsert _ c ∅ _)[c']? = _
  rw [get_upsert, if_neg hc'.symm]

/-- Only listeners have changed. -/
structure OnlyListeners (p p' : CDataPool L) : Prop where
  clients : p'.clients = p.clients
  table : p'.mDpClientTbl = p.mDpClientTbl
  ntfCenter : p'.mTopicAvailableNtfCenter = p.mTopicAvailableNtfCenter

theorem onlyListeners_foldl {α : Type} {f : CDataPool L → α → CDataPool L}
    (hf : ∀ q a, OnlyListeners q (f q a)) (as : List α) : OnlyListeners p (as.foldl f p) := by
  induction as generalizing p with
  | nil => exact ⟨rfl, rfl, rfl⟩
  | cons a as ih =>
    obtain ⟨hclients, htable, hcenter⟩ := hf p a
    have hrest := ih (f p a)
    exact ⟨hrest.clients.trans hclients, hrest.table.trans htable, hrest.ntfCenter.trans hcenter⟩

theorem onlyListeners_doSubscribeData : OnlyListeners p (p.doSubscribeData id topic l) := by
  unfold doSubscribeData
  split <;> exact ⟨rfl, rfl, rfl⟩

theorem onlyListeners_resubscribe (entries : List (FdbMsgCode × Topic × L)) :
    OnlyListeners p (p.resubscribe entries) := by
  exact onlyListeners_foldl p (fun q e => onlyListeners_doSubscribeData q e.1 e.2.1 e.2.2) entries

@[simp] theorem clients_unregister : (p.unregister c).clients = p.clients := by
  unfold unregister
  cases p.mClientSubscriptionHandle[c]? with
  | none => rfl
  | some handles => exact (onlyListeners_resubscribe (p.eraseClient c) handles.entries).clients

@[simp] theorem table_unregister : (p.unregister c).mDpClientTbl = p.mDpClientTbl.erase c := by
  unfold unregister
  cases p.mClientSubscriptionHandle[c]? with
  | none => rfl
  | some handles => exact (onlyListeners_resubscribe (p.eraseClient c) handles.entries).table

/-- Only the notification center has changed. -/
theorem notifyDestroyed_eq (infos : List CTopicInfo) :
    p.notifyDestroyed infos
      = { p with
          mTopicAvailableNtfCenter :=
            (p.notifyDestroyed infos).mTopicAvailableNtfCenter } := by
  unfold notifyDestroyed
  induction infos generalizing p with
  | nil => rfl
  | cons info infos ih =>
    rw [foldl_cons, ih]
    rfl

theorem clients_destroyClient (client : CDpClient) :
    (p.destroyClient c client).clients = p.clients.erase c := by
  unfold destroyClient
  rw [notifyDestroyed_eq]
  show (p.unregister c).clients.erase c = _
  rw [clients_unregister]

theorem table_destroyClient (client : CDpClient) :
    (p.destroyClient c client).mDpClientTbl = p.mDpClientTbl.erase c := by
  unfold destroyClient
  rw [notifyDestroyed_eq]
  exact table_unregister p c

end Frame

/-! ## §5. A client takes what is pending. -/

section Attach

variable (p : CDataPool L) (c : ClientPtr)

variable (key : FdbMsgCode × Topic) (id : FdbMsgCode) (topic : Topic)

/-- What a client saves one after the other. -/
theorem attached_saveAll (ls : List L) (c' : ClientPtr) (id' : FdbMsgCode) (topic' : Topic) :
    (ls.foldl (fun p l => p.saveSubscribeHandleForClient c id topic l) p).attached c' id' topic'
      = p.attached c' id' topic' ++ if c = c' ∧ id = id' ∧ topic = topic' then ls else [] := by
  induction ls generalizing p with
  | nil => simp
  | cons l ls ih =>
    rw [foldl_cons, ih, attached_save, append_assoc]
    by_cases h : c = c' ∧ id = id' ∧ topic = topic'
    · rw [if_pos h, if_pos h, if_pos h, singleton_append]
    · rw [if_neg h, if_neg h, if_neg h, append_nil]

/-- Saving changes nothing but the listeners of the client. -/
structure SavedFor (c : ClientPtr) (p p' : CDataPool L) : Prop where
  clients : p'.clients = p.clients
  table : p'.mDpClientTbl = p.mDpClientTbl
  pending : p'.mPendingSubscriptionHandle = p.mPendingSubscriptionHandle
  ntfCenter : p'.mTopicAvailableNtfCenter = p.mTopicAvailableNtfCenter
  others : ∀ c', c' ≠ c → p'.mClientSubscriptionHandle[c']? = p.mClientSubscriptionHandle[c']?

theorem savedFor_saveAll (ls : List L) :
    SavedFor c p (ls.foldl (fun p l => p.saveSubscribeHandleForClient c id topic l) p) := by
  induction ls generalizing p with
  | nil => exact ⟨rfl, rfl, rfl, rfl, fun _ _ => rfl⟩
  | cons l ls ih =>
    rw [foldl_cons]
    have hrest := ih (p.saveSubscribeHandleForClient c id topic l)
    refine ⟨hrest.clients, hrest.table, hrest.pending, hrest.ntfCenter, ?_⟩
    intro c' hc'
    rw [hrest.others c' hc']
    exact others_save p id topic l hc'

theorem onlyListeners_attach : OnlyListeners p (attach c p key) := by
  unfold attach
  split
  · have hsaved := savedFor_saveAll p c key.1 key.2 (p.pending key.1 key.2)
    exact ⟨hsaved.clients, hsaved.table, hsaved.ntfCenter⟩
  · exact ⟨rfl, rfl, rfl⟩

theorem pending_attach :
    (attach c p key).pending id topic
      = if key = (id, topic) ∧ p.takes c id topic = true then [] else p.pending id topic := by
  obtain ⟨id', topic'⟩ := key
  unfold attach
  by_cases htakes : p.takes c id' topic' = true
  · rw [if_pos htakes]
    show (MultiMap.drop _ id' topic').list id topic = _
    rw [MultiMap.list_drop, (savedFor_saveAll p c id' topic' _).pending]
    by_cases hkey : id' = id ∧ topic' = topic
    · obtain ⟨rfl, rfl⟩ := hkey
      rw [if_pos ⟨rfl, rfl⟩, if_pos ⟨rfl, htakes⟩]
    · rw [if_neg hkey, if_neg (fun h => hkey (Prod.mk.inj h.1))]
      rfl
  · rw [if_neg htakes, if_neg]
    intro h
    obtain ⟨rfl, rfl⟩ := Prod.mk.inj h.1
    exact htakes h.2

theorem attached_attach (c' : ClientPtr) (id : FdbMsgCode) (topic : Topic) :
    (attach c p key).attached c' id topic
      = p.attached c' id topic
        ++ if c = c' ∧ key = (id, topic) ∧ p.takes c id topic = true then p.pending id topic
          else [] := by
  obtain ⟨id', topic'⟩ := key
  unfold attach
  by_cases htakes : p.takes c id' topic' = true
  · rw [if_pos htakes]
    show (foldl _ p (p.pending id' topic')).attached c' id topic = _
    rw [attached_saveAll]
    by_cases hkey : c = c' ∧ id' = id ∧ topic' = topic
    · obtain ⟨rfl, rfl, rfl⟩ := hkey
      rw [if_pos ⟨rfl, rfl, rfl⟩, if_pos ⟨rfl, rfl, htakes⟩]
    · rw [if_neg hkey, if_neg]
      intro h
      exact hkey ⟨h.1, Prod.mk.inj h.2.1⟩
  · rw [if_neg htakes, if_neg, append_nil]
    intro h
    obtain ⟨rfl, rfl⟩ := Prod.mk.inj h.2.1
    exact htakes h.2.2

theorem others_attach {c' : ClientPtr} (hc' : c' ≠ c) :
    (attach c p key).mClientSubscriptionHandle[c']? = p.mClientSubscriptionHandle[c']? := by
  unfold attach
  split
  · exact (savedFor_saveAll p c key.1 key.2 _).others c' hc'
  · rfl

theorem onlyListeners_attachAll (keys : List (FdbMsgCode × Topic)) :
    OnlyListeners p (keys.foldl (attach c) p) :=
  onlyListeners_foldl p (fun q key => onlyListeners_attach q c key) keys

theorem frame_updateTopicList (client : CDpClient) (items : List CTopicInfo) :
    (p.updateTopicList c client items).clients = (p.setTopics c client items).clients
      ∧ (p.updateTopicList c client items).mDpClientTbl = p.mDpClientTbl := by
  have hwalk : ∀ (items : List CTopicInfo) (q : CDataPool L),
      (items.foldl (onTopicCreated c) q).clients = q.clients
        ∧ (items.foldl (onTopicCreated c) q).mDpClientTbl = q.mDpClientTbl := by
    intro items
    induction items with
    | nil =>
      intro q
      exact ⟨rfl, rfl⟩
    | cons info items ih =>
      intro q
      obtain ⟨hclients, htable⟩ := ih (onTopicCreated c q info)
      have hmoved := onlyListeners_attachAll q c (q.matchingKeys info.mTopicId info.mTopic)
      exact ⟨hclients.trans hmoved.clients, htable.trans hmoved.table⟩
  exact hwalk items (p.setTopics c client items)

end Attach

end CDataPool

end Fdbus.DataPool

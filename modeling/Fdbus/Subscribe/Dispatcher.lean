/-
  Fdbus.Subscribe.Dispatcher — `CBaseEventDispatcher` and `CFdbBaseObject::onBroadcast`.

  A handler is registered under the code and the topic of its item and under a number that counts
  the registrations.  For an event that the object receives, `onBroadcast` collects the handlers of
  the event, of its group and of all groups, in each of them those of the topic and those of the
  empty topic; the first of them is given the message and each other one a copy.

    * `handlesToInvoke_perm_iff` — the collected handlers are those that match, each once, exactly
      if no two of these share their number and the initial response is for all of them,
    * `onBroadcast_exact_iff` — every one of them is invoked, with the code, the topic and the
      payload of the event, exactly if moreover there is only one of them or the copy is no
      different: it has no topic, and its buffer has to have a size in `int32_t`.

  What the event cache of the object holds back does not get to `onBroadcast`.  A worker that a
  message is sent to takes it.  `CEvtHandleTbl::add` refuses an empty callback, so each item has
  one.
-/
import Fdbus.Message.Frame
import Fdbus.Subscribe.Broadcast

namespace Fdbus.Subscribe

open Fdbus.OrderedMap List Option Std.ExtTreeMap
open Fdbus.Message (maxReservedSize msgFlagInitialResponse)

/-! ## §1. The registry. -/

/-- `tRegEntryId`. -/
abbrev RegEntryId := BitVec 32

/-- `CEvtHandleItem`, for callbacks in `F` and workers in `W`. -/
structure CEvtHandleItem (F W : Type) where
  mCode : FdbMsgCode
  mCallback : F
  mTopic : Topic
  mWorker : Option W
  mFlag : BitVec 32

variable {F W : Type}

/-- `CBaseEventDispatcher`. -/
structure CBaseEventDispatcher (F W : Type) where
  mRegistryTbl : Map FdbMsgCode (Map Topic (Map RegEntryId (CEvtHandleItem F W)))
  mRegIdAllocator : RegEntryId

/-- A new dispatcher. -/
def CBaseEventDispatcher.new : CBaseEventDispatcher F W := ⟨∅, 0#32⟩

/-- The body of the loop of `registerCallback`. -/
def CBaseEventDispatcher.registerItem (d : CBaseEventDispatcher F W) (item : CEvtHandleItem F W) :
    CBaseEventDispatcher F W where
  mRegistryTbl :=
    upsert d.mRegistryTbl item.mCode ∅ fun topics =>
      upsert topics item.mTopic ∅ fun callbacks => callbacks.insert d.mRegIdAllocator item
  mRegIdAllocator := d.mRegIdAllocator + 1

/-- `registerCallback(evt_tbl, registered_evt_tbl)`. -/
def CBaseEventDispatcher.registerCallback (d : CBaseEventDispatcher F W)
    (evtTbl : List (CEvtHandleItem F W)) (registeredEvtTbl : List RegEntryId) :
    CBaseEventDispatcher F W × List RegEntryId :=
  evtTbl.foldl (fun st item => (st.1.registerItem item, st.2 ++ [st.1.mRegIdAllocator]))
    (d, registeredEvtTbl)

/-- The dispatcher after tables were registered one after the other. -/
def registered (tables : List (List (CEvtHandleItem F W))) : CBaseEventDispatcher F W :=
  tables.foldl (fun d table => (d.registerCallback table []).1) .new

/-! ## §2. Events. -/

/-- What the dispatcher reads and copies of a message.  `mRegHandle` is there for the answer to a
`CAFCSubscribeMsg`. -/
structure BroadcastMessage where
  mType : EFdbMessageType
  mCode : FdbMsgCode
  mSn : BitVec 32
  mSid : Int
  mOid : FdbObjectId
  mFlag : BitVec 32
  mQOS : EFdbQOS
  mTopic : Topic
  payload : List UInt8
  mRegHandle : Option (List RegEntryId)
  payload_lt : payload.length < 2 ^ 31

/-- `isInitialResponse()`. -/
def BroadcastMessage.isInitialResponse (msg : BroadcastMessage) : Bool :=
  msg.mFlag &&& msgFlagInitialResponse != 0#32

/-- What `CFdbMessage(msg)` copies: `mTopic` is not among the members. -/
def BroadcastMessage.copied (msg : BroadcastMessage) : BroadcastMessage :=
  { msg with mTopic := [], mRegHandle := none }

/-- `CFdbMessage(msg)`; `new uint8_t[total_size]` throws for a size that does not fit `int32_t`. -/
def BroadcastMessage.copy (msg : BroadcastMessage) : Option BroadcastMessage :=
  if maxReservedSize + msg.payload.length < 2 ^ 31 then some msg.copied else none

/-- A handler that is invoked, with its message, in place or on a worker. -/
structure Invocation (F W : Type) where
  handle : CEvtHandleItem F W
  message : BroadcastMessage
  worker : Option W

section Dispatch

variable (isSelf : W → Bool) (d : CBaseEventDispatcher F W) (msg : BroadcastMessage)

/-- `fdbMigrateCallback(msg_ref, msg, fn, worker, obj)`. -/
def migrateCallback (msg : BroadcastMessage) (handle : CEvtHandleItem F W) : Invocation F W :=
  ⟨handle, msg, handle.mWorker.filter fun worker => !isSelf worker⟩

/-- The loop of `dispatchEvents` over the handlers behind the first, where `next` is the copy that
was made already. -/
def dispatchCopies (next : BroadcastMessage) :
    List (CEvtHandleItem F W) → Option (List (Invocation F W))
  | [] => some []
  | [handle] => some [migrateCallback isSelf next handle]
  | handle :: handle' :: handles => do
      -- the next copy is made before this handler is called
      let copy ← msg.copy
      let rest ← dispatchCopies copy (handle' :: handles)
      return migrateCallback isSelf next handle :: rest

/-- `dispatchEvents(handles_to_invoke, msg_ref, msg, obj)`; `none` if a copy throws. -/
def dispatchEvents (handles : List (CEvtHandleItem F W)) : Option (List (Invocation F W)) :=
  match handles with
  | [] => some []
  | [handle] => some [migrateCallback isSelf msg handle]
  | handle :: handles => do
      let next ← msg.copy
      let rest ← dispatchCopies isSelf msg next handles
      return migrateCallback isSelf msg handle :: rest

/-- The handlers that are pushed for a code and a topic. -/
def pushed (registeredEvtTbl : Option (List RegEntryId))
    (callbacks : Map RegEntryId (CEvtHandleItem F W)) : List (CEvtHandleItem F W) :=
  match registeredEvtTbl with
  | none => callbacks.toList.map (·.2)
  | some ids =>
    -- `registered_evt_tbl && !registered_evt_tbl->empty()`
    if ids.isEmpty then callbacks.toList.map (·.2)
    else (callbacks.toList.filter fun e => ids.contains e.1).map (·.2)

/-- The loop of `processMessage` over `match_topics`. -/
def matchTopics (registeredEvtTbl : Option (List RegEntryId))
    (topics : Map Topic (Map RegEntryId (CEvtHandleItem F W))) :
    List Topic → List (CEvtHandleItem F W) → List (CEvtHandleItem F W)
  | [], handles => handles
  | topic :: rest, handles =>
    match topics[topic]? with
    | none => matchTopics registeredEvtTbl topics rest handles
    | some callbacks =>
      let handles := handles ++ pushed registeredEvtTbl callbacks
      -- `break` behind the empty topic
      if topic = [] then handles else matchTopics registeredEvtTbl topics rest handles

/-- `processMessage(msg_ref, code, obj, handles_to_invoke, registered_evt_tbl)`. -/
def CBaseEventDispatcher.processMessage (code : FdbMsgCode)
    (handles : List (CEvtHandleItem F W)) (registeredEvtTbl : Option (List RegEntryId)) :
    List (CEvtHandleItem F W) :=
  match d.mRegistryTbl[code]? with
  | none => handles
  | some topics => matchTopics registeredEvtTbl topics [msg.mTopic, []] handles

/-- `registered_evt_tbl` of `onBroadcast`. -/
def BroadcastMessage.registeredEvtTbl : Option (List RegEntryId) :=
  if msg.isInitialResponse then msg.mRegHandle else none

/-- `handles_to_invoke` of `onBroadcast`. -/
def CBaseEventDispatcher.handlesToInvoke : List (CEvtHandleItem F W) :=
  let handles := d.processMessage msg msg.mCode [] msg.registeredEvtTbl
  let handles := if fdbIsGroup msg.mCode then handles
    else d.processMessage msg (fdbMakeGroup msg.mCode) handles msg.registeredEvtTbl
  if fdbEventInAllGroups msg.mCode then handles
  else d.processMessage msg fdbAllGroupsEvent handles msg.registeredEvtTbl

/-- `onBroadcast(msg_ref)`. -/
def CBaseEventDispatcher.onBroadcast : Option (List (Invocation F W)) :=
  dispatchEvents isSelf msg (d.handlesToInvoke msg)

end Dispatch

/-! ## §3. What is asked for. -/

/-- The code and the topic of a handler match an event: the event itself, its group or all groups,
and its topic or the empty one. -/
def CEvtHandleItem.Matches (item : CEvtHandleItem F W) (msg : BroadcastMessage) : Prop :=
  (item.mCode = msg.mCode ∨ item.mCode = fdbMakeGroup msg.mCode ∨ item.mCode = fdbAllGroupsEvent)
    ∧ (item.mTopic = [] ∨ item.mTopic = msg.mTopic)

instance (item : CEvtHandleItem F W) (msg : BroadcastMessage) : Decidable (item.Matches msg) :=
  inferInstanceAs (Decidable (_ ∧ _))

/-- The message has the code, the topic and the payload of the event. -/
structure BroadcastMessage.Carries (m msg : BroadcastMessage) : Prop where
  code : m.mCode = msg.mCode
  topic : m.mTopic = msg.mTopic
  payload : m.payload = msg.payload

/-- The dispatch is exact: the handlers that are invoked are those that match, each once, and each
with a message that carries the event. -/
def DispatchesExactly (isSelf : W → Bool) (tables : List (List (CEvtHandleItem F W)))
    (msg : BroadcastMessage) : Prop :=
  ∃ invoked, (registered tables).onBroadcast isSelf msg = some invoked
    ∧ (invoked.map (·.handle)).Perm (tables.flatten.filter fun item => item.Matches msg)
    ∧ ∀ i ∈ invoked, i.message.Carries msg

/-! ## §4. What is registered. -/

/-- Where a handler is registered: code, topic and number. -/
abbrev RegKey := FdbMsgCode × Topic × RegEntryId

/-- The handlers that were registered, with their places. -/
def registrations (items : List (CEvtHandleItem F W)) : List (RegKey × CEvtHandleItem F W) :=
  items.zipIdx.map fun e => ((e.1.mCode, e.1.mTopic, BitVec.ofNat 32 e.2), e.1)

/-- The handler at a place. -/
def CBaseEventDispatcher.find (d : CBaseEventDispatcher F W) (key : RegKey) :
    Option (CEvtHandleItem F W) :=
  d.mRegistryTbl[key.1]?.bind fun topics =>
    topics[key.2.1]?.bind fun callbacks => callbacks[key.2.2]?

variable (d : CBaseEventDispatcher F W) (items : List (CEvtHandleItem F W))
  (item : CEvtHandleItem F W) (key : RegKey)

open CBaseEventDispatcher

theorem find_registerItem :
    (d.registerItem item).find key
      = if (item.mCode, item.mTopic, d.mRegIdAllocator) = key then some item else d.find key := by
  obtain ⟨code, topic, id⟩ := key
  unfold find registerItem
  rw [bind_get_upsert]
  by_cases hcode : item.mCode = code
  · subst hcode
    rw [if_pos rfl, bind_get_upsert]
    by_cases htopic : item.mTopic = topic
    · subst htopic
      rw [if_pos rfl, get_insert]
      by_cases hid : d.mRegIdAllocator = id
      · simp [hid]
      · rw [if_neg hid, if_neg (by simp [hid]), get_getD, get_getD, bind_assoc]
    · rw [if_neg htopic, if_neg (by simp [htopic]), bind_get_getD]
  · rw [if_neg hcode, if_neg (by simp [hcode])]

theorem registerCallback_fst (ids : List RegEntryId) :
    (d.registerCallback items ids).1 = items.foldl (·.registerItem ·) d := by
  induction items generalizing d ids with
  | nil => rfl
  | cons item items ih => exact ih _ _

/-- The handlers of several tables are registered one after the other. -/
theorem registered_eq (tables : List (List (CEvtHandleItem F W))) :
    registered tables = tables.flatten.foldl (·.registerItem ·) .new := by
  unfold registered
  rw [foldl_flatten]
  simp only [registerCallback_fst]

theorem mRegIdAllocator_foldl (d : CBaseEventDispatcher F W) :
    (items.foldl (·.registerItem ·) d).mRegIdAllocator
      = d.mRegIdAllocator + BitVec.ofNat 32 items.length := by
  induction items generalizing d with
  | nil => simp
  | cons item items ih =>
    rw [foldl_cons, ih]
    show d.mRegIdAllocator + 1 + _ = _
    rw [length_cons, Nat.add_comm, BitVec.ofNat_add, BitVec.add_assoc]
    rfl

theorem registrations_append_singleton :
    registrations (items ++ [item]) = registrations items
      ++ [((item.mCode, item.mTopic, BitVec.ofNat 32 items.length), item)] := by
  unfold registrations
  simp [zipIdx_append]

/-- The place of one more handler. -/
theorem find_foldl_append_singleton :
    ((items ++ [item]).foldl (·.registerItem ·) new).find key
      = if (item.mCode, item.mTopic, BitVec.ofNat 32 items.length) = key then some item
        else (items.foldl (·.registerItem ·) new).find key := by
  have hid := mRegIdAllocator_foldl items new
  rw [show (new : CBaseEventDispatcher F W).mRegIdAllocator = 0#32 from rfl,
    BitVec.zero_add] at hid
  rw [foldl_append, foldl_cons, foldl_nil, find_registerItem, hid]

/-- What is found was registered there. -/
theorem mem_registrations_of_find {items : List (CEvtHandleItem F W)} {key : RegKey}
    {item : CEvtHandleItem F W}
    (h : (items.foldl (·.registerItem ·) new).find key = some item) :
    (key, item) ∈ registrations items := by
  induction items using reverseRecOn with
  | nil =>
    cases h
  | append_singleton items last ih =>
    rw [find_foldl_append_singleton] at h
    rw [registrations_append_singleton, mem_append, mem_singleton]
    split at h
    · next hkey => exact .inr (by rw [← hkey, ← some.inj h])
    · exact .inl (ih h)

section

variable {items : List (CEvtHandleItem F W)} {key : RegKey} {item : CEvtHandleItem F W}
  (h : (key, item) ∈ registrations items)

include h

/-- Where something was registered, something is found: it, or what was registered there later. -/
theorem find_of_mem_registrations :
    ∃ found, (items.foldl (·.registerItem ·) new).find key = some found := by
  induction items using reverseRecOn with
  | nil => cases h
  | append_singleton items last ih =>
    rw [registrations_append_singleton, mem_append, mem_singleton, Prod.mk.injEq] at h
    rw [find_foldl_append_singleton]
    split
    · exact ⟨last, rfl⟩
    · next hkey =>
        rcases h with hmem | hlast
        · exact ih hmem
        · exact absurd hlast.1.symm hkey

/-- The place of a registration has the code and the topic of its handler. -/
theorem code_topic_of_mem_registrations : key.1 = item.mCode ∧ key.2.1 = item.mTopic := by
  obtain ⟨e, _, he⟩ := mem_map.mp h
  rw [Prod.mk.injEq] at he
  rw [← he.1, ← he.2]
  exact ⟨rfl, rfl⟩

end

/-- The registrations that match an event. -/
def matchingRegistrations (items : List (CEvtHandleItem F W)) (msg : BroadcastMessage) :
    List (RegKey × CEvtHandleItem F W) :=
  (registrations items).filter fun r => r.2.Matches msg

theorem map_snd_matchingRegistrations (msg : BroadcastMessage) :
    (matchingRegistrations items msg).map Prod.snd
      = items.filter fun item => item.Matches msg := by
  have hall : (registrations items).map Prod.snd = items := by
    unfold registrations
    rw [List.map_map]
    exact List.zipIdx_map_fst 0 items
  conv_rhs => rw [← hall]
  rw [List.filter_map]
  rfl

/-! ## §5. The handlers that are collected. -/

section Collected

variable (d : CBaseEventDispatcher F W) (msg : BroadcastMessage)

/-- The initial response is for the handler of this number. -/
def BroadcastMessage.isFor (id : RegEntryId) : Bool :=
  msg.registeredEvtTbl.elim true fun ids => ids.isEmpty || ids.contains id

/-- The event, as the subscription tables see it. -/
def BroadcastMessage.event : EventMessage := ⟨msg.mCode, msg.mTopic, msg.mSid, false⟩

/-- The entries for a code and a topic that the event is for. -/
def CBaseEventDispatcher.entriesAt (code : FdbMsgCode) (topic : Topic) :
    List (RegKey × CEvtHandleItem F W) :=
  (d.mRegistryTbl[code]?.bind fun topics => topics[topic]?).elim [] fun callbacks =>
    (callbacks.toList.filter fun e => msg.isFor e.1).map fun e => ((code, topic, e.1), e.2)

/-- The entries that are collected for a list of codes. -/
def CBaseEventDispatcher.entries (codes : List FdbMsgCode) : List (RegKey × CEvtHandleItem F W) :=
  codes.flatMap fun code => (matchingTopics msg.event).flatMap fun topic =>
    d.entriesAt msg code topic

theorem pushed_eq (callbacks : Map RegEntryId (CEvtHandleItem F W)) :
    pushed msg.registeredEvtTbl callbacks
      = (callbacks.toList.filter fun e => msg.isFor e.1).map (·.2) := by
  unfold pushed BroadcastMessage.isFor
  cases msg.registeredEvtTbl with
  | none => simp
  | some ids =>
    by_cases hids : ids.isEmpty = true
    · simp [hids]
    · simp [hids]

/-- The loop over the topics, entered with the handlers collected before. -/
theorem matchTopics_eq (topics : Map Topic (Map RegEntryId (CEvtHandleItem F W)))
    (handles : List (CEvtHandleItem F W)) :
    matchTopics msg.registeredEvtTbl topics [msg.mTopic, []] handles
      = handles ++ (matchingTopics msg.event).flatMap fun topic =>
          topics[topic]?.elim [] (pushed msg.registeredEvtTbl) := by
  unfold matchingTopics BroadcastMessage.event
  by_cases hempty : msg.mTopic = []
  · -- the empty topic is looked for twice only if it is not there
    simp only [hempty, matchTopics, if_true, flatMap_cons, flatMap_nil, append_nil]
    cases topics[([] : Topic)]? with
    | none => simp
    | some callbacks => rfl
  · simp only [matchTopics, if_neg hempty, if_true, flatMap_cons, flatMap_nil,
      append_nil]
    cases topics[msg.mTopic]? with
    | none => cases topics[([] : Topic)]? <;> simp
    | some callbacks => cases topics[([] : Topic)]? <;> simp

theorem processMessage_eq (code : FdbMsgCode) (handles : List (CEvtHandleItem F W)) :
    d.processMessage msg code handles msg.registeredEvtTbl
      = handles ++ (d.entries msg [code]).map Prod.snd := by
  have hat : ∀ topic, (d.entriesAt msg code topic).map Prod.snd
      = (d.mRegistryTbl[code]?.bind fun topics => topics[topic]?).elim []
          (pushed msg.registeredEvtTbl) := by
    intro topic
    unfold entriesAt
    cases d.mRegistryTbl[code]?.bind fun topics => topics[topic]? with
    | none => rfl
    | some callbacks =>
      show List.map _ (List.map _ _) = pushed _ callbacks
      rw [pushed_eq, List.map_map]
      rfl
  unfold processMessage entries
  rw [flatMap_cons, flatMap_nil, append_nil, map_flatMap]
  simp only [hat]
  cases d.mRegistryTbl[code]? with
  | none => simp
  | some topics => exact matchTopics_eq msg topics handles

/-- The codes that are asked for an event: its own, its group if that is another one, and all
groups if it is not in there already. -/
theorem matchingCodes_event : matchingCodes msg.event
    = [msg.mCode] ++ (if fdbIsGroup msg.mCode then [] else [fdbMakeGroup msg.mCode])
      ++ (if fdbEventInAllGroups msg.mCode then [] else [fdbAllGroupsEvent]) := by
  rw [matchingCodes_eq]
  show (if fdbIsGroup msg.mCode then [] else [msg.mCode])
    ++ (if fdbEventInAllGroups msg.mCode then _ else _) = _
  by_cases hin : fdbEventInAllGroups msg.mCode = true
  · have hall := (fdbEventInAllGroups_iff msg.mCode).mp hin
    by_cases hgroup : fdbIsGroup msg.mCode = true
    · have hself := fdbMakeGroup_of_isGroup hgroup
      simp [hin, hgroup, ← hall, hself]
    · simp [hin, hgroup, hall]
  · by_cases hgroup : fdbIsGroup msg.mCode = true
    · rw [if_pos hgroup, if_neg hin, if_pos hgroup, if_neg hin]
      show [fdbMakeGroup msg.mCode, fdbAllGroupsEvent] = [msg.mCode, fdbAllGroupsEvent]
      rw [fdbMakeGroup_of_isGroup hgroup]
    · rw [if_neg hgroup, if_neg hin, if_neg hgroup, if_neg hin]
      rfl

/-- **The handlers that are collected**: those of the codes that match. -/
theorem handlesToInvoke_eq :
    d.handlesToInvoke msg = (d.entries msg (matchingCodes msg.event)).map Prod.snd := by
  have happend : ∀ codes codes' : List FdbMsgCode,
      d.entries msg (codes ++ codes') = d.entries msg codes ++ d.entries msg codes' := by
    intro codes codes'
    exact flatMap_append
  unfold handlesToInvoke
  rw [matchingCodes_event, happend, happend]
  simp only [processMessage_eq, nil_append]
  cases fdbIsGroup msg.mCode <;> cases fdbEventInAllGroups msg.mCode <;>
    simp [entries]

/-- What stands at a code and a topic. -/
theorem mem_entriesAt (code : FdbMsgCode) (topic : Topic) (key : RegKey)
    (item : CEvtHandleItem F W) :
    (key, item) ∈ d.entriesAt msg code topic
      ↔ (code = key.1 ∧ topic = key.2.1)
        ∧ msg.isFor key.2.2 = true ∧ d.find key = some item := by
  obtain ⟨code', topic', id⟩ := key
  unfold entriesAt find
  cases hcallbacks : d.mRegistryTbl[code]?.bind fun topics => topics[topic]? with
  | none =>
    constructor
    · intro h
      cases h
    · intro h
      obtain ⟨⟨rfl, rfl⟩, _, hfind⟩ := h
      rw [← Option.bind_assoc, hcallbacks] at hfind
      cases hfind
  | some callbacks =>
    simp only [Option.elim, List.mem_map, List.mem_filter, Prod.mk.injEq]
    constructor
    · intro h
      obtain ⟨e, ⟨hmem, hfor⟩, ⟨rfl, rfl, rfl⟩, rfl⟩ := h
      refine ⟨⟨rfl, rfl⟩, hfor, ?_⟩
      rw [← Option.bind_assoc, hcallbacks]
      exact Std.ExtTreeMap.mem_toList_iff_getElem?_eq_some.mp hmem
    · intro h
      obtain ⟨⟨rfl, rfl⟩, hfor, hfind⟩ := h
      rw [← Option.bind_assoc, hcallbacks] at hfind
      exact ⟨(id, item), ⟨Std.ExtTreeMap.mem_toList_iff_getElem?_eq_some.mpr hfind, hfor⟩,
        ⟨rfl, rfl, rfl⟩, rfl⟩

/-- The code and the topic of a place match. -/
theorem mem_entries_iff (key : RegKey) (item : CEvtHandleItem F W) :
    (key, item) ∈ d.entries msg (matchingCodes msg.event)
      ↔ (key.1 ∈ matchingCodes msg.event ∧ key.2.1 ∈ matchingTopics msg.event)
        ∧ msg.isFor key.2.2 = true ∧ d.find key = some item := by
  unfold entries
  simp only [mem_flatMap, mem_entriesAt]
  constructor
  · intro h
    obtain ⟨c, hc, t, ht, ⟨rfl, rfl⟩, hrest⟩ := h
    exact ⟨⟨hc, ht⟩, hrest⟩
  · intro h
    exact ⟨key.1, h.1.1, key.2.1, h.1.2, ⟨rfl, rfl⟩, h.2⟩

/-- At a code and a topic there are no two handlers of one number. -/
theorem nodup_entriesAt (code : FdbMsgCode) (topic : Topic) :
    ((d.entriesAt msg code topic).map Prod.fst).Nodup := by
  unfold entriesAt
  cases d.mRegistryTbl[code]?.bind fun topics => topics[topic]? with
  | none => exact nodup_nil
  | some callbacks =>
    simp only [Option.elim, List.map_map]
    have hids : callbacks.toList.Pairwise fun a b => a.1 ≠ b.1 :=
      distinct_keys_toList.imp fun {a b} h hab =>
        h (Std.LawfulEqCmp.compare_eq_iff_eq.mpr hab)
    refine pairwise_map.mpr ((hids.filter _).imp ?_)
    intro a b hne heq
    exact hne (congrArg (fun key : RegKey => key.2.2) heq)

/-- No place is collected twice. -/
theorem nodup_entries : ((d.entries msg (matchingCodes msg.event)).map Prod.fst).Nodup := by
  have hcodes : (matchingCodes msg.event).Nodup := nodup_dedup _
  have htopics : (matchingTopics msg.event).Nodup := by
    unfold matchingTopics
    split
    · exact nodup_singleton _
    · next h => simp [h]
  -- what stands at different codes or topics has different keys
  have hkey : ∀ code topic, ∀ key ∈ (d.entriesAt msg code topic).map Prod.fst,
      code = key.1 ∧ topic = key.2.1 := by
    intro code topic key hmem
    obtain ⟨e, he, rfl⟩ := mem_map.mp hmem
    exact ((mem_entriesAt d msg code topic e.1 e.2).mp he).1
  unfold entries
  simp only [map_flatMap]
  refine nodup_flatMap.mpr ⟨fun code _ => ?_, ?_⟩
  · refine nodup_flatMap.mpr ⟨fun topic _ => nodup_entriesAt d msg code topic, ?_⟩
    refine htopics.imp ?_
    intro topic topic' hne key hkey₁ hkey₂
    exact hne ((hkey code topic key hkey₁).2.trans (hkey code topic' key hkey₂).2.symm)
  · refine hcodes.imp ?_
    intro code code' hne key hkey₁ hkey₂
    obtain ⟨topic, _, hmem⟩ := mem_flatMap.mp hkey₁
    obtain ⟨topic', _, hmem'⟩ := mem_flatMap.mp hkey₂
    exact hne ((hkey code topic key hmem).1.trans (hkey code' topic' key hmem').1.symm)

end Collected

/-! ## §6. Each handler once. -/

section Exact

variable (tables : List (List (CEvtHandleItem F W))) (msg : BroadcastMessage)

/-- Nothing stands in the way of a handler that matches: no two of them have the same place, which
takes `2 ^ 32` registrations, and the event is for all of them, which only an initial response need
not be. -/
structure EachHasPlace : Prop where
  distinct : ((matchingRegistrations tables.flatten msg).map Prod.fst).Nodup
  isFor : ∀ r ∈ matchingRegistrations tables.flatten msg, msg.isFor r.1.2.2 = true

theorem matches_iff {key : RegKey} {item : CEvtHandleItem F W}
    (h : (key, item) ∈ registrations tables.flatten) :
    item.Matches msg
      ↔ key.1 ∈ matchingCodes msg.event ∧ key.2.1 ∈ matchingTopics msg.event := by
  obtain ⟨hcode, htopic⟩ := code_topic_of_mem_registrations h
  rw [mem_matchingCodes, mem_matchingTopics, hcode, htopic]
  rfl

/-- What is collected is registered, matches, and the event is for it. -/
theorem mem_matchingRegistrations_of_mem_entries {r : RegKey × CEvtHandleItem F W}
    (h : r ∈ (registered tables).entries msg (matchingCodes msg.event)) :
    r ∈ matchingRegistrations tables.flatten msg ∧ msg.isFor r.1.2.2 = true := by
  obtain ⟨hmatches, hfor, hfind⟩ := (mem_entries_iff _ msg r.1 r.2).mp h
  rw [registered_eq] at hfind
  have hreg := mem_registrations_of_find hfind
  refine ⟨mem_filter.mpr ⟨hreg, ?_⟩, hfor⟩
  exact decide_eq_true ((matches_iff tables msg hreg).mpr hmatches)

/-- If each handler has its place, all of them are collected. -/
theorem mem_entries_of_each {tables : List (List (CEvtHandleItem F W))} {msg : BroadcastMessage}
    (heach : EachHasPlace tables msg) {r : RegKey × CEvtHandleItem F W}
    (h : r ∈ matchingRegistrations tables.flatten msg) :
    r ∈ (registered tables).entries msg (matchingCodes msg.event) := by
  obtain ⟨hreg, hmatches⟩ := mem_filter.mp h
  obtain ⟨found, hfind⟩ := find_of_mem_registrations hreg
  rw [← registered_eq] at hfind
  have hkey := (matches_iff tables msg hreg).mp (of_decide_eq_true hmatches)
  have hmem : (r.1, found) ∈ (registered tables).entries msg (matchingCodes msg.event) :=
    (mem_entries_iff _ msg r.1 found).mpr ⟨hkey, heach.isFor r h, hfind⟩
  -- what is found at the place of `r` is `r`
  have hsame := inj_on_of_nodup_map heach.distinct
    (mem_matchingRegistrations_of_mem_entries tables msg hmem).1 h rfl
  rw [← hsame]
  exact hmem

/-- **The handlers that match are collected once each**, exactly if each of them has its place. -/
theorem handlesToInvoke_perm_iff :
    ((registered tables).handlesToInvoke msg).Perm
        (tables.flatten.filter fun item => item.Matches msg)
      ↔ EachHasPlace tables msg := by
  rw [handlesToInvoke_eq, ← map_snd_matchingRegistrations]
  have hnodup := nodup_entries (registered tables) msg
  constructor
  · intro hperm
    -- as many places are collected as handlers match, so the places are all there
    have hlength := hperm.length_eq
    rw [length_map, length_map] at hlength
    have hsubset : ((registered tables).entries msg (matchingCodes msg.event)).map Prod.fst
        ⊆ (matchingRegistrations tables.flatten msg).map Prod.fst := by
      intro key hkey
      obtain ⟨r, hr, rfl⟩ := mem_map.mp hkey
      exact mem_map_of_mem (mem_matchingRegistrations_of_mem_entries tables msg hr).1
    have hplaces := (subperm_of_subset hnodup hsubset).perm_of_length_le
      (by rw [length_map, length_map, hlength])
    refine ⟨hplaces.nodup_iff.mp hnodup, ?_⟩
    intro r hr
    obtain ⟨r', hr', hkey⟩ := mem_map.mp (hplaces.mem_iff.mpr (mem_map_of_mem hr))
    rw [← hkey]
    exact (mem_matchingRegistrations_of_mem_entries tables msg hr').2
  · intro heach
    apply Perm.map
    refine (perm_ext_iff_of_nodup hnodup.of_map heach.distinct.of_map).mpr fun r => ?_
    exact ⟨fun h => (mem_matchingRegistrations_of_mem_entries tables msg h).1,
      mem_entries_of_each heach⟩

end Exact

/-! ## §7. The messages they get. -/

section Messages

variable (isSelf : W → Bool) (msg : BroadcastMessage)

/-- The handlers behind the first all get the copy. -/
theorem dispatchCopies_eq (hsize : maxReservedSize + msg.payload.length < 2 ^ 31)
    (handles : List (CEvtHandleItem F W)) :
    dispatchCopies isSelf msg msg.copied handles
      = some (handles.map (migrateCallback isSelf msg.copied)) := by
  induction handles with
  | nil => rfl
  | cons handle handles ih =>
    cases handles with
    | nil => rfl
    | cons handle' handles =>
      unfold dispatchCopies BroadcastMessage.copy
      rw [if_pos hsize]
      show (dispatchCopies isSelf msg msg.copied (handle' :: handles)).bind _ = _
      rw [ih]
      rfl

/-- The dispatch to more than one handler. -/
theorem dispatchEvents_many (first second : CEvtHandleItem F W)
    (rest : List (CEvtHandleItem F W)) :
    dispatchEvents isSelf msg (first :: second :: rest)
      = if maxReservedSize + msg.payload.length < 2 ^ 31 then
          some (migrateCallback isSelf msg first
            :: (second :: rest).map (migrateCallback isSelf msg.copied))
        else none := by
  unfold dispatchEvents BroadcastMessage.copy
  by_cases hsize : maxReservedSize + msg.payload.length < 2 ^ 31
  · rw [if_pos hsize, if_pos hsize]
    show (dispatchCopies isSelf msg msg.copied (second :: rest)).bind _ = _
    rw [dispatchCopies_eq isSelf msg hsize]
    rfl
  · rw [if_neg hsize, if_neg hsize]
    rfl

/-- Whoever is invoked was collected. -/
theorem dispatchEvents_handles {handles : List (CEvtHandleItem F W)}
    {invoked : List (Invocation F W)} (h : dispatchEvents isSelf msg handles = some invoked) :
    invoked.map (·.handle) = handles := by
  match handles with
  | [] =>
    cases h
    rfl
  | [handle] =>
    cases h
    rfl
  | first :: second :: rest =>
    rw [dispatchEvents_many, ite_none_right_eq_some] at h
    cases h.2
    simp [migrateCallback, Function.comp_def]

/-- There is at most one handler, or the copy has the topic of the event and its buffer has a
size. -/
def CopiesAlike (count : Nat) : Prop :=
  count ≤ 1 ∨ msg.mTopic = [] ∧ maxReservedSize + msg.payload.length < 2 ^ 31

/-- **Who is given what**: every handler gets the event, exactly if the copies are like it. -/
theorem dispatchEvents_carries_iff (handles : List (CEvtHandleItem F W)) :
    (∃ invoked, dispatchEvents isSelf msg handles = some invoked
        ∧ ∀ i ∈ invoked, i.message.Carries msg)
      ↔ CopiesAlike msg handles.length := by
  unfold CopiesAlike
  match handles with
  | [] => exact ⟨fun _ => .inl (by simp), fun _ => ⟨[], rfl, by simp⟩⟩
  | [handle] =>
    refine ⟨fun _ => .inl (by simp), fun _ => ⟨[migrateCallback isSelf msg handle], rfl, ?_⟩⟩
    intro i hi
    obtain rfl := mem_singleton.mp hi
    exact ⟨rfl, rfl, rfl⟩
  | first :: second :: rest =>
    have hmany : ¬ (first :: second :: rest).length ≤ 1 := by simp
    rw [or_iff_right hmany]
    simp only [dispatchEvents_many, ite_none_right_eq_some, some.injEq]
    constructor
    · intro h
      obtain ⟨invoked, ⟨hsize, rfl⟩, hcarries⟩ := h
      -- the second handler has the first copy
      have hsecond := hcarries (migrateCallback isSelf msg.copied second) (by simp)
      exact ⟨hsecond.topic.symm, hsize⟩
    · intro h
      refine ⟨_, ⟨h.2, rfl⟩, ?_⟩
      intro i hi
      rcases mem_cons.mp hi with rfl | hi
      · exact ⟨rfl, rfl, rfl⟩
      · obtain ⟨handle, _, rfl⟩ := mem_map.mp hi
        exact ⟨rfl, h.1.symm, rfl⟩

end Messages

/-- **Exact dispatch**: the handlers that match are invoked once each, with the event, exactly if
each has its place and the copies are like the event. -/
theorem onBroadcast_exact_iff (isSelf : W → Bool) (tables : List (List (CEvtHandleItem F W)))
    (msg : BroadcastMessage) :
    DispatchesExactly isSelf tables msg
      ↔ EachHasPlace tables msg
        ∧ CopiesAlike msg (tables.flatten.countP fun item => item.Matches msg) := by
  rw [countP_eq_length_filter]
  constructor
  · intro h
    obtain ⟨invoked, hinvoked, hperm, hcarries⟩ := h
    have hhandles := dispatchEvents_handles isSelf msg hinvoked
    rw [hhandles] at hperm
    refine ⟨(handlesToInvoke_perm_iff tables msg).mp hperm, ?_⟩
    rw [← hperm.length_eq]
    exact (dispatchEvents_carries_iff isSelf msg _).mp ⟨invoked, hinvoked, hcarries⟩
  · intro h
    have hperm := (handlesToInvoke_perm_iff tables msg).mpr h.1
    have halike := h.2
    rw [← hperm.length_eq] at halike
    obtain ⟨invoked, hinvoked, hcarries⟩ := (dispatchEvents_carries_iff isSelf msg _).mpr halike
    refine ⟨invoked, hinvoked, ?_, hcarries⟩
    rw [dispatchEvents_handles isSelf msg hinvoked]
    exact hperm

/-- An event with the code 7, the topic `a` and one byte of payload. -/
def topicEvent : BroadcastMessage :=
  ⟨.mtBroadcast, 7#32, 1#32, 1, 0#32, 0#32, .qosReliable, [97], [5], none, by decide⟩

/-- A handler for the event 7 with the topic `a`, and one for its group with any topic; their
callbacks are numbered, and neither has a worker. -/
def topicAndGroup : List (CEvtHandleItem Nat Unit) :=
  [⟨7#32, 0, [97], none, 0#32⟩, ⟨0x00ffffff#32, 1, [], none, 0#32⟩]

/-- **The topic is lost**: the second of two handlers is given a message without topic. -/
theorem second_handler_loses_topic :
    ¬ DispatchesExactly (fun _ => true) [topicAndGroup] topicEvent := by
  have hinvoked : (registered [topicAndGroup]).onBroadcast (fun _ => true) topicEvent
      = some (topicAndGroup.zipWith (fun handle message => ⟨handle, message, none⟩)
          [topicEvent, topicEvent.copied]) := by
    rfl
  intro h
  obtain ⟨invoked, hsome, _, hcarries⟩ := h
  obtain rfl := some.inj (hsome.symm.trans hinvoked)
  have hsecond := hcarries ⟨⟨0x00ffffff#32, 1, [], none, 0#32⟩, topicEvent.copied, none⟩
    (by simp [topicAndGroup])
  exact absurd hsecond.topic (by decide)

end Fdbus.Subscribe

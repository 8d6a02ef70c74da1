/-
  Fdbus.Server.Publishers — how an address list reaches the subscribers.

  The name server has one object for each kind of subscription.  A list is broadcast by such an
  object either to all its subscribers, or to one session after the other, with the tokens of
  that session; the answer to a subscription goes to the session that asked.

    * `Sent` is one list handed to one object of a session,
    * `Subscribed` — an object of a session holds a subscription that covers a service,
    * `mem_broadcastAll`, `mem_broadcastSession`, `mem_subscribedSessions` — who is sent a list,
    * `subscribedSessions_toFinset` — the sessions are those that the walk of
      `getSubscribeTable` collects.

  A broadcast is a job of the context thread; the jobs are carried out in the order they were
  made, so the model sends at once.
-/
import Fdbus.Server.Notify
import Fdbus.Subscribe.SubscribedSessions

namespace Fdbus.Server

open Fdbus.OrderedMap Fdbus.Security Fdbus.Subscribe List

/-! ## §1. The publishers. -/

/-- The class of a publisher's object id: "type is regarded as object ID". -/
def SubscribeType.cls : SubscribeType → BitVec 32
  | .intraNormal => 1#32
  | .intraMonitor => 2#32
  | .interNormal => 3#32
  | .interMonitor => 4#32
  | .moreAddress => 5#32

/-- The object id of a publisher: the serial number counts the publishers as they are bound. -/
def SubscribeType.objId (type : SubscribeType) : FdbObjectId := (type.cls <<< 16) ||| type.cls

/-- The publisher that a request for an object id is for. -/
def SubscribeType.ofObject (obj : FdbObjectId) : Option SubscribeType :=
  [.intraNormal, .intraMonitor, .interNormal, .interMonitor, .moreAddress].find? fun type =>
    type.cls = fdbObjectGetClass obj

theorem SubscribeType.class_objId (type : SubscribeType) :
    fdbObjectGetClass type.objId = type.cls := by
  cases type <;> rfl

/-- The subscriptions of each publisher. -/
abbrev Publishers := SubscribeType → CFdbBaseObject

/-- An address list that is handed to an object of a session: with the code and the topic of the
event that carries it. -/
structure Sent where
  type : SubscribeType
  session : SessionPtr
  obj : FdbObjectId
  code : FdbInstanceId
  topic : Text
  list : FdbMsgAddressList
  deriving DecidableEq

/-- What is sent of a list, if there is one. -/
theorem mem_elim {α : Type} {o : Option α} {f : α → List Sent} {m : Sent} :
    m ∈ o.elim [] f ↔ ∃ a, o = some a ∧ m ∈ f a := by
  cases o with
  | none => simp
  | some a => simp

/-- The sessions that are online. -/
abbrev Sessions := Map SessionPtr SessionInfo

section Broadcast

variable (pubs : Publishers) (type : SubscribeType)

/-- `publisher.broadcast(code, builder, topic)`. -/
def broadcastAll (code : FdbInstanceId) (topic : Text) (list : FdbMsgAddressList) : List Sent :=
  ((pubs type).broadcastMsg Int.ofNat ⟨code, topic, fdbInvalidId, false⟩ type.objId).copies.map
    fun c => ⟨type, c.1, c.2, code, topic, list⟩

/-- `publisher.broadcast(sid, code, builder, topic)` with `sender` the publisher's object id, and
`msg->broadcast(code, builder, topic)` with `sender` the one that the message was sent to. -/
def broadcastSession (session : SessionPtr) (sender : FdbObjectId) (code : FdbInstanceId)
    (topic : Text) (list : FdbMsgAddressList) : List Sent :=
  ((pubs type).broadcastTo Int.ofNat ⟨code, topic, session, false⟩ session sender).copies.map
    fun c => ⟨type, c.1, c.2, code, topic, list⟩

/-- `getSubscribeTable(code, topic, sessions)`.  The source orders sessions by their address. -/
def subscribedSessions (code : FdbInstanceId) (topic : Text) : List SessionPtr :=
  ((matchingEntries (pubs type) ⟨code, topic, fdbInvalidId, false⟩).map Entry.session).dedup

variable (cfg : NsConfig) (sessions : Sessions)

/-- `broadcastSvcAddrLocal(tokens, addr_list)` on the publisher for local clients, and
`broadcastSvcAddrRemote(tokens, addr_list)` on that for remote ones. -/
def broadcastSvcAddr (tokens : List Token) (list : FdbMsgAddressList) : List Sent :=
  (subscribedSessions pubs type list.instanceId list.serviceName).flatMap fun session =>
    match sessions[session]? with
    | some info =>
      broadcastSession pubs type session type.objId list.instanceId list.serviceName
        (dress cfg tokens type info list)
    | none => []

/-- `broadcastSvcAddrLocal(tokens, addr_list, msg)`, or the same for remote clients, and
`msg->broadcast` for monitors: an answer to a message of a session to an object. -/
def answerSvcAddr (session : SessionPtr) (sender : FdbObjectId) (tokens : List Token)
    (list : FdbMsgAddressList) : List Sent :=
  match sessions[session]? with
  | some info =>
    broadcastSession pubs type session sender list.instanceId list.serviceName
      (dress cfg tokens type info list)
  | none => []

end Broadcast

/-! ## §2. Who is sent a list. -/

/-- An object of a session holds a subscription that covers the service. -/
def Subscribed (pubs : Publishers) (type : SubscribeType) (session : SessionPtr)
    (obj : FdbObjectId) (name : Text) (inst : FdbInstanceId) : Prop :=
  ∃ pattern topic, ((pubs type).lookup pattern session obj topic).isSome = true
    ∧ Covers topic pattern name inst

section Reach

variable {pubs : Publishers} {type : SubscribeType}

/-- The subscriptions that match an event of the service are those that cover it. -/
theorem subscribed_iff (session : SessionPtr) (obj : FdbObjectId) (msg : EventMessage) :
    Subscribed pubs type session obj msg.topic msg.code
      ↔ ∃ code ∈ matchingCodes msg, ∃ topic ∈ matchingTopics msg,
        ((pubs type).lookup code session obj topic).isSome = true := by
  constructor
  · rintro ⟨pattern, topic, hsub, hcovers⟩
    obtain ⟨hcode, htopic⟩ := (covers_iff topic pattern msg).mp hcovers
    exact ⟨pattern, hcode, topic, htopic, hsub⟩
  · rintro ⟨code, hcode, topic, htopic, hsub⟩
    exact ⟨code, topic, hsub, (covers_iff topic code msg).mpr ⟨hcode, htopic⟩⟩

variable {code : FdbInstanceId} {list : FdbMsgAddressList} {sender : FdbObjectId}
  {session : SessionPtr} {topic : Text}

/-- **A list for all subscribers** goes to everybody who subscribed the code and topic. -/
theorem mem_broadcastAll {m : Sent} :
    m ∈ broadcastAll pubs type code topic list
      ↔ Subscribed pubs type m.session m.obj topic code
        ∧ m = ⟨type, m.session, m.obj, code, topic, list⟩ := by
  have hreach := mem_copies_broadcastMsg (pubs type) Int.ofNat type.objId
    (show (⟨code, topic, fdbInvalidId, false⟩ : EventMessage).isNoReflect = false from rfl)
  unfold broadcastAll
  rw [mem_map, subscribed_iff m.session m.obj ⟨code, topic, fdbInvalidId, false⟩, ← hreach]
  constructor
  · rintro ⟨⟨s, o⟩, hc, rfl⟩
    exact ⟨hc, rfl⟩
  · rintro ⟨hc, hm⟩
    exact ⟨(m.session, m.obj), hc, hm.symm⟩

/-- **A list for one session** goes to the objects of the session that hear the code and
topic. -/
theorem mem_broadcastSession {m : Sent} :
    m ∈ broadcastSession pubs type session sender code topic list
      ↔ m.obj ∈ (pubs type).hearers ⟨code, topic, session, false⟩ session (fdbObjectGetClass sender)
        ∧ m = ⟨type, session, m.obj, code, topic, list⟩ := by
  unfold broadcastSession
  rw [broadcastTo_copies _ _ rfl, map_map, mem_map]
  constructor
  · rintro ⟨o, ho, rfl⟩
    exact ⟨ho, rfl⟩
  · rintro ⟨ho, hm⟩
    exact ⟨m.obj, ho, hm.symm⟩

/-- A list for one session reaches somebody if an object of the publisher's class holds a
subscription that covers the code and topic. -/
theorem exists_broadcastSession (hclass : fdbObjectGetClass sender = type.cls)
    (code : FdbInstanceId) (topic : Text) (list : FdbMsgAddressList)
    (p : FdbMsgAddressList → Prop) :
    (∃ m ∈ broadcastSession pubs type session sender code topic list, p m.list)
      ↔ p list ∧ ∃ o, fdbObjectGetClass o = type.cls
        ∧ Subscribed pubs type session o topic code := by
  have hreach := hearers_ne_nil_iff (pubs type) ⟨code, topic, session, false⟩ session type.cls
  simp only [← subscribed_iff session _ ⟨code, topic, session, false⟩] at hreach
  rw [← hreach]
  simp only [mem_broadcastSession, hclass]
  constructor
  · rintro ⟨m, ⟨hmem, hm⟩, hp⟩
    rw [hm] at hp
    exact ⟨hp, ne_nil_of_mem hmem⟩
  · rintro ⟨hp, hne⟩
    obtain ⟨o, ho⟩ := exists_mem_of_ne_nil _ hne
    exact ⟨⟨type, session, o, code, topic, list⟩, ⟨ho, rfl⟩, hp⟩

theorem mem_subscribedSessions :
    session ∈ subscribedSessions pubs type code topic
      ↔ ∃ obj, Subscribed pubs type session obj topic code := by
  unfold subscribedSessions
  simp only [mem_dedup, mem_map, mem_matchingEntries]
  constructor
  · rintro ⟨e, ⟨hcode, htopic, hsub⟩, rfl⟩
    refine ⟨e.obj, (subscribed_iff e.session e.obj ⟨code, topic, fdbInvalidId, false⟩).mpr
      ⟨e.code, hcode, e.topic, htopic, ?_⟩⟩
    rw [hsub]
    rfl
  · rintro ⟨obj, h⟩
    obtain ⟨c, hcode, t, htopic, hsub⟩ :=
      (subscribed_iff session obj ⟨code, topic, fdbInvalidId, false⟩).mp h
    obtain ⟨item, hitem⟩ := Option.isSome_iff_exists.mp hsub
    exact ⟨⟨c, session, obj, t, item⟩, ⟨hcode, htopic, hitem⟩, rfl⟩

/-- The sessions of the list are those that the walk over the tables collects. -/
theorem subscribedSessions_toFinset (code : FdbInstanceId) (topic : Text) :
    (subscribedSessions pubs type code topic).toFinset
      = (pubs type).getSubscribeTable code (some topic) ∅ := by
  ext session
  rw [mem_toFinset, mem_subscribedSessions,
    mem_getSubscribeTable_matching (pubs type) ⟨code, topic, fdbInvalidId, false⟩ rfl]
  exact exists_congr fun obj => subscribed_iff session obj ⟨code, topic, fdbInvalidId, false⟩

end Reach

end Fdbus.Server

/-
  Fdbus.Subscribe.Request — `CFdbSession::doSubscribeReq`.

  A subscribe or unsubscribe request carries a list of (code, topic) items.  A subscribe
  request is authenticated before each item is entered, but with the code of the message,
  which is `FDB_CODE_SUBSCRIBE`, and not with the code of the item.  An unsubscribe request
  with an empty list unsubscribes its whole object, below every session.

    * `entered_authorised_iff` — over any sequence of requests, every subscription that
      was entered was authorised exactly when each request that passes the check of
      `FDB_CODE_SUBSCRIBE` is authorised for all of its items,
    * `others_unchanged_iff` — a request leaves the entries of other sessions alone
      exactly when it is not such an empty list for an object id they have subscribed.

  Decoding the list is left to the parameter `items`, which is `none` when it fails.
-/
import Fdbus.Security.ApiSecurity
import Fdbus.Subscribe.Handle

namespace Fdbus.Subscribe

open Fdbus.Security List Function

/-! ## §1. Requests. -/

/-- `CFdbMsgSubscribeItem`: `topic` is absent when `has_topic()` is false. -/
structure CFdbMsgSubscribeItem where
  msgCode : FdbMsgCode
  topic : Option Topic
  flag : BitVec 32

/-- A received `FDB_MT_SUBSCRIBE_REQ`: the session it came on and that session's security
at the time, the object id it names, the object `getObject` finds for it, whether its code
is `FDB_CODE_SUBSCRIBE` or `FDB_CODE_UNSUBSCRIBE`, and its decoded payload. -/
structure SubscribeReq where
  session : SessionPtr
  security : SessionSecurity
  objectId : FdbObjectId
  object : Option Nat
  subscribe : Bool
  items : Option (List CFdbMsgSubscribeItem)

/-- `msg->code()` of the request. -/
def SubscribeReq.code (req : SubscribeReq) : FdbMsgCode :=
  if req.subscribe then fdbCodeSubscribe else fdbCodeUnsubscribe

/-- The statuses a request is answered with. -/
inductive FdbStatus where
  | objectNotFound
  | msgDecodeFail
  | authenticationFail
  deriving DecidableEq

/-- A call of `object->subscribe`, with the session's security at that time. -/
structure Entered where
  object : Nat
  session : SessionPtr
  security : SessionSecurity
  code : FdbMsgCode

/-! ## §2. The loop over the items. -/

/-- The variables of the loop over the items. -/
structure ItemLoop where
  object : CFdbBaseObject
  ret : Int
  unsubscribeObject : Bool
  entered : List FdbMsgCode

/-- The body of the loop over the items. -/
def doItem (cfg : Option CApiSecurityConfig) (req : SubscribeReq) (v : ItemLoop)
    (item : CFdbMsgSubscribeItem) : ItemLoop :=
  if req.subscribe then
    -- the code checked is the one of the message
    if onGetEventAuthentication cfg req.code req.security then
      { v with
        object := v.object.subscribe req.session item.msgCode req.objectId item.topic item.flag
        entered := v.entered ++ [item.msgCode] }
    else
      { v with
        object := v.object.unsubscribe req.session item.msgCode req.objectId item.topic
        ret := if v.ret ≥ 0 then -2 else v.ret }
  else
    { v with
      object := v.object.unsubscribe req.session item.msgCode req.objectId item.topic
      unsubscribeObject := false }

/-- The loop over the items of a decoded list. -/
def doItems (cfg : Option CApiSecurityConfig) (req : SubscribeReq) (obj : CFdbBaseObject)
    (items : List CFdbMsgSubscribeItem) : ItemLoop :=
  items.foldl (doItem cfg req) ⟨obj, 0, true, []⟩

/-- The request enters its items. -/
def Enters (cfg : Option CApiSecurityConfig) (req : SubscribeReq) : Prop :=
  req.subscribe = true ∧ onGetEventAuthentication cfg req.code req.security = true

instance (cfg : Option CApiSecurityConfig) (req : SubscribeReq) : Decidable (Enters cfg req) :=
  inferInstanceAs (Decidable (_ ∧ _))

variable (ep : Endpoint) (cfg : Option CApiSecurityConfig) (req : SubscribeReq)
  (items : List CFdbMsgSubscribeItem) (v : ItemLoop) (item : CFdbMsgSubscribeItem) {m : FdbMsgCode}
  {s : SessionPtr} {o : FdbObjectId} {tp : Topic}

theorem doItem_spec :
    (doItem cfg req v item).object
      = (if Enters cfg req
        then v.object.subscribe req.session item.msgCode req.objectId item.topic item.flag
        else v.object.unsubscribe req.session item.msgCode req.objectId item.topic)
    ∧ (doItem cfg req v item).entered
      = v.entered ++ if Enters cfg req then [item.msgCode] else [] := by
  unfold doItem Enters
  by_cases hsub : req.subscribe = true
  · by_cases hauth : onGetEventAuthentication cfg req.code req.security = true
    · simp [hsub, hauth]
    · simp [hsub, hauth]
  · simp [hsub]

/-- Every item of a request is entered, or none is. -/
theorem entered_doItems :
    (items.foldl (doItem cfg req) v).entered
      = v.entered ++ if Enters cfg req then items.map (·.msgCode) else [] := by
  induction items generalizing v with
  | nil => simp
  | cons item items ih =>
    rw [foldl_cons, ih, (doItem_spec ..).2]
    split <;> simp

/-- One item touches only the entries of the request's own session. -/
theorem lookup_doItem_other (hs : s ≠ req.session) (m : FdbMsgCode) (o : FdbObjectId) (tp : Topic) :
    (doItem cfg req v item).object.lookup m s o tp = v.object.lookup m s o tp := by
  rw [(doItem_spec ..).1]
  split
  · rw [CFdbBaseObject.lookup_subscribe, if_neg (fun h => hs h.2.1.symm)]
  · rw [CFdbBaseObject.lookup_unsubscribe, if_neg (fun h => hs h.2.1.symm)]

theorem lookup_doItems_other (hs : s ≠ req.session)
    (m : FdbMsgCode) (o : FdbObjectId) (tp : Topic) :
    (items.foldl (doItem cfg req) v).object.lookup m s o tp = v.object.lookup m s o tp := by
  induction items generalizing v with
  | nil => rfl
  | cons item items ih => rw [foldl_cons, ih, lookup_doItem_other cfg req v item hs]

/-- What one item leaves in the table was there before or is the item itself. -/
theorem lookup_doItem (h : (doItem cfg req v item).object.lookup m s o tp ≠ none) :
    v.object.lookup m s o tp ≠ none
      ∨ s = req.session ∧ m ∈ (doItem cfg req v item).entered := by
  rw [(doItem_spec ..).1] at h
  rw [(doItem_spec ..).2]
  by_cases hent : Enters cfg req
  · rw [if_pos hent, CFdbBaseObject.lookup_subscribe] at h
    split at h
    · next hkey => exact .inr ⟨hkey.2.1.symm, by simp [hent, hkey.1]⟩
    · exact .inl h
  · rw [if_neg hent, CFdbBaseObject.lookup_unsubscribe] at h
    split at h
    · exact absurd rfl h
    · exact .inl h

theorem lookup_doItems (h : (items.foldl (doItem cfg req) v).object.lookup m s o tp ≠ none) :
    v.object.lookup m s o tp ≠ none
      ∨ s = req.session ∧ m ∈ (items.foldl (doItem cfg req) v).entered := by
  induction items generalizing v with
  | nil => exact .inl h
  | cons item items ih =>
    rcases ih (doItem cfg req v item) h with hstep | hnew
    · rcases lookup_doItem cfg req v item hstep with hold | ⟨hs, hm⟩
      · exact .inl hold
      · refine .inr ⟨hs, ?_⟩
        rw [foldl_cons, entered_doItems]
        exact mem_append_left _ hm
    · exact .inr hnew

/-! ## §3. `doSubscribeReq`. -/

/-- What `doSubscribeReq` does with the object after the loop, and the status it sends.
That a successful subscription is announced to the application (`doSubscribe`) is left
out. -/
def afterItems (req : SubscribeReq) (v : ItemLoop) :
    CFdbBaseObject × Option (FdbStatus × String) :=
  if v.ret < 0 then
    (v.object, some (.authenticationFail, "Authentication failed for some events!"))
  else if req.subscribe then (v.object, none)
  else if v.unsubscribeObject then (v.object.unsubscribeObject req.objectId, none)
  else (v.object, none)

/-- After the loop entries are only removed. -/
theorem lookup_afterItems
    (h : (afterItems req v).1.lookup m s o tp ≠ none) : v.object.lookup m s o tp ≠ none := by
  unfold afterItems at h
  split at h
  · exact h
  · split at h
    · exact h
    · split at h
      · rw [CFdbBaseObject.lookup_unsubscribeObject] at h
        split at h
        · exact absurd rfl h
        · exact h
      · exact h

/-- The objects of an endpoint and its API security, with the subscriptions entered so
far; the tables hold nothing else. -/
structure Endpoint where
  mApiSecurity : Option CApiSecurityConfig
  objects : Nat → CFdbBaseObject
  entered : List Entered
  covered : ∀ i m s o tp, (objects i).lookup m s o tp ≠ none →
    ∃ e ∈ entered, e.object = i ∧ e.session = s ∧ e.code = m

/-- An endpoint nobody has subscribed to. -/
def Endpoint.start (cfg : Option CApiSecurityConfig) : Endpoint where
  mApiSecurity := cfg
  objects _ := CFdbBaseObject.empty
  entered := []
  covered := by
    intro i m s o tp h
    exact absurd (CFdbBaseObject.lookup_empty m s o tp) h

/-- The endpoint after the items of a request for its object `i`. -/
def Endpoint.withItems (ep : Endpoint) (req : SubscribeReq) (i : Nat)
    (items : List CFdbMsgSubscribeItem) : Endpoint where
  mApiSecurity := ep.mApiSecurity
  objects := Function.update ep.objects i
    (afterItems req (doItems ep.mApiSecurity req (ep.objects i) items)).1
  entered := ep.entered ++ (doItems ep.mApiSecurity req (ep.objects i) items).entered.map
    fun code => ⟨i, req.session, req.security, code⟩
  covered := by
    intro k m s o tp h
    by_cases hk : k = i
    · subst hk
      rw [Function.update_self] at h
      -- an entry of the object was there before or was entered by this request
      rcases lookup_doItems _ _ _ _ (lookup_afterItems req _ h) with hold | ⟨hs, hm⟩
      · obtain ⟨e, he, hkey⟩ := ep.covered k m s o tp hold
        exact ⟨e, List.mem_append_left _ he, hkey⟩
      · refine ⟨⟨k, req.session, req.security, m⟩, List.mem_append_right _ ?_, rfl, hs.symm, rfl⟩
        exact List.mem_map.mpr ⟨m, hm, rfl⟩
    · rw [Function.update_of_ne hk] at h
      obtain ⟨e, he, hkey⟩ := ep.covered k m s o tp h
      exact ⟨e, List.mem_append_left _ he, hkey⟩

/-- `doSubscribeReq(head, subscribe)`, with the status it answers. -/
def doSubscribeReq (ep : Endpoint) (req : SubscribeReq) :
    Endpoint × Option (FdbStatus × String) :=
  match req.object with
  | none => (ep, some (.objectNotFound, "Object is not found."))
  | some i =>
    match req.items with
    | none => (ep, some (.msgDecodeFail, "Not valid CFdbMsgSubscribeList message!"))
    | some items =>
      (ep.withItems req i items,
        (afterItems req (doItems ep.mApiSecurity req (ep.objects i) items)).2)

/-- The endpoint after a sequence of requests. -/
def doSubscribeReqs (ep : Endpoint) (reqs : List SubscribeReq) : Endpoint :=
  reqs.foldl (fun ep req => (doSubscribeReq ep req).1) ep

/-! ## §4. Authorisation. -/

/-- The request's session is authorised for every item, if it passes the check of
`FDB_CODE_SUBSCRIBE` at all. -/
def AuthorisedItems (cfg : Option CApiSecurityConfig) (req : SubscribeReq) : Prop :=
  req.subscribe = true → req.object ≠ none → Authorised cfg fdbCodeSubscribe req.security →
    ∀ items, req.items = some items → ∀ item ∈ items, Authorised cfg item.msgCode req.security

theorem enters_iff :
    Enters cfg req ↔ req.subscribe = true ∧ Authorised cfg fdbCodeSubscribe req.security := by
  constructor
  · rintro ⟨hsub, hauth⟩
    refine ⟨hsub, ?_⟩
    rw [onGetEventAuthentication_iff] at hauth
    simpa [SubscribeReq.code, hsub] using hauth
  · rintro ⟨hsub, hauth⟩
    refine ⟨hsub, ?_⟩
    rw [onGetEventAuthentication_iff]
    simpa [SubscribeReq.code, hsub] using hauth

/-- One request enters only authorised subscriptions exactly when its items are
authorised. -/
theorem entered_doSubscribeReq :
    (∀ e ∈ (doSubscribeReq ep req).1.entered, Authorised ep.mApiSecurity e.code e.security)
      ↔ (∀ e ∈ ep.entered, Authorised ep.mApiSecurity e.code e.security)
        ∧ AuthorisedItems ep.mApiSecurity req := by
  unfold doSubscribeReq AuthorisedItems
  cases hobj : req.object with
  | none => simp
  | some i =>
    cases hitems : req.items with
    | none => simp
    | some items =>
      show (∀ e ∈ (ep.withItems req i items).entered, _) ↔ _
      unfold Endpoint.withItems doItems
      simp only [entered_doItems, nil_append, mem_append, or_imp, forall_and]
      refine and_congr_right fun _ => ?_
      by_cases hent : Enters ep.mApiSecurity req
      · have h := (enters_iff ep.mApiSecurity req).mp hent
        simp [hent, h.1, h.2]
      · rw [enters_iff] at hent
        have hcond : ¬ Enters ep.mApiSecurity req := by rwa [enters_iff]
        simp only [hcond, if_false, map_nil, not_mem_nil, false_imp_iff,
          implies_true, true_iff]
        intro hsub _ hauth
        exact absurd ⟨hsub, hauth⟩ hent

theorem entered_doSubscribeReqs (reqs : List SubscribeReq) :
    (∀ e ∈ (doSubscribeReqs ep reqs).entered, Authorised ep.mApiSecurity e.code e.security)
      ↔ (∀ e ∈ ep.entered, Authorised ep.mApiSecurity e.code e.security)
        ∧ ∀ req ∈ reqs, AuthorisedItems ep.mApiSecurity req := by
  unfold doSubscribeReqs
  induction reqs generalizing ep with
  | nil => simp
  | cons req reqs ih =>
    have hstep := ih (doSubscribeReq ep req).1
    have hsame : (doSubscribeReq ep req).1.mApiSecurity = ep.mApiSecurity := by
      unfold doSubscribeReq
      split
      · rfl
      · split <;> rfl
    rw [hsame, entered_doSubscribeReq, and_assoc] at hstep
    rw [foldl_cons, hstep, forall_mem_cons]

/-- **Subscriptions are authorised exactly when the requests are.**  The endpoint's tables
hold only what was entered (`Endpoint.covered`); all of it was authorised at the time of
its request exactly when no request passed the check of `FDB_CODE_SUBSCRIBE` with an item
its session may not have. -/
theorem entered_authorised_iff (cfg : Option CApiSecurityConfig) (reqs : List SubscribeReq) :
    (∀ e ∈ (doSubscribeReqs (Endpoint.start cfg) reqs).entered, Authorised cfg e.code e.security)
      ↔ ∀ req ∈ reqs, AuthorisedItems cfg req := by
  refine (entered_doSubscribeReqs (Endpoint.start cfg) reqs).trans (and_iff_right ?_)
  intro e he
  cases he

/-- Event 7 needs level 3, every other code none. -/
def guardedEvent : CApiSecurityConfig := ⟨⟨fdbSecurityLevelNone, [⟨7#32, 7#32, 3⟩]⟩⟩

/-- A session of level 0 subscribes event 7. -/
def subscribeGuarded : SubscribeReq :=
  ⟨1, ⟨0, 0⟩, fdbObjectMain, some 0, true, some [⟨7#32, none, 0#32⟩]⟩

/-- The subscription of event 7 is entered for a session of level 0. -/
theorem entered_below_level :
    ((doSubscribeReqs (Endpoint.start (some guardedEvent)) [subscribeGuarded]).objects 0).lookup
        7#32 1 fdbObjectMain [] = some ⟨0#32⟩
      ∧ subscribeGuarded.security.actualLevel < guardedEvent.getEventSecLevel 7#32 := by
  decide +kernel

/-! ## §5. Other sessions. -/

/-- An unsubscribe request fails no authentication, and unsubscribes the whole object
exactly when its list is empty. -/
theorem doItems_unsubscribe (hsub : ¬ req.subscribe = true) :
    (items.foldl (doItem cfg req) v).ret = v.ret
      ∧ (items.foldl (doItem cfg req) v).unsubscribeObject
        = (v.unsubscribeObject && items.isEmpty) := by
  induction items generalizing v with
  | nil => simp
  | cons item items ih =>
    have hitem : (doItem cfg req v item).ret = v.ret
        ∧ (doItem cfg req v item).unsubscribeObject = false := by
      unfold doItem
      rw [if_neg hsub]
      exact ⟨rfl, rfl⟩
    rw [foldl_cons, (ih _).1, (ih _).2, hitem.1, hitem.2]
    simp

theorem afterItems_object (obj : CFdbBaseObject) (items : List CFdbMsgSubscribeItem) :
    (afterItems req (doItems cfg req obj items)).1
      = if req.subscribe = false ∧ items = [] then obj.unsubscribeObject req.objectId
        else (doItems cfg req obj items).object := by
  unfold afterItems
  by_cases hsub : req.subscribe = true
  · have hno : ¬ (req.subscribe = false ∧ items = []) := by simp [hsub]
    split <;> rfl
  · obtain ⟨hret, hflag⟩ := doItems_unsubscribe cfg req items ⟨obj, 0, true, []⟩ hsub
    have hret' : ¬ (doItems cfg req obj items).ret < 0 := by
      unfold doItems
      rw [hret]
      exact lt_irrefl 0
    rw [if_neg hret', if_neg hsub]
    by_cases hitems : items = []
    · subst hitems
      rw [if_pos (by rfl), if_pos ⟨Bool.not_eq_true _ ▸ hsub, rfl⟩]
      rfl
    · have hno : ¬ (doItems cfg req obj items).unsubscribeObject = true := by
        unfold doItems
        rw [hflag]
        simpa using hitems
      rw [if_neg hno, if_neg (fun h => hitems h.2)]

/-- What a decoded request does to the entries of another session. -/
theorem lookup_afterItems_other
    (obj : CFdbBaseObject) (items : List CFdbMsgSubscribeItem) {s : SessionPtr}
    (hs : s ≠ req.session) (m : FdbMsgCode) (o : FdbObjectId) (tp : Topic) :
    (afterItems req (doItems cfg req obj items)).1.lookup m s o tp
      = if (req.subscribe = false ∧ items = []) ∧ req.objectId = o then none
        else obj.lookup m s o tp := by
  rw [afterItems_object]
  by_cases hall : req.subscribe = false ∧ items = []
  · rw [if_pos hall, CFdbBaseObject.lookup_unsubscribeObject]
    simp only [hall, true_and]
  · rw [if_neg hall, if_neg (fun h => hall h.1)]
    exact lookup_doItems_other cfg req items ⟨obj, 0, true, []⟩ hs m o tp

/-- An empty unsubscribe list names an object id other sessions have subscribed. -/
def UnsubscribesOthers (ep : Endpoint) (req : SubscribeReq) : Prop :=
  req.subscribe = false ∧ req.items = some []
    ∧ ∃ i, req.object = some i
      ∧ ∃ s, s ≠ req.session ∧ ∃ m tp, (ep.objects i).lookup m s req.objectId tp ≠ none

/-- **The frame of a request.**  The entries of the other sessions are the same before and
after a request exactly when it is not an empty unsubscribe list for an object id they
have subscribed. -/
theorem others_unchanged_iff (ep : Endpoint) (req : SubscribeReq) :
    (∀ i s, s ≠ req.session → ∀ m o tp,
        ((doSubscribeReq ep req).1.objects i).lookup m s o tp = (ep.objects i).lookup m s o tp)
      ↔ ¬ UnsubscribesOthers ep req := by
  unfold UnsubscribesOthers doSubscribeReq
  cases hobj : req.object with
  | none => simp
  | some i =>
    cases hitems : req.items with
    | none => simp
    | some items =>
      show (∀ k s, s ≠ req.session → ∀ m o tp,
        (update ep.objects i _ k).lookup m s o tp = _) ↔ _
      constructor
      · -- the empty list erases the entry of the other session
        rintro h ⟨hsub, hempty, k, hk, s, hs, m, tp, hentry⟩
        cases hk
        have hsame := h i s hs m req.objectId tp
        rw [update_self, lookup_afterItems_other _ _ _ _ hs,
          if_pos ⟨⟨hsub, Option.some.inj hempty⟩, rfl⟩] at hsame
        exact hentry hsame.symm
      · intro h k s hs m o tp
        by_cases hk : k = i
        · subst hk
          rw [update_self, lookup_afterItems_other _ _ _ _ hs]
          split
          · next hw =>
              obtain ⟨⟨hsub, hempty⟩, rfl⟩ := hw
              by_contra hentry
              exact h ⟨hsub, congrArg some hempty, k, rfl, s, hs, m, tp, Ne.symm hentry⟩
          · rfl
        · rw [update_of_ne hk]

/-- Session 2 subscribes event 7. -/
def subscribeOther : SubscribeReq :=
  ⟨2, ⟨0, 0⟩, fdbObjectMain, some 0, true, some [⟨7#32, none, 0#32⟩]⟩

/-- Session 1, without any subscription, sends an empty unsubscribe list. -/
def unsubscribeAll : SubscribeReq := ⟨1, ⟨0, 0⟩, fdbObjectMain, some 0, false, some []⟩

/-- The request of session 1 removes the subscription of session 2. -/
theorem other_session_unsubscribed :
    let ep := doSubscribeReqs (Endpoint.start none) [subscribeOther]
    (ep.objects 0).lookup 7#32 2 fdbObjectMain [] = some ⟨0#32⟩
      ∧ ((doSubscribeReq ep unsubscribeAll).1.objects 0).lookup 7#32 2 fdbObjectMain []
        = none := by
  decide +kernel

end Fdbus.Subscribe

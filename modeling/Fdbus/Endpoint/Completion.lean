/-
  Fdbus.Endpoint.Completion — which object a completed request is reported to.

  A request carries the id of the object that issued it.  `doResponse` looks that object up with
  `getObject`; every other way a request ends calls the endpoint that owns the session, so the
  request of a secondary object that is not answered is reported to the main object.

    * `reported_to_issuer_iff` — a registered issuer, and no other object, gets the completion
      exactly when the issuer is the main object or the request was answered under its own
      object id, and the ending has a callback on an object at all.
-/
import Fdbus.Session.Pending

namespace Fdbus.Endpoint

open Fdbus.Session List Option
open Fdbus.Subscribe (SessionPtr)

/-! ## §1. The objects of an endpoint. -/

/-- A `CFdbBaseObject *`. -/
abbrev ObjectPtr := Nat

/-- An endpoint, which is its own main object, and its secondary objects.  `addObject` refuses
an object whose id is `FDB_OBJECT_MAIN`, so the endpoint is not among them. -/
structure Objects where
  self : ObjectPtr
  mObjectContainer : FdbObjectId → Option ObjectPtr
  not_self : ∀ id p, mObjectContainer id = some p → p ≠ self

/-- `getObject(msg, false)` for a message with this object id, after `onCreateObject`. -/
def Objects.getObject (ep : Objects) (id : FdbObjectId) : Option ObjectPtr :=
  if id = fdbObjectMain then some ep.self else ep.mObjectContainer id

/-! ## §2. The ways a request ends. -/

/-- How an asynchronous request ends. -/
inductive Ending where
  | noSession
  | sendFailure
  | response (objectId : FdbObjectId) (isStatus syncReply : Bool)
  | timeout
  | lifeTime
  | sessionDestroyed

/-- Whose callback it is: an object's, or the message's own `onAsyncError`. -/
inductive Receiver where
  | object (p : ObjectPtr)
  | message
  deriving DecidableEq

/-- `terminateMessage(job, status, reason)`: the object is `mContainer->owner()`. -/
def Objects.terminateMessage (ep : Objects) (req : AsyncRequest) : List (Callback × Receiver) :=
  [(terminateCallback req.type, .object ep.self)]

/-- The object `doResponse` calls: the owner if the object ids differ, otherwise the one that
`getObject` found. -/
def Objects.responder (ep : Objects) (req : AsyncRequest) (objectId : FdbObjectId) : ObjectPtr :=
  if req.objectId ≠ objectId then ep.self else (ep.getObject req.objectId).getD ep.self

/-- The callbacks of an ending, in order. -/
def Objects.callbacks (ep : Objects) (req : AsyncRequest) : Ending → List (Callback × Receiver)
  | .noSession => [(.onAsyncError, .message)]
  | .sendFailure =>
    -- `sendMessageSync` calls the owner, whatever the type; `doRequest` then the message
    [(.doReply, .object ep.self), (.onAsyncError, .message)]
  | .response objectId isStatus syncReply =>
    (responseCallback req
      ⟨objectId, (ep.getObject req.objectId).isSome, isStatus, syncReply⟩).toList.map
      fun c => (c, .object (ep.responder req objectId))
  | .timeout => ep.terminateMessage req
  | .lifeTime => ep.terminateMessage req
  | .sessionDestroyed => ep.terminateMessage req

/-- The objects that are called. -/
def objectsCalled (ds : List (Callback × Receiver)) : List ObjectPtr :=
  ds.filterMap fun d => match d.2 with
    | .object p => some p
    | .message => none

/-! ## §3. Who is told. -/

/-- The ending has a callback on an object: there was a session to send on, and a response with
the request's object id is for an asynchronous request and of the type that the request wants. -/
def Ending.HasCallback (req : AsyncRequest) : Ending → Prop
  | .noSession => False
  | .response objectId isStatus syncReply =>
    req.objectId ≠ objectId
      ∨ syncReply = false
        ∧ (req.type = .mtRequest ∨ req.type = .mtSidebandRequest ∨ req.type = .mtGetEvent
          ∨ isStatus = true)
  | _ => True

/-- The request was answered under its own object id. -/
def Ending.Answers (req : AsyncRequest) : Ending → Prop
  | .response objectId _ _ => req.objectId = objectId
  | _ => False

theorem self_eq_iff (ep : Objects) {id : FdbObjectId} {issuer : ObjectPtr}
    (hissuer : ep.getObject id = some issuer) : ep.self = issuer ↔ id = fdbObjectMain := by
  unfold Objects.getObject at hissuer
  by_cases hmain : id = fdbObjectMain
  · rw [if_pos hmain, some.injEq] at hissuer
    exact ⟨fun _ => hmain, fun _ => hissuer⟩
  · rw [if_neg hmain] at hissuer
    exact ⟨fun h => absurd h.symm (ep.not_self id issuer hissuer), fun h => absurd h hmain⟩

/-- A response that has a callback tells its responder. -/
theorem objectsCalled_response (ep : Objects) (req : AsyncRequest) {issuer : ObjectPtr}
    (hissuer : ep.getObject req.objectId = some issuer) (objectId : FdbObjectId)
    (isStatus syncReply : Bool) :
    (Ending.HasCallback req (.response objectId isStatus syncReply)
        ∧ objectsCalled (ep.callbacks req (.response objectId isStatus syncReply))
          = [ep.responder req objectId])
      ∨ ¬ Ending.HasCallback req (.response objectId isStatus syncReply)
        ∧ objectsCalled (ep.callbacks req (.response objectId isStatus syncReply)) = [] := by
  have hfits : Ending.HasCallback req (.response objectId isStatus syncReply)
      ↔ Response.Fits ⟨objectId, true, isStatus, syncReply⟩ req := by
    unfold Response.Fits
    simp [Ending.HasCallback]
  have heq : ep.callbacks req (.response objectId isStatus syncReply)
      = (responseCallback req ⟨objectId, true, isStatus, syncReply⟩).toList.map
          fun c => (c, .object (ep.responder req objectId)) := by
    simp only [Objects.callbacks, hissuer, isSome_some]
  rw [hfits, heq]
  by_cases h : Response.Fits ⟨objectId, true, isStatus, syncReply⟩ req
  · obtain ⟨c, hc⟩ := responseCallback_isSome h
    refine .inl ⟨h, ?_⟩
    rw [hc]
    rfl
  · refine .inr ⟨h, ?_⟩
    -- without a callback the response is marked, or the type wants a status and it is none
    have hnone : responseCallback req ⟨objectId, true, isStatus, syncReply⟩ = none := by
      unfold Response.Fits at h
      simp only [true_and, not_or, not_and, not_not, Bool.not_eq_true] at h
      obtain ⟨hid, h⟩ := h
      unfold responseCallback
      cases hsync : syncReply with
      | true => simp [hid]
      | false =>
        cases htype : req.type <;> simp_all
    rw [hnone]
    rfl

/-- **A request completes at the object that issued it**: for an issuer that is registered, the
ending calls this object and no other if and only if it has a callback on an object, and the
issuer is the main object or the request was answered under its own object id. -/
theorem reported_to_issuer_iff (ep : Objects) (req : AsyncRequest) {issuer : ObjectPtr}
    (hissuer : ep.getObject req.objectId = some issuer) (w : Ending) :
    objectsCalled (ep.callbacks req w) = [issuer]
      ↔ w.HasCallback req ∧ (req.objectId = fdbObjectMain ∨ w.Answers req) := by
  have hself := self_eq_iff ep hissuer
  -- the endings that call the endpoint
  have howner : objectsCalled (ep.callbacks req .sendFailure) = [issuer]
      ↔ req.objectId = fdbObjectMain := by
    rw [← hself]
    show [ep.self] = [issuer] ↔ _
    simp
  have hterminate : objectsCalled (ep.terminateMessage req) = [issuer]
      ↔ req.objectId = fdbObjectMain := by
    rw [← hself]
    show [ep.self] = [_] ↔ _
    simp
  cases w with
  | noSession => exact ⟨fun h => absurd h (by simp [objectsCalled, Objects.callbacks]),
      fun h => h.1.elim⟩
  | sendFailure => simpa [Ending.HasCallback, Ending.Answers] using howner
  | timeout | lifeTime | sessionDestroyed =>
    simpa [Objects.callbacks, Ending.HasCallback, Ending.Answers] using hterminate
  | response objectId isStatus syncReply =>
    rcases objectsCalled_response ep req hissuer objectId isStatus syncReply with
      ⟨hcb, hcalled⟩ | ⟨hcb, hcalled⟩
    · rw [hcalled]
      unfold Objects.responder
      by_cases hid : req.objectId = objectId
      · -- the object that was looked up is the issuer
        rw [if_neg (not_not.mpr hid), hissuer]
        exact ⟨fun _ => ⟨hcb, .inr hid⟩, fun _ => rfl⟩
      · rw [if_pos hid]
        simp only [cons.injEq, and_true, hself]
        exact ⟨fun h => ⟨hcb, .inl h⟩, fun h => h.2.resolve_right hid⟩
    · rw [hcalled]
      exact ⟨fun h => absurd h (by simp), fun h => absurd h.1 hcb⟩

/-- An endpoint 0 with one secondary object 5, of id 65537. -/
def twoObjects : Objects where
  self := 0
  mObjectContainer := fun id => if id = 65537#32 then some 5 else none
  not_self := by
    intro id p h
    split at h
    · obtain rfl := Option.some.inj h
      decide
    · exact absurd h (by simp)

/-- A request of the secondary object. -/
def secondaryRequest : AsyncRequest := ⟨.mtRequest, 65537#32, true⟩

/-- Its answer goes to it. -/
theorem reported_to_issuer_answered :
    objectsCalled (twoObjects.callbacks secondaryRequest (.response 65537#32 false false)) = [5] :=
  (@reported_to_issuer_iff twoObjects secondaryRequest 5 rfl (.response 65537#32 false false)).mpr
    ⟨.inr ⟨rfl, .inl rfl⟩, .inr rfl⟩

/-- Its timeout goes to the endpoint. -/
theorem reported_to_endpoint :
    twoObjects.getObject secondaryRequest.objectId = some 5
      ∧ twoObjects.callbacks secondaryRequest .timeout = [(.doReply, .object 0)] :=
  ⟨rfl, rfl⟩

end Fdbus.Endpoint

/-
  Fdbus.Subscribe.Refinement — the nested table of a handle is a flat map.

  What `CEventSubscribeHandle` is for is a finite map from (code, session, object id, topic)
  to the flag of the subscription; the four nested levels and their pruning are how it is
  stored.  The flat map has the same four operations, written on keys.

    * `table_is_flatMap` — after any operations the nested table answers every lookup as the
      flat map does, has no empty level, and is the only such table.
-/
import Fdbus.Subscribe.Handle

namespace Fdbus.Subscribe

open Fdbus.OrderedMap Function Std.ExtTreeMap

/-! ## §1. The flat map. -/

/-- Who subscribed what. -/
structure SubscriptionKey where
  msg : FdbMsgCode
  session : SessionPtr
  obj : FdbObjectId
  topic : Topic
  deriving DecidableEq

/-- The purpose of a handle: subscriptions by key. -/
abbrev FlatMap := SubscriptionKey → Option CSubscribeItem

/-- The operations of a handle. -/
inductive SubscribeOp where
  | subscribe (session : SessionPtr) (msg : FdbMsgCode) (obj : FdbObjectId)
      (topic : Option Topic) (flag : BitVec 32)
  | unsubscribe (session : SessionPtr) (msg : FdbMsgCode) (obj : FdbObjectId)
      (topic : Option Topic)
  | unsubscribeSession (session : SessionPtr)
  | unsubscribeObject (obj : FdbObjectId)

/-- An operation on the flat map: a subscription sets its key, the others remove keys. -/
def FlatMap.apply (m : FlatMap) : SubscribeOp → FlatMap
  | .subscribe session msg obj topic flag =>
    Function.update m ⟨msg, session, obj, topic.getD []⟩ (some ⟨flag⟩)
  | .unsubscribe session msg obj topic => fun k =>
    -- without a topic all topics of the pair go
    if msg = k.msg ∧ session = k.session ∧ obj = k.obj ∧ (topic = none ∨ topic = some k.topic)
    then none else m k
  | .unsubscribeSession session => fun k => if session = k.session then none else m k
  | .unsubscribeObject obj => fun k => if obj = k.obj then none else m k

/-! ## §2. The nested table. -/

/-- The same operation on the nested table. -/
def SubscribeTable.apply (t : SubscribeTable) : SubscribeOp → SubscribeTable
  | .subscribe session msg obj topic flag => t.subscribe session msg obj topic flag
  | .unsubscribe session msg obj topic => t.unsubscribe session msg obj topic
  | .unsubscribeSession session => t.unsubscribeSession session
  | .unsubscribeObject obj => t.unsubscribeObject obj

/-- The table after some operations on an empty one. -/
def SubscribeTable.after (ops : List SubscribeOp) : SubscribeTable :=
  ops.foldl SubscribeTable.apply ∅

/-- The flat view of a table. -/
def SubscribeTable.flat (t : SubscribeTable) : FlatMap :=
  fun k => t.lookup k.msg k.session k.obj k.topic

/-- No object is without topics. -/
def ObjectTable.NoEmpty : ObjectTable → Prop := Pruned (·.isEmpty) fun _ => True

/-- No session is without objects, and so on below. -/
def SessionTable.NoEmpty : SessionTable → Prop := Pruned (·.isEmpty) ObjectTable.NoEmpty

/-- No level of the table holds an empty map. -/
def SubscribeTable.NoEmpty : SubscribeTable → Prop := Pruned (·.isEmpty) SessionTable.NoEmpty

/-! ## §3. The flat view follows the operations. -/

/-- **One operation** changes the flat view of the table as it changes the flat map. -/
theorem flat_apply (t : SubscribeTable) (op : SubscribeOp) :
    (t.apply op).flat = t.flat.apply op := by
  funext k
  cases op with
  | subscribe session msg obj topic flag =>
    show (t.subscribe session msg obj topic flag).lookup _ _ _ _
      = update t.flat _ _ k
    rw [lookup_subscribe, update_apply]
    by_cases hk : k = ⟨msg, session, obj, topic.getD []⟩
    · subst hk
      simp
    · have hne : ¬ (msg = k.msg ∧ session = k.session ∧ obj = k.obj
          ∧ topic.getD [] = k.topic) := by
        rintro ⟨h₁, h₂, h₃, h₄⟩
        exact hk (by rw [h₁, h₂, h₃, h₄])
      rw [if_neg hne, if_neg hk]
      rfl
  | unsubscribe session msg obj topic => exact lookup_unsubscribe t session msg obj topic ..
  | unsubscribeSession session => exact lookup_unsubscribeSession t session ..
  | unsubscribeObject obj => exact lookup_unsubscribeObject t obj ..

open SubscribeTable

/-- Any operations. -/
theorem flat_foldl (ops : List SubscribeOp) (t : SubscribeTable) :
    (ops.foldl apply t).flat = ops.foldl FlatMap.apply t.flat := by
  induction ops generalizing t with
  | nil => rfl
  | cons op ops ih =>
    show (ops.foldl apply (t.apply op)).flat = _
    rw [ih, flat_apply]
    rfl

/-! ## §4. No level is empty. -/

variable {t : SubscribeTable}

theorem noEmpty_subscribe (h : t.NoEmpty) (session : SessionPtr)
    (msg : FdbMsgCode) (obj : FdbObjectId) (topic : Option Topic) (flag : BitVec 32) :
    (t.subscribe session msg obj topic flag).NoEmpty := by
  -- each level on the way holds at least the entry below it
  refine Pruned.upsert h pruned_empty (fun _ => isEmpty_upsert ..) (fun sessions hs => ?_) msg
  refine Pruned.upsert hs pruned_empty (fun _ => isEmpty_upsert ..) (fun objects ho => ?_) session
  refine Pruned.upsert ho trivial (fun items => ?_) (fun _ _ => trivial) obj
  exact isEmpty_eq_false_iff.mpr insert_ne_empty

/-- **One operation** leaves no level empty. -/
theorem noEmpty_apply (h : t.NoEmpty) (op : SubscribeOp) : (t.apply op).NoEmpty := by
  cases op with
  | subscribe session msg obj topic flag => exact noEmpty_subscribe h session msg obj topic flag
  | unsubscribe session msg obj topic =>
    refine Pruned.pruneAt h (fun sessions hs => ?_) msg
    refine Pruned.pruneAt hs (fun objects ho => ?_) session
    exact Pruned.pruneAt ho (fun _ _ => trivial) obj
  | unsubscribeSession session => exact Pruned.pruneAll h fun _ hs => Pruned.erase hs session
  | unsubscribeObject obj =>
    exact Pruned.pruneAll h fun _ hs => Pruned.pruneAll hs fun _ ho => Pruned.erase ho obj

theorem noEmpty_foldl (ops : List SubscribeOp) {t : SubscribeTable} (h : t.NoEmpty) :
    (ops.foldl apply t).NoEmpty := by
  induction ops generalizing t with
  | nil => exact h
  | cons op ops ih => exact ih (noEmpty_apply h op)

/-! ## §5. The flat view determines the table. -/

theorem ObjectTable.eq_of_view {m m' : ObjectTable} (h : m.NoEmpty) (h' : m'.NoEmpty)
    (hview : ∀ ot : FdbObjectId × Topic,
      (m[ot.1]?.bind fun items => items[ot.2]?) = m'[ot.1]?.bind fun items => items[ot.2]?) :
    m = m' := by
  refine Pruned.ext (fun items tp => items[tp]?) h h' ?_ ?_ fun o tp => hview (o, tp)
  · intro items hne _
    obtain ⟨tp, item, hitem⟩ := exists_get_of_not_isEmpty hne
    exact ⟨tp, by simp [hitem]⟩
  · intro items items' _ _ heq
    exact ext_getElem? heq

/-- What is stored below a session, seen from its table. -/
def SessionTable.view (m : SessionTable) (k : SessionPtr × FdbObjectId × Topic) :
    Option CSubscribeItem :=
  m[k.1]?.bind fun objects => objects[k.2.1]?.bind fun items => items[k.2.2]?

theorem ObjectTable.exists_below {m : ObjectTable} (hne : m.isEmpty = false) (h : m.NoEmpty) :
    ∃ ot : FdbObjectId × Topic, (m[ot.1]?.bind fun items => items[ot.2]?) ≠ none := by
  refine Pruned.exists_below (fun items tp => items[tp]?) h ?_ hne
  intro items hitems _
  obtain ⟨tp, item, hitem⟩ := exists_get_of_not_isEmpty hitems
  exact ⟨tp, by simp [hitem]⟩

theorem SessionTable.eq_of_view {m m' : SessionTable} (h : m.NoEmpty) (h' : m'.NoEmpty)
    (hview : ∀ k, m.view k = m'.view k) : m = m' := by
  refine Pruned.ext (fun objects (ot : FdbObjectId × Topic) =>
    objects[ot.1]?.bind fun items => items[ot.2]?) h h' ?_ ?_ fun s ot => hview (s, ot)
  · exact fun objects hne ho => ObjectTable.exists_below hne ho
  · exact fun objects objects' ho ho' heq => ObjectTable.eq_of_view ho ho' heq

theorem SessionTable.exists_below {m : SessionTable} (hne : m.isEmpty = false) (h : m.NoEmpty) :
    ∃ k, m.view k ≠ none :=
  Pruned.exists_below _ h (fun _ hobjects ho => ObjectTable.exists_below hobjects ho) hne

/-- Two tables without empty levels and with the same flat view are the same table. -/
theorem SubscribeTable.eq_of_flat {t' : SubscribeTable} (h : t.NoEmpty) (h' : t'.NoEmpty)
    (hflat : t.flat = t'.flat) : t = t' := by
  refine Pruned.ext SessionTable.view h h' ?_ ?_ ?_
  · exact fun sessions hne hs => SessionTable.exists_below hne hs
  · exact fun sessions sessions' hs hs' heq => SessionTable.eq_of_view hs hs' heq
  · rintro msg ⟨s, o, tp⟩
    exact congrFun hflat ⟨msg, s, o, tp⟩

/-- **The table is the flat map.**  After any operations on an empty handle, the table answers
every lookup as the flat map under the same operations does, no level of it holds an empty map,
and it is the only such table. -/
theorem table_is_flatMap (ops : List SubscribeOp) :
    (SubscribeTable.after ops).flat = ops.foldl FlatMap.apply (fun _ => none)
      ∧ (SubscribeTable.after ops).NoEmpty
      ∧ ∀ t : SubscribeTable, t.NoEmpty →
          t.flat = ops.foldl FlatMap.apply (fun _ => none) → t = SubscribeTable.after ops := by
  have hflat : (after ops).flat = ops.foldl FlatMap.apply (fun _ => none) := flat_foldl ops ∅
  have hne : (after ops).NoEmpty := noEmpty_foldl ops pruned_empty
  refine ⟨hflat, hne, fun t ht heq => ?_⟩
  exact eq_of_flat ht hne (heq.trans hflat.symm)

end Fdbus.Subscribe

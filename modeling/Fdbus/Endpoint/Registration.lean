/-
  Fdbus.Endpoint.Registration — `bind`, `connect` and `unbind` of objects.

  `addToEndpoint` writes the id that is asked for into the object, and `addObject` then decides: it
  rejects the object, leaves one that is in the table alone, or gives it a new id, made of a serial
  number and the class that was asked for, and enters it.  What `addObject` returns is dropped; the
  caller gets whatever id the object has in the end.

    * `honest_iff` — every call tells the truth and every table stays exact, exactly if an object
      that is registered is registered again only under the id it has, nobody asks for the id of
      the endpoint itself, a server object asks for a class that is taken only without an id, the
      serial numbers have not come round, and an object leaves one endpoint before it enters
      another.

  The notifications of sessions and the flush of the worker have no part in the tables.
-/
import Fdbus.Library.Run
import Fdbus.Subscribe.EventCache

namespace Fdbus.Endpoint

open Fdbus.OrderedMap List Option Function Std.ExtTreeMap
open Fdbus.Run
open Fdbus.Subscribe (EFdbEndpointRole)

/-! ## §1. Objects and endpoints. -/

/-- A `CFdbBaseObject *`. -/
abbrev ObjPtr := Nat

/-- A `CBaseEndpoint *`. -/
abbrev EpPtr := Nat

/-- `FDB_INVALID_ID` as an object id. -/
def fdbInvalidObjId : FdbObjectId := 0xffffffff#32

/-- `FDB_OBJECT_MAKE_ID(sn, class)`. -/
def fdbObjectMakeId (sn cls : FdbObjectId) : FdbObjectId := sn <<< 16 ||| fdbObjectGetClass cls

/-- What registration needs of a `CFdbBaseObject`. -/
structure ObjectState where
  mEndpoint : Option EpPtr := none
  mObjId : FdbObjectId := fdbInvalidObjId
  mRole : EFdbEndpointRole := .unknown
  autoRemove : Bool := false

/-- What it needs of a `CBaseEndpoint`: `mObjectContainer` with its allocator, and the serial
numbers. -/
structure ObjectContainer where
  table : Map FdbObjectId ObjPtr := ∅
  mEntryAllocator : FdbObjectId := 0
  mSnAllocator : FdbObjectId := 1

namespace ObjectContainer

/-- `findEntry(obj)`. -/
def findEntry (e : ObjectContainer) (obj : ObjPtr) : Bool :=
  e.table.toList.any fun entry => entry.2 == obj

/-- `allocateEntityId()`, until the id is not the one of the endpoint itself. -/
def allocateId (e : ObjectContainer) : FdbObjectId :=
  if e.mEntryAllocator = fdbObjectMain then e.mEntryAllocator + 1 else e.mEntryAllocator

/-- The id whose class is used: the one that is asked for, or one that is allocated. -/
def chooseId (e : ObjectContainer) (id : FdbObjectId) : FdbObjectId :=
  if id = fdbInvalidObjId then e.allocateId else id

/-- The allocator moves on if it was used. -/
def advance (e : ObjectContainer) (id : FdbObjectId) : ObjectContainer :=
  if id = fdbInvalidObjId then { e with mEntryAllocator := e.allocateId + 1 } else e

/-- The id that an object gets that asks for this one. -/
def freshId (e : ObjectContainer) (id : FdbObjectId) : FdbObjectId :=
  fdbObjectMakeId e.mSnAllocator (e.chooseId id)

end ObjectContainer

/-- All objects and all endpoints. -/
structure ObjectSpace where
  objects : ObjPtr → ObjectState
  endpoints : EpPtr → ObjectContainer

namespace ObjectSpace

def setObject (s : ObjectSpace) (obj : ObjPtr) (o : ObjectState) : ObjectSpace :=
  { s with objects := Function.update s.objects obj o }

def setEndpoint (s : ObjectSpace) (ep : EpPtr) (e : ObjectContainer) : ObjectSpace :=
  { s with endpoints := Function.update s.endpoints ep e }

/-- `objId()`. -/
def objId (s : ObjectSpace) (obj : ObjPtr) : FdbObjectId := (s.objects obj).mObjId

/-- `findObject(obj_id, server_only)`. -/
def findObject (s : ObjectSpace) (ep : EpPtr) (id : FdbObjectId) (serverOnly : Bool) :
    Option ObjPtr :=
  ((s.endpoints ep).table.toList.map Prod.snd).find? fun obj =>
    if serverOnly then
      (s.objects obj).mRole == .server && fdbObjectGetClass id == fdbObjectGetClass (s.objId obj)
    else id == s.objId obj

/-- The end of `addObject`: the object gets its id, and is entered unless that id is in use. -/
def insertObject (s : ObjectSpace) (ep : EpPtr) (obj : ObjPtr) (id : FdbObjectId) :
    FdbObjectId × ObjectSpace :=
  let e := s.endpoints ep
  let newId := fdbObjectMakeId e.mSnAllocator id
  let s := s.setObject obj { s.objects obj with mObjId := newId }
  if e.table[newId]?.isSome then
    (fdbInvalidObjId, s.setEndpoint ep { e with mSnAllocator := e.mSnAllocator + 1 })
  else
    (newId, s.setEndpoint ep
      { e with mSnAllocator := e.mSnAllocator + 1, table := e.table.insert newId obj })

/-- `addObject(obj)`. -/
def addObject (s : ObjectSpace) (ep : EpPtr) (obj : ObjPtr) : FdbObjectId × ObjectSpace :=
  let objId := s.objId obj
  if objId = fdbObjectMain then (fdbInvalidObjId, s)
  else if (s.endpoints ep).findEntry obj then (objId, s)
  else
    let id := (s.endpoints ep).chooseId objId
    let s := s.setEndpoint ep ((s.endpoints ep).advance objId)
    if (s.objects obj).mRole = .server then
      match s.findObject ep id true with
      | some o => if o = obj then (id, s) else (fdbInvalidObjId, s) -- the class is taken
      | none => s.insertObject ep obj id
    else s.insertObject ep obj id

/-- `addToEndpoint(endpoint, obj_id)` in the role that `doBind` or `doConnect` has set: the result
of `addObject` is not used. -/
def addToEndpoint (s : ObjectSpace) (role : EFdbEndpointRole) (obj : ObjPtr) (ep : EpPtr)
    (oid : FdbObjectId) : FdbObjectId × ObjectSpace :=
  -- the object has the id before `addObject` decides about it
  let s := s.setObject obj { s.objects obj with mRole := role, mEndpoint := some ep, mObjId := oid }
  let s' := (s.addObject ep obj).2
  (s'.objId obj, s')

/-- `doBind(endpoint, obj_id)`. -/
def doBind (s : ObjectSpace) (obj : ObjPtr) (ep : EpPtr) (oid : FdbObjectId) :
    FdbObjectId × ObjectSpace :=
  s.addToEndpoint .server obj ep oid

/-- `doConnect(endpoint, obj_id)`. -/
def doConnect (s : ObjectSpace) (obj : ObjPtr) (ep : EpPtr) (oid : FdbObjectId) :
    FdbObjectId × ObjectSpace :=
  s.addToEndpoint .client obj ep oid

/-- `removeObject(obj)`. -/
def removeObject (s : ObjectSpace) (ep : EpPtr) (obj : ObjPtr) : ObjectSpace :=
  let e := s.endpoints ep
  if e.findEntry obj then s.setEndpoint ep { e with table := e.table.erase (s.objId obj) } else s

/-- `removeFromEndpoint()`.  It is undefined for an object without endpoint, whose context cannot
be read, and for one that `removeObject` deletes. -/
def removeFromEndpoint (s : ObjectSpace) (obj : ObjPtr) : Option ObjectSpace :=
  match (s.objects obj).mEndpoint with
  | none => none
  | some ep =>
    if (s.endpoints ep).findEntry obj && (s.objects obj).autoRemove then none
    else
      let s := s.removeObject ep obj
      some (s.setObject obj { s.objects obj with mEndpoint := none })

end ObjectSpace

/-! ## §2. Calls. -/

inductive ObjectCall where
  | bind (obj : ObjPtr) (ep : EpPtr) (oid : FdbObjectId)
  | connect (obj : ObjPtr) (ep : EpPtr) (oid : FdbObjectId)
  | unbind (obj : ObjPtr)
  | disconnect (obj : ObjPtr)

namespace ObjectSpace

def call (s : ObjectSpace) : ObjectCall → Option ObjectSpace
  | .bind obj ep oid => some (s.doBind obj ep oid).2
  | .connect obj ep oid => some (s.doConnect obj ep oid).2
  | .unbind obj => s.removeFromEndpoint obj
  | .disconnect obj => s.removeFromEndpoint obj

/-- New endpoints, with any objects. -/
def start (objects : ObjPtr → ObjectState) : ObjectSpace := ⟨objects, fun _ => {}⟩

/-- The object is in the table of the endpoint, under this id. -/
def Stored (s : ObjectSpace) (ep : EpPtr) (id : FdbObjectId) (obj : ObjPtr) : Prop :=
  (s.endpoints ep).table[id]? = some obj

/-- The object is in the table of the endpoint. -/
def Registered (s : ObjectSpace) (ep : EpPtr) (obj : ObjPtr) : Prop := ∃ id, s.Stored ep id obj

/-- Every object in a table is stored there once, and under its own id. -/
def Exact (s : ObjectSpace) : Prop :=
  ∀ ep id obj, s.Stored ep id obj → id = s.objId obj ∧ ∀ id', s.Stored ep id' obj → id' = id

/-- What a call that registers an object says with the id it returns: a valid one is the object's
id and its key; an object that could not be registered gets the invalid id, and is as before. -/
structure Truthful (s s' : ObjectSpace) (ep : EpPtr) (obj : ObjPtr) (returned : FdbObjectId) :
    Prop where
  valid : returned ≠ fdbInvalidObjId → s'.Stored ep returned obj ∧ s'.objId obj = returned
  rejected : ¬ s'.Registered ep obj →
    returned = fdbInvalidObjId ∧ (s'.endpoints ep).table = (s.endpoints ep).table
      ∧ s'.objId obj = s.objId obj

/-- A call tells the truth, and leaves the tables exact. -/
def Honest (s : ObjectSpace) : ObjectCall → Prop
  | .bind obj ep oid =>
    s.Truthful (s.doBind obj ep oid).2 ep obj (s.doBind obj ep oid).1
      ∧ (s.doBind obj ep oid).2.Exact
  | .connect obj ep oid =>
    s.Truthful (s.doConnect obj ep oid).2 ep obj (s.doConnect obj ep oid).1
      ∧ (s.doConnect obj ep oid).2.Exact
  | .unbind obj => ∀ s', s.removeFromEndpoint obj = some s' → s'.Exact
  | .disconnect obj => ∀ s', s.removeFromEndpoint obj = some s' → s'.Exact

/-- A server object asks for a class that the endpoint has a server object of. -/
def Taken (s : ObjectSpace) (role : EFdbEndpointRole) (ep : EpPtr) (oid : FdbObjectId) : Prop :=
  role = .server ∧ (s.findObject ep ((s.endpoints ep).chooseId oid) true).isSome = true

/-- The condition: who is registered asks for the id it has; who is not does not ask for the id of
the endpoint, asks for a class that is taken only without an id, gets an id that is not in use, and
is not registered elsewhere under another one. -/
structure Registrable (s : ObjectSpace) (role : EFdbEndpointRole) (obj : ObjPtr) (ep : EpPtr)
    (oid : FdbObjectId) : Prop where
  again : s.Registered ep obj → oid = s.objId obj
  not_main : ¬ s.Registered ep obj → oid ≠ fdbObjectMain
  taken : ¬ s.Registered ep obj → s.Taken role ep oid →
    oid = fdbInvalidObjId ∧ s.objId obj = fdbInvalidObjId
  unused : ¬ s.Registered ep obj → ¬ s.Taken role ep oid →
    (s.endpoints ep).table[(s.endpoints ep).freshId oid]? = none
      ∨ (s.endpoints ep).freshId oid = fdbInvalidObjId ∧ s.objId obj = fdbInvalidObjId
  elsewhere : ¬ s.Registered ep obj → ¬ s.Taken role ep oid → ∀ ep' id, s.Stored ep' id obj →
    id = (s.endpoints ep).freshId oid

/-- The condition for a call. -/
def Sensible (s : ObjectSpace) : ObjectCall → Prop
  | .bind obj ep oid => s.Registrable .server obj ep oid
  | .connect obj ep oid => s.Registrable .client obj ep oid
  | .unbind _ => True
  | .disconnect _ => True

/-! ## §3. What a registration changes. -/

/-- The object has this id now and the endpoint this table; the other ids and tables are as
before. -/
structure Changes (s s' : ObjectSpace) (ep : EpPtr) (obj : ObjPtr) (id : FdbObjectId)
    (table : Map FdbObjectId ObjPtr) : Prop where
  objId_self : s'.objId obj = id
  objId_other : ∀ o, o ≠ obj → s'.objId o = s.objId o
  table_self : (s'.endpoints ep).table = table
  table_other : ∀ ep', ep' ≠ ep → (s'.endpoints ep').table = (s.endpoints ep').table

theorem findEntry_iff (s : ObjectSpace) (ep : EpPtr) (obj : ObjPtr) :
    (s.endpoints ep).findEntry obj = true ↔ s.Registered ep obj := by
  unfold ObjectContainer.findEntry Registered Stored
  rw [List.any_eq_true]
  constructor
  · rintro ⟨entry, hmem, hobj⟩
    obtain rfl := beq_iff_eq.mp hobj
    exact ⟨entry.1, mem_toList_iff_getElem?_eq_some.mp hmem⟩
  · rintro ⟨id, hid⟩
    exact ⟨(id, obj), mem_toList_iff_getElem?_eq_some.mpr hid, beq_self_eq_true obj⟩

@[simp] theorem objId_setObject_self (s : ObjectSpace) (obj : ObjPtr) (o : ObjectState) :
    (s.setObject obj o).objId obj = o.mObjId := by
  simp [objId, setObject]

theorem objId_setObject_other (s : ObjectSpace) {obj o' : ObjPtr} (o : ObjectState) (h : o' ≠ obj) :
    (s.setObject obj o).objId o' = s.objId o' := by
  simp [objId, setObject, h]

@[simp] theorem endpoints_setEndpoint (s : ObjectSpace) (ep : EpPtr) (e : ObjectContainer) :
    (s.setEndpoint ep e).endpoints ep = e := by
  simp [setEndpoint]

/-- Whether a class is taken, read off the table. -/
theorem findObject_isSome_iff (s : ObjectSpace) (ep : EpPtr) (id : FdbObjectId) :
    (s.findObject ep id true).isSome = true
      ↔ ∃ k o, s.Stored ep k o ∧ (s.objects o).mRole = .server
        ∧ fdbObjectGetClass id = fdbObjectGetClass (s.objId o) := by
  unfold findObject Stored
  rw [find?_isSome]
  constructor
  · rintro ⟨o, hmem, ho⟩
    obtain ⟨⟨k, o'⟩, hentry, rfl⟩ := mem_map.mp hmem
    rw [if_pos rfl, Bool.and_eq_true] at ho
    exact ⟨k, o', mem_toList_iff_getElem?_eq_some.mp hentry,
      beq_iff_eq.mp ho.1, beq_iff_eq.mp ho.2⟩
  · rintro ⟨k, o, hstored, hrole, hclass⟩
    refine ⟨o, mem_map.mpr ⟨(k, o), ?_, rfl⟩, ?_⟩
    · exact mem_toList_iff_getElem?_eq_some.mpr hstored
    · rw [if_pos rfl, Bool.and_eq_true]
      exact ⟨beq_iff_eq.mpr hrole, beq_iff_eq.mpr hclass⟩

variable (e : ObjectContainer) {s s' : ObjectSpace} {ep ep' : EpPtr} {obj : ObjPtr}
  {id : FdbObjectId}

/-- An object that is not in the table does not take a class. -/
theorem findObject_setObject (h : ¬ s.Registered ep obj) (o : ObjectState) (id : FdbObjectId) :
    ((s.setObject obj o).findObject ep id true).isSome = true
      ↔ (s.findObject ep id true).isSome = true := by
  rw [findObject_isSome_iff, findObject_isSome_iff]
  have hother : ∀ k o', s.Stored ep k o' →
      (s.setObject obj o).objects o' = s.objects o' := by
    intro k o' hstored
    have hne : o' ≠ obj := by
      rintro rfl
      exact h ⟨k, hstored⟩
    exact update_of_ne hne _ _
  constructor
  · rintro ⟨k, o', hstored, hserver⟩
    unfold objId at hserver
    rw [hother k o' hstored] at hserver
    exact ⟨k, o', hstored, hserver⟩
  · rintro ⟨k, o', hstored, hserver⟩
    refine ⟨k, o', hstored, ?_⟩
    unfold objId
    rw [hother k o' hstored]
    exact hserver

theorem findObject_setEndpoint {e : ObjectContainer}
    (h : e.table = (s.endpoints ep).table) (id : FdbObjectId) (serverOnly : Bool) :
    (s.setEndpoint ep e).findObject ep id serverOnly = s.findObject ep id serverOnly := by
  unfold findObject
  rw [endpoints_setEndpoint, h]
  rfl

theorem table_advance (id : FdbObjectId) : (e.advance id).table = e.table := by
  unfold ObjectContainer.advance
  split <;> rfl

/-- `addObject` for an object it does not enter changes no id and no table. -/
theorem addObject_kept (h : s.Registered ep obj ∨ s.objId obj = fdbObjectMain
      ∨ s.Taken (s.objects obj).mRole ep (s.objId obj)) :
    ∃ e, (s.addObject ep obj).2 = s.setEndpoint ep e ∧ e.table = (s.endpoints ep).table := by
  have hsame : s = s.setEndpoint ep (s.endpoints ep) := by
    unfold setEndpoint
    rw [update_eq_self]
  unfold addObject
  by_cases hmain : s.objId obj = fdbObjectMain
  · rw [if_pos hmain]
    exact ⟨_, hsame, rfl⟩
  rw [if_neg hmain]
  by_cases hentry : (s.endpoints ep).findEntry obj = true
  · rw [if_pos hentry]
    exact ⟨_, hsame, rfl⟩
  rw [if_neg hentry]
  rw [findEntry_iff] at hentry
  obtain ⟨hserver, hfound⟩ := (h.resolve_left hentry).resolve_left hmain
  rw [if_pos (show ((s.setEndpoint ep _).objects obj).mRole = .server from hserver),
    findObject_setEndpoint (table_advance _ _)]
  obtain ⟨o, ho⟩ := isSome_iff_exists.mp hfound
  rw [ho]
  -- both results of `addObject` leave the tables alone
  dsimp only
  split <;> exact ⟨_, rfl, table_advance _ _⟩

/-- For any other object it goes on to the end. -/
theorem addObject_fresh (s : ObjectSpace) (ep : EpPtr) (obj : ObjPtr)
    (hreg : ¬ s.Registered ep obj) (hmain : s.objId obj ≠ fdbObjectMain)
    (htaken : ¬ s.Taken (s.objects obj).mRole ep (s.objId obj)) :
    s.addObject ep obj
      = (s.setEndpoint ep ((s.endpoints ep).advance (s.objId obj))).insertObject ep obj
          ((s.endpoints ep).chooseId (s.objId obj)) := by
  unfold addObject
  dsimp only
  rw [if_neg hmain, if_neg (by rwa [findEntry_iff])]
  split
  · next hserver =>
      have hnone : s.findObject ep ((s.endpoints ep).chooseId (s.objId obj)) true = none := by
        rw [← not_isSome_iff_eq_none]
        exact fun hsome => htaken ⟨hserver, hsome⟩
      rw [findObject_setEndpoint (table_advance _ _), hnone]
  · rfl

/-- The object with the role, the endpoint and the id that it asks for. -/
def asked (s : ObjectSpace) (role : EFdbEndpointRole) (obj : ObjPtr) (ep : EpPtr)
    (oid : FdbObjectId) : ObjectSpace :=
  s.setObject obj { s.objects obj with mRole := role, mEndpoint := some ep, mObjId := oid }

section Asked

variable (s : ObjectSpace) (role : EFdbEndpointRole) (obj : ObjPtr) (ep : EpPtr) (oid : FdbObjectId)

theorem objId_asked : (s.asked role obj ep oid).objId obj = oid :=
  objId_setObject_self s obj _

theorem objId_asked_other {o : ObjPtr} (h : o ≠ obj) :
    (s.asked role obj ep oid).objId o = s.objId o :=
  objId_setObject_other s _ h

theorem taken_asked (h : ¬ s.Registered ep obj) :
    (s.asked role obj ep oid).Taken ((s.asked role obj ep oid).objects obj).mRole ep
        ((s.asked role obj ep oid).objId obj)
      ↔ s.Taken role ep oid := by
  rw [objId_asked, show (s.asked role obj ep oid).objects obj = _ from update_self _ _ _]
  exact and_congr_right fun _ => findObject_setObject h _ _

end Asked

theorem endpoints_setEndpoint_other (s : ObjectSpace) {ep ep' : EpPtr} (e : ObjectContainer)
    (h : ep' ≠ ep) : (s.setEndpoint ep e).endpoints ep' = s.endpoints ep' :=
  update_of_ne h _ _

variable {role : EFdbEndpointRole} {oid k : FdbObjectId} {table : Map FdbObjectId ObjPtr}

/-- An object that is not entered has the id it asked for. -/
theorem addToEndpoint_kept {obj : ObjPtr} {ep : EpPtr}
    (h : s.Registered ep obj
      ∨ ¬ s.Registered ep obj ∧ (oid = fdbObjectMain ∨ s.Taken role ep oid)) :
    s.Changes (s.addToEndpoint role obj ep oid).2 ep obj oid (s.endpoints ep).table := by
  have hkept : (s.asked role obj ep oid).Registered ep obj
      ∨ (s.asked role obj ep oid).objId obj = fdbObjectMain
      ∨ (s.asked role obj ep oid).Taken ((s.asked role obj ep oid).objects obj).mRole ep
        ((s.asked role obj ep oid).objId obj) := by
    rcases h with hreg | ⟨hreg, hrest⟩
    · exact .inl hreg
    · right
      rwa [taken_asked s role obj ep oid hreg, objId_asked]
  obtain ⟨e, he, htable⟩ := addObject_kept hkept
  have hs' : (s.addToEndpoint role obj ep oid).2 = (s.asked role obj ep oid).setEndpoint ep e := he
  rw [hs']
  constructor
  · exact objId_asked s role obj ep oid
  · intro o ho
    exact objId_asked_other s role obj ep oid ho
  · rw [endpoints_setEndpoint]
    exact htable
  · intro ep' hep
    rw [endpoints_setEndpoint_other _ _ hep]
    rfl

/-- The end of `addObject`. -/
theorem insertObject_changes (s : ObjectSpace) (ep : EpPtr) (obj : ObjPtr) (id newId : FdbObjectId)
    (h : newId = fdbObjectMakeId (s.endpoints ep).mSnAllocator id) :
    s.Changes (s.insertObject ep obj id).2 ep obj newId
      (if (s.endpoints ep).table[newId]?.isSome then (s.endpoints ep).table
        else (s.endpoints ep).table.insert newId obj) := by
  have hset : ∀ e, s.Changes
      ((s.setObject obj { s.objects obj with mObjId := newId }).setEndpoint ep e) ep obj newId
      e.table := by
    intro e
    constructor
    · exact objId_setObject_self s obj _
    · intro o ho
      exact objId_setObject_other s _ ho
    · rw [endpoints_setEndpoint]
    · intro ep' hep
      rw [endpoints_setEndpoint_other _ _ hep]
      rfl
  unfold insertObject
  dsimp only
  rw [← h]
  split
  · exact hset _
  · exact hset _

/-- One that is has a fresh id, and is in the table unless that id was in use. -/
theorem addToEndpoint_fresh {obj : ObjPtr} {ep : EpPtr} (hreg : ¬ s.Registered ep obj)
    (hmain : oid ≠ fdbObjectMain) (htaken : ¬ s.Taken role ep oid) :
    s.Changes (s.addToEndpoint role obj ep oid).2 ep obj ((s.endpoints ep).freshId oid)
      (if (s.endpoints ep).table[(s.endpoints ep).freshId oid]?.isSome then (s.endpoints ep).table
        else (s.endpoints ep).table.insert ((s.endpoints ep).freshId oid) obj) := by
  have hfresh := addObject_fresh (s.asked role obj ep oid) ep obj hreg
    (by rwa [objId_asked]) (by rwa [taken_asked s role obj ep oid hreg])
  rw [objId_asked] at hfresh
  have hs' : (s.addToEndpoint role obj ep oid).2
      = (((s.asked role obj ep oid).setEndpoint ep ((s.endpoints ep).advance oid)).insertObject ep
        obj ((s.endpoints ep).chooseId oid)).2 := by
    show ((s.asked role obj ep oid).addObject ep obj).2 = _
    rw [hfresh]
    rfl
  obtain ⟨h₁, h₂, h₃, h₄⟩ := insertObject_changes
    ((s.asked role obj ep oid).setEndpoint ep ((s.endpoints ep).advance oid)) ep obj
    ((s.endpoints ep).chooseId oid) ((s.endpoints ep).freshId oid)
    (by rw [endpoints_setEndpoint]; unfold ObjectContainer.advance; split <;> rfl)
  rw [endpoints_setEndpoint, table_advance] at h₃
  rw [hs']
  refine ⟨h₁, ?_, h₃, ?_⟩
  · intro o ho
    rw [h₂ o ho]
    exact objId_asked_other s role obj ep oid ho
  · intro ep' hep
    rw [h₄ ep' hep, endpoints_setEndpoint_other _ _ hep]
    rfl

/-! ## §4. One call. -/

/-- Who is stored where, after a registration: an object that is not the one registered is where it
was. -/
theorem Changes.stored_other (h : s.Changes s' ep obj id table)
    (htable : ∀ k o, o ≠ obj → table[k]? = some o → s.Stored ep k o) {ep' : EpPtr} {o : ObjPtr}
    (ho : o ≠ obj) (hstored : s'.Stored ep' k o) : s.Stored ep' k o := by
  unfold Stored at hstored
  by_cases hep : ep' = ep
  · subst hep
    rw [h.table_self] at hstored
    exact htable k o ho hstored
  · rw [h.table_other ep' hep] at hstored
    exact hstored

/-- The tables stay exact if the object is nowhere stored under another id. -/
theorem Changes.stays_exact_iff (h : s.Changes s' ep obj id table) (hs : s.Exact)
    (htable : ∀ k o, o ≠ obj → table[k]? = some o → s.Stored ep k o) :
    s'.Exact ↔ ∀ ep' k, s'.Stored ep' k obj → k = id := by
  constructor
  · intro hexact ep' k hstored
    rw [(hexact ep' k obj hstored).1, h.objId_self]
  · intro hobj ep' k o hstored
    by_cases ho : o = obj
    · subst ho
      have hk := hobj ep' k hstored
      rw [h.objId_self]
      refine ⟨hk, fun k' hstored' => ?_⟩
      rw [hobj ep' k' hstored', hk]
    · have hold := hs ep' k o (h.stored_other htable ho hstored)
      rw [h.objId_other o ho]
      exact ⟨hold.1, fun k' hstored' => hold.2 k' (h.stored_other htable ho hstored')⟩

/-- If the table is the old one, everybody is where they were. -/
theorem Changes.stored_iff
    (h : s.Changes s' ep obj id (s.endpoints ep).table) (ep' : EpPtr) (k : FdbObjectId)
    (o : ObjPtr) : s'.Stored ep' k o ↔ s.Stored ep' k o := by
  unfold Stored
  by_cases hep : ep' = ep
  · subst hep
    rw [h.table_self]
  · rw [h.table_other ep' hep]

/-- If the object has been entered under its new id, it is there, and where it was. -/
theorem Changes.stored_entered_iff (h : s.Changes s' ep obj id ((s.endpoints ep).table.insert id obj))
    (ep' : EpPtr) (k : FdbObjectId) :
    s'.Stored ep' k obj ↔ (ep' = ep ∧ k = id) ∨ s.Stored ep' k obj := by
  unfold Stored
  by_cases hep : ep' = ep
  · subst hep
    rw [h.table_self, get_insert]
    by_cases hk : id = k
    · simp [hk]
    · simp [hk, Ne.symm hk]
  · rw [h.table_other ep' hep]
    simp [hep]

/-- If the table is the old one and the object is not in it, only the invalid id is the truth. -/
theorem Changes.truthful_kept_iff (h : s.Changes s' ep obj id (s.endpoints ep).table)
    (hreg : ¬ s.Registered ep obj) :
    s.Truthful s' ep obj id ↔ id = fdbInvalidObjId ∧ s.objId obj = fdbInvalidObjId := by
  have hnot : ¬ s'.Registered ep obj := by
    intro hregistered
    obtain ⟨k, hk⟩ := hregistered
    exact hreg ⟨k, (h.stored_iff ep k obj).mp hk⟩
  constructor
  · intro htruth
    obtain ⟨hinvalid, -, hid⟩ := htruth.rejected hnot
    rw [h.objId_self] at hid
    exact ⟨hinvalid, hid ▸ hinvalid⟩
  · intro hboth
    obtain ⟨hinvalid, hid⟩ := hboth
    refine ⟨fun hvalid => absurd hinvalid hvalid, fun _ => ⟨hinvalid, h.table_self, ?_⟩⟩
    rw [h.objId_self, hinvalid, hid]

/-- A registration tells the truth, and leaves the tables exact. -/
def HonestAs (s : ObjectSpace) (role : EFdbEndpointRole) (obj : ObjPtr) (ep : EpPtr)
    (oid : FdbObjectId) : Prop :=
  s.Truthful (s.addToEndpoint role obj ep oid).2 ep obj (s.addToEndpoint role obj ep oid).1
    ∧ (s.addToEndpoint role obj ep oid).2.Exact

section Registration

variable {s : ObjectSpace} {role : EFdbEndpointRole} {obj : ObjPtr} {ep : EpPtr} {oid : FdbObjectId}

/-- The id that is returned is the one the object has. -/
theorem Changes.returned {id : FdbObjectId} {table : Map FdbObjectId ObjPtr}
    (h : s.Changes (s.addToEndpoint role obj ep oid).2 ep obj id table) :
    (s.addToEndpoint role obj ep oid).1 = id := h.objId_self

/-- An object that is in the table stays there under its old id. -/
theorem honest_again_iff (hs : s.Exact) (hreg : s.Registered ep obj) :
    s.HonestAs role obj ep oid ↔ oid = s.objId obj := by
  have h : s.Changes (s.addToEndpoint role obj ep oid).2 ep obj oid (s.endpoints ep).table :=
    addToEndpoint_kept (.inl hreg)
  obtain ⟨k, hk⟩ := hreg
  have hkey : k = s.objId obj := (hs ep k obj hk).1
  unfold HonestAs
  rw [h.returned, h.stays_exact_iff hs fun _ _ _ hstored => hstored]
  constructor
  · intro hhonest
    rw [← hkey]
    exact (hhonest.2 ep k ((h.stored_iff ep k obj).mpr hk)).symm
  · rintro rfl
    refine ⟨⟨fun _ => ⟨?_, h.objId_self⟩, ?_⟩, ?_⟩
    · exact (h.stored_iff ep _ obj).mpr (hkey ▸ hk)
    · intro hnot
      exact absurd ⟨k, (h.stored_iff ep k obj).mpr hk⟩ hnot
    · intro ep' k' hk'
      exact (hs ep' k' obj ((h.stored_iff ep' k' obj).mp hk')).1

/-- An object that is rejected keeps the id it asked for. -/
theorem honest_rejected_iff (hs : s.Exact) (hreg : ¬ s.Registered ep obj)
    (hkept : oid = fdbObjectMain ∨ s.Taken role ep oid) :
    s.HonestAs role obj ep oid ↔ oid = fdbInvalidObjId ∧ s.objId obj = fdbInvalidObjId := by
  have h : s.Changes (s.addToEndpoint role obj ep oid).2 ep obj oid (s.endpoints ep).table :=
    addToEndpoint_kept (.inr ⟨hreg, hkept⟩)
  unfold HonestAs
  rw [h.returned, h.truthful_kept_iff hreg, h.stays_exact_iff hs fun _ _ _ hstored => hstored]
  refine and_iff_left_of_imp ?_
  -- elsewhere the object is stored under its old id, which is the invalid one as well
  intro hinvalid ep' k hk
  rw [(hs ep' k obj ((h.stored_iff ep' k obj).mp hk)).1, hinvalid.2, hinvalid.1]

section

variable (hs : s.Exact) (hreg : ¬ s.Registered ep obj) (hmain : oid ≠ fdbObjectMain)
  (htaken : ¬ s.Taken role ep oid)

include hs hreg hmain htaken

/-- An object whose new id is in use has that id without being in the table. -/
theorem honest_clash_iff
    (hclash : (s.endpoints ep).table[(s.endpoints ep).freshId oid]?.isSome = true) :
    s.HonestAs role obj ep oid
      ↔ ((s.endpoints ep).freshId oid = fdbInvalidObjId ∧ s.objId obj = fdbInvalidObjId)
        ∧ ∀ ep' k, s.Stored ep' k obj → k = (s.endpoints ep).freshId oid := by
  have h := addToEndpoint_fresh hreg hmain htaken
  rw [if_pos hclash] at h
  unfold HonestAs
  rw [h.returned, h.truthful_kept_iff hreg, h.stays_exact_iff hs fun _ _ _ hstored => hstored]
  simp only [h.stored_iff]

/-- An object that is entered is in the table under its new id. -/
theorem honest_entered_iff
    (hunused : (s.endpoints ep).table[(s.endpoints ep).freshId oid]? = none) :
    s.HonestAs role obj ep oid
      ↔ ∀ ep' k, s.Stored ep' k obj → k = (s.endpoints ep).freshId oid := by
  have h := addToEndpoint_fresh hreg hmain htaken
  rw [hunused, if_neg (by simp)] at h
  have hentered := (h.stored_entered_iff ep ((s.endpoints ep).freshId oid)).mpr
    (.inl ⟨rfl, rfl⟩)
  have htable : ∀ k o, o ≠ obj →
      ((s.endpoints ep).table.insert ((s.endpoints ep).freshId oid) obj)[k]? = some o →
        s.Stored ep k o := by
    intro k o ho hstored
    rw [get_insert] at hstored
    split at hstored
    · exact absurd (some.inj hstored).symm ho
    · exact hstored
  unfold HonestAs
  rw [h.returned, h.stays_exact_iff hs htable]
  constructor
  · intro hhonest ep' k hk
    exact hhonest.2 ep' k ((h.stored_entered_iff ep' k).mpr (.inr hk))
  · intro helse
    refine ⟨⟨fun _ => ⟨hentered, h.objId_self⟩, fun hnot => absurd ⟨_, hentered⟩ hnot⟩, ?_⟩
    intro ep' k hk
    rcases (h.stored_entered_iff ep' k).mp hk with ⟨-, hkey⟩ | hold
    · exact hkey
    · exact helse ep' k hold

end

/-- The condition for an object that is in the table. -/
theorem registrable_again_iff (hreg : s.Registered ep obj) :
    s.Registrable role obj ep oid ↔ oid = s.objId obj := by
  constructor
  · intro h
    exact h.again hreg
  · intro hid
    constructor
    · exact fun _ => hid
    all_goals exact fun hnot => absurd hreg hnot

/-- The condition for an object that is rejected. -/
theorem registrable_rejected_iff (hreg : ¬ s.Registered ep obj)
    (hkept : oid = fdbObjectMain ∨ s.Taken role ep oid) :
    s.Registrable role obj ep oid ↔ oid = fdbInvalidObjId ∧ s.objId obj = fdbInvalidObjId := by
  constructor
  · intro h
    exact h.taken hreg (hkept.resolve_left (h.not_main hreg))
  · intro hboth
    obtain ⟨rfl, hid⟩ := hboth
    -- the invalid id is not the one of the endpoint, so the class is taken
    have htaken : s.Taken role ep fdbInvalidObjId := hkept.resolve_left (by decide)
    constructor
    · exact fun hreg' => absurd hreg' hreg
    · exact fun _ => by decide
    · exact fun _ _ => ⟨rfl, hid⟩
    all_goals exact fun _ hnot => absurd htaken hnot

/-- The condition for an object that gets a fresh id. -/
theorem registrable_fresh_iff (hreg : ¬ s.Registered ep obj) (hmain : oid ≠ fdbObjectMain)
    (htaken : ¬ s.Taken role ep oid) :
    s.Registrable role obj ep oid
      ↔ ((s.endpoints ep).table[(s.endpoints ep).freshId oid]? = none
          ∨ (s.endpoints ep).freshId oid = fdbInvalidObjId ∧ s.objId obj = fdbInvalidObjId)
        ∧ ∀ ep' k, s.Stored ep' k obj → k = (s.endpoints ep).freshId oid := by
  constructor
  · intro h
    exact ⟨h.unused hreg htaken, h.elsewhere hreg htaken⟩
  · intro h
    constructor
    · exact fun hreg' => absurd hreg' hreg
    · exact fun _ => hmain
    · exact fun _ htaken' => absurd htaken' htaken
    · exact fun _ _ => h.1
    · exact fun _ _ => h.2

/-- A registration is honest exactly under the condition. -/
theorem honestAs_iff (hs : s.Exact) :
    s.HonestAs role obj ep oid ↔ s.Registrable role obj ep oid := by
  by_cases hreg : s.Registered ep obj
  · rw [honest_again_iff hs hreg, registrable_again_iff hreg]
  by_cases hkept : oid = fdbObjectMain ∨ s.Taken role ep oid
  · rw [honest_rejected_iff hs hreg hkept, registrable_rejected_iff hreg hkept]
  rw [not_or] at hkept
  obtain ⟨hmain, htaken⟩ := hkept
  rw [registrable_fresh_iff hreg hmain htaken]
  cases hentry : (s.endpoints ep).table[(s.endpoints ep).freshId oid]? with
  | none =>
    rw [honest_entered_iff hs hreg hmain htaken hentry]
    exact (and_iff_right (.inl rfl)).symm
  | some o =>
    rw [honest_clash_iff hs hreg hmain htaken (by rw [hentry]; rfl)]
    exact and_congr_left' (or_iff_right (some_ne_none o)).symm

end Registration

theorem objects_removeObject (s : ObjectSpace) (ep : EpPtr) (obj : ObjPtr) :
    (s.removeObject ep obj).objects = s.objects := by
  unfold removeObject
  dsimp only
  split <;> rfl

/-- Removing an object puts nothing into a table. -/
theorem stored_of_removeObject {o : ObjPtr} (h : (s.removeObject ep obj).Stored ep' k o) :
    s.Stored ep' k o := by
  unfold removeObject at h
  dsimp only at h
  split at h
  · unfold Stored at h
    by_cases hep : ep' = ep
    · subst hep
      rw [endpoints_setEndpoint, get_erase] at h
      split at h
      · cases h
      · exact h
    · rw [endpoints_setEndpoint_other _ _ hep] at h
      exact h
  · exact h

theorem exact_removeFromEndpoint (hs : s.Exact) {obj : ObjPtr}
    (h : s.removeFromEndpoint obj = some s') : s'.Exact := by
  unfold removeFromEndpoint at h
  split at h
  · cases h
  next ep hep =>
  split at h
  · cases h
  cases h
  have hid : ∀ o, ((s.removeObject ep obj).setObject obj
      { (s.removeObject ep obj).objects obj with mEndpoint := none }).objId o = s.objId o := by
    intro o
    by_cases ho : o = obj
    · subst ho
      rw [objId_setObject_self, objects_removeObject]
      rfl
    · rw [objId_setObject_other _ _ ho]
      unfold objId
      rw [objects_removeObject]
  intro ep' k o hk
  rw [hid]
  obtain ⟨hkey, honce⟩ := hs ep' k o (stored_of_removeObject hk)
  exact ⟨hkey, fun k' hk' => honce k' (stored_of_removeObject hk')⟩

theorem exact_start (objects : ObjPtr → ObjectState) : (start objects).Exact := by
  intro ep id obj h
  unfold Stored start at h
  simp at h

/-- **Registration is truthful** in every sequence of calls, exactly if each of them is sensible. -/
theorem honest_iff (objects : ObjPtr → ObjectState) (calls : List ObjectCall) :
    Along call Honest (start objects) calls ↔ Along call Sensible (start objects) calls := by
  have hiff : ∀ (s : ObjectSpace) c, s.Exact → (s.Honest c ↔ s.Sensible c) := by
    intro s c hs
    cases c with
    | bind | connect => exact honestAs_iff hs
    | unbind | disconnect => exact ⟨fun _ => trivial, fun _ s' h => exact_removeFromEndpoint hs h⟩
  refine along_iff_of_inv (I := Exact) hiff ?_ calls (start objects) (exact_start objects)
  intro s c s' hs hc hstep
  have hhonest := (hiff s c hs).mpr hc
  cases c with
  | bind | connect => exact some.inj hstep ▸ hhonest.2
  | unbind | disconnect => exact hhonest s' hstep

/-- Two server objects ask one endpoint for class 1.  The second is rejected, but its call returns
the id it asked for, which is nobody's key. -/
theorem rejected_with_valid_id :
    ∃ s s', run call (start fun _ => {}) [.bind 0 0 1#32] = some s
      ∧ s.doBind 1 0 1#32 = (1#32, s')
      ∧ s'.objId 1 = 1#32
      ∧ s.objId 1 = fdbInvalidObjId
      ∧ (s'.endpoints 0).table.toList = [(0x10001#32, 0)]
      ∧ ¬ s.Honest (.bind 1 0 1#32) := by
  refine ⟨_, _, rfl, rfl, ?_, ?_, ?_, ?_⟩
  · decide +kernel
  · decide +kernel
  · decide +kernel
  · intro h
    exact absurd (h.1.valid (by decide +kernel)).1 (by unfold Stored; decide +kernel)

end ObjectSpace

end Fdbus.Endpoint

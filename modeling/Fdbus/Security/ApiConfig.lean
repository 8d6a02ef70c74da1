/-
  Fdbus.Security.ApiConfig — reading the API security configuration of a server.

  The file of a service holds two lists, one for messages and one for events.  Each entry
  gives a level to a range of codes, to a group of codes, or to all codes that no other entry
  names.  `parseApiConfig` turns a list into the table that `getSecLevel` searches.

    * `ApiEntry` is one entry of a well-formed list, `intendedLevel` what a list of them says,
    * `parseItems_map_toJson` — what the parser makes of such a list: every group becomes the
      range of its one group code, and an entry that is only a default stops the parser,
    * `importSecLevel_means_iff` — for which lists the levels are the intended ones,
    * `failed_import_iff` — when a file with an error leaves all levels as they were.
-/
import Fdbus.Security.ApiSecurity

namespace Fdbus.Security

open List Option

/-! ## §1. The parser. -/

/-- A `cJSON` value, as far as the parser tells values apart; a number is read as
`valueint`. -/
inductive CJson where
  | number (valueint : BitVec 32)
  | bool (b : Bool)
  | other
  deriving Repr, DecidableEq

/-- An element of a list that is an object: what `cJSON_GetObjectItem` finds under each of
the names asked for. -/
structure ApiObject where
  itemLevel : Option CJson := none
  itemDefault : Option CJson := none
  itemGroup : Option CJson := none
  itemFrom : Option CJson := none
  itemTo : Option CJson := none

/-- An element of a list. -/
inductive ApiItem where
  | object (sec_level : ApiObject)
  | other

/-- The value under `"message"` or `"event"`. -/
inductive ApiJson where
  | array (items : List ApiItem)
  | other

/-- What `cJSON_Parse` makes of the text of the file. -/
inductive ApiText where
  | unparsable
  | object (message event : Option ApiJson)
  | other

/-- The table under construction and `err_msg`, which is empty as long as nothing is wrong. -/
structure Parsed where
  cfg : CApiSecLevelTbl
  errMsg : Option String

/-- `cfg.mApiSecRangeTbl.push_back({from, to, level})`. -/
def CApiSecLevelTbl.pushBack (cfg : CApiSecLevelTbl) (range : CSecLevelRange) : CApiSecLevelTbl :=
  { cfg with mApiSecRangeTbl := cfg.mApiSecRangeTbl ++ [range] }

/-- The body of the loop from `"group"` on. -/
def parseScope (cfg : CApiSecLevelTbl) (level : Int) (sec_level : ApiObject) : Parsed :=
  match sec_level.itemGroup with
  | some (.number g) =>
    ⟨cfg.pushBack ⟨fdbMakeGroupEvent g, fdbMakeGroupEvent g, level⟩, none⟩
  | _ =>
    match sec_level.itemFrom with
    | none => ⟨cfg, some "'from' is not found."⟩
    | some (.number lo) =>
      match sec_level.itemTo with
      | none => ⟨cfg, some "'to' is not found."⟩
      | some (.number hi) =>
        if lo.toInt ≤ hi.toInt then ⟨cfg.pushBack ⟨lo, hi, level⟩, none⟩
        else ⟨cfg, some "'from' < 'to'."⟩
      | some _ => ⟨cfg, some "'to' should be number."⟩
    | some _ => ⟨cfg, some "'from' should be string or number."⟩

/-- The level an entry declares; a negative one stands for none. -/
def declaredLevel (valueint : BitVec 32) : Int :=
  if valueint.toInt < 0 then fdbSecurityLevelNone else valueint.toInt

/-- The body of the loop for an object. -/
def parseObject (cfg : CApiSecLevelTbl) (sec_level : ApiObject) : Parsed :=
  match sec_level.itemLevel with
  | none => ⟨cfg, some "'level' is not found."⟩
  | some (.number v) =>
    match sec_level.itemDefault with
    | none => parseScope cfg (declaredLevel v) sec_level
    -- the loop goes on to the range of the entry after its default was taken
    | some (.bool true) =>
      parseScope { cfg with mDefaultLevel := declaredLevel v } (declaredLevel v) sec_level
    | some _ => ⟨cfg, some "default should be true or false."⟩
  | some _ => ⟨cfg, some "'level' should be number."⟩

/-- The loop of `parseApiConfig`: an error ends it and leaves the table as it is then. -/
def parseItems (cfg : CApiSecLevelTbl) : List ApiItem → Parsed
  | [] => ⟨cfg, none⟩
  | .other :: _ => ⟨cfg, some "not object - 1."⟩
  | .object sec_level :: items =>
    match parseObject cfg sec_level with
    | ⟨cfg', none⟩ => parseItems cfg' items
    | failed => failed

/-- `parseApiConfig(json_handle, cfg, err_msg)`. -/
def parseApiConfig (cfg : CApiSecLevelTbl) : ApiJson → Parsed
  | .array items => parseItems cfg items
  | .other => ⟨cfg, some "not array - 1."⟩

/-- A `CApiSecurityConfig` with both of its tables. -/
structure CApiSecurityTables extends CApiSecurityConfig where
  mMessageSecLevelTbl : CApiSecLevelTbl

/-- A `CApiSecurityConfig` that has read nothing. -/
def CApiSecurityTables.fresh : CApiSecurityTables where
  mEventSecLevelTbl := {}
  mMessageSecLevelTbl := {}

/-- `getMessageSecLevel(msg_code)`. -/
def CApiSecurityTables.getMessageSecLevel (cfg : CApiSecurityTables) (code : FdbMsgCode) : Int :=
  getSecLevel code cfg.mMessageSecLevelTbl

/-- `parseSecurityConfig(json_str, err_msg)`; a text that is no object sets no error. -/
def CApiSecurityTables.parseSecurityConfig (cfg : CApiSecurityTables) :
    ApiText → CApiSecurityTables × Option String
  | .unparsable => (cfg, some "unable to parse json string.")
  | .other => (cfg, none)
  | .object none _ => (cfg, some "'message' is not found!")
  | .object (some message) event =>
    let m := parseApiConfig cfg.mMessageSecLevelTbl message
    let cfg := { cfg with mMessageSecLevelTbl := m.cfg }
    match m.errMsg, event with
    | some err, _ => (cfg, some err)
    | none, none => (cfg, some "'event' is not found!")
    | none, some event =>
      let e := parseApiConfig cfg.mEventSecLevelTbl event
      ({ cfg with mEventSecLevelTbl := e.cfg }, e.errMsg)

/-- `importSecLevel(svc_name)` with what is read of the service's file, and the error it
logs.  A configuration with ranges is not read again, and after an error only the ranges
are cleared. -/
def CApiSecurityTables.importSecLevel (cfg : CApiSecurityTables) (file : Option ApiText) :
    CApiSecurityTables × Option String :=
  if !cfg.mMessageSecLevelTbl.mApiSecRangeTbl.isEmpty
      || !cfg.mEventSecLevelTbl.mApiSecRangeTbl.isEmpty then (cfg, none)
  else
    match file with
    | none => (cfg, none)
    | some text =>
      match cfg.parseSecurityConfig text with
      | (cfg', none) => (cfg', none)
      | (cfg', some err) =>
        ({ mMessageSecLevelTbl := { cfg'.mMessageSecLevelTbl with mApiSecRangeTbl := [] }
           mEventSecLevelTbl := { cfg'.mEventSecLevelTbl with mApiSecRangeTbl := [] } },
          some err)

/-! ## §2. What a configuration says. -/

/-- The codes an entry is about. -/
inductive ApiScope where
  | group (g : BitVec 32)
  | range (lo hi : BitVec 32) (ordered : lo.toInt ≤ hi.toInt)

/-- An entry of a well-formed list: it has a level, and it is the default, is about some
codes, or both. -/
structure ApiEntry where
  level : BitVec 32
  isDefault : Bool
  scope : Option ApiScope
  meaningful : isDefault = true ∨ scope.isSome = true

/-- The entry as it stands in the file. -/
def ApiEntry.toJson (e : ApiEntry) : ApiItem :=
  let base : ApiObject :=
    { itemLevel := some (.number e.level)
      itemDefault := if e.isDefault then some (.bool true) else none }
  match e.scope with
  | none => .object base
  | some (.group g) => .object { base with itemGroup := some (.number g) }
  | some (.range lo hi _) =>
    .object { base with itemFrom := some (.number lo), itemTo := some (.number hi) }

/-- A well-formed list as it stands in the file. -/
def listJson (entries : List ApiEntry) : ApiJson := .array (entries.map ApiEntry.toJson)

/-- The codes of a scope: those of the group, or those from `lo` to `hi`. -/
def ApiScope.holds (code : FdbMsgCode) : ApiScope → Bool
  | .group g => fdbEventInGroup code g
  | .range lo hi _ => code.toInt ≥ lo.toInt && code.toInt ≤ hi.toInt

/-- The entry is about the code. -/
def ApiEntry.holds (code : FdbMsgCode) (e : ApiEntry) : Bool := e.scope.any (·.holds code)

/-- The level of the default entry (the last one, if there are several), or the level that is
used without a configuration. -/
def intendedDefault (entries : List ApiEntry) : Int :=
  (entries.filter (·.isDefault)).getLast?.elim fdbSecurityLevelNone fun e => declaredLevel e.level

/-- The level a list gives to a code: that of the first entry about it, else the default. -/
def intendedLevel (entries : List ApiEntry) (code : FdbMsgCode) : Int :=
  (entries.find? (·.holds code)).elim (intendedDefault entries) fun e => declaredLevel e.level

/-! ## §3. What the parser makes of it. -/

/-- The scope that the parser stores: a group becomes the range of the one code that stands
for the group. -/
def ApiScope.stored : ApiScope → ApiScope
  | .group g => .range (fdbMakeGroupEvent g) (fdbMakeGroupEvent g) le_rfl
  | .range lo hi h => .range lo hi h

/-- The entry as the parser stores it. -/
def ApiEntry.stored (e : ApiEntry) : ApiEntry where
  level := e.level
  isDefault := e.isDefault
  scope := e.scope.map ApiScope.stored
  meaningful := by
    rw [Option.isSome_map]
    exact e.meaningful

/-- The range of a scope in the table. -/
def ApiScope.toRange (level : Int) : ApiScope → CSecLevelRange
  | .group g => ⟨fdbMakeGroupEvent g, fdbMakeGroupEvent g, level⟩
  | .range lo hi _ => ⟨lo, hi, level⟩

/-- The ranges of a list of entries. -/
def rangesOf (entries : List ApiEntry) : List CSecLevelRange :=
  entries.filterMap fun e => e.scope.map (·.toRange (declaredLevel e.level))

/-- The default level after a list of entries, from the one before it. -/
def defaultAfter (level : Int) (entries : List ApiEntry) : Int :=
  entries.foldl (fun level e => if e.isDefault then declaredLevel e.level else level) level

variable (entries : List ApiEntry) (code : FdbMsgCode) (cfg : CApiSecLevelTbl) (level : Int)
  (obj : ApiObject)

open ApiEntry CApiSecurityTables

theorem parseObject_toJson (e : ApiEntry) :
    ∃ obj, e.toJson = .object obj ∧
      parseObject cfg obj = match e.scope with
        | some scope =>
          ⟨⟨defaultAfter cfg.mDefaultLevel [e],
            cfg.mApiSecRangeTbl ++ [scope.toRange (declaredLevel e.level)]⟩, none⟩
        | none =>
          ⟨{ cfg with mDefaultLevel := defaultAfter cfg.mDefaultLevel [e] },
            some "'from' is not found."⟩ := by
  obtain ⟨level, isDefault, scope, _⟩ := e
  unfold toJson defaultAfter
  -- the two forms of the default meet the three of the scope
  cases isDefault <;> rcases scope with _ | ⟨g⟩ | ⟨lo, hi, hle⟩ <;>
    refine ⟨_, rfl, ?_⟩ <;>
    simp [parseObject, parseScope, CApiSecLevelTbl.pushBack, ApiScope.toRange, *]

/-- **The parser on a well-formed list.**  If every entry is about some codes, all of them
enter the table in their order. -/
theorem parseItems_map_toJson (hall : ∀ e ∈ entries, e.scope.isSome) (cfg : CApiSecLevelTbl) :
    parseItems cfg (entries.map toJson)
      = ⟨⟨defaultAfter cfg.mDefaultLevel entries, cfg.mApiSecRangeTbl ++ rangesOf entries⟩, none⟩ := by
  induction entries generalizing cfg with
  | nil => simp [parseItems, defaultAfter, rangesOf]
  | cons e entries ih =>
    rw [forall_mem_cons] at hall
    obtain ⟨scope, hscope⟩ := isSome_iff_exists.mp hall.1
    obtain ⟨obj, hobj, hparse⟩ := parseObject_toJson cfg e
    rw [map_cons, hobj, parseItems, hparse, hscope]
    show parseItems _ _ = _
    rw [ih hall.2]
    simp [rangesOf, hscope, defaultAfter]

/-- An entry that is only a default stops the parser. -/
theorem parseItems_bare_default
    (hbare : ∃ e ∈ entries, e.scope.isSome = false) (cfg : CApiSecLevelTbl) :
    (parseItems cfg (entries.map toJson)).errMsg = some "'from' is not found." := by
  induction entries generalizing cfg with
  | nil =>
    obtain ⟨e, he, _⟩ := hbare
    cases he
  | cons e entries ih =>
    obtain ⟨obj, hobj, hparse⟩ := parseObject_toJson cfg e
    rw [map_cons, hobj, parseItems, hparse]
    cases hscope : e.scope with
    | none => rfl
    | some scope =>
      apply ih
      obtain ⟨e', he', hbare'⟩ := hbare
      rcases mem_cons.mp he' with rfl | htail
      · rw [hscope] at hbare'
        cases hbare'
      · exact ⟨e', htail, hbare'⟩

theorem parseApiConfig_listJson_ok :
    (parseApiConfig cfg (listJson entries)).errMsg = none ↔ ∀ e ∈ entries, e.scope.isSome := by
  show (parseItems cfg (entries.map toJson)).errMsg = none ↔ _
  constructor
  · intro hok
    by_contra hsome
    push Not at hsome
    obtain ⟨e, he, hbare⟩ := hsome
    rw [parseItems_bare_default entries ⟨e, he, Bool.eq_false_iff.mpr hbare⟩ cfg] at hok
    cases hok
  · intro hall
    rw [parseItems_map_toJson entries hall cfg]

/-! ## §4. The level of a code. -/

theorem defaultAfter_eq :
    defaultAfter level entries
      = (entries.filter (·.isDefault)).getLast?.elim level fun e => declaredLevel e.level := by
  induction entries generalizing level with
  | nil => rfl
  | cons e entries ih =>
    show defaultAfter (if e.isDefault then declaredLevel e.level else level) entries = _
    rw [ih, filter_cons]
    by_cases hdef : e.isDefault = true
    · rw [if_pos hdef, if_pos hdef, getLast?_cons]
      cases (entries.filter (·.isDefault)).getLast? <;> rfl
    · rw [if_neg hdef, if_neg hdef]

theorem intendedDefault_stored :
    intendedDefault (entries.map stored) = intendedDefault entries := by
  unfold intendedDefault
  rw [List.filter_map, List.getLast?_map]
  show ((entries.filter (·.isDefault)).getLast?.map stored).elim _ _ = _
  cases (entries.filter (·.isDefault)).getLast? <;> rfl

/-- A code is in the stored range of a scope exactly if the stored scope holds it. -/
theorem holds_stored (scope : ApiScope) (level : Int) (code : FdbMsgCode) :
    (decide (code.toInt ≥ (scope.toRange level).mBegin.toInt)
      && decide (code.toInt ≤ (scope.toRange level).mEnd.toInt)) = scope.stored.holds code := by
  cases scope <;> rfl

theorem find_rangesOf :
    ((rangesOf entries).find? fun r =>
        code.toInt ≥ r.mBegin.toInt && code.toInt ≤ r.mEnd.toInt).map (·.mSecLevel)
      = ((entries.map stored).find? (·.holds code)).map fun e => declaredLevel e.level := by
  induction entries with
  | nil => rfl
  | cons e entries ih =>
    rw [map_cons, find?_cons]
    unfold rangesOf at ih ⊢
    rw [filterMap_cons]
    cases hscope : e.scope with
    | none =>
      -- without a scope the entry is about no code
      have hnot : e.stored.holds code = false := by
        simp [stored, holds, hscope]
      rw [hnot]
      exact ih
    | some scope =>
      have hholds : e.stored.holds code = scope.stored.holds code := by
        simp [stored, holds, hscope]
      rw [map_some, find?_cons, holds_stored, hholds]
      cases scope.stored.holds code with
      | true => cases scope <;> rfl
      | false => exact ih

/-- The level of a code after a successful parse is what the stored entries say. -/
theorem getSecLevel_parsed :
    getSecLevel code ⟨defaultAfter fdbSecurityLevelNone entries, rangesOf entries⟩
      = intendedLevel (entries.map stored) code := by
  have hfind := find_rangesOf entries code
  unfold getSecLevel intendedLevel
  rw [intendedDefault_stored, defaultAfter_eq]
  cases hr : (rangesOf entries).find? _ <;>
    cases he : (entries.map stored).find? (·.holds code) <;>
    simp_all [intendedDefault]

/-! ## §5. Which configurations mean what they say. -/

/-- The entry is a range that contains the code. -/
def ApiEntry.inRange (code : FdbMsgCode) (e : ApiEntry) : Bool :=
  match e.scope with
  | some (.range lo hi _) => code.toInt ≥ lo.toInt && code.toInt ≤ hi.toInt
  | _ => false

/-- A group entry gives its level to the group's own code.  Every other code of the group that is
named by no entry before it has the same level from the first range with it, or else from the
default. -/
def GroupsLiteral (entries : List ApiEntry) : Prop :=
  ∀ code e g, entries.find? (·.holds code) = some e → e.scope = some (.group g) →
    code ≠ fdbMakeGroupEvent g →
      (entries.find? (·.inRange code)).elim (intendedDefault entries) (declaredLevel ·.level)
        = declaredLevel e.level

/-- Every entry names codes of its own, and no code misses the level of its group. -/
def Literal (entries : List ApiEntry) : Prop :=
  (∀ e ∈ entries, e.scope.isSome = true) ∧ GroupsLiteral entries

section Groups

variable {entries : List ApiEntry} {code : FdbMsgCode} {e : ApiEntry} {g : BitVec 32}

/-- The stored entry is about the codes of its range, or about the own code of its group. -/
theorem stored_holds_iff :
    e.stored.holds code = true
      ↔ e.inRange code = true ∨ ∃ g, e.scope = some (.group g) ∧ code = fdbMakeGroupEvent g := by
  obtain ⟨level, isDefault, scope, hmeaning⟩ := e
  rcases scope with _ | g | ⟨lo, hi, hle⟩
  · simp [stored, holds, inRange]
  · have hown : code.toInt ≥ (fdbMakeGroupEvent g).toInt ∧ code.toInt ≤ (fdbMakeGroupEvent g).toInt
        ↔ code = fdbMakeGroupEvent g := by
      rw [← BitVec.toInt_inj]
      omega
    simpa [stored, holds, inRange, ApiScope.stored, ApiScope.holds] using hown
  · simp [stored, holds, inRange, ApiScope.stored, ApiScope.holds]

/-- An entry is about a code: the stored one is, or the code is another one of its group. -/
theorem holds_iff_stored :
    e.holds code = true ↔ e.stored.holds code = true
      ∨ ∃ g, e.scope = some (.group g) ∧ fdbEventInGroup code g = true
          ∧ code ≠ fdbMakeGroupEvent g := by
  rw [stored_holds_iff]
  obtain ⟨level, isDefault, scope, hmeaning⟩ := e
  rcases scope with _ | g | ⟨lo, hi, hle⟩
  · simp [holds, inRange]
  · by_cases hown : code = fdbMakeGroupEvent g
    · simp [holds, inRange, ApiScope.holds, hown, makeGroupEvent_inGroup]
    · simp [holds, inRange, ApiScope.holds, hown]
  · simp [holds, inRange, ApiScope.holds]

/-- The first entry whose stored form is about the code decides the stored level. -/
theorem intendedLevel_stored (entries : List ApiEntry) (code : FdbMsgCode) :
    intendedLevel (entries.map stored) code
      = (entries.find? (·.stored.holds code)).elim (intendedDefault entries)
          (declaredLevel ·.level) := by
  unfold intendedLevel
  rw [intendedDefault_stored, find?_map]
  show ((entries.find? (·.stored.holds code)).map stored).elim _ _ = _
  cases entries.find? (·.stored.holds code) <;> rfl

/-- A code of a group that is not its own is no group's own code, so only ranges are left. -/
theorem find_stored_group (hgroup : fdbEventInGroup code g = true)
    (hown : code ≠ fdbMakeGroupEvent g) :
    entries.find? (·.stored.holds code) = entries.find? (·.inRange code) := by
  congr 1
  funext e
  refine Bool.eq_iff_iff.mpr (stored_holds_iff.trans (or_iff_left ?_))
  rintro ⟨g', -, rfl⟩
  exact hown (makeGroupEvent_inGroup.mp hgroup)

/-- The stored entries give every code its level exactly if no code misses that of its group. -/
theorem groupsLiteral_iff :
    (∀ code, intendedLevel (entries.map stored) code = intendedLevel entries code)
      ↔ GroupsLiteral entries := by
  simp only [intendedLevel_stored]
  unfold intendedLevel
  constructor
  · intro hsame code e g hfind hscope hown
    have hgroup : fdbEventInGroup code g = true := by
      have hholds := find?_some hfind
      rwa [holds, hscope] at hholds
    rw [← find_stored_group hgroup hown, hsame, hfind]
    rfl
  · intro hgroups code
    cases hfind : entries.find? (·.holds code) with
    | none =>
      rw [find?_eq_none.mpr fun e he h =>
        find?_eq_none.mp hfind e he (holds_iff_stored.mpr (.inl h))]
    | some e =>
      rcases holds_iff_stored.mp (find?_some hfind) with hstored | ⟨g, hscope, hgroup, hown⟩
      · -- no entry before it is stored with the code
        obtain ⟨-, before, after, rfl, hbefore⟩ := find?_eq_some_iff_append.mp hfind
        have hnone : before.find? (·.stored.holds code) = none := find?_eq_none.mpr fun e' he' h => by
          simpa [holds_iff_stored.mpr (.inl h)] using hbefore e' he'
        rw [find?_append, hnone, none_or, find?_cons, hstored]
      · rw [find_stored_group hgroup hown, hgroups code e g hfind hscope hown]
        rfl

end Groups

theorem importSecLevel_fresh (message event : ApiJson) :
    fresh.importSecLevel (some (.object (some message) (some event)))
      = match (parseApiConfig {} message).errMsg, (parseApiConfig {} event).errMsg with
        | none, none =>
          (⟨⟨(parseApiConfig {} event).cfg⟩, (parseApiConfig {} message).cfg⟩, none)
        | none, some err =>
          (⟨⟨⟨(parseApiConfig {} event).cfg.mDefaultLevel, []⟩⟩,
            ⟨(parseApiConfig {} message).cfg.mDefaultLevel, []⟩⟩, some err)
        | some err, _ =>
          (⟨⟨{}⟩, ⟨(parseApiConfig {} message).cfg.mDefaultLevel, []⟩⟩, some err) := by
  unfold importSecLevel parseSecurityConfig
    fresh
  cases hm : (parseApiConfig {} message).errMsg with
  | some err => simp [hm]
  | none => cases he : (parseApiConfig {} event).errMsg <;> simp [hm, he]

/-- **What the configuration means.**  A file with well-formed lists is accepted and gives
every message and event code the intended level exactly if both lists are literal. -/
theorem importSecLevel_means_iff (message event : List ApiEntry) :
    ((CApiSecurityTables.fresh.importSecLevel
          (some (.object (some (listJson message)) (some (listJson event))))).2 = none
        ∧ (∀ code, (CApiSecurityTables.fresh.importSecLevel
              (some (.object (some (listJson message)) (some (listJson event))))).1.getMessageSecLevel
            code = intendedLevel message code)
        ∧ ∀ code, (CApiSecurityTables.fresh.importSecLevel
              (some (.object (some (listJson message)) (some (listJson event))))).1.getEventSecLevel
            code = intendedLevel event code)
      ↔ Literal message ∧ Literal event := by
  rw [importSecLevel_fresh]
  have hm := parseApiConfig_listJson_ok message {}
  have he := parseApiConfig_listJson_ok event {}
  by_cases hmall : ∀ e ∈ message, e.scope.isSome = true
  · by_cases heall : ∀ e ∈ event, e.scope.isSome = true
    · -- both lists are read: the tables hold the stored entries
      have hmeq : parseApiConfig {} (listJson message) = _ :=
        parseItems_map_toJson message hmall {}
      have heeq : parseApiConfig {} (listJson event) = _ := parseItems_map_toJson event heall {}
      rw [hmeq, heeq]
      show (none = none ∧ (∀ code, getSecLevel code _ = _) ∧ ∀ code, getSecLevel code _ = _) ↔ _
      simp only [nil_append, getSecLevel_parsed, groupsLiteral_iff, Literal, true_and,
        eq_true hmall, eq_true heall]
    · have herr : (parseApiConfig {} (listJson event)).errMsg ≠ none := fun h => heall (he.mp h)
      obtain ⟨err, herr⟩ := ne_none_iff_exists'.mp herr
      rw [hm.mpr hmall, herr]
      simp only [reduceCtorEq, false_and, false_iff, not_and]
      intro _ hlit
      exact heall hlit.1
  · have herr : (parseApiConfig {} (listJson message)).errMsg ≠ none := fun h => hmall (hm.mp h)
    obtain ⟨err, herr⟩ := ne_none_iff_exists'.mp herr
    rw [herr]
    simp only [reduceCtorEq, false_and, false_iff, not_and]
    intro hlit
    exact absurd hlit.1 hmall

/-- The default entry `{"level": 2, "default": true}`. -/
def defaultEntry : ApiEntry := ⟨2#32, true, none, Or.inl rfl⟩

/-- The group entry `{"level": 3, "group": 1}`. -/
def groupEntry : ApiEntry := ⟨3#32, false, some (.group 1#32), Or.inr rfl⟩

/-- A list with a default entry is rejected, and event 5 of group 1 does not get the level of
the group. -/
theorem default_rejected_group_ignored :
    (CApiSecurityTables.fresh.importSecLevel
        (some (.object (some (listJson [defaultEntry])) (some (listJson []))))).2
      = some "'from' is not found."
    ∧ (CApiSecurityTables.fresh.importSecLevel
        (some (.object (some (listJson [])) (some (listJson [groupEntry]))))).2 = none
    ∧ (CApiSecurityTables.fresh.importSecLevel
        (some (.object (some (listJson [])) (some (listJson [groupEntry]))))).1.getEventSecLevel
          0x01000005#32 = fdbSecurityLevelNone
    ∧ intendedLevel [groupEntry] 0x01000005#32 = 3 := by
  decide +kernel

/-! ## §6. A file with an error.

The ranges are cleared then, but a default is taken over as soon as the parser comes to it. -/

/-- The level that an entry makes the default; the rest of the entry is looked at later. -/
def ApiObject.takenDefault (obj : ApiObject) : Option Int :=
  match obj.itemLevel, obj.itemDefault with
  | some (.number v), some (.bool true) => some (declaredLevel v)
  | _, _ => none

/-- The entries that the loop looks at: up to the first one with an error. -/
def lookedAt : List ApiItem → List ApiObject
  | [] => []
  | .other :: _ => []
  | .object obj :: items =>
    if (parseObject {} obj).errMsg = none then obj :: lookedAt items else [obj]

def ApiJson.lookedAt : ApiJson → List ApiObject
  | .array items => Security.lookedAt items
  | .other => []

/-- The entries of the two lists that are looked at; those for events only if the messages have no
error. -/
def ApiText.lookedAt : ApiText → List ApiObject × List ApiObject
  | .object (some message) event =>
    (message.lookedAt,
      if (parseApiConfig {} message).errMsg = none then event.elim [] ApiJson.lookedAt else [])
  | _ => ([], [])

/-- The last default among these entries. -/
def lastDefault (objs : List ApiObject) : Option Int :=
  (objs.filterMap ApiObject.takenDefault).getLast?

/-- None of the entries is a default, or the last one that is has the level. -/
def KeepsDefault (level : Int) (objs : List ApiObject) : Prop :=
  ∀ l, lastDefault objs = some l → l = level

/-- A configuration that has read ranges; it is not read again. -/
def CApiSecurityTables.HasRanges (cfg : CApiSecurityTables) : Prop :=
  cfg.mMessageSecLevelTbl.mApiSecRangeTbl ≠ [] ∨ cfg.mEventSecLevelTbl.mApiSecRangeTbl ≠ []

theorem parseScope_default : (parseScope cfg level obj).cfg.mDefaultLevel = cfg.mDefaultLevel := by
  unfold parseScope
  repeat' split
  all_goals rfl

/-- Whether a scope is accepted does not depend on the table. -/
theorem parseScope_errMsg (cfg' : CApiSecLevelTbl) (level : Int) (obj : ApiObject) :
    (parseScope cfg level obj).errMsg = (parseScope cfg' level obj).errMsg := by
  unfold parseScope
  repeat' split
  all_goals rfl

theorem parseObject_default :
    (parseObject cfg obj).cfg.mDefaultLevel = obj.takenDefault.getD cfg.mDefaultLevel := by
  unfold parseObject ApiObject.takenDefault
  rcases obj.itemLevel with _ | ⟨v⟩ | b | _
  · rfl
  · rcases obj.itemDefault with _ | ⟨w⟩ | b | _
    · exact parseScope_default cfg _ obj
    · rfl
    · cases b with
      | true => exact parseScope_default _ _ obj
      | false => rfl
    · rfl
  · rfl
  · rfl

theorem parseObject_errMsg (cfg' : CApiSecLevelTbl) (obj : ApiObject) :
    (parseObject cfg obj).errMsg = (parseObject cfg' obj).errMsg := by
  unfold parseObject
  rcases obj.itemLevel with _ | ⟨v⟩ | b | _
  · rfl
  · rcases obj.itemDefault with _ | ⟨w⟩ | b | _
    · exact parseScope_errMsg cfg cfg' _ obj
    · rfl
    · cases b with
      | true => exact parseScope_errMsg _ _ _ obj
      | false => rfl
    · rfl
  · rfl
  · rfl

theorem lastDefault_cons (objs : List ApiObject) (level : Int) :
    (lastDefault (obj :: objs)).getD level
      = (lastDefault objs).getD (obj.takenDefault.getD level) := by
  unfold lastDefault
  rw [filterMap_cons]
  cases obj.takenDefault with
  | none => rfl
  | some l =>
    simp only [getLast?_cons]
    cases (objs.filterMap ApiObject.takenDefault).getLast? <;> rfl

/-- **The default after the loop** is that of the last entry that was looked at and is one, and
whether there is an error depends on the entries alone. -/
theorem parseItems_default (items : List ApiItem) :
    ∀ cfg : CApiSecLevelTbl,
      (parseItems cfg items).cfg.mDefaultLevel
          = (lastDefault (lookedAt items)).getD cfg.mDefaultLevel
        ∧ (parseItems cfg items).errMsg = (parseItems {} items).errMsg := by
  induction items with
  | nil =>
    intro cfg
    exact ⟨rfl, rfl⟩
  | cons item items ih =>
    intro cfg
    cases item with
    | other => exact ⟨rfl, rfl⟩
    | object obj =>
      have herr := parseObject_errMsg cfg {} obj
      have hdefault := parseObject_default cfg obj
      unfold parseItems lookedAt
      rcases hcfg : parseObject cfg obj with ⟨cfg₁, err₁⟩
      rcases hfresh : parseObject {} obj with ⟨cfg₂, err₂⟩
      rw [hcfg, hfresh] at herr
      rw [hcfg] at hdefault
      subst herr
      cases err₁ with
      | none =>
        -- the entry is accepted, and the loop goes on with its default
        rw [if_pos rfl, lastDefault_cons, ← hdefault]
        exact ⟨(ih cfg₁).1, (ih cfg₁).2.trans (ih cfg₂).2.symm⟩
      | some err =>
        rw [if_neg (by simp), lastDefault_cons, ← hdefault]
        exact ⟨rfl, rfl⟩

theorem parseApiConfig_default (json : ApiJson) :
    (parseApiConfig cfg json).cfg.mDefaultLevel
        = (lastDefault json.lookedAt).getD cfg.mDefaultLevel
      ∧ (parseApiConfig cfg json).errMsg = (parseApiConfig {} json).errMsg := by
  cases json with
  | array items => exact parseItems_default items cfg
  | other => exact ⟨rfl, rfl⟩

/-- The defaults after the file was read. -/
theorem parseSecurityConfig_default (cfg : CApiSecurityTables) (text : ApiText) :
    (cfg.parseSecurityConfig text).1.mMessageSecLevelTbl.mDefaultLevel
        = (lastDefault text.lookedAt.1).getD cfg.mMessageSecLevelTbl.mDefaultLevel
      ∧ (cfg.parseSecurityConfig text).1.mEventSecLevelTbl.mDefaultLevel
        = (lastDefault text.lookedAt.2).getD cfg.mEventSecLevelTbl.mDefaultLevel := by
  unfold parseSecurityConfig ApiText.lookedAt
  cases text with
  | unparsable => exact ⟨rfl, rfl⟩
  | other => exact ⟨rfl, rfl⟩
  | object message event =>
    cases message with
    | none => exact ⟨rfl, rfl⟩
    | some message =>
      obtain ⟨hmessage, herr⟩ := parseApiConfig_default cfg.mMessageSecLevelTbl message
      dsimp only
      rw [← herr]
      cases hm : (parseApiConfig cfg.mMessageSecLevelTbl message).errMsg with
      | some err =>
        -- the events are not looked at
        exact ⟨hmessage, rfl⟩
      | none =>
        cases event with
        | none => exact ⟨hmessage, rfl⟩
        | some event => exact ⟨hmessage, (parseApiConfig_default cfg.mEventSecLevelTbl event).1⟩

theorem keepsDefault_iff (objs : List ApiObject) :
    (lastDefault objs).getD level = level ↔ KeepsDefault level objs := by
  unfold KeepsDefault
  cases lastDefault objs with
  | none => simp
  | some l => simp

/-- **A file with an error** leaves the levels of all message and event codes as they were exactly
if the configuration has been read before, or the defaults that the parser comes to, up to the
error, are in the end those that there were. -/
theorem failed_import_iff (cfg : CApiSecurityTables) (text : ApiText) {err : String}
    (h : (cfg.parseSecurityConfig text).2 = some err) :
    ((∀ code, (cfg.importSecLevel (some text)).1.getMessageSecLevel code
          = cfg.getMessageSecLevel code)
        ∧ ∀ code, (cfg.importSecLevel (some text)).1.getEventSecLevel code
          = cfg.getEventSecLevel code)
      ↔ cfg.HasRanges
        ∨ KeepsDefault cfg.mMessageSecLevelTbl.mDefaultLevel text.lookedAt.1
          ∧ KeepsDefault cfg.mEventSecLevelTbl.mDefaultLevel text.lookedAt.2 := by
  obtain ⟨hmessage, hevent⟩ := parseSecurityConfig_default cfg text
  rcases hparse : cfg.parseSecurityConfig text with ⟨parsed, err'⟩
  rw [hparse] at h hmessage hevent
  subst h
  by_cases hranges : cfg.HasRanges
  · -- nothing is read
    have himport : (cfg.importSecLevel (some text)).1 = cfg := by
      unfold importSecLevel
      rw [if_pos]
      simpa [CApiSecurityTables.HasRanges] using hranges
    rw [himport]
    exact iff_of_true ⟨fun _ => rfl, fun _ => rfl⟩ (.inl hranges)
  · have hnone := hranges
    unfold CApiSecurityTables.HasRanges at hnone
    push Not at hnone
    have himport : (cfg.importSecLevel (some text)).1
        = ⟨⟨⟨parsed.mEventSecLevelTbl.mDefaultLevel, []⟩⟩,
          ⟨parsed.mMessageSecLevelTbl.mDefaultLevel, []⟩⟩ := by
      unfold importSecLevel
      rw [if_neg (by simp [hnone.1, hnone.2])]
      simp only [hparse]
    -- without ranges every code has the default level, before and after
    have hbefore : ∀ code, cfg.getMessageSecLevel code = cfg.mMessageSecLevelTbl.mDefaultLevel
        ∧ cfg.getEventSecLevel code = cfg.mEventSecLevelTbl.mDefaultLevel := by
      intro code
      unfold getMessageSecLevel CApiSecurityConfig.getEventSecLevel getSecLevel
      rw [hnone.1, hnone.2]
      exact ⟨rfl, rfl⟩
    rw [himport, or_iff_right hranges, ← keepsDefault_iff, ← keepsDefault_iff, ← hmessage, ← hevent]
    constructor
    · intro hsame
      exact ⟨(hsame.1 0#32).trans (hbefore 0#32).1, (hsame.2 0#32).trans (hbefore 0#32).2⟩
    · intro hsame
      exact ⟨fun code => hsame.1.trans (hbefore code).1.symm,
        fun code => hsame.2.trans (hbefore code).2.symm⟩

/-- A default for messages with a range, and an entry without a level behind it. -/
def brokenText : ApiText :=
  .object
    (some (.array
      [.object
        { itemLevel := some (.number 2#32)
          itemDefault := some (.bool true)
          itemFrom := some (.number 0#32)
          itemTo := some (.number 9#32) },
        .object {}]))
    (some (.array []))

/-- The file is rejected, and afterwards message 100 needs level 2. -/
theorem broken_file_changes_level :
    (CApiSecurityTables.fresh.parseSecurityConfig brokenText).2 = some "'level' is not found."
      ∧ CApiSecurityTables.fresh.getMessageSecLevel 100#32 = fdbSecurityLevelNone
      ∧ (CApiSecurityTables.fresh.importSecLevel (some brokenText)).1.getMessageSecLevel 100#32
        = 2 := by
  decide +kernel

/-- A range of messages, and an entry without a level behind it. -/
def brokenRange : ApiText :=
  .object
    (some (.array
      [.object
        { itemLevel := some (.number 2#32)
          itemFrom := some (.number 0#32)
          itemTo := some (.number 9#32) },
        .object {}]))
    none

/-- The file is rejected, and its range is dropped. -/
theorem failed_import_range :
    (CApiSecurityTables.fresh.parseSecurityConfig brokenRange).2 = some "'level' is not found."
      ∧ (∀ code, (CApiSecurityTables.fresh.importSecLevel (some brokenRange)).1.getMessageSecLevel
          code = CApiSecurityTables.fresh.getMessageSecLevel code)
      ∧ ∀ code, (CApiSecurityTables.fresh.importSecLevel (some brokenRange)).1.getEventSecLevel
          code = CApiSecurityTables.fresh.getEventSecLevel code :=
  ⟨rfl, (failed_import_iff fresh brokenRange rfl).mpr
    (.inr ⟨(keepsDefault_iff _ _).mp rfl, (keepsDefault_iff _ _).mp rfl⟩)⟩

end Fdbus.Security

/-
  Fdbus.Subscribe.CacheUpdate — the event cache over a sequence of messages.

  `update` writes the payload of a message into the cache and answers whether the message is to be
  forwarded.  Whether a payload is news is found out by `setEventCache`, from the size and the
  buffer of the entry; an entry without data has no buffer, and a buffer that is not there is never
  found equal.

    * `setEventCache_refines` — the buffer and the size of the source behave as the list of bytes
      that `CEventData` keeps,
    * `follows_iff` — the cache has the payload last given for each event and topic, and `update`
      answers 1 exactly if a message is forced, the first, or different from the cached one,
      exactly if no counted message without force gives an empty payload where one is cached,
    * `failed_add_iff` — `add` with a builder that fails leaves the cache as it was exactly if the
      event and topic are cached already, with the permissions that are given.

  Messages for which `update` answers -1 are skipped.
-/
import Fdbus.Library.Run
import Fdbus.Subscribe.EventCache

namespace Fdbus.Subscribe

open Fdbus.OrderedMap List Option
open Fdbus.Run

/-! ## §1. The buffer of an entry. -/

/-- `mBuffer` and `mSize` of a `CEventData`; the null pointer is `none`. -/
structure EventBuffer where
  mBuffer : Option (List UInt8) := none
  mSize : Nat := 0

namespace EventBuffer

/-- The data of the entry. -/
def bytes (b : EventBuffer) : List UInt8 := b.mBuffer.getD []

/-- A buffer has `mSize` bytes, and there is one exactly if there is data. -/
structure WellFormed (b : EventBuffer) : Prop where
  size_eq : b.mSize = b.bytes.length
  null_iff : b.mBuffer = none ↔ b.mSize = 0

/-- `new uint8_t[size]`; `memcpy` overwrites what the memory holds. -/
def newBytes (size : Nat) : List UInt8 := List.replicate size 0

/-- The entry is found equal: both buffers are there, and `memcmp` finds no difference. -/
def sameAs (b : EventBuffer) (buffer : Option (List UInt8)) (size : Nat) : Bool :=
  size == b.mSize && match b.mBuffer, buffer with
    | some old, some new => old.take size == new.take size
    | _, _ => false -- an entry without data has no buffer

/-- The entry with a buffer of this size, or none for size 0. -/
def resize (b : EventBuffer) (size : Nat) : EventBuffer :=
  if size = b.mSize then
    match b.mBuffer with
    | some _ => b
    | none => if size ≠ 0 then { b with mBuffer := some (newBytes size) } else b
  else ⟨if size ≠ 0 then some (newBytes size) else none, size⟩

/-- `memcpy(mBuffer, buffer, size)`, if there is something to copy. -/
def memcpy (b : EventBuffer) (buffer : Option (List UInt8)) (size : Nat) : EventBuffer :=
  match buffer with
  | some new =>
    if size ≠ 0 then
      { b with mBuffer := b.mBuffer.map fun old => new.take size ++ old.drop size }
    else b
  | none => b

/-- `setEventCache(buffer, size)`. -/
def setEventCache (b : EventBuffer) (buffer : Option (List UInt8)) (size : Nat) :
    EventBuffer × Bool :=
  if b.sameAs buffer size then (b, false) else ((b.resize size).memcpy buffer size, true)

/-- The pointer that a message has for its payload: an empty payload may have none. -/
def Points (buffer : Option (List UInt8)) (payload : List UInt8) : Prop :=
  buffer = some payload ∨ buffer = none ∧ payload = []

section

variable {b : EventBuffer} (hb : b.WellFormed)

include hb

variable {payload : List UInt8} {buffer : Option (List UInt8)}

/-- An entry is found equal if it has data, and the payload is that data. -/
theorem sameAs_iff (hp : Points buffer payload) :
    b.sameAs buffer payload.length = true ↔ b.bytes ≠ [] ∧ payload = b.bytes := by
  have hsize := hb.size_eq
  unfold sameAs
  unfold bytes at *
  rw [Bool.and_eq_true, beq_iff_eq]
  cases hold : b.mBuffer with
  | none => simp
  | some old =>
    -- the null pointer stands for no data, so this buffer has some
    have hne : old ≠ [] := by
      rintro rfl
      have hzero : b.mSize = 0 := by simpa [hold] using hsize
      have hnull := hb.null_iff.mpr hzero
      rw [hold] at hnull
      cases hnull
    have hlen : b.mSize = old.length := by simpa [hold] using hsize
    rcases hp with rfl | ⟨rfl, rfl⟩
    · rw [beq_iff_eq, take_length, hlen]
      constructor
      · rintro ⟨heq, hsame⟩
        rw [heq, take_length] at hsame
        exact ⟨hne, hsame.symm⟩
      · rintro ⟨-, rfl⟩
        exact ⟨rfl, take_length⟩
    · exact ⟨fun h => absurd h.2 Bool.false_ne_true, fun h => absurd h.2.symm hne⟩

/-- The buffer has the size that is asked for. -/
theorem resize_spec (size : Nat) :
    (b.resize size).mSize = size ∧ (b.resize size).bytes.length = size
      ∧ ((b.resize size).mBuffer = none ↔ size = 0) := by
  have hsize := hb.size_eq
  have hnull := hb.null_iff
  obtain ⟨mBuffer, mSize⟩ := b
  unfold resize
  unfold bytes at *
  dsimp only at *
  split
  · next heq =>
      subst heq
      cases mBuffer with
      | some old => exact ⟨rfl, hsize.symm, hnull⟩
      | none =>
        have hzero := hnull.mp rfl
        simp [hzero]
  · by_cases hzero : size = 0
    · simp [hzero]
    · simp [hzero, newBytes]

/-- A buffer of the right size takes the payload over. -/
theorem memcpy_spec (hp : Points buffer payload) :
    ((b.resize payload.length).memcpy buffer payload.length).WellFormed
      ∧ ((b.resize payload.length).memcpy buffer payload.length).bytes = payload := by
  obtain ⟨hsize, hlen, hnull⟩ := resize_spec hb payload.length
  generalize b.resize payload.length = r at hsize hlen hnull
  obtain ⟨mBuffer, mSize⟩ := r
  subst hsize
  unfold memcpy
  by_cases hempty : payload = []
  · subst hempty
    obtain rfl := hnull.mpr rfl
    have hnothing : ∀ (r : EventBuffer), r = ⟨none, 0⟩ → r.WellFormed ∧ r.bytes = [] := by
      rintro r rfl
      exact ⟨⟨rfl, ⟨fun _ => rfl, fun _ => rfl⟩⟩, rfl⟩
    apply hnothing
    cases buffer <;> rfl
  · have hzero : payload.length ≠ 0 := fun h => hempty (length_eq_zero_iff.mp h)
    obtain rfl : buffer = some payload := hp.resolve_right fun h => hempty h.2
    cases mBuffer with
    | none => exact absurd (hnull.mp rfl) hzero
    | some old =>
      have hdrop : old.drop payload.length = [] := drop_eq_nil_of_le (Nat.le_of_eq hlen)
      dsimp only
      rw [if_pos hzero, map_some, take_length, hdrop, append_nil]
      refine ⟨⟨rfl, ?_⟩, rfl⟩
      constructor
      · intro hnone
        cases hnone
      · intro h
        exact absurd h hzero

/-- **The buffer and the size do what the list of bytes does**: the entry stays well formed, has
the payload, and reports the same. -/
theorem setEventCache_refines {d : CEventData} (hd : d.mBuffer = b.bytes)
    (hp : Points buffer payload) :
    (b.setEventCache buffer payload.length).1.WellFormed
      ∧ (d.setEventCache payload).1.mBuffer = (b.setEventCache buffer payload.length).1.bytes
      ∧ (d.setEventCache payload).2 = (b.setEventCache buffer payload.length).2 := by
  unfold setEventCache CEventData.setEventCache
  rw [hd]
  by_cases hsame : b.bytes ≠ [] ∧ payload = b.bytes
  · rw [if_pos hsame, if_pos ((sameAs_iff hb hp).mpr hsame)]
    exact ⟨hb, hd, rfl⟩
  · rw [if_neg hsame, if_neg fun h => hsame ((sameAs_iff hb hp).mp h)]
    obtain ⟨hwf, hbytes⟩ := memcpy_spec hb hp
    exact ⟨hwf, hbytes.symm, rfl⟩

end

/-- A longer payload for an entry with one byte. -/
theorem setEventCache_refines_second :
    ((⟨some [7], 1⟩ : EventBuffer).setEventCache (some [8, 9]) 2).1.WellFormed
      ∧ [8, 9] = ((⟨some [7], 1⟩ : EventBuffer).setEventCache (some [8, 9]) 2).1.bytes
      ∧ true = ((⟨some [7], 1⟩ : EventBuffer).setEventCache (some [8, 9]) 2).2 :=
  setEventCache_refines ⟨rfl, by decide⟩ (d := ⟨[7], false, false⟩) rfl (.inl rfl)

end EventBuffer

/-! ## §2. Calls of `update`. -/

/-- A call of `update`. -/
structure CacheCall where
  msg : CacheMessage
  allowEventRoute : Bool
  role : EFdbEndpointRole

/-- The cached value of an event and topic. -/
def EventCacheTable.value (cache : EventCacheTable) (code : FdbMsgCode) (topic : Topic) :
    Option (List UInt8) :=
  (cache.get code topic).map CEventData.mBuffer

/-- The cache, with the payload that was last given for each event and topic. -/
structure CacheState where
  cache : EventCacheTable
  given : FdbMsgCode → Topic → Option (List UInt8)

namespace CacheState

/-- What was cached before counts as given. -/
def of (cache : EventCacheTable) : CacheState := ⟨cache, cache.value⟩

/-- What `update` returns. -/
def result (s : CacheState) (c : CacheCall) : EventCacheTable × Int :=
  s.cache.update c.msg c.allowEventRoute c.role

/-- The payload of the call is the last one of its event and topic. -/
def givenAfter (s : CacheState) (c : CacheCall) (code : FdbMsgCode) (topic : Topic) :
    Option (List UInt8) :=
  if code = c.msg.code ∧ topic = c.msg.topic then some c.msg.payload else s.given code topic

/-- One call; a message that is skipped gives nothing. -/
def call (s : CacheState) (c : CacheCall) : Option CacheState :=
  some ⟨(s.result c).1, if (s.result c).2 = -1 then s.given else s.givenAfter c⟩

/-- The message is forced, or its payload is news. -/
def News (s : CacheState) (c : CacheCall) : Prop :=
  c.msg.forceUpdate = true ∨ s.cache.get c.msg.code c.msg.topic = none
    ∨ ∃ d, s.cache.get c.msg.code c.msg.topic = some d ∧ c.msg.payload ≠ d.mBuffer

/-- What a message that is not skipped does: the cache has the payloads last given, only the entry
of the message is another, and the answer is 1 for news and 0 otherwise. -/
structure Recorded (s : CacheState) (c : CacheCall) : Prop where
  value : ∀ code topic, (s.result c).1.value code topic = s.givenAfter c code topic
  others : ∀ code topic, ¬ (code = c.msg.code ∧ topic = c.msg.topic) →
    (s.result c).1.get code topic = s.cache.get code topic
  forward : (s.result c).2 = 1 ↔ s.News c
  suppress : (s.result c).2 = 0 ↔ ¬ s.News c

/-- What a call is to do, unless it is skipped. -/
def Follows (s : CacheState) (c : CacheCall) : Prop := (s.result c).2 ≠ -1 → s.Recorded c

/-- A cached entry that the message is kept from: the event is not to be cached, or a server does
not take over what is published. -/
def Skips (c : CacheCall) (d : CEventData) : Prop :=
  d.mAllowCache = false
    ∨ c.role ≠ .client ∧ c.msg.type = .mtPublish ∧ d.mAllowRoute = false

/-- The condition: a message without force and without data that meets an entry without data is
skipped. -/
def TellsApart (s : CacheState) (c : CacheCall) : Prop :=
  ∀ d, s.cache.get c.msg.code c.msg.topic = some d → d.mBuffer = [] → c.msg.payload = [] →
    c.msg.forceUpdate = false → Skips c d

/-! ## §3. One message. -/

theorem get_put (cache : EventCacheTable) (code c : FdbMsgCode) (topic t : Topic)
    (d : CEventData) :
    (cache.put code topic d).get c t
      = if c = code ∧ t = topic then some d else cache.get c t := by
  unfold EventCacheTable.put EventCacheTable.get
  rw [bind_get_upsert]
  by_cases hc : code = c
  · subst hc
    rw [if_pos rfl, get_insert]
    by_cases ht : topic = t
    · simp [ht]
    · have hne : ¬ (code = code ∧ t = topic) := fun h => ht h.2.symm
      rw [if_neg ht, if_neg hne, get_getD]
  · have hne : ¬ (c = code ∧ t = topic) := fun h => hc h.1.symm
    rw [if_neg hc, if_neg hne]

/-- The entry that a message meets: the cached one, or a fresh one. -/
def entry (s : CacheState) (c : CacheCall) : CEventData :=
  (s.cache.get c.msg.code c.msg.topic).getD ⟨[], c.allowEventRoute, true⟩

variable (d : CEventData) {s : CacheState} {c : CacheCall}

/-- A message that the entry keeps out changes nothing. -/
theorem result_of_skips (h : Skips c (s.entry c)) : s.result c = (s.cache, -1) := by
  unfold entry at h
  unfold result EventCacheTable.update
  cases hget : s.cache.get c.msg.code c.msg.topic with
  | none =>
    rw [hget] at h
    have hroute := h.resolve_left (by simp)
    exact if_pos hroute
  | some d =>
    rw [hget] at h
    dsimp only
    rcases h with hcache | hroute
    · rw [if_neg (by simpa using hcache)]
    · split
      · exact if_pos hroute
      · rfl

/-- Any other is written, and counts as a change unless the entry is found equal. -/
theorem result_of_not_skips (h : ¬ Skips c (s.entry c)) :
    s.result c
      = (s.cache.put c.msg.code c.msg.topic ((s.entry c).setEventCache c.msg.payload).1,
        if ((s.entry c).setEventCache c.msg.payload).2 = false ∧ c.msg.forceUpdate = false then 0
          else 1) := by
  unfold Skips at h
  rw [not_or] at h
  unfold entry at *
  unfold result EventCacheTable.update
  cases hget : s.cache.get c.msg.code c.msg.topic with
  | none =>
    rw [hget] at h
    exact if_neg h.2
  | some d =>
    rw [hget] at h
    have hcache : d.mAllowCache = true := by simpa using h.1
    dsimp only
    rw [if_pos hcache]
    exact if_neg h.2

theorem mBuffer_setEventCache (payload : List UInt8) :
    (d.setEventCache payload).1.mBuffer = payload := by
  unfold CEventData.setEventCache
  split
  · next h => exact h.2.symm
  · rfl

theorem changed_setEventCache (payload : List UInt8) :
    (d.setEventCache payload).2 = false ↔ d.mBuffer ≠ [] ∧ payload = d.mBuffer := by
  unfold CEventData.setEventCache
  split
  · next h => exact ⟨fun _ => h, fun _ => rfl⟩
  · next h =>
      constructor
      · intro hfalse
        cases hfalse
      · intro hand
        exact absurd hand h

/-- The cache has what was given last. -/
def UpToDate (s : CacheState) : Prop := ∀ code topic, s.cache.value code topic = s.given code topic

section Counted

variable {s : CacheState} {c : CacheCall}

/-- The entry of a counted message has its payload, and the others stay. -/
theorem get_result (h : ¬ Skips c (s.entry c)) (code : FdbMsgCode) (topic : Topic) :
    (s.result c).1.get code topic
      = if code = c.msg.code ∧ topic = c.msg.topic
        then some ((s.entry c).setEventCache c.msg.payload).1 else s.cache.get code topic := by
  rw [result_of_not_skips h, get_put]

theorem value_result (hs : s.UpToDate) (h : ¬ Skips c (s.entry c)) (code : FdbMsgCode)
    (topic : Topic) : (s.result c).1.value code topic = s.givenAfter c code topic := by
  unfold EventCacheTable.value givenAfter
  rw [get_result h]
  split
  · rw [map_some, mBuffer_setEventCache]
  · exact hs code topic

theorem counted_iff : (s.result c).2 ≠ -1 ↔ ¬ Skips c (s.entry c) := by
  by_cases h : Skips c (s.entry c)
  · rw [result_of_skips h]
    simp [h]
  · rw [result_of_not_skips h]
    refine ⟨fun _ => h, fun _ => ?_⟩
    dsimp only
    split <;> decide

/-- A counted message is forwarded unless it is found equal and not forced. -/
theorem forwarded_iff (h : ¬ Skips c (s.entry c)) :
    (s.result c).2 = 1 ↔ ¬ (((s.entry c).mBuffer ≠ [] ∧ c.msg.payload = (s.entry c).mBuffer)
      ∧ c.msg.forceUpdate = false) := by
  rw [result_of_not_skips h, ← changed_setEventCache]
  split
  · next hold => simp [hold]
  · next hnew => exact ⟨fun _ => hnew, fun _ => rfl⟩

/-- A counted message is forwarded exactly for news, unless both it and the entry are empty. -/
theorem forwarded_news_iff (h : ¬ Skips c (s.entry c)) :
    ((s.result c).2 = 1 ↔ s.News c)
      ↔ ∀ d, s.cache.get c.msg.code c.msg.topic = some d → d.mBuffer = [] → c.msg.payload = [] →
        ¬ c.msg.forceUpdate = false := by
  rw [forwarded_iff h]
  unfold News entry
  cases hget : s.cache.get c.msg.code c.msg.topic with
  | none => simp
  | some d =>
    cases c.msg.forceUpdate with
    | true => simp
    | false =>
      by_cases hempty : d.mBuffer = []
      · simp [hempty]
      · simp [hempty]

end Counted

/-- A call follows the publications exactly under the condition. -/
theorem follows_call_iff (hs : s.UpToDate) (c : CacheCall) : s.Follows c ↔ s.TellsApart c := by
  unfold Follows TellsApart
  rw [counted_iff]
  by_cases h : Skips c (s.entry c)
  · refine ⟨fun _ d hget _ _ _ => ?_, fun _ hnot => absurd h hnot⟩
    unfold entry at h
    rw [hget] at h
    exact h
  · have hskips : ∀ d, s.cache.get c.msg.code c.msg.topic = some d → ¬ Skips c d := by
      intro d hget
      unfold entry at h
      rw [hget] at h
      exact h
    constructor
    · intro hrec d hget hempty hpayload hforce
      exact absurd hforce ((forwarded_news_iff h).mp (hrec h).forward d hget hempty hpayload)
    · intro hcond _
      have hforward : (s.result c).2 = 1 ↔ s.News c := by
        rw [forwarded_news_iff h]
        intro d hget hempty hpayload hforce
        exact hskips d hget (hcond d hget hempty hpayload hforce)
      refine ⟨value_result hs h, ?_, hforward, ?_⟩
      · intro code topic hother
        rw [get_result h, if_neg hother]
      · rw [← hforward, result_of_not_skips h]
        dsimp only
        split <;> decide

theorem upToDate_call {s' : CacheState} {c : CacheCall} (hs : s.UpToDate)
    (h : s.call c = some s') : s'.UpToDate := by
  cases h
  intro code topic
  by_cases hskips : Skips c (s.entry c)
  · have hresult := result_of_skips hskips
    rw [hresult]
    exact hs code topic
  · rw [if_neg (counted_iff.mpr hskips)]
    exact value_result hs hskips code topic

/-- **The event cache follows the publications** in every sequence of calls, exactly if no message
without force gives an empty payload where an empty one is cached, unless it is skipped. -/
theorem follows_iff (cache : EventCacheTable) (calls : List CacheCall) :
    Along call Follows (of cache) calls ↔ Along call TellsApart (of cache) calls := by
  refine along_iff_of_inv (I := UpToDate) ?_ ?_ calls (of cache) fun _ _ => rfl
  · intro s c hs
    exact follows_call_iff hs c
  · intro s c s' hs _ hcall
    exact upToDate_call hs hcall

/-- A broadcast of event 7 without data. -/
def emptyBroadcast : CacheCall where
  msg := ⟨⟨7#32, [], 1, false⟩, .mtBroadcast, [], false⟩
  allowEventRoute := true
  role := .server

/-- A server broadcasts event 7 without data, twice.  The second time the same value is cached
already, and `update` still answers 1. -/
theorem empty_forwarded_again :
    ∃ s, run call (of ∅) [emptyBroadcast] = some s
      ∧ s.cache.value 7#32 [] = some emptyBroadcast.msg.payload
      ∧ emptyBroadcast.msg.forceUpdate = false
      ∧ (s.result emptyBroadcast).2 = 1
      ∧ ¬ s.Follows emptyBroadcast := by
  refine ⟨_, rfl, ?_, rfl, ?_, ?_⟩
  · decide +kernel
  · decide +kernel
  · intro h
    have hnews := (h (by decide +kernel)).forward.mp (by decide +kernel)
    rcases hnews with hforce | hnone | ⟨d, hget, hne⟩
    · cases hforce
    · exact absurd hnone (by decide +kernel)
    · have hvalue : (Option.map CEventData.mBuffer (some d)) = some [] := by
        rw [← hget]
        decide +kernel
      exact hne (some.inj hvalue).symm

end CacheState

/-! ## §4. A builder that fails. -/

/-- What `add` uses of an `IFdbMsgBuilder`: the size that `build()` returns, negative for an error,
and the bytes that `toBuffer` then writes. -/
structure IFdbMsgBuilder where
  build : Int
  toBuffer : Nat → List UInt8

/-- `add(event, topic, data, allow_event_route, allow_event_cache)`, with its result. -/
def EventCacheTable.add (cache : EventCacheTable) (event : FdbMsgCode) (topic : Option Topic)
    (data : IFdbMsgBuilder) (allowEventRoute allowEventCache : Bool) : EventCacheTable × Bool :=
  let topic := topic.getD []
  -- `mCacheData[event][topic]` makes an entry if there is none
  let cachedEvent := { (cache.get event topic).getD ⟨[], false, true⟩ with
    mAllowRoute := allowEventRoute
    mAllowCache := allowEventCache }
  if data.build < 0 then (cache.put event topic cachedEvent, false)
  else
    (cache.put event topic { cachedEvent with mBuffer := data.toBuffer data.build.toNat }, true)

/-- The event and topic are cached with these permissions. -/
def EventCacheTable.HasEntry (cache : EventCacheTable) (event : FdbMsgCode) (topic : Topic)
    (allowEventRoute allowEventCache : Bool) : Prop :=
  ∃ d, cache.get event topic = some d ∧ d.mAllowRoute = allowEventRoute
    ∧ d.mAllowCache = allowEventCache

/-- **A builder that fails**: `add` returns false and every event and topic is cached as before
exactly if the entry was there with the permissions that are given. -/
theorem failed_add_iff (cache : EventCacheTable) (event : FdbMsgCode) (topic : Option Topic)
    (data : IFdbMsgBuilder) (allowEventRoute allowEventCache : Bool) (h : data.build < 0) :
    ((cache.add event topic data allowEventRoute allowEventCache).2 = false
        ∧ ∀ code t, (cache.add event topic data allowEventRoute allowEventCache).1.get code t
          = cache.get code t)
      ↔ cache.HasEntry event (topic.getD []) allowEventRoute allowEventCache := by
  unfold EventCacheTable.add EventCacheTable.HasEntry
  simp only [if_pos h, CacheState.get_put, true_and]
  generalize topic.getD [] = topic
  constructor
  · intro hsame
    -- the entry that `add` leaves has the given permissions, so the old one has them
    have hentry := hsame event topic
    rw [if_pos ⟨rfl, rfl⟩] at hentry
    exact ⟨_, hentry.symm, rfl, rfl⟩
  · intro hentry code t
    obtain ⟨d, hget, rfl, rfl⟩ := hentry
    split
    · next hhere =>
        obtain ⟨rfl, rfl⟩ := hhere
        rw [hget]
        rfl
    · rfl

/-- A builder that reports an error. -/
def failingBuilder : IFdbMsgBuilder := ⟨-1, fun _ => []⟩

/-- Nothing was cached; afterwards event 7 is, without data. -/
theorem failed_add_leaves_entry :
    ((∅ : EventCacheTable).add 7#32 none failingBuilder true true).2 = false
      ∧ (∅ : EventCacheTable).get 7#32 [] = none
      ∧ ((∅ : EventCacheTable).add 7#32 none failingBuilder true true).1.get 7#32 []
        = some ⟨[], true, true⟩ := by
  decide +kernel

/-- An entry with the same permissions is left alone. -/
theorem failed_add_keeps_entry :
    failingBuilder.build < 0
      ∧ ((((∅ : EventCacheTable).put 7#32 [] ⟨[1], true, true⟩).add 7#32 none failingBuilder true
            true).2 = false
          ∧ ∀ code t, (((∅ : EventCacheTable).put 7#32 [] ⟨[1], true, true⟩).add 7#32 none
              failingBuilder true true).1.get code t
            = ((∅ : EventCacheTable).put 7#32 [] ⟨[1], true, true⟩).get code t) :=
  ⟨by decide, (failed_add_iff _ 7#32 none failingBuilder true true (by decide)).mpr
    ⟨⟨[1], true, true⟩, by decide +kernel, rfl, rfl⟩⟩

end Fdbus.Subscribe

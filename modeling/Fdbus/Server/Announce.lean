/-
  Fdbus.Server.Announce — what a subscriber was told last of a service.

  A local subscriber keeps the last list that it was sent for a service: an empty one says that
  the service is gone.

    * `Watch` is a subscriber and a service, `Told` — the last list that it was sent is not empty,
    * `Announces` — a block of lists tells every subscriber of a publisher about one service, and
      `Announces.told` is what such a block does to `Told`,
    * `announces_onlineLists`, `announces_offlineLists` — a service comes online or goes away;
      `serviceAddress_isSome` — somebody subscribes a service that is online.
-/
import Fdbus.Server.Binding

namespace Fdbus.Server

open Fdbus.OrderedMap Fdbus.Security Fdbus.Subscribe List

/-! ## §1. What a subscriber was told last. -/

/-- A subscriber, which is an object of a session at one of the publishers, and a service. -/
structure Watch where
  type : SubscribeType
  session : SessionPtr
  obj : FdbObjectId
  name : Text
  inst : FdbInstanceId

/-- The list was sent to this subscriber and is about this service. -/
def Sent.About (m : Sent) (w : Watch) : Prop :=
  (m.type = w.type ∧ m.session = w.session ∧ m.obj = w.obj)
    ∧ m.list.serviceName = w.name ∧ m.list.instanceId = w.inst

instance (m : Sent) (w : Watch) : Decidable (m.About w) := inferInstanceAs (Decidable (_ ∧ _))

/-- The last list that the subscriber was sent for the service. -/
def lastList (sent : List Sent) (w : Watch) : Option FdbMsgAddressList :=
  (sent.filter fun m => m.About w).getLast?.map Sent.list

/-- The last list is not empty; whoever was sent nothing has the empty list. -/
def Told (sent : List Sent) (w : Watch) : Prop :=
  (lastList sent w).elim [] FdbMsgAddressList.addressList ≠ []

instance (sent : List Sent) (w : Watch) : Decidable (Told sent w) :=
  inferInstanceAs (Decidable (_ ≠ _))

theorem lastList_append (sent lists : List Sent) (w : Watch) :
    lastList (sent ++ lists) w = (lastList lists w).or (lastList sent w) := by
  unfold lastList
  rw [filter_append, getLast?_append]
  cases (lists.filter fun m => m.About w).getLast? <;> rfl

variable {lists sent : List Sent} {w : Watch}

theorem lastList_eq_none (h : ∀ m ∈ lists, ¬ m.About w) : lastList lists w = none := by
  unfold lastList
  have hnil : lists.filter (fun m => m.About w) = [] :=
    filter_eq_nil_iff.mpr fun m hm => by simpa using h m hm
  rw [hnil]
  rfl

theorem lastList_isSome (h : ∃ m ∈ lists, m.About w) :
    ∃ m ∈ lists, m.About w ∧ lastList lists w = some m.list := by
  obtain ⟨m, hm, habout⟩ := h
  have hne : lists.filter (fun m => m.About w) ≠ [] :=
    ne_nil_of_mem (mem_filter.mpr ⟨hm, decide_eq_true habout⟩)
  obtain ⟨hmem, hlast⟩ := mem_filter.mp (getLast_mem hne)
  refine ⟨_, hmem, of_decide_eq_true hlast, ?_⟩
  unfold lastList
  rw [getLast?_eq_some_getLast hne]
  rfl

/-- Lists for others change nothing. -/
theorem told_append_of_not (h : ∀ m ∈ lists, ¬ m.About w) :
    Told (sent ++ lists) w ↔ Told sent w := by
  unfold Told
  rw [lastList_append, lastList_eq_none h, Option.none_or]

/-- Lists for the subscriber that agree with each other decide what it was told. -/
theorem told_append_of_about {q : Prop} (h : ∃ m ∈ lists, m.About w)
    (hall : ∀ m ∈ lists, m.About w → (m.list.addressList ≠ [] ↔ q)) :
    Told (sent ++ lists) w ↔ q := by
  obtain ⟨m, hm, habout, hlast⟩ := lastList_isSome h
  unfold Told
  rw [lastList_append, hlast, Option.some_or]
  exact hall m hm habout

/-! ## §2. Who is told. -/

/-- The publishers of local subscribers. -/
def SubscribeType.IsIntra (type : SubscribeType) : Prop :=
  type = .intraNormal ∨ type = .intraMonitor

/-- The subscriber holds a subscription that covers the service. -/
def Watch.Subscribed (w : Watch) (pubs : Publishers) : Prop :=
  Server.Subscribed pubs w.type w.session w.obj w.name w.inst

/-- An object of a session holds some subscription. -/
def Holds (pubs : Publishers) (type : SubscribeType) (session : SessionPtr) (obj : FdbObjectId) :
    Prop :=
  ∃ code topic, ((pubs type).lookup code session obj topic).isSome = true

/-- What is known of the subscribers of a publisher: their sessions are online, clients are on
IPC, the objects are of the publisher's class, and there is one for each session. -/
structure Clients (pubs : Publishers) (sessions : Sessions) (type : SubscribeType) : Prop where
  live : ∀ s o, Holds pubs type s o →
    ∃ info, sessions[s]? = some info ∧ (type = .intraNormal → info.socketType = .ipc)
  cls : ∀ s o, Holds pubs type s o → fdbObjectGetClass o = type.cls
  single : ∀ s o o', Holds pubs type s o → Holds pubs type s o' → o' = o

theorem Subscribed.holds {pubs : Publishers} {type : SubscribeType} {session : SessionPtr}
    {obj : FdbObjectId} {name : Text} {inst : FdbInstanceId}
    (h : Subscribed pubs type session obj name inst) : Holds pubs type session obj := by
  obtain ⟨code, topic, hsub, -⟩ := h
  exact ⟨code, topic, hsub⟩

/-- The lists of a publisher tell each of its subscribers of a service, and nobody else of
anything; `q` says whether there are addresses. -/
structure Announces (pubs : Publishers) (type : SubscribeType) (name : Text) (inst : FdbInstanceId)
    (q : Prop) (lists : List Sent) : Prop where
  service : ∀ m ∈ lists, m.type = type →
    m.list.serviceName = name ∧ m.list.instanceId = inst ∧ (m.list.addressList ≠ [] ↔ q)
  subscribed : ∀ m ∈ lists, m.type = type → Subscribed pubs type m.session m.obj name inst
  reaches : ∀ s o, Subscribed pubs type s o name inst →
    ∃ m ∈ lists, m.type = type ∧ m.session = s ∧ m.obj = o

section Announce

variable {pubs : Publishers} {type : SubscribeType} {name : Text} {inst : FdbInstanceId} {q : Prop}
  {lists lists' : List Sent}

/-- Lists of other publishers do not matter. -/
theorem Announces.of_same (h : Announces pubs type name inst q lists)
    (hsame : ∀ m : Sent, m.type = type → (m ∈ lists' ↔ m ∈ lists)) :
    Announces pubs type name inst q lists' := by
  refine ⟨fun m hm htype => h.service m ((hsame m htype).mp hm) htype,
    fun m hm htype => h.subscribed m ((hsame m htype).mp hm) htype, fun s o hsub => ?_⟩
  obtain ⟨m, hm, htype, hpair⟩ := h.reaches s o hsub
  exact ⟨m, (hsame m htype).mpr hm, htype, hpair⟩

theorem Announces.append_other (h : Announces pubs type name inst q lists)
    (hother : ∀ m ∈ lists', m.type ≠ type) : Announces pubs type name inst q (lists ++ lists') :=
  h.of_same fun m htype =>
    mem_append.trans (or_iff_left fun hm => hother m hm htype)

theorem Announces.other_append (h : Announces pubs type name inst q lists)
    (hother : ∀ m ∈ lists', m.type ≠ type) : Announces pubs type name inst q (lists' ++ lists) :=
  h.of_same fun m htype =>
    mem_append.trans (or_iff_right fun hm => hother m hm htype)

/-- **What an announcement does**: subscribers of the service were told last whether there are
addresses, for the others nothing changes. -/
theorem Announces.told {w : Watch} (h : Announces pubs w.type name inst q lists)
    (sent : List Sent) :
    Told (sent ++ lists) w
      ↔ if w.name = name ∧ w.inst = inst then (w.Subscribed pubs ∧ q)
          ∨ (¬ w.Subscribed pubs ∧ Told sent w) else Told sent w := by
  by_cases hfor : w.name = name ∧ w.inst = inst
  · obtain ⟨rfl, rfl⟩ := hfor
    by_cases hsub : w.Subscribed pubs
    · obtain ⟨m, hm, htype, hsession, hobj⟩ := h.reaches w.session w.obj hsub
      have hservice := h.service m hm htype
      rw [told_append_of_about ⟨m, hm, ⟨htype, hsession, hobj⟩, hservice.1, hservice.2.1⟩
        fun m hm habout => (h.service m hm habout.1.1).2.2]
      simp [hsub]
    · rw [told_append_of_not]
      · simp [hsub]
      · rintro m hm ⟨⟨htype, hsession, hobj⟩, -⟩
        refine hsub ?_
        have hthis := h.subscribed m hm htype
        rw [hsession, hobj] at hthis
        exact hthis
  · rw [if_neg hfor, told_append_of_not]
    rintro m hm ⟨⟨htype, -⟩, hname, hinst⟩
    have hservice := h.service m hm htype
    exact hfor ⟨hname.symm.trans hservice.1, hinst.symm.trans hservice.2.1⟩

variable {code : FdbInstanceId} {list : FdbMsgAddressList} {m : Sent}

theorem type_broadcastAll {topic : Text} (h : m ∈ broadcastAll pubs type code topic list) :
    m.type = type := by
  rw [(mem_broadcastAll.mp h).2]

/-- A list for everybody. -/
theorem announces_broadcastAll (hname : list.serviceName = name) (hinst : list.instanceId = inst)
    (hq : list.addressList ≠ [] ↔ q) :
    Announces pubs type name inst q (broadcastAll pubs type inst name list) := by
  refine ⟨fun m hm _ => ?_, fun m hm _ => (mem_broadcastAll.mp hm).1, fun s o hsub => ?_⟩
  · rw [(mem_broadcastAll.mp hm).2]
    exact ⟨hname, hinst, hq⟩
  · exact ⟨⟨type, s, o, inst, name, list⟩, mem_broadcastAll.mpr ⟨hsub, rfl⟩, rfl, rfl, rfl⟩

variable {cfg : NsConfig} {sessions : Sessions} {tokens : List Token}

theorem mem_broadcastSession_iff (hclients : Clients pubs sessions type) {session : SessionPtr}
    {sender : FdbObjectId} (hsender : fdbObjectGetClass sender = type.cls) {topic : Text} :
    m ∈ broadcastSession pubs type session sender code topic list
      ↔ Subscribed pubs type session m.obj topic code
        ∧ m = ⟨type, session, m.obj, code, topic, list⟩ := by
  rw [mem_broadcastSession, hsender]
  refine and_congr_left fun _ => ?_
  have hmatch : Subscribed pubs type session m.obj topic code ↔ _ :=
    subscribed_iff session m.obj ⟨code, topic, session, false⟩
  constructor
  · intro hmem
    exact hmatch.mpr (mem_hearers _ _ _ _ hmem).2
  · intro hsub
    have hone : ∀ code o' topic, ((pubs type).lookup code session o' topic).isSome = true →
        o' = m.obj := fun code o' topic h =>
      hclients.single session m.obj o' hsub.holds ⟨code, topic, h⟩
    exact (mem_hearers_of_only (pubs type) _ session type.cls hone m.obj).mpr
      ⟨rfl, hclients.cls session m.obj hsub.holds, hmatch.mp hsub⟩

theorem dress_addressList (info : SessionInfo) (list : FdbMsgAddressList) :
    (dress cfg tokens type info list).addressList = [] ↔ list.addressList = [] := by
  cases type with
  | intraNormal => exact map_eq_nil_iff
  | _ => exact Iff.rfl

theorem type_broadcastSvcAddr (h : m ∈ broadcastSvcAddr pubs type cfg sessions tokens list) :
    m.type = type := by
  obtain ⟨session, -, hm⟩ := mem_flatMap.mp h
  split at hm
  · rw [(mem_broadcastSession.mp hm).2]
  · cases hm

/-- A list for one session after the other. -/
theorem announces_broadcastSvcAddr (hclients : Clients pubs sessions type)
    (hname : list.serviceName = name) (hinst : list.instanceId = inst)
    (hq : list.addressList ≠ [] ↔ q) :
    Announces pubs type name inst q (broadcastSvcAddr pubs type cfg sessions tokens list) := by
  subst hname hinst
  have hmem : ∀ m ∈ broadcastSvcAddr pubs type cfg sessions tokens list,
      Subscribed pubs type m.session m.obj list.serviceName list.instanceId
        ∧ ∃ info, m.list = dress cfg tokens type info list := by
    intro m hm
    obtain ⟨session, -, hm⟩ := mem_flatMap.mp hm
    split at hm
    · next info _ =>
        obtain ⟨hsub, heq⟩ := (mem_broadcastSession_iff hclients type.class_objId).mp hm
        rw [heq]
        exact ⟨hsub, info, rfl⟩
    · cases hm
  refine ⟨fun m hm _ => ?_, fun m hm _ => (hmem m hm).1, fun s o hsub => ?_⟩
  · obtain ⟨-, info, hlist⟩ := hmem m hm
    rw [hlist, dress_serviceName, dress_instanceId, Ne, dress_addressList]
    exact ⟨rfl, rfl, hq⟩
  · obtain ⟨info, hinfo, -⟩ := hclients.live s o hsub.holds
    refine ⟨⟨type, s, o, list.instanceId, list.serviceName, dress cfg tokens type info list⟩,
      mem_flatMap.mpr ⟨s, mem_subscribedSessions.mpr ⟨o, hsub⟩, ?_⟩, rfl, rfl, rfl⟩
    rw [hinfo]
    exact (mem_broadcastSession_iff hclients type.class_objId).mpr ⟨hsub, rfl⟩

end Announce

/-! ## §3. A service comes online or goes away. -/

section Lists

variable {cfg : NsConfig} {entry : CSvcRegistryEntry}

theorem checkExportable_of_le {level : Int} (h : level ≤ fdbExportableNodeInternal) :
    checkExportable level fdbExportableNodeInternal = true := by
  unfold checkExportable
  rw [if_neg (by omega), if_neg (by simp)]

theorem le_any_of_le {level : Int} (h : level ≤ fdbExportableNodeInternal) :
    level ≤ fdbExportableAny := by
  have hany : fdbExportableNodeInternal ≤ fdbExportableAny := by decide
  omega

variable {list : FdbMsgAddressList} {info : SessionInfo}

theorem unlessEmpty_of_ne (h : list.addressList ≠ []) : unlessEmpty list = some list := if_neg h

/-- Local subscribers are told an address when the service comes online. -/
theorem onlineAddress_isSome (cfg : NsConfig) (h : AddressesOk entry.mAddrTbl)
    {type : SubscribeType} (htype : type.IsIntra) :
    ∃ list, onlineAddress cfg entry type = some list := by
  obtain ⟨url, desc, hmem, hipc, -⟩ := h.hasIpc
  rcases htype with rfl | rfl
  · refine ⟨_, unlessEmpty_of_ne ?_⟩
    show localAddresses entry.mAddrTbl ≠ []
    unfold localAddresses
    -- the last IPC address
    cases hlast : bestLocalIpc entry.mAddrTbl with
    | none =>
      have hnil : entry.mAddrTbl.filter (fun desc => desc.mAddress.mType = .ipc) = [] :=
        getLast?_eq_none_iff.mp hlast
      have hin : desc ∈ entry.mAddrTbl.filter fun desc => desc.mAddress.mType = .ipc :=
        mem_filter.mpr ⟨hmem, decide_eq_true hipc⟩
      rw [hnil] at hin
      cases hin
    | some best =>
      obtain ⟨hbest, htype⟩ := mem_filter.mp (mem_of_getLast? hlast)
      exact ne_nil_of_mem (mem_prepareAddress.mpr
        ⟨checkExportable_of_le (h.exportable best hbest (of_decide_eq_true htype)), rfl⟩)
  · refine ⟨_, unlessEmpty_of_ne ?_⟩
    exact ne_nil_of_mem (mem_flatMap.mpr ⟨desc, hmem, mem_prepareAddress.mpr
      ⟨checkExportable_any (le_any_of_le (h.exportable desc hmem hipc)), rfl⟩⟩)

/-- A local subscriber is told an address when it subscribes a service that is online. -/
theorem serviceAddress_isSome (cfg : NsConfig) (h : AddressesOk entry.mAddrTbl)
    (hbound : ∀ desc ∈ entry.mAddrTbl, desc.mStatus = .bound) {type : SubscribeType}
    (htype : type.IsIntra) (hinfo : type = .intraNormal → info.socketType = .ipc) :
    ∃ list, serviceAddress cfg entry type info = some list := by
  obtain ⟨url, desc, hmem, hipc, -⟩ := h.hasIpc
  have hlevel := h.exportable desc hmem hipc
  have hchosen : ∀ (socket : EFdbSocketType) (level : Int), socket = .max ∨ socket = .ipc →
      checkExportable desc.mExportableLevel level = true →
      chooseAddresses entry.mAddrTbl socket level cfg.mMaxDomainExportableLevel ≠ [] := by
    intro socket level hsocket hexp
    have hne : populateAddrList entry.mAddrTbl socket level ≠ [] :=
      ne_nil_of_mem (mem_populateAddrList.mpr
        ⟨desc, hmem, hsocket.imp_right fun hs => hs.trans hipc.symm, hbound desc hmem, hexp, rfl⟩)
    have hkeep : ¬ (socket = .ipc ∧ populateAddrList entry.mAddrTbl socket level = []) :=
      fun hand => hne hand.2
    unfold chooseAddresses
    simp only [if_neg hkeep]
    exact hne
  unfold serviceAddress
  rcases htype with rfl | rfl
  · rw [if_neg (by simp), not_pending_of_bound hbound, if_neg (by simp)]
    refine ⟨_, unlessEmpty_of_ne ?_⟩
    exact hchosen info.socketType _ (.inr (hinfo rfl)) (checkExportable_of_le hlevel)
  · rw [if_neg (by simp), not_pending_of_bound hbound, if_neg (by simp)]
    refine ⟨_, unlessEmpty_of_ne ?_⟩
    exact hchosen .max _ (.inl rfl) (checkExportable_any (le_any_of_le hlevel))

theorem bound_of_not_pending (hfree : ∀ desc ∈ entry.mAddrTbl, desc.mStatus ≠ .free)
    (h : hasPendingAddress entry = false) : ∀ desc ∈ entry.mAddrTbl, desc.mStatus = .bound := by
  intro desc hmem
  have hpending := any_eq_false.mp h desc hmem
  have hnot := hfree desc hmem
  cases hstatus : desc.mStatus with
  | free => exact absurd hstatus hnot
  | pending => simp [hstatus] at hpending
  | bound => rfl

/-- A late subscriber is told something only of a service that is bound. -/
theorem serviceAddress_service (hfree : ∀ desc ∈ entry.mAddrTbl, desc.mStatus ≠ .free)
    {type : SubscribeType} (h : serviceAddress cfg entry type info = some list) :
    (list.serviceName = entry.mSvcName ∧ list.instanceId = entry.mInstanceId)
      ∧ list.addressList ≠ [] ∧ ∀ desc ∈ entry.mAddrTbl, desc.mStatus = .bound := by
  unfold serviceAddress at h
  split at h
  · cases h
  · split at h
    · cases h
    · next hpending =>
        obtain ⟨rfl, hne⟩ := unlessEmpty_some h
        exact ⟨⟨rfl, rfl⟩, hne, bound_of_not_pending hfree (Bool.eq_false_iff.mpr hpending)⟩

variable {ns : NameServer} {type : SubscribeType}

/-- **A service goes away**: every local subscriber is told so. -/
theorem announces_offlineLists (htype : type.IsIntra)
    (hclients : Clients ns.publishers ns.sessions type) :
    Announces ns.publishers type entry.mSvcName entry.mInstanceId False
      (offlineLists cfg ns entry entry.mSvcName entry.mInstanceId) := by
  rcases htype with rfl | rfl
  · refine ((Announces.append_other ?_ ?_).append_other ?_).append_other ?_
    · exact announces_broadcastSvcAddr hclients rfl rfl (by simp [setServiceInfo])
    · intro m hm
      rw [type_broadcastAll hm]
      decide
    · intro m hm
      rw [type_broadcastSvcAddr hm]
      decide
    · intro m hm
      rw [type_broadcastAll hm]
      decide
  · refine ((Announces.other_append ?_ ?_).append_other ?_).append_other ?_
    · exact announces_broadcastAll rfl rfl (by simp [setServiceInfo, FdbMsgAddressList.clearTokens])
    · intro m hm
      rw [type_broadcastSvcAddr hm]
      decide
    · intro m hm
      rw [type_broadcastSvcAddr hm]
      decide
    · intro m hm
      rw [type_broadcastAll hm]
      decide

/-- **A service comes online**: every local subscriber is told an address. -/
theorem announces_onlineLists (h : AddressesOk entry.mAddrTbl) (htype : type.IsIntra)
    (hclients : Clients ns.publishers ns.sessions type) :
    Announces ns.publishers type entry.mSvcName entry.mInstanceId True
      (onlineLists cfg ns entry entry.mSvcName entry.mInstanceId) := by
  have hmonitors : ∀ type', ∀ m ∈ (onlineAddress cfg entry type').elim []
      (broadcastAll ns.publishers type' entry.mInstanceId entry.mSvcName), m.type = type' := by
    intro type' m hm
    obtain ⟨list, -, hm⟩ := mem_elim.mp hm
    exact type_broadcastAll hm
  have hclientLists : ∀ type', ∀ m ∈ (onlineAddress cfg entry type').elim []
      (broadcastSvcAddr ns.publishers type' cfg ns.sessions entry.mTokens), m.type = type' := by
    intro type' m hm
    obtain ⟨list, -, hm⟩ := mem_elim.mp hm
    exact type_broadcastSvcAddr hm
  obtain ⟨list, hlist⟩ := onlineAddress_isSome cfg h htype
  obtain ⟨hne, hname, hinst⟩ := onlineAddress_some hlist
  rcases htype with rfl | rfl
  · refine (Announces.other_append ?_ ?_).append_other ?_
    · show Announces _ _ _ _ _ ((onlineAddress cfg entry .intraNormal).elim [] _)
      rw [hlist]
      exact announces_broadcastSvcAddr hclients hname hinst (by simp [hne])
    · intro m hm
      rcases mem_append.mp hm with hm | hm
      · rw [hmonitors _ m hm]
        decide
      · rw [hmonitors _ m hm]
        decide
    · intro m hm
      rw [hclientLists _ m hm]
      decide
  · refine ((Announces.append_other ?_ ?_).append_other ?_).append_other ?_
    · show Announces _ _ _ _ _ ((onlineAddress cfg entry .intraMonitor).elim [] _)
      rw [hlist]
      exact announces_broadcastAll hname hinst (by simp [hne])
    · intro m hm
      rw [hmonitors _ m hm]
      decide
    · intro m hm
      rw [hclientLists _ m hm]
      decide
    · intro m hm
      rw [hclientLists _ m hm]
      decide

end Lists

end Fdbus.Server

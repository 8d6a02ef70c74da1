/-
  Fdbus.Server.View — what subscribers were told last follows the registry.

  Registering, giving back, a session that ends and a subscription each send lists on a path of
  their own, or send none.

    * `Regular` — the steps that keep the view; `ViewInv` is what they keep, with one lemma for
      each step,
    * `ViewInv.announce`, `ViewInv.silent` — a change that is announced, and one that need not be,
    * `view_follows_registry` — over every run of such steps, a subscriber's last list is not
      empty exactly if the service is registered and all its addresses are bound.
-/
import Fdbus.Server.Announce
import Fdbus.Server.Monitors

namespace Fdbus.Server

open Fdbus.OrderedMap Fdbus.Security Fdbus.Subscribe Fdbus.Run List Option Function

/-! ## §1. The steps that keep the view. -/

/-- The service is registered, and all its addresses are bound. -/
def Online (reg : RegistryTbl) (name : Text) (inst : FdbInstanceId) : Prop :=
  ∃ entry, reg.get name inst = some entry ∧ ∀ desc ∈ entry.mAddrTbl, desc.mStatus = .bound

/-- The steps that keep the view.  The allocators give every service an IPC address, and servers
report that they could bind it.  A report without addresses is only for a service that is not
online yet, and no name is given that stands for other ones.  A session subscribes with one
object, clients are on IPC.  The other events are about services elsewhere. -/
def Regular (cfg : NsConfig) (ns : NameServer) : Event → Prop
  | .online _ => True
  | .offline _ => True
  | .request _ (.alloc _ allocated _) => AllocatedOk allocated
  | .request _ (.register req realloc) =>
    fdbIsGroup req.instanceId = false →
      ∀ m ∈ (ns.mRegistryTbl.findService req.serviceName req.instanceId).head?,
        m.name = req.serviceName
          ∧ if req.addressList = [] then hasPendingAddress m.entry = true
            else ReallocOk cfg realloc ∧ ∀ r ∈ req.addressList, r.Regular cfg m.entry.mAddrTbl
  | .request _ (.unregister svcName instanceId) =>
    fdbIsGroup instanceId = false →
      ∀ m ∈ (ns.mRegistryTbl.findService svcName instanceId).head?, m.name = svcName
  | .subscribe session obj _ =>
    ∀ type ∈ SubscribeType.ofObject obj, type.IsIntra →
      (∀ o, Holds ns.publishers type session o → o = obj)
        ∧ (type = .intraNormal → ∀ info ∈ ns.sessions[session]?, info.socketType = .ipc)
  | _ => False

/-- An entry is registered under its own name and instance. -/
structure EntryOk (name : Text) (inst : FdbInstanceId) (entry : CSvcRegistryEntry) : Prop where
  name_eq : entry.mSvcName = name
  inst_eq : entry.mInstanceId = inst
  notGroup : fdbIsGroup inst = false
  addresses : AddressesOk entry.mAddrTbl

/-- Every entry is. -/
abbrev EntriesOk (reg : RegistryTbl) : Prop :=
  ∀ n i entry, reg.get n i = some entry → EntryOk n i entry

/-- No host server is connected. -/
def Unconnected (proxies : Map Text HostProxy) : Prop :=
  ∀ (url : Text) (proxy : HostProxy), proxies[url]? = some proxy → proxy.connected = false

/-- **The invariant**: the last field is the view. -/
structure ViewInv (ns : NameServer) : Prop where
  entries : ∀ n i entry, ns.mRegistryTbl.get n i = some entry → EntryOk n i entry
  clients : ∀ type : SubscribeType, type.IsIntra → Clients ns.publishers ns.sessions type
  sids : ∀ s, ns.sessions[s]?.isSome = true → s < ns.nextSid
  sentTo : ∀ m ∈ ns.sent, m.type.IsIntra → m.session < ns.nextSid
  unconnected : Unconnected ns.mHostProxyTbl
  view : ∀ w : Watch, w.type.IsIntra → ns.sessions[w.session]?.isSome = true →
    (Told ns.sent w ↔ w.Subscribed ns.publishers ∧ Online ns.mRegistryTbl w.name w.inst)

/-- Only the registry and what was sent may differ. -/
structure SameClients (ns ns' : NameServer) : Prop where
  publishers : ns'.publishers = ns.publishers
  sessions : ns'.sessions = ns.sessions
  nextSid : ns'.nextSid = ns.nextSid

section Registry

variable {reg : RegistryTbl} {name n : Text} {inst i : FdbInstanceId} {entry : CSvcRegistryEntry}

theorem online_put :
    Online (reg.put name inst entry) n i
      ↔ if name = n ∧ inst = i then ∀ desc ∈ entry.mAddrTbl, desc.mStatus = .bound
        else Online reg n i := by
  unfold Online
  rw [get_put]
  split
  · simp
  · exact Iff.rfl

theorem online_eraseService :
    Online (reg.eraseService name inst) n i ↔ ¬ (name = n ∧ inst = i) ∧ Online reg n i := by
  unfold Online
  rw [get_eraseService]
  by_cases h : name = n ∧ inst = i
  · simp [h]
  · simp [h]

/-- A service under its own name is what is found for its name and instance. -/
theorem get_of_head_named {m : RegistryMatch} (hgroup : fdbIsGroup inst = false)
    (h : (reg.findService name inst).head? = some m) (hname : m.name = name) :
    m.inst = inst ∧ reg.get name inst = some m.entry := by
  obtain ⟨-, hinst, hget⟩ := (mem_findService reg name inst m).mp (mem_of_head? h)
  unfold instanceMatches at hinst
  rw [hgroup, if_neg Bool.false_ne_true, beq_iff_eq] at hinst
  rw [hname, ← hinst] at hget
  exact ⟨hinst.symm, hget⟩

theorem not_online_of_pending (hget : reg.get name inst = some entry)
    (hpending : hasPendingAddress entry = true) : ¬ Online reg name inst := by
  rintro ⟨e, he, hbound⟩
  rw [hget, some.injEq] at he
  subst he
  rw [not_pending_of_bound hbound] at hpending
  cases hpending

end Registry

open NameServer SubscribeType

section Change

variable {ns ns' : NameServer} {lists : List Sent}

theorem Clients.live_isSome {pubs : Publishers} {sessions : Sessions} {type : SubscribeType}
    (h : Clients pubs sessions type) {s : SessionPtr} {o : FdbObjectId} (hsub : Holds pubs type s o) :
    sessions[s]?.isSome = true := by
  obtain ⟨info, hinfo, -⟩ := h.live s o hsub
  rw [hinfo]
  rfl

variable (h : ViewInv ns) (hsame : SameClients ns ns')
  (hunconnected : Unconnected ns'.mHostProxyTbl) (hsent : ns'.sent = ns.sent ++ lists)
  (hentries : EntriesOk ns'.mRegistryTbl)

include h hsame hunconnected hsent hentries

/-- Nobody subscribes or leaves: what is to be shown is about the lists that are sent. -/
theorem ViewInv.change
    (hlists : ∀ m ∈ lists, m.type.IsIntra → Holds ns.publishers m.type m.session m.obj)
    (hview : ∀ w : Watch, w.type.IsIntra →
      (Told ns.sent w ↔ w.Subscribed ns.publishers ∧ Online ns.mRegistryTbl w.name w.inst) →
      (Told (ns.sent ++ lists) w
        ↔ w.Subscribed ns.publishers ∧ Online ns'.mRegistryTbl w.name w.inst)) : ViewInv ns' := by
  obtain ⟨hpubs, hsessions, hsid⟩ := hsame
  refine ⟨hentries, ?_, ?_, ?_, hunconnected, ?_⟩
  · rw [hpubs, hsessions]
    exact h.clients
  · rw [hsessions, hsid]
    exact h.sids
  · rw [hsent, hsid]
    intro m hm htype
    rcases mem_append.mp hm with hm | hm
    · exact h.sentTo m hm htype
    · exact h.sids _ ((h.clients m.type htype).live_isSome (hlists m hm htype))
  · rw [hpubs, hsessions, hsent]
    intro w htype hlive
    exact hview w htype (h.view w htype hlive)

/-- **A service changes, and that is announced.** -/
theorem ViewInv.announce (name : Text) (inst : FdbInstanceId) (q : Prop)
    (hannounce : ∀ type : SubscribeType, type.IsIntra →
      Announces ns.publishers type name inst q lists)
    (hat : Online ns'.mRegistryTbl name inst ↔ q)
    (hothers : ∀ n i, ¬ (n = name ∧ i = inst) →
      (Online ns'.mRegistryTbl n i ↔ Online ns.mRegistryTbl n i)) : ViewInv ns' := by
  refine h.change hsame hunconnected hsent hentries
    (fun m hm htype => ((hannounce m.type htype).subscribed m hm rfl).holds) ?_
  intro w htype hview
  rw [(hannounce w.type htype).told, hview]
  by_cases hfor : w.name = name ∧ w.inst = inst
  · obtain ⟨hname, hinst⟩ := hfor
    rw [if_pos ⟨hname, hinst⟩, hname, hinst, hat]
    tauto
  · rw [if_neg hfor, hothers _ _ hfor]

/-- **A change that local subscribers need not know of.** -/
theorem ViewInv.silent (hlists : ∀ m ∈ lists, ¬ m.type.IsIntra)
    (honline : ∀ n i, Online ns'.mRegistryTbl n i ↔ Online ns.mRegistryTbl n i) : ViewInv ns' := by
  refine h.change hsame hunconnected hsent hentries
    (fun m hm htype => absurd htype (hlists m hm)) ?_
  intro w htype hview
  rw [told_append_of_not, hview, honline]
  intro m hm habout
  exact hlists m hm (habout.1.1 ▸ htype)

omit hsent in
/-- Nothing is sent. -/
theorem ViewInv.unsent (hsent : ns'.sent = ns.sent)
    (honline : ∀ n i, Online ns'.mRegistryTbl n i ↔ Online ns.mRegistryTbl n i) : ViewInv ns' :=
  h.silent hsame hunconnected (hsent.trans (append_nil _).symm) hentries
    (fun _ hm => absurd hm not_mem_nil) honline

omit h hsame hunconnected hsent hentries

theorem entries_put {reg : RegistryTbl} {name : Text} {inst : FdbInstanceId}
    {entry : CSvcRegistryEntry}
    (h : EntriesOk reg) (hnew : EntryOk name inst entry) : EntriesOk (reg.put name inst entry) := by
  intro n i e hget
  rw [get_put] at hget
  split at hget
  · next hkey =>
      obtain ⟨rfl, rfl⟩ := hkey
      cases hget
      exact hnew
  · exact h n i e hget

theorem entries_eraseService {reg : RegistryTbl} {name : Text} {inst : FdbInstanceId}
    (h : EntriesOk reg) : EntriesOk (reg.eraseService name inst) := by
  intro n i e hget
  rw [get_eraseService] at hget
  split at hget
  · cases hget
  · exact h n i e hget

theorem unconnected_connectToHostServer (h : Unconnected ns.mHostProxyTbl) (url : Text) :
    Unconnected (ns.connectToHostServer url).mHostProxyTbl := by
  unfold connectToHostServer
  split
  · intro url' proxy hget
    rw [get_insert] at hget
    split at hget
    · cases hget
      rfl
    · exact h url' proxy hget
  · exact h

/-- Connecting to a host server adds a proxy and nothing else. -/
theorem connectToHostServer_eq (ns : NameServer) (url : Text) :
    ∃ proxies, ns.connectToHostServer url = { ns with mHostProxyTbl := proxies }
      ∧ (Unconnected ns.mHostProxyTbl → Unconnected proxies) := by
  refine ⟨(ns.connectToHostServer url).mHostProxyTbl, ?_, fun h =>
    unconnected_connectToHostServer h url⟩
  unfold connectToHostServer
  split <;> rfl

theorem connectIfHostServer_eq (cfg : NsConfig) (ns : NameServer) (entry : CSvcRegistryEntry)
    (svcName : Text) :
    ∃ proxies, connectIfHostServer cfg ns entry svcName = { ns with mHostProxyTbl := proxies }
      ∧ (Unconnected ns.mHostProxyTbl → Unconnected proxies) := by
  unfold connectIfHostServer
  split
  · exact connectToHostServer_eq ns _
  · exact ⟨ns.mHostProxyTbl, rfl, id⟩

end Change

/-! ## §2. Each step. -/

section Steps

variable {cfg : NsConfig} {ns : NameServer}

/-- **A service goes away.** -/
theorem ViewInv.removeService (cfg : NsConfig) (h : ViewInv ns) {name : Text} {inst : FdbInstanceId}
    {entry : CSvcRegistryEntry} (hget : ns.mRegistryTbl.get name inst = some entry) :
    ViewInv (removeService cfg ns name inst).1 ∧ (removeService cfg ns name inst).2 = true := by
  obtain ⟨rfl, rfl, hgroup, -⟩ := h.entries name inst entry hget
  unfold Server.removeService
  rw [head_findService hgroup hget]
  refine ⟨?_, by simp only [hget, isSome_some]⟩
  refine h.announce ⟨rfl, rfl, rfl⟩ h.unconnected rfl (entries_eraseService h.entries) _ _ False
    (fun type htype => announces_offlineLists htype (h.clients type htype)) ?_ ?_
  · show Online (ns.mRegistryTbl.eraseService _ _) _ _ ↔ False
    rw [online_eraseService]
    simp
  · intro n i hne
    show Online (ns.mRegistryTbl.eraseService _ _) n i ↔ _
    rw [online_eraseService]
    refine and_iff_right ?_
    rintro ⟨rfl, rfl⟩
    exact hne ⟨rfl, rfl⟩

/-- **A server asks for addresses.** -/
theorem ViewInv.alloc (h : ViewInv ns) {allocated : List CAllocatedAddress}
    (hok : AllocatedOk allocated) (session : SessionPtr) (req : FdbMsgServerName)
    (tokens : List Token) :
    ViewInv (onAllocServiceAddressReq cfg ns session req allocated tokens).1 := by
  unfold onAllocServiceAddressReq
  split
  · exact h.unsent ⟨rfl, rfl, rfl⟩ h.unconnected h.entries rfl fun _ _ => Iff.rfl
  · next allocator inst halloc =>
      obtain ⟨hfree, hgroup⟩ := allocateInstance_ok halloc
      have haddr := addServiceAddress_ok hok
      refine h.unsent ⟨rfl, rfl, rfl⟩ h.unconnected
        (entries_put h.entries ⟨rfl, rfl, hgroup, haddr⟩) rfl ?_
      intro n i
      show Online (ns.mRegistryTbl.put _ _ _) n i ↔ _
      rw [online_put]
      split
      · next hkey =>
          -- the new service is not bound, and there was none before
          obtain ⟨rfl, rfl⟩ := hkey
          refine iff_of_false ?_ ?_
          · intro hbound
            obtain ⟨url, desc, hmem, -⟩ := haddr.hasIpc
            have hstatus := hbound desc hmem
            obtain ⟨a, -, rfl⟩ := (mem_addServiceAddress hmem).resolve_left not_mem_nil
            cases hstatus
          · rintro ⟨e, he, -⟩
            rw [get_of_findService_nil hfree] at he
            cases he
      · exact Iff.rfl

theorem not_isIntra_moreAddress : ¬ moreAddress.IsIntra := by
  rintro (h | h) <;> cases h

/-- What is sent while the reports are read is for servers. -/
theorem type_moreAddress {pubs : Publishers} {name : Text} {more : List FdbMsgAddressList} :
    ∀ m ∈ more.flatMap fun (list : FdbMsgAddressList) =>
      broadcastAll pubs .moreAddress list.instanceId name list, m.type = .moreAddress := by
  intro m hm
  obtain ⟨list, -, hm⟩ := mem_flatMap.mp hm
  exact type_broadcastAll hm

section Bind

variable {name : Text} {inst : FdbInstanceId} {entry : CSvcRegistryEntry} {b : Binding}

/-- Some address is still to be bound: the service was not online before. -/
theorem ViewInv.stillPending (h : ViewInv ns) (hget : ns.mRegistryTbl.get name inst = some entry)
    (hkept : Kept entry.mAddrTbl b) (session : SessionPtr)
    (hpending : hasPendingAddress (registeredEntry session entry b) = true) :
    ViewInv (reported ns ⟨name, inst, entry⟩ (registeredEntry session entry b) b) := by
  have hentry := h.entries name inst entry hget
  have hnew : EntryOk name inst (registeredEntry session entry b) :=
    ⟨hentry.name_eq, hentry.inst_eq, hentry.notGroup, hkept.addressesOk entry session hentry.addresses⟩
  refine h.silent ⟨rfl, rfl, rfl⟩ h.unconnected rfl (entries_put h.entries hnew) ?_ ?_
  · intro m hm
    rw [type_moreAddress m hm]
    exact not_isIntra_moreAddress
  · intro n i
    show Online (ns.mRegistryTbl.put name inst _) n i ↔ _
    rw [online_put]
    split
    · next hkey =>
        obtain ⟨rfl, rfl⟩ := hkey
        have hnot : ¬ ∀ desc ∈ (registeredEntry session entry b).mAddrTbl, desc.mStatus = .bound := by
          intro hbound
          rw [not_pending_of_bound hbound] at hpending
          cases hpending
        refine iff_of_false hnot ?_
        rintro ⟨e, he, hbound⟩
        rw [hget, some.injEq] at he
        subst he
        exact hnot (hkept.allBound entry session hbound)
    · exact Iff.rfl

/-- All addresses are bound: the service is online now, if it was not before. -/
theorem ViewInv.comesOnline (h : ViewInv ns) (hget : ns.mRegistryTbl.get name inst = some entry)
    (hkept : Kept entry.mAddrTbl b) (session : SessionPtr)
    (hpending : hasPendingAddress (registeredEntry session entry b) = false) :
    let ns' := reported ns ⟨name, inst, entry⟩ (registeredEntry session entry b) b
    ViewInv ((connectIfHostServer cfg ns' (registeredEntry session entry b) name).send
      (onlineLists cfg ns' (registeredEntry session entry b) name inst)) := by
  intro ns'
  have hentry := h.entries name inst entry hget
  obtain ⟨rfl, rfl, hgroup, haddr⟩ := hentry
  have haddr' := hkept.addressesOk entry session haddr
  obtain ⟨proxies, hconnect, hproxies⟩ := connectIfHostServer_eq cfg ns'
    (registeredEntry session entry b) entry.mSvcName
  rw [hconnect]
  refine h.announce ⟨rfl, rfl, rfl⟩ (hproxies h.unconnected) (append_assoc _ _ _)
    (entries_put h.entries ⟨rfl, rfl, hgroup, haddr'⟩) entry.mSvcName entry.mInstanceId True
    (fun type htype => ?_) ?_ ?_
  · refine Announces.other_append (announces_onlineLists haddr' htype (h.clients type htype)) ?_
    rintro m hm rfl
    rw [type_moreAddress m hm] at htype
    exact not_isIntra_moreAddress htype
  · show Online (ns.mRegistryTbl.put _ _ _) _ _ ↔ True
    rw [online_put, if_pos ⟨rfl, rfl⟩]
    exact iff_true_intro (bound_of_not_pending haddr'.notFree hpending)
  · intro n i hne
    show Online (ns.mRegistryTbl.put _ _ _) n i ↔ _
    rw [online_put, if_neg]
    rintro ⟨rfl, rfl⟩
    exact hne ⟨rfl, rfl⟩

end Bind

/-- **A server reports what it could bind.** -/
theorem ViewInv.register (h : ViewInv ns) {session : SessionPtr} {req : FdbMsgAddrBindResults}
    {realloc : CFdbAddressDesc → Option CAllocatedAddress}
    (hreg : Regular cfg ns (.request session (.register req realloc))) :
    ViewInv (onRegisterServiceReq cfg ns session req realloc).1 := by
  unfold onRegisterServiceReq
  cases hgroup : fdbIsGroup req.instanceId with
  | true => exact h
  | false =>
    rw [if_neg Bool.false_ne_true]
    cases hfind : (ns.mRegistryTbl.findService req.serviceName req.instanceId).head? with
    | none => exact h
    | some m =>
      obtain ⟨hname, hreg⟩ := hreg hgroup m hfind
      obtain ⟨hinst, hget⟩ := get_of_head_named hgroup hfind hname
      obtain ⟨name, inst, entry⟩ := m
      obtain rfl : name = req.serviceName := hname
      obtain rfl : inst = req.instanceId := hinst
      simp only
      by_cases hempty : req.addressList = []
      · -- the service was not online, so it may go without notice
        rw [if_pos hempty] at hreg ⊢
        refine h.unsent ⟨rfl, rfl, rfl⟩ h.unconnected (entries_eraseService h.entries) rfl ?_
        intro n i
        show Online (ns.mRegistryTbl.eraseService _ _) n i ↔ _
        rw [online_eraseService]
        refine and_iff_right_of_imp fun honline => ?_
        rintro ⟨rfl, rfl⟩
        exact not_online_of_pending hget hreg honline
      · rw [if_neg hempty] at hreg ⊢
        have hkept := kept_bindAddresses (h.entries _ _ _ hget).addresses hreg.1 hreg.2
        split
        · next hpending => exact h.stillPending hget hkept session hpending
        · next hpending =>
            exact h.comesOnline hget hkept session (Bool.eq_false_iff.mpr hpending)

/-- **A server gives a name back.** -/
theorem ViewInv.unregister (h : ViewInv ns) {session : SessionPtr} {svcName : Text}
    {instanceId : FdbInstanceId}
    (hreg : Regular cfg ns (.request session (.unregister svcName instanceId))) :
    ViewInv (onUnegisterServiceReq cfg ns svcName instanceId).1 := by
  unfold onUnegisterServiceReq
  cases hgroup : fdbIsGroup instanceId with
  | true => exact h
  | false =>
    cases hfind : (ns.mRegistryTbl.findService svcName instanceId).head? with
    | none =>
      show ViewInv (Server.removeService cfg ns svcName instanceId).1
      unfold Server.removeService
      rw [hfind]
      exact h
    | some m =>
      obtain ⟨-, hget⟩ := get_of_head_named hgroup hfind (hreg hgroup m hfind)
      exact (h.removeService cfg hget).1

/-- One scan: the first service of the session is removed under its own name. -/
theorem ViewInv.removeOwned (cfg : NsConfig) (h : ViewInv ns) (session : SessionPtr)
    {ms : List RegistryMatch} (hms : ∀ m ∈ ms, ns.mRegistryTbl.get m.name m.inst = some m.entry) :
    ViewInv (removeOwned cfg session ms ns).1 := by
  induction ms with
  | nil => exact h
  | cons m ms ih =>
    unfold Server.removeOwned
    split
    · have hget := hms m mem_cons_self
      have hentry := h.entries _ _ _ hget
      rw [hentry.name_eq, hentry.inst_eq]
      obtain ⟨hinv, hremoved⟩ := h.removeService cfg hget
      simp only [hremoved, if_true]
      exact hinv
    · exact ih fun m' hm' => hms m' (mem_cons_of_mem m hm')

theorem ViewInv.removeAllOwned (h : ViewInv ns) (session : SessionPtr) (fuel : Nat) :
    ViewInv (removeAllOwned cfg session fuel ns) := by
  induction fuel generalizing ns with
  | zero => exact h
  | succ fuel ih =>
    unfold Server.removeAllOwned
    have hscan := h.removeOwned cfg session fun m hm => (mem_all ns.mRegistryTbl m).mp hm
    simp only
    split
    · exact ih hscan
    · exact hscan

/-- **A session ends.** -/
theorem ViewInv.offline (h : ViewInv ns) (session : SessionPtr) :
    ViewInv (onOffline cfg ns session) := by
  refine ViewInv.removeAllOwned ?_ session _
  have hholds : ∀ type s o, Holds (fun type => (ns.publishers type).unsubscribeSession session)
      type s o → session ≠ s ∧ Holds ns.publishers type s o := by
    rintro type s o ⟨code, topic, hsub⟩
    rw [CFdbBaseObject.lookup_unsubscribeSession] at hsub
    split at hsub
    · cases hsub
    · next hne => exact ⟨hne, code, topic, hsub⟩
  refine ⟨h.entries, fun type htype => ?_, fun s hs => ?_, h.sentTo, h.unconnected, ?_⟩
  · have hclients := h.clients type htype
    refine ⟨fun s o hsub => ?_, fun s o hsub => hclients.cls s o (hholds type s o hsub).2,
      fun s o o' hsub hsub' => hclients.single s o o' (hholds type s o hsub).2
        (hholds type s o' hsub').2⟩
    obtain ⟨hne, hsub⟩ := hholds type s o hsub
    show ∃ info, (ns.sessions.erase session)[s]? = some info ∧ _
    rw [get_erase, if_neg hne]
    exact hclients.live s o hsub
  · change (ns.sessions.erase session)[s]?.isSome = true at hs
    rw [get_erase] at hs
    split at hs
    · cases hs
    · exact h.sids s hs
  · intro w htype hlive
    change (ns.sessions.erase session)[w.session]?.isSome = true at hlive
    rw [get_erase] at hlive
    split at hlive
    · cases hlive
    · next hne =>
        rw [h.view w htype hlive]
        refine and_congr_left fun _ => ?_
        unfold Watch.Subscribed Subscribed
        simp only [CFdbBaseObject.lookup_unsubscribeSession, if_neg hne]

/-- **A session begins**: nothing was sent to it, and it has not subscribed anything. -/
theorem ViewInv.sessionOnline (h : ViewInv ns) (info : SessionInfo) :
    ViewInv { ns with sessions := ns.sessions.insert ns.nextSid info, nextSid := ns.nextSid + 1 } := by
  have hget : ∀ s, s ≠ ns.nextSid → (ns.sessions.insert ns.nextSid info)[s]? = ns.sessions[s]? :=
    fun s hs => by rw [get_insert, if_neg (hs.symm)]
  refine ⟨h.entries, fun type htype => ?_, fun s hs => ?_, fun m hm htype => ?_, h.unconnected, ?_⟩
  · have hclients := h.clients type htype
    refine ⟨fun s o hsub => ?_, hclients.cls, hclients.single⟩
    have hlt := h.sids s (hclients.live_isSome hsub)
    show ∃ info', (ns.sessions.insert ns.nextSid info)[s]? = some info' ∧ _
    rw [hget s (by omega)]
    exact hclients.live s o hsub
  · show s < ns.nextSid + 1
    by_cases hnew : s = ns.nextSid
    · omega
    · have hlt := h.sids s (by rw [← hget s hnew]; exact hs)
      omega
  · exact Nat.lt_succ_of_lt (h.sentTo m hm htype)
  · intro w htype hlive
    by_cases hnew : w.session = ns.nextSid
    · refine iff_of_false ?_ ?_
      · have hnone : ∀ m ∈ ns.sent, ¬ m.About w := by
          intro m hm habout
          have hlt := h.sentTo m hm (habout.1.1 ▸ htype)
          rw [habout.1.2.1, hnew] at hlt
          exact lt_irrefl _ hlt
        show ¬ Told ns.sent w
        unfold Told
        rw [lastList_eq_none hnone]
        exact fun hne => hne rfl
      · rintro ⟨hsub, -⟩
        have hlt := h.sids _ ((h.clients w.type htype).live_isSome hsub.holds)
        rw [hnew] at hlt
        exact lt_irrefl _ hlt
    · exact h.view w htype (by rw [← hget w.session hnew]; exact hlive)

end Steps

/-! ## §3. A subscription. -/

section Subscription

variable {session : SessionPtr} {obj : FdbObjectId} {pubs : Publishers} {type : SubscribeType}
  {items : List CFdbMsgSubscribeItem}

/-- Who holds a subscription afterwards. -/
theorem holds_update {type' : SubscribeType} {s : SessionPtr} {o : FdbObjectId}
    (h : Holds (update pubs type (enterItems session obj items (pubs type))) type' s o) :
    Holds pubs type' s o ∨ (type' = type ∧ session = s ∧ obj = o) := by
  obtain ⟨code, topic, hsub⟩ := h
  by_cases htype : type' = type
  · subst htype
    rw [update_self, lookup_enterItems] at hsub
    rcases hsub with hsub | ⟨hs, ho, -⟩
    · exact .inl ⟨code, topic, hsub⟩
    · exact .inr ⟨rfl, hs, ho⟩
  · rw [update_of_ne htype] at hsub
    exact .inl ⟨code, topic, hsub⟩

/-- Which services are covered afterwards. -/
theorem subscribed_update (w : Watch) :
    w.Subscribed (update pubs type (enterItems session obj items (pubs type)))
      ↔ w.Subscribed pubs ∨ ((w.type = type ∧ session = w.session ∧ obj = w.obj)
        ∧ ∃ item ∈ items, Covers (item.topic.getD []) item.msgCode w.name w.inst) := by
  unfold Watch.Subscribed Subscribed
  by_cases htype : w.type = type
  · rw [htype, update_self]
    simp only [lookup_enterItems, true_and]
    constructor
    · rintro ⟨code, topic, hsub | ⟨hs, ho, item, hitem, rfl, rfl⟩, hcovers⟩
      · exact .inl ⟨code, topic, hsub, hcovers⟩
      · exact .inr ⟨⟨hs, ho⟩, item, hitem, hcovers⟩
    · rintro (⟨code, topic, hsub, hcovers⟩ | ⟨⟨hs, ho⟩, item, hitem, hcovers⟩)
      · exact ⟨code, topic, .inl hsub, hcovers⟩
      · exact ⟨_, _, .inr ⟨hs, ho, item, hitem, rfl, rfl⟩, hcovers⟩
  · simp [htype]

variable {sessions : Sessions} {info : SessionInfo}

theorem Clients.update (h : ∀ type : SubscribeType, type.IsIntra → Clients pubs sessions type)
    (hsession : sessions[session]? = some info) (hclass : fdbObjectGetClass obj = type.cls)
    (hone : type.IsIntra → ∀ o, Holds pubs type session o → o = obj)
    (hipc : type = .intraNormal → info.socketType = .ipc) {type' : SubscribeType}
    (htype' : type'.IsIntra) :
    Clients (update pubs type (enterItems session obj items (pubs type))) sessions type' := by
  have hclients := h type' htype'
  refine ⟨fun s o hsub => ?_, fun s o hsub => ?_, fun s o o' hsub hsub' => ?_⟩
  · rcases holds_update hsub with hsub | ⟨rfl, rfl, -⟩
    · exact hclients.live s o hsub
    · exact ⟨info, hsession, hipc⟩
  · rcases holds_update hsub with hsub | ⟨rfl, -, rfl⟩
    · exact hclients.cls s o hsub
    · exact hclass
  · rcases holds_update hsub with hold | ⟨rfl, rfl, rfl⟩
    · rcases holds_update hsub' with hold' | ⟨rfl, rfl, rfl⟩
      · exact hclients.single s o o' hold hold'
      · exact (hone htype' o hold).symm
    · rcases holds_update hsub' with hold' | ⟨-, -, rfl⟩
      · exact hone htype' o' hold'
      · rfl

variable {cfg : NsConfig} {ns : NameServer}

/-- Nothing is heard of services of other hosts. -/
theorem onServiceOnlineReg_unconnected (h : Unconnected ns.mHostProxyTbl)
    (item : CFdbMsgSubscribeItem) :
    onServiceOnlineReg cfg ns type session info obj item
      = (ns.mRegistryTbl.findService (item.topic.getD []) item.msgCode).flatMap fun m =>
          (subscribeList cfg m.entry type info).elim []
            (broadcastSession ns.publishers type session obj m.entry.mInstanceId
              m.entry.mSvcName) := by
  have hnothing : ∀ svcs : List CFdbSvcAddress, broadcastExternalService cfg ns.mRegistryTbl
      ns.publishers ns.sessions false svcs false type item.msgCode (item.topic.getD [])
      (some (session, obj)) = [] := by
    unfold broadcastExternalService broadcastOneExtService
    simp
  unfold onServiceOnlineReg
  rw [append_right_eq_self, flatMap_eq_nil_iff]
  intro p hp
  rw [h p.1 p.2 (Std.ExtTreeMap.mem_toList_iff_getElem?_eq_some.mp hp)]
  exact hnothing _

section

variable (hun : Unconnected ns.mHostProxyTbl)
  (hentries : EntriesOk ns.mRegistryTbl)

include hun hentries

/-- **What a subscription is answered with**: a list is sent for a service that is online and
covered, to the objects of the session that hold such a subscription. -/
theorem mem_onServiceOnlineReg {item : CFdbMsgSubscribeItem} {m : Sent}
    (hm : m ∈ onServiceOnlineReg cfg ns type session info obj item) :
    (m.type = type ∧ m.session = session)
      ∧ Subscribed ns.publishers type session m.obj m.list.serviceName m.list.instanceId
      ∧ m.list.addressList ≠ [] ∧ Online ns.mRegistryTbl m.list.serviceName m.list.instanceId := by
  rw [onServiceOnlineReg_unconnected hun] at hm
  obtain ⟨r, hr, hm⟩ := mem_flatMap.mp hm
  have hget := ((mem_findService _ _ _ r).mp hr).2.2
  obtain ⟨hname, hinst, -, haddr⟩ := hentries _ _ _ hget
  obtain ⟨list, hlist, hm⟩ := mem_elim.mp hm
  obtain ⟨l, hl, rfl⟩ := map_eq_some_iff.mp hlist
  obtain ⟨⟨hln, hli⟩, hne, hbound⟩ := serviceAddress_service haddr.notFree hl
  obtain ⟨hmem, heq⟩ := mem_broadcastSession.mp hm
  have hsub := (subscribed_iff session m.obj ⟨r.entry.mInstanceId, r.entry.mSvcName, session,
    false⟩).mpr (mem_hearers _ _ _ _ hmem).2
  rw [heq]
  simp only [dress_serviceName, dress_instanceId, hln, hli, Ne, dress_addressList]
  refine ⟨⟨trivial, trivial⟩, hsub, hne, r.entry, ?_, hbound⟩
  rw [hname, hinst]
  exact hget

/-- A covered service that is online is told. -/
theorem exists_onServiceOnlineReg (htype : type.IsIntra)
    (hinfo : type = .intraNormal → info.socketType = .ipc)
    (hclients : Clients ns.publishers ns.sessions type)
    (hclass : fdbObjectGetClass obj = type.cls) {item : CFdbMsgSubscribeItem} {name : Text}
    {inst : FdbInstanceId} (hcovers : Covers (item.topic.getD []) item.msgCode name inst)
    (hsub : Subscribed ns.publishers type session obj name inst)
    (honline : Online ns.mRegistryTbl name inst) :
    ∃ m ∈ onServiceOnlineReg cfg ns type session info obj item,
      m.About ⟨type, session, obj, name, inst⟩ := by
  obtain ⟨entry, hget, hbound⟩ := honline
  obtain ⟨rfl, rfl, -, haddr⟩ := hentries _ _ _ hget
  obtain ⟨list, hlist⟩ := serviceAddress_isSome cfg haddr hbound htype hinfo
  obtain ⟨⟨hln, hli⟩, -⟩ := serviceAddress_service haddr.notFree hlist
  refine ⟨⟨type, session, obj, entry.mInstanceId, entry.mSvcName,
    dress cfg entry.mTokens type info list⟩, ?_, ⟨rfl, rfl, rfl⟩, ?_, ?_⟩
  · rw [onServiceOnlineReg_unconnected hun]
    refine mem_flatMap.mpr ⟨⟨entry.mSvcName, entry.mInstanceId, entry⟩,
      (mem_findService _ _ _ _).mpr ⟨hcovers.1, hcovers.2, hget⟩, ?_⟩
    unfold subscribeList
    rw [hlist]
    exact (mem_broadcastSession_iff hclients hclass).mpr ⟨hsub, rfl⟩
  · show (dress cfg entry.mTokens type info list).serviceName = _
    rw [dress_serviceName, hln]
  · show (dress cfg entry.mTokens type info list).instanceId = _
    rw [dress_instanceId, hli]

end

/-- The items are entered, and what is online and covered by them is told to the object. -/
theorem ViewInv.answered (h : ViewInv ns) {ns' : NameServer} {lists : List Sent}
    (hpubs : ns'.publishers
      = update ns.publishers type (enterItems session obj items (ns.publishers type)))
    (hclients : ∀ type : SubscribeType, type.IsIntra → Clients ns'.publishers ns'.sessions type)
    (hsessions : ns'.sessions = ns.sessions) (hsid : ns'.nextSid = ns.nextSid)
    (hregistry : ns'.mRegistryTbl = ns.mRegistryTbl)
    (hproxies : ns'.mHostProxyTbl = ns.mHostProxyTbl) (hsent : ns'.sent = ns.sent ++ lists)
    (hsession : ns.sessions[session]? = some info)
    (hlists : ∀ m ∈ lists, (m.type = type ∧ m.session = session)
      ∧ Subscribed ns'.publishers type session m.obj m.list.serviceName m.list.instanceId
      ∧ m.list.addressList ≠ [] ∧ Online ns.mRegistryTbl m.list.serviceName m.list.instanceId)
    (hreach : type.IsIntra → ∀ name inst, Subscribed ns'.publishers type session obj name inst →
      (∃ item ∈ items, Covers (item.topic.getD []) item.msgCode name inst) →
      Online ns.mRegistryTbl name inst → ∃ m ∈ lists, m.About ⟨type, session, obj, name, inst⟩) :
    ViewInv ns' := by
  refine ⟨hregistry ▸ h.entries, hclients, ?_, ?_, hproxies ▸ h.unconnected, ?_⟩
  · rw [hsessions, hsid]
    exact h.sids
  · rw [hsent, hsid]
    intro m hm htype
    rcases mem_append.mp hm with hm | hm
    · exact h.sentTo m hm htype
    · rw [(hlists m hm).1.2]
      exact h.sids session (by rw [hsession]; rfl)
  · rw [hsent, hregistry, hsessions]
    intro w htype hlive
    by_cases habout : ∃ m ∈ lists, m.About w
    · rw [told_append_of_about (q := True) habout fun m hm _ => iff_true_intro (hlists m hm).2.2.1]
      obtain ⟨m, hm, ⟨hmtype, hmsession, hmobj⟩, hname, hinst⟩ := habout
      obtain ⟨⟨htype', hsession'⟩, hsub, -, honline⟩ := hlists m hm
      rw [hname, hinst] at hsub honline
      rw [← htype', ← hsession', hmtype, hmsession, hmobj] at hsub
      exact ⟨fun _ => ⟨hsub, honline⟩, fun _ => trivial⟩
    · rw [told_append_of_not fun m hm hm' => habout ⟨m, hm, hm'⟩, h.view w htype hlive]
      refine and_congr_left fun honline => ?_
      rw [hpubs, subscribed_update]
      refine (or_iff_left ?_).symm
      -- whatever an item covers is told now
      rintro ⟨⟨hwtype, hwsession, hwobj⟩, hcovers⟩
      have hsub : w.Subscribed ns'.publishers := by
        rw [hpubs, subscribed_update]
        exact .inr ⟨⟨hwtype, hwsession, hwobj⟩, hcovers⟩
      unfold Watch.Subscribed at hsub
      rw [hwtype, ← hwsession, ← hwobj] at hsub
      obtain ⟨m, hm, ⟨hmtype, hmsession, hmobj⟩, hname, hinst⟩ :=
        hreach (hwtype ▸ htype) w.name w.inst hsub hcovers honline
      exact habout ⟨m, hm, ⟨hmtype.trans hwtype.symm, hmsession.trans hwsession,
        hmobj.trans hwobj⟩, hname, hinst⟩

/-- **A client subscribes.** -/
theorem ViewInv.onSubscribe (h : ViewInv ns) (hsession : ns.sessions[session]? = some info)
    (htype : ofObject obj = some type)
    (hreg : Regular cfg ns (.subscribe session obj items)) :
    ViewInv (onSubscribe cfg ns type session info obj items) := by
  have hclass := find?_some htype
  rw [decide_eq_true_eq, eq_comm] at hclass
  have hone : type.IsIntra → ∀ o, Holds ns.publishers type session o → o = obj :=
    fun hintra => (hreg type htype hintra).1
  have hipc : type = .intraNormal → info.socketType = .ipc :=
    fun hnormal => (hreg type htype (.inl hnormal)).2 hnormal info hsession
  have hclients : ∀ type' : SubscribeType, type'.IsIntra → Clients (update ns.publishers type
      (enterItems session obj items (ns.publishers type))) ns.sessions type' :=
    fun _ => Clients.update h.clients hsession hclass hone hipc
  -- the state in which the items are answered
  let entered : NameServer := { ns with
    publishers := update ns.publishers type
      (enterItems session obj items (ns.publishers type)) }
  have hun : Unconnected entered.mHostProxyTbl := h.unconnected
  have hentries : EntriesOk entered.mRegistryTbl := h.entries
  unfold Server.onSubscribe
  split
  · next hmore =>
      subst hmore
      exact h.answered rfl hclients rfl rfl rfl rfl (append_nil _).symm hsession
        (fun _ hm => absurd hm not_mem_nil)
        fun hintra => absurd hintra not_isIntra_moreAddress
  · refine h.answered rfl hclients rfl rfl rfl rfl rfl hsession ?_ ?_
    · intro m hm
      obtain ⟨item, -, hm⟩ := mem_flatMap.mp hm
      exact mem_onServiceOnlineReg hun hentries hm
    · rintro hintra name inst hsub ⟨item, hitem, hcovers⟩ honline
      obtain ⟨m, hm, habout⟩ := exists_onServiceOnlineReg hun hentries hintra hipc
        (hclients type hintra) hclass hcovers hsub honline
      exact ⟨m, mem_flatMap.mpr ⟨item, hitem, hm⟩, habout⟩

end Subscription

/-! ## §4. Over every run. -/

section Run

variable (cfg : NsConfig) {ns : NameServer}

theorem ViewInv.connectToHostServer (h : ViewInv ns) (url : Text) :
    ViewInv (ns.connectToHostServer url) := by
  obtain ⟨proxies, hconnect, hproxies⟩ := connectToHostServer_eq ns url
  rw [hconnect]
  exact h.unsent ⟨rfl, rfl, rfl⟩ (hproxies h.unconnected) h.entries rfl fun _ _ => Iff.rfl

/-- **The name server starts** with its own service online and nobody subscribed. -/
theorem ViewInv.start {params : OnlineParams} (hown : AllocatedOk params.allocated) :
    ViewInv (online cfg params) := by
  have hnone : ∀ type s o, ¬ Holds (fun _ => CFdbBaseObject.empty) type s o := by
    rintro type s o ⟨code, topic, hsub⟩
    rw [CFdbBaseObject.lookup_empty] at hsub
    cases hsub
  have hoffline : ∀ s : SessionPtr, ¬ (∅ : Sessions)[s]?.isSome = true := by
    simp
  have hinit : ViewInv
      { mRegistryTbl := RegistryTbl.put ∅ cfg.nsName 0#32 (ownEntry cfg params) } := by
    refine ⟨entries_put (fun n i entry hget => ?_) ⟨rfl, rfl, by decide,
      bindNsAddress_ok _ (addServiceAddress_ok hown)⟩, fun type _ => ?_, fun s hs => ?_,
      fun _ hm => absurd hm not_mem_nil, fun url proxy hget => ?_, fun w _ hlive => ?_⟩
    · unfold RegistryTbl.get at hget
      simp at hget
    · exact ⟨fun s o hsub => absurd hsub (hnone type s o),
        fun s o hsub => absurd hsub (hnone type s o),
        fun s o _ hsub => absurd hsub (hnone type s o)⟩
    · exact absurd hs (hoffline s)
    · simp at hget
    · exact absurd hlive (hoffline w.session)
  unfold online
  generalize params.hostServerUrls = urls
  revert hinit
  generalize ({ mRegistryTbl := RegistryTbl.put ∅ cfg.nsName 0#32 (ownEntry cfg params) }
    : NameServer) = ns
  intro hinit
  induction urls generalizing ns with
  | nil => exact hinit
  | cons url urls ih => exact ih _ (hinit.connectToHostServer url)

/-- **One step.** -/
theorem ViewInv.step {ns' : NameServer} (h : ViewInv ns) {e : Event} (hreg : Regular cfg ns e)
    (hstep : step cfg ns e = some ns') : ViewInv ns' := by
  cases e with
  | online info =>
    cases hstep
    exact h.sessionOnline info
  | offline session =>
    obtain ⟨-, rfl⟩ := of_guard hstep
    exact h.offline session
  | request session req =>
    obtain ⟨-, rfl⟩ := of_guard hstep
    cases req with
    | alloc req allocated tokens => exact h.alloc hreg session req tokens
    | register req realloc => exact h.register hreg
    | unregister svcName instanceId => exact h.unregister hreg
  | subscribe session obj items =>
    obtain ⟨info, hsession, hrest⟩ := bind_eq_some_iff.mp hstep
    obtain ⟨type, htype, rfl⟩ := map_eq_some_iff.mp hrest
    exact h.onSubscribe hsession htype hreg
  | hostConnected | hostOnline | exportedServices | serviceBroadcast | nameServerDrop =>
    exact absurd hreg id

end Run

/-- For every local subscriber that is online and every service that it subscribed: the last list
that it was sent is not empty if and only if the service is registered and all its addresses are
bound. -/
def ViewOk (ns : NameServer) : Prop :=
  ∀ w : Watch, w.type.IsIntra → ns.sessions[w.session]?.isSome = true → w.Subscribed ns.publishers →
    (Told ns.sent w ↔ Online ns.mRegistryTbl w.name w.inst)

/-- **Subscribers' view follows the registry** over every run of steps that are `Regular`. -/
theorem view_follows_registry (cfg : NsConfig) (params : OnlineParams)
    (hown : AllocatedOk params.allocated) {es : List Event} {ns : NameServer}
    (hreg : Along (step cfg) (Regular cfg) (NameServer.online cfg params) es)
    (hrun : run (step cfg) (NameServer.online cfg params) es = some ns) : ViewOk ns := by
  have hinv : ViewInv ns := run_along (fun _ _ _ hreg h hstep => h.step cfg hreg hstep)
    (ViewInv.start cfg hown) hreg hrun
  intro w htype hlive hsub
  rw [hinv.view w htype hlive]
  exact and_iff_right hsub

/-- The steps of `monitoredRun` are regular. -/
theorem regular_monitoredRun :
    Along (step plainConfig) (Regular plainConfig) (online plainConfig ipcParams)
      monitoredRun := by
  refine ⟨trivial, fun s₁ h₁ => ⟨trivial, fun s₂ h₂ => ⟨?_, fun s₃ h₃ => ⟨?_, fun s₄ h₄ => ⟨?_,
    fun _ _ => trivial⟩⟩⟩⟩⟩
  · -- nobody has subscribed anything yet
    have hpubs : s₂.publishers = fun _ => CFdbBaseObject.empty := by
      cases h₁
      cases h₂
      rfl
    have hmonitor : ofObject intraMonitor.objId = some .intraMonitor := by
      decide
    intro type htype _
    rw [mem_def, hmonitor, some.injEq] at htype
    subst htype
    refine ⟨?_, fun hnormal => by cases hnormal⟩
    rintro o ⟨code, topic, hsub⟩
    rw [hpubs, CFdbBaseObject.lookup_empty] at hsub
    cases hsub
  · show AllocatedOk [ipcAddress]
    decide
  · have hrun : run (step plainConfig) (online plainConfig ipcParams)
        (monitoredRun.take 4) = some s₄ := by
      simp only [monitoredRun, take, run, h₁, h₂, h₃, h₄, bind_some]
    have hfound : ∀ m ∈ (run (step plainConfig) (online plainConfig ipcParams)
        (monitoredRun.take 4)).bind fun s => (s.mRegistryTbl.findService [97] 0#32).head?,
        m.name = [97] ∧ ∀ r ∈ ([⟨[105], [105], fdbInetPortInvalid⟩] : List FdbAddrBindStatus),
          r.Regular plainConfig m.entry.mAddrTbl := by
      decide +kernel
    rw [hrun] at hfound
    intro _ m hm
    obtain ⟨hname, hreports⟩ := hfound m hm
    exact ⟨hname, fun _ _ _ ha => absurd ha (not_mem_none _), hreports⟩

/-- The monitor of `monitoredRun` and service "a". -/
def monitorOfA : Watch := ⟨.intraMonitor, 1, SubscribeType.intraMonitor.objId, [97], 0#32⟩

/-- In a state where session 1 holds the monitor's subscription, `ViewOk` speaks of it. -/
theorem ViewOk.monitorOfA {ns : NameServer} (h : ViewOk ns)
    (hlive : ns.sessions[(1 : SessionPtr)]?.isSome = true)
    (hsub : ((ns.publishers .intraMonitor).lookup fdbAllGroupsEvent 1
      intraMonitor.objId []).isSome = true) :
    Told ns.sent Server.monitorOfA ↔ Online ns.mRegistryTbl [97] 0#32 :=
  h Server.monitorOfA (.inr rfl) hlive ⟨fdbAllGroupsEvent, [], hsub, by decide⟩

/-- At the end of `monitoredRun` service "a" is online, and the monitor was told so. -/
theorem view_follows_registry_monitored :
    ∃ ns, run (step plainConfig) (NameServer.online plainConfig ipcParams) monitoredRun = some ns
      ∧ Online ns.mRegistryTbl [97] 0#32 ∧ Told ns.sent monitorOfA := by
  have hstate : (run (step plainConfig) (online plainConfig ipcParams) monitoredRun).any
      (fun ns => ns.sessions[(1 : SessionPtr)]?.isSome = true
        ∧ ((ns.publishers .intraMonitor).lookup fdbAllGroupsEvent 1
          intraMonitor.objId []).isSome = true
        ∧ (ns.mRegistryTbl.get [97] 0#32).isSome = true
        ∧ ∀ entry ∈ ns.mRegistryTbl.get [97] 0#32, ∀ desc ∈ entry.mAddrTbl,
          desc.mStatus = .bound) = true := by
    decide +kernel
  obtain ⟨ns, hrun, hstate⟩ := any_eq_true _ _ |>.mp hstate
  obtain ⟨hlive, hsub, hget, hbound⟩ := of_decide_eq_true hstate
  obtain ⟨entry, hget⟩ := isSome_iff_exists.mp hget
  have honline : Online ns.mRegistryTbl [97] 0#32 := ⟨entry, hget, hbound entry hget⟩
  have hview := view_follows_registry plainConfig ipcParams (by decide) regular_monitoredRun hrun
  exact ⟨ns, hrun, honline, (hview.monitorOfA hlive hsub).mpr honline⟩

/-- Then the server reports again, without addresses. -/
def erasedRun : List Event :=
  monitoredRun ++ [.request 0 (.register ⟨[97], 0#32, []⟩ fun _ => none)]

/-- The service is erased, and the monitor is not told: the last list that it was sent still has
addresses. -/
theorem erased_without_notice :
    ∃ ns, run (step plainConfig) (NameServer.online plainConfig ipcParams) erasedRun = some ns
      ∧ ns.mRegistryTbl.get [97] 0#32 = none ∧ Told ns.sent monitorOfA ∧ ¬ ViewOk ns := by
  have hstate : (run (step plainConfig) (online plainConfig ipcParams) erasedRun).any
      (fun ns => ns.sessions[(1 : SessionPtr)]?.isSome = true
        ∧ ((ns.publishers .intraMonitor).lookup fdbAllGroupsEvent 1
          intraMonitor.objId []).isSome = true
        ∧ ns.mRegistryTbl.get [97] 0#32 = none ∧ Told ns.sent monitorOfA) = true := by
    decide +kernel
  obtain ⟨ns, hrun, hstate⟩ := any_eq_true _ _ |>.mp hstate
  obtain ⟨hlive, hsub, hget, htold⟩ := of_decide_eq_true hstate
  refine ⟨ns, hrun, hget, htold, fun hview => ?_⟩
  obtain ⟨entry, hentry, -⟩ := (hview.monitorOfA hlive hsub).mp htold
  rw [hget] at hentry
  cases hentry

end Fdbus.Server

/-
  Fdbus.Server.Binding — what the reports of a server do to the addresses of its service.

  The allocators give a service its addresses, and the server reports for each of them whether
  it could be bound.  An address that could not is replaced by another one or dropped; an
  address that was not asked for is added.

    * `AddressesOk` — there is an IPC address, every IPC address may be told inside the node,
      and no address is free,
    * `addServiceAddress_ok` — the addresses of a new service are so, if the allocators give an
      IPC address,
    * `kept_bindAddresses` — they stay so over all reports, and what is bound stays bound, if the
      server is able to bind its IPC addresses and adds none.
-/
import Fdbus.Server.NameServer

namespace Fdbus.Server

open Fdbus.Subscribe List Option

/-! ## §1. Addresses that a local client can be told. -/

/-- The table has an IPC address with this URL. -/
def HasIpc (addrTbl : List CFdbAddressDesc) (url : Text) : Prop :=
  ∃ desc ∈ addrTbl, desc.mAddress.mType = .ipc ∧ desc.mAddress.mUrl = url

instance (addrTbl : List CFdbAddressDesc) (url : Text) : Decidable (HasIpc addrTbl url) :=
  inferInstanceAs (Decidable (∃ desc ∈ addrTbl, _))

/-- What is known of the addresses of a registered service. -/
structure AddressesOk (addrTbl : List CFdbAddressDesc) : Prop where
  hasIpc : ∃ url, HasIpc addrTbl url
  exportable : ∀ desc ∈ addrTbl, desc.mAddress.mType = .ipc →
    desc.mExportableLevel ≤ fdbExportableNodeInternal
  notFree : ∀ desc ∈ addrTbl, desc.mStatus ≠ .free

/-- The allocators give an IPC address, and none of another type under its URL; every IPC address
is one that may be told inside the node. -/
def AllocatedOk (allocated : List CAllocatedAddress) : Prop :=
  (∃ a ∈ allocated, ∀ b ∈ allocated, b.mSocketAddr.mUrl = a.mSocketAddr.mUrl →
      b.mSocketAddr.mType = .ipc)
    ∧ ∀ a ∈ allocated, a.mSocketAddr.mType = .ipc → a.mExportableLevel ≤ fdbExportableNodeInternal

instance (allocated : List CAllocatedAddress) : Decidable (AllocatedOk allocated) :=
  inferInstanceAs (Decidable (_ ∧ _))

section Allocate

variable {addrTbl : List CFdbAddressDesc} {allocated : List CAllocatedAddress}

variable {desc : CFdbAddressDesc}

/-- What is in the table was there or was allocated. -/
theorem mem_addServiceAddress (h : desc ∈ addServiceAddress addrTbl allocated) :
    desc ∈ addrTbl ∨ ∃ a ∈ allocated, desc = a.pendingDesc := by
  unfold addServiceAddress at h
  induction allocated generalizing addrTbl with
  | nil => exact .inl h
  | cons a allocated ih =>
    rw [foldl_cons] at h
    rcases ih h with h | ⟨b, hb, hdesc⟩
    · split at h
      · exact .inl h
      · rcases mem_append.mp h with h | h
        · exact .inl h
        · exact .inr ⟨a, mem_cons_self, mem_singleton.mp h⟩
    · exact .inr ⟨b, mem_cons_of_mem a hb, hdesc⟩

theorem addServiceAddress_of_mem (h : desc ∈ addrTbl) :
    desc ∈ addServiceAddress addrTbl allocated := by
  unfold addServiceAddress
  induction allocated generalizing addrTbl with
  | nil => exact h
  | cons a allocated ih =>
    rw [foldl_cons]
    refine ih ?_
    split
    · exact h
    · exact mem_append_left _ h

/-- Every URL that was allocated is in the table. -/
theorem url_addServiceAddress (addrTbl : List CFdbAddressDesc) {a : CAllocatedAddress}
    (h : a ∈ allocated) :
    ∃ desc ∈ addServiceAddress addrTbl allocated, desc.mAddress.mUrl = a.mSocketAddr.mUrl := by
  induction allocated generalizing addrTbl with
  | nil => cases h
  | cons b allocated ih =>
    rcases mem_cons.mp h with rfl | h
    · -- the URL is in the table that the rest is added to
      by_cases hreg : addressRegistered addrTbl a.mSocketAddr = true
      · obtain ⟨desc, hmem, hurl⟩ := any_eq_true.mp hreg
        exact ⟨desc, addServiceAddress_of_mem hmem, of_decide_eq_true hurl⟩
      · refine ⟨a.pendingDesc, ?_, rfl⟩
        unfold addServiceAddress
        rw [foldl_cons, if_neg hreg]
        exact addServiceAddress_of_mem (mem_append_right _ (mem_singleton_self _))
    · exact ih _ h

/-- **The addresses of a new service.** -/
theorem addServiceAddress_ok (h : AllocatedOk allocated) :
    AddressesOk (addServiceAddress [] allocated) := by
  have hfrom : ∀ desc ∈ addServiceAddress [] allocated, ∃ a ∈ allocated, desc = a.pendingDesc :=
    fun desc hdesc => (mem_addServiceAddress hdesc).resolve_left not_mem_nil
  obtain ⟨⟨a, ha, hipc⟩, hlevel⟩ := h
  refine ⟨?_, ?_, ?_⟩
  · obtain ⟨desc, hmem, hurl⟩ := url_addServiceAddress [] ha
    obtain ⟨b, hb, rfl⟩ := hfrom desc hmem
    exact ⟨_, _, hmem, hipc b hb hurl, rfl⟩
  · intro desc hmem htype
    obtain ⟨b, hb, rfl⟩ := hfrom desc hmem
    exact hlevel b hb htype
  · intro desc hmem
    obtain ⟨b, -, rfl⟩ := hfrom desc hmem
    intro hfree
    cases hfree

end Allocate

/-- The name server binds its own addresses: they keep their URL, type and level. -/
theorem bindNsAddress_ok (udpPort : Text → Int) {addrTbl : List CFdbAddressDesc}
    (h : AddressesOk addrTbl) :
    AddressesOk (bindNsAddress (fun url => some (udpPort url)) addrTbl) := by
  have hmem : ∀ desc, desc ∈ bindNsAddress (fun url => some (udpPort url)) addrTbl →
      desc.mStatus = .bound ∧ ∃ d ∈ addrTbl, desc.mAddress = d.mAddress
        ∧ desc.mExportableLevel = d.mExportableLevel := by
    intro desc hdesc
    obtain ⟨d, hd, hsome⟩ := mem_filterMap.mp hdesc
    split at hsome
    · next hbound =>
        obtain rfl := some.inj hsome
        exact ⟨hbound, d, hd, rfl, rfl⟩
    · cases hsome
      exact ⟨rfl, d, hd, rfl, rfl⟩
  refine ⟨?_, ?_, ?_⟩
  · obtain ⟨url, d, hd, hipc, hurl⟩ := h.hasIpc
    by_cases hbound : d.mStatus = .bound
    · exact ⟨url, d, mem_filterMap.mpr ⟨d, hd, if_pos hbound⟩, hipc, hurl⟩
    · exact ⟨url, _, mem_filterMap.mpr ⟨d, hd, if_neg hbound⟩, hipc, hurl⟩
  · intro desc hdesc hipc
    obtain ⟨-, d, hd, haddr, hlevel⟩ := hmem desc hdesc
    rw [hlevel]
    exact h.exportable d hd (haddr ▸ hipc)
  · intro desc hdesc hfree
    rw [(hmem desc hdesc).1] at hfree
    cases hfree

/-! ## §2. The loop over the reports. -/

section ReplaceFirst

variable {α : Type} {p : α → Bool} {f : α → Option α} {l : List α} {a : α}

theorem mem_replaceFirst (h : a ∈ replaceFirst p f l) :
    a ∈ l ∨ ∃ b, l.find? p = some b ∧ f b = some a := by
  induction l with
  | nil => exact .inl h
  | cons b l ih =>
    unfold replaceFirst at h
    by_cases hp : p b = true
    · rw [if_pos hp] at h
      rcases mem_append.mp h with h | h
      · exact .inr ⟨b, find?_cons_of_pos hp, mem_toList.mp h⟩
      · exact .inl (mem_cons_of_mem b h)
    · rw [if_neg hp] at h
      rcases mem_cons.mp h with rfl | h
      · exact .inl mem_cons_self
      · rw [find?_cons_of_neg hp]
        exact (ih h).imp_left (mem_cons_of_mem b)

theorem mem_replaceFirst_of_mem (h : a ∈ l) :
    a ∈ replaceFirst p f l ∨ l.find? p = some a := by
  induction l with
  | nil => cases h
  | cons b l ih =>
    unfold replaceFirst
    by_cases hp : p b = true
    · rw [if_pos hp, find?_cons_of_pos hp]
      rcases mem_cons.mp h with rfl | h
      · exact .inr rfl
      · exact .inl (mem_append_right _ h)
    · rw [if_neg hp, find?_cons_of_neg hp]
      rcases mem_cons.mp h with rfl | h
      · exact .inl mem_cons_self
      · exact (ih h).imp_left (mem_cons_of_mem b)

theorem mem_replaceFirst_of_find {b : α} (h : l.find? p = some b) (hf : f b = some a) :
    a ∈ replaceFirst p f l := by
  induction l with
  | nil => cases h
  | cons c l ih =>
    unfold replaceFirst
    by_cases hp : p c = true
    · rw [find?_cons_of_pos hp, some.injEq] at h
      subst h
      rw [if_pos hp, hf]
      exact mem_append_left _ (mem_singleton_self a)
    · rw [find?_cons_of_neg hp] at h
      rw [if_neg hp]
      exact mem_cons_of_mem c (ih h)

end ReplaceFirst

/-- A report as of a server that can bind the IPC addresses it was given, and only those. -/
def FdbAddrBindStatus.Regular (cfg : NsConfig) (addrTbl : List CFdbAddressDesc)
    (report : FdbAddrBindStatus) : Prop :=
  (report.bindAddress = [] → ¬ HasIpc addrTbl report.requestAddress)
    ∧ ∀ addr ∈ cfg.parseUrl report.bindAddress, addr.mType = .ipc →
      report.bindAddress = report.requestAddress ∧ HasIpc addrTbl report.requestAddress

instance (cfg : NsConfig) (addrTbl : List CFdbAddressDesc) (report : FdbAddrBindStatus) :
    Decidable (report.Regular cfg addrTbl) :=
  inferInstanceAs (Decidable (_ ∧ _))

/-- In place of an address that is not IPC the allocators give one that is not. -/
def ReallocOk (cfg : NsConfig) (realloc : CFdbAddressDesc → Option CAllocatedAddress) : Prop :=
  ∀ desc, desc.mAddress.mType ≠ .ipc → ∀ a ∈ realloc desc,
    ∀ addr ∈ cfg.parseUrl a.mSocketAddr.mUrl, addr.mType ≠ .ipc

/-- What the loop keeps. -/
structure Kept (before : List CFdbAddressDesc) (b : Binding) : Prop where
  hasIpc : ∀ url, HasIpc b.addrTbl url ↔ HasIpc before url
  exportable : ∀ desc ∈ b.addrTbl, desc.mAddress.mType = .ipc →
    desc.mExportableLevel ≤ fdbExportableNodeInternal
  notFree : ∀ desc ∈ b.addrTbl, desc.mStatus ≠ .free
  bound : (∀ desc ∈ before, desc.mStatus = .bound) → ∀ desc ∈ b.addrTbl, desc.mStatus = .bound
  added : ∀ desc ∈ b.newAddrTbl, desc.mAddress.mType ≠ .ipc ∧ desc.mStatus = .bound

section Loop

variable {cfg : NsConfig} {realloc : CFdbAddressDesc → Option CAllocatedAddress}
  {entry : CSvcRegistryEntry} {before : List CFdbAddressDesc} {b : Binding}

theorem Kept.init (h : AddressesOk before) : Kept before { addrTbl := before } where
  hasIpc _ := Iff.rfl
  exportable := h.exportable
  notFree := h.notFree
  bound := id
  added _ hmem := absurd hmem not_mem_nil

variable {desc : CFdbAddressDesc} {p : CFdbAddressDesc → Bool}

/-- A descriptor is replaced by one of the same URL if it is IPC, and by one that is not IPC
otherwise. -/
theorem Kept.replace (h : Kept before b) {f : CFdbAddressDesc → Option CFdbAddressDesc}
    {desc' : CFdbAddressDesc} (hfind : b.addrTbl.find? p = some desc) (hf : f desc = some desc')
    (hipc : desc.mAddress.mType = .ipc →
      desc'.mAddress = desc.mAddress ∧ desc'.mExportableLevel = desc.mExportableLevel)
    (hother : desc.mAddress.mType ≠ .ipc → desc'.mAddress.mType ≠ .ipc)
    (hfree : desc'.mStatus ≠ .free) (hbound : desc.mStatus = .bound → desc'.mStatus = .bound)
    (more : List FdbMsgAddressList) :
    Kept before { b with addrTbl := replaceFirst p f b.addrTbl, more := more } := by
  have hmem := mem_of_find?_eq_some hfind
  -- an element of the new table is one of the old table, or `desc'`
  have hcases : ∀ d ∈ replaceFirst p f b.addrTbl, d ∈ b.addrTbl ∨ d = desc' := by
    intro d hd
    refine (mem_replaceFirst hd).imp_right ?_
    rintro ⟨c, hc, hfc⟩
    rw [hfind, some.injEq] at hc
    subst hc
    rw [hf, some.injEq] at hfc
    exact hfc.symm
  have hback : desc'.mAddress.mType = .ipc → desc.mAddress.mType = .ipc := fun htype =>
    not_not.mp fun hne => hother hne htype
  refine ⟨fun url => ?_, fun d hd htype => ?_, fun d hd => ?_, fun hall d hd => ?_, h.added⟩
  · rw [← h.hasIpc url]
    constructor
    · rintro ⟨d, hd, htype, hurl⟩
      rcases hcases d hd with hd | rfl
      · exact ⟨d, hd, htype, hurl⟩
      · have hsame := (hipc (hback htype)).1
        rw [hsame] at htype hurl
        exact ⟨desc, hmem, htype, hurl⟩
    · rintro ⟨d, hd, htype, hurl⟩
      rcases mem_replaceFirst_of_mem (p := p) (f := f) hd with hd | hd
      · exact ⟨d, hd, htype, hurl⟩
      · rw [hfind, some.injEq] at hd
        subst hd
        refine ⟨desc', mem_replaceFirst_of_find hfind hf, ?_⟩
        rw [(hipc htype).1]
        exact ⟨htype, hurl⟩
  · rcases hcases d hd with hd | rfl
    · exact h.exportable d hd htype
    · rw [(hipc (hback htype)).2]
      exact h.exportable desc hmem (hback htype)
  · rcases hcases d hd with hd | rfl
    · exact h.notFree d hd
    · exact hfree
  · rcases hcases d hd with hd | rfl
    · exact h.bound hall d hd
    · exact hbound (h.bound hall desc hmem)

/-- A descriptor that is not IPC is dropped. -/
theorem Kept.drop (h : Kept before b) (hfind : b.addrTbl.find? p = some desc)
    (hother : desc.mAddress.mType ≠ .ipc) :
    Kept before { b with addrTbl := replaceFirst p (fun _ => none) b.addrTbl } := by
  have hsub : ∀ d ∈ replaceFirst p (fun _ => none) b.addrTbl, d ∈ b.addrTbl := by
    intro d hd
    refine (mem_replaceFirst hd).resolve_right ?_
    rintro ⟨c, -, hc⟩
    cases hc
  refine ⟨fun url => ?_, fun d hd => h.exportable d (hsub d hd), fun d hd => h.notFree d (hsub d hd),
    fun hall d hd => h.bound hall d (hsub d hd), h.added⟩
  rw [← h.hasIpc url]
  constructor
  · rintro ⟨d, hd, hd'⟩
    exact ⟨d, hsub d hd, hd'⟩
  · rintro ⟨d, hd, htype, hurl⟩
    rcases mem_replaceFirst_of_mem (p := p) (f := fun _ => none) hd with hd | hd
    · exact ⟨d, hd, htype, hurl⟩
    · rw [hfind, some.injEq] at hd
      exact absurd (hd ▸ htype) hother

/-- **One report.** -/
theorem Kept.bindAddress (h : Kept before b) (hrealloc : ReallocOk cfg realloc)
    {report : FdbAddrBindStatus} (hreg : report.Regular cfg before) :
    Kept before (bindAddress cfg realloc entry b report) := by
  obtain ⟨hfails, hbinds⟩ := hreg
  unfold Server.bindAddress
  cases hfind : b.addrTbl.find? report.isAbout with
  | some desc =>
    have hmem := mem_of_find?_eq_some hfind
    have habout : report.isAbout desc = true := find?_some hfind
    have hurl : report.requestAddress = desc.mAddress.mUrl := of_decide_eq_true habout
    simp only
    by_cases hbind : report.bindAddress = []
    · rw [if_neg (not_not.mpr hbind)]
      have hother : desc.mAddress.mType ≠ .ipc := fun htype =>
        hfails hbind ((h.hasIpc _).mp ⟨desc, hmem, htype, hurl.symm⟩)
      by_cases hstatus : desc.mStatus = .bound
      · rw [if_pos hstatus]
        exact h
      · rw [if_neg hstatus]
        cases hrebind : rebindToAddress cfg realloc entry desc with
        | none => exact h.drop hfind hother
        | some r =>
          obtain ⟨desc', list⟩ := r
          unfold rebindToAddress at hrebind
          split at hrebind
          · cases hrebind
          · obtain ⟨a, ha, hmap⟩ := bind_eq_some_iff.mp hrebind
            obtain ⟨addr, haddr, hpair⟩ := map_eq_some_iff.mp hmap
            obtain ⟨hdesc', -⟩ := Prod.mk.inj hpair
            have hf : (fun _ => some desc' : CFdbAddressDesc → Option CFdbAddressDesc) desc
                = some desc' := rfl
            refine h.replace hfind hf (fun htype => absurd htype hother) ?_ ?_
              (fun hbound => absurd hbound hstatus) _
            · intro _
              rw [← hdesc']
              exact hrealloc desc hother a ha addr haddr
            · rw [← hdesc']
              exact h.notFree desc hmem
    · rw [if_pos hbind]
      have hf : (fun desc => some (boundDesc cfg report desc)) desc
          = some (boundDesc cfg report desc) := rfl
      refine h.replace hfind hf ?_ ?_ ?_ (fun _ => rfl) b.more
      · intro htype
        refine ⟨if_neg fun hne => hne.1 htype, rfl⟩
      · intro hother
        unfold boundDesc
        simp only
        split
        · next hne =>
            -- an IPC address is reported as it was requested, and this one is not
            cases hparse : cfg.parseUrl report.bindAddress with
            | none => exact hother
            | some addr =>
              intro htype
              exact hne.2 ((hbinds addr hparse htype).1.trans hurl)
        · exact hother
      · intro hfree
        cases hfree
  | none =>
    simp only
    cases hparse : cfg.parseUrl report.bindAddress with
    | none => exact h
    | some addr =>
      refine ⟨h.hasIpc, h.exportable, h.notFree, h.bound, fun desc hdesc => ?_⟩
      rcases mem_append.mp hdesc with hdesc | hdesc
      · exact h.added desc hdesc
      · rw [mem_singleton.mp hdesc]
        refine ⟨fun htype => ?_, rfl⟩
        -- the address of an IPC report is in the table
        obtain ⟨d, hd, -, hd'⟩ := (h.hasIpc _).mpr (hbinds addr hparse htype).2
        exact find?_eq_none.mp hfind d hd (decide_eq_true hd'.symm)

/-- **All reports.** -/
theorem kept_bindAddresses (h : AddressesOk entry.mAddrTbl) (hrealloc : ReallocOk cfg realloc)
    {reports : List FdbAddrBindStatus} (hreg : ∀ r ∈ reports, r.Regular cfg entry.mAddrTbl) :
    Kept entry.mAddrTbl (bindAddresses cfg realloc entry reports) := by
  have hfold : ∀ (reports : List FdbAddrBindStatus) (b : Binding),
      (∀ r ∈ reports, r.Regular cfg entry.mAddrTbl) → Kept entry.mAddrTbl b →
      Kept entry.mAddrTbl (reports.foldl (Server.bindAddress cfg realloc entry) b) := by
    intro reports
    induction reports with
    | nil => exact fun _ _ hb => hb
    | cons r reports ih =>
      intro b hreg hb
      exact ih _ (fun r' hr' => hreg r' (mem_cons_of_mem r hr'))
        (hb.bindAddress hrealloc (hreg r mem_cons_self))
  exact hfold reports _ hreg (Kept.init h)

variable (entry) (session : SessionPtr)

theorem mem_registeredEntry :
    desc ∈ (registeredEntry session entry b).mAddrTbl ↔ desc ∈ b.addrTbl ∨ desc ∈ b.newAddrTbl :=
  mem_append

/-- **The addresses of a service after a report.** -/
theorem Kept.addressesOk (h : Kept before b) (hok : AddressesOk before) :
    AddressesOk (registeredEntry session entry b).mAddrTbl := by
  refine ⟨?_, fun desc hdesc htype => ?_, fun desc hdesc => ?_⟩
  · obtain ⟨url, hurl⟩ := hok.hasIpc
    obtain ⟨desc, hmem, hdesc⟩ := (h.hasIpc url).mpr hurl
    exact ⟨url, desc, (mem_registeredEntry entry session).mpr (.inl hmem), hdesc⟩
  · rcases (mem_registeredEntry entry session).mp hdesc with hdesc | hdesc
    · exact h.exportable desc hdesc htype
    · exact absurd htype (h.added desc hdesc).1
  · rcases (mem_registeredEntry entry session).mp hdesc with hdesc | hdesc
    · exact h.notFree desc hdesc
    · rw [(h.added desc hdesc).2]
      decide

/-- What is bound stays bound. -/
theorem Kept.allBound (h : Kept before b) (hbound : ∀ desc ∈ before, desc.mStatus = .bound) :
    ∀ desc ∈ (registeredEntry session entry b).mAddrTbl, desc.mStatus = .bound := by
  intro desc hdesc
  rcases (mem_registeredEntry entry session).mp hdesc with hdesc | hdesc
  · exact h.bound hbound desc hdesc
  · exact (h.added desc hdesc).2

end Loop

end Fdbus.Server

/-
  Fdbus.Host.Duplicates — is a service listed both as a local one and as one from above?

  A domain's services come back to it through the host servers above.  `removeDuplicateService`
  takes those out of a table from above that a local host offers; it is applied when such a table
  comes, and only then.

    * `Duplicate` — two services of one name share an address,
    * `mem_upstreamSvcTable` — what is left of a table from above,
    * `Distinct` — a table of a local host does not offer what is listed from above already, and
      a table from above has no address in common with a local one but the URL of all interfaces,
    * `noDuplicates_iff` — a run has no duplicates throughout exactly if its events are distinct.

  An address on all interfaces is compared by its port only: two services whose URLs are equal,
  both on all interfaces, are overlooked.
-/
import Fdbus.Host.Synchronised

namespace Fdbus.Host

open Fdbus.OrderedMap Fdbus.Security Fdbus.Server Fdbus.Subscribe Fdbus.Run List Option Std.ExtTreeMap

/-! ## §1. Duplicates. -/

/-- The address of a service from above is one of a local service: the same URL, or the same port
where the local one is on all interfaces and the other on one of them. -/
def SharesAddress (cfg : HsConfig) (up loc : CFdbSocketAddr) : Prop :=
  up.mUrl = loc.mUrl
    ∨ loc.mAddr = fdbIpAllInterface ∧ cfg.findByIp up.mAddr = true ∧ up.mPort = loc.mPort

/-- The two services have the same name and share an address. -/
def Duplicate (cfg : HsConfig) (up loc : CFdbSvcAddress) : Prop :=
  up.mSvcName = loc.mSvcName
    ∧ ∃ a ∈ up.mAddrTbl, ∃ b ∈ loc.mAddrTbl, SharesAddress cfg a.mAddress b.mAddress

/-- The service is in the table of a local host. -/
def LocalService (hs : HostServer) (svc : CFdbSvcAddress) : Prop :=
  ∃ (session : SessionPtr) (host : CLocalHostInfo), hs.mLocalHostTbl[session]? = some host
    ∧ svc ∈ host.mSvcAddrTbl

/-- The service is in the table of a host server above. -/
def UpstreamService (hs : HostServer) (svc : CFdbSvcAddress) : Prop :=
  ∃ (url : Text) (proxy : CInterHostProxy), hs.mHostProxyTbl[url]? = some proxy
    ∧ svc ∈ proxy.mSvcAddrTbl

/-- No service is listed both as local and as upstream. -/
def NoDuplicates (cfg : HsConfig) (hs : HostServer) : Prop :=
  ∀ up loc, UpstreamService hs up → LocalService hs loc → ¬ Duplicate cfg up loc

/-- A table of a host that is registered offers nothing that is listed from above. -/
def LocalDistinct (cfg : HsConfig) (hs : HostServer) (session : SessionPtr)
    (tbl : ExportableSvcAddress) : Prop :=
  hs.mLocalHostTbl[session]? ≠ none → ∀ ips : SessionIps, hs.sessions[session]? = some ips →
    ∀ up, UpstreamService hs up → ∀ loc ∈ localSvcTable cfg ips.peerIp tbl, ¬ Duplicate cfg up loc

/-- The event makes no duplicate.  In a table from above only a service matters that is not taken
out. -/
def Distinct (cfg : HsConfig) (hs : HostServer) : Event → Prop
  | .localHostReady session _ tbl => LocalDistinct cfg hs session tbl
  | .postLocalSvcAddress session tbl => LocalDistinct cfg hs session tbl
  | .upstreamTable _ peerIp tbl =>
    ∀ up ∈ populateToHostInfo (validateUrls peerIp tbl),
      (∀ loc, LocalService hs loc → sameService cfg up loc = false) →
      ∀ loc, LocalService hs loc → ¬ Duplicate cfg up loc
  | _ => True

/-! ## §2. What is taken out of a table from above. -/

variable {svc : CFdbSvcAddress} {cfg : HsConfig}

theorem mem_removeDuplicateService {original duplicate : List CFdbSvcAddress} :
    svc ∈ removeDuplicateService cfg original duplicate
      ↔ svc ∈ original ∧ ∀ dup ∈ duplicate, sameService cfg svc dup = false := by
  unfold removeDuplicateService
  rw [List.mem_filter, Bool.not_eq_true', List.any_eq_false]
  simp only [Bool.not_eq_true]

/-- A walk over the local hosts. -/
theorem mem_foldl_removeDuplicateService (hosts : List (SessionPtr × CLocalHostInfo)) :
    ∀ svcs, svc ∈ hosts.foldl (fun svcs e => removeDuplicateService cfg svcs e.2.mSvcAddrTbl) svcs
      ↔ svc ∈ svcs ∧ ∀ e ∈ hosts, ∀ loc ∈ e.2.mSvcAddrTbl, sameService cfg svc loc = false := by
  induction hosts with
  | nil =>
    intro svcs
    simp
  | cons e hosts ih =>
    intro svcs
    rw [foldl_cons, ih, mem_removeDuplicateService, forall_mem_cons, and_assoc]

/-- **What is left of a table from above**: the services that no local host offers. -/
theorem mem_upstreamSvcTable {hs : HostServer} {tbl : ExportableSvcAddress} :
    svc ∈ upstreamSvcTable cfg hs.mLocalHostTbl tbl
      ↔ svc ∈ populateToHostInfo tbl
        ∧ ∀ loc, LocalService hs loc → sameService cfg svc loc = false := by
  unfold upstreamSvcTable
  rw [foldl_eq_foldl_toList, mem_foldl_removeDuplicateService]
  apply and_congr_right
  intro _
  constructor
  · intro hall loc hloc
    obtain ⟨session, host, hhost, hmem⟩ := hloc
    exact hall (session, host) (mem_toList_iff_getElem?_eq_some.mpr hhost) loc hmem
  · intro hall e he loc hmem
    exact hall loc ⟨e.1, e.2, mem_toList_iff_getElem?_eq_some.mp he, hmem⟩

/-! ## §3. One event. -/

section Step

variable {cfg : HsConfig} {hs hs' : HostServer}

/-- Fewer services, no new duplicates. -/
theorem NoDuplicates.mono (h : NoDuplicates cfg hs)
    (hlocal : ∀ svc, LocalService hs' svc → LocalService hs svc)
    (hupstream : ∀ svc, UpstreamService hs' svc → UpstreamService hs svc) :
    NoDuplicates cfg hs' := by
  intro up loc hup hloc
  exact h up loc (hupstream up hup) (hlocal loc hloc)

variable {svc : CFdbSvcAddress} {session : SessionPtr}

theorem localService_erase (htbl : hs'.mLocalHostTbl = hs.mLocalHostTbl.erase session)
    (h : LocalService hs' svc) : LocalService hs svc := by
  obtain ⟨s, host, hhost, hmem⟩ := h
  rw [htbl, get_erase] at hhost
  split at hhost
  · cases hhost
  · exact ⟨s, host, hhost, hmem⟩

/-- A host that registers keeps the services that it had. -/
theorem localService_register {req : FdbMsgHostRegisterReq} {tokens : List Token}
    (h : LocalService (onRegisterLocalHostReq cfg hs session req tokens) svc) :
    LocalService hs svc := by
  obtain ⟨s, host, hhost, hmem⟩ := h
  unfold onRegisterLocalHostReq at hhost
  rw [get_upsert] at hhost
  by_cases hs' : session = s
  · rw [if_pos hs', some.injEq] at hhost
    rw [← hhost] at hmem
    cases hold : hs.mLocalHostTbl[session]? with
    | none =>
      rw [hold] at hmem
      cases hmem
    | some old =>
      rw [hold] at hmem
      exact ⟨session, old, hold, hmem⟩
  · rw [if_neg hs'] at hhost
    exact ⟨s, host, hhost, hmem⟩

/-- Posting leaves the services from above as they are. -/
theorem upstreamService_post (cfg : HsConfig) (hs : HostServer) (svc : CFdbSvcAddress) :
    UpstreamService (postToUpstreamHost cfg hs) svc ↔ UpstreamService hs svc := by
  have hsame : ∀ (proxy : CInterHostProxy) tbl,
      (proxy.postSvcTable tbl).mSvcAddrTbl = proxy.mSvcAddrTbl := by
    intro proxy tbl
    unfold CInterHostProxy.postSvcTable
    split
    · rfl
    · rfl
  constructor
  · intro h
    obtain ⟨url, proxy, hproxy, hmem⟩ := h
    rw [get_postToUpstreamHost] at hproxy
    obtain ⟨old, hold, rfl⟩ := map_eq_some_iff.mp hproxy
    rw [hsame] at hmem
    exact ⟨url, old, hold, hmem⟩
  · intro h
    obtain ⟨url, proxy, hproxy, hmem⟩ := h
    refine ⟨url, proxy.postSvcTable (hs.upstreamTbl cfg), ?_, ?_⟩
    · rw [get_postToUpstreamHost, hproxy]
      rfl
    · rw [hsame]
      exact hmem

/-- A proxy gets another table. -/
theorem upstreamService_insert {url : Text} {proxy : CInterHostProxy}
    (h : UpstreamService { hs with mHostProxyTbl := hs.mHostProxyTbl.insert url proxy } svc) :
    svc ∈ proxy.mSvcAddrTbl ∨ UpstreamService hs svc := by
  obtain ⟨u, p, hp, hmem⟩ := h
  rw [get_insert] at hp
  by_cases hu : url = u
  · rw [if_pos hu, some.injEq] at hp
    rw [← hp] at hmem
    exact .inl hmem
  · rw [if_neg hu] at hp
    exact .inr ⟨u, p, hp, hmem⟩

section

variable (h : NoDuplicates cfg hs)

include h

/-- A proxy that keeps its table. -/
theorem noDuplicates_proxy {url : Text} {proxy proxy' : CInterHostProxy}
    (hproxy : hs.mHostProxyTbl[url]? = some proxy)
    (hsvcs : proxy'.mSvcAddrTbl = proxy.mSvcAddrTbl) :
    NoDuplicates cfg { hs with mHostProxyTbl := hs.mHostProxyTbl.insert url proxy' } := by
  refine h.mono (fun svc hsvc => hsvc) ?_
  intro svc hsvc
  rcases upstreamService_insert hsvc with hmem | hold
  · rw [hsvcs] at hmem
    exact ⟨url, proxy, hproxy, hmem⟩
  · exact hold

/-- **A table of a local host**: it makes no duplicates exactly if it offers nothing that is listed
from above. -/
theorem noDuplicates_updateLocalSvcTable_iff (session : SessionPtr) (info : CLocalHostInfo)
    (peerIp : Text) (tbl : ExportableSvcAddress) :
    NoDuplicates cfg (updateLocalSvcTable cfg hs session info peerIp tbl)
      ↔ ∀ up, UpstreamService hs up → ∀ loc ∈ localSvcTable cfg peerIp tbl,
        ¬ Duplicate cfg up loc := by
  let changed : HostServer := broadcastToDownstreamHost cfg { hs with
    mLocalHostTbl := hs.mLocalHostTbl.insert session
      { info with mSvcAddrTbl := localSvcTable cfg peerIp tbl } }
  have hup : ∀ svc, UpstreamService (updateLocalSvcTable cfg hs session info peerIp tbl) svc
      ↔ UpstreamService hs svc := upstreamService_post cfg changed
  constructor
  · intro hnone up hupstream loc hloc
    refine hnone up loc ((hup up).mpr hupstream)
      ⟨session, { info with mSvcAddrTbl := localSvcTable cfg peerIp tbl }, ?_, hloc⟩
    show (hs.mLocalHostTbl.insert session _)[session]? = _
    rw [get_insert, if_pos rfl]
  · intro hdistinct up loc hupstream hloc
    obtain ⟨s, host, hhost, hmem⟩ := hloc
    replace hhost : (hs.mLocalHostTbl.insert session
      { info with mSvcAddrTbl := localSvcTable cfg peerIp tbl })[s]? = some host := hhost
    rw [get_insert] at hhost
    by_cases hs' : session = s
    · rw [if_pos hs', some.injEq] at hhost
      rw [← hhost] at hmem
      exact hdistinct up ((hup up).mp hupstream) loc hmem
    · -- the table of another host
      rw [if_neg hs'] at hhost
      exact h up loc ((hup up).mp hupstream) ⟨s, host, hhost, hmem⟩

/-- **A table from above**: it makes no duplicates exactly if none of its services that are left
is one. -/
theorem noDuplicates_updateUpstreamSvcTable_iff (url : Text) (proxy : CInterHostProxy)
    (tbl : ExportableSvcAddress) :
    NoDuplicates cfg (updateUpstreamSvcTable cfg hs url proxy tbl)
      ↔ ∀ up ∈ populateToHostInfo tbl,
        (∀ loc, LocalService hs loc → sameService cfg up loc = false) →
        ∀ loc, LocalService hs loc → ¬ Duplicate cfg up loc := by
  constructor
  · intro hnone up hup hleft loc hloc
    refine hnone up loc ⟨url, { proxy with
      mSvcAddrTbl := upstreamSvcTable cfg hs.mLocalHostTbl tbl }, ?_, ?_⟩ hloc
    · show (hs.mHostProxyTbl.insert url _)[url]? = _
      rw [get_insert, if_pos rfl]
    · exact mem_upstreamSvcTable.mpr ⟨hup, hleft⟩
  · intro hdistinct up loc hup hloc
    rcases upstreamService_insert hup with hmem | hold
    · obtain ⟨hup, hleft⟩ := mem_upstreamSvcTable.mp hmem
      exact hdistinct up hup hleft loc hloc
    · exact h up loc hold hloc

/-- A domain below makes no duplicates: its services are on neither side. -/
theorem noDuplicates_updateDomainSvcTable (session : SessionPtr) (info : CExternalDomainInfo)
    (peerIp : Text) (tbl : ExportableSvcAddress) :
    NoDuplicates cfg (updateDomainSvcTable cfg hs session info peerIp tbl) := by
  refine h.mono (fun svc hsvc => hsvc) ?_
  intro svc hsvc
  have hpost := (upstreamService_post cfg _ svc).mp hsvc
  exact hpost

/-- The end of a session makes no duplicates. -/
theorem noDuplicates_onOffline (session : SessionPtr) :
    NoDuplicates cfg (onOffline cfg hs session) := by
  unfold onOffline
  split
  · refine h.mono (fun svc hsvc => localService_erase rfl hsvc) ?_
    intro svc hsvc
    have hpost := (upstreamService_post cfg _ svc).mp hsvc
    exact hpost
  · split
    · exact h
    · exact h

/-- A host that is ready, or posts its services. -/
theorem noDuplicates_local_iff {session : SessionPtr} {ips : SessionIps}
    {tbl : ExportableSvcAddress} {info info' : CLocalHostInfo}
    (hsession : hs.sessions[session]? = some ips) (hinfo : hs.mLocalHostTbl[session]? = some info) :
    NoDuplicates cfg (updateLocalSvcTable cfg hs session info' ips.peerIp tbl)
      ↔ LocalDistinct cfg hs session tbl := by
  rw [noDuplicates_updateLocalSvcTable_iff h]
  unfold LocalDistinct
  rw [hinfo, hsession]
  constructor
  · intro hall _ ips' hips
    rw [← some.inj hips]
    exact hall
  · intro hall
    exact hall (some_ne_none info) ips rfl

/-- **One event** keeps the two sides apart exactly if it is distinct. -/
theorem noDuplicates_step_iff {e : Event} (hstep : step cfg hs e = some hs') :
    NoDuplicates cfg hs' ↔ Distinct cfg hs e := by
  cases e with
  | online ips =>
    cases hstep
    exact iff_of_true h trivial
  | offline session =>
    obtain ⟨ips, -, rfl⟩ := map_eq_some_iff.mp hstep
    refine iff_of_true (noDuplicates_onOffline ?_ session) trivial
    exact h
  | registerLocalHost session req tokens =>
    obtain ⟨ips, -, rfl⟩ := map_eq_some_iff.mp hstep
    exact iff_of_true (h.mono (fun svc hsvc => localService_register hsvc) fun svc hsvc => hsvc)
      trivial
  | registerExternalDomain | subscribeHostOnline =>
    obtain ⟨ips, -, rfl⟩ := map_eq_some_iff.mp hstep
    exact iff_of_true h trivial
  | unregisterLocalHost session ip =>
    obtain ⟨ips, -, rfl⟩ := map_eq_some_iff.mp hstep
    refine iff_of_true ?_ trivial
    unfold onUnregisterLocalHostReq
    split
    · exact h
    · exact h.mono (fun svc hsvc => localService_erase rfl hsvc) fun svc hsvc => hsvc
  | localHostReady session items tbl =>
    obtain ⟨ips, hsession, rfl⟩ := map_eq_some_iff.mp hstep
    unfold onLocalHostReady
    cases hinfo : hs.mLocalHostTbl[session]? with
    | none =>
      refine iff_of_true h ?_
      intro hne
      exact absurd hinfo hne
    | some info => exact noDuplicates_local_iff h hsession hinfo
  | postLocalSvcAddress session tbl =>
    obtain ⟨ips, hsession, rfl⟩ := map_eq_some_iff.mp hstep
    unfold onPostLocalSvcAddress
    cases hinfo : hs.mLocalHostTbl[session]? with
    | none =>
      refine iff_of_true h ?_
      intro hne
      exact absurd hinfo hne
    | some info => exact noDuplicates_local_iff h hsession hinfo
  | externalHostReady session tbl =>
    obtain ⟨ips, -, rfl⟩ := map_eq_some_iff.mp hstep
    refine iff_of_true ?_ trivial
    unfold onExternalHostReady
    split
    · exact h
    · exact noDuplicates_updateDomainSvcTable h session _ ips.peerIp tbl
  | postDomainSvcAddress session tbl =>
    obtain ⟨ips, -, rfl⟩ := map_eq_some_iff.mp hstep
    refine iff_of_true ?_ trivial
    unfold onPostDomainSvcAddress
    split
    · exact h
    · exact noDuplicates_updateDomainSvcTable h session _ ips.peerIp tbl
  | upstreamOnline | upstreamRegistered =>
    obtain ⟨proxy, hfilter, rfl⟩ := map_eq_some_iff.mp hstep
    obtain ⟨hproxy, -⟩ := filter_eq_some_iff.mp hfilter
    exact iff_of_true (noDuplicates_proxy h hproxy rfl) trivial
  | upstreamTable url peerIp tbl =>
    obtain ⟨proxy, -, rfl⟩ := map_eq_some_iff.mp hstep
    exact noDuplicates_updateUpstreamSvcTable_iff h url proxy _
  | upstreamOffline url =>
    obtain ⟨proxy, -, rfl⟩ := map_eq_some_iff.mp hstep
    refine iff_of_true ?_ trivial
    rw [noDuplicates_updateUpstreamSvcTable_iff h]
    intro up hup
    cases hup

end

end Step

/-! ## §4. The run. -/

/-- **Local or upstream, not both.**  In a run of the host server no service is listed both as
local and as upstream, after every event, exactly if every event is distinct. -/
theorem noDuplicates_iff (cfg : HsConfig) (urls : List Text) (es : List Event) {hs : HostServer}
    (hrun : run (step cfg) (HostServer.online urls) es = some hs) :
    Throughout (step cfg) (NoDuplicates cfg) (HostServer.online urls) es
      ↔ Along (step cfg) (Distinct cfg) (HostServer.online urls) es := by
  refine throughout_iff ?_ es _ hs ?_ hrun
  · intro s e s' h hstep
    exact noDuplicates_step_iff h hstep
  · intro up loc _ hloc
    obtain ⟨session, host, hhost, -⟩ := hloc
    simp [HostServer.online] at hhost

/-- A host server above connects, and sends the service of `hostComes` as its own. -/
def upstreamSends : List Event :=
  [.upstreamOnline [117], .upstreamTable [117] [] [exportedService]]

/-- The local host comes first: its service is taken out of the table from above. -/
theorem noDuplicates_iff_local_first :
    Throughout (step plainHostServer) (NoDuplicates plainHostServer) (HostServer.online [[117]])
      (hostComes ++ upstreamSends) := by
  obtain ⟨hs, hrun⟩ : ∃ hs, run (step plainHostServer) (HostServer.online [[117]])
      (hostComes ++ upstreamSends) = some hs := isSome_iff_exists.mp (by decide +kernel)
  have hlisted : (run (step plainHostServer) (HostServer.online [[117]])
      (hostComes ++ [.upstreamOnline [117]])).map (fun hs => hs.mLocalHostTbl[0]?.map fun host =>
        host.mSvcAddrTbl) = some (some (localSvcTable plainHostServer [] [exportedService])) := by
    decide +kernel
  refine (noDuplicates_iff plainHostServer [[117]] _ hrun).mpr ⟨trivial, fun s₁ h₁ => ⟨trivial,
    fun s₂ h₂ => ⟨?_, fun s₃ h₃ => ⟨trivial, fun s₄ h₄ => ⟨?_, fun _ _ => trivial⟩⟩⟩⟩⟩
  · -- nothing is listed from above yet
    obtain ⟨_, -, rfl⟩ := map_eq_some_iff.mp h₂
    cases h₁
    intro _ ips _ up hup
    obtain ⟨url, proxy, hproxy, hmem⟩ := hup
    rw [get_online [[117]] url proxy hproxy] at hmem
    cases hmem
  · have hlast : run (step plainHostServer) (HostServer.online [[117]])
        (hostComes ++ [.upstreamOnline [117]]) = some s₄ := by
      simp only [hostComes, cons_append, nil_append, run, h₁, h₂, h₃, h₄,
        bind_some]
    rw [hlast, map_some, some.injEq] at hlisted
    obtain ⟨host, hhost, htbl⟩ := map_eq_some_iff.mp hlisted
    intro up hup hleft
    obtain rfl := mem_singleton.mp hup
    have hoffered : { exportedService.populateToHostInfo with mDomainName := [104] }
        ∈ host.mSvcAddrTbl := by
      rw [htbl]
      decide +kernel
    exact absurd (hleft _ ⟨0, host, hhost, hoffered⟩) (by decide +kernel)

/-- The table from above comes first: the service is listed on both sides. -/
theorem local_table_listed_twice :
    ∃ hs, run (step plainHostServer) (HostServer.online [[117]]) (upstreamSends ++ hostComes)
        = some hs
      ∧ ¬ NoDuplicates plainHostServer hs := by
  have htbls : (run (step plainHostServer) (HostServer.online [[117]])
      (upstreamSends ++ hostComes)).map (fun hs =>
        (hs.mHostProxyTbl[([117] : Text)]?.map fun proxy => proxy.mSvcAddrTbl,
          hs.mLocalHostTbl[0]?.map fun host => host.mSvcAddrTbl))
        = some (some (populateToHostInfo [exportedService]),
            some (localSvcTable plainHostServer [] [exportedService])) := by decide +kernel
  obtain ⟨hs, hrun, htbls⟩ := map_eq_some_iff.mp htbls
  obtain ⟨hup, hloc⟩ := Prod.mk.inj htbls
  obtain ⟨proxy, hproxy, hup⟩ := map_eq_some_iff.mp hup
  obtain ⟨host, hhost, hloc⟩ := map_eq_some_iff.mp hloc
  refine ⟨hs, hrun, fun hnone => ?_⟩
  refine hnone exportedService.populateToHostInfo
    { exportedService.populateToHostInfo with mDomainName := [104] } ⟨[117], proxy, hproxy, ?_⟩
    ⟨0, host, hhost, ?_⟩ ?_
  · rw [hup]
    decide +kernel
  · rw [hloc]
    decide +kernel
  · -- one name, one URL
    exact ⟨rfl, _, mem_singleton.mpr rfl, _, mem_singleton.mpr rfl, .inl rfl⟩

end Fdbus.Host

/-
  Fdbus.Host.Synchronised — are the tables that were sent last those that would be built now?

  Three tables are derived from what the host server knows, and every handler has to send those
  again that its change affects.  Most handlers do.  Four do not:

    * a host that registers again, and a domain that does, is not ready any more, so that its
      services drop out of the tables, and nothing is sent,
    * a host that unregisters is erased, and nothing is sent,
    * a domain whose session ends is erased, and the host servers above are not told.

  `Refreshed` says when this does no harm: if of the services in question no address is admitted
  to a table that was already sent.  `synchronised_iff` — the tables are synchronised throughout
  a run exactly if all its events are refreshed.
-/
import Fdbus.Host.HostServer
import Fdbus.Library.Run

namespace Fdbus.Host

open Fdbus.OrderedMap Fdbus.Security Fdbus.Server Fdbus.Subscribe Fdbus.Run List Option Std.ExtTreeMap

/-! ## §1. What was sent and what would be built. -/

section Defs

variable (cfg : HsConfig) (hs : HostServer)

/-- The table for the host servers above, as it would be built now. -/
def HostServer.upstreamTbl : ExportableSvcAddress :=
  buildAddrTblForUpstreamHost cfg.toExportLimits hs.toHostTables

/-- The table for local hosts, as it would be built now. -/
def HostServer.localTbl : ExportableSvcAddress :=
  buildAddrTblForLocalHost cfg.toExportLimits hs.toHostTables

/-- The table for the domains below, as it would be built now. -/
def HostServer.downstreamTbl : ExportableSvcAddress :=
  buildAddrTblForDownstreamHost cfg.toExportLimits hs.toHostTables

/-- The tables that were sent last are those that would be built now. -/
structure Synced : Prop where
  toUpstream : ∀ (url : Text) (proxy : CInterHostProxy) tbl, hs.mHostProxyTbl[url]? = some proxy →
    proxy.posted = some tbl → tbl = hs.upstreamTbl cfg
  toLocal : ∀ tbl, hs.lastLocal = some tbl → tbl = hs.localTbl cfg
  toDownstream : ∀ tbl, hs.lastDownstream = some tbl → tbl = hs.downstreamTbl cfg

/-- A table was posted to a host server above that is still connected. -/
def HostServer.Posted : Prop :=
  ∃ (url : Text) (proxy : CInterHostProxy), hs.mHostProxyTbl[url]? = some proxy
    ∧ proxy.posted ≠ none

/-- A table is posted on a connection only. -/
def PostedOk : Prop :=
  ∀ (url : Text) (proxy : CInterHostProxy), hs.mHostProxyTbl[url]? = some proxy →
    proxy.posted ≠ none → proxy.connected = true

/-- None of the addresses of the services is admitted. -/
def NoneExported (exportableLevel : Int) (svcs : List CFdbSvcAddress) : Prop :=
  ∀ svc ∈ svcs, ∀ item ∈ svc.mAddrTbl, admits exportableLevel item.mExportableLevel = false

/-- The services do not matter to the host servers above: none was sent a table, or none of their
addresses is exported there. -/
def SilentUpstream (svcs : List CFdbSvcAddress) : Prop :=
  hs.Posted → NoneExported (-cfg.mMinUpstreamExportableLevel) svcs

/-- The services do not matter to the local hosts. -/
def SilentLocal (svcs : List CFdbSvcAddress) : Prop :=
  hs.lastLocal ≠ none → NoneExported cfg.mMaxDomainExportableLevel svcs

/-- The services do not matter to the domains below. -/
def SilentDownstream (svcs : List CFdbSvcAddress) : Prop :=
  hs.lastDownstream ≠ none → NoneExported cfg.mMaxDomainExportableLevel svcs

/-- What a host contributes: nothing unless it is ready. -/
def CLocalHostInfo.services (info : CLocalHostInfo) : List CFdbSvcAddress :=
  if info.mReady then info.mSvcAddrTbl else []

/-- What a domain contributes: nothing unless it is ready. -/
def CExternalDomainInfo.services (info : CExternalDomainInfo) : List CFdbSvcAddress :=
  if info.mReady then info.mSvcAddrTbl else []

/-- The event takes nothing out of a table that was sent, or the table is sent again. -/
def Refreshed : Event → Prop
  | .registerLocalHost session _ _ =>
    ∀ info, hs.mLocalHostTbl[session]? = some info →
      SilentUpstream cfg hs info.services ∧ SilentDownstream cfg hs info.services
  | .unregisterLocalHost _ ip =>
    ∀ session info, hs.findHost ip = some (session, info) →
      SilentUpstream cfg hs info.services ∧ SilentDownstream cfg hs info.services
  | .registerExternalDomain session _ _ =>
    ∀ info, hs.mExternalDomainTbl[session]? = some info →
      SilentUpstream cfg hs info.services ∧ SilentLocal cfg hs info.services
        ∧ SilentDownstream cfg hs info.services
  | .offline session =>
    hs.mLocalHostTbl[session]? = none →
      ∀ info, hs.mExternalDomainTbl[session]? = some info → SilentUpstream cfg hs info.services
  | _ => True

end Defs

/-! ## §2. The tables and the three sides. -/

theorem exported_eq_nil_iff (exportableLevel : Int) (svcs : List CFdbSvcAddress) :
    exported exportableLevel svcs = [] ↔ NoneExported exportableLevel svcs := by
  unfold exported
  rw [filterMap_eq_nil_iff]
  exact forall_congr' fun svc => forall_congr' fun _ => exportedList_eq_none_iff _ svc

open HostServer CExternalDomainInfo CInterHostProxy

section Sides

variable {cfg : HsConfig} {hs hs' : HostServer}

theorem upstreamTbl_eq : hs.upstreamTbl cfg
    = exported (-cfg.mMinUpstreamExportableLevel) hs.downstreamServices
      ++ exported (-cfg.mMinUpstreamExportableLevel) hs.localServices := by
  unfold upstreamTbl
  rw [buildAddrTblForUpstreamHost_eq, exported_append]

theorem localTbl_eq : hs.localTbl cfg
    = exported cfg.mMaxDomainExportableLevel hs.upstreamServices
      ++ exported cfg.mMaxDomainExportableLevel hs.downstreamServices := by
  unfold localTbl
  rw [buildAddrTblForLocalHost_eq, exported_append]

theorem downstreamTbl_eq : hs.downstreamTbl cfg
    = exported cfg.mMaxDomainExportableLevel hs.upstreamServices
      ++ exported cfg.mMaxDomainExportableLevel hs.downstreamServices
      ++ exported cfg.mMaxDomainExportableLevel hs.localServices := by
  unfold downstreamTbl
  rw [buildAddrTblForDownstreamHost_eq, exported_append, exported_append]

/-- A walk over a map in which one value stops to contribute: what is exported stays the same
exactly if nothing of it was. -/
theorem exported_flatMap_iff {K V : Type} [Ord K] [Std.TransOrd K] [Std.LawfulEqOrd K]
    {m m' : Map K V} {k : K} (h : ∀ k', k' ≠ k → m'[k']? = m[k']?) (f : V → List CFdbSvcAddress)
    (hnone : m'[k]?.elim [] f = []) (exportableLevel : Int) :
    exported exportableLevel (m'.toList.flatMap fun e => f e.2)
        = exported exportableLevel (m.toList.flatMap fun e => f e.2)
      ↔ ∀ v, m[k]? = some v → NoneExported exportableLevel (f v) := by
  obtain ⟨l₁, l₂, hm, hm'⟩ := flatMap_split h f
  rw [hm, hm', hnone, append_nil, exported_append, exported_append, exported_append,
    append_left_inj, self_eq_append_right]
  cases m[k]? with
  | none =>
    refine iff_of_true rfl ?_
    intro v hv
    cases hv
  | some v =>
    rw [elim_some, exported_eq_nil_iff]
    constructor
    · intro hv v' hv'
      rwa [← some.inj hv']
    · intro hv
      exact hv v rfl

/-- The services from above stay the same when a proxy keeps its table. -/
theorem upstreamServices_insert {url : Text} {proxy proxy' : CInterHostProxy}
    (hproxy : hs.mHostProxyTbl[url]? = some proxy)
    (hsame : proxy'.mSvcAddrTbl = proxy.mSvcAddrTbl) :
    HostTables.upstreamServices { hs.toHostTables with
      mHostProxyTbl := hs.mHostProxyTbl.insert url proxy' } = hs.upstreamServices := by
  have hothers : ∀ u, u ≠ url →
      (hs.mHostProxyTbl.insert url proxy')[u]? = hs.mHostProxyTbl[u]? := by
    intro u hu
    rw [get_insert, if_neg (hu.symm)]
  obtain ⟨l₁, l₂, hm, hm'⟩ := flatMap_split hothers mSvcAddrTbl
  rw [get_insert, if_pos rfl, elim_some, hsame] at hm'
  rw [hproxy, elim_some] at hm
  exact hm'.trans hm.symm

end Sides

/-! ## §3. Handlers that send a table again. -/

section Sending

variable {cfg : HsConfig} {hs : HostServer}

theorem get_postToUpstreamHost (url : Text) :
    (postToUpstreamHost cfg hs).mHostProxyTbl[url]?
      = hs.mHostProxyTbl[url]?.map (postSvcTable (hs.upstreamTbl cfg)) := by
  unfold postToUpstreamHost
  rw [Std.ExtTreeMap.getElem?_map]
  rfl

theorem upstreamServices_post :
    (postToUpstreamHost cfg hs).upstreamServices = hs.upstreamServices := by
  unfold HostTables.upstreamServices postToUpstreamHost
  rw [Std.ExtTreeMap.toList_map, List.flatMap_map]
  congr 1
  funext e
  show (postSvcTable _ e.2).mSvcAddrTbl = e.2.mSvcAddrTbl
  unfold postSvcTable
  split
  · rfl
  · rfl

/-- Posting changes none of the tables. -/
theorem tbl_post (cfg : HsConfig) (hs : HostServer) :
    (postToUpstreamHost cfg hs).upstreamTbl cfg = hs.upstreamTbl cfg
      ∧ (postToUpstreamHost cfg hs).localTbl cfg = hs.localTbl cfg
      ∧ (postToUpstreamHost cfg hs).downstreamTbl cfg = hs.downstreamTbl cfg := by
  refine ⟨?_, ?_, ?_⟩
  · rfl
  · rw [localTbl_eq, localTbl_eq, upstreamServices_post]
    rfl
  · rw [downstreamTbl_eq, downstreamTbl_eq, upstreamServices_post]
    rfl

/-- After posting, what was posted is the table as it is. -/
theorem posted_post (hposted : PostedOk hs) {url : Text} {proxy : CInterHostProxy}
    {tbl : ExportableSvcAddress}
    (hproxy : (postToUpstreamHost cfg hs).mHostProxyTbl[url]? = some proxy)
    (htbl : proxy.posted = some tbl) : tbl = hs.upstreamTbl cfg := by
  rw [get_postToUpstreamHost] at hproxy
  obtain ⟨old, hold, rfl⟩ := map_eq_some_iff.mp hproxy
  unfold postSvcTable at htbl
  by_cases hconnected : old.connected = true
  · rw [if_pos hconnected] at htbl
    exact (some.inj htbl).symm
  · -- nothing was ever posted where there is no connection
    rw [if_neg hconnected] at htbl
    refine absurd (hposted url old hold ?_) hconnected
    rw [htbl]
    exact some_ne_none tbl

theorem postedOk_post (cfg : HsConfig) (hs : HostServer) (hposted : PostedOk hs) :
    PostedOk (postToUpstreamHost cfg hs) := by
  intro url proxy hproxy hne
  rw [get_postToUpstreamHost] at hproxy
  obtain ⟨old, hold, rfl⟩ := map_eq_some_iff.mp hproxy
  unfold postSvcTable at hne ⊢
  by_cases hconnected : old.connected = true
  · rw [if_pos hconnected]
    exact hconnected
  · rw [if_neg hconnected] at hne ⊢
    exact hposted url old hold hne

/-- A change of table 1 is sent to those that it concerns. -/
theorem synced_localSvcTableChanged (hposted : PostedOk hs)
    (hlocal : ∀ tbl, hs.lastLocal = some tbl → tbl = hs.localTbl cfg) :
    Synced cfg (broadcastOnLocalSvcTableChanged cfg hs) := by
  obtain ⟨hup, hloc, hdown⟩ := tbl_post cfg (broadcastToDownstreamHost cfg hs)
  refine ⟨?_, ?_, ?_⟩
  · intro url proxy tbl hproxy htbl
    exact posted_post hposted hproxy htbl
  · intro tbl htbl
    unfold broadcastOnLocalSvcTableChanged
    rw [hloc]
    exact hlocal tbl htbl
  · intro tbl htbl
    unfold broadcastOnLocalSvcTableChanged
    rw [hdown]
    exact (some.inj htbl).symm

/-- A change of table 2 is sent to everybody: to local hosts first, and then as one of table 1. -/
theorem synced_domainSvcTableChanged (hposted : PostedOk hs) :
    Synced cfg (broadcastOnDomainSvcTableChanged cfg hs) :=
  synced_localSvcTableChanged (show PostedOk (broadcastToLocalHost cfg hs) from hposted)
    fun _ htbl => (some.inj htbl).symm

/-- A change of table 3 is sent to local hosts and to the domains below; the host servers above
have to have the right table already. -/
theorem synced_upstreamSvcTableChanged_iff :
    Synced cfg (broadcastOnUpstreamSvcTableChanged cfg hs)
      ↔ ∀ (url : Text) (proxy : CInterHostProxy) tbl, hs.mHostProxyTbl[url]? = some proxy →
        proxy.posted = some tbl → tbl = hs.upstreamTbl cfg := by
  constructor
  · intro h
    exact h.toUpstream
  · intro h
    refine ⟨h, ?_, ?_⟩
    · intro tbl htbl
      exact (some.inj htbl).symm
    · intro tbl htbl
      exact (some.inj htbl).symm

end Sending

/-! ## §4. Handlers that do not. -/

section Dropping

variable {cfg : HsConfig} {hs hs' : HostServer}

/-- The table of the host servers above after a change that is not posted. -/
theorem posted_iff (h : Synced cfg hs) (tbl' : ExportableSvcAddress) :
    (∀ (url : Text) (proxy : CInterHostProxy) tbl, hs.mHostProxyTbl[url]? = some proxy →
        proxy.posted = some tbl → tbl = tbl')
      ↔ (hs.Posted → tbl' = hs.upstreamTbl cfg) := by
  constructor
  · intro hall hposted
    obtain ⟨url, proxy, hproxy, hne⟩ := hposted
    obtain ⟨tbl, htbl⟩ := ne_none_iff_exists'.mp hne
    rw [← hall url proxy tbl hproxy htbl]
    exact h.toUpstream url proxy tbl hproxy htbl
  · intro hsame url proxy tbl hproxy htbl
    have hposted : hs.Posted := ⟨url, proxy, hproxy, by rw [htbl]; exact some_ne_none tbl⟩
    rw [hsame hposted]
    exact h.toUpstream url proxy tbl hproxy htbl

/-- One of the two broadcasts after a change that is not sent. -/
theorem broadcast_iff {last : Option ExportableSvcAddress} {tbl : ExportableSvcAddress}
    (h : ∀ t, last = some t → t = tbl) (tbl' : ExportableSvcAddress) :
    (∀ t, last = some t → t = tbl') ↔ (last ≠ none → tbl' = tbl) := by
  constructor
  · intro hall hne
    obtain ⟨t, ht⟩ := ne_none_iff_exists'.mp hne
    rw [← hall t ht]
    exact h t ht
  · intro hsame t ht
    have hne : last ≠ none := by
      rw [ht]
      exact some_ne_none t
    rw [hsame hne]
    exact h t ht

variable (hs') in
/-- **A change that is not sent at all** keeps the tables synchronised exactly if those that were
sent do not change. -/
theorem synced_unsent_iff (h : Synced cfg hs) (hproxies : hs'.mHostProxyTbl = hs.mHostProxyTbl)
    (hlastLocal : hs'.lastLocal = hs.lastLocal)
    (hlastDownstream : hs'.lastDownstream = hs.lastDownstream) :
    Synced cfg hs' ↔ (hs.Posted → hs'.upstreamTbl cfg = hs.upstreamTbl cfg)
      ∧ (hs.lastLocal ≠ none → hs'.localTbl cfg = hs.localTbl cfg)
      ∧ (hs.lastDownstream ≠ none → hs'.downstreamTbl cfg = hs.downstreamTbl cfg) := by
  rw [← posted_iff h, ← broadcast_iff h.toLocal, ← broadcast_iff h.toDownstream]
  constructor
  · intro h'
    refine ⟨?_, ?_, ?_⟩
    · rw [← hproxies]
      exact h'.toUpstream
    · rw [← hlastLocal]
      exact h'.toLocal
    · rw [← hlastDownstream]
      exact h'.toDownstream
  · intro h'
    refine ⟨?_, ?_, ?_⟩
    · rw [hproxies]
      exact h'.1
    · rw [hlastLocal]
      exact h'.2.1
    · rw [hlastDownstream]
      exact h'.2.2

/-- A local host is dropped and nothing is sent. -/
theorem synced_local_dropped_iff (h : Synced cfg hs) {session : SessionPtr}
    {tbl : Map SessionPtr CLocalHostInfo}
    (hothers : ∀ s, s ≠ session → tbl[s]? = hs.mLocalHostTbl[s]?)
    (hnone : tbl[session]?.elim [] CLocalHostInfo.services = []) (notified : List _) :
    Synced cfg { hs with mLocalHostTbl := tbl, notified := notified }
      ↔ ∀ info, hs.mLocalHostTbl[session]? = some info →
        SilentUpstream cfg hs info.services ∧ SilentDownstream cfg hs info.services := by
  let hs' : HostServer := { hs with mLocalHostTbl := tbl, notified := notified }
  have hup : hs'.upstreamServices = hs.upstreamServices := rfl
  have hdown : hs'.downstreamServices = hs.downstreamServices := rfl
  rw [synced_unsent_iff hs' h rfl rfl rfl, upstreamTbl_eq, upstreamTbl_eq,
    localTbl_eq, localTbl_eq, downstreamTbl_eq, downstreamTbl_eq, hup, hdown]
  have hiff := exported_flatMap_iff hothers CLocalHostInfo.services hnone
  change ∀ level, exported level hs'.localServices = exported level hs.localServices ↔ _ at hiff
  simp only [append_right_inj, hiff]
  constructor
  · intro hall info hinfo
    exact ⟨fun hposted => hall.1 hposted info hinfo, fun hlast => hall.2.2 hlast info hinfo⟩
  · intro hall
    exact ⟨fun hposted info hinfo => (hall info hinfo).1 hposted, fun _ => trivial,
      fun hlast info hinfo => (hall info hinfo).2 hlast⟩

/-- A domain is dropped and nothing is sent. -/
theorem synced_domain_dropped_iff (h : Synced cfg hs) {session : SessionPtr}
    {tbl : Map SessionPtr CExternalDomainInfo}
    (hothers : ∀ s, s ≠ session → tbl[s]? = hs.mExternalDomainTbl[s]?)
    (hnone : tbl[session]?.elim [] services = []) :
    Synced cfg { hs with mExternalDomainTbl := tbl }
      ↔ ∀ info, hs.mExternalDomainTbl[session]? = some info →
        SilentUpstream cfg hs info.services ∧ SilentLocal cfg hs info.services
          ∧ SilentDownstream cfg hs info.services := by
  let hs' : HostServer := { hs with mExternalDomainTbl := tbl }
  have hup : hs'.upstreamServices = hs.upstreamServices := rfl
  have hlocal : hs'.localServices = hs.localServices := rfl
  rw [synced_unsent_iff hs' h rfl rfl rfl, upstreamTbl_eq, upstreamTbl_eq,
    localTbl_eq, localTbl_eq, downstreamTbl_eq, downstreamTbl_eq, hup, hlocal]
  have hiff := exported_flatMap_iff hothers services hnone
  change ∀ level, exported level hs'.downstreamServices = exported level hs.downstreamServices ↔ _
    at hiff
  simp only [append_left_inj, append_right_inj, hiff]
  constructor
  · intro hall info hinfo
    exact ⟨fun hposted => hall.1 hposted info hinfo, fun hlast => hall.2.1 hlast info hinfo,
      fun hlast => hall.2.2 hlast info hinfo⟩
  · intro hall
    exact ⟨fun hposted info hinfo => (hall info hinfo).1 hposted,
      fun hlast info hinfo => (hall info hinfo).2.1 hlast,
      fun hlast info hinfo => (hall info hinfo).2.2 hlast⟩

end Dropping

/-! ## §5. The run. -/

section Step

variable {cfg : HsConfig} {hs hs' : HostServer}

/-- A session ends.  A domain that is dropped is taken back from everybody but the host servers
above. -/
theorem synced_onOffline_iff (hposted : PostedOk hs) (h : Synced cfg hs) (session : SessionPtr) :
    Synced cfg (onOffline cfg hs session) ↔ Refreshed cfg hs (.offline session) := by
  unfold onOffline
  show _ ↔ (hs.mLocalHostTbl[session]? = none → _)
  cases hlocal : hs.mLocalHostTbl[session]? with
  | some info =>
    refine iff_of_true ?_ ?_
    · exact synced_localSvcTableChanged hposted h.toLocal
    · intro hnone
      cases hnone
  | none =>
    simp only [forall_const]
    cases hdomain : hs.mExternalDomainTbl[session]? with
    | none =>
      refine iff_of_true h ?_
      intro info hinfo
      cases hinfo
    | some info =>
      let dropped : HostServer := { hs with
        mExternalDomainTbl := hs.mExternalDomainTbl.erase session }
      have hothers : ∀ s, s ≠ session →
          dropped.mExternalDomainTbl[s]? = hs.mExternalDomainTbl[s]? := by
        intro s hs
        rw [get_erase, if_neg (hs.symm)]
      have hnone : dropped.mExternalDomainTbl[session]?.elim [] services
          = [] := by
        rw [get_erase, if_pos rfl]
        rfl
      have hsame : dropped.localServices = hs.localServices := rfl
      show Synced cfg (broadcastOnUpstreamSvcTableChanged cfg dropped) ↔ _
      rw [synced_upstreamSvcTableChanged_iff]
      refine Iff.trans (posted_iff h (dropped.upstreamTbl cfg)) ?_
      rw [upstreamTbl_eq, upstreamTbl_eq, hsame, append_left_inj,
        show exported _ dropped.downstreamServices = exported _ hs.downstreamServices ↔ _
          from exported_flatMap_iff hothers services hnone _, hdomain]
      constructor
      · intro hall info hinfo hposted
        exact hall hposted info hinfo
      · intro hall hposted info hinfo
        exact hall info hinfo hposted

/-- A host unregisters. -/
theorem synced_unregisterLocalHost_iff (h : Synced cfg hs) (session : SessionPtr) (ip : Text) :
    Synced cfg (onUnregisterLocalHostReq hs ip)
      ↔ Refreshed cfg hs (.unregisterLocalHost session ip) := by
  unfold onUnregisterLocalHostReq
  show _ ↔ ∀ session info, hs.findHost ip = some (session, info) → _
  cases hfind : hs.findHost ip with
  | none =>
    refine iff_of_true h ?_
    intro s info hinfo
    cases hinfo
  | some e =>
    have hget := mem_toList_iff_getElem?_eq_some.mp (mem_of_find?_eq_some hfind)
    have hiff : Synced cfg { hs with
        mLocalHostTbl := hs.mLocalHostTbl.erase e.1
        notified := hs.notified ++ [broadcastHostOffline e.2] }
      ↔ ∀ info, hs.mLocalHostTbl[e.1]? = some info →
        SilentUpstream cfg hs info.services ∧ SilentDownstream cfg hs info.services := by
      refine synced_local_dropped_iff h ?_ ?_ _
      · intro s hne
        rw [get_erase, if_neg (hne.symm)]
      · rw [get_erase, if_pos rfl]
        rfl
    refine Iff.trans hiff ?_
    constructor
    · intro hall s info hinfo
      cases hinfo
      exact hall info hget
    · intro hall info hinfo
      rw [hget] at hinfo
      rw [← some.inj hinfo]
      exact hall e.1 e.2 rfl

section

variable (h : Synced cfg hs) {url : Text} {proxy proxy' : CInterHostProxy}
  (hproxy : hs.mHostProxyTbl[url]? = some proxy)

include h hproxy

/-- Table 3 is updated, by a proxy that was posted the same table as before or none. -/
theorem synced_updateUpstreamSvcTable
    (hsame : ∀ tbl, proxy'.posted = some tbl → proxy.posted = some tbl)
    (tbl : ExportableSvcAddress) : Synced cfg (updateUpstreamSvcTable cfg hs url proxy' tbl) := by
  unfold updateUpstreamSvcTable
  rw [synced_upstreamSvcTableChanged_iff]
  intro u p t hp ht
  show t = hs.upstreamTbl cfg
  obtain ⟨-, rfl⟩ | ⟨-, hp⟩ := of_get_insert hp
  · exact h.toUpstream url proxy t hproxy (hsame t ht)
  · exact h.toUpstream u p t hp ht

/-- A proxy is posted the table as it is, or nothing, and keeps the services from above. -/
theorem synced_proxy (hsvcs : proxy'.mSvcAddrTbl = proxy.mSvcAddrTbl)
    (hposted : ∀ tbl, proxy'.posted = some tbl → tbl = hs.upstreamTbl cfg) :
    Synced cfg { hs with mHostProxyTbl := hs.mHostProxyTbl.insert url proxy' } := by
  have hup := upstreamServices_insert hproxy hsvcs
  refine ⟨?_, ?_, ?_⟩
  · intro u p t hp ht
    show t = hs.upstreamTbl cfg
    obtain ⟨-, rfl⟩ | ⟨-, hp⟩ := of_get_insert hp
    · exact hposted t ht
    · exact h.toUpstream u p t hp ht
  · intro t ht
    rw [h.toLocal t ht, localTbl_eq, localTbl_eq, hup]
    rfl
  · intro t ht
    rw [h.toDownstream t ht, downstreamTbl_eq, downstreamTbl_eq, hup]
    rfl

end

section

variable (hposted : PostedOk hs)

include hposted

/-- A proxy that was posted a table is connected. -/
theorem postedOk_insert {url : Text} {proxy' : CInterHostProxy}
    (hproxy : proxy'.posted ≠ none → proxy'.connected = true) :
    PostedOk { hs with mHostProxyTbl := hs.mHostProxyTbl.insert url proxy' } := by
  intro u p hp hne
  obtain ⟨-, rfl⟩ | ⟨-, hp⟩ := of_get_insert hp
  · exact hproxy hne
  · exact hposted u p hp hne

theorem postedOk_updateLocalSvcTable (session : SessionPtr) (info : CLocalHostInfo)
    (peerIp : Text) (tbl : ExportableSvcAddress) :
    PostedOk (updateLocalSvcTable cfg hs session info peerIp tbl) :=
  postedOk_post cfg (broadcastToDownstreamHost cfg { hs with
    mLocalHostTbl := hs.mLocalHostTbl.insert session
      { info with mSvcAddrTbl := localSvcTable cfg peerIp tbl } }) hposted

theorem postedOk_updateDomainSvcTable (session : SessionPtr) (info : CExternalDomainInfo)
    (peerIp : Text) (tbl : ExportableSvcAddress) :
    PostedOk (updateDomainSvcTable cfg hs session info peerIp tbl) :=
  postedOk_post cfg (broadcastToDownstreamHost cfg (broadcastToLocalHost cfg { hs with
    mExternalDomainTbl := hs.mExternalDomainTbl.insert session
      { info with mSvcAddrTbl := populateToHostInfo (verifyUrls peerIp tbl) } })) hposted

theorem postedOk_onOffline (session : SessionPtr) : PostedOk (onOffline cfg hs session) := by
  unfold onOffline
  split
  · exact postedOk_post cfg _ hposted
  · split
    · exact hposted
    · exact hposted

/-- **One event**: tables are posted on connections only, and they stay synchronised exactly if the
event is refreshed. -/
theorem synced_step_iff {e : Event} (h : Synced cfg hs) (hstep : step cfg hs e = some hs') :
    PostedOk hs' ∧ (Synced cfg hs' ↔ Refreshed cfg hs e) := by
  cases e with
  | online ips =>
    cases hstep
    exact ⟨hposted, iff_of_true ⟨h.toUpstream, h.toLocal, h.toDownstream⟩ trivial⟩
  | offline session =>
    obtain ⟨ips, -, rfl⟩ := map_eq_some_iff.mp hstep
    let ended : HostServer := { hs with
      sessions := hs.sessions.erase session
      hostSubscribers := hs.hostSubscribers.filter (· ≠ session) }
    have hended : Synced cfg ended := ⟨h.toUpstream, h.toLocal, h.toDownstream⟩
    have hposted' : PostedOk ended := hposted
    exact ⟨postedOk_onOffline hposted' session, synced_onOffline_iff hposted' hended session⟩
  | registerLocalHost session req tokens =>
    obtain ⟨ips, -, rfl⟩ := map_eq_some_iff.mp hstep
    refine ⟨hposted, synced_local_dropped_iff h ?_ ?_ _⟩
    · intro s hne
      rw [get_upsert, if_neg (hne.symm)]
    · rw [get_upsert, if_pos rfl]
      rfl
  | registerExternalDomain session domainName tokens =>
    obtain ⟨ips, -, rfl⟩ := map_eq_some_iff.mp hstep
    refine ⟨hposted, synced_domain_dropped_iff h ?_ ?_⟩
    · intro s hne
      rw [get_upsert, if_neg (hne.symm)]
    · rw [get_upsert, if_pos rfl]
      rfl
  | unregisterLocalHost session ip =>
    obtain ⟨ips, -, rfl⟩ := map_eq_some_iff.mp hstep
    refine ⟨?_, synced_unregisterLocalHost_iff h session ip⟩
    unfold onUnregisterLocalHostReq
    split
    · exact hposted
    · exact hposted
  | localHostReady session items tbl =>
    obtain ⟨ips, -, rfl⟩ := map_eq_some_iff.mp hstep
    rw [iff_true_right (show Refreshed cfg hs (.localHostReady session items tbl) from trivial)]
    unfold onLocalHostReady
    split
    · exact ⟨hposted, h⟩
    · next info _ =>
        have hs : Synced cfg (updateLocalSvcTable cfg hs session { info with
            mReady := true
            mAddressTbl := info.mAddressTbl ++ (verifyUrl ips.peerIp items).map
              FdbMsgAddressItem.address } ips.peerIp tbl) :=
          synced_localSvcTableChanged hposted h.toLocal
        exact ⟨postedOk_updateLocalSvcTable hposted _ _ _ _, hs.toUpstream, hs.toLocal,
          hs.toDownstream⟩
  | postLocalSvcAddress session tbl =>
    obtain ⟨ips, -, rfl⟩ := map_eq_some_iff.mp hstep
    rw [iff_true_right (show Refreshed cfg hs (.postLocalSvcAddress session tbl) from trivial)]
    unfold onPostLocalSvcAddress
    split
    · exact ⟨hposted, h⟩
    · exact ⟨postedOk_updateLocalSvcTable hposted _ _ _ _,
        synced_localSvcTableChanged hposted h.toLocal⟩
  | externalHostReady session tbl =>
    obtain ⟨ips, -, rfl⟩ := map_eq_some_iff.mp hstep
    rw [iff_true_right (show Refreshed cfg hs (.externalHostReady session tbl) from trivial)]
    unfold onExternalHostReady
    split
    · exact ⟨hposted, h⟩
    · exact ⟨postedOk_updateDomainSvcTable hposted _ _ _ _, synced_domainSvcTableChanged hposted⟩
  | postDomainSvcAddress session tbl =>
    obtain ⟨ips, -, rfl⟩ := map_eq_some_iff.mp hstep
    rw [iff_true_right (show Refreshed cfg hs (.postDomainSvcAddress session tbl) from trivial)]
    unfold onPostDomainSvcAddress
    split
    · exact ⟨hposted, h⟩
    · exact ⟨postedOk_updateDomainSvcTable hposted _ _ _ _, synced_domainSvcTableChanged hposted⟩
  | subscribeHostOnline session =>
    obtain ⟨ips, -, rfl⟩ := map_eq_some_iff.mp hstep
    exact ⟨hposted, iff_of_true ⟨h.toUpstream, h.toLocal, h.toDownstream⟩ trivial⟩
  | upstreamOnline url =>
    obtain ⟨proxy, hfilter, rfl⟩ := map_eq_some_iff.mp hstep
    obtain ⟨hproxy, -⟩ := filter_eq_some_iff.mp hfilter
    refine ⟨postedOk_insert hposted fun hne => absurd rfl hne,
      iff_of_true (synced_proxy h hproxy rfl ?_) trivial⟩
    intro tbl htbl
    cases htbl
  | upstreamRegistered url =>
    obtain ⟨proxy, hfilter, rfl⟩ := map_eq_some_iff.mp hstep
    obtain ⟨hproxy, hconnected⟩ := filter_eq_some_iff.mp hfilter
    refine ⟨postedOk_insert hposted fun _ => hconnected,
      iff_of_true (synced_proxy h hproxy rfl ?_) trivial⟩
    intro tbl htbl
    exact (some.inj htbl).symm
  | upstreamTable url peerIp tbl =>
    obtain ⟨proxy, hfilter, rfl⟩ := map_eq_some_iff.mp hstep
    obtain ⟨hproxy, hconnected⟩ := filter_eq_some_iff.mp hfilter
    exact ⟨postedOk_insert hposted fun _ => hconnected,
      iff_of_true (synced_updateUpstreamSvcTable h hproxy (fun _ ht => ht) _) trivial⟩
  | upstreamOffline url =>
    obtain ⟨proxy, hfilter, rfl⟩ := map_eq_some_iff.mp hstep
    obtain ⟨hproxy, -⟩ := filter_eq_some_iff.mp hfilter
    refine ⟨postedOk_insert hposted fun hne => absurd rfl hne,
      iff_of_true (synced_updateUpstreamSvcTable h hproxy ?_ _) trivial⟩
    intro tbl htbl
    cases htbl

end

end Step

/-- At first every proxy is as it was made. -/
theorem get_online (urls : List Text) (url : Text) (proxy : CInterHostProxy)
    (h : (online urls).mHostProxyTbl[url]? = some proxy) : proxy = {} := by
  have hfold : ∀ (urls : List Text) (tbl : Map Text CInterHostProxy),
      (∀ (u : Text) (p : CInterHostProxy), tbl[u]? = some p → p = {}) →
      ∀ (u : Text) (p : CInterHostProxy), (urls.foldl (fun tbl url =>
        if url = [] ∨ tbl[url]?.isSome then tbl else tbl.insert url {}) tbl)[u]? = some p →
      p = {} := by
    intro urls
    induction urls with
    | nil =>
      intro tbl htbl
      exact htbl
    | cons url urls ih =>
      intro tbl htbl
      rw [foldl_cons]
      apply ih
      intro u p hp
      split at hp
      · exact htbl u p hp
      · obtain ⟨-, rfl⟩ | ⟨-, hp⟩ := of_get_insert hp
        · rfl
        · exact htbl u p hp
  refine hfold urls ∅ ?_ url proxy h
  intro u p hp
  simp at hp

/-- **Synchronised tables.**  In a run of the host server the tables that were sent last are those
that would be built now, after every event, exactly if every event is refreshed. -/
theorem synchronised_iff (cfg : HsConfig) (urls : List Text) (es : List Event) {hs : HostServer}
    (hrun : run (step cfg) (HostServer.online urls) es = some hs) :
    Throughout (step cfg) (Synced cfg) (HostServer.online urls) es
      ↔ Along (step cfg) (Refreshed cfg) (HostServer.online urls) es := by
  refine throughout_iff_of_inv (I := PostedOk) ?_ es _ hs ?_ ?_ hrun
  · intro s e s' hposted h hstep
    obtain ⟨hposted', hiff⟩ := synced_step_iff hposted h hstep
    exact ⟨hiff, fun _ => hposted'⟩
  · intro url proxy hproxy hne
    rw [get_online urls url proxy hproxy] at hne
    exact absurd rfl hne
  · refine ⟨?_, ?_, ?_⟩
    · intro url proxy tbl hproxy htbl
      rw [get_online urls url proxy hproxy] at htbl
      cases htbl
    · intro tbl htbl
      cases htbl
    · intro tbl htbl
      cases htbl

/-- Service "a" with an address for the domain. -/
def exportedService : FdbMsgAddressList where
  serviceName := [97]
  addressList := [⟨⟨[117], .tcp, [49], 80, false⟩, 1, 0, none⟩]

/-- A host registers and offers the service. -/
def hostComes : List Event :=
  [.online {}, .registerLocalHost 0 ⟨[50], [], none⟩ [], .localHostReady 0 [] [exportedService]]

/-- The host's session ends: the domains below are told. -/
theorem synchronised_iff_offline :
    Throughout (step plainHostServer) (Synced plainHostServer) (HostServer.online [])
      (hostComes ++ [.offline 0]) := by
  obtain ⟨hs, hrun⟩ : ∃ hs, run (step plainHostServer) (online [])
      (hostComes ++ [.offline 0]) = some hs := isSome_iff_exists.mp (by decide +kernel)
  have hready : (run (step plainHostServer) (online []) hostComes).map
      (fun hs => hs.mLocalHostTbl[0]?.isNone) = some false := by decide +kernel
  refine (synchronised_iff plainHostServer [] _ hrun).mpr ⟨trivial, fun s₁ h₁ => ?_⟩
  refine ⟨?_, fun s₂ h₂ => ⟨trivial, fun s₃ h₃ => ⟨?_, fun _ _ => trivial⟩⟩⟩
  · -- the host is new
    cases h₁
    intro info hinfo
    simp [online] at hinfo
  · intro hnone
    have hlast : run (step plainHostServer) (online []) hostComes = some s₃ := by
      simp only [hostComes, run, h₁, h₂, h₃, bind_some]
    rw [hlast, map_some, hnone] at hready
    cases hready

/-- The host unregisters: the domains below still have its service.  And a domain that is gone:
the host server above still has its service. -/
theorem dropped_services_remain :
    ((run (step plainHostServer) (HostServer.online [])
      (hostComes ++ [.unregisterLocalHost 0 [50]])).map
        fun hs => (hs.lastDownstream.map length, (hs.downstreamTbl plainHostServer).length))
        = some (some 1, 0)
      ∧ ((run (step plainHostServer) (HostServer.online [[117]])
          [.upstreamOnline [117], .upstreamRegistered [117], .online {},
            .registerExternalDomain 0 [100] [], .externalHostReady 0 [exportedService],
            .offline 0]).map fun hs =>
          (hs.mHostProxyTbl.toList.map (fun e => e.2.posted.map length),
            (hs.upstreamTbl plainHostServer).length)) = some ([some 1], 0) := by
  refine ⟨?_, ?_⟩
  · decide +kernel
  · decide +kernel

end Fdbus.Host

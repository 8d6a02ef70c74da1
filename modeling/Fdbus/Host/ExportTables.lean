/-
  Fdbus.Host.ExportTables — the service tables of the host server, `CHostServer`.

  A host server knows services from three sides: the hosts of its own domain, the domains below
  it, and the host servers above it.  What each side is told is built from the tables of the
  others, and of every service only the addresses that may be exported that far:

    * `populateLocalHost` (table 1), `populateDownstreamHost` (table 2) and
      `populateUpstreamHost` (table 3) — what each side contributes,
    * `buildAddrTblForLocalHost` (2 and 3), `buildAddrTblForUpstreamHost` (1 and 2) and
      `buildAddrTblForDownstreamHost` (all of them) — what each side is told,
    * `export_levels_exact` — the three tables list exactly the addresses that their limits
      admit, service by service and in order.

  A limit is one number: a positive one is the highest level that is exported, a negative one
  the lowest.  Levels are `int32_t`; the limits are negated only after they were checked not to
  be negative, so no negation overflows.
-/
import Fdbus.Server.NameServer

namespace Fdbus.Host

open Fdbus.OrderedMap Fdbus.Security Fdbus.Server Fdbus.Subscribe List Std.ExtTreeMap Bool

/-! ## §1. Tables. -/

/-- A `CFdbSvcAddress` list as it is sent, `FdbMsgExportableSvcAddress`. -/
abbrev ExportableSvcAddress := List FdbMsgAddressList

/-- `CLocalHostInfo`. -/
structure CLocalHostInfo where
  mHostName : Text := []
  mIpAddress : Text := []
  mAddressTbl : List CFdbSocketAddr := []
  mReady : Bool := false
  mAuthorized : Bool := false
  mTokens : List Token := []
  mSvcAddrTbl : List CFdbSvcAddress := []
  deriving DecidableEq

/-- `CExternalDomainInfo`. -/
structure CExternalDomainInfo where
  mDomainName : Text := []
  mReady : Bool := false
  mTokens : List Token := []
  mSvcAddrTbl : List CFdbSvcAddress := []
  deriving DecidableEq

/-- `CInterHostProxy`, the proxy of a host server above.  `posted` is the table that was sent on
the present connection last. -/
structure CInterHostProxy where
  connected : Bool := false
  mSvcAddrTbl : List CFdbSvcAddress := []
  posted : Option ExportableSvcAddress := none
  deriving DecidableEq

/-- The tables of the host server. -/
structure HostTables where
  mLocalHostTbl : Map SessionPtr CLocalHostInfo := ∅
  mExternalDomainTbl : Map SessionPtr CExternalDomainInfo := ∅
  mHostProxyTbl : Map Text CInterHostProxy := ∅

/-- The limits of the host server. -/
structure ExportLimits where
  /-- "The maximum level to be exported inside the domain". -/
  mMaxDomainExportableLevel : Int
  /-- "The minimum level to be exported outside the domain (to upstream host server)". -/
  mMinUpstreamExportableLevel : Int

/-! ## §2. The loops that build a table. -/

/-- The loop over the addresses of one service.  The list is made, with the data of the service,
when the first address is added to it. -/
def populateAddresses (svc : CFdbSvcAddress) (level : Int) (atLeast : Bool) :
    List CFdbSocketAddrInfo → Option FdbMsgAddressList → Option FdbMsgAddressList
  | [], list => list
  | item :: items, list =>
    if !checkExportableLevel item.mExportableLevel level atLeast then
      populateAddresses svc level atLeast items list
    else
      let list := list.getD svc.serviceInfo
      populateAddresses svc level atLeast items
        (some { list with addressList := list.addressList ++ [setAddressItem item] })

/-- `populateFromHostInfo(svc_addr_tbl, svc_address_tbl, exportable_level)`. -/
def populateFromHostInfo (exportableLevel : Int) :
    List CFdbSvcAddress → ExportableSvcAddress → ExportableSvcAddress
  | [], tbl => tbl
  | svc :: svcs, tbl =>
    match getExportable exportableLevel with
    | none => tbl
    | some (level, atLeast) =>
      populateFromHostInfo exportableLevel svcs
        (tbl ++ (populateAddresses svc level atLeast svc.mAddrTbl none).toList)

section Build

variable (limits : ExportLimits) (hs : HostTables)

/-- `populateLocalHost`: "table 1-local tbl". -/
def populateLocalHost (exportableLevel : Int) (tbl : ExportableSvcAddress) : ExportableSvcAddress :=
  hs.mLocalHostTbl.foldl (fun tbl _ host =>
    if host.mReady then populateFromHostInfo exportableLevel host.mSvcAddrTbl tbl else tbl) tbl

/-- `populateUpstreamHost`: "table 3-upstream tbl". -/
def populateUpstreamHost (exportableLevel : Int) (tbl : ExportableSvcAddress) :
    ExportableSvcAddress :=
  hs.mHostProxyTbl.foldl (fun tbl _ proxy =>
    populateFromHostInfo exportableLevel proxy.mSvcAddrTbl tbl) tbl

/-- `populateDownstreamHost`: "table 2-downstream tbl". -/
def populateDownstreamHost (exportableLevel : Int) (tbl : ExportableSvcAddress) :
    ExportableSvcAddress :=
  hs.mExternalDomainTbl.foldl (fun tbl _ domain =>
    if domain.mReady then populateFromHostInfo exportableLevel domain.mSvcAddrTbl tbl else tbl) tbl

/-- `buildAddrTblForLocalHost`: "table 2 & 3". -/
def buildAddrTblForLocalHost : ExportableSvcAddress :=
  populateDownstreamHost hs limits.mMaxDomainExportableLevel
    (populateUpstreamHost hs limits.mMaxDomainExportableLevel [])

/-- `buildAddrTblForUpstreamHost`: "table 1 & 2". -/
def buildAddrTblForUpstreamHost : ExportableSvcAddress :=
  populateLocalHost hs (-limits.mMinUpstreamExportableLevel)
    (populateDownstreamHost hs (-limits.mMinUpstreamExportableLevel) [])

/-- `buildAddrTblForDownstreamHost`: "table 1 & 2 & 3". -/
def buildAddrTblForDownstreamHost : ExportableSvcAddress :=
  populateLocalHost hs limits.mMaxDomainExportableLevel
    (populateDownstreamHost hs limits.mMaxDomainExportableLevel
      (populateUpstreamHost hs limits.mMaxDomainExportableLevel []))

end Build

/-! ## §3. The loops as comprehensions. -/

/-- The list of one service with the addresses whose level satisfies `p`, if there are any. -/
def exportedList (p : Int → Bool) (svc : CFdbSvcAddress) : Option FdbMsgAddressList :=
  let items := svc.mAddrTbl.filter fun item => p item.mExportableLevel
  if items = [] then none
  else some { svc.serviceInfo with addressList := items.map setAddressItem }

/-- The levels that a limit admits; the limit 0 is refused. -/
def admits (exportableLevel level : Int) : Bool :=
  match getExportable exportableLevel with
  | none => false
  | some (limit, atLeast) => checkExportableLevel level limit atLeast

/-- What a limit admits of some services. -/
def exported (exportableLevel : Int) (svcs : List CFdbSvcAddress) : ExportableSvcAddress :=
  svcs.filterMap (exportedList (admits exportableLevel))

theorem exported_append (exportableLevel : Int) (svcs svcs' : List CFdbSvcAddress) :
    exported exportableLevel (svcs ++ svcs')
      = exported exportableLevel svcs ++ exported exportableLevel svcs' :=
  filterMap_append

/-- A service is listed if it has an address that is admitted. -/
theorem exportedList_eq_none_iff (p : Int → Bool) (svc : CFdbSvcAddress) :
    exportedList p svc = none ↔ ∀ item ∈ svc.mAddrTbl, p item.mExportableLevel = false := by
  unfold exportedList
  simp only [ite_eq_left_iff, reduceCtorEq, imp_false, Classical.not_not, filter_eq_nil_iff,
    not_eq_true]

theorem admits_max {limit : Int} (h : 1 ≤ limit) (level : Int) :
    admits limit level = decide (level ≤ limit) := by
  unfold admits getExportable
  rw [if_neg (by omega), if_neg (by omega)]
  show (!decide (level > limit)) = decide (level ≤ limit)
  rw [← decide_not, decide_eq_decide]
  omega

theorem admits_min {limit : Int} (h : 1 ≤ limit) (level : Int) :
    admits (-limit) level = decide (limit ≤ level) := by
  unfold admits getExportable
  rw [if_pos (by omega)]
  show (!decide (level < - -limit)) = decide (limit ≤ level)
  rw [← decide_not, decide_eq_decide]
  omega

/-- The loop over the addresses, once the list is there. -/
theorem populateAddresses_some (svc : CFdbSvcAddress) (level : Int) (atLeast : Bool)
    (items : List CFdbSocketAddrInfo) :
    ∀ list : FdbMsgAddressList, populateAddresses svc level atLeast items (some list)
      = some { list with
          addressList := list.addressList ++ (items.filter fun item =>
            checkExportableLevel item.mExportableLevel level atLeast).map setAddressItem } := by
  induction items with
  | nil =>
    simp [populateAddresses]
  | cons item items ih =>
    intro list
    unfold populateAddresses
    by_cases hitem : checkExportableLevel item.mExportableLevel level atLeast = true
    · rw [hitem, Bool.not_true, if_neg Bool.false_ne_true]
      simp only [Option.getD_some, ih, filter_cons, hitem, if_true, map_cons,
        append_assoc, singleton_append]
    · simp only [Bool.eq_false_iff.mpr hitem, Bool.not_false, if_true, ih, List.filter_cons,
        false_eq_true, if_false]

/-- The loop over the addresses of a service makes the list of those that are admitted. -/
theorem populateAddresses_none (svc : CFdbSvcAddress) (level : Int) (atLeast : Bool)
    (items : List CFdbSocketAddrInfo) :
    populateAddresses svc level atLeast items none
      = exportedList (fun l => checkExportableLevel l level atLeast)
          { svc with mAddrTbl := items } := by
  induction items with
  | nil => rfl
  | cons item items ih =>
    unfold populateAddresses
    by_cases hitem : checkExportableLevel item.mExportableLevel level atLeast = true
    · -- the first address that is admitted: the list is made here
      unfold exportedList
      simp only [Option.getD_none, populateAddresses_some, filter_cons, hitem, if_true,
        map_cons, cons_ne_nil, if_false]
      rfl
    · rw [Bool.eq_false_iff.mpr hitem, Bool.not_false, if_pos rfl, ih]
      unfold exportedList
      simp only [filter_cons, eq_false_iff.mpr hitem, false_eq_true, if_false]
      rfl

/-- **One table of services** adds the lists of its services that have an admitted address. -/
theorem populateFromHostInfo_eq (exportableLevel : Int) (svcs : List CFdbSvcAddress) :
    ∀ tbl : ExportableSvcAddress, populateFromHostInfo exportableLevel svcs tbl
      = tbl ++ exported exportableLevel svcs := by
  unfold exported
  induction svcs with
  | nil => exact fun tbl => (append_nil tbl).symm
  | cons svc svcs ih =>
    intro tbl
    unfold populateFromHostInfo
    cases hlimit : getExportable exportableLevel with
    | none =>
      -- the limit 0: the loop ends at once, and nothing is admitted
      have hnone : ∀ l, admits exportableLevel l = false := by
        intro l
        unfold admits
        rw [hlimit]
      have hall : (svc :: svcs).filterMap (exportedList (admits exportableLevel)) = [] := by
        apply filterMap_eq_nil_iff.mpr
        intro svc _
        exact (exportedList_eq_none_iff _ svc).mpr fun item _ => hnone item.mExportableLevel
      rw [hall, append_nil]
    | some limit =>
      have hadmits : (fun l => checkExportableLevel l limit.1 limit.2)
          = admits exportableLevel := by
        funext l
        unfold admits
        rw [hlimit]
      show populateFromHostInfo exportableLevel svcs _ = _
      rw [ih, populateAddresses_none, hadmits, append_assoc, filterMap_cons]
      show _ ++ ((exportedList (admits exportableLevel) svc).toList ++ _) = _
      cases exportedList (admits exportableLevel) svc with
      | none => rfl
      | some list => rfl

section Sides

variable (hs : HostTables)

/-- The services of the local hosts that are ready. -/
def HostTables.localServices : List CFdbSvcAddress :=
  hs.mLocalHostTbl.toList.flatMap fun e => if e.2.mReady then e.2.mSvcAddrTbl else []

/-- The services of the host servers above. -/
def HostTables.upstreamServices : List CFdbSvcAddress :=
  hs.mHostProxyTbl.toList.flatMap fun e => e.2.mSvcAddrTbl

/-- The services of the domains below that are ready. -/
def HostTables.downstreamServices : List CFdbSvcAddress :=
  hs.mExternalDomainTbl.toList.flatMap fun e => if e.2.mReady then e.2.mSvcAddrTbl else []

/-- A walk over a map that adds to a table, entry after entry. -/
theorem foldl_populate {K V : Type} (exportableLevel : Int) (f : V → List CFdbSvcAddress)
    (g : ExportableSvcAddress → V → ExportableSvcAddress)
    (hg : ∀ tbl v, g tbl v = tbl ++ exported exportableLevel (f v)) (l : List (K × V)) :
    ∀ tbl, l.foldl (fun tbl e => g tbl e.2) tbl
      = tbl ++ exported exportableLevel (l.flatMap fun e => f e.2) := by
  induction l with
  | nil => exact fun tbl => (append_nil tbl).symm
  | cons e l ih =>
    intro tbl
    rw [foldl_cons, ih, hg, flatMap_cons, exported_append, append_assoc]

variable (exportableLevel : Int) (tbl : ExportableSvcAddress)

/-- What is added of an entry that may not be ready. -/
theorem populate_if_ready (ready : Bool) (svcs : List CFdbSvcAddress) (tbl : ExportableSvcAddress) :
    (if ready then populateFromHostInfo exportableLevel svcs tbl else tbl)
      = tbl ++ exported exportableLevel (if ready then svcs else []) := by
  cases ready with
  | true => exact populateFromHostInfo_eq exportableLevel svcs tbl
  | false => exact (append_nil tbl).symm

theorem populateLocalHost_eq :
    populateLocalHost hs exportableLevel tbl
      = tbl ++ exported exportableLevel hs.localServices := by
  unfold populateLocalHost
  rw [foldl_eq_foldl_toList]
  exact foldl_populate exportableLevel _ _
    (fun tbl (host : CLocalHostInfo) =>
      populate_if_ready exportableLevel host.mReady host.mSvcAddrTbl tbl) _ tbl

theorem populateDownstreamHost_eq :
    populateDownstreamHost hs exportableLevel tbl
      = tbl ++ exported exportableLevel hs.downstreamServices := by
  unfold populateDownstreamHost
  rw [foldl_eq_foldl_toList]
  exact foldl_populate exportableLevel _ _
    (fun tbl (domain : CExternalDomainInfo) =>
      populate_if_ready exportableLevel domain.mReady domain.mSvcAddrTbl tbl) _ tbl

theorem populateUpstreamHost_eq :
    populateUpstreamHost hs exportableLevel tbl
      = tbl ++ exported exportableLevel hs.upstreamServices := by
  unfold populateUpstreamHost
  rw [foldl_eq_foldl_toList]
  exact foldl_populate exportableLevel _ _
    (fun tbl (proxy : CInterHostProxy) =>
      populateFromHostInfo_eq exportableLevel proxy.mSvcAddrTbl tbl) _ tbl

variable (limits : ExportLimits)

theorem buildAddrTblForLocalHost_eq :
    buildAddrTblForLocalHost limits hs
      = exported limits.mMaxDomainExportableLevel (hs.upstreamServices ++ hs.downstreamServices) := by
  unfold buildAddrTblForLocalHost
  rw [populateDownstreamHost_eq, populateUpstreamHost_eq, nil_append, exported_append]

theorem buildAddrTblForUpstreamHost_eq :
    buildAddrTblForUpstreamHost limits hs
      = exported (-limits.mMinUpstreamExportableLevel)
        (hs.downstreamServices ++ hs.localServices) := by
  unfold buildAddrTblForUpstreamHost
  rw [populateLocalHost_eq, populateDownstreamHost_eq, nil_append, exported_append]

theorem buildAddrTblForDownstreamHost_eq :
    buildAddrTblForDownstreamHost limits hs
      = exported limits.mMaxDomainExportableLevel
        (hs.upstreamServices ++ hs.downstreamServices ++ hs.localServices) := by
  unfold buildAddrTblForDownstreamHost
  rw [populateLocalHost_eq, populateDownstreamHost_eq, populateUpstreamHost_eq, nil_append,
    exported_append, exported_append]

end Sides

/-! ## §4. Exact tables. -/

/-- The list is that of the service: with its name, instance and tokens, and with those of its
addresses whose level satisfies `p`, of which there is one. -/
structure ListsService (p : Int → Prop) [DecidablePred p] (svc : CFdbSvcAddress)
    (list : FdbMsgAddressList) : Prop where
  serviceName : list.serviceName = svc.mSvcName
  instanceId : list.instanceId = svc.mInstanceId
  endpointName : list.endpointName = svc.mEndpointName
  hostName : list.hostName = svc.mHostName
  domainName : list.domainName = svc.mDomainName
  tokens : list.dumpTokens = svc.mTokens
  addresses : list.addressList
    = (svc.mAddrTbl.filter fun item => p item.mExportableLevel).map setAddressItem
  nonempty : list.addressList ≠ []

/-- The table lists every service that has an address whose level satisfies `p`, once and in
order, and nothing else. -/
def ListsExactly (p : Int → Prop) [DecidablePred p] (svcs : List CFdbSvcAddress)
    (tbl : ExportableSvcAddress) : Prop :=
  List.Forall₂ (ListsService p) (svcs.filter fun svc => svc.mAddrTbl.any fun item =>
    p item.mExportableLevel) tbl

theorem exportedList_lists {p : Int → Prop} [DecidablePred p] {svc : CFdbSvcAddress}
    (h : svc.mAddrTbl.any (fun item => p item.mExportableLevel) = true) :
    ∃ list, exportedList (fun l => decide (p l)) svc = some list
      ∧ ListsService p svc list := by
  have hne : svc.mAddrTbl.filter (fun item => decide (p item.mExportableLevel)) ≠ [] := by
    intro hnil
    obtain ⟨item, hitem, hp⟩ := any_eq_true.mp h
    exact filter_eq_nil_iff.mp hnil item hitem hp
  unfold exportedList
  rw [if_neg hne]
  refine ⟨_, rfl, rfl, rfl, rfl, rfl, rfl, rfl, rfl, ?_⟩
  intro hnil
  exact hne (map_eq_nil_iff.mp hnil)

/-- The comprehension lists exactly what it should. -/
theorem listsExactly_filterMap (p : Int → Prop) [DecidablePred p] (svcs : List CFdbSvcAddress) :
    ListsExactly p svcs (svcs.filterMap (exportedList fun l => decide (p l))) := by
  unfold ListsExactly
  induction svcs with
  | nil => exact Forall₂.nil
  | cons svc svcs ih =>
    cases hany : svc.mAddrTbl.any fun item => p item.mExportableLevel with
    | true =>
      obtain ⟨list, hlist, hok⟩ := exportedList_lists hany
      simp only [filter_cons, hany, if_true, filterMap_cons_some hlist]
      exact Forall₂.cons hok ih
    | false =>
      have hnone : exportedList (fun l => decide (p l)) svc = none :=
        (exportedList_eq_none_iff _ svc).mpr fun item hitem =>
          eq_false_of_ne_true (any_eq_false.mp hany item hitem)
      simp only [filter_cons, hany, false_eq_true, if_false, filterMap_cons_none hnone]
      exact ih

/-- **Export levels are enforced exactly.**  The tables for local hosts and for the domains below
list the services that they cover with exactly the addresses whose level is at most the domain's
limit, the table for the host servers above those whose level is at least its own limit; each
service once and never without an address, and everything in order. -/
theorem export_levels_exact (limits : ExportLimits) (hs : HostTables)
    (hmax : 1 ≤ limits.mMaxDomainExportableLevel) (hmin : 1 ≤ limits.mMinUpstreamExportableLevel) :
    ListsExactly (· ≤ limits.mMaxDomainExportableLevel)
        (hs.upstreamServices ++ hs.downstreamServices) (buildAddrTblForLocalHost limits hs)
      ∧ ListsExactly (· ≤ limits.mMaxDomainExportableLevel)
        (hs.upstreamServices ++ hs.downstreamServices ++ hs.localServices)
        (buildAddrTblForDownstreamHost limits hs)
      ∧ ListsExactly (limits.mMinUpstreamExportableLevel ≤ ·)
        (hs.downstreamServices ++ hs.localServices) (buildAddrTblForUpstreamHost limits hs) := by
  have hle : admits limits.mMaxDomainExportableLevel
      = fun l => decide (l ≤ limits.mMaxDomainExportableLevel) := funext (admits_max hmax)
  have hge : admits (-limits.mMinUpstreamExportableLevel)
      = fun l => decide (limits.mMinUpstreamExportableLevel ≤ l) := funext (admits_min hmin)
  refine ⟨?_, ?_, ?_⟩
  · rw [buildAddrTblForLocalHost_eq, exported, hle]
    exact listsExactly_filterMap _ _
  · rw [buildAddrTblForDownstreamHost_eq, exported, hle]
    exact listsExactly_filterMap _ _
  · rw [buildAddrTblForUpstreamHost_eq, exported, hge]
    exact listsExactly_filterMap _ _

/-- A service with one address inside the host, one inside the domain and one outside. -/
def threeLevels : CFdbSvcAddress where
  mSvcName := [97]
  mAddrTbl := [{ mExportableLevel := 0 }, { mExportableLevel := 1 }, { mExportableLevel := 2 }]

/-- A host that is ready and offers the service. -/
def oneHost : HostTables where
  mLocalHostTbl := (∅ : Map SessionPtr CLocalHostInfo).insert 1
    { mReady := true, mSvcAddrTbl := [threeLevels] }

/-- With both limits at 1 a host server above is told the last two addresses of the service, a
domain below the first two. -/
theorem export_levels_exact_three :
    ListsExactly ((1 : Int) ≤ ·) [threeLevels] (buildAddrTblForUpstreamHost ⟨1, 1⟩ oneHost)
      ∧ (buildAddrTblForUpstreamHost ⟨1, 1⟩ oneHost).map
          (fun list => list.addressList.map FdbMsgAddressItem.exportableLevel) = [[1, 2]]
      ∧ (buildAddrTblForDownstreamHost ⟨1, 1⟩ oneHost).map
          (fun list => list.addressList.map FdbMsgAddressItem.exportableLevel) = [[0, 1]] := by
  refine ⟨?_, ?_, ?_⟩
  · exact (export_levels_exact ⟨1, 1⟩ oneHost (by decide) (by decide)).2.2
  · decide +kernel
  · decide +kernel

end Fdbus.Host

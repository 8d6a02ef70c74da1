/-
  Fdbus.Host.SvcAddrUtils — what becomes of the services and addresses that others send.

    * `populateToHostInfo_iff` — a table is stored with one entry for each service that has
      addresses exactly if all of its services have some,
    * `removeDuplicate_filter` — the loops of `removeDuplicateService` are a filter.
-/
import Fdbus.Host.HostServer

namespace Fdbus.Host

open Fdbus.Security Fdbus.Server Fdbus.Subscribe List

/-! ## §1. Storing a table. -/

/-- The address is stored with all that belongs to it. -/
structure StoresAddress (item : FdbMsgAddressItem) (info : CFdbSocketAddrInfo) : Prop where
  address : info.mAddress = item.address
  udpPort : info.mUDPPort = item.udpPort.getD fdbInetPortInvalid
  exportableLevel : info.mExportableLevel = item.exportableLevel
  interfaceId : info.mInterfaceId = item.interfaceId

/-- The entry says of a service what the list says. -/
structure Stores (list : FdbMsgAddressList) (svc : CFdbSvcAddress) : Prop where
  svcName : svc.mSvcName = list.serviceName
  endpointName : svc.mEndpointName = list.endpointName
  hostName : svc.mHostName = list.hostName
  domainName : svc.mDomainName = list.domainName
  instanceId : svc.mInstanceId = list.instanceId
  tokens : svc.mTokens = list.dumpTokens
  addresses : List.Forall₂ StoresAddress list.addressList svc.mAddrTbl

theorem stores_populateToHostInfo {list : FdbMsgAddressList} (h : list.addressList ≠ []) :
    Stores list list.populateToHostInfo := by
  unfold FdbMsgAddressList.populateToHostInfo
  rw [if_neg h]
  refine ⟨rfl, rfl, rfl, rfl, rfl, rfl, ?_⟩
  rw [forall₂_map_right_iff, forall₂_same]
  exact fun item _ => ⟨rfl, rfl, rfl, rfl⟩

/-- **Tables are stored faithfully**, with an entry for each service that has addresses and no
other, exactly if every service has addresses: for one without, an empty entry is made. -/
theorem populateToHostInfo_iff (tbl : ExportableSvcAddress) :
    Forall₂ Stores (tbl.filter fun list => list.addressList ≠ []) (populateToHostInfo tbl)
      ↔ ∀ list ∈ tbl, list.addressList ≠ [] := by
  unfold populateToHostInfo
  constructor
  · intro h list hlist
    have hlength := h.length_eq
    rw [length_map, length_filter_eq_length_iff] at hlength
    exact of_decide_eq_true (hlength list hlist)
  · intro h
    rw [filter_eq_self.mpr fun list hlist => decide_eq_true (h list hlist),
      forall₂_map_right_iff, forall₂_same]
    exact fun list hlist => stores_populateToHostInfo (h list hlist)

/-- A service "a" without addresses is stored as an entry without a name. -/
theorem empty_service_stored :
    populateToHostInfo [{ serviceName := [97] }] = [{}] := by
  decide

/-! ## §2. Removing what is a local service already. -/

section Duplicates

variable (interfaces : List Text)

/-- `mInterfaceTable`: it is filled when it is needed for the first time. -/
def localIps (tbl : List Text) : List Text := if tbl = [] then interfaces else tbl

/-- The innermost comparison; the state is the table of interfaces. -/
def sameSocket (orig dup : CFdbSocketAddr) : StateM (List Text) Bool := do
  if dup.mAddr = fdbIpAllInterface then
    modify (localIps interfaces)
    return (← get).contains orig.mAddr && orig.mPort == dup.mPort
  else return orig.mUrl == dup.mUrl

/-- The loops over the services of the second table and over the addresses of both services; each
is left when a pair is found. -/
def duplicateLoop (duplicate : List CFdbSvcAddress) (orig : CFdbSvcAddress) :
    StateM (List Text) Bool :=
  duplicate.anyM fun dup =>
    if orig.mSvcName = dup.mSvcName then
      orig.mAddrTbl.anyM fun origSock => dup.mAddrTbl.anyM fun dupSock =>
        sameSocket interfaces origSock.mAddress dupSock.mAddress
    else return false

/-- `removeDuplicateService(original, duplicate)` with its loops: what is found is erased. -/
def removeDuplicateLoop (duplicate : List CFdbSvcAddress) :
    List CFdbSvcAddress → StateM (List Text) (List CFdbSvcAddress)
  | [] => return []
  | orig :: original => do
    if ← duplicateLoop interfaces duplicate orig then removeDuplicateLoop duplicate original
    else return orig :: (← removeDuplicateLoop duplicate original)

theorem localIps_idem (tbl : List Text) :
    localIps interfaces (localIps interfaces tbl) = localIps interfaces tbl := by
  unfold localIps
  split_ifs with h h'
  · rfl
  · rfl
  · rfl

/-- A loop returns the value, and the addresses of this host stay the same. -/
def Returns {α : Type} (ips : List Text) (loop : StateM (List Text) α) (value : α) : Prop :=
  ∀ tbl, localIps interfaces tbl = ips →
    (loop tbl).1 = value ∧ localIps interfaces (loop tbl).2 = ips

variable {interfaces} {ips : List Text}

theorem Returns.bind {α β : Type} {loop : StateM (List Text) α} {value : α}
    {rest : α → StateM (List Text) β} {result : β} (h : Returns interfaces ips loop value)
    (hrest : Returns interfaces ips (rest value) result) :
    Returns interfaces ips (loop >>= rest) result := by
  intro tbl htbl
  obtain ⟨hvalue, hips⟩ := h tbl htbl
  have := hrest _ hips
  rw [← hvalue] at this
  exact this

theorem Returns.pure {α : Type} (value : α) :
    Returns interfaces ips (Pure.pure value) value := fun _ htbl => ⟨rfl, htbl⟩

theorem Returns.anyM {α : Type} {test : α → StateM (List Text) Bool} {found : α → Bool}
    (h : ∀ a, Returns interfaces ips (test a) (found a)) (as : List α) :
    Returns interfaces ips (as.anyM test) (as.any found) := by
  induction as with
  | nil => exact .pure false
  | cons a as ih =>
    rw [anyM_cons, any_cons]
    refine (h a).bind ?_
    cases found a with
    | true => exact .pure true
    | false => exact ih

variable {cfg : HsConfig} (hcfg : ∀ ip, cfg.findByIp ip = ips.contains ip)

include hcfg

theorem returns_sameSocket (orig dup : CFdbSocketAddr) :
    Returns interfaces ips (sameSocket interfaces orig dup) (sameAddress cfg orig dup) := by
  unfold sameSocket sameAddress
  split
  · intro tbl htbl
    refine ⟨?_, ?_⟩
    · rw [hcfg, ← htbl]
      rfl
    · rw [← htbl]
      exact localIps_idem interfaces tbl
  · exact .pure _

theorem returns_duplicateLoop (duplicate : List CFdbSvcAddress) (orig : CFdbSvcAddress) :
    Returns interfaces ips (duplicateLoop interfaces duplicate orig)
      (duplicate.any (sameService cfg orig)) := by
  refine .anyM (fun dup => ?_) duplicate
  unfold sameService
  split_ifs with hname
  · rw [beq_iff_eq.mpr hname, Bool.true_and]
    exact .anyM (fun origSock => .anyM (fun dupSock => returns_sameSocket hcfg _ _) _) _
  · rw [beq_eq_false_iff_ne.mpr hname, Bool.false_and]
    exact .pure false

/-- The loops do what `removeDuplicateService` does. -/
theorem returns_removeDuplicateLoop (original duplicate : List CFdbSvcAddress) :
    Returns interfaces ips (removeDuplicateLoop interfaces duplicate original)
      (removeDuplicateService cfg original duplicate) := by
  induction original with
  | nil => exact .pure []
  | cons orig original ih =>
    refine (returns_duplicateLoop hcfg duplicate orig).bind ?_
    unfold removeDuplicateService at ih ⊢
    rw [filter_cons]
    cases duplicate.any (sameService cfg orig) with
    | true => exact ih
    | false => exact ih.bind (.pure _)

omit hcfg

/-- The service is one of the second table's, on an address of this host with these interfaces. -/
def Duplicates (ips : List Text) (svc dup : CFdbSvcAddress) : Prop :=
  dup.mSvcName = svc.mSvcName ∧ ∃ sock ∈ svc.mAddrTbl, ∃ dupSock ∈ dup.mAddrTbl,
    (dupSock.mAddress.mAddr ≠ fdbIpAllInterface ∧ sock.mAddress.mUrl = dupSock.mAddress.mUrl)
    ∨ (dupSock.mAddress.mAddr = fdbIpAllInterface ∧ sock.mAddress.mPort = dupSock.mAddress.mPort
      ∧ sock.mAddress.mAddr ∈ ips)

open scoped Classical in
/-- **Removing duplicates is a filter**: for whatever tables and addresses of this host, exactly the
services stay that are not in the second table, in their order. -/
theorem removeDuplicate_filter (interfaces tbl : List Text)
    (original duplicate : List CFdbSvcAddress) :
    (removeDuplicateLoop interfaces duplicate original tbl).1
      = original.filter fun svc =>
          ¬ ∃ dup ∈ duplicate, Duplicates (localIps interfaces tbl) svc dup := by
  let cfg : HsConfig := { plainHostServer with findByIp := (localIps interfaces tbl).contains }
  have hcfg : ∀ ip, cfg.findByIp ip = (localIps interfaces tbl).contains ip := fun _ => rfl
  rw [(returns_removeDuplicateLoop hcfg original duplicate tbl rfl).1]
  refine filter_congr fun svc _ => ?_
  rw [Bool.eq_iff_iff, Bool.not_eq_true', decide_eq_true_eq, any_eq_false]
  have hsame : ∀ dup, sameService cfg svc dup = true
      ↔ Duplicates (localIps interfaces tbl) svc dup := by
    unfold sameService sameAddress Duplicates
    grind
  simp only [hsame, not_exists, not_and]

end Duplicates

end Fdbus.Host

/-
  Fdbus.Server.Allocation — a server asks for addresses.

  A server asks for addresses under a name and an instance.  The name server enters the service,
  asks its allocators, and answers with what they gave.

    * `handleAlloc` — the request, with the allocators,
    * `allocateInstance_ok_iff` — when there is an instance for the service,
    * `addedList_eq_nil_iff` — what the allocators gave is told to the server,
    * `failed_alloc_unchanged_iff` — a request that fails changes nothing, unless no allocator has
      an address.

  The service is entered before the allocators are asked and stays if they have nothing.
-/
import Fdbus.Server.Binding
import Fdbus.Server.Allocators

namespace Fdbus.Server

open Fdbus.OrderedMap Fdbus.Security Fdbus.Subscribe List

/-! ## §1. The request. -/

/-- `onAllocServiceAddressReq`, with the allocators. -/
def handleAlloc (cfg : NsConfig) (env : AllocConfig) (ns : NameServer) (a : Allocators)
    (session : SessionPtr) (req : FdbMsgServerName) (tokens : List Token) :
    (NameServer × NsReply) × Allocators :=
  match (ns.allocateInstance req.name req.instanceId).2 with
  | .error _ => (onAllocServiceAddressReq cfg ns session req [] tokens, a)
  | .ok inst =>
    let r := allocateAll cfg env ns.mRegistryTbl (newEntry session req inst tokens) a
    (onAllocServiceAddressReq cfg ns session req r.1 tokens, r.2)

/-! ## §2. The service in the registry.

The service is entered before the allocators search, without an address. -/

section Entered

variable {reg : RegistryTbl} {name : Text} {inst : FdbInstanceId} {entry : CSvcRegistryEntry}

/-- The tries for a service that is going to be entered. -/
def RegistryTbl.triesFor (reg : RegistryTbl) (name : Text) : Nat :=
  if reg.contains name then reg.tries else reg.tries + 1

theorem tries_put (reg : RegistryTbl) (name : Text) (inst : FdbInstanceId)
    (entry : CSvcRegistryEntry) : (reg.put name inst entry).tries = reg.triesFor name := by
  unfold RegistryTbl.triesFor RegistryTbl.tries RegistryTbl.put upsert
  rw [Std.ExtTreeMap.size_alter]
  by_cases hname : name ∈ reg
  · simp [hname]
  · simp [hname]

theorem findAddress_eq_true (reg : RegistryTbl) (type : EFdbSocketType) (url : Text) :
    reg.findAddress type url = true
      ↔ ∃ n i entry, reg.get n i = some entry ∧ ∃ desc ∈ entry.mAddrTbl,
        (type = .max ∨ desc.mAddress.mType = type) ∧ desc.mAddress.mUrl = url := by
  unfold RegistryTbl.findAddress
  simp only [any_eq_true, decide_eq_true_eq]
  exact exists_all_iff reg fun entry => ∃ desc ∈ entry.mAddrTbl,
    (type = .max ∨ desc.mAddress.mType = type) ∧ desc.mAddress.mUrl = url

/-- A new service without the address does not take it. -/
theorem findAddress_put_of_absent (hnew : reg.get name inst = none) {type : EFdbSocketType}
    {url : Text} (hentry : ∀ desc ∈ entry.mAddrTbl,
      ¬ ((type = .max ∨ desc.mAddress.mType = type) ∧ desc.mAddress.mUrl = url)) :
    (reg.put name inst entry).findAddress type url = reg.findAddress type url := by
  rw [Bool.eq_iff_iff, findAddress_eq_true, findAddress_eq_true]
  constructor
  · intro h
    obtain ⟨n, i, entry', hget, hdesc⟩ := h
    rw [get_put] at hget
    split at hget
    · cases hget
      obtain ⟨desc, hmem, hfound⟩ := hdesc
      exact absurd hfound (hentry desc hmem)
    · exact ⟨n, i, entry', hget, hdesc⟩
  · intro h
    obtain ⟨n, i, entry', hget, hdesc⟩ := h
    refine ⟨n, i, entry', ?_, hdesc⟩
    rw [get_put, if_neg]
    · exact hget
    · intro heq
      rw [← heq.1, ← heq.2, hnew] at hget
      cases hget

end Entered

/-- There is an instance for the request: its own one is free, or one of the group that it asks
for. -/
def InstanceFree (ns : NameServer) (req : FdbMsgServerName) : Prop :=
  if fdbIsGroup req.instanceId then
    ∃ k ≤ fdbAutoInstanceEnd, (fdbAutoInstanceBegin ≤ k ∨ ns.mInstanceIdAllocator ≤ k)
      ∧ ns.mRegistryTbl.findService req.name (fdbMergeEventCode req.instanceId k) = []
  else ns.mRegistryTbl.findService req.name req.instanceId = []

theorem searchInstance_none {reg : RegistryTbl} {svcName : Text} {group : FdbInstanceId}
    {count next : Nat} (h : searchInstance reg svcName group count next = none) :
    ∀ k, next ≤ k → k < next + count →
      reg.findService svcName (fdbMergeEventCode group k) ≠ [] := by
  induction count generalizing next with
  | zero => omega
  | succ count ih =>
    intro k hle hlt
    unfold searchInstance at h
    split at h
    · cases h
    · next htaken =>
        by_cases hk : k = next
        · rw [hk]
          exact htaken
        · exact ih h k (by omega) (by omega)

/-- **An instance is given** exactly if there is one. -/
theorem allocateInstance_ok_iff (ns : NameServer) (req : FdbMsgServerName) :
    (∃ inst, (ns.allocateInstance req.name req.instanceId).2 = .ok inst) ↔ InstanceFree ns req := by
  unfold NameServer.allocateInstance InstanceFree
  by_cases hgroup : fdbIsGroup req.instanceId = true
  · rw [if_pos hgroup, if_pos hgroup]
    split
    · next k hk =>
        obtain ⟨hfree, hle, hlt⟩ := searchInstance_some hk
        exact iff_of_true ⟨_, rfl⟩ ⟨k, by omega, .inr hle, hfree⟩
    · next hfirst =>
        split
        · next k hk =>
            obtain ⟨hfree, hle, hlt⟩ := searchInstance_some hk
            exact iff_of_true ⟨_, rfl⟩ ⟨k, by omega, .inl hle, hfree⟩
        · next hsecond =>
            -- both rounds found every instance taken
            refine iff_of_false (fun h => ?_) (fun h => ?_)
            · obtain ⟨_, hok⟩ := h
              cases hok
            · obtain ⟨k, hend, hor, hfree⟩ := h
              rcases hor with hle | hle
              · exact searchInstance_none hsecond k hle (by omega) hfree
              · exact searchInstance_none hfirst k hle (by omega) hfree
  · rw [if_neg hgroup, if_neg hgroup]
    split
    · next htaken =>
        refine iff_of_false (fun h => ?_) htaken
        obtain ⟨_, hok⟩ := h
        cases hok
    · next hfree => exact iff_of_true ⟨_, rfl⟩ (not_not.mp hfree)

/-! ## §3. What is given may be told. -/

/-- Every address of the list may be told to the server that asked. -/
def Tellable (addrs : List CAllocatedAddress) : Prop :=
  ∀ addr ∈ addrs, addr.mExportableLevel ≤ fdbExportableAny

theorem Tellable.append {addrs addrs' : List CAllocatedAddress} (h : Tellable addrs)
    (h' : Tellable addrs') : Tellable (addrs ++ addrs') :=
  forall_mem_append.mpr ⟨h, h'⟩

theorem Tellable.nil : Tellable [] := fun _ h => absurd h not_mem_nil

theorem Tellable.singleton {addr : CAllocatedAddress}
    (h : addr.mExportableLevel ≤ fdbExportableAny) : Tellable [addr] := by
  intro addr' haddr'
  rw [mem_singleton.mp haddr']
  exact h

section Levels

variable {cfg : NsConfig} {env : AllocConfig} {reg : RegistryTbl} {entry : CSvcRegistryEntry}

/-- What the loop gives is what the allocator gave. -/
theorem forall_allocateAddress {α : Type} {svcType : FdbServerType}
    {allocate : α → CAllocatedAddress × α} {p : CAllocatedAddress → Prop}
    (h : ∀ alloc, p (allocate alloc).1) (tries : Nat) :
    ∀ alloc, ∀ addr ∈ (allocateAddress reg svcType allocate tries alloc).1.toList, p addr := by
  induction tries with
  | zero =>
    intro alloc addr haddr
    cases haddr
  | succ tries ih =>
    intro alloc
    unfold allocateAddress
    dsimp only
    split
    · intro addr haddr
      rw [mem_singleton.mp haddr]
      exact h alloc
    · exact ih _

theorem level_address (alloc : CTCPAddressAllocator) (port : Int) (secure : Bool) :
    (alloc.address port secure).mExportableLevel ≤ fdbExportableAny := alloc.level_le

theorem level_allocateKnownAddr {alloc : CTCPAddressAllocator} {svcType : FdbServerType}
    {secure : Bool} {addr : CAllocatedAddress}
    (h : alloc.allocateKnownAddr env svcType secure = some addr) :
    addr.mExportableLevel ≤ fdbExportableAny := by
  cases svcType with
  | user => cases h
  | nameServer =>
    cases h
    exact level_address alloc _ secure
  | hostServer =>
    cases h
    exact level_address alloc _ secure

theorem level_allocate (svcType : FdbServerType) (secure : Bool) (alloc : CTCPAddressAllocator) :
    (CTCPAddressAllocator.allocate env svcType secure alloc).1.mExportableLevel
      ≤ fdbExportableAny := by
  unfold CTCPAddressAllocator.allocate
  split
  · next addr haddr => exact level_allocateKnownAddr haddr
  · split
    · exact level_address alloc _ secure
    · exact level_address alloc _ secure

theorem tellable_allocateNetwork {secure : Bool} {s : List CAllocatedAddress × CTCPAddressAllocator}
    (h : Tellable s.1) (network : CFdbSocketAddr) :
    Tellable (allocateNetwork cfg env reg entry secure s network).1 := by
  unfold allocateNetwork
  dsimp only
  split
  · exact h
  · split
    · next addr haddr =>
        split
        · exact h
        · exact h.append (Tellable.singleton (level_allocateKnownAddr haddr))
    · split
      · exact h.append (forall_allocateAddress (level_allocate _ secure) _ _)
      · split
        · exact h
        · exact h.append (Tellable.singleton (show (0 : Int) ≤ fdbExportableAny by decide))

theorem tellable_allocateOnInterface (secure : Bool) (alloc : CTCPAddressAllocator) :
    Tellable (allocateOnInterface cfg env reg entry secure alloc).1 := by
  unfold allocateOnInterface
  split
  · exact forall_allocateAddress (level_allocate _ secure) _ _
  · have hfold : ∀ (networks : List CFdbSocketAddr) s, Tellable s.1 →
        Tellable (networks.foldl (allocateNetwork cfg env reg entry secure) s).1 := by
      intro networks
      induction networks with
      | nil =>
        intro s hs
        exact hs
      | cons network networks ih =>
        intro s hs
        exact ih _ (tellable_allocateNetwork hs network)
    exact hfold _ _ Tellable.nil

theorem tellable_allocateInterface (alloc : CTCPAddressAllocator) :
    Tellable (allocateInterface cfg env reg entry alloc).1 := by
  refine Tellable.append ?_ ?_
  · split
    · exact tellable_allocateOnInterface false alloc
    · exact Tellable.nil
  · split
    · exact tellable_allocateOnInterface true _
    · exact Tellable.nil

theorem tellable_allocateTable (tbl : Map Text CTCPAddressAllocator) :
    Tellable (allocateTable cfg env reg entry tbl).1 := by
  rw [allocateTable_fst]
  intro addr haddr
  obtain ⟨alloc, -, hmem⟩ := mem_flatMap.mp haddr
  exact tellable_allocateInterface alloc addr hmem

theorem tellable_allocateTCPAddress (a : Allocators) :
    Tellable (allocateTCPAddress cfg env reg entry a).1 := by
  unfold allocateTCPAddress
  split
  · exact tellable_allocateTable _
  · exact tellable_allocateTable _

theorem tellable_allocateLocal (a : Allocators) :
    Tellable (allocateLocal cfg env reg entry a).1 := by
  unfold allocateLocal
  split
  · exact tellable_allocateInterface _
  · refine forall_allocateAddress ?_ _ _
    intro id
    unfold ipcAllocate
    -- IPC addresses have level 0
    split
    · exact show (0 : Int) ≤ fdbExportableAny by decide
    · exact show (0 : Int) ≤ fdbExportableAny by decide
    · exact show (0 : Int) ≤ fdbExportableAny by decide

end Levels

theorem tellable_allocateAll (cfg : NsConfig) (env : AllocConfig) (reg : RegistryTbl)
    (entry : CSvcRegistryEntry) (a : Allocators) : Tellable (allocateAll cfg env reg entry a).1 :=
  (tellable_allocateLocal a).append (tellable_allocateTCPAddress _)

/-- The first address that the allocators gave is in the table. -/
theorem head_mem_addServiceAddress (addr : CAllocatedAddress) (addrs : List CAllocatedAddress) :
    addr.pendingDesc ∈ addServiceAddress [] (addr :: addrs) := by
  have hfirst : addServiceAddress [] (addr :: addrs) = addServiceAddress [addr.pendingDesc] addrs :=
    rfl
  rw [hfirst]
  exact addServiceAddress_of_mem (mem_singleton.mpr rfl)

/-- The answer has no address exactly if the allocators gave none. -/
theorem addedList_eq_nil_iff (cfg : NsConfig) {entry : CSvcRegistryEntry}
    (hentry : entry.mAddrTbl = []) {allocated : List CAllocatedAddress} (h : Tellable allocated) :
    (addedList cfg entry allocated).addressList = [] ↔ allocated = [] := by
  unfold addedList
  rw [hentry]
  show ((addServiceAddress [] allocated).drop 0).flatMap (prepareAddress fdbExportableAny) = [] ↔ _
  constructor
  · intro hnil
    cases allocated with
    | nil => rfl
    | cons addr addrs =>
      have hitem : populateAddressItem addr.pendingDesc.toCFdbSocketAddrInfo
          ∈ ((addServiceAddress [] (addr :: addrs)).drop 0).flatMap
            (prepareAddress fdbExportableAny) := by
        refine mem_flatMap.mpr ⟨addr.pendingDesc, head_mem_addServiceAddress addr addrs, ?_⟩
        exact mem_prepareAddress.mpr
          ⟨checkExportable_any (h addr mem_cons_self), rfl⟩
      rw [hnil] at hitem
      cases hitem
  · intro hnil
    rw [hnil]
    rfl

/-! ## §4. A request that fails. -/

variable {inst : FdbInstanceId} {req : FdbMsgServerName} {ns : NameServer} {allocator : Nat}

/-- A request that is not refused enters the service, and is answered with its addresses, if there
are any. -/
theorem onAllocServiceAddressReq_ok (cfg : NsConfig) (session : SessionPtr)
    (hinst : ns.allocateInstance req.name req.instanceId = (allocator, .ok inst))
    (allocated : List CAllocatedAddress) (tokens : List Token) :
    ((onAllocServiceAddressReq cfg ns session req allocated tokens).1.mRegistryTbl.get req.name
        inst).isSome = true
      ∧ ((∃ status,
          (onAllocServiceAddressReq cfg ns session req allocated tokens).2 = .status status)
        ↔ (addedList cfg (newEntry session req inst tokens) allocated).addressList = []) := by
  unfold onAllocServiceAddressReq
  rw [hinst]
  refine ⟨?_, ?_⟩
  · rw [get_put, if_pos ⟨rfl, rfl⟩]
    rfl
  · dsimp only
    split
    · next hnil => simp [hnil]
    · next hne => simp [hne]

/-- What is available does not depend on the instance that the service gets. -/
theorem addressAvailable_newEntry (cfg : NsConfig) (env : AllocConfig) (session : SessionPtr)
    (hinst : ns.allocateInstance req.name req.instanceId = (allocator, .ok inst))
    (tokens : List Token) (a : Allocators) :
    (allocateAll cfg env ns.mRegistryTbl (newEntry session req inst tokens) a).1 ≠ []
      ↔ AddressAvailable cfg env ns.mRegistryTbl.findAddress (ns.mRegistryTbl.triesFor req.name)
        (newEntry session req req.instanceId tokens) a := by
  have hnew := get_of_findService_nil (allocateInstance_ok hinst).1
  have hfind : (ns.mRegistryTbl.put req.name inst (newEntry session req inst tokens)).findAddress
      = ns.mRegistryTbl.findAddress := by
    funext type url
    exact findAddress_put_of_absent hnew fun _ hmem => absurd hmem not_mem_nil
  rw [allocateAll_ne_nil_iff]
  show AddressAvailable cfg env
    (ns.mRegistryTbl.put req.name inst (newEntry session req inst tokens)).findAddress
    (ns.mRegistryTbl.put req.name inst (newEntry session req inst tokens)).tries
    (newEntry session req inst tokens) a ↔ _
  rw [hfind, tries_put]
  exact Iff.rfl

/-- **A failed request changes nothing**, for every state of the registry and the allocators,
exactly if an address is available whenever there is an instance for it. -/
theorem failed_alloc_unchanged_iff (cfg : NsConfig) (env : AllocConfig) (ns : NameServer)
    (a : Allocators) (session : SessionPtr) (req : FdbMsgServerName) (tokens : List Token) :
    (∀ status, (handleAlloc cfg env ns a session req tokens).1.2 = .status status →
        (handleAlloc cfg env ns a session req tokens).1.1.mRegistryTbl = ns.mRegistryTbl)
      ↔ (InstanceFree ns req →
        AddressAvailable cfg env ns.mRegistryTbl.findAddress (ns.mRegistryTbl.triesFor req.name)
          (newEntry session req req.instanceId tokens) a) := by
  rw [← allocateInstance_ok_iff]
  unfold handleAlloc
  cases hinst : ns.allocateInstance req.name req.instanceId with
  | mk allocator result =>
    cases result with
    | error status =>
      -- refused: nothing is entered
      refine iff_of_true ?_ ?_
      · intro _ _
        simp only [onAllocServiceAddressReq, hinst]
      · intro hex
        obtain ⟨_, hok⟩ := hex
        cases hok
    | ok inst =>
      have havail := addressAvailable_newEntry cfg env session hinst tokens a
      have hanswer := addedList_eq_nil_iff cfg
        (show (newEntry session req inst tokens).mAddrTbl = [] from rfl)
        (tellable_allocateAll cfg env ns.mRegistryTbl (newEntry session req inst tokens) a)
      obtain ⟨hentered, hfails⟩ := onAllocServiceAddressReq_ok cfg session hinst
        (allocateAll cfg env ns.mRegistryTbl (newEntry session req inst tokens) a).1 tokens
      constructor
      · intro hunchanged _
        apply havail.mp
        intro hnil
        obtain ⟨status, hstatus⟩ := hfails.mpr (hanswer.mpr hnil)
        -- the service was not there before
        have hget := get_of_findService_nil (allocateInstance_ok hinst).1
        rw [hunchanged status hstatus, hget] at hentered
        cases hentered
      · intro himp status hstatus
        have hne := havail.mpr (himp ⟨inst, rfl⟩)
        exact absurd (hanswer.mp (hfails.mp ⟨status, hstatus⟩)) hne

/-- A name server with IPC sockets "u0", "u1", ... and no interfaces. -/
def ipcOnly : AllocConfig where
  nsIpc := ([], [])
  hsIpc := ([], [])
  ipcPathBase := [112]
  ipcUrlBase := [117]
  nsTcpPort := fun _ => fdbInetPortAuto
  hsTcpPort := fun _ => fdbInetPortAuto
  tcpPortMin := 0
  tcpPortMax := 0
  portBySystem := true
  forceLocalhost := false
  networkList := fun _ => []
  createTCPAllocator := ∅

theorem localLevel_le : fdbExportableNodeInternal ≤ fdbExportableAny := by decide

/-- Its allocators at the start. -/
def freshAllocators : Allocators where
  mSocketId := 0#32
  mLocalAllocator := ⟨0, fdbLocalHost, fdbExportableNodeInternal, fdbInvalidId, localLevel_le⟩
  mTCPAllocators := ∅

/-- Service "b" has reported that it bound the first nine sockets. -/
def socketsTaken : NameServer where
  mRegistryTbl := RegistryTbl.put ∅ [98] 0#32
    { mSid := 1
      mSvcName := [98]
      mAddrTbl := (List.range 9).map fun k =>
        { mAddress := ⟨[117] ++ decimal k, .ipc, [112] ++ decimal k, 0, false⟩
          mStatus := .bound } }

/-- Service "a" asks twice.  The first request fails, as all tries are taken; there would be an
address for the second one, but the name is taken by the first. -/
theorem failed_alloc_blocks_name :
    let req : FdbMsgServerName := { name := [97] }
    let first := handleAlloc plainConfig ipcOnly socketsTaken freshAllocators 2 req []
    first.1.2 = .status .notAvailable
      ∧ (first.1.1.mRegistryTbl.get [97] 0#32).isSome = true
      ∧ (socketsTaken.mRegistryTbl.get [97] 0#32).isSome = false
      ∧ (handleAlloc plainConfig ipcOnly first.1.1 first.2 2 req []).1.2 = .status .alreadyExist
      ∧ (handleAlloc plainConfig ipcOnly socketsTaken first.2 2 req []).1.2
        ≠ .status .alreadyExist := by
  refine ⟨?_, ?_, ?_, ?_, ?_⟩
  · decide +kernel
  · decide +kernel
  · decide +kernel
  · decide +kernel
  · decide +kernel

end Fdbus.Server

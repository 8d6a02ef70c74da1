/-
  Fdbus.Server.Allocators — where the addresses of a service come from.

  The name server has one allocator for the sockets within the host and one for each interface.
  They count on, and the name server takes addresses from them until one is free, with a limited
  number of tries.

    * `allocateAddress` — the loop that takes addresses until one is free,
    * `allocateTCPAddress`, `allocateIPCAddress`, `allocateAll` — the addresses of a service,
    * `AddressAvailable` — when there is an address, said of the addresses that are taken and of the
      counters that the allocators stand at,
    * `allocateAll_ne_nil_iff` — an address is given exactly if one is available.

  A search that fails moves the counter of its interface, and the next one starts there; the secure
  channel of an interface is searched for behind the ports of the other one.
-/
import Fdbus.Library.Orbit
import Fdbus.Server.NameServer

namespace Fdbus.Server

open Fdbus.OrderedMap Fdbus.Orbit Fdbus.Security Fdbus.Subscribe List Option Function

/-! ## §1. The allocators. -/

/-- `FdbServerType`, as far as `getSvcType` gives it. -/
inductive FdbServerType where
  | nameServer
  | hostServer
  | user
  deriving Repr, DecidableEq

/-- `getSvcType(svc_name)`. -/
def getSvcType (cfg : NsConfig) (svcName : Text) : FdbServerType :=
  if svcName = cfg.nsName then .nameServer
  else if svcName = cfg.hostServerName then .hostServer
  else .user

/-- `CTCPAddressAllocator`: one interface.  A level is an `int32_t`. -/
structure CTCPAddressAllocator where
  mPort : Int
  mInterfaceIp : Text
  mExportableLevel : Int
  mInterfaceId : Int
  level_le : mExportableLevel ≤ fdbExportableAny

/-- How the name server was built and configured: its well-known addresses, the ranges of the
others, `CFG_ALLOC_PORT_BY_SYSTEM`, `CONFIG_FORCE_LOCALHOST`, the networks that the security
configuration lists for a service, and the table that `createTCPAllocator` makes. -/
structure AllocConfig where
  nsIpc : Text × Text
  hsIpc : Text × Text
  ipcPathBase : Text
  ipcUrlBase : Text
  nsTcpPort : Bool → Int
  hsTcpPort : Bool → Int
  tcpPortMin : Int
  tcpPortMax : Int
  portBySystem : Bool
  forceLocalhost : Bool
  networkList : Text → List CFdbSocketAddr
  createTCPAllocator : Map Text CTCPAddressAllocator

/-- The allocators of the name server. -/
structure Allocators where
  mSocketId : BitVec 32
  mLocalAllocator : CTCPAddressAllocator
  mTCPAllocators : Map Text CTCPAddressAllocator

section Allocate

variable (env : AllocConfig)

/-- The IPC path and URL of a socket. -/
def ipcPath (id : BitVec 32) : Text := env.ipcPathBase ++ decimal id.toNat

def ipcUrl (id : BitVec 32) : Text := env.ipcUrlBase ++ decimal id.toNat

/-- `CIPCAddressAllocator::allocate(alloc_addr, svc_type, false)`. -/
def ipcAllocate (svcType : FdbServerType) (id : BitVec 32) : CAllocatedAddress × BitVec 32 :=
  let at_ (path url : Text) : CAllocatedAddress :=
    ⟨⟨url, .ipc, path, 0, false⟩, fdbExportableNodeInternal, fdbInvalidId⟩
  match svcType with
  | .nameServer => (at_ env.nsIpc.1 env.nsIpc.2, id)
  | .hostServer => (at_ env.hsIpc.1 env.hsIpc.2, id)
  | .user => (at_ (ipcPath env id) (ipcUrl env id), id + 1#32)

/-- An address of the allocator's interface. -/
def CTCPAddressAllocator.address (alloc : CTCPAddressAllocator) (port : Int) (secure : Bool) :
    CAllocatedAddress :=
  ⟨⟨buildUrl alloc.mInterfaceIp port secure, .tcp, alloc.mInterfaceIp, port, secure⟩,
    alloc.mExportableLevel, alloc.mInterfaceId⟩

/-- `CTCPAddressAllocator::allocateKnownAddr(alloc_addr, svc_type, secure)`. -/
def CTCPAddressAllocator.allocateKnownAddr (alloc : CTCPAddressAllocator) (svcType : FdbServerType)
    (secure : Bool) : Option CAllocatedAddress :=
  match svcType with
  | .nameServer => some (alloc.address (env.nsTcpPort secure) secure)
  | .hostServer => some (alloc.address (env.hsTcpPort secure) secure)
  | .user => none

/-- `CTCPAddressAllocator::allocate(alloc_addr, svc_type, secure)`. -/
def CTCPAddressAllocator.allocate (svcType : FdbServerType) (secure : Bool)
    (alloc : CTCPAddressAllocator) : CAllocatedAddress × CTCPAddressAllocator :=
  match alloc.allocateKnownAddr env svcType secure with
  | some addr => (addr, alloc)
  | none =>
    if env.portBySystem then (alloc.address fdbInetPortAuto secure, alloc)
    else
      (alloc.address alloc.mPort secure,
        { alloc with
          mPort := if alloc.mPort + 1 > env.tcpPortMax then env.tcpPortMin else alloc.mPort + 1 })

end Allocate

/-! ## §2. An address that is free. -/

/-- `findAddress(type, url)`: some service has the address. -/
def RegistryTbl.findAddress (reg : RegistryTbl) (type : EFdbSocketType) (url : Text) : Bool :=
  reg.all.any fun m => m.entry.mAddrTbl.any fun desc =>
    (type = .max ∨ desc.mAddress.mType = type) ∧ desc.mAddress.mUrl = url

/-- `retries`: "8 is just come to me...".  The loop counts down before it tries. -/
def RegistryTbl.tries (reg : RegistryTbl) : Nat := reg.size + 7

section Search

variable {α : Type} (reg : RegistryTbl) (svcType : FdbServerType)

/-- The address may be given away. -/
def acceptable (addr : CAllocatedAddress) : Bool :=
  (addr.mSocketAddr.mType = .tcp ∧ addr.mSocketAddr.mPort = fdbInetPortAuto)
    ∨ svcType ≠ .user ∨ !reg.findAddress addr.mSocketAddr.mType addr.mSocketAddr.mUrl

/-- `allocateAddress(allocator, addr_tbl, allocated_addr, secure)`, with so many tries. -/
def allocateAddress (allocate : α → CAllocatedAddress × α) : Nat → α → Option CAllocatedAddress × α
  | 0, alloc => (none, alloc)
  | tries + 1, alloc =>
    let r := allocate alloc
    if acceptable reg svcType r.1 then (some r.1, r.2) else allocateAddress allocate tries r.2

end Search

/-! ## §3. The addresses of a service. -/

section Service

variable (cfg : NsConfig) (env : AllocConfig) (reg : RegistryTbl) (entry : CSvcRegistryEntry)

/-- `allocateTCPAddress(allocator, addr_tbl, sckt_addr_tbl, secure)` for one network of the
service.  An address with a port of its own has level and interface 0. -/
def allocateNetwork (secure : Bool) (s : List CAllocatedAddress × CTCPAddressAllocator)
    (network : CFdbSocketAddr) : List CAllocatedAddress × CTCPAddressAllocator :=
  let svcType := getSvcType cfg entry.mSvcName
  if network.mType ≠ .tcp ∨ network.mSecure ≠ secure ∨ s.2.mInterfaceIp ≠ network.mAddr then s
  else
    match s.2.allocateKnownAddr env svcType secure with
    | some addr =>
      if reg.findAddress addr.mSocketAddr.mType addr.mSocketAddr.mUrl then s
      else (s.1 ++ [addr], s.2)
    | none =>
      if network.mPort = fdbInetPortAuto then
        let r := allocateAddress reg svcType (CTCPAddressAllocator.allocate env svcType secure)
          reg.tries s.2
        (s.1 ++ r.1.toList, r.2)
      else if reg.findAddress network.mType network.mUrl then s
      else (s.1 ++ [⟨network, 0, 0⟩], s.2)

/-- `allocateTCPAddress(allocator, addr_tbl, sckt_addr_tbl, secure)`. -/
def allocateOnInterface (secure : Bool) (alloc : CTCPAddressAllocator) :
    List CAllocatedAddress × CTCPAddressAllocator :=
  let svcType := getSvcType cfg entry.mSvcName
  if env.networkList entry.mSvcName = [] then
    let r := allocateAddress reg svcType (CTCPAddressAllocator.allocate env svcType secure)
      reg.tries alloc
    (r.1.toList, r.2)
  else (env.networkList entry.mSvcName).foldl (allocateNetwork cfg env reg entry secure) ([], alloc)

/-- `allocateTCPAddress(allocator, addr_tbl, sckt_addr_tbl)`: without a secure channel, and then
with one, as the service allows. -/
def allocateInterface (alloc : CTCPAddressAllocator) :
    List CAllocatedAddress × CTCPAddressAllocator :=
  let normal := if entry.mAllowTcpNormal then allocateOnInterface cfg env reg entry false alloc
    else ([], alloc)
  let secure := if entry.mAllowTcpSecure then allocateOnInterface cfg env reg entry true normal.2
    else ([], normal.2)
  (normal.1 ++ secure.1, secure.2)

/-- `allocateTCPAddress(allocator_tbl, addr_tbl, sckt_addr_tbl)`: the interfaces that the service
may be exported on. -/
def allocateTable (tbl : Map Text CTCPAddressAllocator) :
    List CAllocatedAddress × Map Text CTCPAddressAllocator :=
  tbl.toList.foldl (fun s e =>
    if entry.mExportableLevel ≥ e.2.mExportableLevel then
      let r := allocateInterface cfg env reg entry e.2
      (s.1 ++ r.1, s.2.insert e.1 r.2)
    else s) ([], tbl)

/-- `allocateTCPAddress(addr_tbl, sckt_addr_tbl)`.  For a host server the table is a new one. -/
def allocateTCPAddress (a : Allocators) : List CAllocatedAddress × Allocators :=
  if getSvcType cfg entry.mSvcName = .hostServer then
    ((allocateTable cfg env reg entry env.createTCPAllocator).1, a)
  else
    let r := allocateTable cfg env reg entry a.mTCPAllocators
    (r.1, { a with mTCPAllocators := r.2 })

/-- `allocateIPCAddress(addr_tbl, sckt_addr_tbl)`. -/
def allocateIPCAddress (a : Allocators) : List CAllocatedAddress × Allocators :=
  let svcType := getSvcType cfg entry.mSvcName
  let r := allocateAddress reg svcType (ipcAllocate env svcType) reg.tries a.mSocketId
  (r.1.toList, { a with mSocketId := r.2 })

/-- The addresses within the host: TCP where there are no IPC sockets. -/
def allocateLocal (a : Allocators) : List CAllocatedAddress × Allocators :=
  if env.forceLocalhost then
    let r := allocateInterface cfg env reg entry a.mLocalAllocator
    (r.1, { a with mLocalAllocator := r.2 })
  else allocateIPCAddress cfg env reg entry a

end Service

section Request

variable (cfg : NsConfig) (env : AllocConfig)

/-- The allocators' part of `addServiceAddress(reg_entry, false, ..)`.  The entry is in the registry
when they search it, from the second step on with the addresses of the first. -/
def allocateAll (reg : RegistryTbl) (entry : CSvcRegistryEntry) (a : Allocators) :
    List CAllocatedAddress × Allocators :=
  let atHost := allocateLocal cfg env (reg.put entry.mSvcName entry.mInstanceId entry) entry a
  let entered := { entry with mAddrTbl := addServiceAddress entry.mAddrTbl atHost.1 }
  let inet := allocateTCPAddress cfg env (reg.put entry.mSvcName entry.mInstanceId entered) entered
    atHost.2
  (atHost.1 ++ inet.1, inet.2)

end Request

/-! ## §4. When there is an address.

`find` says which addresses are taken, and `tries` is the limit of the loop. -/

section Ports

variable (env : AllocConfig) (find : EFdbSocketType → Text → Bool)

/-- The next sockets are all taken. -/
def IpcExhausted (id : BitVec 32) (tries : Nat) : Prop :=
  ∀ k < tries, find .ipc (ipcUrl env (id + BitVec.ofNat 32 k)) = true

/-- The port that the allocator tries after this one. -/
def nextPort (port : Int) : Int :=
  if port + 1 > env.tcpPortMax then env.tcpPortMin else port + 1

/-- One of so many ports of an interface, from this one on, is free. -/
def FreePort (ip : Text) (secure : Bool) (port : Int) (tries : Nat) : Prop :=
  ∃ k < tries, (nextPort env)^[k] port = fdbInetPortAuto
    ∨ find .tcp (buildUrl ip ((nextPort env)^[k] port) secure) = false

/-- The port may be given away: it is chosen by the system, or its URL is not registered. -/
def RegistryTbl.portOpen (reg : RegistryTbl) (ip : Text) (secure : Bool) (port : Int) : Bool :=
  port = fdbInetPortAuto || !reg.findAddress .tcp (buildUrl ip port secure)

variable {env find}

theorem freePort_add {ip : Text} {secure : Bool} {port : Int} (m n : Nat) :
    FreePort env find ip secure port (m + n)
      ↔ FreePort env find ip secure port m
        ∨ FreePort env find ip secure ((nextPort env)^[m] port) n := by
  constructor
  · intro h
    obtain ⟨k, hk, hfree⟩ := h
    by_cases hkm : k < m
    · exact .inl ⟨k, hkm, hfree⟩
    · refine .inr ⟨k - m, by omega, ?_⟩
      rw [← iterate_add_apply, Nat.sub_add_cancel (Nat.le_of_not_lt hkm)]
      exact hfree
  · intro h
    rcases h with ⟨k, hk, hfree⟩ | ⟨k, hk, hfree⟩
    · exact ⟨k, by omega, hfree⟩
    · rw [← iterate_add_apply] at hfree
      exact ⟨k + m, by omega, hfree⟩

end Ports

open CTCPAddressAllocator

section Loops

variable {env : AllocConfig} {reg : RegistryTbl}

/-- **The loop is a search** along the states of the allocator. -/
theorem allocateAddress_eq {α : Type} (svcType : FdbServerType)
    (allocate : α → CAllocatedAddress × α) (tries : Nat) :
    ∀ alloc, allocateAddress reg svcType allocate tries alloc
      = Prod.map (Option.map fun alloc => (allocate alloc).1) id
        (search (fun alloc => (allocate alloc).2)
          (fun alloc => acceptable reg svcType (allocate alloc).1) tries alloc) := by
  induction tries with
  | zero => exact fun _ => rfl
  | succ tries ih =>
    intro alloc
    by_cases haccept : acceptable reg svcType (allocate alloc).1 = true
    · simp [allocateAddress, search, haccept]
    · simp [allocateAddress, search, haccept, ih]

/-- **No IPC address**: the loop gives up exactly if the service is a user's, and each of the
sockets that it tries is taken. -/
theorem allocateAddress_ipc_none_iff (svcType : FdbServerType) (tries : Nat) (id : BitVec 32) :
    (allocateAddress reg svcType (ipcAllocate env svcType) (tries + 1) id).1 = none
      ↔ svcType = .user ∧ IpcExhausted env reg.findAddress id (tries + 1) := by
  cases svcType with
  | nameServer | hostServer => simp [allocateAddress, acceptable]
  | user =>
    have hnext : ∀ k, (fun id => (ipcAllocate env .user id).2)^[k] id = id + BitVec.ofNat 32 k := by
      intro k
      induction k with
      | zero => exact (BitVec.add_zero id).symm
      | succ k ih =>
        rw [iterate_succ_apply', ih, BitVec.ofNat_add, ← BitVec.add_assoc]
        rfl
    rw [allocateAddress_eq, Prod.map_fst, map_eq_none_iff, search_eq_none_iff]
    simp only [hnext]
    simp [IpcExhausted, acceptable, ipcAllocate]

/-- The allocator when it has tried so many ports. -/
def CTCPAddressAllocator.advance (env : AllocConfig) (n : Nat) (alloc : CTCPAddressAllocator) :
    CTCPAddressAllocator :=
  { alloc with mPort := (nextPort env)^[n] alloc.mPort }

/-- The ports are searched: the service is a user's, and the system does not choose them. -/
def SearchesPorts (env : AllocConfig) (svcType : FdbServerType) : Prop :=
  svcType = .user ∧ env.portBySystem = false

instance (svcType : FdbServerType) : Decidable (SearchesPorts env svcType) :=
  inferInstanceAs (Decidable (_ ∧ _))

/-- Where the ports of a user's service are not searched, the system chooses them. -/
theorem portBySystem_of_steady (hsteady : ¬ SearchesPorts env .user) : env.portBySystem = true := by
  by_contra h
  exact hsteady ⟨rfl, Bool.eq_false_iff.mpr h⟩

/-- Only a user's service has no well-known address. -/
theorem user_of_allocateKnownAddr_none {svcType : FdbServerType} {secure : Bool}
    {alloc : CTCPAddressAllocator} (h : alloc.allocateKnownAddr env svcType secure = none) :
    svcType = .user := by
  cases svcType with
  | nameServer | hostServer => cases h
  | user => rfl

/-- An address of a user's service, from the counter of the interface. -/
theorem allocate_user (hsystem : env.portBySystem = false) (secure : Bool)
    (alloc : CTCPAddressAllocator) :
    allocate env .user secure alloc = (alloc.address alloc.mPort secure, alloc.advance env 1) := by
  simp [allocate, allocateKnownAddr, hsystem, advance, nextPort]

theorem acceptable_address (reg : RegistryTbl) (alloc : CTCPAddressAllocator) (port : Int)
    (secure : Bool) : acceptable reg .user (alloc.address port secure)
      = reg.portOpen alloc.mInterfaceIp secure port := by
  simp [acceptable, address, RegistryTbl.portOpen]

theorem advance_advance (m n : Nat) (alloc : CTCPAddressAllocator) :
    (alloc.advance env m).advance env n = alloc.advance env (m + n) := by
  unfold advance
  rw [Nat.add_comm m n]
  simp only [iterate_add_apply]

theorem advance_iterate (k : Nat) (alloc : CTCPAddressAllocator) :
    (fun alloc => alloc.advance env 1)^[k] alloc = alloc.advance env k := by
  induction k with
  | zero => rfl
  | succ k ih => rw [iterate_succ_apply', ih, advance_advance]

/-- **The loop over the ports** is a search along the counter of the allocator. -/
theorem allocateAddress_user (hsystem : env.portBySystem = false) (reg : RegistryTbl)
    (secure : Bool) (tries : Nat) (alloc : CTCPAddressAllocator) :
    allocateAddress reg .user (allocate env .user secure) tries alloc
      = Prod.map (Option.map fun alloc => alloc.address alloc.mPort secure) id
        (search (fun alloc => alloc.advance env 1)
          (fun alloc => reg.portOpen alloc.mInterfaceIp secure alloc.mPort) tries alloc) := by
  simp only [allocateAddress_eq, allocate_user hsystem, acceptable_address]

/-- **No TCP address**: the loop over the ports gives up exactly if each is taken, and it has then
tried them all. -/
theorem allocateAddress_ports (reg : RegistryTbl) (hsystem : env.portBySystem = false)
    (secure : Bool) (tries : Nat) (alloc : CTCPAddressAllocator) :
    let r := allocateAddress reg .user (allocate env .user secure) tries alloc
    (r.1 = none ↔ ¬ FreePort env reg.findAddress alloc.mInterfaceIp secure alloc.mPort tries)
      ∧ (r.1 = none → r.2 = alloc.advance env tries) := by
  simp only [allocateAddress_user hsystem, Prod.map_fst, Prod.map_snd, map_eq_none_iff]
  refine ⟨?_, fun h => (search_snd_of_none h).trans (advance_iterate tries alloc)⟩
  simp only [search_eq_none_iff, advance_iterate]
  simp only [RegistryTbl.portOpen, Bool.or_eq_false_iff, decide_eq_false_iff_not]
  simp [FreePort, advance]

/-- Without a search the first address is taken. -/
theorem allocateAddress_steady (reg : RegistryTbl) {svcType : FdbServerType}
    (hsteady : ¬ SearchesPorts env svcType) (secure : Bool) (tries : Nat)
    (alloc : CTCPAddressAllocator) :
    (allocateAddress reg svcType (allocate env svcType secure) (tries + 1)
      alloc).1 ≠ none := by
  have haccept : acceptable reg svcType
      (allocate env svcType secure alloc).1 = true := by
    cases svcType with
    | nameServer | hostServer => simp [acceptable]
    | user =>
      simp [acceptable, allocate, allocateKnownAddr,
        portBySystem_of_steady hsteady, address]
  unfold allocateAddress
  rw [if_pos haccept]
  exact some_ne_none _

end Loops

section Available

variable (cfg : NsConfig) (env : AllocConfig) (find : EFdbSocketType → Text → Bool) (tries : Nat)

/-- A network of the security configuration is on the interface, for the channel. -/
def OnInterface (secure : Bool) (alloc : CTCPAddressAllocator) (network : CFdbSocketAddr) : Prop :=
  network.mType = .tcp ∧ network.mSecure = secure ∧ alloc.mInterfaceIp = network.mAddr

instance (secure : Bool) (alloc : CTCPAddressAllocator) (network : CFdbSocketAddr) :
    Decidable (OnInterface secure alloc network) :=
  inferInstanceAs (Decidable (_ ∧ _))

/-- How often the ports are searched for a channel: once, or for each network without a port. -/
def searches (networks : List CFdbSocketAddr) (secure : Bool) (alloc : CTCPAddressAllocator) :
    Nat :=
  if networks = [] then 1
  else networks.countP fun n => OnInterface secure alloc n ∧ n.mPort = fdbInetPortAuto

/-- A network has an address: the well-known one, one of the ports that are searched from `port`
on, or its own. -/
def NetworkFree (svcType : FdbServerType) (count : Nat) (secure : Bool)
    (alloc : CTCPAddressAllocator) (port : Int) (network : CFdbSocketAddr) : Prop :=
  match alloc.allocateKnownAddr env svcType secure with
  | some addr => find addr.mSocketAddr.mType addr.mSocketAddr.mUrl = false
  | none =>
    if network.mPort = fdbInetPortAuto then
      env.portBySystem = true ∨ FreePort env find alloc.mInterfaceIp secure port (count * tries)
    else find network.mType network.mUrl = false

/-- There is an address for a channel on an interface, when the ports are searched from `port`
on. -/
def ChannelFree (svcType : FdbServerType) (networks : List CFdbSocketAddr) (secure : Bool)
    (alloc : CTCPAddressAllocator) (port : Int) : Prop :=
  if networks = [] then
    ¬ SearchesPorts env svcType ∨ FreePort env find alloc.mInterfaceIp secure port tries
  else ∃ n ∈ networks, OnInterface secure alloc n
    ∧ NetworkFree env find tries svcType (searches networks secure alloc) secure alloc port n

/-- There is an address for a service on an interface.  The secure channel is searched for behind
the ports of the other one. -/
def InterfaceFree (entry : CSvcRegistryEntry) (alloc : CTCPAddressAllocator) : Prop :=
  let svcType := getSvcType cfg entry.mSvcName
  let networks := env.networkList entry.mSvcName
  (entry.mAllowTcpNormal = true
      ∧ ChannelFree env find tries svcType networks false alloc alloc.mPort)
    ∨ (entry.mAllowTcpSecure = true
      ∧ ChannelFree env find tries svcType networks true alloc
        (if entry.mAllowTcpNormal then
          (nextPort env)^[searches networks false alloc * tries] alloc.mPort else alloc.mPort))

/-- Some allocator has an address for a service: within the host, or on an interface that it may
be exported on. -/
def AddressAvailable (entry : CSvcRegistryEntry) (a : Allocators) : Prop :=
  (if env.forceLocalhost then InterfaceFree cfg env find tries entry a.mLocalAllocator
    else getSvcType cfg entry.mSvcName = .user → ¬ IpcExhausted env find a.mSocketId tries)
  ∨ ∃ (ip : Text) (alloc : CTCPAddressAllocator),
    (if getSvcType cfg entry.mSvcName = .hostServer then env.createTCPAllocator
      else a.mTCPAllocators)[ip]? = some alloc
    ∧ entry.mExportableLevel ≥ alloc.mExportableLevel ∧ InterfaceFree cfg env find tries entry alloc

end Available

section Networks

variable {cfg : NsConfig} {env : AllocConfig} {reg : RegistryTbl} {entry : CSvcRegistryEntry}

/-- What was given is kept. -/
theorem foldl_allocateNetwork_ne (cfg : NsConfig) (env : AllocConfig) (reg : RegistryTbl)
    (entry : CSvcRegistryEntry) (secure : Bool) (networks : List CFdbSocketAddr) :
    ∀ s : List CAllocatedAddress × CTCPAddressAllocator, s.1 ≠ [] →
      (networks.foldl (allocateNetwork cfg env reg entry secure) s).1 ≠ [] := by
  intro s hs
  refine foldlRecOn
    (motive := fun s : List CAllocatedAddress × CTCPAddressAllocator => s.1 ≠ []) networks _ hs ?_
  intro s hs network _
  unfold allocateNetwork
  dsimp only
  split
  · exact hs
  · split
    · split
      · exact hs
      · simp
    · split
      · simp [hs]
      · split
        · exact hs
        · simp

variable {secure : Bool} {s : List CAllocatedAddress × CTCPAddressAllocator}
  {network : CFdbSocketAddr}

/-- A network off the interface gives nothing. -/
theorem allocateNetwork_off (h : ¬ OnInterface secure s.2 network) :
    allocateNetwork cfg env reg entry secure s network = s := by
  unfold allocateNetwork
  rw [if_pos]
  unfold OnInterface at h
  tauto

/-- A network on the interface. -/
theorem allocateNetwork_on (h : OnInterface secure s.2 network) :
    allocateNetwork cfg env reg entry secure s network
      = match s.2.allocateKnownAddr env (getSvcType cfg entry.mSvcName) secure with
        | some addr =>
          if reg.findAddress addr.mSocketAddr.mType addr.mSocketAddr.mUrl then s
          else (s.1 ++ [addr], s.2)
        | none =>
          if network.mPort = fdbInetPortAuto then
            let r := allocateAddress reg (getSvcType cfg entry.mSvcName)
              (allocate env (getSvcType cfg entry.mSvcName) secure)
              reg.tries s.2
            (s.1 ++ r.1.toList, r.2)
          else if reg.findAddress network.mType network.mUrl then s
          else (s.1 ++ [⟨network, 0, 0⟩], s.2) := by
  unfold allocateNetwork
  rw [if_neg]
  unfold OnInterface at h
  tauto

/-- A network without a search. -/
theorem allocateNetwork_steady (reg : RegistryTbl)
    (hsteady : ¬ SearchesPorts env (getSvcType cfg entry.mSvcName)) (secure : Bool)
    (alloc : CTCPAddressAllocator) (count : Nat) (port : Int) (network : CFdbSocketAddr) :
    ((allocateNetwork cfg env reg entry secure ([], alloc) network).1 ≠ []
        ∧ OnInterface secure alloc network
        ∧ NetworkFree env reg.findAddress reg.tries (getSvcType cfg entry.mSvcName) count secure
          alloc port network)
      ∨ (allocateNetwork cfg env reg entry secure ([], alloc) network = ([], alloc)
        ∧ ¬ (OnInterface secure alloc network
          ∧ NetworkFree env reg.findAddress reg.tries (getSvcType cfg entry.mSvcName) count secure
            alloc port network)) := by
  by_cases hon : OnInterface secure alloc network
  · rw [allocateNetwork_on hon]
    unfold NetworkFree
    cases hknown : alloc.allocateKnownAddr env (getSvcType cfg entry.mSvcName) secure with
    | some addr =>
      dsimp only
      cases reg.findAddress addr.mSocketAddr.mType addr.mSocketAddr.mUrl with
      | true => simp
      | false => simp [hon]
    | none =>
      by_cases hauto : network.mPort = fdbInetPortAuto
      · -- the system chooses the port
        have hsome := allocateAddress_steady reg hsteady secure (reg.size + 6) alloc
        refine .inl ⟨?_, hon, ?_⟩
        · rw [if_pos hauto]
          simpa [RegistryTbl.tries] using hsome
        · rw [if_pos hauto]
          rw [user_of_allocateKnownAddr_none hknown] at hsteady
          exact .inl (portBySystem_of_steady hsteady)
      · rw [if_neg hauto, if_neg hauto]
        cases reg.findAddress network.mType network.mUrl with
        | true => simp
        | false => simp [hon]
  · rw [allocateNetwork_off hon]
    exact .inr ⟨rfl, fun h => hon h.1⟩

variable {alloc : CTCPAddressAllocator} {find : EFdbSocketType → Text → Bool}
  {svcType : FdbServerType} {networks : List CFdbSocketAddr}

/-- **The networks of a service, without a search**: there is an address exactly if one of them has
one. -/
theorem foldl_allocateNetwork_steady
    (hsteady : ¬ SearchesPorts env (getSvcType cfg entry.mSvcName)) (count : Nat) (port : Int)
    (networks : List CFdbSocketAddr) :
    let r := networks.foldl (allocateNetwork cfg env reg entry secure) ([], alloc)
    (r.1 = [] ↔ ¬ ∃ n ∈ networks, OnInterface secure alloc n
        ∧ NetworkFree env reg.findAddress reg.tries (getSvcType cfg entry.mSvcName) count secure
          alloc port n)
      ∧ (r.1 = [] → r.2 = alloc) := by
  induction networks with
  | nil => simp
  | cons n networks ih =>
    rw [foldl_cons]
    rcases allocateNetwork_steady reg hsteady secure alloc count port n with
      ⟨hne, hfree⟩ | ⟨hsame, hnone⟩
    · have hkept := foldl_allocateNetwork_ne cfg env reg entry secure networks _ hne
      refine ⟨iff_of_false hkept ?_, fun h => absurd h hkept⟩
      exact not_not.mpr ⟨n, mem_cons_self .., hfree⟩
    · rw [hsame]
      simpa only [exists_mem_cons_iff, or_iff_right hnone] using ih

/-- A network without a port, with a search. -/
theorem allocateNetwork_ports (reg : RegistryTbl)
    (h : SearchesPorts env (getSvcType cfg entry.mSvcName)) {secure : Bool}
    {network : CFdbSocketAddr} (hon : OnInterface secure alloc network)
    (hauto : network.mPort = fdbInetPortAuto) :
    ((allocateNetwork cfg env reg entry secure ([], alloc) network).1 ≠ []
        ∧ FreePort env reg.findAddress alloc.mInterfaceIp secure alloc.mPort reg.tries)
      ∨ (allocateNetwork cfg env reg entry secure ([], alloc) network
          = ([], alloc.advance env reg.tries)
        ∧ ¬ FreePort env reg.findAddress alloc.mInterfaceIp secure alloc.mPort reg.tries) := by
  have hknown : alloc.allocateKnownAddr env (getSvcType cfg entry.mSvcName) secure = none := by
    rw [h.1]
    rfl
  obtain ⟨hnone, hstate⟩ := allocateAddress_ports reg h.2 secure reg.tries alloc
  rw [allocateNetwork_on hon]
  simp only [hknown]
  rw [if_pos hauto, h.1, nil_append]
  by_cases hfree : FreePort env reg.findAddress alloc.mInterfaceIp secure alloc.mPort reg.tries
  · refine .inl ⟨?_, hfree⟩
    rw [Ne, toList_eq_nil_iff, hnone]
    exact not_not.mpr hfree
  · refine .inr ⟨?_, hfree⟩
    rw [hstate (hnone.mpr hfree), hnone.mpr hfree]
    rfl

/-- **The networks of a service, with a search**: there is none exactly if every port of their own
is taken, and every port that was searched. -/
theorem foldl_allocateNetwork_ports (reg : RegistryTbl)
    (h : SearchesPorts env (getSvcType cfg entry.mSvcName)) (secure : Bool)
    (networks : List CFdbSocketAddr) :
    ∀ alloc : CTCPAddressAllocator,
      let r := networks.foldl (allocateNetwork cfg env reg entry secure) ([], alloc)
      let count := networks.countP fun n => OnInterface secure alloc n ∧ n.mPort = fdbInetPortAuto
      (r.1 = [] ↔ (∀ n ∈ networks, OnInterface secure alloc n → n.mPort ≠ fdbInetPortAuto →
            reg.findAddress n.mType n.mUrl = true)
          ∧ ¬ FreePort env reg.findAddress alloc.mInterfaceIp secure alloc.mPort
            (count * reg.tries))
        ∧ (r.1 = [] → r.2 = alloc.advance env (count * reg.tries)) := by
  -- induction on the networks; each search starts where the one before it stopped
  induction networks with
  | nil =>
    simp [FreePort, advance]
  | cons n networks ih =>
    intro alloc
    dsimp only
    rw [foldl_cons]
    by_cases hon : OnInterface secure alloc n
    · by_cases hauto : n.mPort = fdbInetPortAuto
      · rw [countP_cons_of_pos (by simp [hon, hauto]), Nat.add_mul, Nat.one_mul,
          Nat.add_comm (_ * _) reg.tries, freePort_add]
        rcases allocateNetwork_ports reg h hon hauto with ⟨hne, hfree⟩ | ⟨hstep, hnone⟩
        · have hkept := foldl_allocateNetwork_ne cfg env reg entry secure networks _ hne
          exact ⟨iff_of_false hkept fun hall => hall.2 (.inl hfree), fun h => absurd h hkept⟩
        · obtain ⟨hempty, hlast⟩ := ih (alloc.advance env reg.tries)
          rw [hstep, or_iff_right hnone, ← advance_advance]
          refine ⟨hempty.trans (and_congr_left fun _ => ?_), hlast⟩
          simp only [forall_mem_cons, hauto, ne_eq, not_true_eq_false, false_implies,
            implies_true, true_and]
          exact Iff.rfl
      · -- a network with a port of its own
        have hown : allocateNetwork cfg env reg entry secure ([], alloc) n
            = if reg.findAddress n.mType n.mUrl then ([], alloc) else ([⟨n, 0, 0⟩], alloc) := by
          rw [allocateNetwork_on hon, h.1]
          exact if_neg hauto
        rw [hown, countP_cons_of_neg (by simp [hauto])]
        cases htaken : reg.findAddress n.mType n.mUrl with
        | true =>
          rw [if_pos rfl]
          simpa only [forall_mem_cons, htaken, implies_true, true_and] using ih alloc
        | false =>
          have hkept := foldl_allocateNetwork_ne cfg env reg entry secure networks
            ([] ++ [(⟨n, 0, 0⟩ : CAllocatedAddress)], alloc) (by simp)
          refine ⟨iff_of_false hkept fun hall => ?_, fun h => absurd h hkept⟩
          have hfound := hall.1 n mem_cons_self hon hauto
          rw [htaken] at hfound
          cases hfound
    · rw [allocateNetwork_off hon, countP_cons_of_neg (by simp [hon])]
      simpa only [forall_mem_cons, hon, false_implies, true_and] using ih alloc

/-- A network has an address if its own port is free, or one of the ports that are searched for all
of them. -/
theorem exists_networkFree_iff {tries : Nat} (h : SearchesPorts env svcType) {secure : Bool}
    {port : Int} :
    let count := networks.countP fun n => OnInterface secure alloc n ∧ n.mPort = fdbInetPortAuto
    (∃ n ∈ networks, OnInterface secure alloc n
        ∧ NetworkFree env find tries svcType count secure alloc port n)
      ↔ (∃ n ∈ networks, OnInterface secure alloc n ∧ n.mPort ≠ fdbInetPortAuto
          ∧ find n.mType n.mUrl = false)
        ∨ FreePort env find alloc.mInterfaceIp secure port (count * tries) := by
  intro count
  have hnetwork : ∀ n, NetworkFree env find tries svcType count secure alloc port n
      ↔ if n.mPort = fdbInetPortAuto then
          FreePort env find alloc.mInterfaceIp secure port (count * tries)
        else find n.mType n.mUrl = false := by
    rw [h.1]
    simp [NetworkFree, allocateKnownAddr, h.2]
  simp only [hnetwork]
  constructor
  · intro hex
    obtain ⟨n, hn, hon, hfree⟩ := hex
    split at hfree
    · exact .inr hfree
    · next hauto => exact .inl ⟨n, hn, hon, hauto, hfree⟩
  · intro hor
    rcases hor with ⟨n, hn, hon, hauto, hfree⟩ | hfree
    · exact ⟨n, hn, hon, by rw [if_neg hauto]; exact hfree⟩
    · -- a port was searched, so it was for some network
      have hcount : 0 < count := by
        obtain ⟨k, hk, _⟩ := hfree
        exact Nat.pos_of_mul_pos_right (Nat.zero_lt_of_lt hk)
      obtain ⟨n, hn, hon⟩ := countP_pos_iff.mp hcount
      obtain ⟨hon, hauto⟩ := of_decide_eq_true hon
      exact ⟨n, hn, hon, by rw [if_pos hauto]; exact hfree⟩

/-- **A channel on an interface**: there is no address exactly if none is free; the ports that were
searched are behind the allocator then. -/
theorem allocateOnInterface_nil_iff (cfg : NsConfig) (env : AllocConfig) (reg : RegistryTbl)
    (entry : CSvcRegistryEntry) (secure : Bool) (alloc : CTCPAddressAllocator) :
    let r := allocateOnInterface cfg env reg entry secure alloc
    let networks := env.networkList entry.mSvcName
    (r.1 = [] ↔ ¬ ChannelFree env reg.findAddress reg.tries (getSvcType cfg entry.mSvcName) networks
        secure alloc alloc.mPort)
      ∧ (r.1 = [] → r.2 = if SearchesPorts env (getSvcType cfg entry.mSvcName) then
          alloc.advance env (searches networks secure alloc * reg.tries) else alloc) := by
  unfold allocateOnInterface ChannelFree
  dsimp only
  by_cases hnone : env.networkList entry.mSvcName = []
  · rw [if_pos hnone, if_pos hnone]
    by_cases hports : SearchesPorts env (getSvcType cfg entry.mSvcName)
    · obtain ⟨hnil, hstate⟩ := allocateAddress_ports reg hports.2 secure reg.tries alloc
      rw [if_pos hports, hports.1, toList_eq_nil_iff, hnil]
      refine ⟨?_, fun h => ?_⟩
      · rw [or_iff_right (not_not.mpr (hports.1 ▸ hports))]
      · rw [hstate (hnil.mpr h)]
        simp [searches, hnone]
    · have hsome := allocateAddress_steady reg hports secure (reg.size + 6) alloc
      rw [toList_eq_nil_iff]
      refine ⟨iff_of_false hsome (not_not.mpr (.inl hports)), fun h => absurd h hsome⟩
  · rw [if_neg hnone, if_neg hnone]
    by_cases hports : SearchesPorts env (getSvcType cfg entry.mSvcName)
    · obtain ⟨hnil, hstate⟩ := foldl_allocateNetwork_ports reg hports secure
        (env.networkList entry.mSvcName) alloc
      rw [if_pos hports, hnil]
      refine ⟨?_, ?_⟩
      · unfold searches
        rw [if_neg hnone]
        refine Iff.trans ?_ (not_congr (exists_networkFree_iff hports)).symm
        simp only [not_or, not_exists, not_and, Bool.not_eq_false]
      · intro h
        rw [hstate (hnil.mpr h)]
        simp [searches, hnone]
    · rw [if_neg hports]
      exact foldl_allocateNetwork_steady hports _ _ _

/-- Where nothing is searched the port does not matter. -/
theorem channelFree_steady {tries : Nat} (hsteady : ¬ SearchesPorts env svcType) {secure : Bool}
    (port port' : Int) :
    ChannelFree env find tries svcType networks secure alloc port
      ↔ ChannelFree env find tries svcType networks secure alloc port' := by
  have hnetwork : ∀ count n, NetworkFree env find tries svcType count secure alloc port n
      ↔ NetworkFree env find tries svcType count secure alloc port' n := by
    intro count n
    cases svcType with
    | nameServer | hostServer => exact Iff.rfl
    | user =>
      simp [NetworkFree, allocateKnownAddr, portBySystem_of_steady hsteady]
  unfold ChannelFree
  simp only [hsteady, not_false_eq_true, true_or, hnetwork]

/-- **An interface**: no address is given exactly if none is free. -/
theorem allocateInterface_nil_iff (alloc : CTCPAddressAllocator) :
    (allocateInterface cfg env reg entry alloc).1 = []
      ↔ ¬ InterfaceFree cfg env reg.findAddress reg.tries entry alloc := by
  unfold allocateInterface InterfaceFree
  rw [append_eq_nil_iff, not_or]
  cases hnormal : entry.mAllowTcpNormal with
  | false =>
    cases hsecure : entry.mAllowTcpSecure with
    | false => simp
    | true =>
      simpa using (allocateOnInterface_nil_iff cfg env reg entry true alloc).1
  | true =>
    obtain ⟨hnil, hstate⟩ := allocateOnInterface_nil_iff cfg env reg entry false alloc
    simp only [if_true, true_and]
    rw [hnil]
    refine and_congr_right fun hnone => ?_
    rw [hstate (hnil.mpr hnone)]
    cases hsecure : entry.mAllowTcpSecure with
    | false => simp
    | true =>
      simp only [if_true, true_and]
      rw [(allocateOnInterface_nil_iff cfg env reg entry true _).1, not_iff_not]
      -- the secure channel is searched for where the other one stopped
      by_cases hports : SearchesPorts env (getSvcType cfg entry.mSvcName)
      · rw [if_pos hports]
        exact Iff.rfl
      · rw [if_neg hports]
        exact channelFree_steady hports _ _

/-- The allocators of the interfaces that the service may be exported on. -/
def exportedOn (entry : CSvcRegistryEntry) (tbl : Map Text CTCPAddressAllocator) :
    List CTCPAddressAllocator :=
  (tbl.toList.map (·.2)).filter fun alloc => entry.mExportableLevel ≥ alloc.mExportableLevel

theorem mem_exportedOn {tbl : Map Text CTCPAddressAllocator} :
    alloc ∈ exportedOn entry tbl
      ↔ ∃ ip : Text, tbl[ip]? = some alloc
        ∧ entry.mExportableLevel ≥ alloc.mExportableLevel := by
  unfold exportedOn
  simp [Std.ExtTreeMap.mem_toList_iff_getElem?_eq_some]

/-- The addresses of the interfaces, one after the other. -/
theorem allocateTable_fst (tbl : Map Text CTCPAddressAllocator) :
    (allocateTable cfg env reg entry tbl).1
      = (exportedOn entry tbl).flatMap fun alloc =>
        (allocateInterface cfg env reg entry alloc).1 := by
  -- induction on the entries of the table: what is given is appended
  have hfold : ∀ (es : List (Text × CTCPAddressAllocator))
      (s : List CAllocatedAddress × Map Text CTCPAddressAllocator),
      (es.foldl (fun s e =>
        if entry.mExportableLevel ≥ e.2.mExportableLevel then
          let r := allocateInterface cfg env reg entry e.2
          (s.1 ++ r.1, s.2.insert e.1 r.2)
        else s) s).1 = s.1 ++ ((es.map (·.2)).filter fun alloc =>
          entry.mExportableLevel ≥ alloc.mExportableLevel).flatMap fun alloc =>
            (allocateInterface cfg env reg entry alloc).1 := by
    intro es
    induction es with
    | nil => simp
    | cons e es ih =>
      intro s
      rw [foldl_cons, ih]
      split
      · next hlevel => simp [hlevel]
      · next hlevel => simp [hlevel]
  unfold allocateTable
  rw [hfold, nil_append]
  rfl

/-- **The interfaces**: no address is given exactly if none is free on one that the service may be
exported on. -/
theorem allocateTable_nil_iff (tbl : Map Text CTCPAddressAllocator) :
    (allocateTable cfg env reg entry tbl).1 = []
      ↔ ¬ ∃ (ip : Text) (alloc : CTCPAddressAllocator), tbl[ip]? = some alloc
        ∧ entry.mExportableLevel ≥ alloc.mExportableLevel
        ∧ InterfaceFree cfg env reg.findAddress reg.tries entry alloc := by
  rw [allocateTable_fst, flatMap_eq_nil_iff]
  simp only [mem_exportedOn, allocateInterface_nil_iff, not_exists, not_and]
  constructor
  · intro hall ip alloc hget hlevel
    exact hall alloc ⟨ip, hget, hlevel⟩
  · intro hall alloc hmem
    obtain ⟨ip, hget, hlevel⟩ := hmem
    exact hall ip alloc hget hlevel

end Networks

section All

variable (cfg : NsConfig) (env : AllocConfig) (reg : RegistryTbl) (entry : CSvcRegistryEntry)
  (a : Allocators)

theorem allocateLocal_nil_iff :
    (allocateLocal cfg env reg entry a).1 = []
      ↔ ¬ if env.forceLocalhost then
          InterfaceFree cfg env reg.findAddress reg.tries entry a.mLocalAllocator
        else getSvcType cfg entry.mSvcName = .user →
          ¬ IpcExhausted env reg.findAddress a.mSocketId reg.tries := by
  unfold allocateLocal
  by_cases hforce : env.forceLocalhost = true
  · rw [if_pos hforce, if_pos hforce]
    exact allocateInterface_nil_iff a.mLocalAllocator
  · rw [if_neg hforce, if_neg hforce, Classical.not_imp, not_not]
    show (allocateAddress reg _ (ipcAllocate env _) (reg.size + 6 + 1) a.mSocketId).1.toList = []
      ↔ _
    rw [toList_eq_nil_iff, allocateAddress_ipc_none_iff]
    rfl

/-- **Some address is given** exactly if one is available. -/
theorem allocateAll_ne_nil_iff :
    (allocateAll cfg env reg entry a).1 ≠ []
      ↔ AddressAvailable cfg env (reg.put entry.mSvcName entry.mInstanceId entry).findAddress
        (reg.put entry.mSvcName entry.mInstanceId entry).tries entry a := by
  unfold allocateAll AddressAvailable
  rw [Ne, append_eq_nil_iff, not_and_or]
  have hlocal := allocateLocal_nil_iff cfg env
    (reg.put entry.mSvcName entry.mInstanceId entry) entry a
  -- the addresses within the host leave the interfaces as they are
  have hkept : (allocateLocal cfg env (reg.put entry.mSvcName entry.mInstanceId entry) entry
      a).2.mTCPAllocators = a.mTCPAllocators := by
    unfold allocateLocal
    split <;> rfl
  have htcp : ∀ reg a, (allocateTCPAddress cfg env reg entry a).1
      = (allocateTable cfg env reg entry (if getSvcType cfg entry.mSvcName = .hostServer then
          env.createTCPAllocator else a.mTCPAllocators)).1 := by
    intro reg a
    unfold allocateTCPAddress
    split <;> rfl
  by_cases hnil : (allocateLocal cfg env (reg.put entry.mSvcName entry.mInstanceId entry) entry
      a).1 = []
  · rw [hnil, or_iff_right (not_not.mpr rfl), or_iff_right (hlocal.mp hnil),
      show addServiceAddress entry.mAddrTbl [] = entry.mAddrTbl from rfl, htcp, hkept,
      allocateTable_nil_iff, not_not]
  · exact iff_of_true (.inl hnil) (.inl (not_not.mp fun h => hnil (hlocal.mpr h)))

end All

end Fdbus.Server

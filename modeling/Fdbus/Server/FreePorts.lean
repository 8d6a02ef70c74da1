/-
  Fdbus.Server.FreePorts — the search for a free port.

  The allocator of an interface counts through its range of ports, from the end back to the begin.
  The name server takes the next ports from it until the URL of one is not registered.

    * `RegistryTbl.UsesPort` — a registered address is on the port, with or without a secure channel,
    * `free_port_found_iff` — while there is an unused port one is found, exactly if the first port
      whose URL is not registered comes within the tries and is unused.

  The number of tries grows with the service names and not with the addresses that are in use, and a
  URL says nothing about the port of the other channel.
-/
import Fdbus.Server.Allocation

namespace Fdbus.Server

open Fdbus.OrderedMap Fdbus.Orbit Fdbus.Security Fdbus.Subscribe

/-! ## §1. The loop is a search. -/

section Search

variable (reg : RegistryTbl) (ip : Text) (port : Int)

/-- A registered address is on the port of the interface. -/
def RegistryTbl.UsesPort : Prop :=
  ∃ name inst entry, reg.get name inst = some entry ∧ ∃ desc ∈ entry.mAddrTbl,
    desc.mAddress.mType = .tcp ∧ desc.mAddress.mAddr = ip ∧ desc.mAddress.mPort = port

instance (reg : RegistryTbl) (ip : Text) (port : Int) : Decidable (reg.UsesPort ip port) :=
  decidable_of_iff _ (exists_all_iff reg fun entry => ∃ desc ∈ entry.mAddrTbl,
    desc.mAddress.mType = .tcp ∧ desc.mAddress.mAddr = ip ∧ desc.mAddress.mPort = port)

/-- The port is in the range of the allocator, and no registered address is on it. -/
def RegistryTbl.UnusedPort (env : AllocConfig) : Prop :=
  env.tcpPortMin ≤ port ∧ port ≤ env.tcpPortMax ∧ ¬ reg.UsesPort ip port

end Search

/-! ## §2. An unused port is found. -/

/-- **When an unused port is found**: while some port of the interface is unused, a service gets an
address on an unused port exactly if one of the next ports is unused, within the tries, and before
it only ports come whose URL is registered. -/
theorem free_port_found_iff (env : AllocConfig) (hsystem : env.portBySystem = false)
    (reg : RegistryTbl) (secure : Bool) (alloc : CTCPAddressAllocator) :
    ((∃ port, reg.UnusedPort alloc.mInterfaceIp port env) →
        ∃ addr, (allocateAddress reg .user (CTCPAddressAllocator.allocate env .user secure) reg.tries
            alloc).1 = some addr
          ∧ addr.mSocketAddr.mType = .tcp ∧ addr.mSocketAddr.mAddr = alloc.mInterfaceIp
          ∧ reg.UnusedPort alloc.mInterfaceIp addr.mSocketAddr.mPort env)
      ↔ ((∃ port, reg.UnusedPort alloc.mInterfaceIp port env) →
        ∃ k < reg.tries,
          FirstAt (nextPort env) (reg.portOpen alloc.mInterfaceIp secure) alloc.mPort k
            ∧ reg.UnusedPort alloc.mInterfaceIp ((nextPort env)^[k] alloc.mPort) env) := by
  refine imp_congr_right fun _ => ?_
  rw [allocateAddress_user hsystem, Prod.map_fst]
  simp only [Option.map_eq_some_iff, search_eq_some_iff, FirstAt, advance_iterate]
  constructor
  · intro h
    obtain ⟨addr, ⟨_, ⟨k, hk, hfirst, rfl⟩, rfl⟩, -, -, hunused⟩ := h
    exact ⟨k, hk, hfirst, hunused⟩
  · intro h
    obtain ⟨k, hk, hfirst, hunused⟩ := h
    exact ⟨_, ⟨_, ⟨k, hk, hfirst, rfl⟩, rfl⟩, rfl, rfl, hunused⟩

theorem domainLevel_le : fdbExportableDomain ≤ fdbExportableAny := by decide

/-- The allocator of an interface "10.0.0.1" at a port. -/
def ethernetAt (port : Int) : CTCPAddressAllocator :=
  ⟨port, [49, 48, 46, 48, 46, 48, 46, 49], fdbExportableDomain, 1, domainLevel_le⟩

/-- A name server that gives away the ports from 60000 up to this one. -/
def portsUpTo (last : Int) : AllocConfig :=
  { ipcOnly with
    ipcUrlBase := [105, 112, 99, 58, 47, 47]
    tcpPortMin := 60000
    tcpPortMax := last
    portBySystem := false }

/-- The allocators of a host with that interface, at the start. -/
def ethernetOnly : Allocators :=
  { freshAllocators with
    mTCPAllocators := (∅ : Map Text CTCPAddressAllocator).insert (ethernetAt 60000).mInterfaceIp
      (ethernetAt 60000) }

/-- Nine instances of a service got the nine ports, and the last one has gone. -/
def eightInstances : NameServer × Allocators :=
  let nine := (List.range 9).foldl (fun s k =>
    let r := handleAlloc plainConfig (portsUpTo 60008) s.1 s.2 1
      { name := [97], instanceId := BitVec.ofNat 32 k, flag := 2#32
        exportableLevel := fdbExportableDomain } []
    (r.1.1, r.2)) (({}, ethernetOnly) : NameServer × Allocators)
  ((onUnegisterServiceReq plainConfig nine.1 [97] 8#32).1, nine.2)

/-- The counter is back at the first port.  The loop tries the eight ports that are in use and gives
up before the free one. -/
theorem free_port_missed :
    let reg := eightInstances.1.mRegistryTbl
    let alloc := ethernetAt 60000
    (eightInstances.2.mTCPAllocators[alloc.mInterfaceIp]?.map fun a => (a.mPort, a.mInterfaceIp))
        = some (alloc.mPort, alloc.mInterfaceIp)
      ∧ reg.UnusedPort alloc.mInterfaceIp 60008 (portsUpTo 60008)
      ∧ (allocateAddress reg .user
          (CTCPAddressAllocator.allocate (portsUpTo 60008) .user false) reg.tries alloc).1.isSome
        = false := ⟨by decide +kernel, ⟨by decide, by decide, by decide +kernel⟩, by decide +kernel⟩

/-- From the eighth port on, the free one is the second that is tried. -/
theorem free_port_found_next :
    ∃ addr, (allocateAddress eightInstances.1.mRegistryTbl .user
        (CTCPAddressAllocator.allocate (portsUpTo 60008) .user false)
        eightInstances.1.mRegistryTbl.tries (ethernetAt 60007)).1 = some addr
      ∧ addr.mSocketAddr.mType = .tcp
      ∧ addr.mSocketAddr.mAddr = (ethernetAt 60007).mInterfaceIp
      ∧ eightInstances.1.mRegistryTbl.UnusedPort (ethernetAt 60007).mInterfaceIp
        addr.mSocketAddr.mPort (portsUpTo 60008) := by
  have hunused : eightInstances.1.mRegistryTbl.UnusedPort (ethernetAt 60007).mInterfaceIp 60008
      (portsUpTo 60008) := ⟨by decide, by decide, by decide +kernel⟩
  apply (free_port_found_iff (portsUpTo 60008) rfl eightInstances.1.mRegistryTbl false
    (ethernetAt 60007)).mpr
  · intro _
    exact ⟨1, by decide +kernel, ⟨by decide +kernel, by decide +kernel⟩, hunused⟩
  · exact ⟨60008, hunused⟩

end Fdbus.Server

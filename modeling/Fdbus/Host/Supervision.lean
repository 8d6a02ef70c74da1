/-
  Fdbus.Host.Supervision — hosts that register, and hosts that are silent.

    * `registerTwice_iff` — a host that registers a second time leaves its entry as it was exactly
      if it has no addresses to report,
    * `heartBeat_exact`   — a host or a domain is kicked out exactly when it has been silent for
      the configured number of heart beats.

  `mHbCount` is an `int32_t`.  It starts at 0 and grows by one with each heart beat without an
  answer, so it is a `Nat` here: it could only overflow after `2^31` of them.
-/
import Fdbus.Host.HostServer

namespace Fdbus.Host

open Fdbus.OrderedMap Fdbus.Run Fdbus.Security Fdbus.Server Fdbus.Subscribe List

/-! ## §1. Registering twice. -/

section Register

variable (cfg : HsConfig) (session : SessionPtr) (req : FdbMsgHostRegisterReq) (peerIp : Text)
  (items : List FdbMsgAddressItem) (tbl : ExportableSvcAddress)

/-- `REQ_REGISTER_LOCAL_HOST` and `REQ_LOCAL_HOST_READY` of a host. -/
def registerAndReady (hs : HostServer) (tokens : List Token) : HostServer :=
  onLocalHostReady cfg (onRegisterLocalHostReq cfg hs session req tokens) session peerIp items tbl

/-- What one call of `allocateToken` makes: a token for each security level. -/
abbrev AllocatedTokens (nrSecurityLevel : Nat) :=
  { tokens : List Token // tokens.length = nrSecurityLevel }

/-- The entries say the same about the host; the tokens are new ones. -/
structure SameEntry (once twice : CLocalHostInfo) : Prop where
  hostName : twice.mHostName = once.mHostName
  ipAddress : twice.mIpAddress = once.mIpAddress
  ready : twice.mReady = once.mReady
  addressTbl : twice.mAddressTbl = once.mAddressTbl
  svcAddrTbl : twice.mSvcAddrTbl = once.mSvcAddrTbl
  tokens : twice.mTokens.length = once.mTokens.length

/-- The entry of the host after both messages. -/
def readyEntry (info : CLocalHostInfo) (tokens : List Token) : CLocalHostInfo :=
  let hostName := if req.hostName = [] then req.ipAddress else req.hostName
  { info with
    mHostName := hostName
    mIpAddress := req.ipAddress
    mReady := true
    mAuthorized := authorized cfg hostName req.cred
    mTokens := tokens
    mAddressTbl := info.mAddressTbl ++ (verifyUrl peerIp items).map FdbMsgAddressItem.address
    mSvcAddrTbl := localSvcTable cfg peerIp tbl }

theorem get_registerAndReady (hs : HostServer) (tokens : List Token) :
    (registerAndReady cfg session req peerIp items tbl hs tokens).mLocalHostTbl[session]?
      = some (readyEntry cfg req peerIp items tbl (hs.mLocalHostTbl[session]?.getD {}) tokens) := by
  have hget : (onRegisterLocalHostReq cfg hs session req tokens).mLocalHostTbl[session]? = _ :=
    (get_upsert _ _ _ _ _).trans (if_pos rfl)
  unfold registerAndReady onLocalHostReady
  rw [hget]
  exact (get_insert _ _ _ _).trans (if_pos rfl)

/-- **Registering twice is the same as registering once**, for every state and every host, exactly
if no address of the host is kept: the addresses are added to those that are there. -/
theorem registerTwice_iff (hs : HostServer) {nrSecurityLevel : Nat}
    (tokens tokens' : AllocatedTokens nrSecurityLevel) :
    (∃ once twice,
      (registerAndReady cfg session req peerIp items tbl hs tokens.1).mLocalHostTbl[session]?
        = some once
      ∧ (registerAndReady cfg session req peerIp items tbl
          (registerAndReady cfg session req peerIp items tbl hs tokens.1)
          tokens'.1).mLocalHostTbl[session]? = some twice
      ∧ SameEntry once twice)
      ↔ verifyUrl peerIp items = [] := by
  simp only [get_registerAndReady, Option.some.injEq, Option.getD_some]
  constructor
  · rintro ⟨once, twice, rfl, rfl, hsame⟩
    have := hsame.addressTbl
    unfold readyEntry at this
    rwa [append_right_eq_self, map_eq_nil_iff] at this
  · intro h
    refine ⟨_, _, rfl, rfl, rfl, rfl, rfl, ?_, rfl, tokens'.2.trans tokens.2.symm⟩
    unfold readyEntry
    rw [h]
    exact append_nil _

end Register

/-- TCP port 1 at this address. -/
def tcpItem (ip : Text) : FdbMsgAddressItem where
  address := { mType := .tcp, mAddr := ip, mPort := 1 }
  exportableLevel := 0
  interfaceId := 0
  udpPort := none

/-- A host that reports only the address that `verifyUrl` drops. -/
theorem registerTwice_nothing :
    let register := registerAndReady plainHostServer 0 ⟨[49], [], none⟩ [49]
      [tcpItem fdbLocalHost] []
    ∃ once twice, (register {} [[65]]).mLocalHostTbl[0]? = some once
      ∧ (register (register {} [[65]]) [[66]]).mLocalHostTbl[0]? = some twice
      ∧ SameEntry once twice :=
  (registerTwice_iff plainHostServer 0 ⟨[49], [], none⟩ [49] [tcpItem fdbLocalHost] [] {}
    ⟨[[65]], rfl⟩ ⟨[[66]], rfl⟩).mpr (by decide)

/-- A host with one address has it twice then. -/
theorem registerTwice_doubled :
    let register := registerAndReady plainHostServer 0 ⟨[49], [], none⟩ [49] [tcpItem [49]] []
    ((register {} []).mLocalHostTbl[0]?.map fun info => info.mAddressTbl.length) = some 1
    ∧ ((register (register {} []) []).mLocalHostTbl[0]?.map fun info => info.mAddressTbl.length)
      = some 2 := by
  decide +kernel

/-! ## §2. Heart beats. -/

namespace HeartBeat

/-- `mHbCount` of the hosts and of the domains that are registered. -/
structure HbCounts where
  mLocalHostTbl : Map SessionPtr Nat := ∅
  mExternalDomainTbl : Map SessionPtr Nat := ∅

/-- What can happen; a session that is kicked out is dropped some time later. -/
inductive HbEvent where
  | registerLocalHost (session : SessionPtr)
  | registerExternalDomain (session : SessionPtr)
  | heartbeatOk (session : SessionPtr)
  | tick
  | dropped (session : SessionPtr)
  deriving DecidableEq

section Handlers

variable (retryNr : Int) (hb : HbCounts)

/-- The loop of `broadcastHeartBeat` over one of the tables: `++info.mHbCount >= retryNr`. -/
def overdue (tbl : Map SessionPtr Nat) : List SessionPtr :=
  keysWith (fun _ count => retryNr ≤ (count + 1 : Nat)) tbl

/-- The sessions that `broadcastHeartBeat` kicks out. -/
def kickedOut : List SessionPtr :=
  overdue retryNr hb.mLocalHostTbl ++ overdue retryNr hb.mExternalDomainTbl

/-- The counters that `broadcastHeartBeat` leaves. -/
def broadcastHeartBeat : HbCounts where
  mLocalHostTbl := hb.mLocalHostTbl.map fun _ count => count + 1
  mExternalDomainTbl := hb.mExternalDomainTbl.map fun _ count => count + 1

/-- `onHeartbeatOk`. -/
def onHeartbeatOk (session : SessionPtr) : HbCounts :=
  if hb.mLocalHostTbl[session]?.isSome then
    { hb with mLocalHostTbl := hb.mLocalHostTbl.insert session 0 }
  else if hb.mExternalDomainTbl[session]?.isSome then
    { hb with mExternalDomainTbl := hb.mExternalDomainTbl.insert session 0 }
  else hb

/-- One event; a session registers as a host or as a domain, but not as both. -/
def hbStep : HbEvent → Option HbCounts
  | .registerLocalHost session =>
    if hb.mExternalDomainTbl[session]?.isSome then none
    else some { hb with mLocalHostTbl := hb.mLocalHostTbl.insert session 0 }
  | .registerExternalDomain session =>
    if hb.mLocalHostTbl[session]?.isSome then none
    else some { hb with mExternalDomainTbl := hb.mExternalDomainTbl.insert session 0 }
  | .heartbeatOk session => some (onHeartbeatOk hb session)
  | .tick => some (broadcastHeartBeat hb)
  | .dropped session =>
    some ⟨hb.mLocalHostTbl.erase session, hb.mExternalDomainTbl.erase session⟩

end Handlers

/-- The session registers. -/
def registers (session : SessionPtr) (e : HbEvent) : Bool :=
  e = .registerLocalHost session ∨ e = .registerExternalDomain session

/-- The session has registered, and was not dropped since. -/
def registered (session : SessionPtr) (past : List HbEvent) : Bool :=
  (since (fun e => e = .dropped session) past).any (registers session)

/-- The ticks since the session registered or answered for the last time. -/
def silentTicks (session : SessionPtr) (past : List HbEvent) : Nat :=
  (since (fun e => registers session e ∨ e = .heartbeatOk session) past).count .tick

/-- The counter of a session. -/
def HbCounts.count (hb : HbCounts) (session : SessionPtr) : Option Nat :=
  hb.mLocalHostTbl[session]?.or hb.mExternalDomainTbl[session]?

/-- The counter that a session should have. -/
def expected (session : SessionPtr) (past : List HbEvent) : Option Nat :=
  if registered session past then some (silentTicks session past) else none

/-- What an event does to the counter of a session. -/
def next (session : SessionPtr) (count : Option Nat) : HbEvent → Option Nat
  | .registerLocalHost s | .registerExternalDomain s => if s = session then some 0 else count
  | .heartbeatOk s => if s = session then count.map fun _ => 0 else count
  | .tick => count.map (· + 1)
  | .dropped s => if s = session then none else count

theorem expected_concat (session : SessionPtr) (past : List HbEvent) (e : HbEvent) :
    expected session (past ++ [e]) = next session (expected session past) e := by
  unfold expected registered silentTicks
  rw [since_concat, since_concat]
  cases e <;> grind [next, registers]

/-- Each session is in one of the tables at most. -/
def Apart (hb : HbCounts) : Prop :=
  ∀ session : SessionPtr,
    hb.mLocalHostTbl[session]? = none ∨ hb.mExternalDomainTbl[session]? = none

theorem count_hbStep {hb hb' : HbCounts} {e : HbEvent} (hapart : Apart hb)
    (hstep : hbStep hb e = some hb') :
    Apart hb' ∧ ∀ session, hb'.count session = next session (hb.count session) e := by
  unfold Apart HbCounts.count at *
  cases e with
  | registerLocalHost s =>
    obtain ⟨hdomain, rfl⟩ := of_guard_not hstep
    grind [next, get_insert]
  | registerExternalDomain s =>
    obtain ⟨hlocal, rfl⟩ := of_guard_not hstep
    grind [next, get_insert]
  | heartbeatOk s =>
    cases hstep
    unfold onHeartbeatOk
    grind [next, get_insert]
  | tick =>
    cases hstep
    unfold broadcastHeartBeat
    grind [next]
  | dropped s =>
    cases hstep
    grind [next, get_erase]

theorem mem_kickedOut {hb : HbCounts} (hapart : Apart hb) (retryNr : Int) (session : SessionPtr) :
    session ∈ kickedOut retryNr hb
      ↔ ∃ count, hb.count session = some count ∧ retryNr ≤ (count + 1 : Nat) := by
  unfold kickedOut overdue HbCounts.count
  rw [mem_append, mem_keysWith, mem_keysWith]
  grind [Apart]

/-- **Heart beats are exact**: after whatever happened, a heart beat kicks out exactly the hosts and
domains that are registered and have been silent for the configured number of heart beats, with
this one. -/
theorem heartBeat_exact (retryNr : Int) (past : List HbEvent) (hb : HbCounts)
    (hrun : run hbStep {} past = some hb) (session : SessionPtr) :
    session ∈ kickedOut retryNr hb
      ↔ registered session past = true ∧ retryNr ≤ (silentTicks session past + 1 : Nat) := by
  have hcounts : Apart hb ∧ ∀ session, hb.count session = expected session past := by
    refine run_history (P := fun past hb => Apart hb ∧ ∀ session, hb.count session
      = expected session past) ?_ ⟨fun _ => .inl rfl, fun _ => rfl⟩ hrun
    rintro past hb e hb' ⟨hapart, hcount⟩ hstep
    obtain ⟨hapart', hnext⟩ := count_hbStep hapart hstep
    refine ⟨hapart', fun session => ?_⟩
    rw [hnext, hcount, expected_concat]
  rw [mem_kickedOut hcounts.1, hcounts.2]
  unfold expected
  grind

theorem heartBeat_exact_second :
    ∃ hb, run hbStep {} [.registerLocalHost 0, .tick] = some hb ∧ 0 ∈ kickedOut 2 hb :=
  ⟨_, rfl, (heartBeat_exact 2 [.registerLocalHost 0, .tick] _ rfl 0).mpr (by decide)⟩

end HeartBeat

end Fdbus.Host

/-
  Fdbus.Server.AddressList — addresses of services, and the lists that carry them.

  The name server tells its subscribers where a service is with a `FdbMsgAddressList`: the
  addresses that may be exported to the subscriber, and the tokens for the subscriber's
  security level.

    * `CFdbAddressDesc`, `checkExportable`, `populateAddrList` — which addresses of a service
      enter a list,
    * `populateTokensLocal`, `populateTokensRemote` — which tokens do,
    * `level_of_received_token` — the token that reaches a client gives it its own level, cut
      off at the highest one and, on another host, at the level of that host.

  Levels and ports are `int32_t`; nothing here computes with them beyond comparing.  UDP ports
  are chosen by the system (`FDB_INET_PORT_AUTO`), as they are by default.
-/
import Fdbus.Security.Token

namespace Fdbus.Server

open Fdbus.Security List

/-! ## §1. Addresses. -/

/-- A `std::string` or a C string. -/
abbrev Text := List UInt8

/-- `EFdbSocketType`. -/
inductive EFdbSocketType where
  | tcp
  | udp
  | ipc
  | svc
  | max
  deriving Repr, DecidableEq

/-- `FDB_LOCAL_HOST`: "127.0.0.1". -/
def fdbLocalHost : Text := [49, 50, 55, 46, 48, 46, 48, 46, 49]

/-- `FDB_IP_ALL_INTERFACE`: "0". -/
def fdbIpAllInterface : Text := [48]

/-- `FDB_INET_PORT_INVALID`. -/
def fdbInetPortInvalid : Int := -2

/-- `FDB_INET_PORT_AUTO`. -/
def fdbInetPortAuto : Int := 0

/-- `FDB_EXPORTABLE_NODE_INTERNAL`. -/
def fdbExportableNodeInternal : Int := 0

/-- `FDB_EXPORTABLE_DOMAIN`. -/
def fdbExportableDomain : Int := 1

/-- `FDB_EXPORTABLE_ANY`. -/
def fdbExportableAny : Int := 2 ^ 31 - 1

/-- `FDB_INVALID_ID`. -/
def fdbInvalidId : Int := -1

/-- `CFdbSocketAddr`. -/
structure CFdbSocketAddr where
  mUrl : Text := []
  mType : EFdbSocketType := .max
  mAddr : Text := []
  mPort : Int := fdbInetPortInvalid
  mSecure : Bool := false
  deriving DecidableEq

/-- The digits that `sprintf("%u")` writes. -/
def decimal (n : Int) : Text := (Nat.toDigits 10 (n % 2 ^ 32).toNat).map fun c => c.toNat.toUInt8

/-- `buildUrl(url, ip_addr, port, secure)`: "tcp://" or "tcps://", the address and the port. -/
def buildUrl (addr : Text) (port : Int) (secure : Bool) : Text :=
  [116, 99, 112] ++ (if secure then [115] else []) ++ [58, 47, 47] ++ addr ++ [58] ++ decimal port

/-- `CFdbSocketAddr::buildUrl()` for an address that is not IPC. -/
def CFdbSocketAddr.buildUrl (a : CFdbSocketAddr) : CFdbSocketAddr :=
  { a with mUrl := Server.buildUrl a.mAddr a.mPort a.mSecure }

/-- `eAddressStatus`. -/
inductive AddressStatus where
  | free
  | pending
  | bound
  deriving Repr, DecidableEq

/-- `CFdbSocketAddrInfo`. -/
structure CFdbSocketAddrInfo where
  mAddress : CFdbSocketAddr := {}
  mUDPPort : Int := fdbInetPortInvalid
  mExportableLevel : Int := fdbExportableDomain
  mInterfaceId : Int := fdbInvalidId
  deriving DecidableEq

/-- `CFdbAddressDesc`. -/
structure CFdbAddressDesc extends CFdbSocketAddrInfo where
  mStatus : AddressStatus := .free
  mRebindCount : Int := 0
  deriving DecidableEq

/-- `FdbMsgAddressItem`; a port that was not set is not sent. -/
structure FdbMsgAddressItem where
  address : CFdbSocketAddr
  exportableLevel : Int
  interfaceId : Int
  udpPort : Option Int
  deriving DecidableEq

/-- `FdbMsgAddressList`; `tokenList` is `none` when the message carries no token list at all. -/
structure FdbMsgAddressList where
  serviceName : Text := []
  hostName : Text := []
  endpointName : Text := []
  domainName : Text := []
  instanceId : FdbMsgCode := 0#32
  isLocal : Bool := true
  pid : Int := 0
  addressList : List FdbMsgAddressItem := []
  tokenList : Option (List Token) := none
  deriving DecidableEq

/-! ## §2. Which addresses enter a list. -/

/-- `checkExportable(addr_desc, max_exported_level)`, of the level of the address. -/
def checkExportable (level maxExportedLevel : Int) : Bool :=
  if level > maxExportedLevel then false
  else if level = fdbExportableNodeInternal ∧ maxExportedLevel ≠ fdbExportableAny
      ∧ maxExportedLevel ≠ fdbExportableNodeInternal then false
  else true

/-- `populateAddressItem(addr_desc, item)`. -/
def populateAddressItem (desc : CFdbSocketAddrInfo) : FdbMsgAddressItem where
  address := desc.mAddress
  exportableLevel := desc.mExportableLevel
  interfaceId := desc.mInterfaceId
  udpPort := if desc.mUDPPort ≠ fdbInetPortInvalid then some desc.mUDPPort else none

/-- `prepareAddress(addr_desc, list, max_exported_level)`: what it adds to the list. -/
def prepareAddress (maxExportedLevel : Int) (desc : CFdbAddressDesc) : List FdbMsgAddressItem :=
  if checkExportable desc.mExportableLevel maxExportedLevel
  then [populateAddressItem desc.toCFdbSocketAddrInfo] else []

/-- `populateAddrList(addr_tbl, list, type, max_exported_level)`: what it adds to the list. -/
def populateAddrList (addrTbl : List CFdbAddressDesc) (type : EFdbSocketType)
    (maxExportedLevel : Int) : List FdbMsgAddressItem :=
  addrTbl.flatMap fun desc =>
    if (type = .max ∨ type = desc.mAddress.mType) ∧ desc.mStatus = .bound
    then prepareAddress maxExportedLevel desc else []

/-- `allocateUDPPortForClients(addr_list)`: an address that is not IPC gets a port. -/
def allocateUDPPortForClients (list : FdbMsgAddressList) : FdbMsgAddressList :=
  { list with
    addressList := list.addressList.map fun item =>
      if item.address.mType = .ipc then item else { item with udpPort := some fdbInetPortAuto } }

/-- Every address may be exported to `FDB_EXPORTABLE_ANY`. -/
theorem checkExportable_any {level : Int} (h : level ≤ fdbExportableAny) :
    checkExportable level fdbExportableAny = true := by
  unfold checkExportable
  rw [if_neg (by omega), if_neg (by simp)]

variable {item : FdbMsgAddressItem} {maxExportedLevel : Int}

theorem mem_prepareAddress {desc : CFdbAddressDesc} :
    item ∈ prepareAddress maxExportedLevel desc
      ↔ checkExportable desc.mExportableLevel maxExportedLevel = true
        ∧ item = populateAddressItem desc.toCFdbSocketAddrInfo := by
  unfold prepareAddress
  split
  · next h => simp [h]
  · next h => simp [h]

theorem mem_populateAddrList {addrTbl : List CFdbAddressDesc} {type : EFdbSocketType} :
    item ∈ populateAddrList addrTbl type maxExportedLevel
      ↔ ∃ desc ∈ addrTbl, (type = .max ∨ type = desc.mAddress.mType) ∧ desc.mStatus = .bound
        ∧ checkExportable desc.mExportableLevel maxExportedLevel = true
        ∧ item = populateAddressItem desc.toCFdbSocketAddrInfo := by
  unfold populateAddrList
  rw [mem_flatMap]
  refine exists_congr fun desc => and_congr_right fun _ => ?_
  by_cases h : (type = .max ∨ type = desc.mAddress.mType) ∧ desc.mStatus = .bound
  · rw [if_pos h, mem_prepareAddress]
    simp only [h.1, h.2, true_and]
  · rw [if_neg h]
    constructor
    · intro hmem
      cases hmem
    · rintro ⟨htype, hbound, -⟩
      exact absurd ⟨htype, hbound⟩ h

/-! ## §3. Tokens. -/

/-- `token_list().clear_tokens()`; the list itself stays in the message. -/
def FdbMsgAddressList.clearTokens (list : FdbMsgAddressList) : FdbMsgAddressList :=
  { list with tokenList := some [] }

/-- `dumpTokens(tokens)`. -/
def FdbMsgAddressList.dumpTokens (list : FdbMsgAddressList) : List Token :=
  list.tokenList.getD []

/-- The level after the comparison with the number of tokens. -/
def clampLevel (securityLevel : Int) (size : Nat) : Nat :=
  if securityLevel ≥ size then size - 1 else securityLevel.toNat

/-- The tokens that `populateTokensLocal` adds: the one of the level. -/
def tokensLocal (tokens : List Token) (securityLevel : Int) : List Token :=
  if securityLevel ≥ 0 ∧ tokens ≠ [] then
    (tokens[clampLevel securityLevel tokens.length]?.map cStr).toList
  else []

/-- The tokens that `populateTokensRemote` adds: those up to the level. -/
def tokensRemote (tokens : List Token) (securityLevel : Int) : List Token :=
  if securityLevel ≥ 0 ∧ tokens ≠ [] then
    (tokens.take (clampLevel securityLevel tokens.length + 1)).map cStr
  else []

/-- `populateTokensLocal(tokens, addr_list, session)` for a session of this security level. -/
def FdbMsgAddressList.populateTokensLocal (list : FdbMsgAddressList) (tokens : List Token)
    (securityLevel : Int) : FdbMsgAddressList :=
  { list with tokenList := some (tokensLocal tokens securityLevel) }

/-- `populateTokensRemote(tokens, addr_list, session)` for a session of this security level. -/
def FdbMsgAddressList.populateTokensRemote (list : FdbMsgAddressList) (tokens : List Token)
    (securityLevel : Int) : FdbMsgAddressList :=
  { list with tokenList := some (tokensRemote tokens securityLevel) }

/-- What a name server makes of the tokens of a list that comes from another host, before it
hands the list to a client of its own: the client gets one of the tokens that came. -/
def FdbMsgAddressList.forwardTokens (list : FdbMsgAddressList) (securityLevel : Int) :
    FdbMsgAddressList :=
  list.clearTokens.populateTokensLocal list.dumpTokens securityLevel

/-- The tokens of a service as `allocateToken` makes them: different, not empty, and of letters
and digits only, so without NUL. -/
structure TokenTable where
  tokens : List Token
  nodup : tokens.Nodup
  nonempty : ∀ t ∈ tokens, t ≠ []
  noNul : ∀ t ∈ tokens, (0 : UInt8) ∉ t

/-- What `checkSecurityLevel` returns at the server for the tokens of a list. -/
def TokenTable.levelOf (svc : TokenTable) (list : FdbMsgAddressList) : Int :=
  checkSecurityLevel svc.tokens (firstToken list.tokenList)

theorem clampLevel_eq {securityLevel : Int} (h : 0 ≤ securityLevel) (size : Nat) :
    clampLevel securityLevel size = min securityLevel.toNat (size - 1) := by
  unfold clampLevel
  split <;> omega

variable (svc : TokenTable) (list : FdbMsgAddressList) {c : Int}

theorem TokenTable.map_cStr (k : Nat) : (svc.tokens.take k).map cStr = svc.tokens.take k := by
  rw [map_congr_left fun t ht => cStr_of_noNul (svc.noNul t (mem_of_mem_take ht)),
    map_id']

/-- A single token of the table, at the position of a level. -/
theorem TokenTable.levelOf_getElem {list : FdbMsgAddressList} {i : Nat} (hi : i < svc.tokens.length)
    (hlist : list.tokenList = some ((svc.tokens[i]?.map cStr).toList)) :
    svc.levelOf list = i := by
  have hget : svc.tokens[i]? = some svc.tokens[i] := getElem?_eq_getElem hi
  have hmem : svc.tokens[i] ∈ svc.tokens := getElem_mem hi
  unfold TokenTable.levelOf
  rw [hlist, hget, Option.map_some, Option.toList_some]
  show checkSecurityLevel svc.tokens (cStr (cStr svc.tokens[i])) = i
  rw [cStr_idem, cStr_of_noNul (svc.noNul _ hmem)]
  exact checkSecurityLevel_getElem svc.nodup hget (svc.nonempty _ hmem)

theorem TokenTable.levelOf_empty (hlist : list.tokenList = some []) : svc.levelOf list = -1 := by
  unfold TokenTable.levelOf
  rw [hlist]
  exact checkSecurityLevel_nil svc.tokens

/-- The tokens that come from the other host, when there are any. -/
theorem TokenTable.tokensRemote_eq {h : Int} (hh : 0 ≤ h) (hne : svc.tokens ≠ []) :
    tokensRemote svc.tokens h = svc.tokens.take (min h.toNat (svc.tokens.length - 1) + 1) := by
  unfold tokensRemote
  rw [if_pos ⟨hh, hne⟩, svc.map_cStr, clampLevel_eq hh]

theorem tokensLocal_of_neg {tokens : List Token} {c : Int} (hc : c < 0) :
    tokensLocal tokens c = [] := if_neg fun h => absurd h.1 (by omega)

theorem tokensLocal_nil (c : Int) : tokensLocal [] c = [] := if_neg fun h => h.2 rfl

/-- The level of a client on the host of the service. -/
theorem TokenTable.levelOf_local (hc : 0 ≤ c) :
    svc.levelOf (list.populateTokensLocal svc.tokens c)
      = min c ((svc.tokens.length : Int) - 1) := by
  by_cases hne : svc.tokens = []
  · -- a service without tokens: none is received
    have hempty := svc.levelOf_empty (list.populateTokensLocal svc.tokens c)
      (by rw [FdbMsgAddressList.populateTokensLocal, hne, tokensLocal_nil])
    rw [hempty, hne]
    simp only [length_nil, Nat.cast_zero]
    omega
  · have hlen : 0 < svc.tokens.length := length_pos_iff.mpr hne
    have hi : clampLevel c svc.tokens.length < svc.tokens.length := by
      rw [clampLevel_eq hc]
      omega
    rw [svc.levelOf_getElem hi (by
      rw [FdbMsgAddressList.populateTokensLocal, tokensLocal, if_pos ⟨hc, hne⟩]), clampLevel_eq hc]
    omega

/-- The level of a client on another host. -/
theorem TokenTable.levelOf_remote {h : Int} (hc : 0 ≤ c) (hh : 0 ≤ h) :
    svc.levelOf ((list.populateTokensRemote svc.tokens h).forwardTokens c)
      = min (min c h) ((svc.tokens.length : Int) - 1) := by
  by_cases hne : svc.tokens = []
  · have hempty := svc.levelOf_empty
      ((list.populateTokensRemote svc.tokens h).forwardTokens c)
      (by
        show some (tokensLocal (tokensRemote svc.tokens h) c) = some []
        rw [tokensRemote, if_neg fun hand => hand.2 hne, tokensLocal_nil])
    rw [hempty, hne]
    simp only [length_nil, Nat.cast_zero]
    omega
  · have hlen : 0 < svc.tokens.length := length_pos_iff.mpr hne
    -- the client's level is cut off at the tokens that came, and those at the host's level
    have hcame := svc.tokensRemote_eq hh hne
    have hcount : (tokensRemote svc.tokens h).length = min h.toNat (svc.tokens.length - 1) + 1 := by
      rw [hcame, length_take]
      omega
    have hcut : clampLevel c (tokensRemote svc.tokens h).length
        = min c.toNat (min h.toNat (svc.tokens.length - 1)) := by
      rw [clampLevel_eq hc, hcount]
      omega
    have hget : (tokensRemote svc.tokens h)[clampLevel c (tokensRemote svc.tokens h).length]?
        = svc.tokens[clampLevel c (tokensRemote svc.tokens h).length]? := by
      rw [hcut, hcame, getElem?_take_of_lt (by omega)]
    have hsome : tokensRemote svc.tokens h ≠ [] := by
      rw [← length_pos_iff, hcount]
      omega
    rw [svc.levelOf_getElem (i := clampLevel c (tokensRemote svc.tokens h).length) (by omega) (by
      show some (tokensLocal (tokensRemote svc.tokens h) c) = _
      rw [tokensLocal, if_pos ⟨hc, hsome⟩, hget]), hcut]
    omega

/-- **No escalation through tokens.**  The token that a client of level `c` receives, on the
host of the service or on one whose name server has level `h` there, makes the server return
exactly that level, cut off at the highest one; a client or a host without a level receives no
token. -/
theorem level_of_received_token (svc : TokenTable) (list : FdbMsgAddressList) (c h : Int) :
    (0 ≤ c → svc.levelOf (list.populateTokensLocal svc.tokens c)
        = min c ((svc.tokens.length : Int) - 1))
      ∧ (c < 0 → (list.populateTokensLocal svc.tokens c).dumpTokens = [])
      ∧ (0 ≤ c → 0 ≤ h →
        svc.levelOf ((list.populateTokensRemote svc.tokens h).forwardTokens c)
          = min (min c h) ((svc.tokens.length : Int) - 1))
      ∧ (c < 0 ∨ h < 0 →
        ((list.populateTokensRemote svc.tokens h).forwardTokens c).dumpTokens = []) := by
  refine ⟨svc.levelOf_local list, fun hc => tokensLocal_of_neg hc, svc.levelOf_remote list, ?_⟩
  rintro (hc | hh)
  · exact tokensLocal_of_neg hc
  · show tokensLocal (tokensRemote svc.tokens h) c = []
    rw [tokensRemote, if_neg fun hand => absurd hand.1 (by omega), tokensLocal_nil]

/-- A token for level 0 and one for level 1. -/
def twoTokens : TokenTable := ⟨[[65], [66]], by decide, by decide, by decide⟩

/-- A client of level 5 gets the second token, and only the first one on a host of level 0. -/
theorem level_of_received_token_two :
    twoTokens.levelOf (({} : FdbMsgAddressList).populateTokensLocal twoTokens.tokens 5) = 1
      ∧ twoTokens.levelOf ((({} : FdbMsgAddressList).populateTokensRemote twoTokens.tokens
        0).forwardTokens 5) = 0 := by
  obtain ⟨hlocal, -, hremote, -⟩ := level_of_received_token twoTokens {} 5 0
  exact ⟨hlocal (by decide), hremote (by decide) (by decide)⟩

end Fdbus.Server

/-
  Fdbus.Wire.AddressMessages — what name server and host server tell each other, on the wire.

  The classes of `CFdbIfNameServer.h` that carry addresses, services, hosts and tokens, with their
  members as the source has them.  `serialize` and `deserialize` list the members in the order in
  which the source writes and reads them; a member with an option is there only if the bit of its
  mask is set in the options byte.

  Each class is a lawful parcelable.  `visible` takes away what an unset option leaves unsent.
-/
import Fdbus.Wire.Parcelable
import Fdbus.Server.AddressList

namespace Fdbus.Wire

open Fdbus.Server (EFdbSocketType)
open IFdbParcelable (init Encodable)

/-! ## §1. Addresses. -/

/-- `(uint8_t)mType`. -/
def socketTypeToByte : EFdbSocketType → BitVec 8
  | .tcp => 0
  | .udp => 1
  | .ipc => 2
  | .svc => 3
  | .max => 4

/-- `(EFdbSocketType)type`; a byte that is no enumerator counts as the last one. -/
def socketTypeOfByte : BitVec 8 → EFdbSocketType
  | 0 => .tcp
  | 1 => .udp
  | 2 => .ipc
  | 3 => .svc
  | _ => .max

theorem socketTypeOfByte_toByte (t : EFdbSocketType) :
    socketTypeOfByte (socketTypeToByte t) = t := by
  cases t <;> rfl

/-- `FdbMsgAddressItem`. -/
structure FdbMsgAddressItem where
  mTCPIPCAddress : List UInt8 := []
  mTCPPort : BitVec 32 := 0
  mType : EFdbSocketType := .tcp
  mTCPIPCUrl : List UInt8 := []
  mUDPPort : BitVec 32 := 0
  mIsSecure : Bool := false
  mExportableLevel : BitVec 32 := 0
  mInterfaceId : BitVec 32 := 0
  mOptions : BitVec 8 := 0

/-- `mMaskHasUDPPort`. -/
def hasUDPPort (options : BitVec 8) : Bool := optionSet options 0

def FdbMsgAddressItem.serialize (m : FdbMsgAddressItem) : List Write :=
  [put m.mTCPIPCAddress, put m.mTCPPort, put (socketTypeToByte m.mType), put m.mTCPIPCUrl,
    put m.mIsSecure, put m.mExportableLevel, put m.mInterfaceId, put m.mOptions,
    writeIf (hasUDPPort m.mOptions) m.mUDPPort].flatten

def FdbMsgAddressItem.deserialize (host : ByteOrder) (m : FdbMsgAddressItem) :
    Deserialize FdbMsgAddressItem := do
  let mTCPIPCAddress ← fetch host m.mTCPIPCAddress
  let mTCPPort ← fetch host m.mTCPPort
  let type ← fetch host (0 : BitVec 8)
  let mTCPIPCUrl ← fetch host m.mTCPIPCUrl
  let mIsSecure ← fetch host m.mIsSecure
  let mExportableLevel ← fetch host m.mExportableLevel
  let mInterfaceId ← fetch host m.mInterfaceId
  let mOptions ← fetch host m.mOptions
  let mUDPPort ← readIf (hasUDPPort mOptions) (fetch host m.mUDPPort) m.mUDPPort
  pure ⟨mTCPIPCAddress, mTCPPort, socketTypeOfByte type, mTCPIPCUrl, mUDPPort, mIsSecure,
    mExportableLevel, mInterfaceId, mOptions⟩

def FdbMsgAddressItem.visible (m : FdbMsgAddressItem) : FdbMsgAddressItem :=
  { m with mUDPPort := visibleIf (hasUDPPort m.mOptions) m.mUDPPort }

instance : IFdbParcelable FdbMsgAddressItem where
  serialize := FdbMsgAddressItem.serialize
  deserialize := FdbMsgAddressItem.deserialize
  init := {}
  visible := FdbMsgAddressItem.visible
  Encodable m := Encodable m.mTCPIPCAddress ∧ Encodable m.mTCPIPCUrl

instance : LawfulParcelable FdbMsgAddressItem where
  decodes host v old hv := by
    obtain ⟨haddress, hurl⟩ := hv
    show Reads (old.deserialize host) v.serialize _
    refine .plain haddress <| .plain trivial <| .plain trivial <|
      .plain hurl <| .plain trivial <| .plain trivial <|
      .plain trivial <| .plain trivial <|
      .option (fun _ => trivial) fun port hport => .pure ?_
    show FdbMsgAddressItem.visible _ = v.visible
    simp only [FdbMsgAddressItem.visible, hport, socketTypeOfByte_toByte]

/-- `FdbMsgTokens`. -/
structure FdbMsgTokens where
  mTokens : CFdbParcelableArray (List UInt8)

instance : IFdbParcelable FdbMsgTokens := oneMember .mk FdbMsgTokens.mTokens
instance : LawfulParcelable FdbMsgTokens := lawful_oneMember fun _ => rfl
instance : PlainParcelable FdbMsgTokens := plain_oneMember fun _ => rfl

/-- `mMaskTokenList`. -/
def hasTokenList (options : BitVec 8) : Bool := optionSet options 0

/-- `FdbMsgAddressList`. -/
structure FdbMsgAddressList where
  mServiceName : List UInt8 := []
  mHostName : List UInt8 := []
  mEndpointName : List UInt8 := []
  mDomainName : List UInt8 := []
  mInstanceId : BitVec 32 := 0
  mIsLocal : Bool := true
  mPid : BitVec 32 := 0
  mAddressList : CFdbParcelableArray FdbMsgAddressItem := ⟨[]⟩
  mTokenList : FdbMsgTokens := init
  mOptions : BitVec 8 := 0

def FdbMsgAddressList.serialize (m : FdbMsgAddressList) : List Write :=
  [put m.mServiceName, put m.mHostName, put m.mEndpointName, put m.mDomainName, put m.mInstanceId,
    put m.mIsLocal, put m.mPid, put m.mAddressList, put m.mOptions,
    writeIf (hasTokenList m.mOptions) m.mTokenList].flatten

def FdbMsgAddressList.deserialize (host : ByteOrder) (m : FdbMsgAddressList) :
    Deserialize FdbMsgAddressList := do
  let mServiceName ← fetch host m.mServiceName
  let mHostName ← fetch host m.mHostName
  let mEndpointName ← fetch host m.mEndpointName
  let mDomainName ← fetch host m.mDomainName
  let mInstanceId ← fetch host m.mInstanceId
  let mIsLocal ← fetch host m.mIsLocal
  let mPid ← fetch host m.mPid
  let mAddressList ← fetch host m.mAddressList
  let mOptions ← fetch host m.mOptions
  let mTokenList ← readIf (hasTokenList mOptions) (fetch host m.mTokenList) m.mTokenList
  pure ⟨mServiceName, mHostName, mEndpointName, mDomainName, mInstanceId, mIsLocal, mPid,
    mAddressList, mTokenList, mOptions⟩

def FdbMsgAddressList.visible (m : FdbMsgAddressList) : FdbMsgAddressList :=
  { m with
    mAddressList := IFdbParcelable.visible m.mAddressList
    mTokenList := visibleIf (hasTokenList m.mOptions) m.mTokenList }

instance : IFdbParcelable FdbMsgAddressList where
  serialize := FdbMsgAddressList.serialize
  deserialize := FdbMsgAddressList.deserialize
  init := {}
  visible := FdbMsgAddressList.visible
  Encodable m :=
    Encodable m.mServiceName ∧ Encodable m.mHostName
      ∧ Encodable m.mEndpointName ∧ Encodable m.mDomainName
      ∧ Encodable m.mAddressList
      ∧ (hasTokenList m.mOptions = true → Encodable m.mTokenList)

instance : LawfulParcelable FdbMsgAddressList where
  decodes host v old hv := by
    obtain ⟨hserviceName, hhostName, hendpointName, hdomainName, haddressList, htokenList⟩ := hv
    show Reads (old.deserialize host) v.serialize _
    refine .plain hserviceName <| .plain hhostName <| .plain hendpointName <|
      .plain hdomainName <| .plain trivial <| .plain trivial <|
      .plain trivial <| .field haddressList fun addressList haddressList' =>
      .plain trivial <| .option htokenList fun tokenList htokenList' => .pure ?_
    show FdbMsgAddressList.visible _ = v.visible
    simp only [FdbMsgAddressList.visible, haddressList', htokenList']

/-- `FdbAddrBindStatus`. -/
structure FdbAddrBindStatus where
  mRequestAddr : List UInt8 := []
  mBindAddr : List UInt8 := []
  mUDPPort : BitVec 32 := 0

def FdbAddrBindStatus.serialize (m : FdbAddrBindStatus) : List Write :=
  [put m.mRequestAddr, put m.mBindAddr, put m.mUDPPort].flatten

def FdbAddrBindStatus.deserialize (host : ByteOrder) (m : FdbAddrBindStatus) :
    Deserialize FdbAddrBindStatus := do
  let mRequestAddr ← fetch host m.mRequestAddr
  let mBindAddr ← fetch host m.mBindAddr
  let mUDPPort ← fetch host m.mUDPPort
  pure ⟨mRequestAddr, mBindAddr, mUDPPort⟩

instance : IFdbParcelable FdbAddrBindStatus where
  serialize := FdbAddrBindStatus.serialize
  deserialize := FdbAddrBindStatus.deserialize
  init := {}
  visible m := m
  Encodable m := Encodable m.mRequestAddr ∧ Encodable m.mBindAddr

instance : LawfulParcelable FdbAddrBindStatus where
  decodes host v old hv := by
    obtain ⟨hrequestAddr, hbindAddr⟩ := hv
    show Reads (old.deserialize host) v.serialize _
    exact .plain hrequestAddr <| .plain hbindAddr <| .plain trivial <| .pure rfl

instance : PlainParcelable FdbAddrBindStatus := ⟨fun _ => rfl⟩

/-- `FdbMsgAddrBindResults`. -/
structure FdbMsgAddrBindResults where
  mServiceName : List UInt8 := []
  mAddrList : CFdbParcelableArray FdbAddrBindStatus := ⟨[]⟩
  mInstanceId : BitVec 32 := 0

def FdbMsgAddrBindResults.serialize (m : FdbMsgAddrBindResults) : List Write :=
  [put m.mServiceName, put m.mAddrList, put m.mInstanceId].flatten

def FdbMsgAddrBindResults.deserialize (host : ByteOrder) (m : FdbMsgAddrBindResults) :
    Deserialize FdbMsgAddrBindResults := do
  let mServiceName ← fetch host m.mServiceName
  let mAddrList ← fetch host m.mAddrList
  let mInstanceId ← fetch host m.mInstanceId
  pure ⟨mServiceName, mAddrList, mInstanceId⟩

instance : IFdbParcelable FdbMsgAddrBindResults where
  serialize := FdbMsgAddrBindResults.serialize
  deserialize := FdbMsgAddrBindResults.deserialize
  init := {}
  visible m := m
  Encodable m := Encodable m.mServiceName ∧ Encodable m.mAddrList

instance : LawfulParcelable FdbMsgAddrBindResults where
  decodes host v old hv := by
    obtain ⟨hserviceName, haddrList⟩ := hv
    show Reads (old.deserialize host) v.serialize _
    exact .plain hserviceName <| .plain haddrList <| .plain trivial <| .pure rfl

instance : PlainParcelable FdbMsgAddrBindResults := ⟨fun _ => rfl⟩

/-- `FdbMsgServerName`. -/
structure FdbMsgServerName where
  mName : List UInt8 := []
  mEndpointName : List UInt8 := []
  mFlag : BitVec 8 := 0
  mExportableLevel : BitVec 32 := 0
  mInstanceId : BitVec 32 := 0

def FdbMsgServerName.serialize (m : FdbMsgServerName) : List Write :=
  [put m.mName, put m.mFlag, put m.mEndpointName, put m.mExportableLevel,
    put m.mInstanceId].flatten

def FdbMsgServerName.deserialize (host : ByteOrder) (m : FdbMsgServerName) :
    Deserialize FdbMsgServerName := do
  let mName ← fetch host m.mName
  let mFlag ← fetch host m.mFlag
  let mEndpointName ← fetch host m.mEndpointName
  let mExportableLevel ← fetch host m.mExportableLevel
  let mInstanceId ← fetch host m.mInstanceId
  pure ⟨mName, mEndpointName, mFlag, mExportableLevel, mInstanceId⟩

instance : IFdbParcelable FdbMsgServerName where
  serialize := FdbMsgServerName.serialize
  deserialize := FdbMsgServerName.deserialize
  init := {}
  visible m := m
  Encodable m := Encodable m.mName ∧ Encodable m.mEndpointName

instance : LawfulParcelable FdbMsgServerName where
  decodes host v old hv := by
    obtain ⟨hname, hendpointName⟩ := hv
    show Reads (old.deserialize host) v.serialize _
    exact .plain hname <| .plain trivial <| .plain hendpointName <|
      .plain trivial <| .plain trivial <| .pure rfl

instance : PlainParcelable FdbMsgServerName := ⟨fun _ => rfl⟩

/-! ## §2. Services and hosts. -/

/-- `FdbMsgExportableSvcAddress`. -/
structure FdbMsgExportableSvcAddress where
  mSvcAddrList : CFdbParcelableArray FdbMsgAddressList

instance : IFdbParcelable FdbMsgExportableSvcAddress :=
  oneMember .mk FdbMsgExportableSvcAddress.mSvcAddrList
instance : LawfulParcelable FdbMsgExportableSvcAddress := lawful_oneMember fun _ => rfl

/-- `mMaskCred`. -/
def hasCred (options : BitVec 8) : Bool := optionSet options 0

/-- `FdbMsgHostRegisterReq`. -/
structure FdbMsgHostRegisterReq where
  mIpAddress : List UInt8 := []
  mHostName : List UInt8 := []
  mCred : List UInt8 := []
  mOptions : BitVec 8 := 0

def FdbMsgHostRegisterReq.serialize (m : FdbMsgHostRegisterReq) : List Write :=
  [put m.mIpAddress, put m.mHostName, put m.mOptions,
    writeIf (hasCred m.mOptions) m.mCred].flatten

def FdbMsgHostRegisterReq.deserialize (host : ByteOrder) (m : FdbMsgHostRegisterReq) :
    Deserialize FdbMsgHostRegisterReq := do
  let mIpAddress ← fetch host m.mIpAddress
  let mHostName ← fetch host m.mHostName
  let mOptions ← fetch host m.mOptions
  let mCred ← readIf (hasCred mOptions) (fetch host m.mCred) m.mCred
  pure ⟨mIpAddress, mHostName, mCred, mOptions⟩

def FdbMsgHostRegisterReq.visible (m : FdbMsgHostRegisterReq) : FdbMsgHostRegisterReq :=
  { m with mCred := visibleIf (hasCred m.mOptions) m.mCred }

instance : IFdbParcelable FdbMsgHostRegisterReq where
  serialize := FdbMsgHostRegisterReq.serialize
  deserialize := FdbMsgHostRegisterReq.deserialize
  init := {}
  visible := FdbMsgHostRegisterReq.visible
  Encodable m :=
    Encodable m.mIpAddress ∧ Encodable m.mHostName
      ∧ (hasCred m.mOptions = true → Encodable m.mCred)

instance : LawfulParcelable FdbMsgHostRegisterReq where
  decodes host v old hv := by
    obtain ⟨hipAddress, hhostName, hcred⟩ := hv
    show Reads (old.deserialize host) v.serialize _
    refine .plain hipAddress <| .plain hhostName <| .plain trivial <|
      .option hcred fun cred hcred' => .pure ?_
    show FdbMsgHostRegisterReq.visible _ = v.visible
    simp only [FdbMsgHostRegisterReq.visible, hcred']

/-- `FdbMsgHostAddress`. -/
structure FdbMsgHostAddress where
  mIpAddress : List UInt8 := []
  mHostName : List UInt8 := []
  mAddressList : CFdbParcelableArray FdbMsgAddressItem := ⟨[]⟩
  mTokenList : FdbMsgTokens := init
  mSvcAddrList : FdbMsgExportableSvcAddress := init
  mOptions : BitVec 8 := 0

def FdbMsgHostAddress.serialize (m : FdbMsgHostAddress) : List Write :=
  [put m.mIpAddress, put m.mHostName, put m.mAddressList, put m.mSvcAddrList, put m.mOptions,
    writeIf (hasTokenList m.mOptions) m.mTokenList].flatten

def FdbMsgHostAddress.deserialize (host : ByteOrder) (m : FdbMsgHostAddress) :
    Deserialize FdbMsgHostAddress := do
  let mIpAddress ← fetch host m.mIpAddress
  let mHostName ← fetch host m.mHostName
  let mAddressList ← fetch host m.mAddressList
  let mSvcAddrList ← fetch host m.mSvcAddrList
  let mOptions ← fetch host m.mOptions
  let mTokenList ← readIf (hasTokenList mOptions) (fetch host m.mTokenList) m.mTokenList
  pure ⟨mIpAddress, mHostName, mAddressList, mTokenList, mSvcAddrList, mOptions⟩

def FdbMsgHostAddress.visible (m : FdbMsgHostAddress) : FdbMsgHostAddress :=
  { m with
    mAddressList := IFdbParcelable.visible m.mAddressList
    mTokenList := visibleIf (hasTokenList m.mOptions) m.mTokenList
    mSvcAddrList := IFdbParcelable.visible m.mSvcAddrList }

instance : IFdbParcelable FdbMsgHostAddress where
  serialize := FdbMsgHostAddress.serialize
  deserialize := FdbMsgHostAddress.deserialize
  init := {}
  visible := FdbMsgHostAddress.visible
  Encodable m :=
    Encodable m.mIpAddress ∧ Encodable m.mHostName
      ∧ Encodable m.mAddressList ∧ Encodable m.mSvcAddrList
      ∧ (hasTokenList m.mOptions = true → Encodable m.mTokenList)

instance : LawfulParcelable FdbMsgHostAddress where
  decodes host v old hv := by
    obtain ⟨hipAddress, hhostName, haddressList, hsvcAddrList, htokenList⟩ := hv
    show Reads (old.deserialize host) v.serialize _
    refine .plain hipAddress <| .plain hhostName <|
      .field haddressList fun addressList haddressList' =>
      .field hsvcAddrList fun svcAddrList hsvcAddrList' => .plain trivial <|
      .option htokenList fun tokenList htokenList' => .pure ?_
    show FdbMsgHostAddress.visible _ = v.visible
    simp only [FdbMsgHostAddress.visible, haddressList', hsvcAddrList', htokenList']

/-- `FdbMsgDomainRegisterReq`. -/
structure FdbMsgDomainRegisterReq where
  mDomainName : List UInt8 := []
  mCred : List UInt8 := []
  mOptions : BitVec 8 := 0

def FdbMsgDomainRegisterReq.serialize (m : FdbMsgDomainRegisterReq) : List Write :=
  [put m.mDomainName, put m.mOptions, writeIf (hasCred m.mOptions) m.mCred].flatten

def FdbMsgDomainRegisterReq.deserialize (host : ByteOrder) (m : FdbMsgDomainRegisterReq) :
    Deserialize FdbMsgDomainRegisterReq := do
  let mDomainName ← fetch host m.mDomainName
  let mOptions ← fetch host m.mOptions
  let mCred ← readIf (hasCred mOptions) (fetch host m.mCred) m.mCred
  pure ⟨mDomainName, mCred, mOptions⟩

def FdbMsgDomainRegisterReq.visible (m : FdbMsgDomainRegisterReq) : FdbMsgDomainRegisterReq :=
  { m with mCred := visibleIf (hasCred m.mOptions) m.mCred }

instance : IFdbParcelable FdbMsgDomainRegisterReq where
  serialize := FdbMsgDomainRegisterReq.serialize
  deserialize := FdbMsgDomainRegisterReq.deserialize
  init := {}
  visible := FdbMsgDomainRegisterReq.visible
  Encodable m := Encodable m.mDomainName ∧ (hasCred m.mOptions = true → Encodable m.mCred)

instance : LawfulParcelable FdbMsgDomainRegisterReq where
  decodes host v old hv := by
    obtain ⟨hdomainName, hcred⟩ := hv
    show Reads (old.deserialize host) v.serialize _
    refine .plain hdomainName <| .plain trivial <| .option hcred fun cred hcred' =>
      .pure ?_
    show FdbMsgDomainRegisterReq.visible _ = v.visible
    simp only [FdbMsgDomainRegisterReq.visible, hcred']

/-- `FdbMsgDomainAddress`. -/
structure FdbMsgDomainAddress where
  mDomainName : List UInt8 := []
  mSvcAddrList : FdbMsgExportableSvcAddress := init
  mTokenList : FdbMsgTokens := init
  mOptions : BitVec 8 := 0

def FdbMsgDomainAddress.serialize (m : FdbMsgDomainAddress) : List Write :=
  [put m.mDomainName, put m.mSvcAddrList, put m.mOptions,
    writeIf (hasTokenList m.mOptions) m.mTokenList].flatten

def FdbMsgDomainAddress.deserialize (host : ByteOrder) (m : FdbMsgDomainAddress) :
    Deserialize FdbMsgDomainAddress := do
  let mDomainName ← fetch host m.mDomainName
  let mSvcAddrList ← fetch host m.mSvcAddrList
  let mOptions ← fetch host m.mOptions
  let mTokenList ← readIf (hasTokenList mOptions) (fetch host m.mTokenList) m.mTokenList
  pure ⟨mDomainName, mSvcAddrList, mTokenList, mOptions⟩

def FdbMsgDomainAddress.visible (m : FdbMsgDomainAddress) : FdbMsgDomainAddress :=
  { m with
    mSvcAddrList := IFdbParcelable.visible m.mSvcAddrList
    mTokenList := visibleIf (hasTokenList m.mOptions) m.mTokenList }

instance : IFdbParcelable FdbMsgDomainAddress where
  serialize := FdbMsgDomainAddress.serialize
  deserialize := FdbMsgDomainAddress.deserialize
  init := {}
  visible := FdbMsgDomainAddress.visible
  Encodable m :=
    Encodable m.mDomainName ∧ Encodable m.mSvcAddrList
      ∧ (hasTokenList m.mOptions = true → Encodable m.mTokenList)

instance : LawfulParcelable FdbMsgDomainAddress where
  decodes host v old hv := by
    obtain ⟨hdomainName, hsvcAddrList, htokenList⟩ := hv
    show Reads (old.deserialize host) v.serialize _
    refine .plain hdomainName <| .field hsvcAddrList fun svcAddrList hsvcAddrList' =>
      .plain trivial <| .option htokenList fun tokenList htokenList' => .pure ?_
    show FdbMsgDomainAddress.visible _ = v.visible
    simp only [FdbMsgDomainAddress.visible, hsvcAddrList', htokenList']

/-- `FdbMsgHostRegisterAck`. -/
structure FdbMsgHostRegisterAck where
  mDomainName : List UInt8 := []
  mTokenList : FdbMsgTokens := init
  mOptions : BitVec 8 := 0

def FdbMsgHostRegisterAck.serialize (m : FdbMsgHostRegisterAck) : List Write :=
  [put m.mDomainName, put m.mOptions, writeIf (hasTokenList m.mOptions) m.mTokenList].flatten

def FdbMsgHostRegisterAck.deserialize (host : ByteOrder) (m : FdbMsgHostRegisterAck) :
    Deserialize FdbMsgHostRegisterAck := do
  let mDomainName ← fetch host m.mDomainName
  let mOptions ← fetch host m.mOptions
  let mTokenList ← readIf (hasTokenList mOptions) (fetch host m.mTokenList) m.mTokenList
  pure ⟨mDomainName, mTokenList, mOptions⟩

def FdbMsgHostRegisterAck.visible (m : FdbMsgHostRegisterAck) : FdbMsgHostRegisterAck :=
  { m with mTokenList := visibleIf (hasTokenList m.mOptions) m.mTokenList }

instance : IFdbParcelable FdbMsgHostRegisterAck where
  serialize := FdbMsgHostRegisterAck.serialize
  deserialize := FdbMsgHostRegisterAck.deserialize
  init := {}
  visible := FdbMsgHostRegisterAck.visible
  Encodable m := Encodable m.mDomainName ∧ (hasTokenList m.mOptions = true → Encodable m.mTokenList)

instance : LawfulParcelable FdbMsgHostRegisterAck where
  decodes host v old hv := by
    obtain ⟨hdomainName, htokenList⟩ := hv
    show Reads (old.deserialize host) v.serialize _
    refine .plain hdomainName <| .plain trivial <|
      .option htokenList fun tokenList htokenList' => .pure ?_
    show FdbMsgHostRegisterAck.visible _ = v.visible
    simp only [FdbMsgHostRegisterAck.visible, htokenList']

/-- `FdbMsgHostInfo`. -/
structure FdbMsgHostInfo where
  mName : List UInt8

instance : IFdbParcelable FdbMsgHostInfo := oneMember .mk FdbMsgHostInfo.mName
instance : LawfulParcelable FdbMsgHostInfo := lawful_oneMember fun _ => rfl
instance : PlainParcelable FdbMsgHostInfo := plain_oneMember fun _ => rfl

/-- `FdbMsgHostAddressList`. -/
structure FdbMsgHostAddressList where
  mAddressList : CFdbParcelableArray FdbMsgHostAddress := ⟨[]⟩
  mSvcAddrList : FdbMsgExportableSvcAddress := init

def FdbMsgHostAddressList.serialize (m : FdbMsgHostAddressList) : List Write :=
  [put m.mAddressList, put m.mSvcAddrList].flatten

def FdbMsgHostAddressList.deserialize (host : ByteOrder) (m : FdbMsgHostAddressList) :
    Deserialize FdbMsgHostAddressList := do
  let mAddressList ← fetch host m.mAddressList
  let mSvcAddrList ← fetch host m.mSvcAddrList
  pure ⟨mAddressList, mSvcAddrList⟩

def FdbMsgHostAddressList.visible (m : FdbMsgHostAddressList) : FdbMsgHostAddressList :=
  { mAddressList := IFdbParcelable.visible m.mAddressList
    mSvcAddrList := IFdbParcelable.visible m.mSvcAddrList }

instance : IFdbParcelable FdbMsgHostAddressList where
  serialize := FdbMsgHostAddressList.serialize
  deserialize := FdbMsgHostAddressList.deserialize
  init := {}
  visible := FdbMsgHostAddressList.visible
  Encodable m := Encodable m.mAddressList ∧ Encodable m.mSvcAddrList

instance : LawfulParcelable FdbMsgHostAddressList where
  decodes host v old hv := by
    obtain ⟨haddressList, hsvcAddrList⟩ := hv
    show Reads (old.deserialize host) v.serialize _
    refine .field haddressList fun addressList haddressList' =>
      .field hsvcAddrList fun svcAddrList hsvcAddrList' => .pure ?_
    show FdbMsgHostAddressList.visible _ = v.visible
    simp only [FdbMsgHostAddressList.visible, haddressList', hsvcAddrList']

/-- `FdbMsgServiceInfo`. -/
structure FdbMsgServiceInfo where
  mServiceAddr : FdbMsgAddressList := init
  mHostAddr : FdbMsgHostAddress := init

def FdbMsgServiceInfo.serialize (m : FdbMsgServiceInfo) : List Write :=
  [put m.mServiceAddr, put m.mHostAddr].flatten

def FdbMsgServiceInfo.deserialize (host : ByteOrder) (m : FdbMsgServiceInfo) :
    Deserialize FdbMsgServiceInfo := do
  let mServiceAddr ← fetch host m.mServiceAddr
  let mHostAddr ← fetch host m.mHostAddr
  pure ⟨mServiceAddr, mHostAddr⟩

def FdbMsgServiceInfo.visible (m : FdbMsgServiceInfo) : FdbMsgServiceInfo :=
  { mServiceAddr := IFdbParcelable.visible m.mServiceAddr
    mHostAddr := IFdbParcelable.visible m.mHostAddr }

instance : IFdbParcelable FdbMsgServiceInfo where
  serialize := FdbMsgServiceInfo.serialize
  deserialize := FdbMsgServiceInfo.deserialize
  init := {}
  visible := FdbMsgServiceInfo.visible
  Encodable m := Encodable m.mServiceAddr ∧ Encodable m.mHostAddr

instance : LawfulParcelable FdbMsgServiceInfo where
  decodes host v old hv := by
    obtain ⟨hserviceAddr, hhostAddr⟩ := hv
    show Reads (old.deserialize host) v.serialize _
    refine .field hserviceAddr fun serviceAddr hserviceAddr' =>
      .field hhostAddr fun hostAddr hhostAddr' => .pure ?_
    show FdbMsgServiceInfo.visible _ = v.visible
    simp only [FdbMsgServiceInfo.visible, hserviceAddr', hhostAddr']

/-- `FdbMsgServiceTable`. -/
structure FdbMsgServiceTable where
  mServiceTbl : CFdbParcelableArray FdbMsgServiceInfo := ⟨[]⟩
  mExportedSvcTbl : FdbMsgExportableSvcAddress := init

def FdbMsgServiceTable.serialize (m : FdbMsgServiceTable) : List Write :=
  [put m.mServiceTbl, put m.mExportedSvcTbl].flatten

def FdbMsgServiceTable.deserialize (host : ByteOrder) (m : FdbMsgServiceTable) :
    Deserialize FdbMsgServiceTable := do
  let mServiceTbl ← fetch host m.mServiceTbl
  let mExportedSvcTbl ← fetch host m.mExportedSvcTbl
  pure ⟨mServiceTbl, mExportedSvcTbl⟩

def FdbMsgServiceTable.visible (m : FdbMsgServiceTable) : FdbMsgServiceTable :=
  { mServiceTbl := IFdbParcelable.visible m.mServiceTbl
    mExportedSvcTbl := IFdbParcelable.visible m.mExportedSvcTbl }

instance : IFdbParcelable FdbMsgServiceTable where
  serialize := FdbMsgServiceTable.serialize
  deserialize := FdbMsgServiceTable.deserialize
  init := {}
  visible := FdbMsgServiceTable.visible
  Encodable m := Encodable m.mServiceTbl ∧ Encodable m.mExportedSvcTbl

instance : LawfulParcelable FdbMsgServiceTable where
  decodes host v old hv := by
    obtain ⟨hserviceTbl, hexportedSvcTbl⟩ := hv
    show Reads (old.deserialize host) v.serialize _
    refine .field hserviceTbl fun serviceTbl hserviceTbl' =>
      .field hexportedSvcTbl fun exportedSvcTbl hexportedSvcTbl' => .pure ?_
    show FdbMsgServiceTable.visible _ = v.visible
    simp only [FdbMsgServiceTable.visible, hserviceTbl', hexportedSvcTbl']

/-- `FdbMsgAllExportableService`. -/
structure FdbMsgAllExportableService where
  mUpstreamTable : FdbMsgExportableSvcAddress := init
  mLocalTable : FdbMsgExportableSvcAddress := init
  mDownstreamTable : FdbMsgExportableSvcAddress := init

def FdbMsgAllExportableService.serialize (m : FdbMsgAllExportableService) : List Write :=
  [put m.mUpstreamTable, put m.mLocalTable, put m.mDownstreamTable].flatten

def FdbMsgAllExportableService.deserialize (host : ByteOrder) (m : FdbMsgAllExportableService) :
    Deserialize FdbMsgAllExportableService := do
  let mUpstreamTable ← fetch host m.mUpstreamTable
  let mLocalTable ← fetch host m.mLocalTable
  let mDownstreamTable ← fetch host m.mDownstreamTable
  pure ⟨mUpstreamTable, mLocalTable, mDownstreamTable⟩

def FdbMsgAllExportableService.visible (m : FdbMsgAllExportableService) :
    FdbMsgAllExportableService :=
  { mUpstreamTable := IFdbParcelable.visible m.mUpstreamTable
    mLocalTable := IFdbParcelable.visible m.mLocalTable
    mDownstreamTable := IFdbParcelable.visible m.mDownstreamTable }

instance : IFdbParcelable FdbMsgAllExportableService where
  serialize := FdbMsgAllExportableService.serialize
  deserialize := FdbMsgAllExportableService.deserialize
  init := {}
  visible := FdbMsgAllExportableService.visible
  Encodable m := Encodable m.mUpstreamTable ∧ Encodable m.mLocalTable ∧ Encodable m.mDownstreamTable

instance : LawfulParcelable FdbMsgAllExportableService where
  decodes host v old hv := by
    obtain ⟨hupstreamTable, hlocalTable, hdownstreamTable⟩ := hv
    show Reads (old.deserialize host) v.serialize _
    refine .field hupstreamTable fun upstreamTable hupstreamTable' =>
      .field hlocalTable fun localTable hlocalTable' =>
      .field hdownstreamTable fun downstreamTable hdownstreamTable' => .pure ?_
    show FdbMsgAllExportableService.visible _ = v.visible
    simp only [FdbMsgAllExportableService.visible, hupstreamTable', hlocalTable', hdownstreamTable']

end Fdbus.Wire

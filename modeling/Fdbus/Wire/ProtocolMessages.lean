/-
  Fdbus.Wire.ProtocolMessages — the messages of the protocols survive the wire.

  The remaining classes of the name server protocol (clients of a server, event cache), and those
  of subscriptions and of the data pool.

    * `messages_survive` — for every class of the protocols and every value whose strings and arrays
      the format can count: what `serialize` writes is read back, on hosts of either byte order, as
      a value that is the same in every serialized member, without error and to the last byte.  The
      sizes of the buffers are `int32_t`, so it has to be shorter than `2 ^ 31` bytes.
-/
import Fdbus.Wire.AddressMessages

namespace Fdbus.Wire

open Fdbus.Codec List
open Fdbus.LittleEndian
open Fdbus.Run
open IFdbParcelable (init Encodable visible)

/-! ## §1. Clients and caches. -/

/-- `FdbMsgDogStatus`. -/
inductive FdbMsgDogStatus where
  | die
  | ok
  | nonExist
  deriving DecidableEq

/-- `(int8_t)mDogStatus`. -/
def FdbMsgDogStatus.toByte : FdbMsgDogStatus → BitVec 8
  | .die => -1
  | .ok => 0
  | .nonExist => 1

/-- `(FdbMsgDogStatus)dog_status`; a byte that is no enumerator counts as a dead process. -/
def FdbMsgDogStatus.ofByte : BitVec 8 → FdbMsgDogStatus
  | 0 => .ok
  | 1 => .nonExist
  | _ => .die

theorem FdbMsgDogStatus.ofByte_toByte (s : FdbMsgDogStatus) :
    FdbMsgDogStatus.ofByte s.toByte = s := by
  cases s <;> rfl

/-- `(uint8_t)mQOS`. -/
def qosToByte (qos : EFdbQOS) : BitVec 8 := BitVec.ofNat 8 qos.toByte

/-- `(EFdbQOS)qos`. -/
def qosOfByte (qos : BitVec 8) : EFdbQOS := EFdbQOS.ofByte qos.toNat

theorem qosOfByte_toByte (qos : EFdbQOS) : qosOfByte (qosToByte qos) = qos := by
  cases qos <;> rfl

/-- `FdbMsgStatisticsData`. -/
structure FdbMsgStatisticsData where
  mSyncRequest : BitVec 32 := 0
  mSyncReply : BitVec 32 := 0
  mAsyncRequest : BitVec 32 := 0
  mAsyncReply : BitVec 32 := 0
  mBroadcast : BitVec 32 := 0
  mPublish : BitVec 32 := 0
  mSend : BitVec 32 := 0
  mGetEvent : BitVec 32 := 0
  mReturnEvent : BitVec 32 := 0
  mSyncStatus : BitVec 32 := 0
  mAsyncStatus : BitVec 32 := 0

def FdbMsgStatisticsData.serialize (m : FdbMsgStatisticsData) : List Write :=
  [put m.mSyncRequest, put m.mSyncReply, put m.mAsyncRequest, put m.mAsyncReply, put m.mBroadcast,
    put m.mPublish, put m.mSend, put m.mGetEvent, put m.mReturnEvent, put m.mSyncStatus,
    put m.mAsyncStatus].flatten

def FdbMsgStatisticsData.deserialize (host : ByteOrder) (m : FdbMsgStatisticsData) :
    Deserialize FdbMsgStatisticsData := do
  let mSyncRequest ← fetch host m.mSyncRequest
  let mSyncReply ← fetch host m.mSyncReply
  let mAsyncRequest ← fetch host m.mAsyncRequest
  let mAsyncReply ← fetch host m.mAsyncReply
  let mBroadcast ← fetch host m.mBroadcast
  let mPublish ← fetch host m.mPublish
  let mSend ← fetch host m.mSend
  let mGetEvent ← fetch host m.mGetEvent
  let mReturnEvent ← fetch host m.mReturnEvent
  let mSyncStatus ← fetch host m.mSyncStatus
  let mAsyncStatus ← fetch host m.mAsyncStatus
  pure ⟨mSyncRequest, mSyncReply, mAsyncRequest, mAsyncReply, mBroadcast, mPublish, mSend,
    mGetEvent, mReturnEvent, mSyncStatus, mAsyncStatus⟩

instance : IFdbParcelable FdbMsgStatisticsData where
  serialize := FdbMsgStatisticsData.serialize
  deserialize := FdbMsgStatisticsData.deserialize
  init := {}
  visible m := m
  Encodable _ := True

instance : LawfulParcelable FdbMsgStatisticsData where
  decodes host v old _ := by
    show Reads (old.deserialize host) v.serialize _
    exact .plain trivial <| .plain trivial <| .plain trivial <|
      .plain trivial <| .plain trivial <| .plain trivial <| .plain trivial <|
      .plain trivial <| .plain trivial <| .plain trivial <| .plain trivial <|
      .pure rfl

instance : PlainParcelable FdbMsgStatisticsData := ⟨fun _ => rfl⟩

/-- `FdbMsgClientInfo`. -/
structure FdbMsgClientInfo where
  mPeerName : List UInt8 := []
  mPeerAddress : List UInt8 := []
  mSecurityLevel : BitVec 32 := 0
  mUDPPort : BitVec 32 := 0
  mDogStatus : FdbMsgDogStatus := .ok
  mPid : BitVec 32 := 0
  mTcpTxStatistics : FdbMsgStatisticsData := init
  mTcpRxStatistics : FdbMsgStatisticsData := init
  mQOS : EFdbQOS := .qosLocal
  mSid : BitVec 32 := 0
  mTxQueueSize : BitVec 32 := 0

def FdbMsgClientInfo.serialize (m : FdbMsgClientInfo) : List Write :=
  [put m.mPeerName, put m.mPeerAddress, put m.mSecurityLevel, put m.mUDPPort,
    put (FdbMsgDogStatus.toByte m.mDogStatus), put m.mPid, put m.mTcpTxStatistics,
    put m.mTcpRxStatistics, put (qosToByte m.mQOS), put m.mSid, put m.mTxQueueSize].flatten

def FdbMsgClientInfo.deserialize (host : ByteOrder) (m : FdbMsgClientInfo) :
    Deserialize FdbMsgClientInfo := do
  let mPeerName ← fetch host m.mPeerName
  let mPeerAddress ← fetch host m.mPeerAddress
  let mSecurityLevel ← fetch host m.mSecurityLevel
  let mUDPPort ← fetch host m.mUDPPort
  let dogStatus ← fetch host (0 : BitVec 8)
  let mPid ← fetch host m.mPid
  let mTcpTxStatistics ← fetch host m.mTcpTxStatistics
  let mTcpRxStatistics ← fetch host m.mTcpRxStatistics
  let qos ← fetch host (0 : BitVec 8)
  let mSid ← fetch host m.mSid
  let mTxQueueSize ← fetch host m.mTxQueueSize
  pure ⟨mPeerName, mPeerAddress, mSecurityLevel, mUDPPort, FdbMsgDogStatus.ofByte dogStatus, mPid,
    mTcpTxStatistics, mTcpRxStatistics, qosOfByte qos, mSid, mTxQueueSize⟩

instance : IFdbParcelable FdbMsgClientInfo where
  serialize := FdbMsgClientInfo.serialize
  deserialize := FdbMsgClientInfo.deserialize
  init := {}
  visible m := m
  Encodable m := Encodable m.mPeerName ∧ Encodable m.mPeerAddress

instance : LawfulParcelable FdbMsgClientInfo where
  decodes host v old hv := by
    obtain ⟨hpeerName, hpeerAddress⟩ := hv
    show Reads (old.deserialize host) v.serialize _
    refine .plain hpeerName <| .plain hpeerAddress <| .plain trivial <|
      .plain trivial <| .plain trivial <| .plain trivial <| .plain trivial <|
      .plain trivial <| .plain trivial <| .plain trivial <| .plain trivial <|
      .pure ?_
    show (⟨v.mPeerName, v.mPeerAddress, v.mSecurityLevel, v.mUDPPort, _, v.mPid,
      v.mTcpTxStatistics, v.mTcpRxStatistics, _, v.mSid, v.mTxQueueSize⟩ : FdbMsgClientInfo) = v
    rw [FdbMsgDogStatus.ofByte_toByte, qosOfByte_toByte]

instance : PlainParcelable FdbMsgClientInfo := ⟨fun _ => rfl⟩

/-- `mMaskHasContext`. -/
def hasContext (option : BitVec 8) : Bool := optionSet option 0

/-- `mMaskHasWorker`. -/
def hasWorker (option : BitVec 8) : Bool := optionSet option 1

/-- `FdbMsgClientTable`. -/
structure FdbMsgClientTable where
  mEndpointName : List UInt8 := []
  mServerName : List UInt8 := []
  mContextJobQueueSize : BitVec 32 := 0
  mWorkerJobQueueSize : BitVec 32 := 0
  mClientTbl : CFdbParcelableArray FdbMsgClientInfo := ⟨[]⟩
  mInstanceId : BitVec 32 := 0
  mOption : BitVec 8 := 0

def FdbMsgClientTable.serialize (m : FdbMsgClientTable) : List Write :=
  [put m.mEndpointName, put m.mServerName, put m.mClientTbl, put m.mInstanceId, put m.mOption,
    writeIf (hasContext m.mOption) m.mContextJobQueueSize,
    writeIf (hasWorker m.mOption) m.mWorkerJobQueueSize].flatten

def FdbMsgClientTable.deserialize (host : ByteOrder) (m : FdbMsgClientTable) :
    Deserialize FdbMsgClientTable := do
  let mEndpointName ← fetch host m.mEndpointName
  let mServerName ← fetch host m.mServerName
  let mClientTbl ← fetch host m.mClientTbl
  let mInstanceId ← fetch host m.mInstanceId
  let mOption ← fetch host m.mOption
  let mContextJobQueueSize ← readIf (hasContext mOption) (fetch host m.mContextJobQueueSize)
    m.mContextJobQueueSize
  let mWorkerJobQueueSize ← readIf (hasWorker mOption) (fetch host m.mWorkerJobQueueSize)
    m.mWorkerJobQueueSize
  pure ⟨mEndpointName, mServerName, mContextJobQueueSize, mWorkerJobQueueSize, mClientTbl,
    mInstanceId, mOption⟩

def FdbMsgClientTable.visible (m : FdbMsgClientTable) : FdbMsgClientTable :=
  { m with
    mContextJobQueueSize := visibleIf (hasContext m.mOption) m.mContextJobQueueSize
    mWorkerJobQueueSize := visibleIf (hasWorker m.mOption) m.mWorkerJobQueueSize }

instance : IFdbParcelable FdbMsgClientTable where
  serialize := FdbMsgClientTable.serialize
  deserialize := FdbMsgClientTable.deserialize
  init := {}
  visible := FdbMsgClientTable.visible
  Encodable m := Encodable m.mEndpointName ∧ Encodable m.mServerName ∧ Encodable m.mClientTbl

instance : LawfulParcelable FdbMsgClientTable where
  decodes host v old hv := by
    obtain ⟨hendpointName, hserverName, hclientTbl⟩ := hv
    show Reads (old.deserialize host) v.serialize _
    refine .plain hendpointName <| .plain hserverName <| .plain hclientTbl <|
      .plain trivial <| .plain trivial <|
      .option (fun _ => trivial) fun contextJobQueueSize hcontextJobQueueSize' =>
      .option (fun _ => trivial) fun workerJobQueueSize hworkerJobQueueSize' => .pure ?_
    show FdbMsgClientTable.visible _ = v.visible
    simp only [FdbMsgClientTable.visible, hcontextJobQueueSize', hworkerJobQueueSize']

/-- `FdbMsgQueryPeerInfo`. -/
structure FdbMsgQueryPeerInfo where
  mSid : BitVec 32

instance : IFdbParcelable FdbMsgQueryPeerInfo := oneMember .mk FdbMsgQueryPeerInfo.mSid
instance : LawfulParcelable FdbMsgQueryPeerInfo := lawful_oneMember fun _ => rfl
instance : PlainParcelable FdbMsgQueryPeerInfo := plain_oneMember fun _ => rfl

/-- `FdbMsgEventCacheItem`. -/
structure FdbMsgEventCacheItem where
  mEvent : BitVec 32 := 0
  mTopic : List UInt8 := []
  mSize : BitVec 32 := 0

def FdbMsgEventCacheItem.serialize (m : FdbMsgEventCacheItem) : List Write :=
  [put m.mEvent, put m.mTopic, put m.mSize].flatten

def FdbMsgEventCacheItem.deserialize (host : ByteOrder) (m : FdbMsgEventCacheItem) :
    Deserialize FdbMsgEventCacheItem := do
  let mEvent ← fetch host m.mEvent
  let mTopic ← fetch host m.mTopic
  let mSize ← fetch host m.mSize
  pure ⟨mEvent, mTopic, mSize⟩

instance : IFdbParcelable FdbMsgEventCacheItem where
  serialize := FdbMsgEventCacheItem.serialize
  deserialize := FdbMsgEventCacheItem.deserialize
  init := {}
  visible m := m
  Encodable m := Encodable m.mTopic

instance : LawfulParcelable FdbMsgEventCacheItem where
  decodes host v old hv := by
    have htopic : Encodable v.mTopic := hv
    show Reads (old.deserialize host) v.serialize _
    exact .plain trivial <| .plain htopic <| .plain trivial <| .pure rfl

instance : PlainParcelable FdbMsgEventCacheItem := ⟨fun _ => rfl⟩

/-- `FdbMsgEventCache`. -/
structure FdbMsgEventCache where
  mCache : CFdbParcelableArray FdbMsgEventCacheItem

instance : IFdbParcelable FdbMsgEventCache := oneMember .mk FdbMsgEventCache.mCache
instance : LawfulParcelable FdbMsgEventCache := lawful_oneMember fun _ => rfl
instance : PlainParcelable FdbMsgEventCache := plain_oneMember fun _ => rfl

/-! ## §2. Subscriptions and the data pool. -/

/-- `mMaskFilter`. -/
def hasFilter (options : BitVec 8) : Bool := optionSet options 0

/-- `CFdbMsgSubscribeItem`. -/
structure CFdbMsgSubscribeItem where
  mCode : BitVec 32 := 0
  mFilter : List UInt8 := []
  mFlag : BitVec 32 := 0
  mOptions : BitVec 8 := 0

def CFdbMsgSubscribeItem.serialize (m : CFdbMsgSubscribeItem) : List Write :=
  [put m.mCode, put m.mFlag, put m.mOptions, writeIf (hasFilter m.mOptions) m.mFilter].flatten

def CFdbMsgSubscribeItem.deserialize (host : ByteOrder) (m : CFdbMsgSubscribeItem) :
    Deserialize CFdbMsgSubscribeItem := do
  let mCode ← fetch host m.mCode
  let mFlag ← fetch host m.mFlag
  let mOptions ← fetch host m.mOptions
  let mFilter ← readIf (hasFilter mOptions) (fetch host m.mFilter) m.mFilter
  pure ⟨mCode, mFilter, mFlag, mOptions⟩

def CFdbMsgSubscribeItem.visible (m : CFdbMsgSubscribeItem) : CFdbMsgSubscribeItem :=
  { m with mFilter := visibleIf (hasFilter m.mOptions) m.mFilter }

instance : IFdbParcelable CFdbMsgSubscribeItem where
  serialize := CFdbMsgSubscribeItem.serialize
  deserialize := CFdbMsgSubscribeItem.deserialize
  init := {}
  visible := CFdbMsgSubscribeItem.visible
  Encodable m := (hasFilter m.mOptions = true → Encodable m.mFilter)

instance : LawfulParcelable CFdbMsgSubscribeItem where
  decodes host v old hv := by
    show Reads (old.deserialize host) v.serialize _
    refine .plain trivial <| .plain trivial <| .plain trivial <|
      .option hv fun filter hfilter' => .pure ?_
    show CFdbMsgSubscribeItem.visible _ = v.visible
    simp only [CFdbMsgSubscribeItem.visible, hfilter']

/-- `CFdbMsgTable`, the base of the lists of subscriptions and of triggers. -/
structure CFdbMsgTable where
  mSubscribeTbl : CFdbParcelableArray CFdbMsgSubscribeItem

instance : IFdbParcelable CFdbMsgTable := oneMember .mk CFdbMsgTable.mSubscribeTbl
instance : LawfulParcelable CFdbMsgTable := lawful_oneMember fun _ => rfl

/-- `FdbMsgTopicItem`, with the members of its `CTopicInfo`. -/
structure FdbMsgTopicItem where
  mTopic : List UInt8 := []
  mTopicId : BitVec 32 := 0
  mPoolName : List UInt8 := []
  mDomainId : BitVec 8 := 0

def FdbMsgTopicItem.serialize (m : FdbMsgTopicItem) : List Write :=
  [put m.mTopic, put m.mTopicId, put m.mPoolName, put m.mDomainId].flatten

def FdbMsgTopicItem.deserialize (host : ByteOrder) (m : FdbMsgTopicItem) :
    Deserialize FdbMsgTopicItem := do
  let mTopic ← fetch host m.mTopic
  let mTopicId ← fetch host m.mTopicId
  let mPoolName ← fetch host m.mPoolName
  let mDomainId ← fetch host m.mDomainId
  pure ⟨mTopic, mTopicId, mPoolName, mDomainId⟩

instance : IFdbParcelable FdbMsgTopicItem where
  serialize := FdbMsgTopicItem.serialize
  deserialize := FdbMsgTopicItem.deserialize
  init := {}
  visible m := m
  Encodable m := Encodable m.mTopic ∧ Encodable m.mPoolName

instance : LawfulParcelable FdbMsgTopicItem where
  decodes host v old hv := by
    obtain ⟨htopic, hpoolName⟩ := hv
    show Reads (old.deserialize host) v.serialize _
    exact .plain htopic <| .plain trivial <| .plain hpoolName <|
      .plain trivial <| .pure rfl

instance : PlainParcelable FdbMsgTopicItem := ⟨fun _ => rfl⟩

/-- `FdbMsgTopics`. -/
structure FdbMsgTopics where
  mTopicList : CFdbParcelableArray FdbMsgTopicItem

instance : IFdbParcelable FdbMsgTopics := oneMember .mk FdbMsgTopics.mTopicList
instance : LawfulParcelable FdbMsgTopics := lawful_oneMember fun _ => rfl
instance : PlainParcelable FdbMsgTopics := plain_oneMember fun _ => rfl

/-- `FdbMsgTopicsQuery`. -/
structure FdbMsgTopicsQuery where
  mOwnedTopics : FdbMsgTopics := init
  mAvailableTopics : FdbMsgTopics := init

def FdbMsgTopicsQuery.serialize (m : FdbMsgTopicsQuery) : List Write :=
  [put m.mOwnedTopics, put m.mAvailableTopics].flatten

def FdbMsgTopicsQuery.deserialize (host : ByteOrder) (m : FdbMsgTopicsQuery) :
    Deserialize FdbMsgTopicsQuery := do
  let mOwnedTopics ← fetch host m.mOwnedTopics
  let mAvailableTopics ← fetch host m.mAvailableTopics
  pure ⟨mOwnedTopics, mAvailableTopics⟩

instance : IFdbParcelable FdbMsgTopicsQuery where
  serialize := FdbMsgTopicsQuery.serialize
  deserialize := FdbMsgTopicsQuery.deserialize
  init := {}
  visible m := m
  Encodable m := Encodable m.mOwnedTopics ∧ Encodable m.mAvailableTopics

instance : LawfulParcelable FdbMsgTopicsQuery where
  decodes host v old hv := by
    obtain ⟨hownedTopics, havailableTopics⟩ := hv
    show Reads (old.deserialize host) v.serialize _
    exact .plain hownedTopics <| .plain havailableTopics <| .pure rfl

instance : PlainParcelable FdbMsgTopicsQuery := ⟨fun _ => rfl⟩

/-! ## §3. Every message. -/

/-- The classes of the messages of name server, host server, data pool and subscriptions. -/
inductive MessageClass where
  | addressItem
  | tokens
  | addressList
  | addrBindStatus
  | addrBindResults
  | serverName
  | exportableSvcAddress
  | hostRegisterReq
  | hostAddress
  | domainRegisterReq
  | domainAddress
  | hostRegisterAck
  | hostInfo
  | hostAddressList
  | serviceInfo
  | serviceTable
  | allExportableService
  | statisticsData
  | clientInfo
  | clientTable
  | queryPeerInfo
  | eventCacheItem
  | eventCache
  | subscribeItem
  | table
  | topicItem
  | topics
  | topicsQuery

/-- The objects of a class. -/
def MessageClass.Value : MessageClass → Type
  | .addressItem => FdbMsgAddressItem
  | .tokens => FdbMsgTokens
  | .addressList => FdbMsgAddressList
  | .addrBindStatus => FdbAddrBindStatus
  | .addrBindResults => FdbMsgAddrBindResults
  | .serverName => FdbMsgServerName
  | .exportableSvcAddress => FdbMsgExportableSvcAddress
  | .hostRegisterReq => FdbMsgHostRegisterReq
  | .hostAddress => FdbMsgHostAddress
  | .domainRegisterReq => FdbMsgDomainRegisterReq
  | .domainAddress => FdbMsgDomainAddress
  | .hostRegisterAck => FdbMsgHostRegisterAck
  | .hostInfo => FdbMsgHostInfo
  | .hostAddressList => FdbMsgHostAddressList
  | .serviceInfo => FdbMsgServiceInfo
  | .serviceTable => FdbMsgServiceTable
  | .allExportableService => FdbMsgAllExportableService
  | .statisticsData => FdbMsgStatisticsData
  | .clientInfo => FdbMsgClientInfo
  | .clientTable => FdbMsgClientTable
  | .queryPeerInfo => FdbMsgQueryPeerInfo
  | .eventCacheItem => FdbMsgEventCacheItem
  | .eventCache => FdbMsgEventCache
  | .subscribeItem => CFdbMsgSubscribeItem
  | .table => CFdbMsgTable
  | .topicItem => FdbMsgTopicItem
  | .topics => FdbMsgTopics
  | .topicsQuery => FdbMsgTopicsQuery

instance : (c : MessageClass) → IFdbParcelable c.Value
  | .addressItem => inferInstanceAs (IFdbParcelable FdbMsgAddressItem)
  | .tokens => inferInstanceAs (IFdbParcelable FdbMsgTokens)
  | .addressList => inferInstanceAs (IFdbParcelable FdbMsgAddressList)
  | .addrBindStatus => inferInstanceAs (IFdbParcelable FdbAddrBindStatus)
  | .addrBindResults => inferInstanceAs (IFdbParcelable FdbMsgAddrBindResults)
  | .serverName => inferInstanceAs (IFdbParcelable FdbMsgServerName)
  | .exportableSvcAddress => inferInstanceAs (IFdbParcelable FdbMsgExportableSvcAddress)
  | .hostRegisterReq => inferInstanceAs (IFdbParcelable FdbMsgHostRegisterReq)
  | .hostAddress => inferInstanceAs (IFdbParcelable FdbMsgHostAddress)
  | .domainRegisterReq => inferInstanceAs (IFdbParcelable FdbMsgDomainRegisterReq)
  | .domainAddress => inferInstanceAs (IFdbParcelable FdbMsgDomainAddress)
  | .hostRegisterAck => inferInstanceAs (IFdbParcelable FdbMsgHostRegisterAck)
  | .hostInfo => inferInstanceAs (IFdbParcelable FdbMsgHostInfo)
  | .hostAddressList => inferInstanceAs (IFdbParcelable FdbMsgHostAddressList)
  | .serviceInfo => inferInstanceAs (IFdbParcelable FdbMsgServiceInfo)
  | .serviceTable => inferInstanceAs (IFdbParcelable FdbMsgServiceTable)
  | .allExportableService => inferInstanceAs (IFdbParcelable FdbMsgAllExportableService)
  | .statisticsData => inferInstanceAs (IFdbParcelable FdbMsgStatisticsData)
  | .clientInfo => inferInstanceAs (IFdbParcelable FdbMsgClientInfo)
  | .clientTable => inferInstanceAs (IFdbParcelable FdbMsgClientTable)
  | .queryPeerInfo => inferInstanceAs (IFdbParcelable FdbMsgQueryPeerInfo)
  | .eventCacheItem => inferInstanceAs (IFdbParcelable FdbMsgEventCacheItem)
  | .eventCache => inferInstanceAs (IFdbParcelable FdbMsgEventCache)
  | .subscribeItem => inferInstanceAs (IFdbParcelable CFdbMsgSubscribeItem)
  | .table => inferInstanceAs (IFdbParcelable CFdbMsgTable)
  | .topicItem => inferInstanceAs (IFdbParcelable FdbMsgTopicItem)
  | .topics => inferInstanceAs (IFdbParcelable FdbMsgTopics)
  | .topicsQuery => inferInstanceAs (IFdbParcelable FdbMsgTopicsQuery)

instance (c : MessageClass) : LawfulParcelable c.Value := by
  cases c
  · exact inferInstanceAs (LawfulParcelable FdbMsgAddressItem)
  · exact inferInstanceAs (LawfulParcelable FdbMsgTokens)
  · exact inferInstanceAs (LawfulParcelable FdbMsgAddressList)
  · exact inferInstanceAs (LawfulParcelable FdbAddrBindStatus)
  · exact inferInstanceAs (LawfulParcelable FdbMsgAddrBindResults)
  · exact inferInstanceAs (LawfulParcelable FdbMsgServerName)
  · exact inferInstanceAs (LawfulParcelable FdbMsgExportableSvcAddress)
  · exact inferInstanceAs (LawfulParcelable FdbMsgHostRegisterReq)
  · exact inferInstanceAs (LawfulParcelable FdbMsgHostAddress)
  · exact inferInstanceAs (LawfulParcelable FdbMsgDomainRegisterReq)
  · exact inferInstanceAs (LawfulParcelable FdbMsgDomainAddress)
  · exact inferInstanceAs (LawfulParcelable FdbMsgHostRegisterAck)
  · exact inferInstanceAs (LawfulParcelable FdbMsgHostInfo)
  · exact inferInstanceAs (LawfulParcelable FdbMsgHostAddressList)
  · exact inferInstanceAs (LawfulParcelable FdbMsgServiceInfo)
  · exact inferInstanceAs (LawfulParcelable FdbMsgServiceTable)
  · exact inferInstanceAs (LawfulParcelable FdbMsgAllExportableService)
  · exact inferInstanceAs (LawfulParcelable FdbMsgStatisticsData)
  · exact inferInstanceAs (LawfulParcelable FdbMsgClientInfo)
  · exact inferInstanceAs (LawfulParcelable FdbMsgClientTable)
  · exact inferInstanceAs (LawfulParcelable FdbMsgQueryPeerInfo)
  · exact inferInstanceAs (LawfulParcelable FdbMsgEventCacheItem)
  · exact inferInstanceAs (LawfulParcelable FdbMsgEventCache)
  · exact inferInstanceAs (LawfulParcelable CFdbMsgSubscribeItem)
  · exact inferInstanceAs (LawfulParcelable CFdbMsgTable)
  · exact inferInstanceAs (LawfulParcelable FdbMsgTopicItem)
  · exact inferInstanceAs (LawfulParcelable FdbMsgTopics)
  · exact inferInstanceAs (LawfulParcelable FdbMsgTopicsQuery)

/-- A parcelable whose bytes the sizes can count is read back as it was written. -/
theorem parcel_survives {α : Type} [IFdbParcelable α] [LawfulParcelable α]
    (sender receiver : ByteOrder) {v : α} (hv : Encodable v)
    (hsize : (wire (put v)).length < 2 ^ 31) (old : α) :
    ∃ (s : CFdbSimpleSerializer) (w : α) (d : CFdbSimpleDeserializer),
      run (CFdbSimpleSerializer.write sender) .start (put v) = some s
        ∧ fetch receiver old ⟨s.bytes, s.bufferSize, 0, false⟩ = some (w, d)
        ∧ visible w = visible v ∧ d.mError = false ∧ (d.mPos : Int) = s.bufferSize := by
  obtain ⟨s, hs, hwritten⟩ := run_write sender (put v) .start [] written_start
    (fun p hp => (LawfulParcelable.small v p hp).le) (by rw [length_nil]; omega)
  rw [nil_append] at hwritten
  have hbuffer : s.bufferSize = ((wire (put v)).length : Int) := by
    rw [hwritten.bufferSize_eq, int32_of_range (by omega) (by omega)]
  obtain ⟨w, hw, hvisible⟩ := LawfulParcelable.decodes receiver v old hv [] []
  refine ⟨s, w, place ([] ++ wire (put v)) [], hs, ?_, hvisible, rfl, ?_⟩
  · rw [hwritten.bytes_eq, hbuffer]
    simpa [place] using hw
  · rw [hbuffer]
    rfl

/-- **Protocol messages survive the wire**, on hosts of either byte order and into any object, when
their strings and arrays can be counted in 16 bits and their bytes in an `int32_t`. -/
theorem messages_survive (c : MessageClass) (v : c.Value) (hv : Encodable v)
    (hsize : (wire (put v)).length < 2 ^ 31) (sender receiver : ByteOrder) (old : c.Value) :
    ∃ (s : CFdbSimpleSerializer) (w : c.Value) (d : CFdbSimpleDeserializer),
      run (CFdbSimpleSerializer.write sender) .start (put v) = some s
        ∧ fetch receiver old ⟨s.bytes, s.bufferSize, 0, false⟩ = some (w, d)
        ∧ visible w = visible v ∧ d.mError = false ∧ (d.mPos : Int) = s.bufferSize :=
  parcel_survives sender receiver hv hsize old

/-- Two tokens. -/
def twoTokens : MessageClass.tokens.Value := (⟨⟨[[97], [98, 99]]⟩⟩ : FdbMsgTokens)

theorem messages_survive_twoTokens :
    ∃ (s : CFdbSimpleSerializer) (w : MessageClass.tokens.Value) (d : CFdbSimpleDeserializer),
      run (CFdbSimpleSerializer.write .big) .start (put twoTokens) = some s
        ∧ fetch .little init ⟨s.bytes, s.bufferSize, 0, false⟩ = some (w, d)
        ∧ visible w = visible twoTokens ∧ d.mError = false ∧ (d.mPos : Int) = s.bufferSize := by
  have hv : Encodable twoTokens := by
    show [[97], [98, 99]].length ≤ 65535 ∧ ∀ v ∈ ([[97], [98, 99]] : List (List UInt8)),
      (0 : UInt8) ∉ v ∧ v.length ≤ 65534
    decide
  exact messages_survive .tokens twoTokens hv (by decide) .big .little init

/-! ## §4. More bytes than the sizes can count. -/

/-- A token of the greatest length. -/
def longToken : List UInt8 := List.replicate 65534 97

/-- As many of them as make two gigabytes. -/
def manyTokens : MessageClass.tokens.Value := (⟨⟨List.replicate 32768 longToken⟩⟩ : FdbMsgTokens)

theorem encodable_manyTokens : Encodable manyTokens := by
  show (replicate 32768 longToken).length ≤ 65535
    ∧ ∀ v ∈ replicate 32768 longToken, (0 : UInt8) ∉ v ∧ v.length ≤ 65534
  refine ⟨by rw [length_replicate]; omega, fun v hv => ?_⟩
  rw [eq_of_mem_replicate hv]
  refine ⟨fun hnul => ?_, ?_⟩
  · exact absurd (eq_of_mem_replicate hnul) (by decide)
  · unfold longToken
    rw [length_replicate]

/-- The bytes of a list of tokens. -/
theorem wire_tokens (tokens : List (List UInt8)) :
    wire (put (⟨⟨tokens⟩⟩ : FdbMsgTokens))
      = leBytes 2 (tokens.length % 2 ^ 16) ++ tokens.flatMap fun t => wire (stringWrites t) := by
  show wire ([CFdbParcelableArray.serialize ⟨tokens⟩].flatten) = _
  rw [flatten_singleton, CFdbParcelableArray.serialize, arrayWrites, wire_cons, wire_flatMap]
  rfl

/-- Their number, when each has the same. -/
theorem length_wire_tokens {tokens : List (List UInt8)} {n : Nat} (hn : n + 1 < 2 ^ 16)
    (h : ∀ t ∈ tokens, t.length = n) :
    (wire (put (⟨⟨tokens⟩⟩ : FdbMsgTokens))).length = 2 + tokens.length * (n + 3) := by
  have htoken : ∀ t ∈ tokens, (wire (stringWrites t)).length = n + 3 := by
    intro t ht
    have hlen := h t ht
    rw [wire_stringWrites, addString_of_lt (by omega)]
    simp only [nil_append, length_append, length_leBytes, length_singleton]
    omega
  rw [wire_tokens, length_append, length_leBytes, length_flatMap,
    map_congr_left htoken, map_const', sum_replicate, smul_eq_mul]

theorem length_manyTokens : (wire (put manyTokens)).length = 2147516418 := by
  have hlength : ∀ t ∈ replicate 32768 longToken, t.length = 65534 := by
    intro t ht
    rw [eq_of_mem_replicate ht]
    exact length_replicate
  refine (length_wire_tokens (by decide) hlength).trans ?_
  rw [length_replicate]

/-- Sixteen bits are enough for every string and every array of the message, but not 32 for its
size: the serializer reports a negative size, and the deserializer fails at the first number. -/
theorem manyTokens_rejected :
    Encodable manyTokens ∧ ∀ (sender receiver : ByteOrder) (old : MessageClass.tokens.Value),
      ∃ (s : CFdbSimpleSerializer) (w : MessageClass.tokens.Value) (d : CFdbSimpleDeserializer),
        run (CFdbSimpleSerializer.write sender) .start (put manyTokens) = some s
          ∧ s.bytes = wire (put manyTokens) ∧ s.bufferSize = -2147450878
          ∧ fetch receiver old ⟨s.bytes, s.bufferSize, 0, false⟩ = some (w, d)
          ∧ d.mError = true := by
  refine ⟨encodable_manyTokens, fun sender receiver old => ?_⟩
  have hlen := length_manyTokens
  obtain ⟨s, hs, hwritten⟩ := run_write sender (put manyTokens) .start [] written_start
    (fun p hp => (LawfulParcelable.small manyTokens p hp).le) (by rw [length_nil]; omega)
  rw [nil_append] at hwritten
  have hbuffer : s.bufferSize = -2147450878 := by
    rw [hwritten.bufferSize_eq, hlen]
    decide
  refine ⟨s, (⟨⟨[]⟩⟩ : FdbMsgTokens), ⟨s.bytes, -2147450878, 0, true⟩, hs, hwritten.bytes_eq,
    hbuffer, ?_, rfl⟩
  have hexceeds : CFdbSimpleDeserializer.exceeds ⟨s.bytes, -2147450878, 0, false⟩ 2 := by
    show (-2147450878 : Int) ≠ 0 ∧ ((0 : Nat) : Int) + ((2 : Nat) : Int) > -2147450878
    decide
  rw [hbuffer]
  show ((CFdbParcelableArray.deserialize receiver (FdbMsgTokens.mTokens old) _).bind fun p =>
    some ((⟨p.1⟩ : FdbMsgTokens), p.2)) = _
  rw [deserialize_refused receiver _ rfl hexceeds]
  rfl

end Fdbus.Wire

/-
  Fdbus.Server.ExternalService — services of other domains, `CIntraHostProxy`.

  A host server tells the name server which services other domains export.  The proxy of the
  host server keeps them in a list, and tells them to whom they concern: to a client that
  subscribes, and to all clients when the list changes.

    * `CFdbSvcAddress`, `populateFromHostInfo`, `compareSvcTable` — the list and its changes,
    * `broadcastOneExtService`, `broadcastExternalService` — who is told,
    * `broadcastExternalService_iff` — exactly when a subscriber is told what the registry
      would find for the same name and instance.
-/
import Fdbus.Server.Publishers

namespace Fdbus.Server

open Fdbus.OrderedMap Fdbus.Security Fdbus.Subscribe List

/-! ## §1. The list of external services. -/

/-- `CFdbSvcAddress`. -/
structure CFdbSvcAddress where
  mAddrTbl : List CFdbSocketAddrInfo := []
  mInstanceId : FdbInstanceId := 0#32
  mSvcName : Text := []
  mEndpointName : Text := []
  mHostName : Text := []
  mDomainName : Text := []
  mTokens : List Token := []
  deriving DecidableEq

/-- `getExportable(exportable, level, at_least)`: the level and `at_least`, if the result is
true. -/
def getExportable (exportable : Int) : Option (Int × Bool) :=
  if exportable < 0 then some (-exportable, true)
  else if exportable = 0 then none
  else some (exportable, false)

/-- `CSvcAddrUtils::checkExportable(current, desired, at_least)`. -/
def checkExportableLevel (current desired : Int) (atLeast : Bool) : Bool :=
  if atLeast then !(current < desired) else !(current > desired)

/-- `setAddressItem(exported_item, msg_item)`. -/
def setAddressItem (item : CFdbSocketAddrInfo) : FdbMsgAddressItem where
  address := item.mAddress
  exportableLevel := item.mExportableLevel
  interfaceId := item.mInterfaceId
  udpPort := some item.mUDPPort

/-- `CSvcAddrUtils::setServiceInfo(exported_addr, export_addr_list)`. -/
def CFdbSvcAddress.serviceInfo (svc : CFdbSvcAddress) : FdbMsgAddressList where
  serviceName := svc.mSvcName
  endpointName := svc.mEndpointName
  hostName := svc.mHostName
  domainName := svc.mDomainName
  pid := 0
  isLocal := false
  tokenList := some svc.mTokens
  instanceId := svc.mInstanceId

/-- `populateFromHostInfo(exported_addr, export_addr_list, exportable_level, remove)`. -/
def CFdbSvcAddress.populateFromHostInfo (svc : CFdbSvcAddress) (exportableLevel : Int)
    (remove : Bool) : FdbMsgAddressList :=
  if remove then svc.serviceInfo
  else
    match getExportable exportableLevel with
    | none => svc.serviceInfo
    | some (level, atLeast) =>
      { svc.serviceInfo with
        addressList := (svc.mAddrTbl.filter fun item =>
          checkExportableLevel item.mExportableLevel level atLeast).map setAddressItem }

/-- `populateToHostInfo(addr_list, exported_addr)`: a list without addresses leaves the new
entry as it is. -/
def FdbMsgAddressList.populateToHostInfo (list : FdbMsgAddressList) : CFdbSvcAddress :=
  if list.addressList = [] then {}
  else
    { mSvcName := list.serviceName
      mEndpointName := list.endpointName
      mHostName := list.hostName
      mDomainName := list.domainName
      mInstanceId := list.instanceId
      mTokens := list.dumpTokens
      mAddrTbl := list.addressList.map fun item =>
        ⟨item.address, item.udpPort.getD fdbInetPortInvalid, item.exportableLevel,
          item.interfaceId⟩ }

/-- `compareSvcTable(..)`: the services that are new, and those that are gone. -/
def compareSvcTable (new : List FdbMsgAddressList) (current : List CFdbSvcAddress) :
    List CFdbSvcAddress × List CFdbSvcAddress :=
  ((new.filter fun list => !current.any fun svc =>
      svc.mSvcName = list.serviceName ∧ svc.mInstanceId = list.instanceId).map
        FdbMsgAddressList.populateToHostInfo,
    current.filter fun svc => !new.any fun list =>
      list.serviceName = svc.mSvcName ∧ list.instanceId = svc.mInstanceId)

/-! ## §2. Who is told. -/

/-- `isLocalService(exported_addr)`: "if any address in list matches, the two services are
regarded as the same". -/
def RegistryTbl.isLocalService (reg : RegistryTbl) (svc : CFdbSvcAddress) : Bool :=
  reg.all.any fun m => m.entry.mSvcName = svc.mSvcName
    ∧ m.entry.mAddrTbl.any fun desc => svc.mAddrTbl.any fun item =>
      desc.mAddress.mUrl = item.mAddress.mUrl

section Broadcast

variable (cfg : NsConfig) (reg : RegistryTbl) (pubs : Publishers) (sessions : Sessions)

/-- `broadcastOneExtService(exported_addr, remove, subscribe_type, msg)`; `msg` is the session and
the object of the message that is answered, if there is one. -/
def broadcastOneExtService (connected : Bool) (svc : CFdbSvcAddress) (remove : Bool)
    (type : SubscribeType) (msg : Option (SessionPtr × FdbObjectId)) : List Sent :=
  if !connected || reg.isLocalService svc then []
  else
    let tokens := (svc.populateFromHostInfo cfg.mMaxDomainExportableLevel remove).dumpTokens
    let addrList := (svc.populateFromHostInfo cfg.mMaxDomainExportableLevel remove).clearTokens
    match msg with
    | some (session, obj) =>
      if type = .intraNormal then answerSvcAddr pubs type cfg sessions session obj tokens addrList
      else broadcastSession pubs type session obj svc.mInstanceId svc.mSvcName addrList
    | none =>
      if type = .intraNormal then broadcastSvcAddr pubs type cfg sessions tokens addrList
      else broadcastAll pubs type svc.mInstanceId svc.mSvcName addrList

/-- `shall_broadcast` for a service of the name that was asked for. -/
def CFdbSvcAddress.shallBroadcast (svc : CFdbSvcAddress) (instanceId : FdbInstanceId) : Bool :=
  if fdbIsGroup instanceId then
    fdbEventInGroup instanceId fdbEventAllGroups || fdbSameGroup instanceId svc.mInstanceId
  else svc.mInstanceId == instanceId

/-- `broadcastExternalService(svc_addr_tbl, remove, subscribe_type, instance_id, svc_name,
msg)`. -/
def broadcastExternalService (connected : Bool) (svcAddrTbl : List CFdbSvcAddress) (remove : Bool)
    (type : SubscribeType) (instanceId : FdbInstanceId) (svcName : Text)
    (msg : Option (SessionPtr × FdbObjectId)) : List Sent :=
  if svcName ≠ [] then
    svcAddrTbl.flatMap fun svc =>
      if svc.mSvcName = svcName ∧ svc.shallBroadcast instanceId then
        broadcastOneExtService cfg reg pubs sessions connected svc remove type msg
      else []
  else
    svcAddrTbl.flatMap fun svc =>
      broadcastOneExtService cfg reg pubs sessions connected svc remove type msg

end Broadcast

/-! ## §3. Matched like local services. -/

/-- The external service as an entry of the registry. -/
def CFdbSvcAddress.asEntry (svc : CFdbSvcAddress) : CSvcRegistryEntry where
  mAddrTbl := svc.mAddrTbl.map fun item => { item with mStatus := .bound }
  mTokens := svc.mTokens
  mEndpointName := svc.mEndpointName
  mSvcName := svc.mSvcName
  mInstanceId := svc.mInstanceId

/-- External services as a registry. -/
def asRegistry (svcs : List CFdbSvcAddress) : RegistryTbl :=
  svcs.foldl (fun reg svc => reg.put svc.mSvcName svc.mInstanceId svc.asEntry) ∅

theorem get_foldl_put (svcs : List CFdbSvcAddress) (reg : RegistryTbl) (n : Text)
    (i : FdbInstanceId) :
    ((svcs.foldl (fun reg svc => reg.put svc.mSvcName svc.mInstanceId svc.asEntry) reg).get n
        i).isSome = true
      ↔ (reg.get n i).isSome = true ∨ ∃ svc ∈ svcs, svc.mSvcName = n ∧ svc.mInstanceId = i := by
  induction svcs generalizing reg with
  | nil => simp
  | cons svc svcs ih =>
    rw [foldl_cons, ih, get_put]
    by_cases hkey : svc.mSvcName = n ∧ svc.mInstanceId = i
    · simp [hkey]
    · rw [if_neg hkey]
      simp only [mem_cons, exists_eq_or_imp, hkey, false_or]

theorem get_asRegistry (svcs : List CFdbSvcAddress) (n : Text) (i : FdbInstanceId) :
    ((asRegistry svcs).get n i).isSome = true
      ↔ ∃ svc ∈ svcs, svc.mSvcName = n ∧ svc.mInstanceId = i := by
  unfold asRegistry
  rw [get_foldl_put]
  have hempty : RegistryTbl.get ∅ n i = none := by simp [RegistryTbl.get]
  rw [hempty]
  simp

/-- What the registry would find among external services. -/
theorem mem_findService_asRegistry (svcs : List CFdbSvcAddress) (svcName : Text)
    (pattern : FdbInstanceId) (n : Text) (i : FdbInstanceId) :
    (∃ entry, ⟨n, i, entry⟩ ∈ (asRegistry svcs).findService svcName pattern)
      ↔ ∃ svc ∈ svcs, (svc.mSvcName = n ∧ svc.mInstanceId = i)
        ∧ Covers svcName pattern svc.mSvcName svc.mInstanceId := by
  simp only [mem_findService]
  constructor
  · rintro ⟨entry, hname, hinst, hget⟩
    obtain ⟨svc, hmem, hn, hi⟩ := (get_asRegistry svcs n i).mp (by rw [hget]; rfl)
    subst hn hi
    exact ⟨svc, hmem, ⟨rfl, rfl⟩, hname, hinst⟩
  · rintro ⟨svc, hmem, ⟨rfl, rfl⟩, hname, hinst⟩
    obtain ⟨entry, hget⟩ := Option.isSome_iff_exists.mp
      ((get_asRegistry svcs svc.mSvcName svc.mInstanceId).mpr ⟨svc, hmem, rfl, rfl⟩)
    exact ⟨entry, hname, hinst, hget⟩

theorem shallBroadcast_iff (svc : CFdbSvcAddress) (pattern : FdbInstanceId) :
    svc.shallBroadcast pattern = true ↔ instanceMatches pattern svc.mInstanceId = true := by
  unfold CFdbSvcAddress.shallBroadcast instanceMatches
  by_cases hgroup : fdbIsGroup pattern = true
  · rw [if_pos hgroup, if_pos hgroup]
  · rw [if_neg hgroup, if_neg hgroup, beq_iff_eq, beq_iff_eq]
    exact eq_comm

section Answer

variable (cfg : NsConfig) (reg : RegistryTbl) (pubs : Publishers) {sessions : Sessions}
  {type : SubscribeType} {session : SessionPtr} {obj : FdbObjectId} {info : SessionInfo}

theorem dress_serviceName (tokens : List Token) (list : FdbMsgAddressList) :
    (dress cfg tokens type info list).serviceName = list.serviceName := by
  cases type <;> rfl

theorem dress_instanceId (tokens : List Token) (list : FdbMsgAddressList) :
    (dress cfg tokens type info list).instanceId = list.instanceId := by
  cases type <;> rfl

theorem populateFromHostInfo_service (svc : CFdbSvcAddress) (level : Int) (remove : Bool) :
    (svc.populateFromHostInfo level remove).serviceName = svc.mSvcName
      ∧ (svc.populateFromHostInfo level remove).instanceId = svc.mInstanceId := by
  unfold CFdbSvcAddress.populateFromHostInfo
  split
  · exact ⟨rfl, rfl⟩
  · split <;> exact ⟨rfl, rfl⟩

/-- One service is told, under its own name and instance, exactly if it is not local and some
object of the session holds a subscription that covers it. -/
theorem mem_broadcastOneExtService (hsession : sessions[session]? = some info)
    (hclass : fdbObjectGetClass obj = type.cls) (svc : CFdbSvcAddress) (remove : Bool) (n : Text)
    (i : FdbInstanceId) :
    (∃ m ∈ broadcastOneExtService cfg reg pubs sessions true svc remove type (some (session, obj)),
        m.list.serviceName = n ∧ m.list.instanceId = i)
      ↔ reg.isLocalService svc = false ∧ (svc.mSvcName = n ∧ svc.mInstanceId = i)
        ∧ ∃ o, fdbObjectGetClass o = type.cls
          ∧ Subscribed pubs type session o svc.mSvcName svc.mInstanceId := by
  obtain ⟨hname, hinst⟩ := populateFromHostInfo_service svc cfg.mMaxDomainExportableLevel remove
  unfold broadcastOneExtService
  cases hlocal : reg.isLocalService svc with
  | true => simp
  | false =>
    simp only [Bool.not_true, Bool.or_self, Bool.false_eq_true, if_false, true_and]
    split
    · -- a local client is sent its tokens as well
      unfold answerSvcAddr
      simp only [hsession]
      show (∃ m ∈ broadcastSession pubs type session obj _ _ _, _) ↔ _
      rw [exists_broadcastSession hclass _ _ _ fun list =>
        list.serviceName = n ∧ list.instanceId = i, dress_serviceName, dress_instanceId]
      show (_ = n ∧ _ = i) ∧ _ ↔ _
      unfold FdbMsgAddressList.clearTokens
      simp only [hname, hinst]
    · rw [exists_broadcastSession hclass _ _ _ fun list =>
        list.serviceName = n ∧ list.instanceId = i]
      unfold FdbMsgAddressList.clearTokens
      simp only [hname, hinst]

/-- **Which services a subscriber is told**: of those that are looked at, the ones that are not
local and that the session holds a subscription for. -/
theorem mem_broadcastExternalService (hsession : sessions[session]? = some info)
    (hclass : fdbObjectGetClass obj = type.cls) (svcAddrTbl : List CFdbSvcAddress) (remove : Bool)
    (pattern : FdbInstanceId) (svcName n : Text) (i : FdbInstanceId) :
    (∃ m ∈ broadcastExternalService cfg reg pubs sessions true svcAddrTbl remove type pattern svcName
          (some (session, obj)), m.list.serviceName = n ∧ m.list.instanceId = i)
      ↔ ∃ svc ∈ svcAddrTbl, (svcName ≠ [] → Covers svcName pattern svc.mSvcName svc.mInstanceId)
        ∧ reg.isLocalService svc = false ∧ (svc.mSvcName = n ∧ svc.mInstanceId = i)
        ∧ ∃ o, fdbObjectGetClass o = type.cls
          ∧ Subscribed pubs type session o svc.mSvcName svc.mInstanceId := by
  have hone := fun svc => mem_broadcastOneExtService cfg reg pubs hsession hclass svc remove n i
  unfold broadcastExternalService
  by_cases hne : svcName ≠ []
  · have hlook : ∀ svc : CFdbSvcAddress, (svc.mSvcName = svcName ∧ svc.shallBroadcast pattern = true)
        ↔ Covers svcName pattern svc.mSvcName svc.mInstanceId := by
      intro svc
      unfold Covers
      rw [shallBroadcast_iff, or_iff_right hne, eq_comm]
    rw [if_pos hne]
    simp only [mem_flatMap, hlook, forall_prop_of_true hne]
    constructor
    · rintro ⟨m, ⟨svc, hsvc, hm⟩, hkey⟩
      by_cases hcovers : Covers svcName pattern svc.mSvcName svc.mInstanceId
      · rw [if_pos hcovers] at hm
        exact ⟨svc, hsvc, hcovers, (hone svc).mp ⟨m, hm, hkey⟩⟩
      · rw [if_neg hcovers] at hm
        cases hm
    · rintro ⟨svc, hsvc, hcovers, hrest⟩
      obtain ⟨m, hm, hkey⟩ := (hone svc).mpr hrest
      exact ⟨m, ⟨svc, hsvc, by rwa [if_pos hcovers]⟩, hkey⟩
  · -- every name: all services of the list are looked at
    rw [if_neg hne]
    simp only [mem_flatMap, forall_prop_of_false hne, true_and]
    constructor
    · rintro ⟨m, ⟨svc, hsvc, hm⟩, hkey⟩
      exact ⟨svc, hsvc, (hone svc).mp ⟨m, hm, hkey⟩⟩
    · rintro ⟨svc, hsvc, hrest⟩
      obtain ⟨m, hm, hkey⟩ := (hone svc).mpr hrest
      exact ⟨m, ⟨svc, hsvc, hm⟩, hkey⟩

end Answer

/-- **External services are matched like local ones**, exactly if the subscriber did not ask for
every name, or if it holds no other subscription for an external service outside of the
instances that it asked for.  The subscriber is the session that a connected proxy answers; it
holds the subscription by then. -/
theorem broadcastExternalService_iff (cfg : NsConfig) (reg : RegistryTbl) (pubs : Publishers)
    (sessions : Sessions) (svcAddrTbl : List CFdbSvcAddress) (remove : Bool)
    {type : SubscribeType} {session : SessionPtr} {obj : FdbObjectId} {info : SessionInfo}
    (hsession : sessions[session]? = some info) (hclass : fdbObjectGetClass obj = type.cls)
    {svcName : Text} {pattern : FdbInstanceId}
    (hsub : ((pubs type).lookup pattern session obj svcName).isSome = true) :
    (∀ n i, (∃ m ∈ broadcastExternalService cfg reg pubs sessions true svcAddrTbl remove type
            pattern svcName (some (session, obj)),
          m.list.serviceName = n ∧ m.list.instanceId = i)
        ↔ ∃ entry, ⟨n, i, entry⟩ ∈ (asRegistry (svcAddrTbl.filter fun svc =>
            !reg.isLocalService svc)).findService svcName pattern)
      ↔ svcName ≠ [] ∨ ∀ svc ∈ svcAddrTbl, reg.isLocalService svc = false →
        (∃ o, fdbObjectGetClass o = type.cls
          ∧ Subscribed pubs type session o svc.mSvcName svc.mInstanceId) →
        instanceMatches pattern svc.mInstanceId = true := by
  simp only [mem_broadcastExternalService cfg reg pubs hsession hclass, mem_findService_asRegistry,
    mem_filter, Bool.not_eq_true']
  constructor
  · intro h
    by_cases hne : svcName ≠ []
    · exact .inl hne
    · refine .inr fun svc hsvc hlocal ho => ?_
      obtain ⟨svc', -, ⟨-, hinst⟩, hcovers⟩ := (h svc.mSvcName svc.mInstanceId).mp
        ⟨svc, hsvc, fun hne' => absurd hne' hne, hlocal, ⟨rfl, rfl⟩, ho⟩
      rw [← hinst]
      exact hcovers.2
  · intro hcond n i
    constructor
    · rintro ⟨svc, hsvc, hlook, hlocal, hkey, ho⟩
      refine ⟨svc, ⟨hsvc, hlocal⟩, hkey, ?_⟩
      by_cases hne : svcName ≠ []
      · exact hlook hne
      · exact ⟨.inl (not_not.mp hne), (hcond.resolve_left hne) svc hsvc hlocal ho⟩
    · rintro ⟨svc, ⟨hsvc, hlocal⟩, hkey, hcovers⟩
      -- the subscription that is answered covers the service
      exact ⟨svc, hsvc, fun _ => hcovers, hlocal, hkey, obj, hclass, pattern, svcName, hsub, hcovers⟩

/-- Service "a" with instance 5, exported by another domain. -/
def externalService : CFdbSvcAddress := { mSvcName := [97], mInstanceId := 5#32 }

/-- A client that subscribed service "a" with instance 5, and then instance 3 of every name. -/
def twoSubscriptions : Publishers := fun _ =>
  (CFdbBaseObject.empty.subscribe 1 5#32 SubscribeType.intraNormal.objId (some [97]) 0#32).subscribe
    1 3#32 SubscribeType.intraNormal.objId none 0#32

/-- The session of the client. -/
def oneSession : Sessions := (∅ : Sessions).insert 1 ipcSession

/-- The first subscription is answered with the service. -/
theorem broadcastExternalService_named :
    ∃ m ∈ broadcastExternalService plainConfig ∅ twoSubscriptions oneSession true [externalService]
        false .intraNormal 5#32 [97] (some (1, SubscribeType.intraNormal.objId)),
      m.list.serviceName = [97] ∧ m.list.instanceId = 5#32 := by
  refine ((broadcastExternalService_iff plainConfig ∅ twoSubscriptions oneSession [externalService]
    false (show oneSession[1]? = some ipcSession by decide +kernel) (by decide)
    (by decide +kernel)).mpr (.inl (by decide)) [97] 5#32).mpr ?_
  exact ⟨externalService.asEntry, by decide +kernel⟩

/-- The second one is answered with the service again, though its instance is another: the
registry would find nothing. -/
theorem instance_ignored_for_every_name :
    ((broadcastExternalService plainConfig ∅ twoSubscriptions oneSession true [externalService]
        false .intraNormal 3#32 [] (some (1, SubscribeType.intraNormal.objId))).map
          fun m => (m.session, m.obj, m.list.serviceName, m.list.instanceId))
        = [(1, SubscribeType.intraNormal.objId, [97], 5#32)]
      ∧ RegistryTbl.isLocalService ∅ externalService = false
      ∧ (asRegistry [externalService]).findService [] 3#32 = [] := by
  refine ⟨?_, ?_, ?_⟩
  · decide +kernel
  · decide +kernel
  · decide +kernel

end Fdbus.Server

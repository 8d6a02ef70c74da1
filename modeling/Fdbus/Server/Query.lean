/-
  Fdbus.Server.Query — queries that are answered with what other servers say.

  A query for services is forwarded to every name server that there is a proxy for, a query for
  exportable services to every host server.  The tables that come back are collected, and the
  client is answered when `mPendingReqTbl`, the list of those that were asked, has become empty.

    * `populateServerTable` — the services of the name server itself,
    * `Query`, `finalize`, `Query.step` — collecting the tables, for both queries,
    * `onQueryServiceReq`, `onQueryExportableServiceReq` — the two queries,
    * `AnsweredOnce` — one answer, not before the last forwarded request has ended, and with all
      tables,
    * `aggregated_query_iff` — that is so exactly if nothing could be forwarded, or each host lost
      as many requests while they were sent as it had proxies that could not be asked, at least,
      and exactly as many if its request is the last to end.

  Every proxy is pending, also one that is not connected and is asked nothing; a request that
  fails while it is sent is finalized twice, by `onReply` and by `onAsyncError`.
-/
import Fdbus.Endpoint.Completion
import Fdbus.Host.HostServer
import Fdbus.Server.Listeners

namespace Fdbus.Server

open Fdbus.Endpoint Fdbus.Host Fdbus.OrderedMap Fdbus.Run Fdbus.Session Fdbus.Subscribe List Option

/-! ## §1. The tables. -/

/-- `FdbMsgServiceInfo`. -/
structure FdbMsgServiceInfo where
  serviceAddr : FdbMsgAddressList
  hostAddr : FdbMsgHostAddress
  deriving DecidableEq

/-- `FdbMsgServiceTable`. -/
structure FdbMsgServiceTable where
  serviceTbl : List FdbMsgServiceInfo := []
  exportedServiceTbl : ExportableSvcAddress := []
  deriving DecidableEq

/-- `FdbMsgAllExportableService`. -/
structure FdbMsgAllExportableService where
  upstreamTable : ExportableSvcAddress := []
  localTable : ExportableSvcAddress := []
  downstreamTable : ExportableSvcAddress := []
  deriving DecidableEq

/-- What `finalizeServiceQuery` adds: the services, but not the exported ones. -/
def FdbMsgServiceTable.collect (dst src : FdbMsgServiceTable) : FdbMsgServiceTable :=
  { dst with serviceTbl := dst.serviceTbl ++ src.serviceTbl }

/-- What `finalizeExportableServiceQuery` adds. -/
def FdbMsgAllExportableService.collect (dst src : FdbMsgAllExportableService) :
    FdbMsgAllExportableService where
  upstreamTable := dst.upstreamTable ++ src.upstreamTable
  localTable := dst.localTable ++ src.localTable
  downstreamTable := dst.downstreamTable ++ src.downstreamTable

section Local

variable (cfg : NsConfig) (ns : NameServer)

/-- `populateNsAddrList(host_address)`: what it adds. -/
def populateNsAddrList : List FdbMsgAddressItem :=
  match (ns.mRegistryTbl.findService cfg.nsName 0#32).head? with
  | none => []
  | some m => m.entry.mAddrTbl.flatMap fun desc =>
    if desc.mAddress.mType ≠ .ipc ∧ desc.mStatus = .bound ∧ desc.mAddress.mAddr ≠ fdbLocalHost
    then prepareAddress cfg.mMaxDomainExportableLevel desc else []

/-- `setHostInfo(session, msg_svc_info, svc_name)` for a session with this `hostIp`. -/
def setHostInfo (hostIp : Option Text) : FdbMsgHostAddress where
  ipAddress := hostIp.getD fdbIpAllInterface
  hostName := cfg.mHostName
  addressList := populateNsAddrList cfg ns

/-- The process of a service: that of its session, or the name server's own. -/
def servicePid (sessionPid : SessionPtr → Int) (entry : CSvcRegistryEntry) : Int :=
  if 0 ≤ entry.mSid ∧ ns.sessions[entry.mSid.toNat]?.isSome then sessionPid entry.mSid.toNat
  else if entry.mSvcName = cfg.nsName then cfg.pid
  else 0

/-- `populateServerTable(session, svc_tbl, is_local)`. -/
def populateServerTable (hostIp : Option Text) (sessionPid : SessionPtr → Int) (isLocal : Bool) :
    FdbMsgServiceTable where
  serviceTbl :=
    if ns.mRegistryTbl.isEmpty then
      [⟨setServiceInfo cfg {} isLocal 0 {}, setHostInfo cfg ns hostIp⟩]
    else
      ns.mRegistryTbl.all.map fun m =>
        ⟨setServiceInfo cfg m.entry isLocal (servicePid cfg ns sessionPid m.entry)
            { addressList := populateAddrList m.entry.mAddrTbl .max fdbExportableAny },
          setHostInfo cfg ns hostIp⟩
  exportedServiceTbl := ns.mHostProxyTbl.foldl (fun tbl _ proxy =>
    Host.populateFromHostInfo fdbExportableAny proxy.mSvcAddrTbl tbl) []

end Local

/-! ## §2. Collecting the tables. -/

/-- A proxy as the loops of a query see it: the name it has in its table, whether it is
connected, and whether `invoke` accepts a message for it. -/
structure Asked where
  mHostIp : Text
  connected : Bool
  invoked : Bool := true

/-- `queryServiceTbl(msg)`, `sendQueryExportableServiceReq(msg)`. -/
def Asked.sent (p : Asked) : Bool := p.connected && p.invoked

/-- `CQueryServiceMsg`, `CQueryExportedServiceMsg`: a forwarded request, for which of the proxies,
and the name that is pending. -/
structure CQueryMsg where
  proxy : Nat
  mHostIp : Text
  deriving DecidableEq

/-- The loop that sends the requests. -/
def sendQuery : Nat → List Asked → List CQueryMsg
  | _, [] => []
  | i, p :: ps => if p.sent then ⟨i, p.mHostIp⟩ :: sendQuery (i + 1) ps else sendQuery (i + 1) ps

/-- What the forwarded requests of a query share, and `replies`, the answers to the client.  After
the answer `mPendingReqTbl` and `mSvcTbl` are deleted. -/
structure Gathering (T : Type) where
  mPendingReqTbl : List Text
  mSvcTbl : T
  replies : List T := []
  deleted : Bool := false
  usedAfterDelete : Bool := false

/-- A query.  `waiting` are the forwarded requests that have not ended. -/
structure Query (T : Type) extends Gathering T where
  waiting : List CQueryMsg

/-- A response that is marked as one to a synchronous request. -/
def isSyncReply : Ending → Bool
  | .response _ _ syncReply => syncReply
  | _ => false

/-- How a forwarded request ended, and what the payload of an answer is decoded to.  The request is
asynchronous, and the name server that answers keeps its flags. -/
structure QueryEnd (T : Type) where
  msg : CQueryMsg
  ending : Ending
  answer : Option T := none
  asynchronous : isSyncReply ending = false

section Collecting

variable {T : Type}

/-- The first part of a query, for a table with the server's own services: every proxy is
pending; if no request could be sent, the table is the answer. -/
def Query.ask (svcTbl : T) (proxies : List Asked) : Query T :=
  let waiting := sendQuery 0 proxies
  if waiting = [] then
    { mPendingReqTbl := proxies.map (·.mHostIp), mSvcTbl := svcTbl, waiting := waiting,
      replies := [svcTbl], deleted := true }
  else { mPendingReqTbl := proxies.map (·.mHostIp), mSvcTbl := svcTbl, waiting := waiting }

/-- `finalizeServiceQuery(svc_tbl, msg)`, `finalizeExportableServiceQuery(svc_tbl, msg)`. -/
def Gathering.finalize (collect : T → T → T) (g : Gathering T) (hostIp : Text)
    (result : Option T) : Gathering T :=
  if g.deleted then { g with usedAfterDelete := true }
  else
    let svcTbl := result.elim g.mSvcTbl (collect g.mSvcTbl)
    let pending := g.mPendingReqTbl.erase hostIp
    if pending = [] then
      { g with
        mPendingReqTbl := pending
        mSvcTbl := svcTbl
        replies := g.replies ++ [svcTbl]
        deleted := true }
    else { g with mPendingReqTbl := pending, mSvcTbl := svcTbl }

/-- A forwarded request: for the main object, with a timer. -/
def queryRequest : AsyncRequest where
  type := .mtRequest
  objectId := fdbObjectMain
  hasTimer := true

/-- There was an answer, and it is not a status; one with another object id becomes a status. -/
def isAnswer : Ending → Bool
  | .response objectId isStatus _ => objectId = fdbObjectMain && !isStatus
  | _ => false

/-- The request failed while it was sent. -/
def isSendFailure : Ending → Bool
  | .sendFailure => true
  | _ => false

/-- The table that `onReply` decodes. -/
def QueryEnd.result (e : QueryEnd T) : Option T := if isAnswer e.ending then e.answer else none

/-- What the query is finalized with when a request ends: `onReply` of the proxy does it, and
`onAsyncError` of the message. -/
def QueryEnd.calls (ep : Objects) (e : QueryEnd T) : List (Option T) :=
  (ep.callbacks queryRequest e.ending).flatMap fun d =>
    match d.1 with
    | .doReply => [e.result]
    | .onAsyncError => [none]
    | _ => []

/-- A forwarded request ends. -/
def Query.step (collect : T → T → T) (ep : Objects) (q : Query T) (e : QueryEnd T) :
    Option (Query T) :=
  if e.msg ∈ q.waiting then
    some
      { toGathering := (e.calls ep).foldl
          (fun g result => g.finalize collect e.msg.mHostIp result) q.toGathering
        waiting := q.waiting.erase e.msg }
  else none

end Collecting

/-- The proxies in the table of one container. -/
def NameProxyTbl.asked (invoked : Text → Bool) (tbl : NameProxyTbl) : List Asked :=
  tbl.toList.map fun p => ⟨p.1, p.2.connected, invoked p.1⟩

/-- The name servers that are asked: the proxies in the containers of the host proxies and in
`mStaticNameProxy`. -/
def askedNameServers (ns : NameServer) (containers : Option Text → NameProxyTbl)
    (invoked : Option Text → Text → Bool) : List Asked :=
  (ns.mHostProxyTbl.toList.flatMap fun p => (containers (some p.1)).asked (invoked (some p.1)))
    ++ (containers none).asked (invoked none)

/-- The host servers that are asked. -/
def askedHostServers (ns : NameServer) (invoked : Text → Bool) : List Asked :=
  ns.mHostProxyTbl.toList.map fun p => ⟨p.1, p.2.connected, invoked p.1⟩

/-- `onQueryServiceReq`, for a client whose session has this `hostIp`. -/
def onQueryServiceReq (cfg : NsConfig) (ns : NameServer) (containers : Option Text → NameProxyTbl)
    (invoked : Option Text → Text → Bool) (hostIp : Option Text) (sessionPid : SessionPtr → Int) :
    Query FdbMsgServiceTable :=
  Query.ask (populateServerTable cfg ns hostIp sessionPid true)
    (askedNameServers ns containers invoked)

/-- `onQueryExportableServiceReq`. -/
def onQueryExportableServiceReq (ns : NameServer) (invoked : Text → Bool) :
    Query FdbMsgAllExportableService :=
  Query.ask {} (askedHostServers ns invoked)

/-! ## §3. What a run of calls does. -/

section Calls

variable {T : Type} {collect : T → T → T} {ep : Objects}

/-- One call of `finalize` after the other. -/
def Gathering.finalizeAll (collect : T → T → T) (g : Gathering T) (cs : List (Text × Option T)) :
    Gathering T :=
  cs.foldl (fun g c => g.finalize collect c.1 c.2) g

/-- The table after the calls. -/
def collected (collect : T → T → T) (tbl : T) (cs : List (Text × Option T)) : T :=
  cs.foldl (fun tbl c => c.2.elim tbl (collect tbl)) tbl

/-- All calls of a run, in order. -/
def allCalls (ep : Objects) (es : List (QueryEnd T)) : List (Text × Option T) :=
  es.flatMap fun e => (e.calls ep).map fun result => (e.msg.mHostIp, result)

theorem allCalls_cons (e : QueryEnd T) (es : List (QueryEnd T)) :
    allCalls ep (e :: es)
      = ((e.calls ep).map fun result => (e.msg.mHostIp, result)) ++ allCalls ep es :=
  rfl

variable {g : Gathering T} (cs : List (Text × Option T))

theorem finalizeAll_append (cs' : List (Text × Option T)) (g : Gathering T) :
    g.finalizeAll collect (cs ++ cs') = (g.finalizeAll collect cs).finalizeAll collect cs' :=
  foldl_append ..

/-- **A step** takes a request off what waits and makes its calls. -/
theorem step_eq {q q' : Query T} {e : QueryEnd T} (h : q.step collect ep e = some q') :
    e.msg ∈ q.waiting ∧ q'.waiting = q.waiting.erase e.msg
      ∧ q'.toGathering = q.toGathering.finalizeAll collect (allCalls ep [e]) := by
  obtain ⟨hmem, rfl⟩ := of_guard h
  refine ⟨hmem, rfl, ?_⟩
  unfold Gathering.finalizeAll allCalls
  rw [flatMap_singleton, foldl_map]

/-- **A run** makes the calls of all its requests, and they are what no longer waits. -/
theorem run_eq (es : List (QueryEnd T)) :
    ∀ {q q' : Query T}, run (Query.step collect ep) q es = some q' →
      q.waiting.Perm (es.map (·.msg) ++ q'.waiting)
        ∧ q'.toGathering = q.toGathering.finalizeAll collect (allCalls ep es) := by
  induction es with
  | nil =>
    intro q q' hrun
    cases hrun
    exact ⟨.rfl, rfl⟩
  | cons e es ih =>
    intro q q' hrun
    obtain ⟨q₁, hstep, hrest⟩ := run_cons_some hrun
    obtain ⟨hmem, hwaiting, hcalls⟩ := step_eq hstep
    obtain ⟨hperm, hrest⟩ := ih hrest
    rw [hwaiting] at hperm
    constructor
    · exact (perm_cons_erase hmem).trans (hperm.cons e.msg)
    · rw [hrest, hcalls, ← finalizeAll_append, allCalls_cons, allCalls_cons, append_assoc]
      rfl

/-- A call that leaves something pending only collects. -/
theorem finalize_of_ne (hopen : g.deleted = false) {hostIp : Text}
    {result : Option T} (h : g.mPendingReqTbl.erase hostIp ≠ []) :
    g.finalize collect hostIp result = { g with
      mPendingReqTbl := g.mPendingReqTbl.erase hostIp
      mSvcTbl := result.elim g.mSvcTbl (collect g.mSvcTbl) } := by
  unfold Gathering.finalize
  rw [if_neg (by rw [hopen]; exact Bool.false_ne_true)]
  rw [if_neg h]

/-- The call that takes out the last name answers. -/
theorem finalize_of_eq (hopen : g.deleted = false) {hostIp : Text}
    {result : Option T} (h : g.mPendingReqTbl.erase hostIp = []) :
    g.finalize collect hostIp result = { g with
      mPendingReqTbl := []
      mSvcTbl := result.elim g.mSvcTbl (collect g.mSvcTbl)
      replies := g.replies ++ [result.elim g.mSvcTbl (collect g.mSvcTbl)]
      deleted := true } := by
  unfold Gathering.finalize
  rw [if_neg (by rw [hopen]; exact Bool.false_ne_true)]
  rw [if_pos h, h]

/-- Calls that leave something pending only collect. -/
theorem finalizeAll_of_ne :
    ∀ g : Gathering T, g.deleted = false → g.mPendingReqTbl.diff (cs.map (·.1)) ≠ [] →
      g.finalizeAll collect cs = { g with
        mPendingReqTbl := g.mPendingReqTbl.diff (cs.map (·.1))
        mSvcTbl := collected collect g.mSvcTbl cs } := by
  induction cs with
  | nil =>
    intro g _ _
    rfl
  | cons c cs ih =>
    intro g hopen hne
    rw [map_cons, diff_cons] at hne ⊢
    have herase : g.mPendingReqTbl.erase c.1 ≠ [] := by
      intro h
      rw [h, nil_diff] at hne
      exact hne rfl
    show (g.finalize collect c.1 c.2).finalizeAll collect cs = _
    rw [finalize_of_ne hopen herase]
    exact ih { g with
      mPendingReqTbl := g.mPendingReqTbl.erase c.1
      mSvcTbl := c.2.elim g.mSvcTbl (collect g.mSvcTbl) } hopen hne

/-- A call after the answer uses what was deleted. -/
theorem finalizeAll_deleted :
    ∀ g : Gathering T, g.deleted = true → cs ≠ [] →
      (g.finalizeAll collect cs).usedAfterDelete = true := by
  induction cs with
  | nil =>
    intro g _ hne
    exact absurd rfl hne
  | cons c cs ih =>
    intro g hdel _
    show ((g.finalize collect c.1 c.2).finalizeAll collect cs).usedAfterDelete = true
    have hcall : g.finalize collect c.1 c.2 = { g with usedAfterDelete := true } := by
      unfold Gathering.finalize
      rw [if_pos hdel]
    rw [hcall]
    cases cs with
    | nil => rfl
    | cons c' cs => exact ih _ hdel (cons_ne_nil _ _)

/-- If nothing is pending before the last call, that call comes too late. -/
theorem usedAfterDelete_of_nil (c : Text × Option T) :
    ∀ g : Gathering T, g.deleted = false → g.mPendingReqTbl ≠ [] →
      g.mPendingReqTbl.diff (cs.map (·.1)) = [] →
      (g.finalizeAll collect (cs ++ [c])).usedAfterDelete = true := by
  induction cs with
  | nil =>
    intro g _ hne hnil
    exact absurd hnil hne
  | cons d cs ih =>
    intro g hopen hne hnil
    rw [map_cons, diff_cons] at hnil
    show ((g.finalize collect d.1 d.2).finalizeAll collect (cs ++ [c])).usedAfterDelete = true
    by_cases herase : g.mPendingReqTbl.erase d.1 = []
    · rw [finalize_of_eq hopen herase]
      exact finalizeAll_deleted _ _ rfl (by simp)
    · rw [finalize_of_ne hopen herase]
      exact ih { g with
        mPendingReqTbl := g.mPendingReqTbl.erase d.1
        mSvcTbl := d.2.elim g.mSvcTbl (collect g.mSvcTbl) } hopen herase hnil

/-- If only the last call takes out the last name, there is one answer. -/
theorem finalizeAll_answer (collect : T → T → T) {cs : List (Text × Option T)}
    {c : Text × Option T} {g : Gathering T} (hopen : g.deleted = false)
    (hne : g.mPendingReqTbl.diff (cs.map (·.1)) ≠ [])
    (hnil : g.mPendingReqTbl.diff ((cs ++ [c]).map (·.1)) = []) :
    (g.finalizeAll collect (cs ++ [c])).replies
        = g.replies ++ [collected collect g.mSvcTbl (cs ++ [c])]
      ∧ (g.finalizeAll collect (cs ++ [c])).usedAfterDelete = g.usedAfterDelete := by
  have herase : (g.mPendingReqTbl.diff (cs.map (·.1))).erase c.1 = [] := by
    rw [map_append, diff_append, map_singleton, diff_cons,
      diff_nil] at hnil
    exact hnil
  have hlast : collected collect g.mSvcTbl (cs ++ [c])
      = c.2.elim (collected collect g.mSvcTbl cs) (collect (collected collect g.mSvcTbl cs)) :=
    foldl_append ..
  let g' : Gathering T := { g with
    mPendingReqTbl := g.mPendingReqTbl.diff (cs.map (·.1))
    mSvcTbl := collected collect g.mSvcTbl cs }
  have hcall : g.finalizeAll collect (cs ++ [c]) = g'.finalize collect c.1 c.2 := by
    rw [finalizeAll_append, finalizeAll_of_ne cs g hopen hne]
    rfl
  have hopen' : g'.deleted = false := hopen
  rw [hcall, finalize_of_eq hopen' herase, hlast]
  exact ⟨rfl, rfl⟩

end Calls

/-! ## §4. How often each host is finalized. -/

section Counting

variable {T : Type} {ep : Objects}

/-- A request is finalized once, or twice if it failed while it was sent. -/
theorem calls_eq (e : QueryEnd T) :
    e.calls ep = e.result :: if isSendFailure e.ending then [none] else [] := by
  obtain ⟨msg, ending, answer, hasync⟩ := e
  cases ending with
  | response objectId isStatus syncReply =>
    have hself : (ep.getObject fdbObjectMain).isSome = true := by
      unfold Objects.getObject
      rfl
    have hreply : ∀ head : Response, head.objectFound = true → head.syncReply = false →
        responseCallback queryRequest head = some .doReply := by
      intro head hfound hsync
      unfold responseCallback
      rw [hfound, hsync]
      split
      · rfl
      · rfl
    unfold QueryEnd.calls Objects.callbacks
    dsimp only
    rw [hreply _ hself hasync]
    rfl
  | noSession => rfl
  | sendFailure => rfl
  | timeout => rfl
  | lifeTime => rfl
  | sessionDestroyed => rfl

/-- The tables that came back, in order. -/
def received (es : List (QueryEnd T)) : List T := es.filterMap QueryEnd.result

theorem collected_allCalls (collect : T → T → T) (ep : Objects) (es : List (QueryEnd T)) :
    ∀ tbl : T, collected collect tbl (allCalls ep es) = (received es).foldl collect tbl := by
  induction es with
  | nil =>
    intro tbl
    rfl
  | cons e es ih =>
    intro tbl
    have hone : collected collect tbl ((e.calls ep).map fun result => (e.msg.mHostIp, result))
        = e.result.elim tbl (collect tbl) := by
      rw [calls_eq]
      split
      · rfl
      · rfl
    unfold collected at ih hone ⊢
    rw [allCalls_cons, foldl_append, hone, ih]
    cases hresult : e.result with
    | none => simp [received, hresult]
    | some t => simp [received, hresult]

/-- How many requests for a host failed while they were sent. -/
def sendFailures (es : List (QueryEnd T)) (hostIp : Text) : Nat :=
  es.countP fun e => e.msg.mHostIp = hostIp && isSendFailure e.ending

/-- How many proxies for a host could not be asked. -/
def refused (proxies : List Asked) (hostIp : Text) : Nat :=
  proxies.countP fun p => p.mHostIp = hostIp && !p.sent

theorem count_allCalls (es : List (QueryEnd T)) (hostIp : Text) :
    ((allCalls ep es).map (·.1)).count hostIp
      = (es.map (·.msg.mHostIp)).count hostIp + sendFailures es hostIp := by
  induction es with
  | nil => rfl
  | cons e es ih =>
    have hone : (((e.calls ep).map fun result => (e.msg.mHostIp, result)).map (·.1)).count hostIp
        = (if e.msg.mHostIp = hostIp then 1 else 0)
          + if e.msg.mHostIp = hostIp ∧ isSendFailure e.ending = true then 1 else 0 := by
      rw [calls_eq]
      cases isSendFailure e.ending
      · simp [count_cons]
      · simp [count_cons]
    rw [allCalls_cons, map_append, count_append, ih, hone]
    unfold sendFailures
    rw [map_cons, count_cons, countP_cons]
    simp only [beq_iff_eq, Bool.and_eq_true, decide_eq_true_eq]
    omega

theorem count_sendQuery (proxies : List Asked) (hostIp : Text) :
    ∀ i, ((sendQuery i proxies).map (·.mHostIp)).count hostIp + refused proxies hostIp
      = (proxies.map (·.mHostIp)).count hostIp := by
  induction proxies with
  | nil =>
    intro i
    rfl
  | cons p proxies ih =>
    intro i
    have hrest := ih (i + 1)
    have hone : ((sendQuery i (p :: proxies)).map (·.mHostIp)).count hostIp
        = ((sendQuery (i + 1) proxies).map (·.mHostIp)).count hostIp
          + if p.mHostIp = hostIp ∧ p.sent = true then 1 else 0 := by
      rw [sendQuery]
      cases p.sent
      · simp
      · simp [count_cons]
    have hrefused : refused (p :: proxies) hostIp
        = refused proxies hostIp + if p.mHostIp = hostIp ∧ p.sent = false then 1 else 0 := by
      unfold refused
      rw [countP_cons]
      simp
    rw [hone, hrefused, map_cons, count_cons, ← hrest]
    cases p.sent
    · simp
      omega
    · simp
      omega

theorem sendQuery_eq_nil (proxies : List Asked) :
    ∀ i, sendQuery i proxies = [] ↔ ∀ p ∈ proxies, p.sent = false := by
  induction proxies with
  | nil =>
    simp [sendQuery]
  | cons p proxies ih =>
    intro i
    rw [sendQuery, forall_mem_cons]
    cases p.sent
    · simpa using ih (i + 1)
    · simp

/-- The last call is for the request that ends last. -/
theorem allCalls_concat (ep : Objects) (es : List (QueryEnd T)) (e : QueryEnd T) :
    ∃ cs c, allCalls ep (es ++ [e]) = cs ++ [c] ∧ c.1 = e.msg.mHostIp := by
  have hsplit : allCalls ep (es ++ [e]) = allCalls ep es ++ allCalls ep [e] := flatMap_append
  rw [hsplit, allCalls_cons, calls_eq]
  cases isSendFailure e.ending
  · exact ⟨allCalls ep es, (e.msg.mHostIp, e.result), rfl, rfl⟩
  · refine ⟨allCalls ep es ++ [(e.msg.mHostIp, e.result)], (e.msg.mHostIp, none), ?_, rfl⟩
    rw [append_assoc]
    rfl

/-- Names are taken out until none is left exactly if each is taken out often enough. -/
theorem diff_eq_nil_iff {l l' : List Text} : l.diff l' = [] ↔ ∀ a, l.count a ≤ l'.count a := by
  rw [eq_nil_iff_forall_not_mem]
  constructor
  · intro h a
    have hzero := count_eq_zero.mpr (h a)
    rw [count_diff] at hzero
    omega
  · intro h a
    rw [← count_eq_zero, count_diff]
    have hle := h a
    omega

/-- The last name goes with the last element, exactly if each is taken out often enough, and that
one just often enough. -/
theorem last_taken_iff {l l' : List Text} {a : Text} :
    (l.diff l' ≠ [] ∧ l.diff (l' ++ [a]) = [])
      ↔ (∀ b, l.count b ≤ (l' ++ [a]).count b) ∧ (l' ++ [a]).count a = l.count a := by
  have hcount : ∀ b, (l' ++ [a]).count b = l'.count b + if a = b then 1 else 0 := by
    intro b
    rw [count_append, count_singleton]
    simp
  rw [diff_eq_nil_iff, and_comm, Ne, diff_eq_nil_iff]
  refine and_congr_right fun hle => ?_
  rw [not_forall]
  constructor
  · intro h
    obtain ⟨b, hb⟩ := h
    have hb' := hle b
    rw [hcount] at hb'
    by_cases hab : a = b
    · subst hab
      rw [hcount, if_pos rfl] at *
      omega
    · rw [if_neg hab] at hb'
      omega
  · intro h
    refine ⟨a, ?_⟩
    rw [hcount, if_pos rfl] at h
    omega

end Counting

/-! ## §5. One answer, and a complete one. -/

section Answer

variable {T : Type} {collect : T → T → T} {ep : Objects}

/-- From the query `q₀` on, when these requests have ended: the client was not answered while a
request had not ended, it was answered once, with this answer, and nothing was used after it was
deleted. -/
structure AnsweredOnce (collect : T → T → T) (ep : Objects) (q₀ : Query T)
    (es : List (QueryEnd T)) (q : Query T) (answer : T) : Prop where
  notBefore : Throughout (Query.step collect ep) (fun q => q.waiting ≠ [] → q.replies = []) q₀ es
  once : q.replies = [answer]
  intact : q.usedAfterDelete = false

/-- No proxy could be asked; or every host lost at least as many requests while they were sent as
it had proxies that could not be asked, and the host whose request ends last exactly as many. -/
def Answerable (proxies : List Asked) (es : List (QueryEnd T)) : Prop :=
  (∀ p ∈ proxies, p.sent = false)
    ∨ (∀ hostIp, refused proxies hostIp ≤ sendFailures es hostIp)
      ∧ ∀ e ∈ es.getLast?, sendFailures es e.msg.mHostIp = refused proxies e.msg.mHostIp

/-- As long as calls are to come that leave something pending, there is no answer. -/
theorem notBefore_of_ne (es : List (QueryEnd T)) :
    ∀ q q' : Query T, q.deleted = false → q.replies = [] →
      (∀ cs c, allCalls ep es = cs ++ [c] → q.mPendingReqTbl.diff (cs.map (·.1)) ≠ []) →
      run (Query.step collect ep) q es = some q' → q'.waiting = [] →
      Throughout (Query.step collect ep) (fun q => q.waiting ≠ [] → q.replies = []) q es := by
  induction es with
  | nil =>
    intro q q' _ hreplies _ _ _
    exact fun _ => hreplies
  | cons e es ih =>
    intro q q' hopen hreplies hpending hrun hnone
    refine ⟨fun _ => hreplies, ?_⟩
    intro q₁ hstep
    have hrest : run (Query.step collect ep) q₁ es = some q' := by
      simpa [run, hstep] using hrun
    obtain ⟨-, -, hcalls⟩ := step_eq hstep
    rcases eq_nil_or_concat es with rfl | ⟨es', e', rfl⟩
    · -- the last request: nothing waits any more
      cases hrest
      exact fun h => absurd hnone h
    · rw [concat_eq_append] at *
      obtain ⟨cs, c, hcs, -⟩ := allCalls_concat ep es' e'
      have hhead : ∀ cs c, allCalls ep (es' ++ [e']) = cs ++ [c] →
          (q.mPendingReqTbl.diff ((allCalls ep [e]).map (·.1))).diff (cs.map (·.1)) ≠ [] := by
        intro cs c hcs
        have hne := hpending (allCalls ep [e] ++ cs) c (by
          rw [allCalls_cons, hcs, ← append_assoc]
          simp [allCalls])
        rwa [map_append, diff_append] at hne
      have hne : q.mPendingReqTbl.diff ((allCalls ep [e]).map (·.1)) ≠ [] := by
        intro h
        have := hhead cs c hcs
        rw [h, nil_diff] at this
        exact this rfl
      rw [finalizeAll_of_ne _ _ hopen hne] at hcalls
      refine ih q₁ q' ?_ ?_ ?_ hrest hnone
      · rw [hcalls]
        exact hopen
      · rw [hcalls]
        exact hreplies
      · intro cs c hcs
        rw [hcalls]
        exact hhead cs c hcs

variable (svcTbl : T) {proxies : List Asked}

variable {es : List (QueryEnd T)}

/-- If all that was sent has ended, the names that are pending and those that were taken out differ
by the proxies that could not be asked and the requests that were finalized twice. -/
theorem count_pending (ep : Objects) {proxies : List Asked}
    (hperm : (sendQuery 0 proxies).Perm (es.map (·.msg))) (hostIp : Text) :
    (proxies.map (·.mHostIp)).count hostIp + sendFailures es hostIp
      = ((allCalls ep es).map (·.1)).count hostIp + refused proxies hostIp := by
  have hwaiting : ((sendQuery 0 proxies).map (·.mHostIp)).count hostIp
      = (es.map (·.msg.mHostIp)).count hostIp := by
    have hcount := (hperm.map (·.mHostIp)).count_eq hostIp
    rwa [List.map_map] at hcount
  rw [← count_sendQuery proxies hostIp 0, count_allCalls, hwaiting]
  omega

/-- What is asked of the hosts is that the last call takes out the last name. -/
theorem answerable_iff {e : QueryEnd T}
    (hperm : (sendQuery 0 proxies).Perm ((es ++ [e]).map (·.msg))) {cs : List (Text × Option T)}
    {c : Text × Option T} (hcs : allCalls ep (es ++ [e]) = cs ++ [c]) (hc : c.1 = e.msg.mHostIp) :
    Answerable proxies (es ++ [e])
      ↔ (proxies.map (·.mHostIp)).diff (cs.map (·.1)) ≠ []
        ∧ (proxies.map (·.mHostIp)).diff ((cs ++ [c]).map (·.1)) = [] := by
  have hsent : ¬ ∀ p ∈ proxies, p.sent = false := by
    intro h
    rw [(sendQuery_eq_nil proxies 0).mpr h] at hperm
    simpa using nil_perm.mp hperm
  rw [map_append, map_singleton, last_taken_iff, ← map_singleton,
    ← map_append, ← hcs, hc]
  unfold Answerable
  rw [or_iff_right hsent, getLast?_concat]
  simp only [mem_some_iff, forall_eq']
  refine and_congr (forall_congr' fun hostIp => ?_) ?_
  · have hcount := count_pending ep hperm hostIp
    omega
  · have hcount := count_pending ep hperm e.msg.mHostIp
    omega

/-- One answer at the end, and nothing used after it, exactly if the last call takes out the last
name. -/
theorem answered_iff (collect : T → T → T) {g : Gathering T} (hopen : g.deleted = false)
    (hintact : g.usedAfterDelete = false) (hnone : g.replies = [])
    (hpending : g.mPendingReqTbl ≠ []) (cs : List (Text × Option T)) (c : Text × Option T) :
    ((g.finalizeAll collect (cs ++ [c])).replies = [collected collect g.mSvcTbl (cs ++ [c])]
        ∧ (g.finalizeAll collect (cs ++ [c])).usedAfterDelete = false)
      ↔ g.mPendingReqTbl.diff (cs.map (·.1)) ≠ []
        ∧ g.mPendingReqTbl.diff ((cs ++ [c]).map (·.1)) = [] := by
  constructor
  · intro h
    have hne : g.mPendingReqTbl.diff (cs.map (·.1)) ≠ [] := by
      intro hnil
      have hlate := h.2
      rw [usedAfterDelete_of_nil cs c g hopen hpending hnil] at hlate
      cases hlate
    refine ⟨hne, ?_⟩
    by_contra hleft
    have honce := h.1
    rw [finalizeAll_of_ne _ _ hopen hleft, hnone] at honce
    cases honce
  · intro h
    obtain ⟨honce, hused⟩ := finalizeAll_answer collect hopen h.1 h.2
    rw [honce, hused, hnone]
    exact ⟨rfl, hintact⟩

/-- **One query**, whatever the tables. -/
theorem answeredOnce_iff (proxies : List Asked) {q : Query T}
    (hrun : run (Query.step collect ep) (Query.ask svcTbl proxies) es = some q)
    (hnone : q.waiting = []) :
    AnsweredOnce collect ep (Query.ask svcTbl proxies) es q ((received es).foldl collect svcTbl)
      ↔ Answerable proxies es := by
  obtain ⟨hperm, hcalls⟩ := run_eq es hrun
  rw [hnone, append_nil] at hperm
  by_cases hsent : sendQuery 0 proxies = []
  · -- answered at once, and no request can end
    unfold Query.ask at hperm hrun ⊢
    rw [if_pos hsent, hsent] at hperm hrun ⊢
    obtain rfl := map_eq_nil_iff.mp (nil_perm.mp hperm)
    cases hrun
    refine iff_of_true ⟨?_, rfl, rfl⟩ (.inl ((sendQuery_eq_nil proxies 0).mp hsent))
    exact fun h => absurd hnone h
  · unfold Query.ask at hperm hcalls hrun ⊢
    rw [if_neg hsent] at hperm hcalls hrun ⊢
    rcases eq_nil_or_concat es with rfl | ⟨es', e, rfl⟩
    · exact absurd (perm_nil.mp hperm) hsent
    · rw [concat_eq_append] at *
      obtain ⟨cs, c, hcs, hc⟩ := allCalls_concat ep es' e
      have hpending : proxies.map (·.mHostIp) ≠ [] := by
        intro hempty
        obtain rfl := map_eq_nil_iff.mp hempty
        exact hsent rfl
      have hanswered := answered_iff collect
        (g := ⟨proxies.map (·.mHostIp), svcTbl, [], false, false⟩) rfl rfl rfl hpending cs c
      rw [answerable_iff hperm hcs hc, ← hanswered, ← hcs, ← hcalls, collected_allCalls]
      constructor
      · intro h
        exact ⟨h.once, h.intact⟩
      · intro h
        refine ⟨?_, h.1, h.2⟩
        refine notBefore_of_ne _ _ q rfl rfl ?_ hrun hnone
        intro cs' c' hcs'
        rw [hcs] at hcs'
        obtain ⟨rfl, -⟩ := append_inj' hcs' rfl
        rw [hcalls, hcs, ← collected_allCalls collect ep, hcs, hanswered] at h
        exact h.1

end Answer

/-- The server's own table, with the services of all others. -/
def allServices (own : FdbMsgServiceTable) (others : List FdbMsgServiceTable) :
    FdbMsgServiceTable :=
  { own with serviceTbl := own.serviceTbl ++ others.flatMap (·.serviceTbl) }

/-- The services of all host servers. -/
def allExportable (others : List FdbMsgAllExportableService) : FdbMsgAllExportableService where
  upstreamTable := others.flatMap (·.upstreamTable)
  localTable := others.flatMap (·.localTable)
  downstreamTable := others.flatMap (·.downstreamTable)

open FdbMsgServiceTable

theorem foldl_collect_services (others : List FdbMsgServiceTable) :
    ∀ own, others.foldl collect own = allServices own others := by
  induction others with
  | nil =>
    simp [allServices]
  | cons t others ih =>
    intro own
    rw [foldl_cons, ih]
    simp [allServices, collect]

theorem foldl_collect_exportable (others : List FdbMsgAllExportableService) :
    others.foldl FdbMsgAllExportableService.collect {} = allExportable others := by
  -- the tables so far come first
  have hfrom : ∀ own, others.foldl FdbMsgAllExportableService.collect own
      = own.collect (allExportable others) := by
    induction others with
    | nil =>
      simp [allExportable, FdbMsgAllExportableService.collect]
    | cons t others ih =>
      intro own
      rw [foldl_cons, ih]
      simp [allExportable, FdbMsgAllExportableService.collect]
  rw [hfrom]
  simp [FdbMsgAllExportableService.collect]

/-- **Queries that are forwarded.**  When all requests that could be forwarded have ended, in
whatever order and way, the client has been answered once, not before, and with everything that
came back, exactly if no proxy could be asked, or each host lost at least as many requests while
they were sent as it had proxies that could not be asked, and the last one exactly as many.  So
for both queries. -/
theorem aggregated_query_iff (cfg : NsConfig) (ns : NameServer)
    (containers : Option Text → NameProxyTbl) (hostIp : Option Text)
    (sessionPid : SessionPtr → Int) (ep : Objects) :
    (∀ (invoked : Option Text → Text → Bool) (es : List (QueryEnd FdbMsgServiceTable))
        (q : Query FdbMsgServiceTable),
        run (Query.step FdbMsgServiceTable.collect ep)
          (onQueryServiceReq cfg ns containers invoked hostIp sessionPid) es = some q →
        q.waiting = [] →
        (AnsweredOnce FdbMsgServiceTable.collect ep
            (onQueryServiceReq cfg ns containers invoked hostIp sessionPid) es q
            (allServices (populateServerTable cfg ns hostIp sessionPid true) (received es))
          ↔ Answerable (askedNameServers ns containers invoked) es))
      ∧ ∀ (invoked : Text → Bool) (es : List (QueryEnd FdbMsgAllExportableService))
        (q : Query FdbMsgAllExportableService),
        run (Query.step FdbMsgAllExportableService.collect ep)
          (onQueryExportableServiceReq ns invoked) es = some q →
        q.waiting = [] →
        (AnsweredOnce FdbMsgAllExportableService.collect ep
            (onQueryExportableServiceReq ns invoked) es q (allExportable (received es))
          ↔ Answerable (askedHostServers ns invoked) es) := by
  constructor
  · intro invoked es q hrun hnone
    rw [← foldl_collect_services]
    exact answeredOnce_iff _ _ hrun hnone
  · intro invoked es q hrun hnone
    rw [← foldl_collect_exportable]
    exact answeredOnce_iff _ _ hrun hnone

/-- A name server with a proxy for host server "h". -/
def oneHostServer : NameServer where
  mHostProxyTbl := (∅ : Map Text HostProxy).insert [104] { connected := true }

/-- The proxies for other name servers, in the container of "h". -/
def nameServersOf (tbl : NameProxyTbl) : Option Text → NameProxyTbl :=
  Function.update (fun _ => ∅) (some [104]) tbl

/-- An endpoint without other objects. -/
def plainObjects : Objects where
  self := 0
  mObjectContainer := fun _ => none
  not_self := by
    intro id p h
    cases h

/-- A query of `oneHostServer` with these proxies. -/
def queryOf (tbl : NameProxyTbl) : Query FdbMsgServiceTable :=
  onQueryServiceReq plainConfig oneHostServer (nameServersOf tbl) (fun _ _ => true) none fun _ => 0

/-- One name server, which is connected. -/
def oneNameServer : NameProxyTbl := (∅ : NameProxyTbl).insert [1] { connected := true }

/-- It answers with its own table. -/
def oneAnswer : List (QueryEnd FdbMsgServiceTable) :=
  [⟨⟨0, [1]⟩, .response fdbObjectMain false false,
    some { serviceTbl := [⟨{}, ⟨[1], [], [], none⟩⟩] }, rfl⟩]

theorem aggregated_query_iff_one :
    ∃ q, run (Query.step FdbMsgServiceTable.collect plainObjects) (queryOf oneNameServer) oneAnswer
        = some q
      ∧ AnsweredOnce FdbMsgServiceTable.collect plainObjects (queryOf oneNameServer) oneAnswer q
        (allServices (populateServerTable plainConfig oneHostServer none (fun _ => 0) true)
          (received oneAnswer)) := by
  have hnone : (run (Query.step collect plainObjects)
      (queryOf oneNameServer) oneAnswer).map (·.waiting) = some [] := by decide +kernel
  obtain ⟨q, hrun, hnone⟩ := map_eq_some_iff.mp hnone
  have hasked : askedNameServers oneHostServer (nameServersOf oneNameServer) (fun _ _ => true)
      = [⟨[1], true, true⟩] := by
    rfl
  refine ⟨q, hrun, ?_⟩
  refine ((aggregated_query_iff plainConfig oneHostServer (nameServersOf oneNameServer) none
    (fun _ => 0) plainObjects).1 (fun _ _ => true) oneAnswer q hrun hnone).mpr (.inr ?_)
  rw [hasked]
  constructor
  · simp [refused, Asked.sent]
  · intro e he
    cases he
    rfl

/-- Two name servers, and one of them is not connected. -/
def twoNameServers : NameProxyTbl := oneNameServer.insert [2] {}

/-- The one that was asked has answered, and the client gets no answer; and if the request to a
single name server fails while it is sent, what was deleted is used. -/
theorem offline_name_server_blocks_answer :
    (∃ q, run (Query.step FdbMsgServiceTable.collect plainObjects) (queryOf twoNameServers)
        oneAnswer
        = some q ∧ q.waiting = [] ∧ q.replies = []
      ∧ ¬ ∃ answer, AnsweredOnce FdbMsgServiceTable.collect plainObjects (queryOf twoNameServers)
        oneAnswer q answer)
    ∧ ∃ q, run (Query.step FdbMsgServiceTable.collect plainObjects) (queryOf oneNameServer)
        [⟨⟨0, [1]⟩, .sendFailure, none, rfl⟩] = some q
      ∧ q.waiting = [] ∧ q.usedAfterDelete = true := by
  constructor
  · have hview : (run (Query.step collect plainObjects) (queryOf twoNameServers) oneAnswer).map
        (fun q => (q.waiting, q.replies)) = some ([], []) := by decide +kernel
    obtain ⟨q, hrun, hview⟩ := map_eq_some_iff.mp hview
    obtain ⟨hnone, hreplies⟩ := Prod.mk.inj hview
    refine ⟨q, hrun, hnone, hreplies, ?_⟩
    intro h
    obtain ⟨answer, hanswer⟩ := h
    have honce := hanswer.once
    rw [hreplies] at honce
    cases honce
  · have hview : (run (Query.step collect plainObjects)
        (queryOf oneNameServer) [⟨⟨0, [1]⟩, .sendFailure, none, rfl⟩]).map
        (fun q => (q.waiting, q.usedAfterDelete)) = some ([], true) := by decide +kernel
    obtain ⟨q, hrun, hview⟩ := map_eq_some_iff.mp hview
    exact ⟨q, hrun, Prod.mk.inj hview⟩

end Fdbus.Server

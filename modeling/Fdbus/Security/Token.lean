/-
  Fdbus.Security.Token — tokens and the security levels of sessions.

  A server holds one token per security level.  A session that authenticates with a token has
  the level of that token; `CBaseServer` computes it when the token comes and again for every
  session when the tokens of the server are replaced.

    * `Server` is a server with its sockets and sessions, `Event` what happens to it,
    * `securityLevel_current` — after every run the level of a session is that of the token
      it authenticated with last, in the table the server has now; a token that is not in
      that table gives no level.

  Strings are byte lists.  `c_str()` ends at the first NUL.
-/
import Fdbus.Security.ApiSecurity
import Fdbus.Library.OrderedMap
import Fdbus.Library.Run

namespace Fdbus.Security

open Fdbus.OrderedMap Fdbus.Run List Option Std.ExtTreeMap

/-! ## §1. Tokens. -/

/-- A token: a `std::string`. -/
abbrev Token := List UInt8

/-- The C string that `c_str()` shows. -/
def cStr (text : List UInt8) : List UInt8 := text.takeWhile (· != 0)

theorem cStr_idem (text : List UInt8) : cStr (cStr text) = cStr text := by
  unfold cStr
  rw [takeWhile_eq_self_iff]
  exact fun b hb => mem_takeWhile_imp (p := (· != 0)) hb

theorem cStr_of_noNul {text : List UInt8} (h : 0 ∉ text) : cStr text = text := by
  unfold cStr
  rw [takeWhile_eq_self_iff]
  intro b hb
  have hne : b ≠ 0 := fun h0 => h (h0 ▸ hb)
  simpa using hne

/-- `CFdbToken::checkSecurityLevel(tokens, token)` for a C string: the position of the token
in the table; the empty one has no level. -/
def checkSecurityLevel (tokens : List Token) (token : List UInt8) : Int :=
  if token = [] then fdbSecurityLevelNone
  else if token ∈ tokens then (tokens.idxOf token : Int)
  else fdbSecurityLevelNone

theorem checkSecurityLevel_nil (tokens : List Token) :
    checkSecurityLevel tokens [] = fdbSecurityLevelNone := if_pos rfl

/-- A token of a table without repetitions has the level of its position. -/
theorem checkSecurityLevel_getElem {tokens : List Token} (hnodup : tokens.Nodup) {i : Nat}
    {token : Token} (hi : tokens[i]? = some token) (hne : token ≠ []) :
    checkSecurityLevel tokens token = i := by
  obtain ⟨hlt, rfl⟩ := List.getElem?_eq_some_iff.mp hi
  unfold checkSecurityLevel
  rw [if_neg hne, if_pos (getElem_mem hlt), hnodup.idxOf_getElem i hlt]

/-- The comparison of `importTokens(in_tokens)`. -/
def needUpdate (mTokens inTokens : List Token) : Bool :=
  if inTokens.length ≠ mTokens.length then true
  else (mTokens.zip inTokens).any fun p => p.1 != p.2

theorem eq_of_needUpdate_false {mTokens inTokens : List Token}
    (h : needUpdate mTokens inTokens = false) : inTokens = mTokens := by
  unfold needUpdate at h
  by_cases hlen : inTokens.length = mTokens.length
  · rw [if_neg (not_not.mpr hlen), List.any_eq_false] at h
    refine ext_getElem hlen fun i hi hi' => ?_
    have hmem : (mTokens[i], inTokens[i]) ∈ mTokens.zip inTokens := by
      rw [mem_iff_getElem]
      exact ⟨i, by rw [length_zip]; omega, getElem_zip⟩
    have heq : mTokens[i] = inTokens[i] := by simpa using h _ hmem
    exact heq.symm
  · rw [if_pos hlen] at h
    cases h

/-! ## §2. A server and its sessions. -/

/-- A `CFdbSession` of a server: the socket it came in on, `mToken` and `mSecurityLevel`. -/
structure SessionState where
  mContainer : Nat
  mToken : List UInt8
  mSecurityLevel : Int

/-- A `CBaseServer`: its tokens, the `mConnectedSessionTable` of every socket, and the sessions
by their ids.  Ids are given out by a counter. -/
structure Server where
  mTokens : List Token
  containers : Map Nat (List Nat)
  sessions : Map Nat SessionState
  nextSid : Nat

/-- A server without sockets, tokens and sessions. -/
def Server.start : Server := ⟨[], ∅, ∅, 0⟩

/-- `session->securityLevel(checkSecurityLevel(session->token().c_str()))`. -/
def SessionState.recheck (tokens : List Token) (s : SessionState) : SessionState :=
  { s with mSecurityLevel := checkSecurityLevel tokens (cStr s.mToken) }

/-- The loop of `updateSecurityLevel()` over one socket. -/
def recheckTable (tokens : List Token) (sessions : Map Nat SessionState) (tbl : List Nat) :
    Map Nat SessionState :=
  tbl.foldl (fun sessions sid => sessions.modify sid (·.recheck tokens)) sessions

/-- `updateSecurityLevel()`. -/
def Server.updateSecurityLevel (srv : Server) : Server :=
  { srv with
    sessions := srv.containers.foldl (fun sessions _ tbl => recheckTable srv.mTokens sessions tbl)
      srv.sessions }

/-- `importTokens(in_tokens)`, and `updateSecurityLevel()` when it reports a change. -/
def Server.importTokens (srv : Server) (inTokens : List Token) : Server :=
  if needUpdate srv.mTokens inTokens then { srv with mTokens := inTokens }.updateSecurityLevel
  else srv

/-- What `FDB_SIDEBAND_AUTH` sets in a session; only the first token of the list counts. -/
def SessionState.authenticate (s : SessionState) (tokens : List Token) :
    Option (List Token) → SessionState
  | some (token :: _) =>
    { s with mToken := cStr token, mSecurityLevel := checkSecurityLevel tokens (cStr token) }
  | _ => { s with mToken := [], mSecurityLevel := fdbSecurityLevelNone }

/-- What happens to a server. -/
inductive Event where
  /-- A server socket is opened. -/
  | bind (skid : Nat)
  /-- A server socket is deleted, and its sessions with it. -/
  | unbind (skid : Nat)
  /-- A client connects to a socket. -/
  | connect (skid : Nat)
  /-- A session ends. -/
  | disconnect (sid : Nat)
  /-- `FDB_SIDEBAND_AUTH` with the token list of the message, if it has one. -/
  | auth (sid : Nat) (tokenList : Option (List Token))
  /-- New tokens come from the name server. -/
  | tokens (inTokens : List Token)

/-- One event. -/
def Server.step (srv : Server) : Event → Option Server
  | .bind skid =>
    if srv.containers[skid]? = none then
      some { srv with containers := srv.containers.insert skid [] } else none
  | .unbind skid =>
    match srv.containers[skid]? with
    | some tbl =>
      some { srv with
        containers := srv.containers.erase skid
        sessions := tbl.foldl (·.erase ·) srv.sessions }
    | none => none
  | .connect skid =>
    match srv.containers[skid]? with
    | some tbl =>
      some { srv with
        containers := srv.containers.insert skid (tbl ++ [srv.nextSid])
        sessions := srv.sessions.insert srv.nextSid ⟨skid, [], fdbSecurityLevelNone⟩
        nextSid := srv.nextSid + 1 }
    | none => none
  | .disconnect sid =>
    match srv.sessions[sid]? with
    | some s =>
      some { srv with
        containers := srv.containers.modify s.mContainer (·.erase sid)
        sessions := srv.sessions.erase sid }
    | none => none
  | .auth sid tokenList =>
    match srv.sessions[sid]? with
    | some s =>
      some { srv with sessions := srv.sessions.insert sid (s.authenticate srv.mTokens tokenList) }
    | none => none
  | .tokens inTokens => some (srv.importTokens inTokens)

/-! ## §3. Levels are recomputed for every session. -/

theorem get_recheckTable (tokens : List Token) (tbl : List Nat) (sessions : Map Nat SessionState)
    (sid : Nat) :
    (recheckTable tokens sessions tbl)[sid]?
      = if sid ∈ tbl then sessions[sid]?.map (·.recheck tokens) else sessions[sid]? := by
  unfold recheckTable
  induction tbl generalizing sessions with
  | nil => simp
  | cons x tbl ih =>
    rw [foldl_cons, ih, get_modify]
    simp only [mem_cons]
    by_cases hx : x = sid
    · subst hx
      -- rechecking twice is rechecking once
      cases sessions[x]? <;> simp [SessionState.recheck]
    · rw [if_neg hx]
      simp only [Ne.symm hx, false_or]

/-- A session in the table of a socket is rechecked, the others are left alone. -/
theorem get_updateSecurityLevel (srv : Server) (sid : Nat) :
    srv.updateSecurityLevel.sessions[sid]?
      = if ∃ e ∈ srv.containers.toList, sid ∈ e.2
        then srv.sessions[sid]?.map (·.recheck srv.mTokens) else srv.sessions[sid]? := by
  unfold Server.updateSecurityLevel
  rw [foldl_eq_foldl_toList]
  generalize srv.sessions = sessions
  induction srv.containers.toList generalizing sessions with
  | nil => simp
  | cons e l ih =>
    rw [foldl_cons, ih, get_recheckTable]
    simp only [exists_mem_cons_iff]
    by_cases he : sid ∈ e.2
    · cases sessions[sid]? <;> simp [he, SessionState.recheck]
    · simp only [he, if_false, false_or]

/-! ## §4. The level of a session. -/

/-- The token of an authentication: the first of its list, the empty one if there is none. -/
def firstToken : Option (List Token) → List UInt8
  | some (token :: _) => cStr token
  | _ => []

/-- The token of the last authentication of a session in a list of events. -/
def lastToken (events : List Event) (sid : Nat) : List UInt8 :=
  events.foldl (fun token ev =>
    match ev with
    | .auth sid' tokenList => if sid' = sid then firstToken tokenList else token
    | _ => token) []

/-- The tokens that came last in a list of events. -/
def lastImport (events : List Event) : List Token :=
  events.foldl (fun tokens ev =>
    match ev with
    | .tokens inTokens => inTokens
    | _ => tokens) []

theorem cStr_firstToken (tokenList : Option (List Token)) :
    cStr (firstToken tokenList) = firstToken tokenList := by
  rcases tokenList with _ | _ | ⟨token, _⟩
  · rfl
  · rfl
  · exact cStr_idem token

/-- A session is as its last authentication and the tokens of the server make it, and it is in
the table of its socket. -/
structure SessionOk (past : List Event) (srv : Server) (sid : Nat) (s : SessionState) : Prop where
  issued : sid < srv.nextSid
  placed : ∃ tbl, srv.containers[s.mContainer]? = some tbl ∧ sid ∈ tbl
  token : s.mToken = lastToken past sid
  cString : cStr s.mToken = s.mToken
  level : s.mSecurityLevel = checkSecurityLevel srv.mTokens s.mToken

/-- What every run keeps. -/
structure ServerOk (past : List Event) (srv : Server) : Prop where
  imported : srv.mTokens = lastImport past
  session : ∀ sid s, srv.sessions[sid]? = some s → SessionOk past srv sid s
  silent : ∀ sid, srv.nextSid ≤ sid → lastToken past sid = []

theorem lastToken_auth (past : List Event) (sid' : Nat) (tokenList : Option (List Token))
    (sid : Nat) :
    lastToken (past ++ [.auth sid' tokenList]) sid
      = if sid' = sid then firstToken tokenList else lastToken past sid := by
  unfold lastToken
  rw [foldl_append]
  rfl

theorem lastImport_other (past : List Event) {ev : Event} (hev : ∀ inTokens, ev ≠ .tokens inTokens) :
    lastImport (past ++ [ev]) = lastImport past := by
  unfold lastImport
  rw [foldl_append]
  cases ev with
  | tokens inTokens => exact absurd rfl (hev inTokens)
  | _ => rfl

/-- Tokens are left alone only if they are the same. -/
theorem importTokens_mTokens (srv : Server) (inTokens : List Token) :
    (srv.importTokens inTokens).mTokens = inTokens := by
  unfold Server.importTokens
  by_cases hupdate : needUpdate srv.mTokens inTokens = true
  · rw [if_pos hupdate]
    rfl
  · rw [if_neg hupdate]
    exact (eq_of_needUpdate_false (Bool.eq_false_iff.mpr hupdate)).symm

/-- Only authentications count. -/
theorem lastToken_other (past : List Event) {ev : Event}
    (hev : ∀ sid tokenList, ev ≠ .auth sid tokenList) (sid : Nat) :
    lastToken (past ++ [ev]) sid = lastToken past sid := by
  unfold lastToken
  rw [foldl_append]
  cases ev with
  | auth sid tokenList => exact absurd rfl (hev sid tokenList)
  | _ => rfl

variable {past : List Event} {srv srv' : Server} {ev : Event}

/-- A session of another server state with the same tokens, whose own record and place are
kept. -/
theorem SessionOk.mono {past' : List Event} {srv srv' : Server} {sid : Nat}
    {s : SessionState} (h : SessionOk past srv sid s)
    (hsid : srv.nextSid ≤ srv'.nextSid)
    (hplaced : ∀ tbl, srv.containers[s.mContainer]? = some tbl → sid ∈ tbl →
      ∃ tbl', srv'.containers[s.mContainer]? = some tbl' ∧ sid ∈ tbl')
    (htoken : lastToken past' sid = lastToken past sid) (htokens : srv'.mTokens = srv.mTokens) :
    SessionOk past' srv' sid s where
  issued := lt_of_lt_of_le h.issued hsid
  placed := by
    obtain ⟨tbl, htbl, hmem⟩ := h.placed
    exact hplaced tbl htbl hmem
  token := by rw [htoken, h.token]
  cString := h.cString
  level := by rw [htokens, h.level]

section

variable (h : ServerOk past srv)

include h

/-- After an event that is neither an authentication nor new tokens, what is to be shown is about
the sessions and the events before it. -/
theorem ServerOk.connection (hauth : ∀ sid tokenList, ev ≠ .auth sid tokenList)
    (htokens : ∀ inTokens, ev ≠ .tokens inTokens) (hsame : srv'.mTokens = srv.mTokens)
    (hsid : srv.nextSid ≤ srv'.nextSid)
    (hsession : ∀ sid s, srv'.sessions[sid]? = some s → SessionOk past srv' sid s) :
    ServerOk (past ++ [ev]) srv' where
  imported := by
    rw [hsame, lastImport_other past htokens]
    exact h.imported
  silent sid hle := by
    rw [lastToken_other past hauth]
    exact h.silent sid (le_trans hsid hle)
  session sid s hs := (hsession sid s hs).mono le_rfl (fun tbl htbl hmem => ⟨tbl, htbl, hmem⟩)
    (lastToken_other past hauth sid) rfl

theorem ServerOk.bind {skid : Nat} (hfree : srv.containers[skid]? = none) :
    ServerOk (past ++ [.bind skid])
      { srv with containers := srv.containers.insert skid [] } := by
  refine h.connection nofun nofun rfl le_rfl
    fun sid s hs => ?_
  refine (h.session sid s hs).mono le_rfl (fun tbl htbl hmem => ⟨tbl, ?_, hmem⟩) rfl rfl
  -- the new socket is not the one of a session
  have hne : skid ≠ s.mContainer := by
    rintro rfl
    rw [hfree] at htbl
    cases htbl
  show (srv.containers.insert skid [])[s.mContainer]? = some tbl
  rw [get_insert, if_neg hne, htbl]

theorem ServerOk.unbind {skid : Nat} {gone : List Nat} (hgone : srv.containers[skid]? = some gone) :
    ServerOk (past ++ [.unbind skid])
      { srv with
        containers := srv.containers.erase skid
        sessions := gone.foldl (·.erase ·) srv.sessions } := by
  refine h.connection nofun nofun rfl le_rfl
    fun sid s hs => ?_
  have hleft : (gone.foldl (·.erase ·) srv.sessions)[sid]? = some s := hs
  rw [get_eraseAll, ite_none_left_eq_some] at hleft
  obtain ⟨hkept, hs'⟩ := hleft
  refine (h.session sid s hs').mono le_rfl (fun tbl htbl hmem => ⟨tbl, ?_, hmem⟩) rfl rfl
  -- a session that is left is not one of the deleted socket
  have hne : skid ≠ s.mContainer := by
    rintro rfl
    rw [hgone, some.injEq] at htbl
    subst htbl
    exact hkept hmem
  show (srv.containers.erase skid)[s.mContainer]? = some tbl
  rw [get_erase, if_neg hne, htbl]

theorem ServerOk.connect {skid : Nat} {tbl : List Nat} (htbl : srv.containers[skid]? = some tbl) :
    ServerOk (past ++ [.connect skid])
      { srv with
        containers := srv.containers.insert skid (tbl ++ [srv.nextSid])
        sessions := srv.sessions.insert srv.nextSid ⟨skid, [], fdbSecurityLevelNone⟩
        nextSid := srv.nextSid + 1 } := by
  refine h.connection nofun nofun rfl (Nat.le_succ _)
    fun sid s hs => ?_
  have hnew : (srv.containers.insert skid (tbl ++ [srv.nextSid]))[skid]?
      = some (tbl ++ [srv.nextSid]) := by simp
  have hget : (srv.sessions.insert srv.nextSid ⟨skid, [], fdbSecurityLevelNone⟩)[sid]? = some s := hs
  rw [get_insert] at hget
  by_cases hsid : srv.nextSid = sid
  · -- the new session has authenticated with nothing so far
    subst hsid
    rw [if_pos rfl, some.injEq] at hget
    subst hget
    exact {
      issued := Nat.lt_succ_self _
      placed := ⟨_, hnew, mem_append_right _ (mem_singleton.mpr rfl)⟩
      token := (h.silent _ le_rfl).symm
      cString := rfl
      level := (checkSecurityLevel_nil _).symm }
  · rw [if_neg hsid] at hget
    refine (h.session sid s hget).mono (Nat.le_succ _) (fun tbl' htbl' hmem => ?_) rfl rfl
    by_cases hskid : skid = s.mContainer
    · subst hskid
      rw [htbl, some.injEq] at htbl'
      subst htbl'
      exact ⟨_, hnew, mem_append_left _ hmem⟩
    · refine ⟨tbl', ?_, hmem⟩
      show (srv.containers.insert skid (tbl ++ [srv.nextSid]))[s.mContainer]? = some tbl'
      rw [get_insert, if_neg hskid, htbl']

theorem ServerOk.disconnect {sid : Nat} (skid : Nat) :
    ServerOk (past ++ [.disconnect sid])
      { srv with
        containers := srv.containers.modify skid (·.erase sid)
        sessions := srv.sessions.erase sid } := by
  refine h.connection nofun nofun rfl le_rfl
    fun sid' s hs => ?_
  have hleft : (srv.sessions.erase sid)[sid']? = some s := hs
  rw [get_erase, ite_none_left_eq_some] at hleft
  obtain ⟨hne, hs'⟩ := hleft
  refine (h.session sid' s hs').mono le_rfl (fun tbl htbl hmem => ?_) rfl rfl
  show ∃ tbl', (srv.containers.modify skid (·.erase sid))[s.mContainer]? = some tbl' ∧ _
  rw [get_modify]
  by_cases hskid : skid = s.mContainer
  · subst hskid
    rw [if_pos rfl, htbl]
    exact ⟨_, rfl, (mem_erase_of_ne (Ne.symm hne)).mpr hmem⟩
  · rw [if_neg hskid]
    exact ⟨tbl, htbl, hmem⟩

theorem ServerOk.auth {sid : Nat} {s : SessionState} (hs : srv.sessions[sid]? = some s)
    (tokenList : Option (List Token)) :
    ServerOk (past ++ [.auth sid tokenList])
      { srv with
        sessions := srv.sessions.insert sid (s.authenticate srv.mTokens tokenList) } where
  imported := by
    rw [lastImport_other past (by intro _ hev; cases hev)]
    exact h.imported
  silent sid' hsid := by
    have hold := (h.session sid s hs).issued
    have hlater : srv.nextSid ≤ sid' := hsid
    rw [lastToken_auth, if_neg (by omega)]
    exact h.silent sid' hlater
  session sid' s' hs' := by
    have hget : (srv.sessions.insert sid (s.authenticate srv.mTokens tokenList))[sid']? = some s' :=
      hs'
    rw [get_insert] at hget
    by_cases hsid : sid = sid'
    · subst hsid
      have hauth : s.authenticate srv.mTokens tokenList = ⟨s.mContainer, firstToken tokenList,
          checkSecurityLevel srv.mTokens (firstToken tokenList)⟩ := by
        rcases tokenList with _ | _ | ⟨token, _⟩ <;> rfl
      rw [if_pos rfl, some.injEq, hauth] at hget
      subst hget
      exact {
        issued := (h.session sid s hs).issued
        placed := (h.session sid s hs).placed
        token := by rw [lastToken_auth, if_pos rfl]
        cString := cStr_firstToken tokenList
        level := rfl }
    · rw [if_neg hsid] at hget
      refine (h.session sid' s' hget).mono le_rfl (fun tbl htbl hmem => ⟨tbl, htbl, hmem⟩) ?_ rfl
      rw [lastToken_auth, if_neg hsid]

/-- New tokens: every session is in the table of a socket, so every one is rechecked. -/
theorem ServerOk.tokens (inTokens : List Token) :
    ServerOk (past ++ [.tokens inTokens]) (srv.importTokens inTokens) := by
  have hlast : ∀ sid, lastToken (past ++ [.tokens inTokens]) sid = lastToken past sid :=
    lastToken_other past nofun
  have himported : (srv.importTokens inTokens).mTokens
      = lastImport (past ++ [.tokens inTokens]) := by
    rw [importTokens_mTokens, lastImport, foldl_append]
    rfl
  unfold Server.importTokens at himported ⊢
  by_cases hupdate : needUpdate srv.mTokens inTokens = true
  · rw [if_pos hupdate] at himported ⊢
    refine ⟨himported, fun sid s hs => ?_, fun sid hsid => (hlast sid).trans (h.silent sid hsid)⟩
    rw [get_updateSecurityLevel] at hs
    change (if _ then srv.sessions[sid]?.map _ else srv.sessions[sid]?) = some s at hs
    obtain ⟨s₀, hs₀⟩ : ∃ s₀, srv.sessions[sid]? = some s₀ := by
      cases hsid : srv.sessions[sid]? with
      | none => simp [hsid] at hs
      | some s₀ => exact ⟨s₀, rfl⟩
    have hok := h.session sid s₀ hs₀
    obtain ⟨tbl, htbl, hmem⟩ := hok.placed
    have hplaced : ∃ e ∈ srv.containers.toList, sid ∈ e.2 :=
      ⟨(s₀.mContainer, tbl), mem_toList_iff_getElem?_eq_some.mpr htbl, hmem⟩
    rw [if_pos hplaced, hs₀, map_some, some.injEq] at hs
    subst hs
    exact {
      issued := hok.issued
      placed := ⟨tbl, htbl, hmem⟩
      token := by rw [hlast]; exact hok.token
      cString := hok.cString
      level := by
        show checkSecurityLevel inTokens (cStr s₀.mToken) = checkSecurityLevel inTokens s₀.mToken
        rw [hok.cString] }
  · rw [if_neg hupdate] at himported ⊢
    exact ⟨himported, fun sid s hs =>
      (h.session sid s hs).mono le_rfl (fun tbl htbl hmem => ⟨tbl, htbl, hmem⟩)
      (hlast sid) rfl, fun sid hsid => (hlast sid).trans (h.silent sid hsid)⟩

theorem step_serverOk (hstep : srv.step ev = some srv') : ServerOk (past ++ [ev]) srv' := by
  cases ev with
  | bind skid =>
    obtain ⟨hfree, rfl⟩ := of_guard hstep
    exact h.bind hfree
  | unbind skid =>
    simp only [Server.step] at hstep
    split at hstep
    · next gone htbl =>
        cases hstep
        exact h.unbind htbl
    · cases hstep
  | connect skid =>
    simp only [Server.step] at hstep
    split at hstep
    · next tbl htbl =>
        cases hstep
        exact h.connect htbl
    · cases hstep
  | disconnect sid =>
    simp only [Server.step] at hstep
    split at hstep
    · next s hs =>
        cases hstep
        exact h.disconnect s.mContainer
    · cases hstep
  | auth sid tokenList =>
    simp only [Server.step] at hstep
    split at hstep
    · next s hs =>
        cases hstep
        exact h.auth hs tokenList
    · cases hstep
  | tokens inTokens =>
    rw [Server.step, some.injEq] at hstep
    exact hstep ▸ h.tokens inTokens

end

theorem serverOk_start : ServerOk [] Server.start where
  imported := rfl
  session sid s hs := by
    have hnone : Server.start.sessions[sid]? = none := by simp [Server.start]
    cases hs
  silent _ _ := rfl

/-- **Levels are current.**  After every run of a server its tokens are those that came last,
and the level of every connected session is the one that they give to the first token of the
session's last authentication.  A token that is not among them gives no level. -/
theorem securityLevel_current (events : List Event) (srv : Server)
    (hrun : run Server.step Server.start events = some srv) (sid : Nat) (s : SessionState)
    (hs : srv.sessions[sid]? = some s) :
    srv.mTokens = lastImport events
      ∧ s.mSecurityLevel = checkSecurityLevel srv.mTokens (lastToken events sid)
      ∧ (lastToken events sid ∉ srv.mTokens → s.mSecurityLevel = fdbSecurityLevelNone) := by
  have hok : ServerOk events srv :=
    run_history (fun _ _ _ _ h hstep => step_serverOk h hstep) serverOk_start hrun
  have hlevel : s.mSecurityLevel = checkSecurityLevel srv.mTokens (lastToken events sid) := by
    rw [(hok.session sid s hs).level, (hok.session sid s hs).token]
  refine ⟨hok.imported, hlevel, fun hgone => ?_⟩
  rw [hlevel, checkSecurityLevel, if_neg hgone, ite_self]

/-- A session authenticates with the second of two tokens; then the tokens are replaced. -/
def revocation : List Event :=
  [.bind 0, .tokens [[65], [66]], .connect 0, .auth 0 (some [[66], [67]]), .tokens [[65], [68]]]

/-- The session had level 1 and has none after the tokens are replaced. -/
theorem securityLevel_current_revoked :
    ∃ srv s, run Server.step Server.start revocation = some srv ∧ srv.sessions[0]? = some s
      ∧ s.mSecurityLevel = fdbSecurityLevelNone := by
  have hsome : ((run Server.step Server.start revocation).map fun srv => srv.sessions[0]?.isSome)
      = some true := by decide +kernel
  obtain ⟨srv, hsrv, hsome⟩ := map_eq_some_iff.mp hsome
  obtain ⟨s, hs⟩ := isSome_iff_exists.mp hsome
  obtain ⟨htokens, _, hrevoked⟩ := securityLevel_current revocation srv hsrv 0 s hs
  refine ⟨srv, s, hsrv, hs, hrevoked ?_⟩
  rw [htokens]
  decide +kernel

end Fdbus.Security

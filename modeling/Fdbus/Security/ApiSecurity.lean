/-
  Fdbus.Security.ApiSecurity — security levels of message and event codes.

  `CApiSecurityConfig` maps ranges of codes to the level a session needs for them, and
  `CBaseEndpoint::onGetEventAuthentication` compares the level of the code it is given
  with the level of the session.
-/
import Fdbus.Common.Defs

namespace Fdbus.Security

/-! ## §1. Required levels. -/

/-- `FDB_SECURITY_LEVEL_NONE`. -/
def fdbSecurityLevelNone : Int := -1

/-- `FDB_SECURITY_LEVEL_UNKNOWN`. -/
def fdbSecurityLevelUnknown : Int := -2

/-- `CSecLevelRange`. -/
structure CSecLevelRange where
  mBegin : FdbMsgCode
  mEnd : FdbMsgCode
  mSecLevel : Int

/-- `CApiSecLevelTbl`. -/
structure CApiSecLevelTbl where
  mDefaultLevel : Int := fdbSecurityLevelNone
  mApiSecRangeTbl : List CSecLevelRange := []

/-- `CApiSecurityConfig`; the table of message codes is read by no function modelled
here. -/
structure CApiSecurityConfig where
  mEventSecLevelTbl : CApiSecLevelTbl

/-- `getSecLevel(msg_code, tbl)`: the first range that holds the code decides; codes are
compared as signed numbers. -/
def getSecLevel (code : FdbMsgCode) (tbl : CApiSecLevelTbl) : Int :=
  match tbl.mApiSecRangeTbl.find? fun r =>
      code.toInt ≥ r.mBegin.toInt && code.toInt ≤ r.mEnd.toInt with
  | some r => r.mSecLevel
  | none => tbl.mDefaultLevel

/-- `getEventSecLevel(msg_code)`. -/
def CApiSecurityConfig.getEventSecLevel (cfg : CApiSecurityConfig) (code : FdbMsgCode) : Int :=
  getSecLevel code cfg.mEventSecLevelTbl

/-! ## §2. Authentication. -/

/-- What a session knows of its security: `securityLevel()`, and `checkSecurityLevel()` of
its container, which is asked when the former is unknown. -/
structure SessionSecurity where
  securityLevel : Int
  checkSecurityLevel : Int

/-- `actual_security_level`. -/
def SessionSecurity.actualLevel (s : SessionSecurity) : Int :=
  if s.securityLevel = fdbSecurityLevelUnknown then s.checkSecurityLevel else s.securityLevel

/-- The session may have the event `code`; an endpoint without configuration requires
nothing. -/
def Authorised (cfg : Option CApiSecurityConfig) (code : FdbMsgCode) (s : SessionSecurity) :
    Prop :=
  ∀ c, cfg = some c → c.getEventSecLevel code ≤ s.actualLevel

/-- `onGetEventAuthentication(msg, session)` for a message with this code. -/
def onGetEventAuthentication (cfg : Option CApiSecurityConfig) (code : FdbMsgCode)
    (s : SessionSecurity) : Bool :=
  match cfg with
  | some c => s.actualLevel ≥ c.getEventSecLevel code
  | none => true

theorem onGetEventAuthentication_iff (cfg : Option CApiSecurityConfig) (code : FdbMsgCode)
    (s : SessionSecurity) :
    onGetEventAuthentication cfg code s = true ↔ Authorised cfg code s := by
  unfold onGetEventAuthentication Authorised
  cases cfg with
  | none => simp
  | some c => simp

end Fdbus.Security

/-
What `PdmLunaService` knows of the sessions, in the build with `WEBOS_SESSION`.

`queryForSession` asks the account service for its sessions before a request is served, and
keeps the session and the user of each display.  It reads three sessions of the answer at
most, the first two also where there are none.  Nothing is ever taken out of `m_sessionMap`,
and a toast for a display that is not in it puts it in with an empty session.  Whose request
it is that is served is found by the session, in the order of the displays' names; the session
`host` is that of no display.

What is not in an answer is read as an empty text.
-/
import Pdm.Framework.DeviceSessions
import Pdm.Framework.PdmLunaService
import Pdm.Lib.KeysOfValues
import Pdm.Lib.Runs

namespace Pdm

/-- An entry of `sessions` in the answer of the account service. -/
structure AccountSession where
  /-- `deviceSetInfo.deviceSetId` -/
  deviceSetId : String := ""
  sessionId : String := ""
  /-- `accountInfo.accountId` -/
  accountId : String := ""
  deriving DecidableEq, Repr

structure AccountSessions where
  sessionMap : Std.TreeMap String String := ∅
  avnUserId : String := "driver0"
  rselUserId : String := "guest0"
  rserUserId : String := "guest1"

namespace AccountSessions

/-- `request["sessions"][i]` -/
def session (sessions : List (Option AccountSession)) (i : Nat) : AccountSession :=
  sessions[i]?.join.getD {}

/-- The session of its display, new or in place of the one before. -/
def putSession (sessionMap : Std.TreeMap String String) (session : AccountSession) :
    Std.TreeMap String String :=
  sessionMap.insert session.deviceSetId session.sessionId

/-- The user of a display, who stays where the answer does not name the display. -/
def userId (sessions : List (Option AccountSession)) (deviceSetId user : String) : String :=
  if (session sessions 0).deviceSetId = deviceSetId then (session sessions 0).accountId
  else if (session sessions 1).deviceSetId = deviceSetId then (session sessions 1).accountId
  else if (session sessions 2).deviceSetId ≠ "" ∧ (session sessions 2).deviceSetId = deviceSetId then
    (session sessions 2).accountId
  else user

def queryForSession (s : AccountSessions) (sessions : List (Option AccountSession)) :
    AccountSessions :=
  let sessionMap := putSession s.sessionMap (session sessions 0)
  let sessionMap := putSession sessionMap (session sessions 1)
  { sessionMap :=
      if sessions[2]?.join.isSome then putSession sessionMap (session sessions 2) else sessionMap
    avnUserId := userId sessions "AVN" s.avnUserId
    rselUserId := userId sessions "RSE-L" s.rselUserId
    rserUserId := userId sessions "RSE-R" s.rserUserId }

/-- `m_sessionMap[deviceSetId]`, in `createToast`. -/
def createToast (s : AccountSessions) (deviceSetId : String) : AccountSessions × String :=
  ({ s with sessionMap := s.sessionMap.insertIfNew deviceSetId "" },
    s.sessionMap[deviceSetId]?.getD "")

/-- The display of a client: `std::find_if` over `m_sessionMap`, `if (sessionId != "host")`.
`getDevicesFromDB` searches in any case and then makes the same test. -/
def clientDisplay (s : AccountSessions) (sessionId : String) : String :=
  if sessionId ≠ "host" then LunaService.deviceSetId s.sessionMap.toList sessionId else ""

def user (s : AccountSessions) : Display → String
  | .avn => s.avnUserId
  | .rseL => s.rselUserId
  | .rseR => s.rserUserId

end AccountSessions

/-- What changes what is known of the sessions. -/
inductive AccountInput where
  | answer (sessions : List (Option AccountSession))
  | toast (deviceSetId : String)
  deriving DecidableEq, Repr

def AccountSessions.step (s : AccountSessions) : AccountInput → AccountSessions
  | .answer sessions => s.queryForSession sessions
  | .toast deviceSetId => (s.createToast deviceSetId).1

end Pdm

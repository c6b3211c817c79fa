/-!
# The adapter of the location engine

The fix criteria and the session flag of `LocEngAdapter`, and the handlers of `LocEngStartFix`,
`LocEngStopFix` and `LocEngPositionMode`. What the modem answers to `startFix` is an argument.
-/

namespace KiwiDevice.Gps

/-- `loc_api_adapter_err`, in which `ENGINE_DOWN` is the same as `PHONE_OFFLINE`. -/
inductive LocApiAdapterErr where
  | success
  | generalFailure
  | unsupported
  | invalidHandle
  | invalidParameter
  | engineBusy
  | phoneOffline
  | timeout
  | serviceNotPresent
  | internal
  | failure
  | unknown
  deriving DecidableEq, Repr

def LocApiAdapterErr.engineDown : LocApiAdapterErr := .phoneOffline

inductive LocPositionMode where
  | invalid
  | standalone
  | msBased
  | msAssisted
  | reserved (n : Fin 5)
  deriving DecidableEq, Repr

inductive GpsPositionRecurrence where
  | periodic
  | single
  deriving DecidableEq, Repr

structure LocPosMode where
  mode : LocPositionMode := .msBased
  recurrence : GpsPositionRecurrence := .periodic
  minInterval : Nat := 1000
  preferredAccuracy : Nat := 50
  preferredTime : Nat := 120000
  credentials : String := ""
  provider : String := ""
  deriving DecidableEq, Repr

structure LocEngAdapter where
  fixCriteria : LocPosMode := {}
  navigating : Bool := false
  deriving DecidableEq, Repr

/-- Calls of the adapter to `mLocApi`. -/
inductive LocApiCall where
  | startFix (posMode : LocPosMode)
  | stopFix
  | setPositionMode (posMode : LocPosMode)
  deriving DecidableEq, Repr

namespace LocEngAdapter

variable (a : LocEngAdapter)

def isInSession : Bool := a.navigating

def setInSession (inSession : Bool) : LocEngAdapter :=
  { navigating := inSession
    fixCriteria := if inSession then a.fixCriteria else { a.fixCriteria with mode := .invalid } }

def setPositionMode (posMode : LocPosMode) : LocEngAdapter × List LocApiCall :=
  ({ a with fixCriteria := posMode }, [.setPositionMode posMode])

/-- The answers of `startFix` after which the engine counts itself as in session. -/
def keepsSession : LocApiAdapterErr → Bool
  | .success | .phoneOffline | .internal => true
  | _ => false

/-- `loc_eng_start_handler`. -/
def startHandler (ret : LocApiAdapterErr) : LocEngAdapter × List LocApiCall :=
  if a.isInSession then (a, [])
  else (if keepsSession ret then a.setInSession true else a, [.startFix a.fixCriteria])

/-- `loc_eng_stop_handler`. -/
def stopHandler : LocEngAdapter × List LocApiCall :=
  if a.isInSession then (a.setInSession false, [.stopFix]) else (a, [])

end LocEngAdapter

end KiwiDevice.Gps

import KiwiDevice.Gps.LocEngAdapter
import KiwiDevice.Lib.Steps

/-!
# Muting a privacy-override session

The handlers of the location engine that report to the applications, as far as they decide whether a
callback is invoked, and the mute state that three of them drive.
-/

namespace KiwiDevice.Gps

inductive GpsStatusValue where
  | none
  | sessionBegin
  | sessionEnd
  | engineOn
  | engineOff
  deriving DecidableEq, Repr

inductive LocMuteSession where
  | none
  | wait
  | inSession
  deriving DecidableEq, Repr

inductive LocSessStatus where
  | success
  | intermediate
  | failure
  deriving DecidableEq, Repr

/-- Callbacks of `loc_eng_data_s_type`, `true` for a pointer that is set. -/
structure LocCallbacks where
  location : Bool := true
  status : Bool := true
  svStatus : Bool := true
  nmea : Bool := true
  gpsMeasurement : Bool := true
  niNotify : Bool := true
  deriving DecidableEq, Repr

inductive AppCallback where
  | location
  | status (value : GpsStatusValue)
  | svStatus
  | nmea
  | gpsMeasurement
  | niNotify
  deriving DecidableEq, Repr

/-- What an application may not see of a muted session. The notification of a request is not
of it. -/
def AppCallback.isReport : AppCallback → Bool
  | .niNotify => false
  | _ => true

/-- `LocEngReportPosition`. The accuracy is there if the location has one, and `sentences` is how
many sentences `loc_eng_nmea_generate_pos` makes of it for each value of its last argument. -/
structure PositionReport where
  status : LocSessStatus
  techMask : Nat
  accuracy : Option Rat
  sentences : Bool → Nat

inductive LocMsg where
  | requestNi (emergency : Bool) (notifyFlags : Nat) (payload : Bool)
  | reportStatus (status : GpsStatusValue)
  | reportPosition (r : PositionReport)
  | reportSv (sentences : Nat)
  | reportNmea
  | reportGpsMeasurement
  | startFix (ret : LocApiAdapterErr)
  | stopFix
  | positionMode (posMode : LocPosMode)
  | engineDown
  | engineUp
  /-- The NI thread of a session is done with its request. -/
  | niDone (emergency : Bool)

/-- `loc_eng_data_s_type`; `session` and `sessionEs` tell whether their `rawRequest` is set. -/
structure LocEngData where
  adapter : LocEngAdapter := {}
  callbacks : LocCallbacks := {}
  intermediateFix : Nat := 0
  accuracyThres : Nat := 0
  generateNmea : Bool := false
  session : Bool := false
  sessionEs : Bool := false
  engineStatus : GpsStatusValue := .none
  fixSessionStatus : GpsStatusValue := .none
  aidingDataForDeletion : Nat := 0
  muteSession : LocMuteSession := .none

namespace LocEngData

variable (e : LocEngData)

def gpsNiPrivacyOverride : Nat := 4

/-- `LOC_POS_TECH_MASK_SATELLITE`, `_SENSORS` and `_HYBRID`. -/
def finalTechMask : Nat := 0x01 ||| 0x08 ||| 0x80

/-- Whether `loc_eng_ni_request_handler` has a session for the request. -/
def takesRequest (emergency : Bool) : Bool :=
  e.callbacks.niNotify && !e.sessionEs && (emergency || !e.session)

def muteOneSession : LocEngData := { e with muteSession := .wait }

def niRequestHandler (emergency : Bool) (notifyFlags : Nat) (payload : Bool) :
    LocEngData × List AppCallback :=
  if e.takesRequest emergency then
    let saved := if emergency then { e with sessionEs := payload } else { e with session := payload }
    (if notifyFlags = gpsNiPrivacyOverride then saved.muteOneSession else saved, [.niNotify])
  else (e, [])

def niResetOnEngineRestart : LocEngData :=
  if e.callbacks.niNotify then { e with session := false, sessionEs := false } else e

def informGpsStatus (status : GpsStatusValue) : List AppCallback :=
  if e.callbacks.status then [.status status] else []

/-- The first part of `loc_eng_report_status`. -/
def switchMute (status : GpsStatusValue) : LocMuteSession :=
  let mute :=
    if (status = .sessionBegin ∨ status = .engineOn) ∧ e.muteSession = .wait then .inSession
    else e.muteSession
  if mute = .inSession ∧ (status = .sessionEnd ∨ status = .engineOff) then .none else mute

/-- Whether `loc_eng_report_status` would inform the provider of this status. -/
def wantsStatus (status : GpsStatusValue) : Bool :=
  status ≠ .none && !(status = .sessionEnd && e.adapter.isInSession) &&
    !(status = .sessionBegin && !e.adapter.isInSession)

def reportStatus (status : GpsStatusValue) : LocEngData × List AppCallback :=
  let mute := e.switchMute status
  ({ e with
      muteSession := mute
      engineStatus := if status = .engineOn ∨ status = .engineOff then status else e.engineStatus
      fixSessionStatus :=
        if status = .sessionBegin ∨ status = .sessionEnd then status else e.fixSessionStatus },
    if e.wantsStatus status ∧ mute ≠ .inSession then e.informGpsStatus status else [])

def updateAidingDataForDeletion : LocEngData :=
  if e.engineStatus ≠ .engineOn then { e with aidingDataForDeletion := 0 } else e

/-- Whether the condition of `LocEngReportPosition::proc` lets the report through. -/
def acceptsFix (r : PositionReport) : Bool :=
  r.status = .failure ||
    (r.status = .success && r.techMask &&& finalTechMask ≠ 0) ||
    (e.intermediateFix = 1 &&
      !(e.accuracyThres ≠ 0 && r.accuracy.any fun accuracy => (e.accuracyThres : Rat) < accuracy))

def nmeaSend (sentences : Nat) : List AppCallback :=
  if e.callbacks.nmea then List.replicate sentences .nmea else []

def reportPosition (r : PositionReport) : LocEngData × List AppCallback :=
  if e.muteSession = .inSession then (e, [])
  else
    let reported := e.callbacks.location && e.acceptsFix r
    -- a single-shot session ends with the fix that is reported
    let ended := reported && e.adapter.fixCriteria.recurrence = .single
    let e' := if ended then { e with adapter := e.adapter.setInSession false } else e
    (e', (if reported then [.location] else []) ++
      if e'.generateNmea ∧ e'.adapter.isInSession then
        e'.nmeaSend (r.sentences (reported && r.status ≠ .failure))
      else [])

def reportSv (sentences : Nat) : List AppCallback :=
  if e.muteSession = .inSession then []
  else (if e.callbacks.svStatus then [.svStatus] else []) ++
    if e.generateNmea then e.nmeaSend sentences else []

def reportNmea : List AppCallback := if e.callbacks.nmea then [.nmea] else []

def reportGpsMeasurement : List AppCallback :=
  if e.muteSession = .inSession then []
  else if e.callbacks.gpsMeasurement then [.gpsMeasurement] else []

def handleEngineDown : LocEngData × List AppCallback :=
  e.niResetOnEngineRestart.reportStatus .engineOff

/-- The start message that `loc_eng_handle_engine_up` posts is one of the later messages. -/
def handleEngineUp : LocEngData :=
  if e.adapter.isInSession then { e with adapter := e.adapter.setInSession false } else e

/-- `proc` of the messages. -/
def proc (e : LocEngData) : LocMsg → LocEngData × List AppCallback
  | .requestNi emergency notifyFlags payload => e.niRequestHandler emergency notifyFlags payload
  | .reportStatus status =>
    let r := e.reportStatus status
    (r.1.updateAidingDataForDeletion, r.2)
  | .reportPosition r => e.reportPosition r
  | .reportSv sentences => (e, e.reportSv sentences)
  | .reportNmea => (e, e.reportNmea)
  | .reportGpsMeasurement => (e, e.reportGpsMeasurement)
  | .startFix ret => ({ e with adapter := (e.adapter.startHandler ret).1 }, [])
  | .stopFix => ({ e with adapter := e.adapter.stopHandler.1 }, [])
  | .positionMode posMode => ({ e with adapter := (e.adapter.setPositionMode posMode).1 }, [])
  | .engineDown => e.handleEngineDown
  | .engineUp => (e.handleEngineUp, [])
  | .niDone emergency =>
    (if emergency then { e with sessionEs := false } else { e with session := false }, [])

end LocEngData

end KiwiDevice.Gps

import KiwiDevice.Hal.StateMachine
import Mathlib.Logic.Function.Basic

/-!
# The channels of the hardware interface

`QCamera2HWI.cpp`. The table `m_channels` and the modes of the parameters are what the events of the
state machine work on; together they are a `Parent`. What the camera, the daemon and the application
answer while one event is processed is `HalAnswers`.
-/

namespace KiwiDevice.Hal

/-- `mPictureFormat`; the formats past these are raw. -/
inductive PictureFormat where
  | jpeg | nv16 | nv21 | raw (format : Nat)
  deriving DecidableEq, Repr

/-- The keys of a `setParameters` that set the modes. A text that no map knows is `some none`. -/
structure ModeRequest where
  pictureFormat : Option PictureFormat := some .jpeg
  zsl : Option (Option Bool) := none
  recordingHint : Option (Option Bool) := none
  deriving DecidableEq, Repr

/-- Where a batch of parameters is committed. -/
inductive CommitSite where
  | params | recordingHint | thermal | longshotOn | longshotOff | faceDetection | histogram
  | fpsOfSnapshot | advancedCapture | endOfAdvancedCapture | fpsAfterSnapshot | other
  deriving DecidableEq, Repr

/-- What comes from the outside while an event is processed. A status belongs to each call that the
camera or the daemon answers; the parameters that are no modes count as answers too. -/
structure HalAnswers where
  addChannel : ChType → Int := fun _ => 0
  config : ChType → Int := fun _ => 0
  start : ChType → Int := fun _ => 0
  stop : ChType → Int := fun _ => 0
  commit : CommitSite → Int := fun _ => 0
  request : ModeRequest := {}
  initBatchUpdate : Bool := true
  addZslEntry : Int := 0
  addHintEntry : Int := 0
  otherParameters : Int := 0
  otherNeedRestart : Bool := false
  plain : Int := 0
  prepareSnapshot : Int := 0
  postprocessorStart : Int := 0
  isAdvancedCapture : Bool := false
  isBracketedCapture : Bool := false
  startAdvancedCapture : Int := 0
  picChannelTakePicture : Int := 0
  isPostviewQueued : Bool := true
  is4k2kResolution : Bool := false
  isFaceDetectionEnabled : Bool := false
  isHistogramEnabled : Bool := false
  hasFewSnapshotBuffers : Bool := false
  pthreadCreate : Int := 0
  liveSnapshotStart : Int := 0
  earlyRestart : Bool := false
  isShutterPlayed : Bool := false
  enabled : Int := 0
  value : Int := 0

/-- The modes in `QCameraParameters`, each with the value that the next commit gives it, and the map
of the keys, where the recording hint waits in `m_tempMap`. -/
structure Modes where
  zslMode : Bool := false
  zslModeNew : Bool := false
  recordingHint : Bool := false
  recordingHintNew : Bool := false
  zslKey : Bool := false
  hintKey : Option Bool := none
  hintTemp : Option Bool := none
  pictureFormat : PictureFormat := .jpeg
  deriving DecidableEq, Repr

namespace Modes

/-- `commitParamChanges`. -/
def commitParamChanges (m : Modes) : Modes :=
  { m with
    hintKey := m.hintTemp.or m.hintKey
    hintTemp := none
    recordingHint := m.recordingHintNew
    zslMode := m.zslModeNew }

/-- `commitSetBatch`, with what comes before it at the place where it is called. -/
def commitSetBatch (r : HalAnswers) (site : CommitSite) (m : Modes) : Modes :=
  if r.commit site = noError then m.commitParamChanges else m

def setPictureFormat (r : HalAnswers) (m : Modes) : Modes × Int :=
  match r.request.pictureFormat with
  | some format => ({ m with pictureFormat := format }, noError)
  | none => (m, badValue)

/-- The flag is `m_bNeedRestart`. -/
def setZslMode (r : HalAnswers) (m : Modes) : Modes × Int × Bool :=
  match r.request.zsl with
  | none => (m, noError, false)
  | some none => (m, badValue, false)
  | some (some value) =>
    if value = m.zslKey then (m, noError, false)
    else ({ m with zslKey := value, zslModeNew := value }, r.addZslEntry, true)

def setRecordingHintValue (value : Bool) (m : Modes) : Modes × Bool :=
  if m.recordingHint = value then ({ m with recordingHintNew := m.recordingHint }, false)
  else ({ m with recordingHintNew := value }, true)

/-- The status of `setRecordingHintValue` is dropped. -/
def setRecordingHint (r : HalAnswers) (m : Modes) : Modes × Int × Bool :=
  match r.request.recordingHint with
  | none => (m, noError, false)
  | some none => (m, badValue, false)
  | some (some value) =>
    if m.hintKey = some value then (m, noError, false)
    else
      let set := { m with hintTemp := some value }.setRecordingHintValue value
      (set.1, noError, set.2)

/-- `final_rc` is the last status that was no success. -/
def finalRc (statuses : List Int) : Int :=
  statuses.foldl (fun rc status => if status = noError then rc else status) noError

/-- When the batch cannot be initialised, nothing is set and `final_rc` is still a success. -/
def updateParameters (r : HalAnswers) (m : Modes) : Modes × Int × Bool :=
  if r.initBatchUpdate then
    let format := m.setPictureFormat r
    let zsl := format.1.setZslMode r
    let hint := zsl.1.setRecordingHint r
    (hint.1, finalRc [format.2, zsl.2.1, hint.2.1, r.otherParameters],
      zsl.2.2 || hint.2.2 || r.otherNeedRestart)
  else (m, noError, false)

def updateRecordingHintValue (value : Bool) (r : HalAnswers) (m : Modes) : Modes :=
  if r.initBatchUpdate then
    let set := (m.setRecordingHintValue value).1
    if r.addHintEntry = noError then set.commitSetBatch r .recordingHint else set
  else m

/-- `isJpegPictureFormat`, `isNV16PictureFormat` or `isNV21PictureFormat`. -/
def takesCapture (m : Modes) : Bool :=
  match m.pictureFormat with
  | .raw _ => false
  | _ => true

end Modes

/-- A channel object: `m_bIsActive`, and whether `deleteChannel` has taken it from the camera. -/
structure ChannelObject where
  active : Bool := false
  deleted : Bool := false
  deriving DecidableEq, Repr

/-- `QCamera2HardwareInterface`, as far as its channels depend on it. `liveSnapshot` is the status
with which the thread of a live snapshot will start its channel, as long as that thread runs;
`outside` has the answers for the event that is processed. -/
structure HardwareInterface where
  channels : ChType → Option ChannelObject := fun _ => none
  modes : Modes := {}
  mLongshotEnabled : Bool := false
  mPreviewWindow : Bool := false
  m_bPreviewStarted : Bool := false
  liveSnapshot : Option Int := none
  outside : HalAnswers := {}

namespace HardwareInterface

def unknownError : Int := -2147483648
def noInit : Int := -19

variable (r : HalAnswers) (s : HardwareInterface)

def setChannel (ch : ChType) (c : Option ChannelObject) : HardwareInterface :=
  { s with channels := Function.update s.channels ch c }

def commit (site : CommitSite) : HardwareInterface :=
  { s with modes := s.modes.commitSetBatch r site }

/-- `isZSLMode() && getRecordingHintValue() != true`. -/
def previewsZsl : Bool := s.modes.zslMode && !s.modes.recordingHint

/-- The channel is deleted and made again; `addZSLChannel` deletes that of the preview too. -/
def addChannel (ch : ChType) : HardwareInterface × Int :=
  let s := if ch = .zsl then s.setChannel .preview none else s
  if r.addChannel ch = noError then (s.setChannel ch (some {}), noError)
  else (s.setChannel ch none, r.addChannel ch)

def delChannel (ch : ChType) (destroy : Bool) : HardwareInterface :=
  match s.channels ch with
  | none => s
  | some _ => s.setChannel ch (if destroy then none else some { active := false, deleted := true })

/-- `QCameraChannel::start`. -/
def startChannelObject (ch : ChType) (c : ChannelObject) (status : Int) : HardwareInterface × Int :=
  (if status = noError then s.setChannel ch (some { c with active := true }) else s, status)

def startChannel (ch : ChType) : HardwareInterface × Int :=
  match s.channels ch with
  | none => (s, unknownError)
  | some c =>
    if r.config ch = noError then s.startChannelObject ch c (r.start ch) else (s, r.config ch)

def stopChannel (ch : ChType) : HardwareInterface × Int :=
  match s.channels ch with
  | none => (s, unknownError)
  | some c => (s.setChannel ch (some { c with active := false }), s.outside.stop ch)

def unpreparePreview : HardwareInterface :=
  (((s.delChannel .zsl true).delChannel .preview true).delChannel .video true).delChannel
    .snapshot true

def stopPreview : HardwareInterface × Int :=
  (unpreparePreview ((s.stopChannel .zsl).1.stopChannel .preview).1, noError)

/-- The thermal level is updated first, which commits the parameters. -/
def startPreview : HardwareInterface × Int :=
  let s := s.commit r .thermal
  if s.previewsZsl then s.startChannel r .zsl else s.startChannel r .preview

/-- Nothing but the modes of the parameters selects what is cancelled. -/
def cancelPicture : HardwareInterface × Int :=
  let s := s.commit s.outside .endOfAdvancedCapture
  if s.modes.zslMode then (s.commit s.outside .fpsAfterSnapshot, noError)
  else if s.modes.takesCapture then
    ((s.stopChannel .capture).1.delChannel .capture true, noError)
  else ((s.stopChannel .raw).1.delChannel .raw true, noError)

/-- `m_stateMachine.isCaptureRunning()`. -/
def isCaptureRunning : SmState → Bool
  | .picTaking | .videoPicTaking | .previewPicTaking => true
  | _ => false

/-- `m_stateMachine.isPreviewRunning()`. -/
def isPreviewRunning : SmState → Bool
  | .previewing | .recording | .videoPicTaking | .previewPicTaking | .prepareSnapshot
  | .previewReady => true
  | _ => false

def longshotOn (state : SmState) : HardwareInterface × Int × Bool :=
  if isCaptureRunning state then (s, noInit, false)
  else
    let restart := s.modes.zslMode && isPreviewRunning state && (s.channels .zsl).isSome &&
      r.hasFewSnapshotBuffers
    ({ s with mLongshotEnabled := true }.commit r .longshotOn, r.commit .longshotOn, restart)

/-- `QCAMERA_SM_EVT_SNAPSHOT_DONE` is queued as well, when a picture is cancelled. -/
def longshotOff (state : SmState) : HardwareInterface × Int :=
  let s := if s.mLongshotEnabled && isCaptureRunning state then s.cancelPicture.1 else s
  ({ s with mLongshotEnabled := false }.commit r .longshotOff, r.commit .longshotOff)

def sendCommand (state : SmState) (cmd : CameraCmd) : HardwareInterface × Int × Bool :=
  match cmd with
  | .longshotOn => s.longshotOn r state
  | .longshotOff =>
    let off := s.longshotOff r state
    (off.1, off.2, false)
  | .other _ => (s.commit r .other, r.commit .other, false)

/-- What was turned on in camera mode is turned off for recording. -/
def leaveCameraMode (state : SmState) : HardwareInterface :=
  let s := if s.mLongshotEnabled then (s.longshotOff r state).1 else s
  let s := if r.isFaceDetectionEnabled then s.commit r .faceDetection else s
  if r.isHistogramEnabled then s.commit r .histogram else s

/-- The channels of a recording. -/
def addRecordingChannels : HardwareInterface × Int :=
  let snapshot := if r.is4k2kResolution then (s, noError) else s.addChannel r .snapshot
  if snapshot.2 = noError then
    let video := snapshot.1.addChannel r .video
    if video.2 = noError then video else (video.1.delChannel .snapshot true, video.2)
  else snapshot

def preparePreview (state : SmState) : HardwareInterface × Int :=
  if s.previewsZsl then s.addChannel r .zsl
  else if s.modes.recordingHint then
    let recording := (s.leaveCameraMode r state).addRecordingChannels r
    if recording.2 = noError then
      let preview := recording.1.addChannel r .preview
      if preview.2 = noError then preview
      else ((preview.1.delChannel .snapshot true).delChannel .video true, preview.2)
    else recording
  else s.addChannel r .preview

def startRecording (state : SmState) : HardwareInterface × Int :=
  let prepared :=
    if s.modes.recordingHint then (s, noError)
    else
      let s := s.stopPreview.1
      let prepared :=
        { s with modes := s.modes.updateRecordingHintValue true r }.preparePreview r state
      if prepared.2 = noError then prepared.1.startChannel r .preview else prepared
  if prepared.2 = noError then prepared.1.startChannel r .video else prepared

def stopRecording : HardwareInterface × Int := s.stopChannel .video

def longShot : HardwareInterface × Int :=
  match s.channels (if s.modes.zslMode then .zsl else .capture) with
  | none => (s, noInit)
  | some _ => (s, r.picChannelTakePicture)

/-- The picture is taken from the channel that the preview runs on. -/
def takeZslPicture : HardwareInterface × Int :=
  let s := s.commit r .fpsOfSnapshot
  match s.channels .zsl with
  | none => (s, unknownError)
  | some _ =>
    (s, if r.postprocessorStart = noError then
        if r.isAdvancedCapture && r.startAdvancedCapture ≠ noError then r.startAdvancedCapture
        else r.picChannelTakePicture
      else r.postprocessorStart)

/-- The preview makes room. -/
def dropPreview : HardwareInterface := (s.stopChannel .preview).1.delChannel .preview true

/-- The channel of the capture, and whether it can be started. Without longshot it is added before
the preview is gone. -/
def addCapture : HardwareInterface × Int :=
  if s.mLongshotEnabled then s.dropPreview.addChannel r .capture
  else
    let added := s.addChannel r .capture
    (added.1.dropPreview,
      if added.2 = noError then if r.isPostviewQueued then noError else unknownError
      else added.2)

def startCapture : HardwareInterface × Int :=
  let started := s.startChannel r .capture
  if started.2 = noError then
    if r.isBracketedCapture && r.startAdvancedCapture ≠ noError then
      (started.1, r.startAdvancedCapture)
    else if started.1.mLongshotEnabled then
      let taken := started.1.longShot r
      if taken.2 = noError then taken else (taken.1.delChannel .capture true, taken.2)
    else started
  else (started.1.delChannel .capture true, started.2)

def takeRawPicture : HardwareInterface × Int :=
  let added := s.dropPreview.addChannel r .raw
  if added.2 = noError then
    if r.postprocessorStart = noError then
      let started := added.1.startChannel r .raw
      if started.2 = noError then started else (started.1.delChannel .raw true, started.2)
    else (added.1.delChannel .raw true, r.postprocessorStart)
  else added

def takePicture : HardwareInterface × Int :=
  let s := if r.isAdvancedCapture then s.commit r .advancedCapture else s
  if s.modes.zslMode then s.takeZslPicture r
  else if s.modes.takesCapture then
    let added := s.addCapture r
    if added.2 = noError then added.1.startCapture r else added
  else s.takeRawPicture r

def stopCaptureChannel (destroy : Bool) : HardwareInterface × Int :=
  (if s.modes.takesCapture then
    let s := (s.stopChannel .capture).1
    if destroy then s.delChannel .capture false else s
  else s, noError)

/-- `takeLiveSnapshot`: the rest is up to the thread. -/
def takeLiveSnapshot : HardwareInterface × Int :=
  (if r.pthreadCreate = noError then { s with liveSnapshot := some r.liveSnapshotStart } else s,
    r.pthreadCreate)

/-- `takeLiveSnapshot_internal`, on its thread; `liveSnapshot` has the status of the postprocessor
or, when that was started, that of the channel. -/
def takeLiveSnapshotInternal : HardwareInterface :=
  match s.liveSnapshot with
  | none => s
  | some status =>
    let s := { s with liveSnapshot := none }
    match s.channels .snapshot with
    | none => s
    | some c => (s.startChannelObject .snapshot c status).1

/-- The thread is joined, so that its channel is stopped after it. -/
def cancelLiveSnapshot : HardwareInterface × Int := s.takeLiveSnapshotInternal.stopChannel .snapshot

def release : HardwareInterface × Int := ({ s with channels := fun _ => none }, noError)

def updateParameters : HardwareInterface × Int × Bool :=
  let updated := s.modes.updateParameters r
  ({ s with modes := updated.1 }, updated.2)

/-- Any other operation may commit the parameters, and leaves the channels. -/
def plain (op : PlainOp) (p : SmPayload) : HardwareInterface × Int :=
  match op with
  | .setPreviewWindow => ({ s with mPreviewWindow := p.window }, noError)
  | .commitParameterChanges => (s.commit r .params, r.commit .params)
  | .release => s.release
  | .updateThermalLevel => (s.commit r .thermal, r.commit .thermal)
  | .putParameters => (s, noError)
  | _ => (s.commit r .other, r.plain)

/-- The operations of the interface, as the state machine calls them. -/
def parent : Parent HardwareInterface HalAnswers where
  plain op p r s := s.plain r op p
  msgTypeEnabled _ s := s.outside.enabled
  getParameters r s := (s, r.value)
  registerFaceImage _ r s := (s, r.plain, r.value)
  updateParameters _ r s := s.updateParameters r
  clearMemoryPool s := s
  previewWindow s := s.mPreviewWindow
  preparePreview state r s := s.preparePreview r state
  unpreparePreview s := s.unpreparePreview
  startPreview r s := s.startPreview r
  stopPreview s := s.stopPreview
  startRecording state r s := s.startRecording r state
  stopRecording s := s.stopRecording
  prepareHardwareForSnapshot r s := (s, r.prepareSnapshot)
  takePicture r s := s.takePicture r
  takeLiveSnapshot r s := s.takeLiveSnapshot r
  cancelPicture s := s.cancelPicture
  cancelLiveSnapshot s := s.cancelLiveSnapshot
  longShot r s := s.longShot r
  sendCommand state cmd r s := s.sendCommand r state cmd
  stopChannel ch s := (s.stopChannel ch).1
  stopCaptureChannel destroy s := s.stopCaptureChannel destroy
  isZSLMode s := s.modes.zslMode
  isLongshotEnabled s := s.mLongshotEnabled
  recordingHint s := s.modes.recordingHint
  updateRecordingHintValue value r s :=
    { s with modes := s.modes.updateRecordingHintValue value r }
  isPreviewRestartEnabled r := r.earlyRestart
  isShutterPlayed r := r.isShutterPlayed
  setPreviewStarted s := { s with m_bPreviewStarted := true }

end HardwareInterface

/-- The interface together with the state of its state machine. -/
structure HalSystem where
  hal : HardwareInterface
  state : SmState

/-- An event that the state machine processes, or the thread of a live snapshot. -/
inductive HalInput where
  | event (evt : SmEvt) (p : SmPayload) (r : HalAnswers)
  | liveSnapshot

namespace HalSystem

def step (w : HalSystem) : HalInput → HalSystem
  | .event evt p r =>
    let done := HardwareInterface.parent.stateMachine r p { w.hal with outside := r } w.state evt
    ⟨done.hal, done.state⟩
  | .liveSnapshot => { w with hal := w.hal.takeLiveSnapshotInternal }

/-- After `openCamera`. -/
def start (modes : Modes) : HalSystem := ⟨{ modes := modes }, .previewStopped⟩

def run (w : HalSystem) (inputs : List HalInput) : HalSystem := inputs.foldl step w

end HalSystem

end KiwiDevice.Hal

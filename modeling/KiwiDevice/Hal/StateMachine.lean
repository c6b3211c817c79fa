import Mathlib.Data.Bool.Basic

/-!
# The state machine of the camera HAL

`QCameraStateMachine.cpp`. What it asks of `m_parent`, the hardware interface, is a parameter: an
operation acts on a state `σ` and gives the status that it returns, and `ρ` has what the outside
answers while one event is processed. The only things that reach the outside from here are the new
state and the result that is signalled.
-/

namespace KiwiDevice.Hal

/-- `qcamera_sm_evt_enum_t`. -/
inductive SmEvt where
  | setPreviewWindow | setCallbacks | enableMsgType | disableMsgType | msgTypeEnabled
  | setParams | getParams | putParams
  | startPreview | startNodisplayPreview | stopPreview | previewEnabled
  | storeMetadataInBufs | startRecording | stopRecording | recordingEnabled | releaseRecordingFrame
  | prepareSnapshot | takePicture | cancelPicture
  | startAutoFocus | stopAutoFocus | sendCommand
  | release | dump | regFaceImage
  | evtInternal | evtNotify | jpegEvtNotify | snapshotDone | thermalNotify
  | stopCaptureChannel | restartPreview
  deriving DecidableEq, Repr

/-- `qcamera_internal_evt_type_t`. -/
inductive InternalEvt where
  | focusUpdate | prepSnapshotDone | faceDetectResult | histogramStats | cropInfo | asdUpdate
  | awbUpdate | aeUpdate | focusPosUpdate | resetFrameId
  deriving DecidableEq, Repr

/-- The server events that are told apart. -/
inductive ServerEvt where
  | daemonDied | reprocessStageDone | other
  deriving DecidableEq, Repr

/-- The commands that the state machine and `sendCommand` tell apart. -/
inductive CameraCmd where
  | longshotOn | longshotOff | other (cmd : Int)
  deriving DecidableEq, Repr

/-- `evt_payload`, as far as it is read here; each event reads its own part. -/
structure SmPayload where
  cmd : CameraCmd := .other 0
  internal : InternalEvt := .focusUpdate
  server : ServerEvt := .other
  window : Bool := false
  deriving DecidableEq, Repr

/-- `qcamera_state_enum_t`. -/
inductive SmState where
  | previewStopped | previewReady | previewing | prepareSnapshot | picTaking | recording
  | videoPicTaking | previewPicTaking
  deriving DecidableEq, Repr

/-- `qcamera_ch_type_enum_t`. -/
inductive ChType where
  | zsl | capture | preview | video | snapshot | raw | metadata
  deriving DecidableEq, Repr

/-- `qcamera_api_result_type_t`. -/
inductive ResultType where
  | default | enableFlag | params | handle
  deriving DecidableEq, Repr

/-- `qcamera_api_result_t`; `value` is its union. -/
structure ApiResult where
  status : Int
  requestApi : SmEvt
  resultType : ResultType := .default
  value : Int := 0
  deriving DecidableEq, Repr

/-- `signalAPIResult` or `signalEvtResult`. -/
inductive Signal where
  | api (result : ApiResult)
  | evt (result : ApiResult)
  deriving DecidableEq, Repr

def noError : Int := 0
def invalidOperation : Int := -38
def badValue : Int := -22

/-- The operations of `m_parent` whose status is handed on or dropped, and nothing else. -/
inductive PlainOp where
  | setPreviewWindow | setCallBacks | enableMsgType | disableMsgType | commitParameterChanges
  | putParameters | release | storeMetaDataInBuffers | dump | autoFocus | cancelAutoFocus
  | updateThermalLevel | releaseRecordingFrame | closeNativeHandle
  | processAutoFocusEvent | processFaceDetectionResult | processHistogramStats | processZoomEvent
  | processASDUpdate | processAWBUpdate | processAEInfo | processFocusPositionInfo
  | processFrameIDReset | processPrepSnapshotDoneEvent | processJpegNotify
  | sendEvtNotify | setMultipleStages | playShutter
  deriving DecidableEq, Repr

/-- `QCamera2HardwareInterface`, as the state machine uses it. The operations that look at the state
of the state machine are given it. -/
structure Parent (σ ρ : Type) where
  plain : PlainOp → SmPayload → ρ → σ → σ × Int
  msgTypeEnabled : SmPayload → σ → Int
  getParameters : ρ → σ → σ × Int
  registerFaceImage : SmPayload → ρ → σ → σ × Int × Int
  updateParameters : SmPayload → ρ → σ → σ × Int × Bool
  clearMemoryPool : σ → σ
  previewWindow : σ → Bool
  preparePreview : SmState → ρ → σ → σ × Int
  unpreparePreview : σ → σ
  startPreview : ρ → σ → σ × Int
  stopPreview : σ → σ × Int
  startRecording : SmState → ρ → σ → σ × Int
  stopRecording : σ → σ × Int
  prepareHardwareForSnapshot : ρ → σ → σ × Int
  takePicture : ρ → σ → σ × Int
  takeLiveSnapshot : ρ → σ → σ × Int
  cancelPicture : σ → σ × Int
  cancelLiveSnapshot : σ → σ × Int
  longShot : ρ → σ → σ × Int
  /-- Whether `arg1` comes back as `QCAMERA_SM_EVT_RESTART_PERVIEW` is part of the answer. -/
  sendCommand : SmState → CameraCmd → ρ → σ → σ × Int × Bool
  stopChannel : ChType → σ → σ
  stopCaptureChannel : Bool → σ → σ × Int
  isZSLMode : σ → Bool
  isLongshotEnabled : σ → Bool
  recordingHint : σ → Bool
  updateRecordingHintValue : Bool → ρ → σ → σ
  isPreviewRestartEnabled : ρ → Bool
  isShutterPlayed : ρ → Bool
  setPreviewStarted : σ → σ

/-- What processing an event leaves behind. -/
structure Processed (σ : Type) where
  hal : σ
  state : SmState
  signal : Option Signal := none

/-- A result of the default type. -/
def reply {σ : Type} (state : SmState) (evt : SmEvt) (done : σ × Int) : Processed σ :=
  ⟨done.1, state, some (.api { status := done.2, requestApi := evt })⟩

def replyEnabled {σ : Type} (state : SmState) (evt : SmEvt) (s : σ) (enabled : Int) : Processed σ :=
  ⟨s, state, some (.api ⟨noError, evt, .enableFlag, enabled⟩)⟩

/-- "No ops, but need to notify". -/
def notifyEvt {σ : Type} (state : SmState) (evt : SmEvt) (done : σ × Int) : Processed σ :=
  ⟨done.1, state, some (.evt { status := done.2, requestApi := evt })⟩

namespace Parent

variable {σ ρ : Type} (h : Parent σ ρ) (r : ρ) (p : SmPayload) (s : σ)

/-- `preparePreview` and `startPreview`, with what the one has prepared taken back when the other
fails. -/
def prepareAndStart (state : SmState) : σ × Int :=
  let prepared := h.preparePreview state r s
  if prepared.2 = noError then
    let started := h.startPreview r prepared.1
    if started.2 = noError then started else (h.unpreparePreview started.1, started.2)
  else prepared

/-- The handling of an event that only calls one operation. -/
def call (state : SmState) (evt : SmEvt) (op : PlainOp) : Processed σ :=
  reply state evt (h.plain op p r s)

/-- Nobody is told the status. -/
def tell (state : SmState) (op : PlainOp) : Processed σ := ⟨(h.plain op p r s).1, state, none⟩

def askMsgTypeEnabled (state : SmState) (evt : SmEvt) : Processed σ :=
  replyEnabled state evt s (h.msgTypeEnabled p s)

def askParams (state : SmState) (evt : SmEvt) : Processed σ :=
  let params := h.getParameters r s
  ⟨params.1, state, some (.api ⟨noError, evt, .params, params.2⟩)⟩

def askFaceImage (state : SmState) (evt : SmEvt) : Processed σ :=
  let registered := h.registerFaceImage p r s
  ⟨registered.1, state, some (.api ⟨registered.2.1, evt, .handle, registered.2.2⟩)⟩

/-- The parameters are set and committed, if they need no restart. -/
def setParams (state : SmState) (evt : SmEvt) (restart : σ → SmState × σ × Int) : Processed σ :=
  let updated := h.updateParameters p r s
  let done :=
    if updated.2.1 = noError then
      if updated.2.2 then restart updated.1
      else (state, h.plain .commitParameterChanges p r updated.1)
    else (state, updated.1, updated.2.1)
  reply done.1 evt done.2

/-- The preview is stopped, the parameters are committed, and the preview is started again. -/
def restartPreview (state : SmState) (s : σ) : σ × Int :=
  let stopped := h.clearMemoryPool (h.stopPreview s).1
  h.prepareAndStart r (h.plain .commitParameterChanges p r stopped).1 state

/-- The internal events that are handled alike in most states; `faces` tells whether the results of
the face detection and the histogram are processed, `reset` whether a new frame id is. -/
def procInternal (state : SmState) (faces reset : Bool) : Processed σ :=
  match p.internal with
  | .focusUpdate => h.tell r p s state .processAutoFocusEvent
  | .prepSnapshotDone => ⟨s, state, none⟩
  | .faceDetectResult =>
    if faces then h.tell r p s state .processFaceDetectionResult else ⟨s, state, none⟩
  | .histogramStats =>
    if faces then h.tell r p s state .processHistogramStats else ⟨s, state, none⟩
  | .cropInfo => h.tell r p s state .processZoomEvent
  | .asdUpdate => h.tell r p s state .processASDUpdate
  | .awbUpdate => h.tell r p s state .processAWBUpdate
  | .aeUpdate => h.tell r p s state .processAEInfo
  | .focusPosUpdate => h.tell r p s state .processFocusPositionInfo
  | .resetFrameId =>
    if reset then h.tell r p s state .processFrameIDReset else ⟨s, state, none⟩

/-- The handling of a server event in the states that only look out for the death of the daemon. -/
def procServerEvt (state : SmState) : Processed σ :=
  match p.server with
  | .daemonDied => h.tell r p s state .sendEvtNotify
  | _ => ⟨s, state, none⟩

/-- The handling in a capture, where longshot has a shutter to play between the stages. -/
def procCaptureEvt (state : SmState) (shutter : Bool) : Processed σ :=
  match p.server with
  | .reprocessStageDone =>
    if h.isLongshotEnabled s then
      let staged := (h.plain .setMultipleStages p r s).1
      ⟨if shutter then (h.plain .playShutter p r staged).1 else staged, state, none⟩
    else ⟨s, state, none⟩
  | .daemonDied => h.tell r p s state .sendEvtNotify
  | .other => ⟨s, state, none⟩

def procEvtPreviewStoppedState (evt : SmEvt) : Processed σ :=
  match evt with
  | .setPreviewWindow => h.call r p s .previewStopped evt .setPreviewWindow
  | .setCallbacks => h.call r p s .previewStopped evt .setCallBacks
  | .enableMsgType => h.call r p s .previewStopped evt .enableMsgType
  | .disableMsgType => h.call r p s .previewStopped evt .disableMsgType
  | .msgTypeEnabled => h.askMsgTypeEnabled p s .previewStopped evt
  | .setParams =>
    let updated := h.updateParameters p r s
    let s := if updated.2.2 then h.clearMemoryPool updated.1 else updated.1
    reply .previewStopped evt
      (if updated.2.1 = noError then h.plain .commitParameterChanges p r s else (s, updated.2.1))
  | .getParams => h.askParams r s .previewStopped evt
  | .putParams => h.call r p s .previewStopped evt .putParameters
  | .startPreview =>
    if h.previewWindow s then
      let started := h.prepareAndStart r s .previewStopped
      reply (if started.2 = noError then .previewing else .previewStopped) evt started
    else
      let prepared := h.preparePreview .previewStopped r s
      reply (if prepared.2 = noError then .previewReady else .previewStopped) evt prepared
  | .startNodisplayPreview =>
    let started := h.prepareAndStart r s .previewStopped
    reply (if started.2 = noError then .previewing else .previewStopped) evt started
  | .stopPreview => reply .previewStopped evt (s, noError)
  | .previewEnabled | .recordingEnabled => replyEnabled .previewStopped evt s 0
  | .release => h.call r p s .previewStopped evt .release
  | .storeMetadataInBufs => h.call r p s .previewStopped evt .storeMetaDataInBuffers
  | .dump => h.call r p s .previewStopped evt .dump
  | .sendCommand =>
    let sent := h.sendCommand .previewStopped p.cmd r s
    reply .previewStopped evt (sent.1, sent.2.1)
  | .releaseRecordingFrame =>
    reply .previewStopped evt ((h.plain .closeNativeHandle p r s).1, invalidOperation)
  | .startRecording | .stopRecording | .prepareSnapshot | .takePicture =>
    reply .previewStopped evt (s, invalidOperation)
  | .startAutoFocus | .cancelPicture => reply .previewStopped evt (s, noError)
  | .stopAutoFocus => h.call r p s .previewStopped evt .cancelAutoFocus
  | .regFaceImage => h.askFaceImage r p s .previewStopped evt
  | .thermalNotify => h.call r p s .previewStopped evt .updateThermalLevel
  | .evtNotify => h.procServerEvt r p s .previewStopped
  | .snapshotDone => notifyEvt .previewStopped evt (s, noError)
  | .evtInternal | .jpegEvtNotify | .stopCaptureChannel | .restartPreview =>
    ⟨s, .previewStopped, none⟩

def procEvtPreviewReadyState (evt : SmEvt) : Processed σ :=
  match evt with
  | .setPreviewWindow =>
    let s := (h.plain .setPreviewWindow p r s).1
    if h.previewWindow s then
      let started := h.startPreview r s
      if started.2 = noError then reply .previewing evt started
      else reply .previewStopped evt (h.unpreparePreview started.1, started.2)
    else reply .previewReady evt (s, noError)
  | .setCallbacks => h.call r p s .previewReady evt .setCallBacks
  | .enableMsgType => h.call r p s .previewReady evt .enableMsgType
  | .disableMsgType => h.call r p s .previewReady evt .disableMsgType
  | .msgTypeEnabled => h.askMsgTypeEnabled p s .previewReady evt
  | .setParams => h.setParams r p s .previewReady evt fun s =>
      let cleared := h.clearMemoryPool (h.unpreparePreview s)
      let prepared := h.preparePreview .previewReady r (h.plain .commitParameterChanges p r cleared).1
      (if prepared.2 = noError then .previewReady else .previewStopped, prepared)
  | .getParams => h.askParams r s .previewReady evt
  | .putParams => h.call r p s .previewReady evt .putParameters
  | .startPreview => reply .previewReady evt (s, noError)
  | .stopPreview => reply .previewStopped evt (h.unpreparePreview s, noError)
  | .previewEnabled => replyEnabled .previewReady evt s 1
  | .recordingEnabled => replyEnabled .previewReady evt s 0
  | .storeMetadataInBufs => h.call r p s .previewReady evt .storeMetaDataInBuffers
  | .dump => h.call r p s .previewReady evt .dump
  | .startAutoFocus => h.call r p s .previewReady evt .autoFocus
  | .stopAutoFocus => h.call r p s .previewReady evt .cancelAutoFocus
  | .sendCommand =>
    let sent := h.sendCommand .previewReady p.cmd r s
    reply .previewReady evt (sent.1, sent.2.1)
  | .regFaceImage => h.askFaceImage r p s .previewReady evt
  | .releaseRecordingFrame =>
    reply .previewReady evt ((h.plain .closeNativeHandle p r s).1, invalidOperation)
  | .startNodisplayPreview | .startRecording | .stopRecording | .prepareSnapshot | .takePicture
  | .cancelPicture | .release => reply .previewReady evt (s, invalidOperation)
  | .evtNotify => h.procServerEvt r p s .previewReady
  | .snapshotDone => notifyEvt .previewReady evt (s, noError)
  | .thermalNotify => h.call r p s .previewReady evt .updateThermalLevel
  | .evtInternal | .jpegEvtNotify | .stopCaptureChannel | .restartPreview =>
    ⟨s, .previewReady, none⟩

def procEvtPreviewingState (evt : SmEvt) : Processed σ :=
  match evt with
  | .setPreviewWindow => reply .previewing evt (s, invalidOperation)
  | .setCallbacks => h.call r p s .previewing evt .setCallBacks
  | .enableMsgType => h.call r p s .previewing evt .enableMsgType
  | .disableMsgType => h.call r p s .previewing evt .disableMsgType
  | .msgTypeEnabled => h.askMsgTypeEnabled p s .previewing evt
  | .setParams => h.setParams r p s .previewing evt fun s =>
      let started := h.restartPreview r p .previewing s
      (if started.2 = noError then .previewing else .previewStopped, started)
  | .getParams => h.askParams r s .previewing evt
  | .putParams => h.call r p s .previewing evt .putParameters
  | .startPreview | .startNodisplayPreview => reply .previewing evt (s, noError)
  | .stopPreview => reply .previewStopped evt (h.stopPreview s)
  | .previewEnabled => replyEnabled .previewing evt s 1
  | .recordingEnabled => replyEnabled .previewing evt s 0
  | .storeMetadataInBufs => h.call r p s .previewing evt .storeMetaDataInBuffers
  | .dump => h.call r p s .previewing evt .dump
  | .startAutoFocus => h.call r p s .previewing evt .autoFocus
  | .stopAutoFocus => h.call r p s .previewing evt .cancelAutoFocus
  | .startRecording =>
    let started := h.startRecording .previewing r s
    reply (if started.2 = noError then .recording else .previewing) evt started
  | .prepareSnapshot =>
    -- the result is signalled when the snapshot is prepared
    let prepared := h.prepareHardwareForSnapshot r s
    if prepared.2 = noError then ⟨prepared.1, .prepareSnapshot, none⟩
    else reply .previewing evt prepared
  | .takePicture =>
    -- the status of the restart is lost to that of `takePicture`
    let s := if h.recordingHint s then
        (h.prepareAndStart r (h.updateRecordingHintValue false r (h.stopPreview s).1) .previewing).1
      else s
    let taken := h.takePicture r s
    if h.isZSLMode s || h.isLongshotEnabled s then
      reply (if taken.2 = noError then .previewPicTaking else .previewing) evt taken
    else reply (if taken.2 = noError then .picTaking else .previewStopped) evt taken
  | .sendCommand =>
    let sent := h.sendCommand .previewing p.cmd r s
    reply .previewing evt
      (if p.cmd = .longshotOn ∧ sent.2.2 = true then
        h.prepareAndStart r (h.clearMemoryPool (h.stopPreview sent.1).1) .previewing
      else (sent.1, sent.2.1))
  | .regFaceImage => h.askFaceImage r p s .previewing evt
  | .releaseRecordingFrame =>
    reply .previewing evt ((h.plain .closeNativeHandle p r s).1, invalidOperation)
  | .cancelPicture | .stopRecording | .release => reply .previewing evt (s, invalidOperation)
  | .evtInternal => h.procInternal r p s .previewing true false
  | .evtNotify => h.procServerEvt r p s .previewing
  | .thermalNotify => h.call r p s .previewing evt .updateThermalLevel
  | .snapshotDone => notifyEvt .previewing evt (s, noError)
  | .jpegEvtNotify | .stopCaptureChannel | .restartPreview => ⟨s, .previewing, none⟩

/-- Nothing handles `regFaceImage` here. -/
def procEvtPrepareSnapshotState (evt : SmEvt) : Processed σ :=
  match evt with
  | .setPreviewWindow | .setCallbacks | .enableMsgType | .disableMsgType | .msgTypeEnabled
  | .setParams | .getParams | .putParams | .startPreview | .startNodisplayPreview | .stopPreview
  | .previewEnabled | .recordingEnabled | .storeMetadataInBufs | .dump | .startAutoFocus
  | .stopAutoFocus | .startRecording | .takePicture | .prepareSnapshot | .sendCommand
  | .cancelPicture | .stopRecording | .releaseRecordingFrame | .release =>
    reply .prepareSnapshot evt (s, invalidOperation)
  | .evtInternal =>
    if p.internal = .prepSnapshotDone then
      reply .previewing .prepareSnapshot ((h.plain .processPrepSnapshotDoneEvent p r s).1, noError)
    else h.procInternal r p s .prepareSnapshot true false
  | .evtNotify => h.procServerEvt r p s .prepareSnapshot
  | .snapshotDone => notifyEvt .prepareSnapshot evt (s, noError)
  | .thermalNotify => h.call r p s .prepareSnapshot evt .updateThermalLevel
  | .regFaceImage | .jpegEvtNotify | .stopCaptureChannel | .restartPreview =>
    ⟨s, .prepareSnapshot, none⟩

def procEvtPicTakingState (evt : SmEvt) : Processed σ :=
  match evt with
  | .setPreviewWindow => reply .picTaking evt (s, invalidOperation)
  | .setCallbacks => h.call r p s .picTaking evt .setCallBacks
  | .enableMsgType => h.call r p s .picTaking evt .enableMsgType
  | .disableMsgType => h.call r p s .picTaking evt .disableMsgType
  | .msgTypeEnabled => h.askMsgTypeEnabled p s .picTaking evt
  | .setParams => h.setParams r p s .picTaking evt fun s =>
      (.picTaking, h.plain .commitParameterChanges p r s)
  | .getParams => h.askParams r s .picTaking evt
  | .putParams => h.call r p s .picTaking evt .putParameters
  | .stopPreview | .cancelPicture => reply .previewStopped evt (h.cancelPicture s)
  | .previewEnabled | .recordingEnabled => replyEnabled .picTaking evt s 0
  | .storeMetadataInBufs => h.call r p s .picTaking evt .storeMetaDataInBuffers
  | .dump => h.call r p s .picTaking evt .dump
  | .startAutoFocus => h.call r p s .picTaking evt .autoFocus
  | .stopAutoFocus => h.call r p s .picTaking evt .cancelAutoFocus
  | .sendCommand =>
    let sent := h.sendCommand .picTaking p.cmd r s
    reply (if p.cmd = .longshotOff then .previewing else .picTaking) evt (sent.1, sent.2.1)
  | .regFaceImage => h.askFaceImage r p s .picTaking evt
  | .takePicture =>
    reply .picTaking evt
      (if h.isLongshotEnabled s then h.longShot r s else (s, invalidOperation))
  | .prepareSnapshot | .startRecording | .stopRecording | .releaseRecordingFrame | .startPreview
  | .startNodisplayPreview | .release => reply .picTaking evt (s, invalidOperation)
  | .evtInternal => h.procInternal r p s .picTaking false false
  | .evtNotify => h.procCaptureEvt r p s .picTaking true
  | .jpegEvtNotify => h.tell r p s .picTaking .processJpegNotify
  | .stopCaptureChannel =>
    let restart := h.isPreviewRestartEnabled r
    let stopped := h.stopCaptureChannel restart s
    if restart = true ∧ stopped.2 = noError then
      let prepared := h.preparePreview .picTaking r stopped.1
      if prepared.2 = noError then
        ⟨(h.startPreview r (h.setPreviewStarted prepared.1)).1, .picTaking, none⟩
      else ⟨prepared.1, .picTaking, none⟩
    else ⟨stopped.1, .picTaking, none⟩
  | .snapshotDone =>
    notifyEvt (if h.isPreviewRestartEnabled r then .previewing else .previewStopped) evt
      (h.cancelPicture s)
  | .thermalNotify => h.call r p s .picTaking evt .updateThermalLevel
  | .restartPreview => ⟨s, .picTaking, none⟩

def procEvtRecordingState (evt : SmEvt) : Processed σ :=
  match evt with
  | .startPreview | .setPreviewWindow => reply .recording evt (s, noError)
  | .setCallbacks => h.call r p s .recording evt .setCallBacks
  | .enableMsgType => h.call r p s .recording evt .enableMsgType
  | .disableMsgType => h.call r p s .recording evt .disableMsgType
  | .msgTypeEnabled => h.askMsgTypeEnabled p s .recording evt
  | .setParams => h.setParams r p s .recording evt fun s => (.recording, s, badValue)
  | .getParams => h.askParams r s .recording evt
  | .putParams => h.call r p s .recording evt .putParameters
  | .previewEnabled => replyEnabled .recording evt s 0
  | .recordingEnabled => replyEnabled .recording evt s 1
  | .storeMetadataInBufs => h.call r p s .recording evt .storeMetaDataInBuffers
  | .dump => h.call r p s .recording evt .dump
  | .startAutoFocus => h.call r p s .recording evt .autoFocus
  | .stopAutoFocus => h.call r p s .recording evt .cancelAutoFocus
  | .sendCommand =>
    let sent := h.sendCommand .recording p.cmd r s
    reply .recording evt (sent.1, sent.2.1)
  | .takePicture =>
    let taken := h.takeLiveSnapshot r s
    reply (if taken.2 = noError then .videoPicTaking else .recording) evt taken
  | .startRecording => reply .recording evt (s, noError)
  | .stopRecording => reply .previewing evt (h.stopRecording s)
  | .stopPreview => reply .previewStopped evt (h.stopPreview (h.stopRecording s).1)
  | .releaseRecordingFrame => h.call r p s .recording evt .releaseRecordingFrame
  | .regFaceImage => h.askFaceImage r p s .recording evt
  | .prepareSnapshot => reply .recording evt (s, noError)
  | .cancelPicture | .startNodisplayPreview | .release =>
    reply .recording evt (s, invalidOperation)
  | .evtInternal => h.procInternal r p s .recording true false
  | .evtNotify => h.procServerEvt r p s .recording
  | .thermalNotify => h.call r p s .recording evt .updateThermalLevel
  | .snapshotDone => notifyEvt .recording evt (s, noError)
  | .jpegEvtNotify | .stopCaptureChannel | .restartPreview => ⟨s, .recording, none⟩

def procEvtVideoPicTakingState (evt : SmEvt) : Processed σ :=
  match evt with
  | .setPreviewWindow => reply .videoPicTaking evt (s, invalidOperation)
  | .setCallbacks => h.call r p s .videoPicTaking evt .setCallBacks
  | .enableMsgType => h.call r p s .videoPicTaking evt .enableMsgType
  | .disableMsgType => h.call r p s .videoPicTaking evt .disableMsgType
  | .msgTypeEnabled => h.askMsgTypeEnabled p s .videoPicTaking evt
  | .setParams => h.setParams r p s .videoPicTaking evt fun s => (.videoPicTaking, s, badValue)
  | .getParams => h.askParams r s .videoPicTaking evt
  | .putParams => h.call r p s .videoPicTaking evt .putParameters
  | .previewEnabled | .recordingEnabled => replyEnabled .videoPicTaking evt s 1
  | .storeMetadataInBufs => h.call r p s .videoPicTaking evt .storeMetaDataInBuffers
  | .dump => h.call r p s .videoPicTaking evt .dump
  | .startAutoFocus => h.call r p s .videoPicTaking evt .autoFocus
  | .stopAutoFocus => h.call r p s .videoPicTaking evt .cancelAutoFocus
  | .sendCommand =>
    let sent := h.sendCommand .videoPicTaking p.cmd r s
    reply .videoPicTaking evt (sent.1, sent.2.1)
  | .stopRecording => reply .previewing evt (h.stopRecording (h.cancelLiveSnapshot s).1)
  | .releaseRecordingFrame => h.call r p s .videoPicTaking evt .releaseRecordingFrame
  | .cancelPicture => reply .recording evt (h.cancelLiveSnapshot s)
  | .regFaceImage => h.askFaceImage r p s .videoPicTaking evt
  | .stopPreview =>
    reply .previewStopped evt (h.stopPreview (h.stopRecording (h.cancelLiveSnapshot s).1).1)
  | .startRecording | .startPreview | .startNodisplayPreview | .prepareSnapshot | .takePicture
  | .release => reply .videoPicTaking evt (s, invalidOperation)
  | .evtInternal => h.procInternal r p s .videoPicTaking true false
  | .evtNotify => h.procServerEvt r p s .videoPicTaking
  | .jpegEvtNotify => h.tell r p s .videoPicTaking .processJpegNotify
  | .snapshotDone => notifyEvt .recording evt (h.cancelLiveSnapshot s)
  | .thermalNotify => h.call r p s .videoPicTaking evt .updateThermalLevel
  | .stopCaptureChannel | .restartPreview => ⟨s, .videoPicTaking, none⟩

/-- A picture is cancelled in the way in which it was taken. -/
def cancelAnyPicture : σ × Int :=
  if h.isZSLMode s || h.isLongshotEnabled s then h.cancelPicture s else h.cancelLiveSnapshot s

def procEvtPreviewPicTakingState (evt : SmEvt) : Processed σ :=
  match evt with
  | .setCallbacks => h.call r p s .previewPicTaking evt .setCallBacks
  | .enableMsgType => h.call r p s .previewPicTaking evt .enableMsgType
  | .disableMsgType => h.call r p s .previewPicTaking evt .disableMsgType
  | .msgTypeEnabled => h.askMsgTypeEnabled p s .previewPicTaking evt
  | .setParams => h.setParams r p s .previewPicTaking evt fun s =>
      let started := h.restartPreview r p .previewPicTaking s
      (if started.2 = noError then .previewPicTaking else .picTaking, started)
  | .getParams => h.askParams r s .previewPicTaking evt
  | .putParams => h.call r p s .previewPicTaking evt .putParameters
  | .previewEnabled => replyEnabled .previewPicTaking evt s 1
  | .recordingEnabled => replyEnabled .previewPicTaking evt s 0
  | .storeMetadataInBufs => h.call r p s .previewPicTaking evt .storeMetaDataInBuffers
  | .dump => h.call r p s .previewPicTaking evt .dump
  | .startAutoFocus => h.call r p s .previewPicTaking evt .autoFocus
  | .stopAutoFocus => h.call r p s .previewPicTaking evt .cancelAutoFocus
  | .sendCommand =>
    let sent := h.sendCommand .previewPicTaking p.cmd r s
    reply (if p.cmd = .longshotOff then .previewing else .previewPicTaking) evt (sent.1, sent.2.1)
  | .releaseRecordingFrame => h.call r p s .previewPicTaking evt .releaseRecordingFrame
  | .cancelPicture => reply .previewing evt (h.cancelAnyPicture s)
  | .stopPreview =>
    let cancelled := h.cancelAnyPicture s
    let stopped :=
      if h.isZSLMode s then h.stopChannel .zsl cancelled.1
      else if h.isLongshotEnabled s then cancelled.1
      else h.stopChannel .preview cancelled.1
    reply .previewStopped evt (h.unpreparePreview stopped, cancelled.2)
  | .startRecording =>
    if h.isZSLMode s || h.isLongshotEnabled s then
      reply .previewPicTaking evt (s, invalidOperation)
    else
      let started := h.startRecording .previewPicTaking r s
      reply (if started.2 = noError then .videoPicTaking else .previewPicTaking) evt started
  | .regFaceImage => h.askFaceImage r p s .previewPicTaking evt
  | .takePicture =>
    reply .previewPicTaking evt
      (if h.isLongshotEnabled s then h.longShot r s else (s, invalidOperation))
  | .prepareSnapshot | .stopRecording | .startPreview | .startNodisplayPreview
  | .setPreviewWindow | .release => reply .previewPicTaking evt (s, invalidOperation)
  | .evtInternal => h.procInternal r p s .previewPicTaking true true
  | .evtNotify => h.procCaptureEvt r p s .previewPicTaking (h.isShutterPlayed r)
  | .jpegEvtNotify => h.tell r p s .previewPicTaking .processJpegNotify
  | .snapshotDone => notifyEvt .previewing evt (h.cancelAnyPicture s)
  | .thermalNotify => h.call r p s .previewPicTaking evt .updateThermalLevel
  | .stopCaptureChannel | .restartPreview => ⟨s, .previewPicTaking, none⟩

def stateMachine (state : SmState) (evt : SmEvt) : Processed σ :=
  match state with
  | .previewStopped => h.procEvtPreviewStoppedState r p s evt
  | .previewReady => h.procEvtPreviewReadyState r p s evt
  | .previewing => h.procEvtPreviewingState r p s evt
  | .prepareSnapshot => h.procEvtPrepareSnapshotState r p s evt
  | .picTaking => h.procEvtPicTakingState r p s evt
  | .recording => h.procEvtRecordingState r p s evt
  | .videoPicTaking => h.procEvtVideoPicTakingState r p s evt
  | .previewPicTaking => h.procEvtPreviewPicTakingState r p s evt

end Parent

end KiwiDevice.Hal

import KiwiDevice.Lib.Steps

/-!
# JPEG jobs and their events

An initialised `QCameraPostProcessor` from the start of a JPEG job by `dataProcessRoutine` to the
event of the job, in `processJpegEvt` or in `dataSaveRoutine`. A queue is locked for one call, and
between the calls a thread uses only data of its own. Jobs and memories are numbers; a job and its
event are told from the others by the number of the job, which is not in the program.
-/

namespace KiwiDevice.Hal

inductive JpegJobStatus where
  | done
  | error
  deriving DecidableEq, Repr

/-- `qcamera_jpeg_data_t`. -/
structure JpegData where
  job : Nat
  jobId : Nat
  deriving DecidableEq, Repr

/-- `qcamera_jpeg_evt_payload_t`. `memHdl` is the memory that is found in the output buffer when it
is read as an `omx_jpeg_ouput_buf_t`, if there is a buffer and a memory. -/
structure JpegEvt where
  job : Nat
  jobId : Nat
  status : JpegJobStatus
  memHdl : Option Nat
  deriving DecidableEq, Repr

/-- The data thread: it has no job, it has put a job into `m_ongoingJpegQ`, or `start_job` has
accepted the job and its id is not stored. -/
inductive JpegEncoder where
  | idle
  | encoding (job : Nat)
  | started (job jobId : Nat)
  deriving DecidableEq, Repr

/-- What `m_parent` answers while an event is handled. -/
structure JpegParent where
  isLongshotEnabled : Bool
  inputPPSize : Nat
  mBIntEvtPending : Bool
  mDataCb : Bool
  compressedImageEnabled : Bool
  isUbiRefocus : Bool
  isMTFRefocus : Bool
  outputImageCount : Nat
  ufOutputCount : Nat
  mtfOutputCount : Nat
  deriving DecidableEq, Repr

/-- `mGetMemory`, whether there is memory for a payload and for the arguments of a notification, and
whether `notifyCallback` accepts it. -/
structure JpegResults where
  saveData : Bool
  getMemory : Option Nat
  dataArgm : Bool
  notifyCallback : Bool
  deriving DecidableEq, Repr

/-- `awaiting` are the started jobs whose event is to come, and `notified` the memories whose
release callback is to come; `isActive` belongs to the thread that saves. -/
structure JpegPostProc where
  mUseSaveProc : Bool
  mJpegMemOpt : Bool
  isActive : Bool
  ongoingJpegQ : List JpegData
  inputSaveQ : List JpegEvt
  encoder : JpegEncoder
  awaiting : List JpegData
  notified : List Nat
  jobs : Nat
  deriving DecidableEq, Repr

/-- `node` tells whether there is memory for the node of the queue. -/
inductive JpegInput where
  | nextJob (node : Bool)
  | startJob (jobId : Nat)
  | encodeFailed
  | rawImage
  | storeJobId
  | jpegEvt (evt : JpegEvt) (p : JpegParent) (r : JpegResults)
  | saveNext (r : JpegResults)
  | releaseCb (mem : Nat)

inductive JpegEvent where
  | started (job jobId : Nat)
  | flushed (job : Nat) (removed : List Nat)
  | freed (job : Nat)
  | taken (mem : Nat)
  | released (mem : Nat)
  | errorNotified
  | doNextJob
  deriving DecidableEq, Repr

/-- Not all images of a refocus set are there. -/
def JpegParent.refocusIncomplete (p : JpegParent) : Bool :=
  (p.isUbiRefocus && decide (p.outputImageCount < p.ufOutputCount)) ||
    (p.isMTFRefocus && decide (p.outputImageCount < p.mtfOutputCount))

namespace JpegPostProc

/-- `start`: nothing is queued. -/
def start (mUseSaveProc mJpegMemOpt isActive : Bool) : JpegPostProc where
  mUseSaveProc := mUseSaveProc
  mJpegMemOpt := mJpegMemOpt
  isActive := isActive
  ongoingJpegQ := []
  inputSaveQ := []
  encoder := .idle
  awaiting := []
  notified := []
  jobs := 0

def matchJobId (jobId : Nat) (job : JpegData) : Bool := job.jobId = jobId

def release (mem : Option Nat) : List JpegEvent := mem.toList.map .released

def take (mem : Option Nat) : List JpegEvent := mem.toList.map .taken

/-- `flushNodes` for an event. The memory in its output buffer is the HAL's from here on. -/
def flushJob (s : JpegPostProc) (evt : JpegEvt) : JpegPostProc × List JpegEvent :=
  let removed := (s.ongoingJpegQ.filter (matchJobId evt.jobId)).map JpegData.job
  ({ s with ongoingJpegQ := s.ongoingJpegQ.filter fun job => !matchJobId evt.jobId job },
    .flushed evt.job removed :: removed.map .freed ++
      if s.mJpegMemOpt then take evt.memHdl else [])

/-- The memory is with the notification until the release callback; a notification that is not
accepted releases it at once. -/
def sendDataNotify (s : JpegPostProc) (data : Option Nat) (r : JpegResults) :
    JpegPostProc × Bool × List JpegEvent :=
  if r.dataArgm then
    if r.notifyCallback then ({ s with notified := s.notified ++ data.toList }, true, [])
    else (s, false, release data)
  else (s, false, [])

/-- The end of `processJpegEvt` when it has a picture, with the label `end`. -/
def sendJpeg (s : JpegPostProc) (jpegMem : Option Nat) (r : JpegResults) :
    JpegPostProc × List JpegEvent :=
  let sent := s.sendDataNotify jpegMem r
  (sent.1, sent.2.2 ++ if sent.2.1 then [] else .errorNotified :: release jpegMem)

/-- `processJpegEvt` after the flush. -/
def deliverJpeg (s : JpegPostProc) (evt : JpegEvt) (p : JpegParent) (r : JpegResults) :
    JpegPostProc × List JpegEvent :=
  if !p.mBIntEvtPending && (!p.mDataCb || !p.compressedImageEnabled) then (s, [])
  else if evt.status = .error then (s, [.errorNotified])
  else if p.mBIntEvtPending then (s, [])
  -- whether `mJpegMemOpt` is set or not
  else if p.refocusIncomplete then (s, release evt.memHdl)
  else if s.mJpegMemOpt then s.sendJpeg evt.memHdl r
  else
    match r.getMemory with
    | none => (s, [.errorNotified])
    | some mem =>
      let sent := s.sendJpeg (some mem) r
      (sent.1, .taken mem :: sent.2)

def processJpegEvt (s : JpegPostProc) (evt : JpegEvt) (p : JpegParent) (r : JpegResults) :
    JpegPostProc × List JpegEvent :=
  if s.mUseSaveProc && p.isLongshotEnabled then
    if r.saveData then ({ s with inputSaveQ := s.inputSaveQ ++ [evt] }, [.doNextJob]) else (s, [])
  else
    let flushed := s.flushJob evt
    let delivered := flushed.1.deliverJpeg evt p r
    (delivered.1, flushed.2 ++ (if 0 < p.inputPPSize then [.doNextJob] else []) ++ delivered.2 ++
      [.doNextJob])

/-- The saving of the picture `evt` by `dataSaveRoutine`; nothing looks at what `sendDataNotify`
returns. -/
def saveJpeg (s : JpegPostProc) (evt : JpegEvt) (r : JpegResults) :
    JpegPostProc × List JpegEvent :=
  let flushed := s.flushJob evt
  if s.isActive then
    match r.getMemory with
    | none => flushed
    | some mem =>
      let sent := flushed.1.sendDataNotify (some mem) r
      (sent.1, flushed.2 ++ .taken mem :: sent.2.2)
  else flushed

/-- The started jobs whose event is not handled. -/
def unfinished (s : JpegPostProc) : List JpegData :=
  s.awaiting ++ s.inputSaveQ.map fun evt => ⟨evt.job, evt.jobId⟩

/-- `start_job` gives a job an id that is not 0 and that no unfinished job has, and each job that it
accepts has one event. -/
def step (s : JpegPostProc) : JpegInput → Option (JpegPostProc × List JpegEvent)
  | .nextJob node =>
    match s.encoder with
    | .idle =>
      some ({ s with
        ongoingJpegQ := if node then s.ongoingJpegQ ++ [⟨s.jobs, 0⟩] else s.ongoingJpegQ
        encoder := .encoding s.jobs
        jobs := s.jobs + 1 }, [])
    | _ => none
  | .startJob jobId =>
    match s.encoder with
    | .encoding job =>
      if jobId ≠ 0 ∧ jobId ∉ s.unfinished.map JpegData.jobId then
        some ({ s with
          encoder := .started job jobId
          awaiting := s.awaiting ++ [⟨job, jobId⟩] }, [.started job jobId])
      else none
    | _ => none
  | .encodeFailed =>
    match s.encoder with
    | .encoding job =>
      some ({ s with ongoingJpegQ := s.ongoingJpegQ.dropLast, encoder := .idle },
        [.freed job, .errorNotified])
    | _ => none
  | .rawImage =>
    match s.encoder with
    | .encoding _ => some ({ s with encoder := .idle }, [])
    | _ => none
  | .storeJobId =>
    match s.encoder with
    | .started job jobId =>
      some ({ s with
        ongoingJpegQ := s.ongoingJpegQ.map fun d => if d.job = job then { d with jobId } else d
        encoder := .idle }, [])
    | _ => none
  | .jpegEvt evt p r =>
    if ⟨evt.job, evt.jobId⟩ ∈ s.awaiting then
      some (({ s with awaiting := s.awaiting.erase ⟨evt.job, evt.jobId⟩ } :
        JpegPostProc).processJpegEvt evt p r)
    else none
  | .saveNext r =>
    match s.inputSaveQ with
    | [] => none
    | evt :: inputSaveQ => some (({ s with inputSaveQ } : JpegPostProc).saveJpeg evt r)
  | .releaseCb mem =>
    if mem ∈ s.notified then some ({ s with notified := s.notified.erase mem }, [.released mem])
    else none

def Next (s : JpegPostProc) (i : JpegInput) (o : List JpegEvent) (s' : JpegPostProc) : Prop :=
  s.step i = some (s', o)

end JpegPostProc

end KiwiDevice.Hal

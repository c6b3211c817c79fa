import KiwiDevice.Lib.Steps

/-!
# The frames of the post-processor

A started `QCameraPostProcessor` between the superbufs that it accepts and the channels that they go
back to. A queue is locked for one call, and between the calls a thread uses only data of its own;
`stop` is the `STOP_DATA_PROC` of the data thread. Nodes and jobs are allocated. The buffers that an
offline reprocess copies are no superbufs and are left out.
-/

namespace KiwiDevice.Hal.Frames

/-- `mm_camera_super_buf_t`. `frame` tells the superbufs apart; it is not in the program. -/
structure SuperBuf where
  frame : Nat
  chId : Nat
  deriving DecidableEq, Repr

/-- `qcamera_pp_data_t`. -/
structure PPData where
  srcFrame : SuperBuf
  reprocFrameRelease : Bool
  deriving DecidableEq, Repr

/-- `qcamera_jpeg_data_t`. -/
structure JpegData where
  jobId : Nat
  srcFrame : SuperBuf
  srcReprocFrame : Option SuperBuf
  reprocFrameRelease : Bool
  deriving DecidableEq, Repr

structure ReprocessChannel where
  handle : Nat
  sourceHandle : Nat
  deriving DecidableEq, Repr

/-- The data thread: it has no job, it has put a job into `m_ongoingJpegQ`, `start_job` has accepted
the job and its id is not stored, or it has put a job into `m_ongoingPPQ`. `accepted` tells that the
reprocessed superbuf may come. -/
inductive DataThread where
  | idle
  | encoding (job : JpegData)
  | started (frame jobId : Nat)
  | reprocessing (frame : SuperBuf) (accepted : Bool)
  deriving DecidableEq, Repr

/-- What `m_parent` answers. -/
structure Parent where
  needReprocess : Bool
  isNVPictureFormat : Bool
  generateThumbFromMain : Bool
  isRegularCapture : Bool
  isZSLMode : Bool
  mDataCb : Bool
  compressedImageEnabled : Bool
  deriving DecidableEq, Repr

/-- `frame` tells whether there is a raw buffer in the superbuf, `rawMemObj` and `rawMem` whether it
has a memory and that memory can be had. -/
structure RawResults where
  frame : Bool
  rawMemObj : Bool
  rawMem : Bool
  notifyCallback : Bool
  deriving DecidableEq, Repr

/-- `channels` are the handles in `m_channels`, `awaiting` the jobs whose event is to come,
`reprocessed` the number of reprocessed superbufs that are to come, and `notified` the superbufs
whose release callback is to come. -/
structure PostProcessor where
  mUseSaveProc : Bool
  channels : List Nat
  reprocChannel : Option ReprocessChannel
  dualReprocChannel : Option ReprocessChannel
  inputPPQ : List SuperBuf
  ongoingPPQ : List PPData
  inputJpegQ : List JpegData
  ongoingJpegQ : List JpegData
  inputRawQ : List SuperBuf
  inputSaveQ : List Nat
  notified : List SuperBuf
  thread : DataThread
  awaiting : List Nat
  reprocessed : Nat
  frames : Nat
  stopped : Bool
  deriving DecidableEq, Repr

inductive Input where
  | processData (chId : Nat) (p : Parent)
  | processRawData (chId : Nat)
  | processPPData (chId : Nat) (p : Parent)
  | reprocessAgain (chId : Nat) (p : Parent)
  | jpegEvt (jobId : Nat) (isLongshotEnabled : Bool)
  | saveNext
  | nextJpeg
  | startJob (jobId : Nat)
  | storeJobId
  | depthMap
  | encodeFailed
  | nextRaw (p : Parent) (r : RawResults)
  | nextPP (p : Parent)
  | reprocessAccepted
  | reprocessDone
  | reprocessFailed
  | releaseCb (frame : SuperBuf)
  | delChannel (chId : Nat)
  | stop

/-- `kept` stands for the release that a superbuf of an offline reprocess does not get. -/
inductive Event where
  | accepted (frame : SuperBuf)
  | offline (frame : SuperBuf)
  | released (frame : SuperBuf)
  | notFound (frame : SuperBuf)
  | kept (frame : SuperBuf)
  | freed (frame : SuperBuf)
  deriving DecidableEq, Repr

namespace PostProcessor

def start (mUseSaveProc : Bool) (channels : List Nat)
    (reprocChannel dualReprocChannel : Option ReprocessChannel) : PostProcessor where
  mUseSaveProc := mUseSaveProc
  channels := channels
  reprocChannel := reprocChannel
  dualReprocChannel := dualReprocChannel
  inputPPQ := []
  ongoingPPQ := []
  inputJpegQ := []
  ongoingJpegQ := []
  inputRawQ := []
  inputSaveQ := []
  notified := []
  thread := .idle
  awaiting := []
  reprocessed := 0
  frames := 0
  stopped := false

def hasHandle (channel : Option ReprocessChannel) (chId : Nat) : Bool :=
  channel.any fun c => c.handle = chId

def hasSource (channel : Option ReprocessChannel) (chId : Nat) : Bool :=
  channel.any fun c => c.sourceHandle = chId

/-- The lookup of `releaseSuperBuf`. -/
def hasChannel (s : PostProcessor) (chId : Nat) : Bool :=
  decide (chId ∈ s.channels) || hasHandle s.reprocChannel chId ||
    hasHandle s.dualReprocChannel chId

def releaseSuperBuf (s : PostProcessor) (f : SuperBuf) : List Event :=
  if s.hasChannel f.chId then [.released f] else [.notFound f]

/-- `releaseSuperBuf` and `free`. -/
def giveBack (s : PostProcessor) (f : SuperBuf) : List Event := s.releaseSuperBuf f ++ [.freed f]

def giveBackUnless (s : PostProcessor) (reprocFrameRelease : Bool) (f : SuperBuf) : List Event :=
  if reprocFrameRelease then [.kept f, .freed f] else s.giveBack f

def releaseJpegJobData (s : PostProcessor) (job : JpegData) : List Event :=
  job.srcReprocFrame.toList.flatMap (s.giveBackUnless job.reprocFrameRelease) ++
    s.giveBack job.srcFrame

def releaseOngoingPPData (s : PostProcessor) (job : PPData) : List Event :=
  s.giveBackUnless job.reprocFrameRelease job.srcFrame

def processRawData (s : PostProcessor) (f : SuperBuf) : PostProcessor :=
  { s with inputRawQ := s.inputRawQ ++ [f] }

def processData (s : PostProcessor) (f : SuperBuf) (p : Parent) : PostProcessor :=
  if p.needReprocess then { s with inputPPQ := s.inputPPQ ++ [f] }
  else if p.isNVPictureFormat then s.processRawData f
  else { s with inputJpegQ := s.inputJpegQ ++ [⟨0, f, none, false⟩] }

/-- `none`: the superbuf is not accepted. -/
def processPPData (s : PostProcessor) (f : SuperBuf) (p : Parent) :
    Option (PostProcessor × List Event) :=
  match s.ongoingPPQ with
  | [] =>
    if p.generateThumbFromMain then
      some ({ s with inputJpegQ := s.inputJpegQ ++ [⟨0, f, none, false⟩] }, [])
    else none
  | job :: ongoingPPQ =>
    if !p.generateThumbFromMain && p.isNVPictureFormat then
      some (({ s with ongoingPPQ } : PostProcessor).processRawData f, s.giveBack job.srcFrame)
    else
      some ({ s with
        ongoingPPQ
        inputJpegQ := s.inputJpegQ ++ [⟨0, f, some job.srcFrame, job.reprocFrameRelease⟩] }, [])

/-- `flushNodes` with `matchJobId`. -/
def flushJob (s : PostProcessor) (jobId : Nat) : PostProcessor × List Event :=
  ({ s with ongoingJpegQ := s.ongoingJpegQ.filter fun job => !decide (job.jobId = jobId) },
    (s.ongoingJpegQ.filter fun job => decide (job.jobId = jobId)).flatMap s.releaseJpegJobData)

/-- The superbuf is of a channel that `processRawImageImpl` looks at, and its picture can be had. -/
def hasRawMem (s : PostProcessor) (f : SuperBuf) (r : RawResults) : Bool :=
  (decide (f.chId ∈ s.channels) || hasHandle s.reprocChannel f.chId) && r.frame && r.rawMemObj &&
    r.rawMem

def zslChannelUsed (s : PostProcessor) (f : SuperBuf) (p : Parent) : Bool :=
  p.isZSLMode && decide (f.chId ∈ s.channels)

/-- With `sendDataNotify`. -/
def processRawImageImpl (s : PostProcessor) (f : SuperBuf) (p : Parent) (r : RawResults) :
    PostProcessor × Bool × List Event :=
  if !s.hasRawMem f r then (s, false, [])
  else if p.mDataCb && p.compressedImageEnabled then
    if s.zslChannelUsed f p then
      if r.notifyCallback then ({ s with notified := s.notified ++ [f] }, true, [])
      else (s, false, s.giveBack f)
    else (s, r.notifyCallback, [])
  else (s, true, [])

/-- `reprocess` has a channel for the superbuf. -/
def canReprocess (s : PostProcessor) (f : SuperBuf) : Bool :=
  s.reprocChannel.isSome &&
    (hasSource s.reprocChannel f.chId || hasSource s.dualReprocChannel f.chId)

/-- No JPEG job goes on, and the reprocess channels are deleted. -/
def tearDown (s : PostProcessor) : PostProcessor :=
  { s with
    ongoingJpegQ := []
    inputSaveQ := []
    awaiting := []
    reprocessed := 0
    reprocChannel := none
    dualReprocChannel := none }

/-- The jobs of the encoder are given back before the reprocess channels are deleted, the other
queues are flushed after it. -/
def stopDataProc (s : PostProcessor) : PostProcessor × List Event :=
  ({ s.tearDown with
    ongoingPPQ := []
    inputJpegQ := []
    inputPPQ := []
    inputRawQ := []
    stopped := true },
    s.ongoingJpegQ.flatMap s.releaseJpegJobData ++
      s.ongoingPPQ.flatMap s.tearDown.releaseOngoingPPData ++
        s.inputJpegQ.flatMap s.tearDown.releaseJpegJobData ++
          s.inputPPQ.flatMap s.tearDown.giveBack ++ s.inputRawQ.flatMap s.tearDown.giveBack)

/-- The superbuf that is accepted next. -/
def next (s : PostProcessor) (chId : Nat) : SuperBuf := ⟨s.frames, chId⟩

def acceptData (s : PostProcessor) (chId : Nat) (p : Parent) : PostProcessor × List Event :=
  ({ s.processData (s.next chId) p with frames := s.frames + 1 }, [.accepted (s.next chId)])

def acceptPPData (s : PostProcessor) (chId : Nat) (p : Parent) : PostProcessor × List Event :=
  match s.processPPData (s.next chId) p with
  | some (s', o) => ({ s' with frames := s.frames + 1 }, .accepted (s.next chId) :: o)
  | none => (s, [])

/-- `start_job` gives a job an id that is not 0. A reprocessed superbuf comes for a reprocess that
does not fail. -/
def stepStarted (s : PostProcessor) : Input → Option (PostProcessor × List Event)
  | .processData chId p => some (s.acceptData chId p)
  | .processRawData chId =>
    some ({ s.processRawData (s.next chId) with frames := s.frames + 1 },
      [.accepted (s.next chId)])
  | .processPPData chId p =>
    if 0 < s.reprocessed then
      some (({ s with reprocessed := s.reprocessed - 1 } : PostProcessor).acceptPPData chId p)
    else none
  | .reprocessAgain chId p =>
    -- of a dual reprocess, `processData` gets the superbuf of the first
    if 0 < s.reprocessed then
      some (({ s with reprocessed := s.reprocessed - 1 } : PostProcessor).acceptData chId p)
    else none
  | .jpegEvt jobId isLongshotEnabled =>
    if jobId ∈ s.awaiting then
      if s.mUseSaveProc && isLongshotEnabled then
        some ({ s with
          awaiting := s.awaiting.erase jobId
          inputSaveQ := s.inputSaveQ ++ [jobId] }, [])
      else
        some (({ s with awaiting := s.awaiting.erase jobId } : PostProcessor).flushJob jobId)
    else none
  | .saveNext =>
    match s.inputSaveQ with
    | [] => none
    | jobId :: inputSaveQ => some (({ s with inputSaveQ } : PostProcessor).flushJob jobId)
  | .nextJpeg =>
    match s.thread, s.inputJpegQ with
    | .idle, job :: inputJpegQ =>
      some ({ s with
        inputJpegQ
        ongoingJpegQ := s.ongoingJpegQ ++ [job]
        thread := .encoding job }, [])
    | _, _ => none
  | .startJob jobId =>
    match s.thread with
    | .encoding job =>
      if jobId ≠ 0 then
        some ({ s with
          awaiting := s.awaiting ++ [jobId]
          thread := .started job.srcFrame.frame jobId }, [])
      else none
    | _ => none
  | .storeJobId =>
    match s.thread with
    | .started frame jobId =>
      some ({ s with
        ongoingJpegQ := s.ongoingJpegQ.map fun job =>
          if job.srcFrame.frame = frame then { job with jobId } else job
        thread := .idle }, [])
    | _ => none
  | .depthMap =>
    -- `encodeData` has written the depth map and starts no job
    match s.thread with
    | .encoding _ => some ({ s with thread := .idle }, [])
    | _ => none
  | .encodeFailed =>
    match s.thread with
    | .encoding job =>
      some ({ s with ongoingJpegQ := s.ongoingJpegQ.dropLast, thread := .idle },
        s.releaseJpegJobData job)
    | _ => none
  | .nextRaw p r =>
    match s.thread, s.inputRawQ with
    | .idle, f :: inputRawQ =>
      let sent := ({ s with inputRawQ } : PostProcessor).processRawImageImpl f p r
      some (sent.1, sent.2.2 ++ if sent.2.1 then [] else s.giveBack f)
    | _, _ => none
  | .nextPP p =>
    match s.thread, s.inputPPQ with
    | .idle, f :: inputPPQ =>
      if s.canReprocess f then
        some ({ s with
          inputPPQ
          ongoingPPQ := s.ongoingPPQ ++ [⟨f, p.isRegularCapture⟩]
          thread := .reprocessing f false }, if p.isRegularCapture then [.offline f] else [])
      else some ({ s with inputPPQ }, s.giveBack f)
    | _, _ => none
  | .reprocessAccepted =>
    match s.thread with
    | .reprocessing f false =>
      some ({ s with
        reprocessed := s.reprocessed + 1
        thread := .reprocessing f true }, [])
    | _ => none
  | .reprocessDone =>
    match s.thread with
    | .reprocessing _ _ => some ({ s with thread := .idle }, [])
    | _ => none
  | .reprocessFailed =>
    match s.thread with
    | .reprocessing f false =>
      some ({ s with ongoingPPQ := s.ongoingPPQ.dropLast, thread := .idle }, s.giveBack f)
    | _ => none
  | .releaseCb f =>
    if f ∈ s.notified then some ({ s with notified := s.notified.erase f }, s.giveBack f)
    else none
  | .delChannel chId => some ({ s with channels := s.channels.erase chId }, [])
  | .stop => if s.thread = .idle then some s.stopDataProc else none

def step (s : PostProcessor) (i : Input) : Option (PostProcessor × List Event) :=
  if s.stopped then none else s.stepStarted i

def Next (s : PostProcessor) (i : Input) (o : List Event) (s' : PostProcessor) : Prop :=
  s.step i = some (s', o)

end PostProcessor

end KiwiDevice.Hal.Frames

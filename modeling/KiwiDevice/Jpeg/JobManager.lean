import KiwiDevice.Lib.Steps
import Mathlib.Algebra.Order.Ring.Nat
import Mathlib.Logic.Function.Basic

/-!
# The JPEG job manager

Encode sessions with their chains of OMX sessions, the jobs on their way through `job_queue` and
`ongoing_job_q`, and the job manager thread. A session is named by the low two bytes of its id, an
encode session by its first OMX session. Calls of the interface are mutually exclusive and single
steps; an encode is several, because the callbacks of OMX come from other threads. Allocation
succeeds.
-/

namespace KiwiDevice.Jpeg

def JOB_HIST_MAX : Nat := 10000
def NUM_MAX_JPEG_CNCURRENT_JOBS : Nat := 2

/-- `JOB_ID_MAGICVAL << 24 | session_idx << 8 | client_idx`. -/
def sessionIdOf (key : Nat) : Nat := 1 <<< 24 ||| key

def jobIdOf (sessionId jobHist : Nat) : Nat := sessionId ||| (jobHist % JOB_HIST_MAX) <<< 16

/-- `GET_SESSION_IDX` and `GET_CLIENT_IDX` of a session or job id. -/
def keyOf (id : Nat) : Nat := id % 2 ^ 16

inductive AbortState where
  | none
  | init
  | done
deriving DecidableEq

/-- `serial` counts the accepted jobs. -/
structure EncodeJobInfo where
  serial : Nat
  sessionId : Nat
  jobId : Nat
  dstIndex : Int
deriving DecidableEq

/-- `queues` names the encode session whose queues it shares, `started` whether it was given a job
since it was created. -/
structure JobSession where
  active : Bool
  encoding : Bool
  abortState : AbortState
  autoOutBuf : Bool
  encodeJob : EncodeJobInfo
  queues : Nat
  started : Bool
deriving DecidableEq

/-- A chain of OMX sessions with its shared queues. -/
structure EncodeSession where
  omxSessions : List Nat
  sessionHandleQ : List Nat
  outBufQ : List Nat
  jpegCb : Bool
  numSrcBufs : Nat
  numDstBufs : Nat
  jobHist : Nat
deriving DecidableEq

def EncodeSession.new (omxSessions : List Nat) (jpegCb : Bool)
    (numSrcBufs numDstBufs jobHist : Nat) : EncodeSession where
  omxSessions := omxSessions
  sessionHandleQ := omxSessions
  outBufQ := List.range' 1 numDstBufs
  jpegCb := jpegCb
  numSrcBufs := numSrcBufs
  numDstBufs := numDstBufs
  jobHist := jobHist

/-- A session put into the chain of `k`. -/
def JobSession.create (session : JobSession) (k : Nat) : JobSession :=
  { session with
    active := true, abortState := .none, autoOutBuf := false, queues := k, started := false }

/-- A node of `ongoing_job_q`, with the OMX session that runs it and whether the client left the
choice of the destination buffer open. -/
structure OngoingJob where
  job : EncodeJobInfo
  runsOn : Nat
  asked : Bool
deriving DecidableEq

/-- Where the job manager thread is: before `cam_sem_wait`, with a token, past the check of the
ongoing jobs, or inside `mm_jpeg_session_encode` before and after `encoding` is set. -/
inductive MgrPhase where
  | blocked
  | woken
  | ready
  | configuring (s : Nat)
  | submitting (s : Nat)
deriving DecidableEq

/-- `reported` and `aborted` are the jobs given to `jpeg_cb` and taken out by
`mm_jpeg_abort_job`. -/
structure JpegJobs where
  sessions : Nat → JobSession
  chains : Nat → Option EncodeSession
  jobQueue : List EncodeJobInfo
  ongoingJobQ : List OngoingJob
  jobSem : Nat
  phase : MgrPhase
  nextSerial : Nat
  reported : List Nat
  aborted : List Nat

namespace JpegJobs

variable (w : JpegJobs)

def setSession (s : Nat) (session : JobSession) : JpegJobs :=
  { w with sessions := Function.update w.sessions s session }

def setChain (k : Nat) (chain : EncodeSession) : JpegJobs :=
  { w with chains := Function.update w.chains k (some chain) }

@[simp] theorem setSession_self (s : Nat) (session : JobSession) :
    (w.setSession s session).sessions s = session := by
  simp [setSession]

theorem setSession_of_ne {s s' : Nat} (h : s' ≠ s) (session : JobSession) :
    (w.setSession s session).sessions s' = w.sessions s' := by
  simp [setSession, h]

@[simp] theorem setChain_self (k : Nat) (chain : EncodeSession) :
    (w.setChain k chain).chains k = some chain := by
  simp [setChain]

theorem setChain_of_ne {k k' : Nat} (h : k' ≠ k) (chain : EncodeSession) :
    (w.setChain k chain).chains k' = w.chains k' := by
  simp [setChain, h]

/-- The thread holds `job_lock` while it processes a job. -/
def lockFree : Bool :=
  match w.phase with
  | .configuring _ | .submitting _ => false
  | _ => true

/-- Sessions come from `mm_jpeg_get_new_session_idx` and were inactive. `encoding` keeps
its value. -/
def createSession (omxSessions : List Nat) (jpegCb : Bool) (numSrcBufs numDstBufs jobHist : Nat) :
    Option JpegJobs :=
  match omxSessions with
  | [] => none
  | k :: _ =>
    if omxSessions.Nodup ∧ (∀ s ∈ omxSessions, s < 2 ^ 16 ∧ (w.sessions s).active = false) then
      some { w with
        sessions := fun s =>
          if s ∈ omxSessions then (w.sessions s).create k else w.sessions s
        chains := Function.update w.chains k
          (some (.new omxSessions jpegCb numSrcBufs numDstBufs jobHist)) }
    else none

/-- `buffersOk` is the outcome of the work buffer checks. A job that is turned down changes
nothing here. -/
def startJob (k : Nat) (srcIndex dstIndex : Int) (buffersOk : Bool) : JpegJobs :=
  match w.chains k with
  | none => w
  | some chain =>
    if (w.sessions k).active = true ∧ srcIndex < chain.numSrcBufs ∧
        dstIndex < chain.numDstBufs ∧ buffersOk = true then
      let job : EncodeJobInfo := {
        serial := w.nextSerial
        sessionId := sessionIdOf k
        jobId := jobIdOf (sessionIdOf k) chain.jobHist
        dstIndex := dstIndex }
      { w.setChain k { chain with jobHist := chain.jobHist + 1 } with
        jobQueue := w.jobQueue ++ [job]
        jobSem := w.jobSem + 1
        nextSerial := w.nextSerial + 1 }
    else w

/-- The recursion over `next_session`; it stops at a session that is already aborted. An encoding
session is waited for until a callback has taken it from `MM_JPEG_ABORT_INIT`. -/
def sessionAbort (w : JpegJobs) : List Nat → JpegJobs
  | [] => w
  | s :: rest =>
    if (w.sessions s).abortState ≠ .none then w
    else sessionAbort (w.setSession s { w.sessions s with abortState := .done }) rest

def abortJob (jobId : Nat) : JpegJobs :=
  match w.jobQueue.find? fun job => job.jobId = jobId with
  | some job =>
    { w with
      jobQueue := w.jobQueue.eraseP fun job => job.jobId = jobId
      aborted := w.aborted ++ [job.serial] }
  | none =>
    match w.ongoingJobQ.find? fun o => o.job.jobId = jobId with
    | some o =>
      { w.sessionAbort (((w.chains (keyOf o.job.jobId)).map EncodeSession.omxSessions).getD []) with
        ongoingJobQ := w.ongoingJobQ.eraseP fun o => o.job.jobId = jobId
        aborted := w.aborted ++ [o.job.serial] }
    | none => w

def destroySession (k : Nat) : Option JpegJobs :=
  (w.chains k).map fun chain =>
    let w' := w.sessionAbort chain.omxSessions
    { w' with
      sessions := fun s =>
        if s ∈ chain.omxSessions then { w'.sessions s with active := false } else w'.sessions s
      chains := Function.update w.chains k none
      jobQueue := w.jobQueue.filter fun job => job.sessionId ≠ sessionIdOf k
      ongoingJobQ := w.ongoingJobQ.filter fun o => o.job.sessionId ≠ sessionIdOf k
      jobSem := w.jobSem + 1 }

def jobDone (s : Nat) : JpegJobs :=
  let session := w.sessions s
  let w' := { w.setSession s { session with encoding := false } with
    ongoingJobQ := w.ongoingJobQ.eraseP fun o => o.job.jobId = session.encodeJob.jobId
    jobSem := w.jobSem + 1 }
  match w.chains session.queues with
  | none => w'
  | some chain =>
    w'.setChain session.queues { chain with
      sessionHandleQ := chain.sessionHandleQ ++ [s]
      outBufQ :=
        if session.autoOutBuf = true then
          chain.outBufQ ++ [(session.encodeJob.dstIndex + 1).toNat]
        else chain.outBufQ }

def hasCb (s : Nat) : Bool := (w.chains (w.sessions s).queues).any EncodeSession.jpegCb

/-- The call of `jpeg_cb` for the job of the session. -/
def report (s : Nat) : JpegJobs :=
  if w.hasCb s = true then { w with reported := w.reported ++ [(w.sessions s).encodeJob.serial] }
  else w

def fbd (s : Nat) : JpegJobs :=
  if (w.sessions s).abortState ≠ .none then
    w.setSession s { w.sessions s with abortState := .done }
  else if w.hasCb s = true then (w.report s).jobDone s
  else w

def eventHandler (s : Nat) (isError : Bool) : JpegJobs :=
  if (w.sessions s).abortState = .init then
    w.setSession s { w.sessions s with abortState := .done }
  else if isError = true ∧ (w.sessions s).encoding = true then (w.report s).jobDone s
  else w

/-- The job starts on the OMX session `s`. -/
def beginEncode (k : Nat) (chain : EncodeSession) (job : EncodeJobInfo) (s : Nat)
    (asked : Bool) : JpegJobs :=
  { (w.setChain k chain).setSession s { w.sessions s with
      encoding := false, abortState := .none, autoOutBuf := asked, encodeJob := job
      started := true } with
    ongoingJobQ := w.ongoingJobQ ++ [⟨job, s, asked⟩]
    phase := .configuring s }

def processEncodingJob (job : EncodeJobInfo) : JpegJobs :=
  let k := keyOf job.jobId
  match w.chains k with
  | none => { w with phase := .blocked }
  | some chain =>
    match chain.sessionHandleQ with
    | [] => { w with jobQueue := job :: w.jobQueue, phase := .blocked }
    | s :: free =>
      let chain := { chain with sessionHandleQ := free }
      if job.dstIndex < 0 then
        match chain.outBufQ with
        | [] =>
          { (w.setChain k chain).setSession s { w.sessions s with autoOutBuf := false } with
            phase := .blocked }
        | bufIdx :: rest =>
          w.beginEncode k { chain with outBufQ := rest } { job with dstIndex := bufIdx - 1 } s true
      else w.beginEncode k chain job s false

inductive Input where
  | createSession (omxSessions : List Nat) (jpegCb : Bool) (numSrcBufs numDstBufs jobHist : Nat)
  | startJob (k : Nat) (srcIndex dstIndex : Int) (buffersOk : Bool)
  | abortJob (jobId : Nat)
  | destroySession (k : Nat)
  | semWait
  | checkOngoing
  | process
  | encodingStarts
  | encodeReturns (ok : Bool)
  | fbd (s : Nat)
  | eventHandler (s : Nat) (isError : Bool)

/-- A buffer comes back only from an OMX session that was given one, and a handle that was freed
calls nothing back. -/
def step (w : JpegJobs) : Input → Option JpegJobs
  | .createSession omxSessions jpegCb numSrcBufs numDstBufs jobHist =>
    w.createSession omxSessions jpegCb numSrcBufs numDstBufs jobHist
  | .startJob k srcIndex dstIndex buffersOk => some (w.startJob k srcIndex dstIndex buffersOk)
  | .abortJob jobId => if w.lockFree = true then some (w.abortJob jobId) else none
  | .destroySession k => if w.lockFree = true then w.destroySession k else none
  | .semWait =>
    if w.phase = .blocked ∧ 0 < w.jobSem then
      some { w with jobSem := w.jobSem - 1, phase := .woken }
    else none
  | .checkOngoing =>
    if w.phase = .woken then
      some { w with phase :=
        if w.ongoingJobQ.length ≥ NUM_MAX_JPEG_CNCURRENT_JOBS then .blocked else .ready }
    else none
  | .process =>
    if w.phase = .ready then
      match w.jobQueue with
      | [] => some { w with phase := .blocked }
      | job :: rest => some ({ w with jobQueue := rest }.processEncodingJob job)
    else none
  | .encodingStarts =>
    match w.phase with
    | .configuring s =>
      some { w.setSession s { w.sessions s with encoding := true } with phase := .submitting s }
    | _ => none
  | .encodeReturns ok =>
    match w.phase with
    | .configuring s =>
      if ok = true then none else some { (w.report s).jobDone s with phase := .blocked }
    | .submitting s =>
      some { (if ok = true then w else (w.report s).jobDone s) with phase := .blocked }
    | _ => none
  | .fbd s =>
    if (w.sessions s).active = true ∧ (w.sessions s).started = true then some (w.fbd s) else none
  | .eventHandler s isError =>
    if (w.sessions s).active = true then some (w.eventHandler s isError) else none

def Next (w : JpegJobs) (i : Input) (_ : List Unit) (w' : JpegJobs) : Prop := w.step i = some w'

def noJob : EncodeJobInfo := ⟨0, 0, 0, 0⟩

def start : JpegJobs where
  sessions := fun _ => ⟨false, false, .none, false, noJob, 0, false⟩
  chains := fun _ => none
  jobQueue := []
  ongoingJobQ := []
  jobSem := 0
  phase := .blocked
  nextSerial := 0
  reported := []
  aborted := []

end JpegJobs

end KiwiDevice.Jpeg

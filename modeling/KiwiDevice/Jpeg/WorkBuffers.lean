import KiwiDevice.Jpeg.EncodeSessions
import KiwiDevice.Lib.Lists
import KiwiDevice.Lib.RoundUp
import KiwiDevice.Lib.Steps

/-!
# The work buffers of encode jobs

`mm_jpeg_start_job` keeps the ION work buffers of the object: it releases them when the resolution
changes, allocates what is missing and gives one of them to the session of the job. What
`buffer_allocate`, `malloc` and the queue answer are inputs.
-/

namespace KiwiDevice.Jpeg

open Lib (roundUp)

def CEILING64 (x : BitVec 32) : BitVec 32 := (x + 0x3F) &&& 0xFFFFFFC0
def CEILING32 (x : BitVec 32) : BitVec 32 := (x + 0x1F) &&& 0xFFFFFFE0

/-- The part of a `mm_jpeg_buf_t` that a work buffer takes over. -/
structure HalBuffer where
  bufVaddr : Nat
  bufSize : Nat
  fd : Int

/-- `mm_jpeg_encode_job_t`, with `main_dim.src_dim` as `width` and `height`. -/
structure EncodeJob where
  sessionId : Nat
  workBuf : HalBuffer
  width : BitVec 32
  height : BitVec 32
  srcIndex : Int
  dstIndex : Int

structure JobNode where
  encodeJob : EncodeJob
  jobId : Nat
  clientHandle : Nat

/-- `jobs` are the jobs that were put into `job_queue` and have not finished. An ION allocation has a
number of its own; `isLive` are those that have not been released. -/
structure JobEncoder extends Encoder where
  workBufCnt : Nat
  prevW : BitVec 32
  prevH : BitVec 32
  jobs : List JobNode
  isLive : Nat → Bool
  nextAlloc : Nat

/-- The descriptors and the address that `buffer_allocate` gives to each entry; address 0 is its
failure. -/
structure StartAnswers where
  addr : Nat → Nat
  ionFd : Nat → Int
  pPmemFd : Nat → Int
  nodeOk : Bool
  enqOk : Bool

namespace EncodeJob

variable (job : EncodeJob)

def clientIdx : Nat := GET_CLIENT_IDX job.sessionId

def sessionIdx : Nat := GET_SESSION_IDX job.sessionId

def workBufSize : BitVec 32 := (CEILING64 job.width * CEILING64 job.height * 3).udiv 2

end EncodeJob

namespace JobEncoder

variable (obj : JobEncoder)

def sessionOf (job : EncodeJob) : EncoderSession := obj.session job.clientIdx job.sessionIdx

def modifySession (job : EncodeJob) (f : EncoderSession → EncoderSession) : JobEncoder :=
  { obj with toEncoder := obj.toEncoder.modify job.clientIdx job.sessionIdx f }

def setWorkBuffer (job : EncodeJob) (buffer : WorkBuffer) : JobEncoder :=
  obj.modifySession job fun s => { s with workBuffer := buffer }

def bufferAllocate (answers : StartAnswers) (i size : Nat) : JobEncoder :=
  { obj with
    ionBuffer := Function.update obj.ionBuffer i
      { addr := answers.addr i
        size := size
        ionFd := answers.ionFd i
        pPmemFd := answers.pPmemFd i
        alloc := if answers.addr i = 0 then none else some obj.nextAlloc }
    isLive :=
      if answers.addr i = 0 then obj.isLive else Function.update obj.isLive obj.nextAlloc true
    nextAlloc := obj.nextAlloc + 1 }

/-- The entry keeps the address of what is released. -/
def bufferDeallocate (i : Nat) : JobEncoder :=
  match (obj.ionBuffer i).alloc with
  | none => obj
  | some a => { obj with isLive := Function.update obj.isLive a false }

/-- The loop of `mm_jpeg_check_resolution_change`, with `work_buf_cnt` as its counter. -/
def releaseBuffers : Nat → JobEncoder → JobEncoder
  | 0, obj => obj
  | cnt + 1, obj => releaseBuffers cnt ({ obj with workBufCnt := cnt }.bufferDeallocate cnt)

def checkResolutionChange (workBufsNeed : Nat) (currW currH : BitVec 32) : Option JobEncoder :=
  if workBufsNeed < obj.workBufCnt then none
  else if obj.workBufCnt = workBufsNeed ∧ currW * currH ≠ obj.prevW * obj.prevH then
    some (releaseBuffers obj.workBufCnt obj)
  else some obj

/-- `while (i--)` after a failed allocation. -/
def rollbackBuffers : Nat → JobEncoder → JobEncoder
  | 0, obj => obj
  | i + 1, obj =>
    rollbackBuffers i { obj.bufferDeallocate i with workBufCnt := obj.workBufCnt - 1 }

/-- The loop of the allocations from its counter `i` on, with `left` passes to go. -/
def allocateBuffers (answers : StartAnswers) (job : EncodeJob) (size : Nat) :
    Nat → Nat → JobEncoder → Bool × JobEncoder
  | 0, _, obj => (true, obj)
  | left + 1, i, obj =>
    let obj := obj.bufferAllocate answers i size
    let obj := { obj with workBufCnt := obj.workBufCnt + 1 }
    if (obj.ionBuffer i).addr = 0 then (false, rollbackBuffers i obj)
    else allocateBuffers answers job size left (i + 1) (obj.setWorkBuffer job (obj.ionBuffer i))

/-- The checks and the queueing at the end of `mm_jpeg_start_job`. -/
def queueJob (answers : StartAnswers) (job : EncodeJob) (rc : Int) : Int × Nat × JobEncoder :=
  let s := obj.sessionOf job
  if s.active = false then (rc, 0, obj)
  else if job.srcIndex ≥ Lib.toInt s.params.numSrcBufs ∨
      job.dstIndex ≥ Lib.toInt s.params.numDstBufs then (rc, 0, obj)
  else if answers.nodeOk = false then (-1, 0, obj)
  else
    let jobId := jobIdOf job.sessionId s.jobHist.toNat
    let obj := obj.modifySession job fun s =>
      { s with jobIndex := s.jobIndex + 1, jobHist := s.jobHist + 1 }
    if answers.enqOk then (0, jobId, { obj with jobs := obj.jobs ++ [⟨job, jobId, s.clientHdl⟩] })
    else (-1, jobId, obj)

/-- `mm_jpeg_start_job` once the buffers of another resolution are gone. -/
def prepareJob (answers : StartAnswers) (job : EncodeJob) (workBufsNeed : Nat) (rc : Int) :
    Int × Nat × JobEncoder :=
  let obj := { obj with prevW := job.width, prevH := job.height }
  match allocateBuffers answers job (CEILING32 job.workBufSize).toNat
    (workBufsNeed - obj.workBufCnt) obj.workBufCnt obj with
  | (false, obj) => (-1, 0, obj)
  | (true, obj) => obj.queueJob answers job rc

/-- `session.work_buffer` as the job brings it. -/
def takeWorkBuf (job : EncodeJob) : JobEncoder :=
  obj.modifySession job fun s =>
    { s with
      workBuffer :=
        { s.workBuffer with
          addr := job.workBuf.bufVaddr
          size := job.workBuf.bufSize
          pPmemFd := job.workBuf.fd
          alloc := none } }

def workBufsNeed (build : JpegBuild) (job : EncodeJob) : Nat :=
  if job.workBuf.bufVaddr ≠ 0 then min (obj.numSessions + 1) build.concurrentSessions - 1
  else min (obj.numSessions + 1) build.concurrentSessions

/-- `startJob` with its indices in range. -/
def startValidJob (build : JpegBuild) (answers : StartAnswers) (job : EncodeJob) :
    Int × Nat × JobEncoder :=
  let need := obj.workBufsNeed build job
  let obj := obj.takeWorkBuf job
  if job.workBuf.bufVaddr ≠ 0 then
    if need = 0 then obj.prepareJob answers job need (-1)
    else
      match obj.checkResolutionChange need job.width job.height with
      | none => (-1, 0, obj)
      | some obj => obj.prepareJob answers job need 0
  else
    let obj := obj.setWorkBuffer job (obj.ionBuffer 0)
    match obj.checkResolutionChange need job.width job.height with
    | none => (-1, 0, obj)
    | some obj => obj.prepareJob answers job need 0

/-- The result, `*job_id` and the object. -/
def startJob (build : JpegBuild) (answers : StartAnswers) :
    Option EncodeJob → Int × Nat × JobEncoder
  | none => (-1, 0, obj)
  | some job =>
    if job.sessionIdx ≥ MM_JPEG_MAX_SESSION ∨ job.clientIdx ≥ MAX_JPEG_CLIENT_NUM then (-1, 0, obj)
    else obj.startValidJob build answers job

end JobEncoder

/-! ### Runs -/

/-- Between the calls jobs finish, and sessions come and go; a session gets its work buffer from the
jobs it starts. -/
inductive JobInput where
  | start (job : Option EncodeJob) (answers : StartAnswers)
  | finish (k : Nat)
  | sessions (num : Nat) (table : Nat → Nat → EncoderSession)

def JobEncoder.next (build : JpegBuild) (obj : JobEncoder) :
    JobInput → List (Int × Nat) × JobEncoder
  | .start job answers =>
    match obj.startJob build answers job with
    | (rc, jobId, obj) => ([(rc, jobId)], obj)
  | .finish k => ([], { obj with jobs := obj.jobs.eraseIdx k })
  | .sessions num table =>
    ([], { obj with
      numSessions := num
      session := fun c i => { table c i with workBuffer := (obj.session c i).workBuffer } })

/-- The input and its result, as the steps of a run. -/
def JobNext (build : JpegBuild) (obj : JobEncoder) (input : JobInput) (results : List (Int × Nat))
    (obj' : JobEncoder) : Prop :=
  obj.next build input = (results, obj')

/-- The object after `memset` in `jpeg_open`. -/
structure JobEncoder.Fresh (obj : JobEncoder) : Prop where
  workBufCnt : obj.workBufCnt = 0
  jobs : obj.jobs = []
  ionBuffer : ∀ i, (obj.ionBuffer i).alloc = none
  workBuffer : ∀ c i, (obj.session c i).workBuffer.alloc = none

end KiwiDevice.Jpeg

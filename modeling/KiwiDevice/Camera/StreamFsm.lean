import KiwiDevice.Camera.Types
import Mathlib.Logic.Function.Basic

/-!
# Streams: buffers, the driver and the state machine

The events of `mm_stream_fsm_fn` that start, stop and feed a stream, with what they ask of the
kernel driver and of the data poll thread. What the outside answers is given by `StreamResults`.
-/

namespace KiwiDevice.Camera

/-- What the kernel and the data poll thread of a channel hold: the count of the last
`VIDIOC_REQBUFS` by stream handle, and the handler of each poll entry, 0 for none. -/
structure Driver where
  requested : Nat → Nat
  pollEntries : Nat → Nat

namespace Driver

/-- `MAX_STREAM_NUM_IN_BUNDLE`. -/
def maxPollEntries : Nat := 4

/-- `mm_camera_util_get_index_by_handler`. -/
def indexByHandler (handler : Nat) : Nat := handler % 256

/-- `mm_camera_poll_thread_add_poll_fd`. -/
def addPollFd (d : Driver) (handler : Nat) : Driver :=
  let idx := indexByHandler handler
  if idx < maxPollEntries then
    { d with pollEntries := Function.update d.pollEntries idx handler }
  else d

/-- `mm_camera_poll_thread_del_poll_fd`. -/
def delPollFd (d : Driver) (handler : Nat) : Driver :=
  let idx := indexByHandler handler
  if idx < maxPollEntries ∧ handler = d.pollEntries idx then
    { d with pollEntries := Function.update d.pollEntries idx 0 }
  else d

/-- A successful `VIDIOC_REQBUFS`. -/
def reqbufs (d : Driver) (handler count : Nat) : Driver :=
  { d with requested := Function.update d.requested handler count }

/-- The poll thread has an entry for the handler. -/
def Polls (d : Driver) (handler : Nat) : Prop :=
  indexByHandler handler < maxPollEntries ∧ d.pollEntries (indexByHandler handler) = handler

instance (d : Driver) (handler : Nat) : Decidable (d.Polls handler) :=
  inferInstanceAs (Decidable (_ ∧ _))

end Driver

/-- How a `mm_stream_qbuf` goes: the cache invalidation may fail first, then the ioctl. -/
inductive QbufResult where
  | queued | notInvalidated | refused
  deriving DecidableEq, Repr

/-- The answers of the outside to one start of a stream. `getBufs` has the initial registration flag
of each buffer, and `qbuf` goes by the index of the buffer. -/
structure StreamResults where
  getBufs : Option (List Bool)
  statusAlloc : Bool
  reqbufs : Bool
  qbuf : Nat → QbufResult
  streamOn : Bool

inductive StreamEvt where
  | getBuf | regBuf | start | stop | unregBuf | putBuf
  | qbuf (buf : BufDef)
  deriving DecidableEq, Repr

namespace MmStream

/-- `MM_CAMERA_MAX_NUM_FRAMES`. -/
def maxNumFrames : Nat := 24

def status (s : MmStream) (idx : Nat) : BufStatus := (s.bufStatus.bind fun l => l[idx]?).getD {}

def setStatus (s : MmStream) (idx : Nat) (status : BufStatus) : MmStream :=
  { s with bufStatus := s.bufStatus.map fun l => l.set idx status }

def hasCb (s : MmStream) : Bool := s.bufCb.any Option.isSome

/-- `mm_stream_qbuf`. -/
def qbuf (s : MmStream) (d : Driver) : QbufResult → MmStream × Driver × Bool
  | .notInvalidated => (s, d, false)
  | .queued =>
    let count := s.queuedBufferCount + 1
    ({ s with queuedBufferCount := count }, if count = 1 then d.addPollFd s.myHdl else d, true)
  | .refused =>
    let count := s.queuedBufferCount + 1
    let d := if count = 1 then d.addPollFd s.myHdl else d
    (s, if count - 1 = 0 then d.delPollFd s.myHdl else d, false)

/-- `mm_stream_buf_done`. -/
def bufDone (s : MmStream) (d : Driver) (frame : BufDef) (result : QbufResult) :
    MmStream × Driver × Bool :=
  let status := s.status frame.bufIdx
  if status.bufRefcnt = 0 then (s, d, false)
  else
    let s := s.setStatus frame.bufIdx { status with bufRefcnt := status.bufRefcnt - 1 }
    if status.bufRefcnt - 1 = 0 then
      let queued := s.qbuf d result
      if queued.2.2 then
        (queued.1.setStatus frame.bufIdx { status with bufRefcnt := 0, inKernel := true },
          queued.2.1, true)
      else queued
    else (s, d, true)

/-- `mm_stream_deinit_bufs`. -/
def deinitBufs (s : MmStream) : MmStream :=
  if s.buf = none then s else { s with buf := none, bufStatus := none }

/-- What `get_bufs` of the memory table and the loop of `mm_stream_init_bufs` set. -/
def setBufs (s : MmStream) (regFlags : List Bool) : MmStream :=
  let streamType := s.streamInfo.elim .default StreamInfo.streamType
  { s with
    bufNum := regFlags.length
    buf := some (regFlags.mapIdx fun i _ => ⟨s.myHdl, streamType, i, 0, none⟩) }

/-- `mm_stream_init_bufs`. -/
def initBufs (s : MmStream) (r : StreamResults) : MmStream × Bool :=
  let s := if s.buf ≠ none then s.deinitBufs else s
  match r.getBufs with
  | none => (s, false)
  | some regFlags =>
    let s := s.setBufs regFlags
    if r.statusAlloc then
      ({ s with
        bufStatus := some (regFlags.map fun flag => { initialRegFlag := flag })
        streamInfo := s.streamInfo.map fun info => { info with numBufs := regFlags.length } }, true)
    else (s.deinitBufs, false)

/-- The loop of `mm_stream_reg_buf`, from these indices on. -/
def regBufs (r : StreamResults) : List Nat → MmStream → Driver → MmStream × Driver × Bool
  | [], s, d => (s, d, true)
  | i :: rest, s, d =>
    let status := s.status i
    if status.initialRegFlag then
      let queued := s.qbuf d (r.qbuf i)
      if queued.2.2 then
        regBufs r rest (queued.1.setStatus i { status with bufRefcnt := 0, inKernel := true })
          queued.2.1
      else queued
    else regBufs r rest (s.setStatus i { status with bufRefcnt := 1, inKernel := false }) d

/-- `mm_stream_reg_buf`, with `mm_stream_request_buf`. -/
def regBuf (s : MmStream) (d : Driver) (r : StreamResults) : MmStream × Driver × Bool :=
  if s.bufNum > maxNumFrames ∨ r.reqbufs = false then (s, d, false)
  else
    regBufs r (List.range s.bufNum) { s with queuedBufferCount := 0 } (d.reqbufs s.myHdl s.bufNum)

/-- `mm_stream_unreg_buf`. The release of all buffers is taken to succeed. -/
def unregBuf (s : MmStream) (d : Driver) : MmStream × Driver :=
  ({ s with bufStatus := s.bufStatus.map fun l => l.mapIdx fun i status =>
      if i < s.bufNum then { status with bufRefcnt := 0, inKernel := false } else status },
    d.reqbufs s.myHdl 0)

/-- The `START` event of `mm_stream_fsm_reg`, with `mm_stream_streamon`. -/
def startStream (s : MmStream) (d : Driver) (r : StreamResults) : MmStream × Driver × Bool :=
  let launched := { s with cmdThreadActive := s.hasCb || s.cmdThreadActive }
  if r.streamOn then ({ launched with state := .active }, d, true)
  else
    ({ launched with
        cmdThreadActive := if s.hasCb then false else s.cmdThreadActive
        state := .reg }, d.delPollFd s.myHdl, false)

/-- The `STOP` event of `mm_stream_fsm_active`, with `mm_stream_streamoff`. -/
def stopStream (s : MmStream) (d : Driver) : MmStream × Driver :=
  ({ s with
      cmdThreadActive := if s.hasCb then false else s.cmdThreadActive
      state := .reg }, d.delPollFd s.myHdl)

/-- `mm_stream_fsm_fn`: an event that a state does not handle is ignored with success. -/
def fsmFn (s : MmStream) (d : Driver) (evt : StreamEvt) (r : StreamResults) :
    MmStream × Driver × Bool :=
  match s.state, evt with
  | .notused, _ => (s, d, false)
  | .cfg, .getBuf =>
    let bufs := s.initBufs r
    if bufs.2 then ({ bufs.1 with state := .buffed }, d, true) else (bufs.1, d, false)
  | .buffed, .putBuf => ({ s.deinitBufs with state := .cfg }, d, true)
  | .buffed, .regBuf =>
    let reg := s.regBuf d r
    if reg.2.2 then ({ reg.1 with state := .reg }, reg.2.1, true) else reg
  | .reg, .unregBuf =>
    let unreg := s.unregBuf d
    ({ unreg.1 with state := .buffed }, unreg.2, true)
  | .reg, .start => s.startStream d r
  | .active, .qbuf buf => s.bufDone d buf (r.qbuf buf.bufIdx)
  | .active, .stop =>
    let stopped := s.stopStream d
    (stopped.1, stopped.2, true)
  | _, _ => (s, d, true)

/-- What the events leave alone: who the stream is, whose it is and which stream it stands for. -/
structure SameStream (s s' : MmStream) : Prop where
  myHdl : s'.myHdl = s.myHdl
  chObj : s'.chObj = s.chObj
  linkedStream : s'.linkedStream = s.linkedStream
  isBundled : s'.isBundled = s.isBundled
  notused : s'.state = .notused ↔ s.state = .notused
  streamType : s'.streamInfo.map StreamInfo.streamType = s.streamInfo.map StreamInfo.streamType

namespace SameStream

variable {s s' s'' : MmStream}

theorem refl (s : MmStream) : SameStream s s := ⟨rfl, rfl, rfl, rfl, Iff.rfl, rfl⟩

theorem trans (h : SameStream s s') (h' : SameStream s' s'') : SameStream s s'' where
  myHdl := h'.myHdl.trans h.myHdl
  chObj := h'.chObj.trans h.chObj
  linkedStream := h'.linkedStream.trans h.linkedStream
  isBundled := h'.isBundled.trans h.isBundled
  notused := h'.notused.trans h.notused
  streamType := h'.streamType.trans h.streamType

theorem toState (h : SameStream s s') {state : StreamState} (hUsed : s.state ≠ .notused)
    (hState : state ≠ .notused) : SameStream s { s' with state } where
  myHdl := h.myHdl
  chObj := h.chObj
  linkedStream := h.linkedStream
  isBundled := h.isBundled
  notused := ⟨fun hNot => absurd hNot hState, fun hNot => absurd hNot hUsed⟩
  streamType := h.streamType

end SameStream

theorem setStatus_same (s : MmStream) (idx : Nat) (status : BufStatus) :
    SameStream s (s.setStatus idx status) := ⟨rfl, rfl, rfl, rfl, Iff.rfl, rfl⟩

theorem qbuf_same (s : MmStream) (d : Driver) (result : QbufResult) :
    SameStream s (s.qbuf d result).1 := by
  cases result <;> exact ⟨rfl, rfl, rfl, rfl, Iff.rfl, rfl⟩

theorem qbuf_state (s : MmStream) (d : Driver) (result : QbufResult) :
    (s.qbuf d result).1.state = s.state := by
  cases result <;> rfl

theorem qbuf_status (s : MmStream) (d : Driver) (result : QbufResult) (j : Nat) :
    (s.qbuf d result).1.status j = s.status j := by
  cases result <;> rfl

theorem qbuf_ok (s : MmStream) (d : Driver) (result : QbufResult) :
    (s.qbuf d result).2.2 = true ↔ result = .queued := by
  cases result <;> simp [qbuf]

theorem bufDone_same (s : MmStream) (d : Driver) (frame : BufDef) (result : QbufResult) :
    SameStream s (s.bufDone d frame result).1 := by
  simp only [bufDone]
  split
  · exact .refl s
  · split
    · split
      · exact ((s.setStatus_same _ _).trans (qbuf_same _ d result)).trans (setStatus_same _ _ _)
      · exact (s.setStatus_same _ _).trans (qbuf_same _ d result)
    · exact s.setStatus_same _ _

theorem deinitBufs_same (s : MmStream) : SameStream s s.deinitBufs := by
  rw [deinitBufs]
  split <;> exact ⟨rfl, rfl, rfl, rfl, Iff.rfl, rfl⟩

theorem initBufs_same (s : MmStream) (r : StreamResults) : SameStream s (s.initBufs r).1 := by
  have hDeinit : SameStream s (if s.buf ≠ none then s.deinitBufs else s) := by
    split
    · exact s.deinitBufs_same
    · exact .refl s
  simp only [initBufs]
  generalize (if s.buf ≠ none then s.deinitBufs else s) = t at hDeinit ⊢
  split
  · exact hDeinit
  · rename_i regFlags _
    have hSet : SameStream s (t.setBufs regFlags) :=
      hDeinit.trans ⟨rfl, rfl, rfl, rfl, Iff.rfl, rfl⟩
    split
    · refine hSet.trans ⟨rfl, rfl, rfl, rfl, Iff.rfl, ?_⟩
      cases t.setBufs regFlags |>.streamInfo <;> rfl
    · exact hSet.trans (deinitBufs_same _)

theorem regBufs_same (r : StreamResults) (is : List Nat) (s : MmStream) (d : Driver) :
    SameStream s (regBufs r is s d).1 := by
  induction is generalizing s d with
  | nil => exact .refl s
  | cons i rest ih =>
    simp only [regBufs]
    split
    · split
      · exact ((s.qbuf_same d _).trans (setStatus_same _ _ _)).trans (ih _ _)
      · exact s.qbuf_same d _
    · exact (s.setStatus_same _ _).trans (ih _ _)

theorem regBuf_same (s : MmStream) (d : Driver) (r : StreamResults) :
    SameStream s (s.regBuf d r).1 := by
  rw [regBuf]
  split
  · exact .refl s
  · have hReg := regBufs_same r (List.range s.bufNum) { s with queuedBufferCount := 0 }
      (d.reqbufs s.myHdl s.bufNum)
    exact ⟨hReg.myHdl, hReg.chObj, hReg.linkedStream, hReg.isBundled, hReg.notused,
      hReg.streamType⟩

theorem unregBuf_same (s : MmStream) (d : Driver) : SameStream s (s.unregBuf d).1 :=
  ⟨rfl, rfl, rfl, rfl, Iff.rfl, rfl⟩

theorem startStream_same (s : MmStream) (d : Driver) (r : StreamResults)
    (hUsed : s.state ≠ .notused) : SameStream s (s.startStream d r).1 := by
  simp only [startStream]
  split
  · exact ⟨rfl, rfl, rfl, rfl, ⟨nofun, fun hNot => absurd hNot hUsed⟩, rfl⟩
  · exact ⟨rfl, rfl, rfl, rfl, ⟨nofun, fun hNot => absurd hNot hUsed⟩, rfl⟩

theorem stopStream_same (s : MmStream) (d : Driver) (hUsed : s.state ≠ .notused) :
    SameStream s (s.stopStream d).1 :=
  ⟨rfl, rfl, rfl, rfl, ⟨nofun, fun hNot => absurd hNot hUsed⟩, rfl⟩

theorem fsmFn_same (s : MmStream) (d : Driver) (evt : StreamEvt) (r : StreamResults) :
    SameStream s (s.fsmFn d evt r).1 := by
  simp only [fsmFn]
  split
  · exact .refl s
  · rename_i hState
    split
    · exact (s.initBufs_same r).toState (by rw [hState]; decide) (by decide)
    · exact s.initBufs_same r
  · rename_i hState
    exact s.deinitBufs_same.toState (by rw [hState]; decide) (by decide)
  · rename_i hState
    split
    · exact (s.regBuf_same d r).toState (by rw [hState]; decide) (by decide)
    · exact s.regBuf_same d r
  · rename_i hState
    exact (s.unregBuf_same d).toState (by rw [hState]; decide) (by decide)
  · rename_i hState
    exact s.startStream_same d r (by rw [hState]; decide)
  · exact s.bufDone_same d _ _
  · rename_i hState
    exact s.stopStream_same d (by rw [hState]; decide)
  · exact .refl s

end MmStream

end KiwiDevice.Camera

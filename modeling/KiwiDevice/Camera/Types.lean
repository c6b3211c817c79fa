import Mathlib.Algebra.Order.Ring.Nat
import Mathlib.Data.List.Basic

/-!
# Data of the camera interface layer

The records of `mm_camera.h`, `mm_camera_interface.h` and `cam_types.h` that the channel and stream
code of `mm-camera-interface` reads. A `uint32_t` is a `Nat` whose additions wrap explicitly, a
`uint8_t` attribute is a `UInt8`, and a pointer that the code compares with `NULL` is an `Option`.
-/

namespace KiwiDevice.Camera

/-- `x + n` in a `uint32_t`. -/
def add32 (x n : Nat) : Nat := (x + n) % 2 ^ 32

/-- `x - n` in a `uint32_t`. -/
def sub32 (x n : Nat) : Nat :=
  if n % 2 ^ 32 ≤ x then x - n % 2 ^ 32 else 2 ^ 32 - (n % 2 ^ 32 - x)

theorem sub32_eq (n x : Nat) (h : n ≤ x) : sub32 (x % 2 ^ 32) n = (x - n) % 2 ^ 32 := by
  unfold sub32
  split <;> omega

theorem add32_eq (n x : Nat) : add32 (x % 2 ^ 32) n = (x + n) % 2 ^ 32 := by
  unfold add32
  omega

/-- `cam_stream_type_t`. -/
inductive CamStreamType where
  | default | preview | postview | snapshot | video | implDefined | yuv | metadata | raw
  | offlineProc | max
  deriving DecidableEq, Repr

/-- `mm_camera_super_buf_notify_mode_t`. -/
inductive NotifyMode where
  | burst | continuous | max
  deriving DecidableEq, Repr

/-- `mm_camera_channel_attr_t`; `priority` is compared in an empty branch only and left out. -/
structure ChannelAttr where
  notifyMode : NotifyMode := .burst
  waterMark : UInt8 := 0
  lookBack : UInt8 := 0
  postFrameSkip : UInt8 := 0
  maxUnmatchedFrames : UInt8 := 0
  deriving DecidableEq, Repr

/-- `cam_stream_crop_info_t`, with the two sides of the crop rectangle that are read. -/
structure CropInfo where
  streamId : Nat
  left : Int
  top : Int
  deriving DecidableEq, Repr

/-- `cam_prep_snapshot_state_t`. -/
inductive PrepSnapshotState where
  | doNotNeedFutureFrame | needFutureFrame
  deriving DecidableEq, Repr

/-- `cam_metadata_info_t`, as `mm_channel_handle_metadata` reads it. -/
structure MetadataInfo where
  isFrameIdReset : Bool := false
  isMetaInvalid : Bool := false
  isCropValid : Bool := false
  cropInfo : List CropInfo := []
  isPrepSnapshotDoneValid : Bool := false
  prepSnapshotDoneState : PrepSnapshotState := .doNotNeedFutureFrame
  isGoodFrameIdxRangeValid : Bool := false
  minFrameIdx : Nat := 0
  maxFrameIdx : Nat := 0
  deriving DecidableEq, Repr

/-- `mm_camera_buf_def_t`. `buffer` is the memory behind the buffer, read for metadata only. -/
structure BufDef where
  streamId : Nat
  streamType : CamStreamType
  bufIdx : Nat
  frameIdx : Nat
  buffer : Option MetadataInfo := none
  deriving DecidableEq, Repr

/-- `mm_camera_buf_info_t` of a received buffer: `mm_stream_read_msm_frame` points `buf` into the
stream's buffer array, so it is never `NULL`. -/
structure BufInfo where
  streamId : Nat
  frameIdx : Nat
  buf : BufDef
  deriving DecidableEq, Repr

/-- An entry of `super_buf`: `none` is the zeroed entry a new node starts with. -/
abbrev Slot := Option BufInfo

namespace Slot

def frameIdx : Slot → Nat
  | none => 0
  | some info => info.frameIdx

def buf : Slot → Option BufDef
  | none => none
  | some info => some info.buf

end Slot

/-- `mm_channel_queue_node_t`; `superBuf` holds its first `num_of_bufs` entries. -/
structure QueueNode where
  superBuf : List Slot
  matched : Bool
  frameIdx : Nat
  deriving DecidableEq, Repr

/-- `mm_channel_queue_t`; `nodes` and `size` are `que`, and `num_streams` is the length of
`bundledStreams`. -/
structure ChannelQueue where
  nodes : List QueueNode := []
  size : Nat := 0
  bundledStreams : List Nat := []
  attr : ChannelAttr := {}
  expectedFrameId : Nat := 0
  matchCnt : Nat := 0
  expectedFrameIdWithoutLed : Nat := 0

/-- `mm_stream_state_type_t`. -/
inductive StreamState where
  | notused | inited | acquired | cfg | buffed | reg | active
  deriving DecidableEq, Repr

/-- `cam_stream_info_t`. -/
structure StreamInfo where
  streamType : CamStreamType
  numBufs : Nat := 0
  deriving DecidableEq, Repr

/-- `mm_stream_data_cb_t` with a callback; `cbCount` is `-1` for an unlimited one. -/
structure StreamDataCb where
  cb : Nat
  cbCount : Int
  deriving DecidableEq, Repr

/-- `mm_stream_buf_status_t`. -/
structure BufStatus where
  bufRefcnt : Nat := 0
  initialRegFlag : Bool := false
  inKernel : Bool := false
  deriving DecidableEq, Repr

/-- `mm_stream_t`. Channels and streams of other channels are named by their handles. -/
structure MmStream where
  myHdl : Nat := 0
  serverStreamId : Nat := 0
  state : StreamState := .notused
  streamInfo : Option StreamInfo := none
  bufCb : List (Option StreamDataCb) := []
  cmdThreadActive : Bool := false
  bufNum : Nat := 0
  buf : Option (List BufDef) := none
  bufStatus : Option (List BufStatus) := none
  chObj : Option Nat := none
  isBundled : Bool := false
  linkedObj : Option Nat := none
  linkedStream : Option Nat := none
  isLinked : Bool := false
  queuedBufferCount : Int := 0

/-- `mm_channel_state_type_t`. -/
inductive ChannelState where
  | notused | stopped | active | paused
  deriving DecidableEq, Repr

/-- `mm_channel_bracketing_state_t`. -/
inductive BracketingState where
  | off | waitGoodFrameIdx | active
  deriving DecidableEq, Repr

/-- `mm_channel_bundle_t`; a callback is named by a number. -/
structure ChannelBundle where
  isActive : Bool := false
  superbufQueue : ChannelQueue := {}
  superBufNotifyCb : Option Nat := none
  userData : Nat := 0

/-- `mm_channel_t`. -/
structure MmChannel where
  myHdl : Nat := 0
  state : ChannelState := .notused
  bundle : ChannelBundle := {}
  pendingCnt : Nat := 0
  streams : List MmStream := []
  manualZSLSnapshot : Bool := false
  startZSlSnapshotCalled : Bool := false
  needLEDFlash : Bool := false
  previewSkipCnt : Nat := 0
  bracketingState : BracketingState := .off
  isFlashBracketingEnabled : Bool := false
  isZoom1xFrameRequested : Bool := false

namespace MmChannel

/-- The superbuf queue of the channel's bundle. -/
abbrev queue (ch : MmChannel) : ChannelQueue := ch.bundle.superbufQueue

def setQueue (ch : MmChannel) (q : ChannelQueue) : MmChannel :=
  { ch with bundle := { ch.bundle with superbufQueue := q } }

@[simp] theorem setQueue_queue (ch : MmChannel) (q : ChannelQueue) :
    (ch.setQueue q).queue = q := rfl

@[simp] theorem setQueue_setQueue (ch : MmChannel) (q q' : ChannelQueue) :
    (ch.setQueue q).setQueue q' = ch.setQueue q' := rfl

@[simp] theorem setQueue_streams (ch : MmChannel) (q : ChannelQueue) :
    (ch.setQueue q).streams = ch.streams := rfl

/-- `mm_channel_util_get_stream_by_handler`. -/
def utilGetStreamByHandler (ch : MmChannel) (handler : Nat) : Option MmStream :=
  ch.streams.find? fun s => s.state ≠ .notused ∧ handler = s.myHdl

end MmChannel

/-- What the channel code does to the outside, in order, with marks in between for the points of the
code that the properties speak about. -/
inductive Event where
  /-- `mm_channel_qbuf` is called with this buffer. -/
  | qbuf (buf : Option BufDef)
  /-- A superbuf with these buffers is queued to the callback thread. -/
  | dispatch (bufs : List (Option BufDef))
  /-- `match_cnt` is raised for the superbuf of this frame. -/
  | matched (frameIdx : Nat)
  /-- `mm_channel_superbuf_dequeue` returns the superbuf of this frame. -/
  | dequeued (frameIdx : Nat)
  /-- `mm_channel_superbuf_flush` returns. -/
  | flush
  | startZslSnapshot
  | stopZslSnapshot
  deriving DecidableEq, Repr

/-- Why a call does not return. -/
inductive Fault where
  /-- A `NULL` pointer is dereferenced. -/
  | nullDereference
  /-- A loop repeats a pass that changes nothing. -/
  | spin
  deriving DecidableEq, Repr

end KiwiDevice.Camera

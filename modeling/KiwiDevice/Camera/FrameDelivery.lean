import KiwiDevice.Camera.StreamFsm
import KiwiDevice.Lib.Steps
import Mathlib.Algebra.Order.Ring.Nat

/-!
# Delivering the frames of a stream

The way of a buffer from the kernel to its consumers and back: the data poll thread with
`mm_stream_data_notify` and `mm_stream_handle_rcvd_buf`, the command thread of the stream with
`mm_stream_dispatch_app_data`, and the consumers, each with its `mm_stream_buf_done`. A step is what
a thread does under one lock, or one call into another thread's queue.
-/

namespace KiwiDevice.Camera

/-- `MM_CAMERA_STREAM_BUF_CB_MAX`. -/
def streamBufCbMax : Nat := 4

/-- Who is given a copy of a buffer: the stream's own channel, the channel that it is linked into,
or a data callback. -/
inductive Consumer where
  | bundle | linked | dataCb
  deriving DecidableEq, Repr

/-- How far the poll thread is with a buffer, in `mm_stream_data_notify` (up to `counted`) and in
`mm_stream_handle_rcvd_buf`. -/
inductive ArrivalStage where
  | read
  | checked (hasCb : Bool)
  | counted (hasCb : Bool)
  | notified (hasCb : Bool)
  | linked (hasCb : Bool)
  | skipping (hasCb : Bool)
  deriving DecidableEq, Repr

/-- How far the command thread is in `mm_stream_dispatch_app_data`: before the callback at `i`, with
`cb_lock` held, or past the loop. -/
inductive DispatchStage where
  | calling (i : Nat)
  | called
  deriving DecidableEq, Repr

/-- An active stream; `previewSkipCnt` is its channel's. `arrival` and `dispatch` are the buffers
that the two threads are at. `copies` are the buffers that consumers have been given and not given
back, `cmdQueue` holds those on their way to the callbacks. -/
structure FrameWorld where
  stream : MmStream
  driver : Driver
  previewSkipCnt : Nat
  arrival : Option (Nat × ArrivalStage)
  cmdQueue : List Nat
  dispatch : Option (Nat × DispatchStage)
  copies : List (Consumer × Nat)

namespace MmStream

/-- `buf_refcnt`, a `uint8_t`, raised by `n`. -/
def raiseRefcnt (s : MmStream) (idx n : Nat) : MmStream :=
  s.setStatus idx { s.status idx with bufRefcnt := ((s.status idx).bufRefcnt + n) % 2 ^ 8 }

/-- The bookkeeping of `mm_stream_data_notify`. -/
def countArrival (s : MmStream) (idx : Nat) (hasCb : Bool) : MmStream :=
  let s := s.setStatus idx { s.status idx with inKernel := false }
  let s := if s.isBundled then s.raiseRefcnt idx 1 else s
  s.raiseRefcnt idx hasCb.toNat

def setBufCb (s : MmStream) (i : Nat) (cb : Option StreamDataCb) : MmStream :=
  { s with bufCb := s.bufCb.set i cb }

/-- `mm_stream_reg_buf_cb`: the first free place is taken, if there is one. -/
def regBufCb (s : MmStream) (val : StreamDataCb) : MmStream :=
  match (s.bufCb.take streamBufCbMax).findIdx? Option.isNone with
  | none => s
  | some i => s.setBufCb i (some val)

def isPreview (s : MmStream) : Bool := s.streamInfo.any fun info => info.streamType == .preview

end MmStream

namespace FrameWorld

variable (w : FrameWorld)

def give (c : Consumer) (idx : Nat) : FrameWorld := { w with copies := w.copies ++ [(c, idx)] }

/-- `mm_stream_buf_done` on the buffer of this index. -/
def bufDone (idx : Nat) (result : QbufResult) : FrameWorld :=
  let done := w.stream.bufDone w.driver ⟨w.stream.myHdl, .default, idx, 0, none⟩ result
  { w with stream := done.1, driver := done.2.1 }

/-- The command thread holds `cb_lock` while it calls. -/
def cbLockFree : Bool :=
  match w.dispatch with
  | some (_, .calling _) => false
  | _ => true

/-- The callback at `i`, and what becomes of its `cb_count`. -/
def callBack (idx i : Nat) : FrameWorld :=
  match (w.stream.bufCb[i]?).join with
  | none => w
  | some cb =>
    let called := if cb.cbCount ≠ 0 then
        { w with stream := w.stream.raiseRefcnt idx 1 }.give .dataCb idx
      else w
    if cb.cbCount > 0 then
      let left := if cb.cbCount - 1 = 0 then none else some { cb with cbCount := cb.cbCount - 1 }
      { called with stream := called.stream.setBufCb i left }
    else called

/-- What the threads do, with the answers of the outside: whether a node can be allocated, and how
the queueing of a buffer goes. -/
inductive Input where
  | readFrame (idx : Nat)
  | checkCbs
  | count
  | notifyChannel (alloc : Bool)
  | notifyLinked (alloc : Bool)
  | skipOrEnqueue (alloc : Bool)
  | skipDone (result : QbufResult)
  | dispatchBegin
  | callNext
  | dispatchDone (result : QbufResult)
  | bufDone (c : Consumer) (idx : Nat) (result : QbufResult)
  | regBufCb (val : StreamDataCb)
  | setLinked (linkedObj : Option Nat)
  | setPreviewSkip (n : Nat)
  deriving Repr

/-- A frame is in a buffer that the kernel has, and a consumer gives back what it was given. -/
def step (w : FrameWorld) : Input → Option FrameWorld
  | .readFrame idx =>
    if w.arrival = none ∧ (w.stream.status idx).inKernel = true then
      some { w with arrival := some (idx, .read) }
    else none
  | .checkCbs =>
    match w.arrival with
    | some (idx, .read) =>
      if w.cbLockFree = true then
        some { w with arrival := some (idx, .checked w.stream.hasCb) }
      else none
    | _ => none
  | .count =>
    match w.arrival with
    | some (idx, .checked hasCb) =>
      some { w with
        stream := w.stream.countArrival idx hasCb
        arrival := some (idx, .counted hasCb) }
    | _ => none
  | .notifyChannel alloc =>
    match w.arrival with
    | some (idx, .counted hasCb) =>
      some { (if w.stream.isBundled = true ∧ alloc = true then w.give .bundle idx else w) with
        arrival := some (idx, .notified hasCb) }
    | _ => none
  | .notifyLinked alloc =>
    match w.arrival with
    | some (idx, .notified hasCb) =>
      let raised := if w.stream.isLinked then
          { w with stream := w.stream.raiseRefcnt idx 1 }
        else w
      some { (if w.stream.isLinked = true ∧ alloc = true then raised.give .linked idx else raised)
        with arrival := some (idx, .linked hasCb) }
    | _ => none
  | .skipOrEnqueue alloc =>
    match w.arrival with
    | some (idx, .linked hasCb) =>
      if w.previewSkipCnt ≠ 0 ∧ w.stream.isPreview = true then
        some { w with
          previewSkipCnt := w.previewSkipCnt - 1
          arrival := some (idx, .skipping hasCb) }
      else
        some { w with
          cmdQueue :=
            if hasCb = true ∧ w.stream.cmdThreadActive = true ∧ alloc = true then
              w.cmdQueue ++ [idx]
            else w.cmdQueue
          arrival := none }
    | _ => none
  | .skipDone result =>
    match w.arrival with
    | some (idx, .skipping _) => some { w.bufDone idx result with arrival := none }
    | _ => none
  | .dispatchBegin =>
    match w.dispatch, w.cmdQueue with
    | none, idx :: rest => some { w with cmdQueue := rest, dispatch := some (idx, .calling 0) }
    | _, _ => none
  | .callNext =>
    match w.dispatch with
    | some (idx, .calling i) =>
      if i < streamBufCbMax then
        some { w.callBack idx i with dispatch := some (idx, .calling (i + 1)) }
      else some { w with dispatch := some (idx, .called) }
    | _ => none
  | .dispatchDone result =>
    match w.dispatch with
    | some (idx, .called) => some { w.bufDone idx result with dispatch := none }
    | _ => none
  | .bufDone c idx result =>
    if (c, idx) ∈ w.copies then
      some { w.bufDone idx result with copies := w.copies.erase (c, idx) }
    else none
  | .regBufCb val =>
    if w.cbLockFree = true then some { w with stream := w.stream.regBufCb val } else none
  | .setLinked linkedObj =>
    some { w with stream := { w.stream with linkedObj, isLinked := linkedObj.isSome } }
  | .setPreviewSkip n => some { w with previewSkipCnt := n }

def Next (w : FrameWorld) (i : Input) (_ : List Unit) (w' : FrameWorld) : Prop :=
  w.step i = some w'

end FrameWorld

end KiwiDevice.Camera

import KiwiDevice.Lib.Steps
import KiwiDevice.Lib.Condition
import Mathlib.Logic.Function.Basic

/-!
# The locks of the camera interface

Client threads and the callback threads of the channels take `g_intf_lock`, `cam_lock` and
`ch_lock`. A stop, and a start that fails, ends the command thread and the callback thread of the
channel with `ch_lock` held.
-/

namespace KiwiDevice.Camera

/-- A thread: a client, or the callback or the command thread of a channel. -/
inductive Agent where
  | client (t : Nat)
  | cb (ch : Nat)
  | cmd (ch : Nat)
  deriving DecidableEq, Repr

/-- An operation under `ch_lock`. A start may fail, with a number of linked streams to flush for; a
stop flushes for its linked streams, too. `command` is any operation that only queues a command, and
`direct` any that only works on the streams. -/
inductive ChannelCall where
  | start (failed : Option Nat)
  | stop (linked : Nat)
  | flush
  | command
  | direct
  deriving DecidableEq, Repr

/-- An operation of `mm_camera_ops`; a channel is `none` for an unknown handle. -/
inductive CameraCall where
  | camera
  | qbuf
  | channel (ch : Option Nat) (call : ChannelCall)
  deriving DecidableEq, Repr

/-- What comes after the flushes, and after the threads have ended. -/
inductive AfterFlush where
  | done
  | stopped
  | failed
  deriving DecidableEq, Repr

/-- Where a thread is; the wait stages are those before a lock or an end is obtained. -/
inductive LockStage where
  | idle
  | intfWait (call : CameraCall)
  | camWait (call : CameraCall)
  | camHeld (call : CameraCall)
  | camBody (call : CameraCall)
  | chWait (ch : Nat) (call : ChannelCall)
  | chHeld (ch : Nat) (call : ChannelCall)
  | chBody (ch : Nat) (call : ChannelCall)
  | starting (ch : Nat) (failed : Option Nat)
  | flushing (ch flushes : Nat) (after : AfterFlush)
  | syncing (ch flushes : Nat) (after : AfterFlush)
  | joinCmd (ch : Nat) (after : AfterFlush)
  | joinCb (ch : Nat) (after : AfterFlush)
  | leaving (ch : Nat)
  | tail
  deriving DecidableEq, Repr

/-- A command of the command thread; `work` is a received buffer or a request. -/
inductive ChannelCmd where
  | work
  | flush
  | exit
  deriving DecidableEq, Repr

inductive CallbackCmd where
  | superbuf
  | exit
  deriving DecidableEq, Repr

/-- `mm_camera_cmd_thread_t`; a thread that has seen its exit still runs until its queue
is empty. -/
structure Worker (κ : Type) where
  alive : Bool := false
  running : Bool := false
  queue : List κ := []

/-- A channel; `active` is whether its state is `ACTIVE`, and not `STOPPED`, `inCallback` whether
its callback thread runs `super_buf_notify_cb`. -/
structure LockChannel where
  chLock : Option Agent := none
  active : Bool := false
  hasCb : Bool
  isActive : Bool := false
  cmd : Worker ChannelCmd := {}
  syncSem : Nat := 0
  cb : Worker CallbackCmd := {}
  inCallback : Bool := false

structure LockWorld where
  intfLock : Option Agent := none
  camLock : Option Agent := none
  channels : Nat → LockChannel
  stages : Agent → LockStage := fun _ => .idle

namespace LockWorld

/-- `call` is a call by a client, `qbuf` one from a superbuf callback. The command thread dispatches
a number of superbufs for a command; `data` is a buffer that a data thread queues for it. -/
inductive Input where
  | call (t : Nat) (call : CameraCall)
  | qbuf (ch : Nat)
  | run (a : Agent)
  | data (ch : Nat)
  | cmdRun (ch dispatched : Nat)
  | cmdEnd (ch : Nat)
  | cbRun (ch : Nat)
  | cbReturn (ch : Nat)
  | cbEnd (ch : Nat)

variable (w : LockWorld)

def setStage (a : Agent) (stage : LockStage) : LockWorld :=
  { w with stages := Function.update w.stages a stage }

def setChannel (ch : Nat) (channel : LockChannel) : LockWorld :=
  { w with channels := Function.update w.channels ch channel }

/-- `mm_channel_fsm_fn` on an operation; a refused one only gives the lock back. -/
def dispatch (a : Agent) (ch : Nat) : ChannelCall → LockWorld
  | .start failed =>
    let c := w.channels ch
    if c.active then w.setStage a (.leaving ch)
    else if c.hasCb then
      (w.setChannel ch { c with
        isActive := true
        syncSem := 0
        cmd := { alive := true, running := true }
        cb := { alive := true, running := true } }).setStage a (.starting ch failed)
    else w.setStage a (.starting ch failed)
  | .stop linked =>
    let c := w.channels ch
    if c.active then
      if c.isActive then w.setStage a (.flushing ch linked .stopped)
      else (w.setChannel ch { c with active := false }).setStage a (.leaving ch)
    else w.setStage a (.leaving ch)
  | .flush =>
    if (w.channels ch).active then w.setStage a (.flushing ch 1 .done)
    else w.setStage a (.leaving ch)
  | .command =>
    let c := w.channels ch
    if c.active then
      (w.setChannel ch { c with cmd := { c.cmd with queue := c.cmd.queue ++ [.work] } }).setStage a
        (.leaving ch)
    else w.setStage a (.leaving ch)
  | .direct => w.setStage a (.leaving ch)

/-- The channel once both threads have ended. -/
def released (c : LockChannel) : AfterFlush → LockChannel
  | .done => c
  | .stopped => { c with active := false }
  | .failed => { c with isActive := false, hasCb := false }

/-- The next step of a thread in an operation. -/
def advance (a : Agent) : Option LockWorld :=
  match w.stages a with
  | .idle => none
  | .intfWait call =>
    if w.intfLock = none then some { w.setStage a (.camWait call) with intfLock := some a } else none
  | .camWait call =>
    if w.camLock = none then some { w.setStage a (.camHeld call) with camLock := some a } else none
  | .camHeld call => some { w.setStage a (.camBody call) with intfLock := none }
  | .camBody .camera => some { w.setStage a .idle with camLock := none }
  | .camBody .qbuf => some { w.setStage a .tail with camLock := none }
  | .camBody (.channel none _) => some { w.setStage a .idle with camLock := none }
  | .camBody (.channel (some ch) call) => some (w.setStage a (.chWait ch call))
  | .chWait ch call =>
    let c := w.channels ch
    if c.chLock = none then
      some ((w.setChannel ch { c with chLock := some a }).setStage a (.chHeld ch call))
    else none
  | .chHeld ch call => some { w.setStage a (.chBody ch call) with camLock := none }
  | .chBody ch call => some (w.dispatch a ch call)
  | .starting ch none =>
    some ((w.setChannel ch { w.channels ch with active := true }).setStage a (.leaving ch))
  | .starting ch (some linked) =>
    if (w.channels ch).isActive then some (w.setStage a (.flushing ch linked .failed))
    else some (w.setStage a (.leaving ch))
  | .flushing ch (flushes + 1) after =>
    let c := w.channels ch
    some ((w.setChannel ch { c with cmd := { c.cmd with queue := c.cmd.queue ++ [.flush] } }).setStage
      a (.syncing ch flushes after))
  | .flushing ch 0 .done => some (w.setStage a (.leaving ch))
  | .flushing ch 0 after =>
    let c := w.channels ch
    some ((w.setChannel ch { c with cmd := { c.cmd with queue := c.cmd.queue ++ [.exit] } }).setStage
      a (.joinCmd ch after))
  | .syncing ch flushes after =>
    let c := w.channels ch
    if 0 < c.syncSem then
      some ((w.setChannel ch { c with syncSem := c.syncSem - 1 }).setStage a
        (.flushing ch flushes after))
    else none
  | .joinCmd ch after =>
    let c := w.channels ch
    if c.cmd.alive then none
    else
      some ((w.setChannel ch { c with
        cmd := {}
        syncSem := 0
        cb := { c.cb with queue := c.cb.queue ++ [.exit] } }).setStage a (.joinCb ch after))
  | .joinCb ch after =>
    let c := w.channels ch
    if c.cb.alive then none
    else some ((w.setChannel ch (released { c with cb := {} } after)).setStage a (.leaving ch))
  | .leaving ch =>
    some ((w.setChannel ch { w.channels ch with chLock := none }).setStage a .idle)
  | .tail => some (w.setStage a .idle)

def step (w : LockWorld) : Input → Option LockWorld
  | .call t call =>
    if w.stages (.client t) = .idle then some (w.setStage (.client t) (.intfWait call)) else none
  | .qbuf ch =>
    if (w.channels ch).inCallback ∧ w.stages (.cb ch) = .idle then
      some (w.setStage (.cb ch) (.intfWait .qbuf))
    else none
  | .run a => w.advance a
  | .data ch =>
    let c := w.channels ch
    if c.cmd.alive then
      some (w.setChannel ch { c with cmd := { c.cmd with queue := c.cmd.queue ++ [.work] } })
    else none
  | .cmdRun ch dispatched =>
    let c := w.channels ch
    match c.cmd.alive, c.cmd.queue with
    | true, .work :: rest =>
      some (w.setChannel ch { c with
        cmd := { c.cmd with queue := rest }
        cb := { c.cb with queue := c.cb.queue ++ List.replicate dispatched .superbuf } })
    | true, .flush :: rest =>
      some (w.setChannel ch { c with cmd := { c.cmd with queue := rest }, syncSem := c.syncSem + 1 })
    | true, .exit :: rest =>
      some (w.setChannel ch { c with cmd := { c.cmd with queue := rest, running := false } })
    | _, _ => none
  | .cmdEnd ch =>
    let c := w.channels ch
    if c.cmd.alive ∧ ¬ c.cmd.running ∧ c.cmd.queue = [] then
      some (w.setChannel ch { c with cmd := { c.cmd with alive := false } })
    else none
  | .cbRun ch =>
    let c := w.channels ch
    match c.cb.alive, c.inCallback, c.cb.queue with
    | true, false, .superbuf :: rest =>
      some (w.setChannel ch { c with cb := { c.cb with queue := rest }, inCallback := true })
    | true, false, .exit :: rest =>
      some (w.setChannel ch { c with cb := { c.cb with queue := rest, running := false } })
    | _, _, _ => none
  | .cbReturn ch =>
    let c := w.channels ch
    if c.inCallback ∧ w.stages (.cb ch) = .idle then
      some (w.setChannel ch { c with inCallback := false })
    else none
  | .cbEnd ch =>
    let c := w.channels ch
    if c.cb.alive ∧ ¬ c.inCallback ∧ ¬ c.cb.running ∧ c.cb.queue = [] then
      some (w.setChannel ch { c with cb := { c.cb with alive := false } })
    else none

def Next (w : LockWorld) (i : Input) (_ : List Unit) (w' : LockWorld) : Prop := w.step i = some w'

/-- All channels are stopped, with or without a superbuf callback. -/
def start (hasCb : Nat → Bool) : LockWorld where
  channels ch := { hasCb := hasCb ch }

/-- `a` waits for a lock that `b` holds, or for the end of `b`. -/
def Waits (a b : Agent) : Prop :=
  match w.stages a with
  | .intfWait _ => w.intfLock = some b
  | .camWait _ => w.camLock = some b
  | .chWait ch _ => (w.channels ch).chLock = some b
  | .joinCmd ch _ => b = .cmd ch ∧ (w.channels ch).cmd.alive = true
  | .joinCb ch _ => b = .cb ch ∧ (w.channels ch).cb.alive = true
  | _ => False

end LockWorld

end KiwiDevice.Camera

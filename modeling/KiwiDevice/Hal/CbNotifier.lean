import KiwiDevice.Hal.DeferredWork

/-!
# The callback notifier

`QCameraCbNotifier` after `setCallbacks` and before `exit`. The lock of each of its two queues is
held within one call of the queue, so a step of a caller or of the thread is one such call, one call
of the semaphore, or the handling of a notification that is out of the queue. What the thread
handles it decides with its own variables.
-/

namespace KiwiDevice.Hal

universe u

/-- No value is left for the `default` of the thread. -/
inductive CallbackType where
  | notifyCallback
  | dataCallback
  | dataTimestampCallback
  | dataSnapshotCallback
  deriving DecidableEq, Repr

abbrev CAMERA_MSG_VIDEO_FRAME : Int := 0x20

/-- `args` are the arguments of the callbacks; of the release callback it matters whether there is
one. -/
structure CallbackArgm (δ : Type u) where
  cbType : CallbackType
  msgType : Int
  args : δ
  releaseCb : Bool
  deriving DecidableEq, Repr

/-- An argument that `notifyCallback` allocated, told from the others by its number. -/
structure Notification (δ : Type u) where
  number : Nat
  arg : CallbackArgm δ
  deriving DecidableEq, Repr

inductive CbStatus where
  | noError
  | invalidOperation
  | failedTransaction
  deriving DecidableEq, Repr

inductive SnapshotMode where
  | start
  | stop
  deriving DecidableEq, Repr

def SnapshotMode.cmd : SnapshotMode → CameraCmdType
  | .start => .startDataProc
  | .stop => .stopDataProc

def SnapshotMode.other : SnapshotMode → SnapshotMode
  | .start => .stop
  | .stop => .start

/-- Where the thread is: in `cam_sem_wait`, back from it, with a command, or with a notification. -/
inductive CbThread (δ : Type u) where
  | waiting
  | getting
  | took (cmd : CameraCmdType)
  | delivering (cb : Notification δ)
  | exited
  deriving DecidableEq, Repr

/-- `sending` counts the calls of `notifyCallback` that are between the two queues, `posting` those
of `sendCmd` that have yet to post the semaphore. -/
structure CbNotifier (δ : Type u) where
  mActive : Bool
  mNotifyCb : Bool
  mDataCb : Bool
  mDataCbTimestamp : Bool
  mDataQ : List (Notification δ)
  cmdQueue : List CameraCmdType
  cmdSem : Nat
  thread : CbThread δ
  isSnapshotActive : Bool
  longShotEnabled : Bool
  numOfSnapshotExpected : BitVec 32
  numOfSnapshotRcvd : BitVec 32
  sending : Nat
  posting : Nat
  posted : Nat
  deriving DecidableEq, Repr

/-- What the allocators give, and what the thread asks `mParent`. -/
inductive CbInput (δ : Type u) where
  | notifyCallback (cbArgs : CallbackArgm δ) (cbArg dataNode : Bool)
  | sendJob (cmdNode queueNode : Bool)
  | snapshots (mode : SnapshotMode) (cmdNode queueNode : Bool)
  | semPost
  | flushVideoNotifications
  | semWait
  | getCmd
  | perform (numOfSnapshotsExpected : BitVec 32) (isLongshotEnabled : Bool)
  | deliver (msgTypeEnabled : Bool)

/-- `posted` and `issued` are the entries into the two queues; `released` is the call of the release
callback, if there is one, and the end of the notification. -/
inductive CbEvent (δ : Type u) where
  | posted (cb : Notification δ)
  | issued (mode : SnapshotMode)
  | refused
  | started (numOfSnapshotExpected : BitVec 32) (longShotEnabled : Bool)
  | stopped
  | snapshotDone
  | handed (cb : Notification δ)
  | released (cb : Notification δ) (status : CbStatus)
  deriving DecidableEq, Repr

namespace CbNotifier

variable {δ : Type u}

/-- The state after `setCallbacks` with all callbacks. -/
def setCallbacks : CbNotifier δ where
  mActive := true
  mNotifyCb := true
  mDataCb := true
  mDataCbTimestamp := true
  mDataQ := []
  cmdQueue := []
  cmdSem := 0
  thread := .waiting
  isSnapshotActive := false
  longShotEnabled := false
  numOfSnapshotExpected := 0
  numOfSnapshotRcvd := 0
  sending := 0
  posting := 0
  posted := 0

def matchSnapshotNotifications (cb : Notification δ) : Bool :=
  cb.arg.cbType = .dataSnapshotCallback

def matchTimestampNotifications (cb : Notification δ) : Bool :=
  cb.arg.cbType = .dataTimestampCallback ∧ cb.arg.msgType = CAMERA_MSG_VIDEO_FRAME

/-- `sendCmd` up to the semaphore; it does not look at what the queue returns. -/
def sendCmd (s : CbNotifier δ) (cmd : CameraCmdType) (priority cmdNode queueNode : Bool) :
    CbNotifier δ × Bool :=
  if cmdNode then
    let queued := if priority then cmd :: s.cmdQueue else s.cmdQueue ++ [cmd]
    ({ s with
        cmdQueue := if queueNode then queued else s.cmdQueue
        posting := s.posting + 1 }, true)
  else (s, false)

/-- `notifyCallback` up to `sendCmd`. -/
def notifyCallback (s : CbNotifier δ) (cbArgs : CallbackArgm δ) (cbArg dataNode : Bool) :
    CbNotifier δ × List (CbEvent δ) :=
  if s.mActive && cbArg && dataNode then
    let cb := ⟨s.posted, cbArgs⟩
    ({ s with
        mDataQ := s.mDataQ ++ [cb]
        sending := s.sending + 1
        posted := s.posted + 1 }, [.posted cb])
  else (s, [.refused])

def startSnapshots (s : CbNotifier δ) (cmdNode queueNode : Bool) : CbNotifier δ × Bool :=
  s.sendCmd .startDataProc true cmdNode queueNode

def stopSnapshots (s : CbNotifier δ) (cmdNode queueNode : Bool) : CbNotifier δ × Bool :=
  s.sendCmd .stopDataProc true cmdNode queueNode

def snapshots (s : CbNotifier δ) (mode : SnapshotMode) (cmdNode queueNode : Bool) :
    CbNotifier δ × List (CbEvent δ) :=
  let sent := match mode with
    | .start => s.startSnapshots cmdNode queueNode
    | .stop => s.stopSnapshots cmdNode queueNode
  (sent.1, if sent.2 then [.issued mode] else [.refused])

def flushNodes (s : CbNotifier δ) (isMatch : Notification δ → Bool) :
    CbNotifier δ × List (CbEvent δ) :=
  ({ s with mDataQ := s.mDataQ.filter fun cb => !isMatch cb },
    (s.mDataQ.filter isMatch).map fun cb => .released cb .failedTransaction)

def flushVideoNotifications (s : CbNotifier δ) : CbNotifier δ × List (CbEvent δ) :=
  if s.mActive then s.flushNodes matchTimestampNotifications else (s, [])

def getCmd (s : CbNotifier δ) : CbNotifier δ :=
  match s.cmdQueue with
  | [] => { s with thread := .took .none }
  | cmd :: cmdQueue => { s with thread := .took cmd, cmdQueue }

/-- The thread with a command, up to the notification that it takes out. -/
def perform (s : CbNotifier δ) (cmd : CameraCmdType) (numOfSnapshotsExpected : BitVec 32)
    (isLongshotEnabled : Bool) : CbNotifier δ × List (CbEvent δ) :=
  match cmd with
  | .startDataProc =>
    ({ s with
        thread := .waiting
        isSnapshotActive := true
        numOfSnapshotExpected := numOfSnapshotsExpected
        longShotEnabled := isLongshotEnabled
        numOfSnapshotRcvd := 0 }, [.started numOfSnapshotsExpected isLongshotEnabled])
  | .stopDataProc =>
    let flushed := s.flushNodes matchSnapshotNotifications
    ({ flushed.1 with
        thread := .waiting
        isSnapshotActive := false
        numOfSnapshotExpected := 0
        numOfSnapshotRcvd := 0 }, .stopped :: flushed.2)
  | .doNextJob =>
    match s.mDataQ with
    | [] => ({ s with thread := .waiting }, [])
    | cb :: mDataQ => ({ s with thread := .delivering cb, mDataQ }, [])
  | .exit =>
    let flushed := s.flushNodes fun _ => true
    ({ flushed.1 with thread := .exited }, flushed.2)
  | .none => ({ s with thread := .waiting }, [])

/-- The callbacks of a notification whose message is enabled. -/
def handle (s : CbNotifier δ) (cb : Notification δ) : CbNotifier δ × List (CbEvent δ) :=
  match cb.arg.cbType with
  | .notifyCallback => (s, if s.mNotifyCb then [.handed cb] else [])
  | .dataCallback => (s, if s.mDataCb then [.handed cb] else [])
  | .dataTimestampCallback => (s, if s.mDataCbTimestamp then [.handed cb] else [])
  | .dataSnapshotCallback =>
    if s.isSnapshotActive && s.mDataCb then
      if s.longShotEnabled then (s, [.handed cb])
      else
        let numOfSnapshotRcvd := s.numOfSnapshotRcvd + 1
        let isDone := 0 < s.numOfSnapshotExpected ∧ s.numOfSnapshotExpected = numOfSnapshotRcvd
        ({ s with numOfSnapshotRcvd },
          if isDone then [.snapshotDone, .handed cb] else [.handed cb])
    else (s, [])

def deliver (s : CbNotifier δ) (cb : Notification δ) (msgTypeEnabled : Bool) :
    CbNotifier δ × List (CbEvent δ) :=
  if msgTypeEnabled then
    let handled := s.handle cb
    ({ handled.1 with thread := .waiting }, handled.2 ++ [.released cb .noError])
  else ({ s with thread := .waiting }, [.released cb .invalidOperation])

def step (s : CbNotifier δ) : CbInput δ → Option (CbNotifier δ × List (CbEvent δ))
  | .notifyCallback cbArgs cbArg dataNode => some (s.notifyCallback cbArgs cbArg dataNode)
  | .sendJob cmdNode queueNode =>
    match s.sending with
    | 0 => none
    | n + 1 =>
      let sent := ({ s with sending := n } : CbNotifier δ).sendCmd .doNextJob false cmdNode queueNode
      some (sent.1, if sent.2 then [] else [.refused])
  | .snapshots mode cmdNode queueNode => some (s.snapshots mode cmdNode queueNode)
  | .semPost =>
    match s.posting with
    | 0 => none
    | n + 1 => some ({ s with posting := n, cmdSem := s.cmdSem + 1 }, [])
  | .flushVideoNotifications => some s.flushVideoNotifications
  | .semWait =>
    match s.thread, s.cmdSem with
    | .waiting, n + 1 => some ({ s with thread := .getting, cmdSem := n }, [])
    | _, _ => none
  | .getCmd =>
    match s.thread with
    | .getting => some (s.getCmd, [])
    | _ => none
  | .perform numOfSnapshotsExpected isLongshotEnabled =>
    match s.thread with
    | .took cmd => some (s.perform cmd numOfSnapshotsExpected isLongshotEnabled)
    | _ => none
  | .deliver msgTypeEnabled =>
    match s.thread with
    | .delivering cb => some (s.deliver cb msgTypeEnabled)
    | _ => none

def Next (s : CbNotifier δ) (i : CbInput δ) (o : List (CbEvent δ)) (s' : CbNotifier δ) : Prop :=
  s.step i = some (s', o)

end CbNotifier

end KiwiDevice.Hal

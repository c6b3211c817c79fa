import KiwiDevice.Lib.Condition
import KiwiDevice.Lib.Steps

/-!
# Deferred work

`queueDefferedWork` and `waitDefferedWork` hold `mDeffLock`, and the worker cannot see a job before
its semaphore is posted, which is the last thing that `queueDefferedWork` does; so each call is one
step. The worker holds the lock only while it clears the slot of a job and wakes those who wait.
-/

namespace KiwiDevice.Hal

universe u

abbrev MAX_ONGOING_JOBS : Nat := 25

/-- A channel is a number, and `NULL` is `none`. -/
inductive DefferedWorkCmd where
  | allocateBuff (ch : Option Nat) (type : Nat)
  | pprocStart (ch : Option Nat)
  | max
  deriving DecidableEq, Repr

structure DeffWork where
  cmd : DefferedWorkCmd
  id : Nat
  deriving DecidableEq, Repr

inductive CameraCmdType where
  | none
  | startDataProc
  | stopDataProc
  | doNextJob
  | exit
  deriving DecidableEq, Repr

inductive DeffWorker where
  | waiting
  | executing (dw : DeffWork)
  | exited
  | aborted
  deriving DecidableEq, Repr

/-- `asserts` tells whether `assert` is compiled in. The condition has the threads with the ids they
wait for. -/
structure DeffState (τ : Type u) where
  mDeffOngoingJobs : Nat → Bool
  mCmdQueue : List DeffWork
  cmdQueue : List CameraCmdType
  cmdSem : Nat
  syncSem : Nat
  isActive : Bool
  worker : DeffWorker
  mDeffCond : Lib.Condition (τ × Nat)
  asserts : Bool

/-- `malloc` gives the nodes of the two queues or not; a signal wakes `pick`; `started` is what
`m_postprocessor.start` returns. -/
inductive DeffInput (τ : Type u) where
  | queue (cmd : DefferedWorkCmd) (workNode cmdNode : Bool)
  | wait (t : τ) (jobId : Int)
  | resume (w : τ × Nat)
  | spurious (w : τ × Nat)
  | nextCmd
  | finish (pick : Option (τ × Nat)) (started : Bool)

inductive DeffEvent (τ : Type u) where
  | queued (dw : DeffWork)
  | refused
  | blocked (t : τ) (jobId : Int)
  | returned (t : τ) (jobId : Int)
  | invalidWork
  | invalidChannel (dw : DeffWork)
  | incorrectCommand (dw : DeffWork)
  | executed (dw : DeffWork)
  | errorNotified
  deriving DecidableEq

namespace DeffState

variable {τ : Type u}

/-- The state after the constructor. -/
def init (asserts : Bool) : DeffState τ where
  mDeffOngoingJobs := fun _ => false
  mCmdQueue := []
  cmdQueue := [.startDataProc]
  cmdSem := 1
  syncSem := 0
  isActive := false
  worker := .waiting
  mDeffCond := .idle
  asserts := asserts

def setOngoing (s : DeffState τ) (i : Nat) (b : Bool) : DeffState τ :=
  { s with mDeffOngoingJobs := fun j => if j = i then b else s.mDeffOngoingJobs j }

def sendCmd (s : DeffState τ) (cmd : CameraCmdType) (node : Bool) : DeffState τ :=
  if node then { s with cmdQueue := s.cmdQueue ++ [cmd], cmdSem := s.cmdSem + 1 } else s

def freeSlot (s : DeffState τ) : Option Nat :=
  (List.range MAX_ONGOING_JOBS).find? fun i => !s.mDeffOngoingJobs i

def queueDefferedWork (s : DeffState τ) (cmd : DefferedWorkCmd) (workNode cmdNode : Bool) :
    DeffState τ × DeffEvent τ :=
  match s.freeSlot with
  | some i =>
    let mCmdQueue := if workNode then s.mCmdQueue ++ [⟨cmd, i⟩] else s.mCmdQueue
    ((({ s with mCmdQueue } : DeffState τ).setOngoing i true).sendCmd .doNextJob cmdNode,
      .queued ⟨cmd, i⟩)
  | none => (s, .refused)

/-- The loop of `waitDefferedWork`. -/
def waitLoop (s : DeffState τ) (t : τ) (jobId : Nat) : DeffState τ × DeffEvent τ :=
  if s.mDeffOngoingJobs jobId then
    ({ s with mDeffCond := s.mDeffCond.wait (t, jobId) }, .blocked t jobId)
  else (s, .returned t jobId)

def waitDefferedWork (s : DeffState τ) (t : τ) (jobId : Int) : DeffState τ × DeffEvent τ :=
  if MAX_ONGOING_JOBS ≤ jobId ∨ 0 > jobId then (s, .returned t jobId)
  else s.waitLoop t jobId.toNat

/-- The worker has a job, up to the point where it works on the channel. -/
def startWork (s : DeffState τ) (dw : DeffWork) : DeffState τ × List (DeffEvent τ) :=
  match dw.cmd with
  | .allocateBuff ch _ =>
    if ch = none then (s, [.invalidChannel dw]) else ({ s with worker := .executing dw }, [])
  | .pprocStart ch =>
    if s.asserts && ch.isNone then ({ s with worker := .aborted }, [])
    else ({ s with worker := .executing dw }, [])
  | .max => (s, [.incorrectCommand dw])

/-- One command of the queue. -/
def runCmd (s : DeffState τ) (cmd : CameraCmdType) : DeffState τ × List (DeffEvent τ) :=
  match cmd with
  | .startDataProc => ({ s with isActive := true }, [])
  | .stopDataProc => ({ s with isActive := false, syncSem := s.syncSem + 1 }, [])
  | .doNextJob =>
    match s.mCmdQueue with
    | [] => (s, [.invalidWork])
    | dw :: mCmdQueue => ({ s with mCmdQueue } : DeffState τ).startWork dw
  | .exit => ({ s with worker := .exited }, [])
  | .none => (s, [])

/-- The worker waits for `cmd_sem` and gets a command. -/
def nextCmd (s : DeffState τ) : Option (DeffState τ × List (DeffEvent τ)) :=
  match s.worker, s.cmdSem with
  | .waiting, n + 1 =>
    match s.cmdQueue with
    | [] => some (({ s with cmdSem := n } : DeffState τ).runCmd .none)
    | cmd :: cmdQueue => some (({ s with cmdSem := n, cmdQueue } : DeffState τ).runCmd cmd)
  | _, _ => none

variable [DecidableEq τ]

/-- The job is done, and the worker wakes those who wait: one for the buffers, all for
the postprocessor. -/
def finish (s : DeffState τ) (pick : Option (τ × Nat)) (started : Bool) :
    Option (DeffState τ × List (DeffEvent τ)) :=
  match s.worker with
  | .executing dw =>
    let cleared := { s.setOngoing dw.id false with worker := .waiting }
    match dw.cmd with
    | .allocateBuff _ _ =>
      (s.mDeffCond.signal pick).map fun mDeffCond => ({ cleared with mDeffCond }, [.executed dw])
    | .pprocStart _ =>
      let notified := if started then [] else [.errorNotified]
      some ({ cleared with mDeffCond := s.mDeffCond.broadcast }, notified ++ [.executed dw])
    | .max => none
  | _ => none

/-- A thread is in at most one call. -/
def Free (s : DeffState τ) (t : τ) : Prop := ∀ w, s.mDeffCond.Inside w → w.1 ≠ t

inductive Next (s : DeffState τ) : DeffInput τ → List (DeffEvent τ) → DeffState τ → Prop where
  | queue (cmd : DefferedWorkCmd) (workNode cmdNode : Bool) :
      Next s (.queue cmd workNode cmdNode) [(s.queueDefferedWork cmd workNode cmdNode).2]
        (s.queueDefferedWork cmd workNode cmdNode).1
  | wait (t : τ) (jobId : Int) (ready : s.Free t) :
      Next s (.wait t jobId) [(s.waitDefferedWork t jobId).2] (s.waitDefferedWork t jobId).1
  | resume (w : τ × Nat) {resumed : DeffState τ} (ready : w ∈ s.mDeffCond.woken)
      (h : resumed = { s with mDeffCond := s.mDeffCond.resume w }) :
      Next s (.resume w) [(resumed.waitLoop w.1 w.2).2] (resumed.waitLoop w.1 w.2).1
  | spurious {w : τ × Nat} (ready : w ∈ s.mDeffCond.waiting) :
      Next s (.spurious w) [] { s with mDeffCond := s.mDeffCond.wake w }
  | nextCmd {o : List (DeffEvent τ)} {s' : DeffState τ} (h : s.nextCmd = some (s', o)) :
      Next s .nextCmd o s'
  | finish {pick : Option (τ × Nat)} {started : Bool} {o : List (DeffEvent τ)} {s' : DeffState τ}
      (h : s.finish pick started = some (s', o)) : Next s (.finish pick started) o s'

end DeffState

end KiwiDevice.Hal

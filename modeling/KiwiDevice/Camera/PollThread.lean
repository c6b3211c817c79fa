import KiwiDevice.Lib.Condition
import KiwiDevice.Lib.Steps
import Mathlib.Logic.Function.Basic

/-!
# The data poll thread

Updates of the poll entries go to the thread as commands in a pipe. Each read or write of an entry
or of the pipe is a step, and so is each part of a call between two operations on the mutex. What
`write` returns and whom the signal wakes are inputs; a write of a full pipe waits for room, with
the mutex held. The thread is running: nobody sends the exit command.
-/

namespace KiwiDevice.Camera.PollThread

open Lib (Condition)

universe u

def MAX_STREAM_NUM_IN_BUNDLE : Nat := 4

inductive PipeCmd where
  | pollEntriesUpdated
  | pollEntriesUpdatedAsync
  | commit
  deriving DecidableEq, Repr

/-- What the data thread uses of a `mm_camera_poll_entry_t`. -/
structure PollEntry where
  fd : Int
  handler : Nat
  deriving DecidableEq, Repr

inductive PollCall where
  | addPollFd (handler : Nat) (fd : Int) (sync : Bool)
  | delPollFd (handler : Nat) (sync : Bool)
  | commitUpdates
  | notifyEntriesUpdated
  deriving DecidableEq, Repr

namespace PollCall

def sync : PollCall → Bool
  | addPollFd _ _ sync => sync
  | delPollFd _ sync => sync
  | commitUpdates => true
  | notifyEntriesUpdated => true

def cmd : PollCall → PipeCmd
  | addPollFd _ _ sync => if sync then .pollEntriesUpdated else .pollEntriesUpdatedAsync
  | delPollFd _ sync => if sync then .pollEntriesUpdated else .pollEntriesUpdatedAsync
  | commitUpdates => .commit
  | notifyEntriesUpdated => .pollEntriesUpdated

def handler : PollCall → Nat
  | addPollFd handler _ _ => handler
  | delPollFd handler _ => handler
  | _ => 0

/-- `mm_camera_util_get_index_by_handler`. -/
def idx (c : PollCall) : Nat := c.handler % 256

/-- What the call stores at its index. -/
def entry : PollCall → PollEntry
  | addPollFd handler fd _ => ⟨fd, handler⟩
  | _ => ⟨-1, 0⟩

end PollCall

/-- The next step of a call. In `wait` it is blocked on the condition, or woken and without the
mutex. -/
inductive CallPc where
  | checkHandler
  | setFd
  | setHandler
  | lock
  | write
  | check
  | wait
  | unlock
  | done
  deriving DecidableEq, Repr

def PollCall.start (c : PollCall) : CallPc :=
  match c with
  | .addPollFd _ _ _ => if c.idx < MAX_STREAM_NUM_IN_BUNDLE then .setFd else .done
  | .delPollFd _ _ => if c.idx < MAX_STREAM_NUM_IN_BUNDLE then .checkHandler else .done
  | _ => .lock

/-- The next step of the thread. A command is kept with the call that has sent it. -/
inductive WorkerPc (τ : Type u) where
  | poll
  | testFd (cmd : τ × PipeCmd) (i : Nat)
  | copyFd (cmd : τ × PipeCmd) (i : Nat)
  | sigDone (cmd : τ × PipeCmd)

/-- The pipe has room for `capacity` commands. -/
structure PollPipe where
  readFd : Int
  capacity : Nat
  pos : 0 < capacity

structure PollState (τ : Type u) where
  pollEntries : Nat → PollEntry
  pollFds : Nat → Int
  numFds : Nat
  pipe : List (τ × PipeCmd)
  status : Bool
  mutex : Option τ
  condV : Condition τ
  calls : τ → Option (PollCall × CallPc)
  worker : WorkerPc τ

/-- `ok` tells whether a `write` succeeds; `data` is a turn of the loop without a command. -/
inductive PollInput (τ : Type u) where
  | call (n : τ) (c : PollCall)
  | caller (n : τ) (ok : Bool)
  | worker (pick : Option τ)
  | data

inductive PollEvent (τ : Type u) where
  | called (n : τ) (c : PollCall)
  | stored (n : τ) (i : Nat) (fd : Int)
  | sent (n : τ) (cmd : PipeCmd)
  | writeFailed (n : τ)
  | processed (n : τ) (cmd : PipeCmd)
  | returned (n : τ) (rc : Int)
  deriving DecidableEq

namespace PollState

variable {τ : Type u}

def init (pipe : PollPipe) : PollState τ where
  pollEntries := fun _ => ⟨0, 0⟩
  pollFds := Function.update (fun _ => 0) 0 pipe.readFd
  numFds := 1
  pipe := []
  status := true
  mutex := none
  condV := .idle
  calls := fun _ => none
  worker := .poll

def setEntry (s : PollState τ) (i : Nat) (e : PollEntry) : PollState τ :=
  { s with pollEntries := Function.update s.pollEntries i e }

def setPollFd (s : PollState τ) (fd : Int) : PollState τ :=
  { s with pollFds := Function.update s.pollFds s.numFds fd, numFds := s.numFds + 1 }

/-- The loop over the entries after index `i`, and the end of the command. -/
def nextSlot (s : PollState τ) (cmd : τ × PipeCmd) (i : Nat) : PollState τ × List (PollEvent τ) :=
  if i + 1 < MAX_STREAM_NUM_IN_BUNDLE then ({ s with worker := .testFd cmd (i + 1) }, [])
  else if cmd.2 = .pollEntriesUpdatedAsync then
    ({ s with worker := .poll }, [.processed cmd.1 cmd.2])
  else ({ s with worker := .sigDone cmd }, [])

variable [DecidableEq τ]

def goto (s : PollState τ) (n : τ) (c : PollCall) (pc : CallPc) : PollState τ :=
  { s with calls := Function.update s.calls n (some (c, pc)) }

/-- The steps of a call, with `mm_camera_poll_sig` and `mm_camera_poll_sig_async` from `lock` on. -/
def callStep (pipe : PollPipe) (s : PollState τ) (n : τ) (ok : Bool) :
    Option (PollState τ × List (PollEvent τ)) :=
  match s.calls n with
  | none => none
  | some (c, .checkHandler) =>
    if c.handler = (s.pollEntries c.idx).handler then some (s.goto n c .setFd, [])
    else some (s.goto n c .done, [.returned n (-1)])
  | some (c, .setFd) =>
    some ((s.setEntry c.idx { s.pollEntries c.idx with fd := c.entry.fd }).goto n c .setHandler,
      [.stored n c.idx c.entry.fd])
  | some (c, .setHandler) =>
    some ((s.setEntry c.idx { s.pollEntries c.idx with handler := c.entry.handler }).goto n c .lock,
      [])
  | some (c, .lock) =>
    if s.mutex = none then some ({ s with mutex := some n, status := false }.goto n c .write, [])
    else none
  | some (c, .write) =>
    if ok = false then some (s.goto n c .unlock, [.writeFailed n])
    else if s.pipe.length < pipe.capacity then
      some ({ s with pipe := s.pipe ++ [(n, c.cmd)] }.goto n c (if c.sync then .check else .unlock),
        [.sent n c.cmd])
    else none
  | some (c, .check) =>
    if s.status then some (s.goto n c .unlock, [])
    else some ({ s with mutex := none, condV := s.condV.wait n }.goto n c .wait, [])
  | some (c, .wait) =>
    if n ∈ s.condV.woken ∧ s.mutex = none then
      some ({ s with mutex := some n, condV := s.condV.resume n }.goto n c .unlock, [])
    else none
  | some (c, .unlock) => some ({ s with mutex := none }.goto n c .done, [.returned n 0])
  | some (_, .done) => none

/-- The steps of `mm_camera_poll_proc_pipe` for the data thread. -/
def workerStep (pipe : PollPipe) (s : PollState τ) (pick : Option τ) :
    Option (PollState τ × List (PollEvent τ)) :=
  match s.worker with
  | .poll =>
    match s.pipe with
    | [] => none
    | cmd :: rest =>
      if cmd.2 = .commit then some ({ s with pipe := rest, worker := .sigDone cmd }, [])
      else
        some (setPollFd { s with pipe := rest, numFds := 0, worker := .testFd cmd 0 } pipe.readFd, [])
  | .testFd cmd i =>
    if 0 < (s.pollEntries i).fd then some ({ s with worker := .copyFd cmd i }, [])
    else some ((s.setPollFd (-1)).nextSlot cmd i)
  | .copyFd cmd i => some ((s.setPollFd (s.pollEntries i).fd).nextSlot cmd i)
  | .sigDone cmd =>
    if s.mutex = none then
      (s.condV.signal pick).map fun condV =>
        ({ s with status := true, condV, worker := .poll }, [.processed cmd.1 cmd.2])
    else none

def step (pipe : PollPipe) (s : PollState τ) :
    PollInput τ → Option (PollState τ × List (PollEvent τ))
  | .call n c =>
    match s.calls n with
    | some _ => none
    | none =>
      some (s.goto n c c.start,
        .called n c :: if c.start = .done then [.returned n (-1)] else [])
  | .caller n ok => s.callStep pipe n ok
  | .worker pick => s.workerStep pipe pick
  | .data =>
    match s.worker, s.pipe with
    | .poll, [] => some (s, [])
    | _, _ => none

def Next (pipe : PollPipe) (s : PollState τ) (i : PollInput τ) (o : List (PollEvent τ))
    (s' : PollState τ) : Prop :=
  s.step pipe i = some (s', o)

/-- The call is synchronous and has not returned. -/
def InProgress (s : PollState τ) (n : τ) : Prop :=
  ∃ c pc, s.calls n = some (c, pc) ∧ c.sync = true ∧ pc ≠ .done

/-- A synchronous call begins when no other is in progress. -/
def OneSync (s : PollState τ) : PollInput τ → Prop
  | .call _ c => c.sync = true → ∀ m, ¬ s.InProgress m
  | _ => True

/-- A run of the thread and its callers. -/
def PollRun (pipe : PollPipe) (is : List (PollInput τ)) (os : List (PollEvent τ))
    (s : PollState τ) : Prop :=
  Lib.Steps (Next pipe) (fun _ _ s i _ => s.OneSync i) (init pipe) is os s

end PollState

end KiwiDevice.Camera.PollThread

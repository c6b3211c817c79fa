import KiwiDevice.Gps.LocHeap
import Mathlib.Logic.Function.Basic

/-!
# Timers, their containers and the two threads

A client starts and stops timers; each call queues a message to the `MsgTask` thread, which alone
touches the heaps. A container arms its timer fd with the deadline of the head of its heap. The poll
thread waits on the fds, disarms one that goes off, takes it off the poll set and queues an expiry
message. Processing a push or a remove is one step; the loop of an expiry message is one step for
each thing it does, so that clients start and stop timers in between.
-/

namespace KiwiDevice.Gps

open Lib

/-- `struct timespec` after boot, with `time_t` of 32 bits as on a 32-bit build; the difference of
two such times fits in an `int`. -/
structure Timespec where
  tvSec : Nat
  tvNsec : Nat
  tvSec_lt : tvSec < 2147483648
  tvNsec_lt : tvNsec < 1000000000
deriving DecidableEq

namespace Timespec

/-- Seconds and nanoseconds together. -/
def nanos (t : Timespec) : Nat := t.tvSec * 1000000000 + t.tvNsec

instance : LE Timespec := ⟨fun s t => s.nanos ≤ t.nanos⟩

instance : DecidableRel (fun s t : Timespec => s ≤ t) := fun s t =>
  inferInstanceAs (Decidable (s.nanos ≤ t.nanos))

/-- `now` and a delay as `LocTimer::start` adds them; none when the seconds overflow. -/
def futureTime (now : Timespec) (timeOutInMs : UInt32) : Option Timespec :=
  let tvNsec := now.tvNsec + timeOutInMs.toNat % 1000 * 1000000
  let tvSec := now.tvSec + timeOutInMs.toNat / 1000 + tvNsec / 1000000000
  if h : tvSec < 2147483648 then
    some ⟨tvSec, tvNsec % 1000000000, h, Nat.mod_lt tvNsec (by decide)⟩
  else none

end Timespec

/-- `LocTimerDelegate`: the client that started it, its deadline and its container, which is the one
for alarms when `wakeOnExpire` holds. -/
structure LocTimerDelegate where
  address : Nat
  client : Nat
  mFutureTime : Timespec
  wakeOnExpire : Bool
deriving DecidableEq

/-- Larger time ranks lower, and only the seconds are compared. -/
def Timespec.ranks (time rankable : Timespec) : Int := rankable.tvSec - time.tvSec

def LocTimerDelegate.ranks (timer rankable : LocTimerDelegate) : Int :=
  timer.mFutureTime.ranks rankable.mFutureTime

/-- `LocTimerContainer`: the heap, the value last given to `timerfd_settime`, none when that
disarms, and whether the fd is in the poll set. -/
structure LocTimerContainer where
  heap : LocHeap LocTimerDelegate
  itValue : Option Timespec
  polled : Bool

namespace LocTimerContainer

def getSoonestTimer (c : LocTimerContainer) : Option LocTimerDelegate := c.heap.peek

def updateSoonestTime (c : LocTimerContainer) (priorTop : Option LocTimerDelegate) :
    LocTimerContainer :=
  if c.getSoonestTimer = priorTop then c
  else
    match c.getSoonestTimer, priorTop with
    | none, _ => { c with polled := false, itValue := none }
    | some curTop, none => { c with polled := true, itValue := some curTop.mFutureTime }
    | some curTop, some prior =>
      if outRanks LocTimerDelegate.ranks curTop prior then
        { c with polled := true, itValue := some curTop.mFutureTime }
      else c

/-- `MsgTimerPush::proc`. -/
def procPush (c : LocTimerContainer) (timer : LocTimerDelegate) : LocTimerContainer :=
  { c with heap := c.heap.push LocTimerDelegate.ranks timer }.updateSoonestTime c.getSoonestTimer

/-- `MsgTimerRemove::proc`. -/
def procRemove (c : LocTimerContainer) (timer : LocTimerDelegate) : LocTimerContainer :=
  let removed := c.heap.remove LocTimerDelegate.ranks timer
  if c.getSoonestTimer = removed.2 then { c with heap := removed.1 }.updateSoonestTime none
  else { c with heap := removed.1 }

def pop (c : LocTimerContainer) : LocTimerContainer × Option LocTimerDelegate :=
  let popped := c.heap.pop LocTimerDelegate.ranks
  ({ c with heap := popped.1 }, popped.2)

/-- `popIfOutRanks` with a timer of the time `now`. -/
def popIfOutRanks (c : LocTimerContainer) (now : Timespec) :
    LocTimerContainer × Option LocTimerDelegate :=
  match c.heap.peek with
  | none => (c, none)
  | some top => if outRanks Timespec.ranks now top.mFutureTime then (c, none) else c.pop

end LocTimerContainer

inductive TimerMsg where
  | push (timer : LocTimerDelegate)
  | remove (timer : LocTimerDelegate)
  | expire (wakeOnExpire : Bool)
deriving DecidableEq

/-- Where the `MsgTask` thread is: between two messages, or in the loop of an expiry message with
the time `now` that it read. `popped` is at the call of `timer->expire()`, `stopping` at that of
`client->stop()`, and `next` at that of `popIfOutRanks`. -/
inductive MsgTask where
  | idle
  | popped (wakeOnExpire : Bool) (now : Timespec) (timer : LocTimerDelegate)
  | stopping (wakeOnExpire : Bool) (now : Timespec) (timer : LocTimerDelegate) (client : Nat)
  | next (wakeOnExpire : Bool) (now : Timespec)

/-- The thread is in the loop of an expiry message of the container. -/
def MsgTask.handles (wakeOnExpire : Bool) : MsgTask → Bool
  | .idle => false
  | .popped b _ _ => b == wakeOnExpire
  | .stopping b _ _ _ => b == wakeOnExpire
  | .next b _ => b == wakeOnExpire

/-- What the poll thread does next with the container that it handles. -/
inductive PollPhase where
  | settime
  | removePoll
  | sendMsg
deriving DecidableEq

/-- The service: the clock, `LocTimer::mTimer` of each client, `LocTimerDelegate::mClient` by
address, the message queue, the two threads and the two containers. `expiring` are the containers
that the last `epoll_wait` returned and that are not handled yet. -/
structure TimerService where
  clock : Timespec
  mTimer : Nat → Option LocTimerDelegate
  mClient : Nat → Option Nat
  nextAddress : Nat
  msgs : List TimerMsg
  task : MsgTask
  expiring : List Bool
  phase : PollPhase
  containers : Bool → LocTimerContainer

inductive TimerInput where
  | tick (now : Timespec)
  | start (client : Nat) (timeOutInMs : UInt32) (wakeOnExpire : Bool)
  | stop (client : Nat)
  | msgTask
  | epollWait (fds : List Bool)
  | pollTask
deriving DecidableEq

/-- `timeOutCallback` of the client of `timer`, while an expiry message is processed that read `now`
from the clock. -/
structure TimeOut where
  timer : LocTimerDelegate
  now : Timespec
deriving DecidableEq

namespace TimerService

def setContainer (s : TimerService) (wakeOnExpire : Bool) (c : LocTimerContainer) : TimerService :=
  { s with containers := Function.update s.containers wakeOnExpire c }

def sendMsg (s : TimerService) (msg : TimerMsg) : TimerService :=
  { s with msgs := s.msgs ++ [msg] }

/-- `LocTimer::start`. -/
def start (s : TimerService) (client : Nat) (timeOutInMs : UInt32) (wakeOnExpire : Bool) :
    Option TimerService :=
  if (s.mTimer client).isSome then some s
  else
    (s.clock.futureTime timeOutInMs).map fun futureTime =>
      let timer : LocTimerDelegate := ⟨s.nextAddress, client, futureTime, wakeOnExpire⟩
      { s with
        mTimer := Function.update s.mTimer client (some timer)
        mClient := Function.update s.mClient timer.address (some client)
        nextAddress := s.nextAddress + 1 }.sendMsg (.push timer)

/-- `LocTimer::stop`, with `destroyLocked`. -/
def stop (s : TimerService) (client : Nat) : TimerService × Bool :=
  match s.mTimer client with
  | none => (s, false)
  | some timer =>
    ({ s with
      mTimer := Function.update s.mTimer client none
      mClient := Function.update s.mClient timer.address none }.sendMsg (.remove timer), true)

/-- The head of the loop of an expiry message: `timer` is what was popped. -/
def loop (s : TimerService) (wakeOnExpire : Bool) (now : Timespec) :
    LocTimerContainer × Option LocTimerDelegate → TimerService
  | (c, some timer) =>
    { s with task := .popped wakeOnExpire now timer }.setContainer wakeOnExpire c
  | (c, none) =>
    { s with task := .idle }.setContainer wakeOnExpire (c.updateSoonestTime none)

/-- The next step of the `MsgTask` thread. -/
def runTask (s : TimerService) : Option (TimerService × List TimeOut) :=
  match s.task with
  | .idle =>
    match s.msgs with
    | [] => none
    | .push timer :: msgs =>
      let c := s.containers timer.wakeOnExpire
      some ({ s with msgs }.setContainer timer.wakeOnExpire (c.procPush timer), [])
    | .remove timer :: msgs =>
      let c := s.containers timer.wakeOnExpire
      some ({ s with msgs }.setContainer timer.wakeOnExpire (c.procRemove timer), [])
    | .expire wakeOnExpire :: msgs =>
      -- the first timer is popped whatever its deadline is
      some ({ s with msgs }.loop wakeOnExpire s.clock (s.containers wakeOnExpire).pop, [])
  | .popped wakeOnExpire now timer =>
    match s.mClient timer.address with
    | none => some ({ s with task := .next wakeOnExpire now }, [])
    | some client => some ({ s with task := .stopping wakeOnExpire now timer client }, [])
  | .stopping wakeOnExpire now _ client =>
    let stopped := s.stop client
    some ({ stopped.1 with task := .next wakeOnExpire now },
      (s.mTimer client).toList.map fun timer => ⟨timer, now⟩)
  | .next wakeOnExpire now =>
    some (s.loop wakeOnExpire now ((s.containers wakeOnExpire).popIfOutRanks now), [])

/-- The fd is in the poll set and its timer has gone off. -/
def goneOff (s : TimerService) (wakeOnExpire : Bool) : Bool :=
  let c := s.containers wakeOnExpire
  c.polled && c.itValue.any fun v => v ≤ s.clock

/-- The next step of the poll thread in `LocTimerContainer::expire`. -/
def runPoll (s : TimerService) : Option TimerService :=
  match s.expiring with
  | [] => none
  | wakeOnExpire :: rest =>
    let c := s.containers wakeOnExpire
    match s.phase with
    | .settime =>
      some ({ s with phase := .removePoll }.setContainer wakeOnExpire { c with itValue := none })
    | .removePoll =>
      some ({ s with phase := .sendMsg }.setContainer wakeOnExpire { c with polled := false })
    | .sendMsg =>
      some ({ s with expiring := rest, phase := .settime }.sendMsg (.expire wakeOnExpire))

/-- One step; none when it cannot be taken. -/
def step (s : TimerService) : TimerInput → Option (TimerService × List TimeOut)
  | .tick now => if s.clock ≤ now then some ({ s with clock := now }, []) else none
  | .start client timeOutInMs wakeOnExpire =>
    (s.start client timeOutInMs wakeOnExpire).map fun s' => (s', [])
  | .stop client => some ((s.stop client).1, [])
  | .msgTask => s.runTask
  | .epollWait fds =>
    if s.expiring = [] ∧ fds ≠ [] ∧ fds.Nodup ∧ fds.all s.goneOff then
      some ({ s with expiring := fds, phase := .settime }, [])
    else none
  | .pollTask => s.runPoll.map fun s' => (s', [])

def Next (s : TimerService) (i : TimerInput) (o : List TimeOut) (s' : TimerService) : Prop :=
  s.step i = some (s', o)

/-- Both containers are created, nothing was started. -/
def initial (clock : Timespec) : TimerService where
  clock
  mTimer := fun _ => none
  mClient := fun _ => none
  nextAddress := 0
  msgs := []
  task := .idle
  expiring := []
  phase := .settime
  containers := fun _ => ⟨LocHeap.empty, none, false⟩

/-- The expiries of a container that are still to be processed: the poll thread handles it, or the
message is queued. -/
def owed (s : TimerService) (wakeOnExpire : Bool) : Nat :=
  s.expiring.count wakeOnExpire + s.msgs.count (.expire wakeOnExpire)

/-- These together with the one whose loop runs. -/
def expiries (s : TimerService) (wakeOnExpire : Bool) : Nat :=
  s.owed wakeOnExpire + if s.task.handles wakeOnExpire then 1 else 0

end TimerService

end KiwiDevice.Gps

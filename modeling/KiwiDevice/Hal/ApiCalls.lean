import KiwiDevice.Hal.StateMachine
import KiwiDevice.Lib.Steps
import Mathlib.Logic.Function.Basic

/-!
# API calls and their results

The callers of the camera HAL, each between `lockAPI` and `unlockAPI` with `processAPI` and
`waitAPIResult`, the senders that do not wait, the backend, and the thread of the state machine,
which answers through `m_apiResultList`. Memory is never short, and the thread is not told to exit.
The number of a request and the request that a result was made for are not in the program.
-/

namespace KiwiDevice.Hal

namespace SmEvt

/-- The events between the marks for API events in the header, and that of the thermal client, who
waits like the others. -/
def isApi : SmEvt → Bool
  | .evtInternal | .evtNotify | .jpegEvtNotify | .snapshotDone | .stopCaptureChannel
  | .restartPreview => false
  | _ => true

/-- What `processEvt` is called with. -/
def isBackend : SmEvt → Bool
  | .evtInternal | .evtNotify | .jpegEvtNotify | .snapshotDone => true
  | _ => false

/-- What `checkIntPicPending` and `takeLiveSnapshot_internal` send without waiting. -/
def isUnawaited : SmEvt → Bool
  | .snapshotDone | .startPreview | .cancelPicture => true
  | _ => false

end SmEvt

/-- `qcamera_sm_cmd_t`; `request` is the number of an API request. -/
structure SmNode where
  request : Option Nat
  evt : SmEvt
  payload : SmPayload
  deriving Repr

/-- A caller: outside, holding `m_lock`, past `processAPI`, in `pthread_cond_wait`, or woken from it
and without the lock. -/
inductive Caller where
  | out
  | holding
  | sent (request : Nat) (evt : SmEvt)
  | awaiting (request : Nat) (evt : SmEvt)
  | woken (request : Nat) (evt : SmEvt)
  deriving DecidableEq, Repr

/-- `pthread_cond_broadcast`. -/
def Caller.wake : Caller → Caller
  | .awaiting request evt => .woken request evt
  | caller => caller

/-- A node of `m_apiResultList`, with the request that it is the result of. -/
structure Answer where
  request : Option Nat
  result : ApiResult
  deriving DecidableEq, Repr

/-- The thread of the state machine: at its semaphore, past it, at a node, or in
`signalAPIResult`. -/
inductive SmThread where
  | waiting
  | notified
  | running (node : SmNode)
  | signalling (answer : Answer)
  deriving Repr

/-- `unposted` counts the nodes that are queued and not posted yet, `preparing` is the request that
is answered by the event that the snapshot is prepared. `answered` are the requests that a result
was signalled for, `returned` what `waitAPIResult` gave back for which request. -/
structure HalCalls (σ : Type) where
  hal : σ
  state : SmState := .previewStopped
  apiQueue : List SmNode := []
  evtQueue : List SmNode := []
  unposted : Nat := 0
  cmdSem : Nat := 0
  thread : SmThread := .waiting
  mLock : Option Nat := none
  apiResultList : List Answer := []
  callers : Nat → Caller := fun _ => .out
  nextRequest : Nat := 0
  preparing : Option Nat := none
  answered : List Nat := []
  returned : List (Nat × Answer) := []

namespace HalCalls

variable {σ ρ : Type}

inductive Input (σ ρ : Type) where
  | lockAPI (c : Nat)
  | processAPI (c : Nat) (evt : SmEvt) (payload : SmPayload)
  | condWait (c : Nat)
  | wakeSpuriously (c : Nat)
  | collect (c : Nat)
  | unlockAPI (c : Nat)
  | sendUnawaited (evt : SmEvt)
  | processEvt (evt : SmEvt) (payload : SmPayload)
  | post
  | semWait
  | dequeue
  | process (r : ρ)
  | signal
  | changeHal (hal : σ)

variable (w : HalCalls σ)

def setCaller (c : Nat) (caller : Caller) : HalCalls σ :=
  { w with callers := Function.update w.callers c caller }

/-- `procAPI`, up to its `cam_sem_post`. -/
def procAPI (evt : SmEvt) (payload : SmPayload) : HalCalls σ :=
  { w with
    apiQueue := w.apiQueue ++ [⟨some w.nextRequest, evt, payload⟩]
    nextRequest := w.nextRequest + 1
    unposted := w.unposted + 1 }

/-- `procEvt`, up to its `cam_sem_post`. -/
def procEvt (evt : SmEvt) (payload : SmPayload) : HalCalls σ :=
  { w with
    evtQueue := w.evtQueue ++ [⟨none, evt, payload⟩]
    unposted := w.unposted + 1 }

/-- The loop of `waitAPIResult` over the list: the first result of the event is taken. -/
def collectResult (c request : Nat) (evt : SmEvt) : HalCalls σ :=
  match w.apiResultList.find? fun answer => answer.result.requestApi = evt with
  | none => w.setCaller c (.awaiting request evt)
  | some answer =>
    { w.setCaller c .holding with
      mLock := some c
      apiResultList := w.apiResultList.eraseP fun answer => answer.result.requestApi = evt
      returned := w.returned ++ [(request, answer)] }

/-- A result is made for the request that is processed, and without one for the request that waits
for the snapshot to be prepared. -/
def process (h : Parent σ ρ) (r : ρ) (node : SmNode) : HalCalls σ :=
  let done := h.stateMachine r node.payload w.hal w.state node.evt
  match done.signal with
  | some (.api result) =>
    { w with
      hal := done.hal
      state := done.state
      thread := .signalling ⟨node.request.or w.preparing, result⟩
      preparing := if node.request = none then none else w.preparing }
  | _ =>
    { w with
      hal := done.hal
      state := done.state
      thread := .waiting
      preparing :=
        if done.state = .prepareSnapshot ∧ w.state ≠ .prepareSnapshot then node.request
        else w.preparing }

def step (h : Parent σ ρ) (w : HalCalls σ) : Input σ ρ → Option (HalCalls σ)
  | .lockAPI c =>
    if w.callers c = .out ∧ w.mLock = none then
      some { w.setCaller c .holding with mLock := some c }
    else none
  | .processAPI c evt payload =>
    if w.callers c = .holding ∧ evt.isApi = true then
      some ((w.procAPI evt payload).setCaller c (.sent w.nextRequest evt))
    else none
  | .condWait c =>
    match w.callers c with
    | .sent request evt => some { w.setCaller c (.awaiting request evt) with mLock := none }
    | _ => none
  | .wakeSpuriously c =>
    match w.callers c with
    | .awaiting request evt => some (w.setCaller c (.woken request evt))
    | _ => none
  | .collect c =>
    match w.callers c with
    | .woken request evt => if w.mLock = none then some (w.collectResult c request evt) else none
    | _ => none
  | .unlockAPI c =>
    if w.callers c = .holding then some { w.setCaller c .out with mLock := none } else none
  | .sendUnawaited evt =>
    -- `takeLiveSnapshot_internal` sends without the lock
    if evt.isUnawaited = true ∧ (evt = .cancelPicture ∨ w.mLock = none) then
      some (w.procAPI evt {})
    else none
  | .processEvt evt payload =>
    if evt.isBackend = true then some (w.procEvt evt payload) else none
  | .post =>
    if 0 < w.unposted then
      some { w with unposted := w.unposted - 1, cmdSem := w.cmdSem + 1 }
    else none
  | .semWait =>
    match w.thread with
    | .waiting =>
      if 0 < w.cmdSem then some { w with cmdSem := w.cmdSem - 1, thread := .notified } else none
    | _ => none
  | .dequeue =>
    match w.thread with
    | .notified =>
      match w.apiQueue, w.evtQueue with
      | node :: rest, _ => some { w with apiQueue := rest, thread := .running node }
      | [], node :: rest => some { w with evtQueue := rest, thread := .running node }
      | [], [] => some { w with thread := .waiting }
    | _ => none
  | .process r =>
    match w.thread with
    | .running node => some (w.process h r node)
    | _ => none
  | .signal =>
    match w.thread with
    | .signalling answer =>
      if w.mLock = none then
        some { w with
          apiResultList := w.apiResultList ++ [answer]
          answered := w.answered ++ answer.request.toList
          callers := fun c => (w.callers c).wake
          thread := .waiting }
      else none
    | _ => none
  | .changeHal hal => some { w with hal := hal }

def Next (h : Parent σ ρ) (w : HalCalls σ) (i : Input σ ρ) (_ : List Unit) (w' : HalCalls σ) :
    Prop :=
  w.step h i = some w'

end HalCalls

end KiwiDevice.Hal

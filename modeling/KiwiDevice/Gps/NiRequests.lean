import KiwiDevice.Lib.Steps
import Mathlib.Logic.Function.Basic

/-!
# Network-initiated location requests

The two sessions of `loc_eng_ni_data_s_type` with the threads that use them: the message task, which
runs the request handler, the reset after an engine restart and the messages to the modem, one
`ni_thread_proc` for each accepted request, and any number of threads that call
`loc_eng_ni_respond`. What is done under one hold of `tLock` is one step, and so is every statement
outside it. `loc_eng_ni_init` has been called, and every request carries its raw request, named here
by the number of its arrival.
-/

namespace KiwiDevice.Gps

abbrev GpsUserResponseType := Int

def gpsNiResponseAccept : GpsUserResponseType := 1
def gpsNiResponseNoresp : GpsUserResponseType := 3
def gpsNiResponseIgnore : GpsUserResponseType := 4

def locNiNoResponseTime : Int := 20

/-- The members of `loc_eng_ni_data_s_type`. -/
inductive NiSlot where
  | session
  | sessionEs
  deriving DecidableEq, Repr

/-- `loc_eng_ni_session_s_type`. -/
structure NiSession where
  respTimeLeft : Int := 0
  respRecvd : Bool := false
  rawRequest : Option Nat := none
  reqID : Nat := 0
  resp : GpsUserResponseType := 0
  deriving Repr

/-- `LocEngInformNiResponse`. -/
structure NiMsg where
  response : GpsUserResponseType
  payload : Nat
  deriving DecidableEq, Repr

/-- Where `ni_thread_proc` stands: before its first hold, in `pthread_cond_timedwait`, before each
of the three statements after the hold, or at its end. -/
inductive NiStage where
  | absent
  | starting
  | waiting (start delay : Int) (signalled : Bool)
  | unlocked (msg : Option NiMsg)
  | clearing (msg : Option NiMsg)
  | sending (msg : Option NiMsg)
  | done
  deriving Repr

structure NiThread where
  slot : NiSlot := .session
  stage : NiStage := .absent
  deriving Repr

/-- The next statement of the message task, first those of `loc_eng_ni_request_handler`, then those
of `loc_eng_ni_reset_on_engine_restart`. -/
inductive NiTask where
  | idle
  | saving (s : NiSlot) (raw : Nat) (delay : Int)
  | numbering (s : NiSlot) (raw : Nat) (delay : Int)
  | identifying (s : NiSlot) (raw : Nat) (delay : Int)
  | timing (s : NiSlot) (raw : Nat) (delay : Int)
  | spawning (s : NiSlot) (raw : Nat)
  | freeing (s : NiSlot)
  | clearing (s : NiSlot)
  | waking (s : NiSlot)
  | checking
  deriving DecidableEq, Repr

/-- The next step of a call of `loc_eng_ni_respond` after its first comparison. -/
inductive NiCall where
  | idle
  | comparing (id : Int) (resp : GpsUserResponseType)
  | matchedEs (id : Int) (resp : GpsUserResponseType)
  | ignoring (id : Int) (resp : GpsUserResponseType)
  | storing (s : NiSlot) (id : Int) (resp : GpsUserResponseType)
  deriving DecidableEq, Repr

/-- An accepted request, with the notification id that the user is told and the time-out. -/
structure NiRequest where
  raw : Nat
  slot : NiSlot
  id : Int
  delay : Int
  deriving Repr

/-- A call of `loc_eng_ni_respond`, with the pending requests that its id named when it came. -/
structure NiResponse where
  id : Int
  resp : GpsUserResponseType
  named : NiSlot → Option Nat

/-- A request whose thread found nothing but the end of its time. -/
structure NiExpiry where
  raw : Nat
  thread : Nat
  delay : Int
  deriving DecidableEq, Repr

/-- The last eight fields are the history of the run. -/
structure NiSystem where
  now : Int := 0
  sessions : NiSlot → NiSession := fun _ => {}
  reqIDCounter : Nat := 0
  arrived : Nat := 0
  task : NiTask := .idle
  threads : Nat → NiThread := fun _ => {}
  calls : Nat → NiCall := fun _ => .idle
  msgs : List NiMsg := []
  accepted : List NiRequest := []
  given : List NiResponse := []
  expired : List NiExpiry := []
  informed : List NiMsg := []
  ignored : List Nat := []
  restarted : List Nat := []
  refused : List Nat := []
  freed : List Nat := []

namespace NiSystem

inductive Input where
  | tick
  | request (s : NiSlot) (timeout : Int)
  | restart
  | task (created : Bool) (t : Nat)
  | proc
  | respond (c : Nat) (id : Int) (resp : GpsUserResponseType)
  | call (c t : Nat)
  | start (t : Nat)
  | wake (t : Nat)
  | timeOut (t : Nat)
  | leave (t : Nat)
  deriving Repr

variable (w : NiSystem)

def setSession (s : NiSlot) (session : NiSession) : NiSystem :=
  { w with sessions := Function.update w.sessions s session }

def setThread (t : Nat) (thread : NiThread) : NiSystem :=
  { w with threads := Function.update w.threads t thread }

def setStage (t : Nat) (stage : NiStage) : NiSystem :=
  w.setThread t { w.threads t with stage := stage }

def setCall (c : Nat) (call : NiCall) : NiSystem :=
  { w with calls := Function.update w.calls c call }

/-- The test of `loc_eng_ni_request_handler`. -/
def busy : NiSlot → Bool
  | .sessionEs => (w.sessions .sessionEs).rawRequest.isSome
  | .session => (w.sessions .session).rawRequest.isSome || (w.sessions .sessionEs).rawRequest.isSome

/-- `5 + (notif->timeout != 0 ? notif->timeout : LOC_NI_NO_RESPONSE_TIME)`. -/
def respTime (timeout : Int) : Int := 5 + if timeout ≠ 0 then timeout else locNiNoResponseTime

/-- `free` of a raw request. -/
def free (raw : Option Nat) : NiSystem := { w with freed := w.freed ++ raw.toList }

def isWaiting (s : NiSlot) (t : Nat) : Bool :=
  match (w.threads t).stage with
  | .waiting .. => (w.threads t).slot = s
  | _ => false

/-- `pthread_cond_signal` wakes a thread `t` that waits for the condition, when there is one. -/
def signal (s : NiSlot) (t : Nat) : Option NiSystem :=
  match (w.threads t).stage with
  | .waiting start delay _ =>
    if (w.threads t).slot = s then some (w.setStage t (.waiting start delay true)) else none
  | _ => if ∀ t < w.arrived, w.isWaiting s t = false then some w else none

/-- One hold of `tLock` in which a response is stored. -/
def store (s : NiSlot) (resp : GpsUserResponseType) (t : Nat) : Option NiSystem :=
  (w.setSession s { w.sessions s with resp := resp, respRecvd := true }).signal s t

/-- The first `if` of the reset, and what follows it when there is no emergency request. -/
def checkRestart (s : NiSlot) : NiSystem :=
  if (w.sessions s).rawRequest.isSome then { w with task := .freeing s }
  else { w with task := match s with | .sessionEs => .checking | .session => .idle }

/-- The next statement of the message task; `created` is the result of `pthread_create`. -/
def runTask (created : Bool) (t : Nat) : Option NiSystem :=
  match w.task with
  | .idle => none
  | .saving s raw delay =>
    some { w.setSession s { w.sessions s with rawRequest := some raw } with
      task := .numbering s raw delay }
  | .numbering s raw delay =>
    some { w.setSession s { w.sessions s with reqID := w.reqIDCounter + 1 } with
      reqIDCounter := w.reqIDCounter + 1
      task := .identifying s raw delay }
  | .identifying s raw delay =>
    some { w with
      accepted := w.accepted ++ [⟨raw, s, (w.sessions s).reqID, delay⟩]
      task := .timing s raw delay }
  | .timing s raw delay =>
    some { w.setSession s { w.sessions s with respTimeLeft := delay } with task := .spawning s raw }
  | .spawning s raw =>
    some { (if created then w.setThread raw ⟨s, .starting⟩ else w) with task := .idle }
  | .freeing s =>
    some { w.free (w.sessions s).rawRequest with
      restarted := w.restarted ++ (w.sessions s).rawRequest.toList
      task := .clearing s }
  | .clearing s =>
    some { w.setSession s { w.sessions s with rawRequest := none } with task := .waking s }
  | .waking s =>
    (w.setSession s { w.sessions s with respRecvd := true }).signal s t |>.map fun w =>
      { w with task := match s with | .sessionEs => .checking | .session => .idle }
  | .checking => some (w.checkRestart .session)

/-- The pending requests with the id of a response. -/
def named (id : Int) (s : NiSlot) : Option Nat :=
  if id = (w.sessions s).reqID then (w.sessions s).rawRequest else none

/-- The next step of a call after its first comparison. -/
def runCall (c t : Nat) : Option NiSystem :=
  match w.calls c with
  | .idle => none
  | .comparing id resp =>
    some (w.setCall c (if (w.named id .session).isSome then .storing .session id resp else .idle))
  | .matchedEs id resp =>
    some (w.setCall c
      (if resp = gpsNiResponseAccept ∧ (w.sessions .session).rawRequest.isSome then
        .ignoring id resp
      else .storing .sessionEs id resp))
  | .ignoring id resp =>
    (w.store .session gpsNiResponseIgnore t).map fun w =>
      w.setCall c (.storing .sessionEs id resp)
  | .storing s _ resp => (w.store s resp t).map fun w => w.setCall c .idle

/-- The rest of the hold of `ni_thread_proc` after its loop. -/
def finish (t : Nat) : NiSystem :=
  let s := (w.threads t).slot
  let session := w.sessions s
  let cleared := w.setSession s { session with respRecvd := false, rawRequest := none }
  match session.rawRequest with
  | none => cleared.setStage t (.unlocked none)
  | some raw =>
    if session.resp ≠ gpsNiResponseIgnore then
      cleared.setStage t (.unlocked (some ⟨session.resp, raw⟩))
    else { (cleared.free (some raw)).setStage t (.unlocked none) with
      ignored := w.ignored ++ [raw] }

/-- The end of the wait: the response is overwritten, whatever has been received. -/
def expire (t : Nat) (delay : Int) : NiSystem :=
  let s := (w.threads t).slot
  { w.setSession s { w.sessions s with resp := gpsNiResponseNoresp } with
    expired := w.expired ++ (w.sessions s).rawRequest.toList.map fun raw => ⟨raw, t, delay⟩ }

def step (w : NiSystem) : Input → Option NiSystem
  | .tick => some { w with now := w.now + 1 }
  | .request s timeout =>
    if w.task ≠ .idle then none
    else if w.busy s then
      some { w.free (some w.arrived) with
        refused := w.refused ++ [w.arrived]
        arrived := w.arrived + 1 }
    else some { w with task := .saving s w.arrived (respTime timeout), arrived := w.arrived + 1 }
  | .restart => if w.task = .idle then some (w.checkRestart .sessionEs) else none
  | .task created t => w.runTask created t
  | .proc =>
    match w.task, w.msgs with
    | .idle, msg :: rest =>
      some { w.free (some msg.payload) with msgs := rest, informed := w.informed ++ [msg] }
    | _, _ => none
  | .respond c id resp =>
    if w.calls c = .idle then
      some { w.setCall c (if (w.named id .sessionEs).isSome then .matchedEs id resp
          else .comparing id resp) with
        given := w.given ++ [⟨id, resp, w.named id⟩] }
    else none
  | .call c t => w.runCall c t
  | .start t =>
    match (w.threads t).stage with
    | .starting =>
      let session := w.sessions (w.threads t).slot
      if session.respRecvd then some (w.finish t)
      else some (w.setStage t (.waiting w.now session.respTimeLeft false))
    | _ => none
  | .wake t =>
    match (w.threads t).stage with
    | .waiting start delay _ =>
      if (w.sessions (w.threads t).slot).respRecvd then some (w.finish t)
      else some (w.setStage t (.waiting start delay false))
    | _ => none
  | .timeOut t =>
    match (w.threads t).stage with
    | .waiting start delay _ =>
      if start + delay ≤ w.now then some ((w.expire t delay).finish t) else none
    | _ => none
  | .leave t =>
    let s := (w.threads t).slot
    match (w.threads t).stage with
    | .unlocked msg =>
      some ((w.setSession s { w.sessions s with respTimeLeft := 0 }).setStage t (.clearing msg))
    | .clearing msg =>
      some ((w.setSession s { w.sessions s with reqID := 0 }).setStage t (.sending msg))
    | .sending msg => some { w.setStage t .done with msgs := w.msgs ++ msg.toList }
    | _ => none

variable {s s' : NiSlot} {t t' c c' : Nat}

@[simp] theorem setSession_same (session : NiSession) :
    (w.setSession s session).sessions s = session := Function.update_self ..

theorem setSession_of_ne (session : NiSession) (h : s ≠ s') :
    (w.setSession s' session).sessions s = w.sessions s := Function.update_of_ne h ..

@[simp] theorem setThread_same (thread : NiThread) : (w.setThread t thread).threads t = thread :=
  Function.update_self ..

theorem setThread_of_ne (thread : NiThread) (h : t ≠ t') :
    (w.setThread t' thread).threads t = w.threads t := Function.update_of_ne h ..

@[simp] theorem setStage_same (stage : NiStage) :
    (w.setStage t stage).threads t = { w.threads t with stage := stage } := setThread_same ..

theorem setStage_of_ne (stage : NiStage) (h : t ≠ t') :
    (w.setStage t' stage).threads t = w.threads t := setThread_of_ne _ _ h

@[simp] theorem setCall_same (call : NiCall) : (w.setCall c call).calls c = call :=
  Function.update_self ..

theorem setCall_of_ne (call : NiCall) (h : c ≠ c') :
    (w.setCall c' call).calls c = w.calls c := Function.update_of_ne h ..

def Next (w : NiSystem) (i : Input) (_ : List Unit) (w' : NiSystem) : Prop := w.step i = some w'

end NiSystem

end KiwiDevice.Gps

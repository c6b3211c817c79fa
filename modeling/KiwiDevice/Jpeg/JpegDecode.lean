import KiwiDevice.Lib.Steps

/-!
# Decode jobs of one session

A configured decode session, the job manager thread inside `mm_jpegdec_process_decoding_job`, and
the OMX decoder, which answers each accepted call from its own thread. `mm_jpegdec_event_handler`
and `mm_jpegdec_fbd` hold the lock of the session from end to end and are one step each; `jpeg_cb`
is set and nothing is aborted. The ongoing jobs are those of this session, whose ids no other
session uses.
-/

namespace KiwiDevice.Jpeg

inductive OmxRequest where
  | emptyThisBuffer
  | portDisable
  | portEnable
  | fillThisBuffer
  deriving DecidableEq, Repr

inductive OmxEvent where
  | cmdComplete
  | error
  | portSettingsChanged
  | other
  deriving DecidableEq, Repr

structure OmxBuffer where
  pBuffer : Nat
  nFilledLen : Nat
  deriving DecidableEq, Repr

structure JpegOutput where
  bufVaddr : Nat
  fd : Int
  bufFilledLen : Nat
  deriving DecidableEq, Repr

/-- A call of `jpeg_cb`, with `JPEG_JOB_STATUS_DONE` and the output or with `JPEG_JOB_STATUS_ERROR`.
-/
inductive JobReport where
  | done (jobId : Nat) (output : JpegOutput)
  | error (jobId : Nat)
  deriving DecidableEq, Repr

/-- The three places where the thread waits for `cond`. -/
inductive DecodeWait where
  | portSettings
  | disable
  | enable
  deriving DecidableEq, Repr

/-- The next thing that the thread does. -/
inductive DecodePc where
  | enqueue
  | takeJob
  | resetEncoding
  | setEncoding
  | setPending
  | emptyThisBuffer
  | lock (w : DecodeWait)
  | blocked (w : DecodeWait)
  | woken (w : DecodeWait)
  | disablePending
  | disableCommand
  | getParameter
  | setParameter
  | enablePending
  | enableCommand
  | useBuffer (i : Nat)
  | fillThisBuffer
  | reportError
  | removeJob
  | clearEncoding
  | postSem
  | returned
  deriving DecidableEq, Repr

/-- `outstanding` are the accepted calls that OMX has not answered yet; `node` is the id in the node
of the job that is being processed. -/
structure DecodeState where
  numDstBufs : Nat
  jobId : Nat
  encoding : Bool
  eventPending : Bool
  omxEvent : OmxEvent
  ongoingJobQ : List Nat
  jobSem : Nat
  outstanding : List OmxRequest
  node : Nat
  pc : DecodePc

/-- The job manager has a job, a step of the thread whose call succeeds or not, an answer of OMX, or
a return of `pthread_cond_wait` that nobody asked for. -/
inductive DecodeInput where
  | job (node : Nat)
  | thread (ok : Bool)
  | event (request : OmxRequest) (eEvent : OmxEvent)
  | fillBufferDone (pBuffer : OmxBuffer)
  | spurious
  deriving DecidableEq, Repr

namespace DecodeWait

/-- The call whose answer the thread waits for. -/
def request : DecodeWait → OmxRequest
  | .portSettings => .emptyThisBuffer
  | .disable => .portDisable
  | .enable => .portEnable

/-- The event that the thread expects. -/
def event : DecodeWait → OmxEvent
  | .portSettings => .portSettingsChanged
  | .disable => .cmdComplete
  | .enable => .cmdComplete

end DecodeWait

/-- The events that answer an accepted call, other than `FillBufferDone`. -/
def OmxRequest.Answer : OmxRequest → OmxEvent → Prop
  | .emptyThisBuffer, eEvent => eEvent = .portSettingsChanged ∨ eEvent = .error
  | .portDisable, eEvent => eEvent = .cmdComplete ∨ eEvent = .error
  | .portEnable, eEvent => eEvent = .cmdComplete ∨ eEvent = .error
  | .fillThisBuffer, eEvent => eEvent = .error

instance (request : OmxRequest) (eEvent : OmxEvent) : Decidable (request.Answer eEvent) :=
  match request with
  | .emptyThisBuffer => inferInstanceAs (Decidable (_ ∨ _))
  | .portDisable => inferInstanceAs (Decidable (_ ∨ _))
  | .portEnable => inferInstanceAs (Decidable (_ ∨ _))
  | .fillThisBuffer => inferInstanceAs (Decidable (_ = _))

def JobReport.jobId : JobReport → Nat
  | .done jobId _ => jobId
  | .error jobId => jobId

def OmxBuffer.output (pBuffer : OmxBuffer) : JpegOutput where
  bufVaddr := pBuffer.pBuffer
  fd := 0
  bufFilledLen := pBuffer.nFilledLen

namespace DecodeState

/-- A configured session without a job. -/
def idle (numDstBufs jobId : Nat) (eventPending : Bool) (omxEvent : OmxEvent) (jobSem node : Nat) :
    DecodeState where
  numDstBufs := numDstBufs
  jobId := jobId
  encoding := false
  eventPending := eventPending
  omxEvent := omxEvent
  ongoingJobQ := []
  jobSem := jobSem
  outstanding := []
  node := node
  pc := .returned

/-- A call of OMX that is answered later if it is accepted. -/
def send (s : DecodeState) (request : OmxRequest) (ok : Bool) : DecodeState :=
  { s with outstanding := if ok then request :: s.outstanding else s.outstanding }

def answer (s : DecodeState) (request : OmxRequest) : DecodeState :=
  { s with outstanding := s.outstanding.erase request }

/-- `mm_jpegdec_job_done`. -/
def jobDone (s : DecodeState) : DecodeState :=
  { s with ongoingJobQ := s.ongoingJobQ.erase s.jobId, encoding := false, jobSem := s.jobSem + 1 }

/-- `pthread_cond_signal`, where only this thread can wait. -/
def signal (s : DecodeState) : DecodeState :=
  match s.pc with
  | .blocked w => { s with pc := .woken w }
  | _ => s

def eventHandler (s : DecodeState) (eEvent : OmxEvent) : DecodeState × List JobReport :=
  let recorded := { s with omxEvent := eEvent }
  match eEvent with
  | .error =>
    if s.encoding then (recorded.jobDone.signal, [.error s.jobId]) else (recorded.signal, [])
  | .cmdComplete => ({ recorded with eventPending := false }.signal, [])
  | .portSettingsChanged => ({ recorded with eventPending := false }.signal, [])
  | .other => (recorded, [])

def fbd (s : DecodeState) (pBuffer : OmxBuffer) : DecodeState × List JobReport :=
  (s.jobDone, [.done s.jobId pBuffer.output])

/-- What the thread does with the event after a wait; `mm_jpeg_session_port_disable` returns an
error for it that its caller does not look at. -/
def afterWait (s : DecodeState) : DecodeWait → DecodePc
  | .portSettings => if s.omxEvent = .portSettingsChanged then .disablePending else .returned
  | .disable => .getParameter
  | .enable => if s.omxEvent = .cmdComplete then .fillThisBuffer else .returned

/-- A call of OMX that does nothing here and whose failure is reported. -/
def tryTo (s : DecodeState) (ok : Bool) (next : DecodePc) : DecodeState :=
  { s with pc := if ok then next else .reportError }

/-- The thread inside `mm_jpegdec_process_decoding_job`. -/
def thread (s : DecodeState) (ok : Bool) : Option (DecodeState × List JobReport) :=
  match s.pc with
  | .enqueue =>
    if ok then some ({ s with ongoingJobQ := s.ongoingJobQ ++ [s.node], pc := .takeJob }, [])
    else some ({ s with pc := .removeJob }, [])
  | .takeJob => some ({ s with jobId := s.node, pc := .resetEncoding }, [])
  | .resetEncoding => some ({ s with encoding := false, pc := .setEncoding }, [])
  | .setEncoding => some ({ s with encoding := true, pc := .setPending }, [])
  | .setPending => some ({ s with eventPending := true, pc := .emptyThisBuffer }, [])
  | .emptyThisBuffer =>
    some ((s.send .emptyThisBuffer ok).tryTo ok (.lock .portSettings), [])
  | .lock w => some ({ s with pc := if s.eventPending then .blocked w else s.afterWait w }, [])
  | .blocked _ => none
  | .woken w => some ({ s with pc := s.afterWait w }, [])
  | .disablePending => some ({ s with eventPending := true, pc := .disableCommand }, [])
  | .disableCommand =>
    -- refused, the command is not waited for
    let next := if ok then .lock .disable else .getParameter
    some ({ s.send .portDisable ok with pc := next }, [])
  | .getParameter => some (s.tryTo ok .setParameter, [])
  | .setParameter => some (s.tryTo ok .enablePending, [])
  | .enablePending => some ({ s with eventPending := true, pc := .enableCommand }, [])
  | .enableCommand =>
    -- refused or not, it is waited for after the buffers
    some ({ s.send .portEnable ok with pc := .useBuffer 0 }, [])
  | .useBuffer i =>
    if i < s.numDstBufs then some (s.tryTo ok (.useBuffer (i + 1)), [])
    else some ({ s with pc := .lock .enable }, [])
  | .fillThisBuffer => some ((s.send .fillThisBuffer ok).tryTo ok .returned, [])
  | .reportError => some ({ s with pc := .removeJob }, [.error s.jobId])
  | .removeJob =>
    some ({ s with ongoingJobQ := s.ongoingJobQ.erase s.jobId, pc := .clearEncoding }, [])
  | .clearEncoding => some ({ s with encoding := false, pc := .postSem }, [])
  | .postSem => some ({ s with jobSem := s.jobSem + 1, pc := .returned }, [])
  | .returned => none

def step (s : DecodeState) : DecodeInput → Option (DecodeState × List JobReport)
  | .job node => if s.pc = .returned then some ({ s with node, pc := .enqueue }, []) else none
  | .thread ok => s.thread ok
  | .event request eEvent =>
    if request ∈ s.outstanding ∧ request.Answer eEvent then
      some ((s.answer request).eventHandler eEvent)
    else none
  | .fillBufferDone pBuffer =>
    if .fillThisBuffer ∈ s.outstanding then some ((s.answer .fillThisBuffer).fbd pBuffer) else none
  | .spurious =>
    match s.pc with
    | .blocked w => some ({ s with pc := .woken w }, [])
    | _ => none

def Next (s : DecodeState) (i : DecodeInput) (o : List JobReport) (s' : DecodeState) : Prop :=
  s.step i = some (s', o)

end DecodeState

end KiwiDevice.Jpeg

import KiwiDevice.Lib.Account
import KiwiDevice.Lib.Loop
import KiwiDevice.Lib.Since
import KiwiDevice.Lib.Steps
import Mathlib.Algebra.Order.Ring.Nat

/-!
# Buffers of a stream

`QCameraStream`: the buffers are allocated and mapped to the server by `getBufs` or, for a deferred
stream, by `allocateBuffers`; with dynamic allocation a second thread maps the rest. `putBufs` and
`releaseBuffs` wait for that thread and give everything back. The answers of the allocator, of
`malloc`, of the server and of `pthread_create` are inputs.
-/

namespace KiwiDevice.Hal

/-- A `QCameraMemory`, all buffers of which have the same size. -/
structure StreamMemory where
  bufferCount : Nat
  size : Nat
  deriving DecidableEq, Repr

namespace StreamMemory

def badIndex : Int := -75

def getSize (m : StreamMemory) (i : Nat) : Int :=
  if m.bufferCount ≤ i then badIndex else m.size

end StreamMemory

structure QCameraStream where
  numBufs : Nat
  numBufsNeedAlloc : Nat := 0
  dynBufAlloc : Bool := false
  streamBufsAcquired : Bool := false
  streamBufs : Option StreamMemory := none
  /-- `mBufDefs != NULL` -/
  bufDefs : Bool := false
  /-- `mRegFlags != NULL` -/
  regFlags : Bool := false
  /-- `mBufAllocPid != 0` -/
  bufAllocPid : Bool := false
  waitForCond : Bool := false
  deriving DecidableEq, Repr

inductive StreamEvent where
  | allocated
  | deallocated
  | regFlagsAllocated
  | regFlagsFreed
  | bufDefsAllocated
  | bufDefsFreed
  | mapped (i : Nat)
  | unmapped (i : Nat)
  | queued (i : Nat)
  deriving DecidableEq, Repr

/-- The answers to an acquisition: the size of the buffers, when the memory can be allocated, and
those of the other calls. -/
structure AcquireAnswers where
  allocate : Option Nat
  map : Nat → Int
  regFlags : Bool
  bufDefs : Bool
  getRegFlags : Int
  createThread : Bool

inductive Acquire where
  | getBufs (opsTbl : Bool) (answers : AcquireAnswers)
  | allocateBuffers (answers : AcquireAnswers)

/-- Where `BufAllocRoutine` is. -/
inductive AllocThread where
  | condWait
  | allocating
  | mapping (i : Nat)
  | ended
  deriving DecidableEq, Repr

/-- The answers to `BufAllocRoutine`: the result of `allocateMoreStreamBuf` with the number of
buffers after it, and those of the mappings. -/
structure AllocAnswers where
  allocateMore : Int × Nat
  map : Nat → Int

inductive Release where
  | putBufs (unmap : Nat → Int)
  | releaseBuffs (unmap : Nat → Int)

namespace QCameraStream

abbrev Outcome := QCameraStream × List StreamEvent × Int

def minAllocatedBuffers : Nat := 3

def noMemory : Int := -12

def invalidOperation : Int := -38

inductive MapResult where
  | all
  | failed (i : Nat)
  | badSize (i : Nat)
  deriving DecidableEq, Repr

/-- The mapping loop over `n` buffers from `i` on, up to the buffer at which it fails. -/
def mapLoop (m : StreamMemory) (map : Nat → Int) : Nat → Nat → List StreamEvent × MapResult
  | 0, _ => ([], .all)
  | n + 1, i =>
    if m.getSize i = StreamMemory.badIndex then ([], .badSize i)
    else if map i < 0 then ([], .failed i)
    else
      let rest := mapLoop m map n (i + 1)
      (.mapped i :: rest.1, rest.2)

def unmapAll (n : Nat) : List StreamEvent := (List.range n).map .unmapped

/-- The arrays of `n` mapped buffers and `getRegFlags`, with the cleanup of each failure. -/
def arrays (a : AcquireAnswers) (n : Nat) : List StreamEvent × Int :=
  if a.regFlags then
    if a.bufDefs then
      if a.getRegFlags < 0 then
        (.regFlagsAllocated :: .bufDefsAllocated ::
          (unmapAll n ++ [.deallocated, .bufDefsFreed, .regFlagsFreed]), invalidOperation)
      else ([.regFlagsAllocated, .bufDefsAllocated], 0)
    else (.regFlagsAllocated :: (unmapAll n ++ [.deallocated, .regFlagsFreed]), invalidOperation)
  else (unmapAll n ++ [.deallocated], noMemory)

variable (s : QCameraStream)

/-- How many buffers `getBufs` allocates at once, and how many later. -/
def split : QCameraStream × Nat :=
  if s.dynBufAlloc then
    if s.numBufs < minAllocatedBuffers then
      ({ s with dynBufAlloc := false, numBufsNeedAlloc := 0 }, s.numBufs)
    else ({ s with numBufsNeedAlloc := s.numBufs - minAllocatedBuffers }, minAllocatedBuffers)
  else ({ s with numBufsNeedAlloc := 0 }, s.numBufs)

/-- The last part of `getBufs`; the flag tells whether the thread was created. -/
def startThread (create : Bool) : QCameraStream :=
  if 0 < s.numBufsNeedAlloc then
    { s with waitForCond := true, bufAllocPid := s.bufAllocPid || create }
  else s

def getBufs (opsTbl : Bool) (a : AcquireAnswers) : Outcome :=
  if opsTbl then
    let numBufAlloc := s.split.2
    let s := { s.split.1 with numBufs := (numBufAlloc + s.split.1.numBufsNeedAlloc) % 256 }
    match a.allocate with
    | none => ({ s with streamBufs := none }, [], noMemory)
    | some size =>
      let m : StreamMemory := ⟨numBufAlloc, size⟩
      let r := mapLoop m a.map numBufAlloc 0
      match r.2 with
      | .badSize _ => ({ s with streamBufs := some m }, .allocated :: r.1, invalidOperation)
      | .failed i =>
        ({ s with streamBufs := none },
          .allocated :: (r.1 ++ (unmapAll i ++ [.deallocated])), invalidOperation)
      | .all =>
        let t := arrays a numBufAlloc
        if t.2 < 0 then ({ s with streamBufs := none }, .allocated :: (r.1 ++ t.1), t.2)
        else
          ({ s with streamBufs := some m, bufDefs := true }.startThread a.createThread,
            .allocated :: (r.1 ++ t.1), 0)
  else (s, [], invalidOperation)

/-- The cleanup after a failed mapping of buffer `i` unmaps `i`, once for each buffer before it. -/
def allocateBuffers (a : AcquireAnswers) : Outcome :=
  match a.allocate with
  | none => ({ s with streamBufs := none }, [], noMemory)
  | some size =>
    let m : StreamMemory := ⟨s.numBufs, size⟩
    let r := mapLoop m a.map s.numBufs 0
    match r.2 with
    | .badSize i | .failed i =>
      ({ s with streamBufs := none },
        .allocated :: (r.1 ++ (List.replicate i (.unmapped i) ++ [.deallocated])), invalidOperation)
    | .all =>
      let t := arrays a s.numBufs
      if t.2 < 0 then
        ({ s with streamBufs := none, regFlags := false }, .allocated :: (r.1 ++ t.1), t.2)
      else
        ({ s with streamBufs := some m, regFlags := true, bufDefs := true },
          .allocated :: (r.1 ++ t.1), 0)

def acquire : Acquire → Outcome
  | .getBufs opsTbl a => s.getBufs opsTbl a
  | .allocateBuffers a => s.allocateBuffers a

def condSignal (forceExit : Bool) : QCameraStream :=
  if s.waitForCond then
    { s with
      waitForCond := false
      numBufsNeedAlloc := if forceExit then 0 else s.numBufsNeedAlloc }
  else s

/-- A step of `BufAllocRoutine`, if it can take one. Its loop fails at no buffer. -/
def bufAllocRoutine (a : AllocAnswers) :
    AllocThread → Option (QCameraStream × List StreamEvent × AllocThread)
  | .condWait => if s.waitForCond then none else some (s, [], .allocating)
  | .allocating =>
    if 0 < s.numBufsNeedAlloc then
      match s.streamBufs with
      | none => none
      | some m =>
        let more :=
          { s with
            numBufsNeedAlloc := a.allocateMore.2
            streamBufs := some { m with bufferCount := a.allocateMore.2 } }
        if a.allocateMore.1 = 0 then
          some (more, [], .mapping ((s.numBufs + 256 - s.numBufsNeedAlloc) % 256))
        else some (more, [], .ended)
    else some (s, [], .ended)
  | .mapping i =>
    if i < s.numBufs then
      match s.streamBufs with
      | none => none
      | some m =>
        if m.getSize i = StreamMemory.badIndex then some (s, [], .mapping (i + 1))
        else
          some (s, (if a.map i < 0 then [] else [.mapped i]) ++ (if a.map i = 0 then [.queued i] else []),
            .mapping (i + 1))
    else some ({ s with numBufsNeedAlloc := 0 }, [], .ended)
  | .ended => none

/-- The result of the last call for `n` buffers. -/
def lastResult (unmap : Nat → Int) (n : Nat) : Int := ((List.range n).map unmap).getLast?.getD 0

/-- `putBufs` and `releaseBuffs` after the thread was joined; `putBufs` uses the memory unless it
was acquired. -/
def finish : Release → Option Outcome
  | .putBufs unmap =>
    let rc := lastResult unmap s.numBufs
    let cleared := { s with bufAllocPid := false, bufDefs := false }
    if s.streamBufsAcquired then some (cleared, unmapAll s.numBufs, rc)
    else if s.streamBufs.isSome then
      some ({ cleared with streamBufs := none }, unmapAll s.numBufs ++ [.deallocated], rc)
    else none
  | .releaseBuffs unmap =>
    let rc := if s.bufDefs then lastResult unmap s.numBufs else 0
    let events := if s.bufDefs then unmapAll s.numBufs else []
    let cleared := { s with bufAllocPid := false, bufDefs := false }
    if s.streamBufsAcquired = false ∧ s.streamBufs.isSome then
      some ({ cleared with streamBufs := none }, events ++ [.deallocated], rc)
    else some (cleared, events, rc)

end QCameraStream

/-- A stream with its buffers, the allocation thread and the caller that releases the buffers, which
may be in `pthread_join`. -/
structure StreamSession where
  stream : QCameraStream
  thread : Option AllocThread
  releasing : Option Release := none
  released : Bool := false

inductive SessionStep where
  | condSignal
  | acquireStreamBufs
  | thread (answers : AllocAnswers)
  | release (r : Release)
  | join

namespace StreamSession

variable (t : StreamSession)

def finish (r : Release) : Option (StreamSession × List StreamEvent) :=
  (t.stream.finish r).map fun o => (⟨o.1, t.thread, none, true⟩, o.2.1)

def step : SessionStep → Option (StreamSession × List StreamEvent)
  | .condSignal => some ({ t with stream := t.stream.condSignal false }, [])
  | .acquireStreamBufs => some ({ t with stream := { t.stream with streamBufsAcquired := true } }, [])
  | .thread a =>
    t.thread.bind fun x =>
      (t.stream.bufAllocRoutine a x).map fun r => ({ t with stream := r.1, thread := some r.2.2 }, r.2.1)
  | .release r =>
    if t.releasing.isSome || t.released then none
    else if t.stream.bufAllocPid then
      some ({ t with stream := t.stream.condSignal true, releasing := some r }, [])
    else t.finish r
  | .join => if t.thread = some .ended then t.releasing.bind t.finish else none

def Next (t : StreamSession) (i : SessionStep) (events : List StreamEvent) (t' : StreamSession) :
    Prop := t.step i = some (t', events)

/-- The thread, left alone, comes to where the waiting caller goes on. -/
def Ends : Prop :=
  ∀ a, ∃ t', Lib.Loop.Exits (fun t => (step t (.thread a)).map Prod.fst) t t' ∧
    (t'.step .join).isSome

end StreamSession

inductive StreamResource where
  | memory
  | regFlags
  | bufDefs
  | mapping (i : Nat)
  deriving DecidableEq, Repr

def StreamEvent.effect : StreamEvent → Lib.Effect StreamResource
  | .allocated => .take .memory
  | .deallocated => .give .memory
  | .regFlagsAllocated => .take .regFlags
  | .regFlagsFreed => .give .regFlags
  | .bufDefsAllocated => .take .bufDefs
  | .bufDefsFreed => .give .bufDefs
  | .mapped i => .take (.mapping i)
  | .unmapped i => .give (.mapping i)
  | .queued _ => .pass

/-- The buffer was mapped and has not been unmapped since. -/
def StillMapped (i : Nat) (events : List StreamEvent) : Prop :=
  Lib.Since (fun _ e => e = .mapped i) (fun e => e ≠ .unmapped i) events

namespace QCameraStream

/-- A stream without buffers; the count is a `uint8_t`. -/
structure Idle (s : QCameraStream) : Prop where
  numBufs : s.numBufs < 256
  streamBufs : s.streamBufs = none
  bufDefs : s.bufDefs = false
  bufAllocPid : s.bufAllocPid = false

/-- Everything that was mapped or allocated has been given back once, and nothing else. -/
def RolledBack (events : List StreamEvent) (s : QCameraStream) : Prop :=
  Lib.Account StreamEvent.effect events 0 ∧ s.streamBufs = none ∧ s.bufDefs = false

/-- The session that starts when the buffers are there. -/
def opened (s : QCameraStream) : StreamSession :=
  ⟨s, if s.bufAllocPid then some .condWait else none, none, false⟩

/-- Nothing is mapped and the allocation thread has ended. -/
def Returned (events : List StreamEvent) (t : StreamSession) : Prop :=
  (∀ i, ¬ StillMapped i events) ∧ ∀ x ∈ t.thread, x = .ended

/-- A failed acquisition leaves nothing, and a release after a successful one comes to its end and
leaves nothing mapped. -/
def AllOrNothing (s : QCameraStream) (c : Acquire) : Prop :=
  ((s.acquire c).2.2 ≠ 0 → RolledBack (s.acquire c).2.1 (s.acquire c).1) ∧
  ((s.acquire c).2.2 = 0 → ∀ steps events t,
    Lib.Steps StreamSession.Next Lib.anyStep (s.acquire c).1.opened steps events t →
      (t.released = false → t.releasing = none → ∀ r, (t.step (.release r)).isSome) ∧
      (t.releasing.isSome → t.Ends) ∧
      (t.released = true → Returned ((s.acquire c).2.1 ++ events) t))

/-- A deferred stream fails to map its first buffer or none. -/
def Spared (s : QCameraStream) : Acquire → Prop
  | .getBufs _ _ => True
  | .allocateBuffers a =>
    a.allocate.isSome → a.map 0 < 0 ∨ ∀ i < s.numBufs, 0 ≤ a.map i

end QCameraStream

end KiwiDevice.Hal

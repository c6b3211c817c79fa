import KiwiDevice.Hal.CameraMemory
import KiwiDevice.Lib.Account
import KiwiDevice.Lib.Since

/-!
# Preview buffers of a window

`QCameraGrallocMemory`: the buffers of a native window, each imported into ION and mapped as a
camera memory. The window, ION and the camera service are outside; a call gets their answers. A call
that leaves the arrays or follows a NULL pointer has no result.
-/

namespace KiwiDevice.Hal

structure IonImport where
  mainIonFd : Nat := 0
  handle : Nat := 0
  deriving DecidableEq, Repr

structure GrallocMemory where
  hasWindow : Bool
  minUndequeued : Nat := 0
  bufferCount : Nat := 0
  bufferHandle : Nat → Option Nat := fun _ => none
  /-- `mLocalFlag[i] == BUFFER_OWNED` -/
  localFlag : Nat → Bool := fun _ => false
  memInfo : Nat → IonImport := fun _ => {}
  cameraMemory : Nat → Option Nat := fun _ => none

inductive GrallocEvent where
  | dequeued (buffer : Nat)
  | enqueued (buffer : Nat)
  | cancelled (buffer : Nat)
  | refused (buffer : Nat)
  | opened (fd : Nat)
  | closed (fd : Nat)
  | imported (handle : IonImport)
  | freed (handle : IonImport)
  | obtained (memory : Nat)
  | released (memory : Nat)
  deriving DecidableEq, Repr

/-- The answers to `allocate`, those of a loop by the index of the buffer. -/
structure GrallocAnswers where
  minUndequeued : Option Nat
  setBufferCount : Bool
  setGeometry : Bool
  setCrop : Bool
  setUsage : Bool
  dequeue : Nat → Option Nat
  openIon : Nat → Option Nat
  importIon : Nat → Option Nat
  getMemory : Nat → Option Nat
  cancel : Nat → Bool

inductive GrallocCall where
  | allocate (count : Nat) (answers : GrallocAnswers)
  | displayBuffer (index : Nat) (enqueue : Bool) (dequeue : Option Nat)
  | deallocate (cancel : Nat → Bool)

namespace GrallocMemory

abbrev Outcome := Option (GrallocMemory × List GrallocEvent × Int)

def invalidOperation : Int := -38

def unknownError : Int := -2147483648

def badIndex : Int := -75

variable (s : GrallocMemory)

def setFlag (i : Nat) (owned : Bool) : GrallocMemory :=
  { s with localFlag := Function.update s.localFlag i owned }

def clearInfo : GrallocMemory := { s with memInfo := fun _ => {} }

/-- `cancel_buffer` or `enqueue_buffer` of the buffer `i`. -/
def giveBack (event : Nat → GrallocEvent) (ok : Bool) (i : Nat) : List GrallocEvent :=
  (s.bufferHandle i).toList.map fun h => if ok then event h else .refused h

/-- The rollback loops of `allocate`, over `n` buffers from `i` on. The one for a failed dequeue
does not close the descriptors. -/
def rollback (closes : Bool) (cancel : Nat → Bool) :
    Nat → Nat → GrallocMemory → GrallocMemory × List GrallocEvent
  | 0, _, s => (s, [])
  | n + 1, i, s =>
    let events := .freed (s.memInfo i) ::
      ((if closes then [.closed (s.memInfo i).mainIonFd] else []) ++
        if s.localFlag i then s.giveBack .cancelled (cancel i) i else [])
    let rest := rollback closes cancel n (i + 1)
      { s.setFlag i false with bufferHandle := Function.update s.bufferHandle i none }
    (rest.1, events ++ rest.2)

def rollbackAll (closes : Bool) (cancel : Nat → Bool) (cnt : Nat) :
    GrallocMemory × List GrallocEvent :=
  ((rollback closes cancel cnt 0 s).1.clearInfo, (rollback closes cancel cnt 0 s).2)

/-- The state after a turn of the allocation loop in which nothing fails. -/
def fill (a : GrallocAnswers) (cnt h fd x : Nat) : GrallocMemory :=
  { s.setFlag cnt true with
    bufferHandle := Function.update s.bufferHandle cnt (some h)
    memInfo := Function.update s.memInfo cnt ⟨fd, x⟩
    cameraMemory := Function.update s.cameraMemory cnt (a.getMemory cnt) }

/-- The loop of `allocate` over `n` buffers from `cnt` on, and whether it went through. -/
def allocLoop (a : GrallocAnswers) :
    Nat → Nat → GrallocMemory → Option (GrallocMemory × List GrallocEvent × Bool)
  | 0, _, s => some (s, [], true)
  | n + 1, cnt, s =>
    if maxNumFrames ≤ cnt then none
    else
      match a.dequeue cnt with
      | none =>
        let r := (s.setFlag cnt false).rollbackAll false a.cancel cnt
        some (r.1, r.2, false)
      | some h =>
        let taken :=
          { s.setFlag cnt true with bufferHandle := Function.update s.bufferHandle cnt (some h) }
        match a.openIon cnt with
        | none =>
          let r := taken.rollbackAll true a.cancel cnt
          some (r.1, .dequeued h :: r.2, false)
        | some fd =>
          match a.importIon cnt with
          | none =>
            let r := taken.rollbackAll true a.cancel cnt
            some (r.1, [.dequeued h, .opened fd] ++ r.2 ++ [.closed fd], false)
          | some x =>
            (allocLoop a n (cnt + 1) (s.fill a cnt h fd x)).map fun rest =>
              (rest.1, [.dequeued h, .opened fd, .imported ⟨fd, x⟩] ++
                ((a.getMemory cnt).toList.map .obtained ++ rest.2.1), rest.2.2)

/-- The loop that cancels `n` buffers from `i` on. -/
def cancelLoop (cancel : Nat → Bool) :
    Nat → Nat → GrallocMemory → Option (GrallocMemory × List GrallocEvent)
  | 0, _, s => some (s, [])
  | n + 1, i, s =>
    if maxNumFrames ≤ i then none
    else
      (cancelLoop cancel n (i + 1) (s.setFlag i false)).map fun rest =>
        (rest.1, s.giveBack .cancelled (cancel i) i ++ rest.2)

def allocate (count : Nat) (a : GrallocAnswers) : Outcome :=
  if s.hasWindow then
    match a.minUndequeued with
    | none => some (s, [], unknownError)
    | some minimum =>
      let s := { s with minUndequeued := minimum }
      if a.setBufferCount && a.setGeometry && a.setCrop && a.setUsage then do
        let filled ← allocLoop a count 0 s
        if filled.2.2 then do
          let cancelled ← cancelLoop a.cancel minimum 0 { filled.1 with bufferCount := count }
          some (cancelled.1, filled.2.1 ++ cancelled.2, 0)
        else some (filled.1, filled.2.1, unknownError)
      else some (s, [], unknownError)
  else some (s, [], invalidOperation)

/-- The first buffer with this handle. -/
def bufferIndex (h : Nat) : Option Nat :=
  (List.range s.bufferCount).find? fun i => s.bufferHandle i = some h

def displayBuffer (index : Nat) (enqueue : Bool) (dequeue : Option Nat) : Outcome :=
  if maxNumFrames ≤ index then none
  else if s.localFlag index then
    let given := s.giveBack .enqueued enqueue index
    let s := if enqueue then s.setFlag index false else s
    match dequeue with
    | none => some (s, given, badIndex)
    | some h =>
      match s.bufferIndex h with
      | none => some (s, given ++ [.dequeued h], badIndex)
      | some i => some (s.setFlag i true, given ++ [.dequeued h], i)
  else some (s, [], invalidOperation)

/-- The loop of `deallocate` over `n` buffers from `i` on. -/
def releaseLoop (cancel : Nat → Bool) :
    Nat → Nat → GrallocMemory → Option (GrallocMemory × List GrallocEvent)
  | 0, _, s => some (s, [])
  | n + 1, i, s =>
    match s.cameraMemory i with
    | none => none
    | some memory =>
      (releaseLoop cancel n (i + 1) (s.setFlag i false)).map fun rest =>
        (rest.1, [.released memory, .freed (s.memInfo i), .closed (s.memInfo i).mainIonFd] ++
          ((if s.localFlag i ∧ s.hasWindow then s.giveBack .cancelled (cancel i) i else []) ++
            rest.2))

def deallocate (cancel : Nat → Bool) : Outcome :=
  (releaseLoop cancel s.bufferCount 0 s).map fun released =>
    ({ released.1 with bufferCount := 0 }, released.2, 0)

def call : GrallocCall → Outcome
  | .allocate count a => s.allocate count a
  | .displayBuffer index enqueue dequeue => s.displayBuffer index enqueue dequeue
  | .deallocate cancel => s.deallocate cancel

def Next (s : GrallocMemory) (c : GrallocCall) (events : List GrallocEvent) (s' : GrallocMemory) :
    Prop := ∃ rc, s.call c = some (s', events, rc)

end GrallocMemory

inductive GrallocResource where
  | buffer (h : Nat)
  | ionFd (fd : Nat)
  | ionHandle (handle : IonImport)
  | memory (m : Nat)
  deriving DecidableEq, Repr

def GrallocEvent.effect : GrallocEvent → Lib.Effect GrallocResource
  | .dequeued h => .take (.buffer h)
  | .enqueued h | .cancelled h => .give (.buffer h)
  | .refused _ => .pass
  | .opened fd => .take (.ionFd fd)
  | .closed fd => .give (.ionFd fd)
  | .imported x => .take (.ionHandle x)
  | .freed x => .give (.ionHandle x)
  | .obtained m => .take (.memory m)
  | .released m => .give (.memory m)

namespace GrallocMemory

/-- The buffer was dequeued, and neither enqueued nor cancelled since. -/
def Held (h : Nat) (events : List GrallocEvent) : Prop :=
  Lib.Since (fun _ e => e = .dequeued h) (fun e => e ≠ .enqueued h ∧ e ≠ .cancelled h) events

/-- Everything that was taken has been given back once. -/
def Settled (events : List GrallocEvent) : Prop :=
  Lib.Account GrallocEvent.effect events 0

/-- The flags tell which buffers are held, and without buffers everything has been given back. -/
def Accounted (events : List GrallocEvent) (s : GrallocMemory) : Prop :=
  (∀ i < s.bufferCount, s.localFlag i = true ↔ ∃ h, s.bufferHandle i = some h ∧ Held h events) ∧
  (∀ i, s.bufferCount ≤ i → s.localFlag i = false) ∧
  (s.bufferCount = 0 → Settled events)

/-- The order of the calls: buffers are allocated when there are none, no fewer than the window
keeps, and only owned buffers are displayed. -/
def Ordered (s : GrallocMemory) : GrallocCall → Prop
  | .allocate count a => s.bufferCount = 0 ∧ ∀ minimum ∈ a.minUndequeued, minimum ≤ count
  | .displayBuffer index _ _ => s.localFlag index = true
  | .deallocate _ => True

/-- What a window promises: it gives out no buffer that the client holds. -/
def WindowOk (before events : List GrallocEvent) : Prop :=
  ∀ earlier h later, events = earlier ++ .dequeued h :: later → ¬ Held h (before ++ earlier)

/-- The loop of `allocate` finds everything for its buffers, which are not too many, and the buffers
that the window keeps can be cancelled; or it gets no buffer at all. -/
def AllocationSpared (count : Nat) (a : GrallocAnswers) : Prop :=
  (0 < count ∧ a.dequeue 0 = none) ∨
  (count ≤ maxNumFrames ∧
    (∀ i < count, (a.dequeue i).isSome ∧ (a.openIon i).isSome ∧ (a.importIon i).isSome ∧
      (a.getMemory i).isSome) ∧
    ∀ minimum ∈ a.minUndequeued, ∀ i < minimum, a.cancel i = true)

/-- The calls after which nothing is lost. -/
def Spared (s : GrallocMemory) : GrallocCall → Prop
  | .allocate count a =>
    s.hasWindow = true → a.minUndequeued.isSome →
      a.setBufferCount && a.setGeometry && a.setCrop && a.setUsage → AllocationSpared count a
  | .displayBuffer _ _ dequeue =>
    ∀ h ∈ dequeue, ∃ i < s.bufferCount, s.bufferHandle i = some h
  | .deallocate cancel => ∀ i < s.bufferCount, s.localFlag i = true → cancel i = true

end GrallocMemory

end KiwiDevice.Hal

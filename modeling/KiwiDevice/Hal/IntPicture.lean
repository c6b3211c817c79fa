import KiwiDevice.Lib.Steps

/-!
# A picture for the backend

`checkIntPicPending` of the thread that takes the picture, the part of `processJpegEvt` that signals
it, and the event that starts both, for one picture. The threads share a flag, the name and size of
the file, and the lock with its condition variable; a thread runs from one access of these to the
next. A wait whose deadline is no valid time fails at once, and there are no spurious wake-ups.
-/

namespace KiwiDevice.Hal

structure Timespec where
  sec : Nat
  nsec : Nat
  deriving DecidableEq, Repr

namespace Timespec

/-- The deadline that is made of the time of day, in microseconds. -/
def deadline (clock : Nat) : Timespec :=
  ⟨clock / 1000000, clock % 1000000 * 1000 + 1000 * 1000000⟩

def Valid (ts : Timespec) : Prop := ts.nsec < 1000000000

instance (ts : Timespec) : Decidable ts.Valid := inferInstanceAs (Decidable (_ < _))

def usec (ts : Timespec) : Nat := ts.sec * 1000000 + ts.nsec / 1000

end Timespec

/-- What `pthread_cond_timedwait` returns. -/
inductive WaitResult where
  | signalled
  | einval
  | etimedout
  deriving DecidableEq, Repr

/-- `cam_int_evt_params_t` -/
structure IntEvtParams where
  dim : Nat × Nat
  path : List UInt8
  size : Nat
  deriving DecidableEq, Repr

inductive IntPicEffect where
  | setIntEvent (params : IntEvtParams)
  | snapshotDone
  | startPreview
  | setJpegMemOpt (enabled : Bool)
  deriving DecidableEq, Repr

/-- Where the thread that takes the picture is. -/
inductive PicThread where
  | idle
  | taking
  | atFlag (ts : Timespec)
  | atLock (ts : Timespec)
  | atWait (ts : Timespec)
  | blocked (ts : Timespec) (since : Nat)
  | woken (rc : WaitResult)
  | returned (rc : WaitResult)
  | unlocked (rc : WaitResult)
  | sending (params : IntEvtParams)
  | done
  deriving DecidableEq, Repr

/-- Where the processing of the picture's JPEG event is. -/
inductive JpegThread where
  | encoding
  | dumping
  | atFlag
  | atLock
  | atSignal
  | signalled
  | processed
  | failed
  deriving DecidableEq, Repr

inductive IntLockHolder where
  | pic
  | jpeg
  deriving DecidableEq, Repr

structure IntPicture where
  clock : Nat
  intEvtPending : Bool := false
  intLock : Option IntLockHolder := none
  pic : PicThread := .idle
  jpeg : JpegThread := .encoding
  backendFileName : List UInt8
  backendFileSize : Nat
  dstDim : Nat × Nat
  /-- There is a data callback and the compressed image is enabled. -/
  wantsImage : Bool
  zslMode : Bool
  /-- The value that `takeBackendPic_internal` has saved. -/
  jpegMemOpt : Bool
  sent : Option IntEvtParams := none

namespace IntPicture

variable (p : IntPicture)

/-- `camEvtHandle` of `CAM_EVENT_TYPE_INT_TAKE_PIC`, which starts the thread. -/
def camEvtHandle : Option IntPicture :=
  if p.pic = .idle ∧ p.intLock = none then some { p with intEvtPending := true, pic := .taking } else none

/-- The start of `processJpegEvt`. -/
def processJpegEvt (ok : Bool) : Option IntPicture :=
  if p.jpeg = .encoding ∧ p.pic ≠ .idle then
    if p.intEvtPending = false ∧ p.wantsImage = false then some { p with jpeg := .processed }
    else some { p with jpeg := if ok then .dumping else .failed }
  else none

/-- `dumpJpegToFile`; `file` is the name and size, if its counters let it store them. -/
def dumpJpegToFile (file : Option (List UInt8 × Nat)) : Option IntPicture :=
  if p.jpeg = .dumping then
    match file with
    | some (name, size) =>
      if p.intEvtPending then
        some { p with jpeg := .atFlag, backendFileName := name, backendFileSize := size }
      else some { p with jpeg := .atFlag }
    | none => some { p with jpeg := .atFlag }
  else none

/-- `pthread_cond_signal` wakes the thread if it waits. -/
def wake : PicThread → PicThread
  | .blocked _ _ => .woken .signalled
  | pic => pic

/-- The rest of `processJpegEvt`. -/
def jpegStep : Option IntPicture :=
  match p.jpeg with
  | .atFlag => some { p with jpeg := if p.intEvtPending then .atLock else .processed }
  | .atLock => if p.intLock = none then some { p with jpeg := .atSignal, intLock := some .jpeg } else none
  | .atSignal => some { p with jpeg := .signalled, pic := wake p.pic }
  | .signalled => some { p with jpeg := .processed, intLock := none }
  | _ => none

def intEvtParams : IntEvtParams := ⟨p.dstDim, p.backendFileName.take 50, p.backendFileSize⟩

/-- `checkIntPicPending` -/
def picStep : Option (IntPicture × List IntPicEffect) :=
  match p.pic with
  | .taking => some ({ p with pic := .atFlag (.deadline p.clock) }, [])
  | .atFlag ts => some ({ p with pic := if p.intEvtPending then .atLock ts else .done }, [])
  | .atLock ts =>
    if p.intLock = none then some ({ p with pic := .atWait ts, intLock := some .pic }, []) else none
  | .atWait ts =>
    if ts.Valid then some ({ p with pic := .blocked ts p.clock, intLock := none }, [])
    else some ({ p with pic := .returned .einval }, [])
  | .woken rc =>
    if p.intLock = none then some ({ p with pic := .returned rc, intLock := some .pic }, []) else none
  | .returned rc => some ({ p with pic := .unlocked rc, intEvtPending := false, intLock := none }, [])
  | .unlocked rc =>
    some ({ p with pic := if rc = .etimedout then .done else .sending p.intEvtParams }, [])
  | .sending params =>
    some ({ p with pic := .done, sent := some params },
      [.setIntEvent params, .snapshotDone] ++ (if p.zslMode then [] else [.startPreview]) ++
        [.setJpegMemOpt p.jpegMemOpt])
  | _ => none

/-- The deadline of the wait has come. -/
def picTimeout : Option IntPicture :=
  match p.pic with
  | .blocked ts _ => if ts.usec ≤ p.clock then some { p with pic := .woken .etimedout } else none
  | _ => none

inductive Act where
  | tick (usec : Nat)
  | camEvt
  | jpegEvt (ok : Bool)
  | jpegDump (file : Option (List UInt8 × Nat))
  | jpeg
  | pic
  | timeout

def step (p : IntPicture) : Act → Option (IntPicture × List IntPicEffect)
  | .tick usec => some ({ p with clock := p.clock + usec }, [])
  | .camEvt => p.camEvtHandle.map (·, [])
  | .jpegEvt ok => (p.processJpegEvt ok).map (·, [])
  | .jpegDump file => (p.dumpJpegToFile file).map (·, [])
  | .jpeg => p.jpegStep.map (·, [])
  | .pic => p.picStep
  | .timeout => p.picTimeout.map (·, [])

def Next (p : IntPicture) (a : Act) (effects : List IntPicEffect) (p' : IntPicture) : Prop :=
  p.step a = some (p', effects)

/-! ## What the wait is for -/

/-- The JPEG event of the picture has been processed. -/
def Processed : Prop := p.jpeg = .signalled ∨ p.jpeg = .processed

instance : Decidable p.Processed := inferInstanceAs (Decidable (_ ∨ _))

/-- What is sent is the file of a picture that is there. -/
def SendsReady : Prop := ∀ params, p.sent = some params → p.Processed ∧ params = p.intEvtParams

def WaitsASecond : Prop := ∀ ts since, p.pic = .blocked ts since → ts.usec ≤ since + 1000000

def Clears : Prop := p.pic = .done → p.intEvtPending = false

/-- The wait is not begun before the JPEG event has been processed. -/
def WaitsLate (_ : List Act) (_ : List IntPicEffect) (p : IntPicture) (a : Act)
    (_ : List IntPicEffect) : Prop :=
  a = .pic → ∀ ts, p.pic = .atWait ts → p.Processed

end IntPicture

end KiwiDevice.Hal

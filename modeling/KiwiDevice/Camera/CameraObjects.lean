import KiwiDevice.Camera.ChannelSlots

/-!
# Camera objects and their users

The clients of `camera_open`, of the operations of `mm_camera_ops` and of `mm_camera_intf_close`. A
step of a client goes from one operation on a lock to the next. Every operation takes the interface
lock, looks the object up, hands over to the lock of the object, and goes on after it has released
that one, too.
-/

namespace KiwiDevice.Camera

/-- The part of `mm_camera_obj_t` that its life depends on, whether `cam_lock` is initialised and
whether the memory was freed. -/
structure CameraObj where
  myHdl : Nat := 0
  refCount : Int := 0
  lockInit : Bool := false
  freed : Bool := false

/-- The stages of `camera_open`; a stage has the object that was counted or built. -/
inductive OpenStage where
  | reading
  | counted (o : Nat)
  | rereading (o : Nat)
  | numbering (o : Nat)
  | devOpening (o : Nat)
  | published (o : Nat)
  | refused

/-- The stages of an operation; from `camLocking` on with the object that the handle stands for. -/
inductive OpStage where
  | locking (hdl : Nat)
  | finding (hdl : Nat)
  | camLocking (o : Nat)
  | handing (o : Nat)
  | running (o : Nat)
  | tail (o : Nat)
  | leaving

/-- The stages of `mm_camera_intf_close`. -/
inductive CloseStage where
  | locking (hdl : Nat)
  | finding (hdl : Nat)
  | leaving
  | camLocking (o : Nat)
  | handing (o : Nat)
  | devClosing (o : Nat)
  | destroying (o : Nat)

/-- A client, with the index of its camera and, once it is opened, the object of its `vtbl`. -/
inductive CamClient where
  | idle
  | opening (idx : Nat) (stage : OpenStage)
  | opened (idx o : Nat)
  | op (idx o : Nat) (stage : OpStage)
  | closing (idx o : Nat) (stage : CloseStage)

/-- `table` is `g_cam_ctrl.cam_obj`; objects are named in the order of their allocation. `opens` are
the objects whose `mm_camera_open` succeeded, `closed` the arguments of `mm_camera_close`, and
`freed` those of `free`. -/
structure CamHeap where
  maxSensors : Nat
  table : Nat → Option Nat := fun _ => none
  objs : Nat → CameraObj := fun _ => {}
  nextObj : Nat := 0
  opens : List Nat := []
  closed : List Nat := []
  freed : List Nat := []

/-- `generated` counts the handles and `faults` the accesses to freed objects, to destroyed locks
and through `NULL`. -/
structure CamWorld extends CamHeap where
  numCam : Nat
  intfLock : Option Nat := none
  camLocks : Nat → Option Nat := fun _ => none
  historyCount : Nat := 0
  clients : Nat → CamClient := fun _ => .idle
  generated : Nat := 0
  faults : Nat := 0

namespace CamWorld

/-- `touch` is an access of a running operation to its object; `otherHandle` a handle for a channel
or a stream. The answer in `run` is that of `malloc` and of `mm_camera_open`. -/
inductive Input where
  | cameraOpen (c : Nat) (idx : Fin 256)
  | operation (c : Nat)
  | closeCamera (c : Nat)
  | touch (c : Nat)
  | otherHandle
  | run (c : Nat) (ok : Bool)

variable (w : CamWorld)

def setClient (c : Nat) (x : CamClient) : CamWorld :=
  { w with clients := Function.update w.clients c x }

def setObj (o : Nat) (obj : CameraObj) : CamWorld :=
  { w with objs := Function.update w.objs o obj }

/-- An access to the object. -/
def useObj (o : Nat) : CamWorld :=
  { w with faults := if (w.objs o).freed = true then w.faults + 1 else w.faults }

/-- An operation on the lock of the object, after which `holder` has it. -/
def useLock (o : Nat) (holder : Option Nat) : CamWorld :=
  { w with
    camLocks := Function.update w.camLocks o holder
    faults := if (w.objs o).freed = true ∨ (w.objs o).lockInit = false then w.faults + 1
      else w.faults }

/-- The object that `mm_camera_util_get_camera_by_handler` reads. -/
def candidate (hdl : Nat) : Option Nat :=
  if Driver.indexByHandler hdl < w.maxSensors then w.table (Driver.indexByHandler hdl) else none

/-- `mm_camera_util_get_camera_by_handler`. -/
def utilGetCameraByHandler (hdl : Nat) : Option Nat :=
  (w.candidate hdl).filter fun o => hdl = (w.objs o).myHdl

/-- The access of `mm_camera_util_get_camera_by_handler`. -/
def useCandidate (hdl : Nat) : CamWorld :=
  match w.candidate hdl with
  | some o => w.useObj o
  | none => w

def openStep (c idx : Nat) (ok : Bool) : OpenStage → CamWorld
  | .reading =>
    match w.table idx with
    | some o =>
      ((w.useObj o).setObj o { w.objs o with refCount := (w.objs o).refCount + 1 }).setClient c
        (.opening idx (.counted o))
    | none =>
      if ok then
        { (w.setObj w.nextObj { refCount := 1 }).setClient c (.opening idx (.numbering w.nextObj))
          with nextObj := w.nextObj + 1 }
      else w.setClient c (.opening idx .refused)
  | .counted o => { w.setClient c (.opening idx (.rereading o)) with intfLock := none }
  | .rereading _ =>
    -- the table is read once more, without the lock
    match w.table idx with
    | some o => w.setClient c (.opened idx o)
    | none => { w.setClient c .idle with faults := w.faults + 1 }
  | .numbering o =>
    let count := Jpeg.nextHistoryCount w.historyCount
    { ((w.useObj o).setObj o { w.objs o with
        myHdl := utilGenerateHandler count idx, lockInit := true }).setClient c
        (.opening idx (.devOpening o)) with
      historyCount := count
      generated := w.generated + 1 }
  | .devOpening o =>
    -- `mm_camera_open` has no device for an index beyond the table
    if ok ∧ Driver.indexByHandler (w.objs o).myHdl < w.maxSensors then
      { (w.useObj o).setClient c (.opening idx (.published o)) with
        table := Function.update w.table idx (some o)
        opens := w.opens ++ [o] }
    else
      let obj := { w.objs o with lockInit := false, freed := true }
      { ((w.useLock o none).setObj o obj).setClient c (.opening idx .refused) with
        table := Function.update w.table idx none
        freed := w.freed ++ [o] }
  | .published o => { w.setClient c (.opened idx o) with intfLock := none }
  | .refused => { w.setClient c .idle with intfLock := none }

/-- `vtbl` is the object of the client; the table may lead to another one. -/
def opStep (c idx vtbl : Nat) : OpStage → Option CamWorld
  | .locking hdl =>
    if w.intfLock = none then
      some { w.setClient c (.op idx vtbl (.finding hdl)) with intfLock := some c }
    else none
  | .finding hdl =>
    match w.utilGetCameraByHandler hdl with
    | some o => some ((w.useCandidate hdl).setClient c (.op idx vtbl (.camLocking o)))
    | none => some ((w.useCandidate hdl).setClient c (.op idx vtbl .leaving))
  | .camLocking o =>
    if w.camLocks o = none then
      some ((w.useLock o (some c)).setClient c (.op idx vtbl (.handing o)))
    else none
  | .handing o => some { w.setClient c (.op idx vtbl (.running o)) with intfLock := none }
  | .running o => some ((w.useLock o none).setClient c (.op idx vtbl (.tail o)))
  | .tail _ => some (w.setClient c (.opened idx vtbl))
  | .leaving => some { w.setClient c (.opened idx vtbl) with intfLock := none }

def closeStep (c idx vtbl : Nat) : CloseStage → Option CamWorld
  | .locking hdl =>
    if w.intfLock = none then
      some { w.setClient c (.closing idx vtbl (.finding hdl)) with intfLock := some c }
    else none
  | .finding hdl =>
    match w.utilGetCameraByHandler hdl with
    | some o =>
      let count := (w.objs o).refCount - 1
      let w₁ := (w.useCandidate hdl).setObj o { w.objs o with refCount := count }
      if count > 0 then some (w₁.setClient c (.closing idx vtbl .leaving))
      else some { w₁.setClient c (.closing idx vtbl (.camLocking o)) with
        table := Function.update w.table (hdl % 256) none }
    | none => some ((w.useCandidate hdl).setClient c (.closing idx vtbl .leaving))
  | .leaving => some { w.setClient c .idle with intfLock := none }
  | .camLocking o =>
    if w.camLocks o = none then
      some ((w.useLock o (some c)).setClient c (.closing idx vtbl (.handing o)))
    else none
  | .handing o => some { w.setClient c (.closing idx vtbl (.devClosing o)) with intfLock := none }
  | .devClosing o =>
    some { (w.useLock o none).setClient c (.closing idx vtbl (.destroying o)) with
      closed := w.closed ++ [o] }
  | .destroying o =>
    let obj := { w.objs o with lockInit := false, freed := true }
    some { ((w.useLock o none).setObj o obj).setClient c .idle with freed := w.freed ++ [o] }

def step (w : CamWorld) : Input → Option CamWorld
  | .cameraOpen c idx =>
    match w.clients c with
    | .idle =>
      if idx ≥ w.numCam then some w
      else if w.intfLock = none then
        some { w.setClient c (.opening idx .reading) with intfLock := some c }
      else none
    | _ => none
  | .operation c =>
    match w.clients c with
    | .opened idx o => some ((w.useObj o).setClient c (.op idx o (.locking (w.objs o).myHdl)))
    | _ => none
  | .closeCamera c =>
    match w.clients c with
    | .opened idx o => some ((w.useObj o).setClient c (.closing idx o (.locking (w.objs o).myHdl)))
    | _ => none
  | .touch c =>
    match w.clients c with
    | .op _ _ (.running o) | .op _ _ (.tail o) => some (w.useObj o)
    | _ => none
  | .otherHandle =>
    some { w with
      historyCount := Jpeg.nextHistoryCount w.historyCount
      generated := w.generated + 1 }
  | .run c ok =>
    match w.clients c with
    | .idle | .opened .. => none
    | .opening idx stage => some (w.openStep c idx ok stage)
    | .op idx vtbl stage => w.opStep c idx vtbl stage
    | .closing idx vtbl stage => w.closeStep c idx vtbl stage

def Next (w : CamWorld) (i : Input) (_ : List Unit) (w' : CamWorld) : Prop := w.step i = some w'

end CamWorld

end KiwiDevice.Camera

import KiwiDevice.Camera.StreamFsm
import KiwiDevice.Jpeg.ClientRuns
import KiwiDevice.Lib.Steps
import Mathlib.Data.List.FinRange

/-!
# Channel slots

The client threads that run `mm_camera_add_channel` and `mm_camera_del_channel` on one camera. A
step of a client goes from one operation on a lock to the next.
-/

namespace KiwiDevice.Camera

/-- `mm_camera_util_generate_handler`, the same text as `mm_jpeg_util_generate_handler`. -/
def utilGenerateHandler (historyCount index : Nat) : Nat := Jpeg.generateHandler historyCount index

theorem index_utilGenerateHandler (historyCount : Nat) {index : Nat} (h : index < 256) :
    Driver.indexByHandler (utilGenerateHandler historyCount index) = index :=
  Jpeg.generateHandler_index historyCount h

theorem utilGenerateHandler_pos (historyCount index : Nat) :
    0 < utilGenerateHandler (Jpeg.nextHistoryCount historyCount) index := by
  obtain ⟨hPos, hLt⟩ := Jpeg.nextHistoryCount_pos historyCount
  exact Jpeg.generateHandler_pos hPos hLt

/-- `MM_CAMERA_CHANNEL_MAX`. -/
def channelMax : Nat := 16

/-- The arguments of `mm_camera_add_channel`. -/
structure ChannelParams where
  attr : Option ChannelAttr := none
  channelCb : Option Nat := none
  userdata : Nat := 0

/-- `mm_channel_t` with its lock and whether its data poll thread runs. -/
structure ChannelSlot where
  channel : MmChannel := {}
  chLock : Option Nat := none
  pollThread : Bool := false

/-- `mm_channel_init` before the thread is launched, on a slot that was set to zero. -/
def ChannelSlot.init (hdl : Nat) (p : ChannelParams) : ChannelSlot where
  channel := {
    myHdl := hdl
    state := .stopped
    bundle := {
      superBufNotifyCb := p.channelCb
      userData := p.userdata
      superbufQueue := { attr := p.attr.getD {} } } }

/-- What an adding thread does next. -/
inductive AddStage where
  | numbering
  | initing (hdl : Nat)
  | launching (hdl : Nat)
  | stopping (hdl : Nat)
  | unlocking (hdl : Nat)

/-- What a deleting thread does next. -/
inductive DelStage where
  | locking
  | handing
  | dispatching
  | releasing
  | marking
  | unlocking (rc : Int)
  | destroying (rc : Int)

/-- Where a client is. A deletion keeps how often its slot had been taken when it found it. -/
inductive SlotClient where
  | idle
  | scanning (p : ChannelParams)
  | adding (i : Fin channelMax) (p : ChannelParams) (stage : AddStage)
  | finding (hdl : Nat)
  | deleting (i : Fin channelMax) (hdl taken : Nat) (stage : DelStage)
  | leaving

/-- `owned` are the handles that a client got and has not begun to delete; `takes` counts the calls
of `mm_camera_add_channel` that took a slot. `stray` are the slots to which a deletion wrote after
another call had taken them. -/
structure SlotWorld where
  camLock : Option Nat := none
  slots : Fin channelMax → ChannelSlot := fun _ => {}
  historyCount : Nat := 0
  clients : Nat → SlotClient := fun _ => .idle
  owned : Nat → List (Nat × ChannelParams) := fun _ => []
  takes : Fin channelMax → Nat := fun _ => 0
  stray : List (Fin channelMax) := []
  deleted : List (Nat × Int) := []

namespace SlotWorld

/-- `addChannel` and `delChannel` lock the camera; `otherHandle` is a handle for another object. -/
inductive Input where
  | addChannel (t : Nat) (p : ChannelParams)
  | delChannel (t hdl : Nat)
  | otherHandle
  | run (t : Nat) (launched : Bool)

variable (w : SlotWorld)

def setClient (t : Nat) (x : SlotClient) : SlotWorld :=
  { w with clients := Function.update w.clients t x }

def setSlot (i : Fin channelMax) (s : ChannelSlot) : SlotWorld :=
  { w with slots := Function.update w.slots i s }

def freeSlot : Option (Fin channelMax) :=
  (List.finRange channelMax).find? fun i => (w.slots i).channel.state = .notused

/-- `mm_camera_util_get_channel_by_handler`. -/
def utilGetChannelByHandler (hdl : Nat) : Option (Fin channelMax) :=
  (List.finRange channelMax).find? fun i => hdl = (w.slots i).channel.myHdl

/-- A deletion writes to the slot. -/
def overwrite (i : Fin channelMax) (taken : Nat) (s : ChannelSlot) : SlotWorld :=
  { w.setSlot i s with stray := if w.takes i = taken then w.stray else w.stray ++ [i] }

def addStep (t : Nat) (i : Fin channelMax) (p : ChannelParams) (launched : Bool) :
    AddStage → SlotWorld
  | .numbering =>
    let count := Jpeg.nextHistoryCount w.historyCount
    { w.setClient t (.adding i p (.initing (utilGenerateHandler count i))) with
      historyCount := count }
  | .initing hdl => (w.setSlot i (.init hdl p)).setClient t (.adding i p (.launching hdl))
  | .launching hdl =>
    (w.setSlot i { w.slots i with pollThread := launched }).setClient t (.adding i p (.stopping hdl))
  | .stopping hdl =>
    let s := w.slots i
    (w.setSlot i { s with channel := { s.channel with state := .stopped } }).setClient t
      (.adding i p (.unlocking hdl))
  | .unlocking hdl =>
    { w.setClient t .idle with
      camLock := none
      owned := Function.update w.owned t (w.owned t ++ [(hdl, p)]) }

/-- `mm_channel_fsm_fn` deletes a stopped channel; whatever it answers, the slot is set to zero. -/
def delStep (t : Nat) (i : Fin channelMax) (hdl taken : Nat) : DelStage → Option SlotWorld
  | .locking =>
    if (w.slots i).chLock = none then
      some ((w.overwrite i taken { w.slots i with chLock := some t }).setClient t
        (.deleting i hdl taken .handing))
    else none
  | .handing =>
    some { w.setClient t (.deleting i hdl taken .dispatching) with camLock := none }
  | .dispatching =>
    if (w.slots i).channel.state = .stopped then
      some (w.setClient t (.deleting i hdl taken .releasing))
    else some (w.setClient t (.deleting i hdl taken (.unlocking (-1))))
  | .releasing =>
    some ((w.overwrite i taken { w.slots i with pollThread := false }).setClient t
      (.deleting i hdl taken .marking))
  | .marking =>
    let s := w.slots i
    some ((w.overwrite i taken { s with channel := { s.channel with state := .notused } }).setClient t
      (.deleting i hdl taken (.unlocking 0)))
  | .unlocking rc =>
    some ((w.overwrite i taken { w.slots i with chLock := none }).setClient t
      (.deleting i hdl taken (.destroying rc)))
  | .destroying rc =>
    some { (w.overwrite i taken {}).setClient t .idle with deleted := w.deleted ++ [(hdl, rc)] }

def step (w : SlotWorld) : Input → Option SlotWorld
  | .addChannel t p =>
    match w.clients t, w.camLock with
    | .idle, none => some { w.setClient t (.scanning p) with camLock := some t }
    | _, _ => none
  | .delChannel t hdl =>
    match w.clients t, w.camLock with
    | .idle, none =>
      if hdl ∈ (w.owned t).map Prod.fst then
        some { w.setClient t (.finding hdl) with
          camLock := some t
          owned := Function.update w.owned t ((w.owned t).filter (·.1 ≠ hdl)) }
      else none
    | _, _ => none
  | .otherHandle => some { w with historyCount := Jpeg.nextHistoryCount w.historyCount }
  | .run t launched =>
    match w.clients t with
    | .idle => none
    | .scanning p =>
      match w.freeSlot with
      | some i =>
        some { (w.setSlot i {}).setClient t (.adding i p .numbering) with
          takes := Function.update w.takes i (w.takes i + 1) }
      | none => some (w.setClient t .leaving)
    | .adding i p stage => some (w.addStep t i p launched stage)
    | .finding hdl =>
      match w.utilGetChannelByHandler hdl with
      | some i => some (w.setClient t (.deleting i hdl (w.takes i) .locking))
      | none => some { w.setClient t .leaving with deleted := w.deleted ++ [(hdl, -1)] }
    | .deleting i hdl taken stage => w.delStep t i hdl taken stage
    | .leaving => some { w.setClient t .idle with camLock := none }

def Next (w : SlotWorld) (i : Input) (_ : List Unit) (w' : SlotWorld) : Prop := w.step i = some w'

end SlotWorld

end KiwiDevice.Camera

import KiwiDevice.Camera.Types
import KiwiDevice.Lib.Steps
import Mathlib.Logic.Function.Basic

/-!
# Camera memory

`QCameraHeapMemory` and `QCameraStreamMemory` objects with the buffers in their slots, and the
`QCameraMemoryPool` that stream memory may share. An ION buffer is named by its number.
-/

namespace KiwiDevice.Hal

open Camera (CamStreamType)

/-- `QCameraMemInfo`. `ion` is the buffer behind `main_ion_fd`, `fd` and `handle`. -/
structure MemInfo where
  ion : Option Nat := none
  size : Nat := 0
  cached : Bool := false
  heapId : Nat := 0
  deriving DecidableEq, Repr

/-- `QCameraHeapMemory`, which has no pool, or `QCameraStreamMemory`. -/
inductive MemKind where
  | heap
  | stream (pooled : Bool) (streamType : CamStreamType)
  deriving DecidableEq, Repr

/-- The list of the pool that the object uses. -/
def MemKind.pool : MemKind → Option CamStreamType
  | .stream true streamType => some streamType
  | _ => none

/-- A memory object. `mapped` says which entries of `mPtr` or `mCameraMemory` are set; `requested`
is the size that was asked for, which the program does not keep. -/
structure MemObject where
  kind : MemKind
  cached : Bool
  bufferCount : Nat := 0
  memInfo : Nat → MemInfo := fun _ => {}
  mapped : Nat → Bool := fun _ => false
  requested : Nat → Nat := fun _ => 0

/-- `MM_CAMERA_MAX_NUM_FRAMES`. -/
def maxNumFrames : Nat := 24

/-- The answers of the outside for each slot that a call allocates or maps. -/
structure MemResults where
  ion : Nat → Bool
  mmap : Nat → Bool

/-- `heapMask` is `0x1 << ION_IOMMU_HEAP_ID`. -/
structure MemWorld where
  heapMask : Nat
  objects : Nat → MemObject
  pools : CamStreamType → List MemInfo := fun _ => []
  nextIon : Nat := 0
  live : Nat → Bool := fun _ => false

namespace MemWorld

variable (w : MemWorld)

def setObject (o : Nat) (x : MemObject) : MemWorld :=
  { w with objects := Function.update w.objects o x }

def setInfo (o i : Nat) (info : MemInfo) : MemWorld :=
  let x := w.objects o
  w.setObject o { x with memInfo := Function.update x.memInfo i info }

def setMapped (o i : Nat) (value : Bool) : MemWorld :=
  let x := w.objects o
  w.setObject o { x with mapped := Function.update x.mapped i value }

def setPool (t : CamStreamType) (infos : List MemInfo) : MemWorld :=
  { w with pools := Function.update w.pools t infos }

/-- `(size + 4095U) & (~4095U)`; the mask has 32 bits. -/
def alignedLen (size : Nat) : Nat := (size + 4095) % 2 ^ 32 / 4096 * 4096

def allocOneBuffer (heapId size : Nat) (cached ok : Bool) : MemWorld × Option MemInfo :=
  if ok then
    ({ w with
        nextIon := w.nextIon + 1
        live := Function.update w.live w.nextIon true },
      some { ion := some w.nextIon, size := alignedLen size, cached, heapId })
  else (w, none)

def deallocOneBuffer (info : MemInfo) : MemWorld × MemInfo :=
  match info.ion with
  | none => (w, { info with size := 0 })
  | some b =>
    ({ w with live := Function.update w.live b false }, { info with ion := none, size := 0 })

/-- The comparison of `findBufferLocked`. -/
def usable (t : CamStreamType) (heapId size : Nat) (cached : Bool) (info : MemInfo) : Bool :=
  (if t = .offlineProc then info.size = size else size ≤ info.size) ∧ info.heapId = heapId ∧
    info.cached = cached

/-- `QCameraMemoryPool::allocateBuffer`, with `findBufferLocked`. -/
def allocateBuffer (t : CamStreamType) (heapId size : Nat) (cached ok : Bool) :
    MemWorld × Option MemInfo :=
  match (w.pools t).find? (usable t heapId size cached) with
  | some info => (w.setPool t ((w.pools t).eraseP (usable t heapId size cached)), some info)
  | none => w.allocOneBuffer heapId size cached ok

/-- `QCameraMemoryPool::releaseBuffer`. -/
def releaseBuffer (t : CamStreamType) (info : MemInfo) : MemWorld :=
  w.setPool t (w.pools t ++ [info])

/-- A buffer for an object, from ION or through the pool. -/
def slotBuffer (o size : Nat) (ok : Bool) : MemWorld × Option MemInfo :=
  let x := w.objects o
  match x.kind.pool with
  | none => w.allocOneBuffer w.heapMask size x.cached ok
  | some t => w.allocateBuffer t w.heapMask size x.cached ok

/-- One turn of the loop in `alloc`; `none` when the allocation fails. -/
def allocSlot (o i size : Nat) (ok : Bool) : Option MemWorld :=
  let allocated := w.slotBuffer o size ok
  allocated.2.map fun info => allocated.1.setInfo o i info

/-- A buffer is freed, or released to the pool with the slot as it is. -/
def giveBack (o i : Nat) : MemWorld :=
  let info := (w.objects o).memInfo i
  match (w.objects o).kind.pool with
  | none =>
    let freed := w.deallocOneBuffer info
    freed.1.setInfo o i freed.2
  | some t => w.releaseBuffer t info

/-- The error handling in `alloc`: every slot below `i`. -/
def rollback (o : Nat) : Nat → MemWorld → MemWorld
  | 0, w => w
  | j + 1, w => rollback o j (w.giveBack o j)

/-- The loop of `alloc` over `n` slots from `i` on, and whether it gets through. -/
def allocLoop (o size : Nat) (r : MemResults) : Nat → Nat → MemWorld → MemWorld × Bool
  | 0, _, w => (w, true)
  | n + 1, i, w =>
    match w.allocSlot o i size (r.ion i) with
    | some w' => allocLoop o size r n (i + 1) w'
    | none => (rollback o i w, false)

/-- `QCameraMemory::alloc`. -/
def alloc (o count size : Nat) (r : MemResults) : MemWorld × Bool :=
  let n := (w.objects o).bufferCount
  if n + count > maxNumFrames then (w, false) else allocLoop o size r count n w

/-- The loop of `QCameraMemory::dealloc` over `n` slots from `i` on. -/
def dealloc (o : Nat) : Nat → Nat → MemWorld → MemWorld
  | 0, _, w => w
  | n + 1, i, w => dealloc o n (i + 1) (w.giveBack o i)

/-- The error handling of the mapping: the slots from `low` on and below `j` are freed. -/
def unmapBack (o low : Nat) : Nat → MemWorld → MemWorld
  | 0, w => w
  | j + 1, w =>
    if low ≤ j then
      let w := w.setMapped o j false
      let freed := w.deallocOneBuffer ((w.objects o).memInfo j)
      unmapBack o low j (freed.1.setInfo o j freed.2)
    else w

/-- The mapping of `n` buffers of a heap memory from `i` on. -/
def mapLoop (o low : Nat) (r : MemResults) : Nat → Nat → MemWorld → MemWorld × Bool
  | 0, _, w => (w, true)
  | n + 1, i, w =>
    if r.mmap i then mapLoop o low r n (i + 1) (w.setMapped o i true)
    else (unmapBack o low i w, false)

/-- The calls of `mGetMemory`, and those that undo the mapping, on `n` slots from `i` on. -/
def markMapped (o : Nat) (value : Bool) : Nat → Nat → MemWorld → MemWorld
  | 0, _, w => w
  | n + 1, i, w => markMapped o value n (i + 1) (w.setMapped o i value)

/-- The end of a successful call. -/
def counted (o n bufferCount size : Nat) : MemWorld :=
  let x := w.objects o
  w.setObject o { x with
    bufferCount
    requested := fun i => if n ≤ i then size else x.requested i }

/-- `allocate` and `allocateMore`; `n` is the slot from which `allocate` and `allocateMore` map, and
below which they do not undo it. -/
def allocateFrom (o n count size bufferCount : Nat) (r : MemResults) : MemWorld × Bool :=
  let allocated := w.alloc o count size r
  if allocated.2 then
    match (w.objects o).kind with
    | .heap =>
      let mapped := mapLoop o n r count n allocated.1
      if mapped.2 then (mapped.1.counted o n bufferCount size, true) else (mapped.1, false)
    | .stream .. =>
      ((markMapped o true count n allocated.1).counted o n bufferCount size, true)
  else (allocated.1, false)

def allocate (o count size : Nat) (r : MemResults) : MemWorld × Bool :=
  w.allocateFrom o 0 count size count r

def allocateMore (o count size : Nat) (r : MemResults) : MemWorld × Bool :=
  let n := (w.objects o).bufferCount
  w.allocateFrom o n count size ((n + count) % 256) r

def deallocate (o : Nat) : MemWorld :=
  let n := (w.objects o).bufferCount
  let w := dealloc o n 0 (markMapped o false n 0 w)
  w.setObject o { w.objects o with bufferCount := 0 }

/-- The buffers of one list of the pool are freed. -/
def freeAll : List MemInfo → MemWorld → MemWorld
  | [], w => w
  | info :: rest, w => freeAll rest (w.deallocOneBuffer info).1

def clearPool (t : CamStreamType) : MemWorld := (freeAll (w.pools t) w).setPool t []

/-- The stream types below `CAM_STREAM_TYPE_MAX`. -/
def poolTypes : List CamStreamType :=
  [.default, .preview, .postview, .snapshot, .video, .implDefined, .yuv, .metadata, .raw,
    .offlineProc]

/-- `QCameraMemoryPool::clear`. -/
def clear : MemWorld := poolTypes.foldl clearPool w

inductive Input where
  | allocate (o : Nat) (count : Fin 256) (size : Nat) (r : MemResults)
  | allocateMore (o : Nat) (count : Fin 256) (size : Nat) (r : MemResults)
  | deallocate (o : Nat)
  | clear

/-- A call, and whether it returns `NO_ERROR`; `allocate` is for an empty object. -/
def step (w : MemWorld) : Input → Option (MemWorld × Bool)
  | .allocate o count size r =>
    if (w.objects o).bufferCount = 0 then some (w.allocate o count size r) else none
  | .allocateMore o count size r => some (w.allocateMore o count size r)
  | .deallocate o => some (w.deallocate o, true)
  | .clear => some (w.clear, true)

def Next (w : MemWorld) (i : Input) (answers : List Bool) (w' : MemWorld) : Prop :=
  ∃ ok, w.step i = some (w', ok) ∧ answers = [ok]

/-- The objects are empty, of these kinds and cache attributes. -/
def start (heapMask : Nat) (kind : Nat → MemKind) (cached : Nat → Bool) : MemWorld where
  heapMask
  objects o := { kind := kind o, cached := cached o }

/-- Where a buffer can be: in a slot below `mBufferCount`, or an entry of the pool. -/
inductive Place where
  | slot (o i : Nat)
  | pool (t : CamStreamType) (k : Nat)

def At (b : Nat) : Place → Prop
  | .slot o i => i < (w.objects o).bufferCount ∧ ((w.objects o).memInfo i).ion = some b
  | .pool t k => ((w.pools t)[k]?).bind MemInfo.ion = some b

/-- A buffer that is allocated and not yet freed is in exactly one place. -/
def OneOwner : Prop := ∀ b, w.live b = true → ∃! p, w.At b p

/-- The slot has a live buffer as it was asked for. -/
def Fits (o i : Nat) : Prop :=
  let x := w.objects o
  (∃ b, (x.memInfo i).ion = some b ∧ w.live b = true) ∧ x.requested i ≤ (x.memInfo i).size ∧
    (x.memInfo i).heapId = w.heapMask ∧ (x.memInfo i).cached = x.cached

def SlotsFit : Prop := ∀ o i, i < (w.objects o).bufferCount → w.Fits o i

/-- The buffer is live and no entry of the pool. -/
def Outside (b : Nat) : Prop := w.live b = true ∧ ∀ t k, ¬ w.At b (.pool t k)

/-- The slots of the object, their number and the buffers outside the pool are the same. -/
structure Unchanged (w w' : MemWorld) (o : Nat) : Prop where
  bufferCount : (w'.objects o).bufferCount = (w.objects o).bufferCount
  memInfo : ∀ i, i < (w.objects o).bufferCount →
    (w'.objects o).memInfo i = (w.objects o).memInfo i
  outside : ∀ b, w'.Outside b ↔ w.Outside b

end MemWorld

end KiwiDevice.Hal

import KiwiDevice.Hal.CameraMemory
import KiwiDevice.Hal.MemoryFrame

/-!
# The slots of video memory

Every slot that is counted has all that belongs to it, and is found by its metadata. A second,
dynamic allocation counts its slots twice.
-/

namespace KiwiDevice.Hal

open Camera (CamStreamType)

/-!
### Video memory

`QCameraVideoMemory`: the stream memory in slot order, and for each slot a metadata memory and a
native handle. The object is number 0 of its `MemWorld`, and has no pool. A function that leaves the
arrays or follows a NULL pointer has no result.
-/

/-- `data[0]` and `data[2]` of a `native_handle_t`. -/
structure NativeHandle where
  fd : Option Nat
  size : Nat
  deriving DecidableEq, Repr

/-- The `data` of a metadata memory is named by a number, that of a camera memory by the ION buffer
it maps. -/
inductive Opaque where
  | metadata (data : Nat)
  | buffer (ion : Nat)
  deriving DecidableEq, Repr

structure VideoMemory where
  mem : MemWorld
  metaBufCount : Nat := 0
  metadata : Nat → Option Nat := fun _ => none
  nativeHandle : Nat → Option NativeHandle := fun _ => none
  nextData : Nat := 0

inductive VideoEvent where
  | releaseMetadata (data : Option Nat)
  | deleteHandle (h : NativeHandle)
  deriving DecidableEq, Repr

/-- The answers for each slot: those for the stream memory, and whether the metadata memory and the
native handle can be had. -/
structure VideoResults where
  base : MemResults
  metadata : Nat → Bool
  handle : Nat → Bool

namespace VideoMemory

abbrev Outcome := Option (VideoMemory × List VideoEvent × Bool)

variable (v : VideoMemory)

def bufferCount : Nat := (v.mem.objects 0).bufferCount

def memInfo (i : Nat) : MemInfo := (v.mem.objects 0).memInfo i

def cameraMemory (i : Nat) : Bool := (v.mem.objects 0).mapped i

def withMem (mem : MemWorld) : VideoMemory := { v with mem }

def setBufferCount (n : Nat) : VideoMemory :=
  v.withMem (v.mem.setObject 0 { v.mem.objects 0 with bufferCount := n })

/-- `mMetadata[i]` and `mNativeHandle[i]` as a turn of the loops leaves them. -/
def setSlot (i : Nat) (handle : Option NativeHandle) : VideoMemory :=
  { v with
    metadata := Function.update v.metadata i (some v.nextData)
    nativeHandle := Function.update v.nativeHandle i handle
    nextData := v.nextData + 1 }

def slotHandle (i : Nat) : NativeHandle := ⟨(v.memInfo i).ion, (v.memInfo i).size⟩

/-- The loops of `allocate` and `allocateMore` over `n` slots from `i` on. `reuse` is the check for
a handle that is there already. -/
def fill (reuse : Bool) (r : VideoResults)
    (noMetadata noHandle : Nat → VideoMemory → Option (VideoMemory × List VideoEvent)) :
    Nat → Nat → VideoMemory → Outcome
  | 0, _, v => some (v, [], true)
  | n + 1, i, v =>
    if maxNumFrames ≤ i then none
    else if r.metadata i then
      if (reuse ∧ (v.nativeHandle i).isSome) ∨ r.handle i then
        fill reuse r noMetadata noHandle n (i + 1) (v.setSlot i (some (v.slotHandle i)))
      else (noHandle i (v.setSlot i none)).map fun failed => (failed.1, failed.2, false)
    else
      (noMetadata i { v with metadata := Function.update v.metadata i none }).map fun failed =>
        (failed.1, failed.2, false)

def releaseMetadata (low high : Nat) : List VideoEvent :=
  (List.range' low (high - low)).map fun j => .releaseMetadata (v.metadata j)

/-- The error handling of `allocate` without a native handle, which leaves the stream memory. -/
def allocateNoHandle (i : Nat) (v : VideoMemory) : Option (VideoMemory × List VideoEvent) :=
  some (v, (List.range i).reverse.flatMap fun j =>
    .releaseMetadata (v.metadata i) ::
      ((v.nativeHandle j).toList.map .deleteHandle ++ [.releaseMetadata (v.metadata j)]))

def allocateNoMetadata (i : Nat) (v : VideoMemory) : Option (VideoMemory × List VideoEvent) :=
  some (v.withMem (v.mem.deallocate 0), v.releaseMetadata 0 i)

/-- The error handling of `allocateMore` without metadata, from the slot `low` on. -/
def allocateMoreNoMetadata (low i : Nat) (v : VideoMemory) :
    Option (VideoMemory × List VideoEvent) :=
  if ∀ j < i, low ≤ j → v.cameraMemory j = true then
    some (v.withMem (MemWorld.unmapBack 0 low i v.mem), v.releaseMetadata low i)
  else none

def allocateMoreNoHandle (_ : Nat) (v : VideoMemory) : Option (VideoMemory × List VideoEvent) :=
  some (v, [])

def allocate (count size : Nat) (r : VideoResults) : Outcome :=
  let base := v.mem.allocate 0 count size r.base
  if base.2 then
    (fill true r allocateNoMetadata allocateNoHandle count 0 (v.withMem base.1)).map fun filled =>
      if filled.2.2 then ({ filled.1.setBufferCount count with metaBufCount := count }, filled.2)
      else filled
  else some (v.withMem base.1, [], false)

def allocateMore (count size : Nat) (r : VideoResults) : Outcome :=
  let base := v.mem.allocateMore 0 count size r.base
  if base.2 then
    let v := v.withMem base.1
    -- the base has counted the new buffers already
    let n := v.bufferCount
    (fill false r (allocateMoreNoMetadata n) allocateMoreNoHandle count n v).map fun filled =>
      if filled.2.2 then
        let total := (n + count) % 256
        ({ filled.1.setBufferCount total with metaBufCount := total }, filled.2)
      else filled
  else some (v.withMem base.1, [], false)

/-- The loop of `deallocate` over `n` slots from `i` on. -/
def clearSlots : Nat → Nat → VideoMemory → Option (VideoMemory × List VideoEvent)
  | 0, _, v => some (v, [])
  | n + 1, i, v =>
    match v.metadata i with
    | none => none
    | some data =>
      (clearSlots n (i + 1)
        { v with
          metadata := Function.update v.metadata i none
          nativeHandle := Function.update v.nativeHandle i none }).map fun cleared =>
        (cleared.1, (v.nativeHandle i).toList.map .deleteHandle ++
          .releaseMetadata (some data) :: cleared.2)

def deallocate : Outcome :=
  if ∀ i < v.bufferCount, v.cameraMemory i = true then
    (clearSlots v.metaBufCount 0 v).map fun cleared =>
      ({ cleared.1.withMem (cleared.1.mem.deallocate 0) with metaBufCount := 0 }, cleared.2, true)
  else none

/-- The data behind an entry of `mMetadata` or `mCameraMemory`, if there is one. -/
def slotData (metadata : Bool) (i : Nat) : Option Opaque :=
  if metadata then (v.metadata i).map .metadata
  else if v.cameraMemory i then (v.memInfo i).ion.map .buffer else none

def getMemory (index : Nat) (metadata : Bool) : Option Opaque :=
  if v.metaBufCount ≤ index ∨ (metadata = false ∧ v.bufferCount ≤ index) then none
  else v.slotData metadata index

/-- The loop of `getMatchBufIndex` over `n` slots from `i` on. -/
def matchFrom (target : Opaque) (metadata : Bool) : Nat → Nat → Option Int
  | 0, _ => some (-1)
  | n + 1, i =>
    match v.slotData metadata i with
    | none => none
    | some data => if data = target then some i else matchFrom target metadata n (i + 1)

def getMatchBufIndex (target : Opaque) (metadata : Bool) : Option Int :=
  v.matchFrom target metadata v.bufferCount 0

inductive Input where
  | allocate (count : Fin 256) (size : Nat) (r : VideoResults)
  | allocateMore (count : Fin 256) (size : Nat) (r : VideoResults)
  | deallocate

def step (v : VideoMemory) : Input → Outcome
  | .allocate count size r => v.allocate count size r
  | .allocateMore count size r => v.allocateMore count size r
  | .deallocate => v.deallocate

/-- `answers` are what the calls return. -/
def Next (v : VideoMemory) (i : Input) (answers : List Bool) (v' : VideoMemory) : Prop :=
  ∃ events ok, v.step i = some (v', events, ok) ∧ answers = [ok]

def start (heapMask : Nat) (cached : Bool) : VideoMemory where
  mem := MemWorld.start heapMask (fun _ => .stream false .default) fun _ => cached

end VideoMemory

/-! ### The slots -/

namespace VideoMemory

structure SlotReady (v : VideoMemory) (i : Nat) : Prop where
  buffer : ∃ b, (v.memInfo i).ion = some b ∧ v.mem.live b = true
  camera : v.cameraMemory i = true
  metadata : (v.metadata i).isSome = true
  handle : v.nativeHandle i = some (v.slotHandle i)

/-- The slots of an object for which `asked` buffers were asked. -/
structure Consistent (asked : Nat) (v : VideoMemory) : Prop where
  count : v.bufferCount = asked
  metaCount : v.metaBufCount = asked
  ready : ∀ i < asked, v.SlotReady i
  getMemory : ∀ i < asked, ∀ metadata, v.getMemory i metadata ≠ none
  getMatch : ∀ target metadata, v.getMatchBufIndex target metadata ≠ none
  matched : ∀ i < asked, ∀ data, v.metadata i = some data →
    v.getMatchBufIndex (.metadata data) true = some (i : Int)

/-- The buffers asked for since the last `deallocate`. -/
def asked (inputs : List Input) : Nat :=
  inputs.foldl (fun n i => match i with
    | .allocate count _ _ | .allocateMore count _ _ => n + count
    | .deallocate => 0) 0

/-- All underlying allocations succeed. -/
def Granted (r : VideoResults) : Prop :=
  (∀ i, r.base.ion i = true) ∧ (∀ i, r.metadata i = true) ∧ ∀ i, r.handle i = true

/-- The calls that are looked at: `allocate` on an empty object, and never too many buffers. -/
def Regular (n : Nat) : Input → Prop
  | .allocate count _ r => n = 0 ∧ count ≤ maxNumFrames ∧ Granted r
  | .allocateMore count _ r => n + count ≤ maxNumFrames ∧ Granted r
  | .deallocate => True

/-- Nothing is allocated in a second step. -/
def Spared (inputs : List Input) (_ : List Bool) (_ : VideoMemory) (i : Input) (_ : List Bool) :
    Prop :=
  Regular (asked inputs) i ∧ ∀ count size r, i = .allocateMore count size r → (count : Nat) = 0

variable {v v' : VideoMemory} {n i : Nat} {r : VideoResults}

/-- The invariant: the metadata of the slots are different memories. -/
structure Ordered (n : Nat) (v : VideoMemory) : Prop where
  kind : (v.mem.objects 0).kind = .stream false .default
  room : n ≤ maxNumFrames
  count : v.bufferCount = n
  metaCount : v.metaBufCount = n
  ready : ∀ i < n, v.SlotReady i
  distinct : ∀ i < n, ∀ j < n, v.metadata i = v.metadata j → i = j

theorem SlotReady.slotData (h : v.SlotReady i) (metadata : Bool) :
    ∃ data, v.slotData metadata i = some data := by
  cases metadata with
  | true =>
    obtain ⟨data, hData⟩ := Option.isSome_iff_exists.mp h.metadata
    exact ⟨.metadata data, congrArg (Option.map Opaque.metadata) hData⟩
  | false =>
    obtain ⟨b, hIon, -⟩ := h.buffer
    refine ⟨.buffer b, ?_⟩
    rw [VideoMemory.slotData, if_neg (by decide), if_pos h.camera, hIon]
    rfl

theorem matchFrom_isSome (target : Opaque) (metadata : Bool)
    (h : ∀ j, i ≤ j → j < i + n → v.slotData metadata j ≠ none) :
    v.matchFrom target metadata n i ≠ none := by
  induction n generalizing i with
  | zero => nofun
  | succ n ih =>
    rw [matchFrom]
    split
    · rename_i hNone
      exact absurd hNone (h i (Nat.le_refl i) (by omega))
    · split
      · nofun
      · exact ih fun j hLow hHigh => h j (by omega) (by omega)

theorem matchFrom_eq {target : Opaque} {metadata : Bool} {k : Nat} (hLow : i ≤ k)
    (hHigh : k < i + n) (hAt : v.slotData metadata k = some target)
    (hBefore : ∀ j, i ≤ j → j < k →
      ∃ data, v.slotData metadata j = some data ∧ data ≠ target) :
    v.matchFrom target metadata n i = some (k : Int) := by
  induction n generalizing i with
  | zero => omega
  | succ n ih =>
    rw [matchFrom]
    rcases Nat.eq_or_lt_of_le hLow with rfl | hLt
    · simp only [hAt, if_true]
    · obtain ⟨data, hData, hNe⟩ := hBefore i (Nat.le_refl i) hLt
      simp only [hData, if_neg hNe]
      exact ih hLt (by omega) fun j hj => hBefore j (by omega)

theorem Ordered.consistent (h : Ordered n v) : Consistent n v where
  count := h.count
  metaCount := h.metaCount
  ready := h.ready
  getMemory i hi metadata := by
    obtain ⟨data, hData⟩ := (h.ready i hi).slotData metadata
    rw [VideoMemory.getMemory, h.count, h.metaCount, if_neg (by omega), hData]
    nofun
  getMatch target metadata := by
    refine matchFrom_isSome target metadata fun j _ hj => ?_
    rw [h.count, Nat.zero_add] at hj
    obtain ⟨data, hData⟩ := (h.ready j hj).slotData metadata
    rw [hData]
    nofun
  matched i hi data hData := by
    have hSlot : v.slotData true i = some (.metadata data) :=
      congrArg (Option.map Opaque.metadata) hData
    refine matchFrom_eq (Nat.zero_le i) (by rw [h.count]; omega) hSlot fun j _ hj => ?_
    obtain ⟨data', hData'⟩ := Option.isSome_iff_exists.mp (h.ready j (by omega)).metadata
    refine ⟨.metadata data', congrArg (Option.map Opaque.metadata) hData', ?_⟩
    rintro hSame
    cases hSame
    have hEq := h.distinct j (by omega) i hi (hData'.trans hData.symm)
    omega

/-- The turns of a loop that gets everything. -/
structure Turned (i n : Nat) (v v' : VideoMemory) : Prop where
  mem : v'.mem = v.mem
  before : ∀ j < i, v'.nativeHandle j = v.nativeHandle j ∧ v'.metadata j = v.metadata j
  handle : ∀ j, i ≤ j → j < i + n → v'.nativeHandle j = some (v.slotHandle j)
  metadata : ∀ j, i ≤ j → j < i + n → v'.metadata j = some (v.nextData + (j - i))

theorem Turned.setSlot (h : Turned (i + 1) n (v.setSlot i (some (v.slotHandle i))) v') :
    Turned i (n + 1) v v' where
  mem := h.mem
  before j hj := by
    obtain ⟨hHandle, hMetadata⟩ := h.before j (by omega)
    exact ⟨hHandle.trans (Function.update_of_ne (by omega) ..),
      hMetadata.trans (Function.update_of_ne (by omega) ..)⟩
  handle j hLow hHigh := by
    rcases Nat.eq_or_lt_of_le hLow with rfl | hLt
    · exact (h.before i (Nat.lt_succ_self i)).1.trans (Function.update_self ..)
    · exact h.handle j hLt (by omega)
  metadata j hLow hHigh := by
    rcases Nat.eq_or_lt_of_le hLow with rfl | hLt
    · rw [(h.before i (Nat.lt_succ_self i)).2, Nat.sub_self]
      exact Function.update_self ..
    · have hNext : (v.setSlot i (some (v.slotHandle i))).nextData = v.nextData + 1 := rfl
      rw [h.metadata j hLt (by omega), hNext, Option.some_inj]
      omega

theorem fill_granted (reuse : Bool)
    (noMetadata noHandle : Nat → VideoMemory → Option (VideoMemory × List VideoEvent))
    (hr : Granted r) (hRoom : i + n ≤ maxNumFrames) :
    ∃ v', fill reuse r noMetadata noHandle n i v = some (v', [], true) ∧ Turned i n v v' := by
  induction n generalizing i v with
  | zero =>
    refine ⟨v, rfl, rfl, fun _ _ => ⟨rfl, rfl⟩, fun j hLow hHigh => ?_, fun j hLow hHigh => ?_⟩
    · omega
    · omega
  | succ n ih =>
    obtain ⟨v', hFill, hTurned⟩ :=
      ih (i := i + 1) (v := v.setSlot i (some (v.slotHandle i))) (by omega)
    refine ⟨v', ?_, hTurned.setSlot⟩
    rw [fill, if_neg (by omega), if_pos (hr.2.1 i), if_pos (.inr (hr.2.2 i))]
    exact hFill

theorem Turned.ordered (h : Turned 0 n v v')
    (hKind : (v.mem.objects 0).kind = .stream false .default)
    (hRoom : n ≤ maxNumFrames)
    (hSlots : ∀ j < n, (∃ b, (v.memInfo j).ion = some b ∧ v.mem.live b = true) ∧
      v.cameraMemory j = true) : Ordered n { v'.setBufferCount n with metaBufCount := n } := by
  have hObject : (v'.setBufferCount n).mem.objects 0 =
      { v.mem.objects 0 with bufferCount := n } := by
    rw [← h.mem]
    exact MemWorld.setObject_same ..
  constructor
  · exact (congrArg MemObject.kind hObject).trans hKind
  · exact hRoom
  · exact congrArg MemObject.bufferCount hObject
  · rfl
  · intro j hj
    have hInfo : (v'.setBufferCount n).memInfo j = v.memInfo j :=
      congrFun (congrArg MemObject.memInfo hObject) j
    constructor
    · obtain ⟨⟨b, hIon, hLive⟩, -⟩ := hSlots j hj
      refine ⟨b, (congrArg MemInfo.ion hInfo).trans hIon, ?_⟩
      have hSame : v'.mem.live b = v.mem.live b := congrArg (MemWorld.live · b) h.mem
      exact hSame.trans hLive
    · exact (congrFun (congrArg MemObject.mapped hObject) j).trans (hSlots j hj).2
    · exact Option.isSome_iff_exists.mpr ⟨_, h.metadata j (Nat.zero_le j) (by omega)⟩
    · refine (h.handle j (Nat.zero_le j) (by omega)).trans (congrArg some ?_)
      rw [slotHandle, slotHandle]
      exact congrArg (fun info => NativeHandle.mk info.ion info.size) hInfo.symm
  · intro j hj k hk hSame
    have hEq : some (v.nextData + (j - 0)) = some (v.nextData + (k - 0)) :=
      (h.metadata j (Nat.zero_le j) (by omega)).symm.trans
        (hSame.trans (h.metadata k (Nat.zero_le k) (by omega)))
    have hNumber := Option.some.inj hEq
    omega

theorem Ordered.allocate (h : Ordered 0 v) {count : Nat} (hRoom : count ≤ maxNumFrames)
    (hr : Granted r) (size : Nat) :
    ∃ v', v.allocate count size r = some (v', [], true) ∧ Ordered count v' := by
  have hPool : (v.mem.objects 0).kind.pool = none := by
    rw [h.kind]
    rfl
  have hBase : (v.mem.allocate 0 count size r.base).2 = true ∧
      MemWorld.Grown 0 0 count count v.mem (v.mem.allocate 0 count size r.base).1 :=
    MemWorld.allocateFrom_grown h.kind hPool hr.1 h.count (by omega) size
  obtain ⟨hOk, hGrown⟩ := hBase
  obtain ⟨v', hFill, hTurned⟩ := fill_granted true allocateNoMetadata allocateNoHandle (i := 0)
    (n := count)
    (v := v.withMem (v.mem.allocate 0 count size r.base).1) hr (by omega)
  refine ⟨{ v'.setBufferCount count with metaBufCount := count }, ?_, ?_⟩
  · rw [VideoMemory.allocate]
    simp only [hOk, if_true, hFill, Option.map_some]
  · refine hTurned.ordered (hGrown.kind.trans h.kind) hRoom fun j hj => ⟨?_, ?_⟩
    · exact hGrown.new j (Nat.zero_le j) (by omega)
    · exact (hGrown.mapped j).trans (if_pos (by omega))

theorem Ordered.withMem (h : Ordered n v) {mem : MemWorld}
    (hKind : (mem.objects 0).kind = .stream false .default)
    (hCount : (mem.objects 0).bufferCount = n)
    (hInfo : ∀ j < n, (mem.objects 0).memInfo j = v.memInfo j)
    (hLive : ∀ b, v.mem.live b = true → mem.live b = true)
    (hMapped : ∀ j < n, (mem.objects 0).mapped j = true) : Ordered n (v.withMem mem) where
  kind := hKind
  room := h.room
  count := hCount
  metaCount := h.metaCount
  ready j hj := by
    obtain ⟨⟨b, hIon, hBuffer⟩, -, hMetadata, hHandle⟩ := h.ready j hj
    refine ⟨⟨b, (congrArg MemInfo.ion (hInfo j hj)).trans hIon, hLive b hBuffer⟩, hMapped j hj,
      hMetadata, hHandle.trans (congrArg some ?_)⟩
    exact congrArg (fun info => NativeHandle.mk info.ion info.size) (hInfo j hj).symm
  distinct := h.distinct

theorem Ordered.allocateMore_zero (h : Ordered n v) (hr : Granted r) (size : Nat) :
    ∃ v', v.allocateMore 0 size r = some (v', [], true) ∧ Ordered n v' := by
  have hPool : (v.mem.objects 0).kind.pool = none := by
    rw [h.kind]
    rfl
  have hCount : (v.mem.objects 0).bufferCount = n := h.count
  have hByte : n % 256 = n := Nat.mod_eq_of_lt (Nat.lt_of_le_of_lt h.room (by decide))
  have hBase : (v.mem.allocateMore 0 0 size r.base).2 = true ∧
      MemWorld.Grown 0 n 0 n v.mem (v.mem.allocateMore 0 0 size r.base).1 := by
    rw [MemWorld.allocateMore]
    simp only [hCount, Nat.add_zero, hByte]
    exact MemWorld.allocateFrom_grown h.kind hPool hr.1 hCount h.room size
  obtain ⟨hOk, hGrown⟩ := hBase
  have hTotal : (v.withMem (v.mem.allocateMore 0 0 size r.base).1).bufferCount = n :=
    hGrown.bufferCount
  have hObject : ((v.withMem (v.mem.allocateMore 0 0 size r.base).1).setBufferCount n).mem.objects 0 =
      (v.mem.allocateMore 0 0 size r.base).1.objects 0 := by
    rw [← hGrown.bufferCount]
    exact MemWorld.setObject_same ..
  refine ⟨v.withMem ((v.withMem (v.mem.allocateMore 0 0 size r.base).1).setBufferCount n).mem,
    ?_, ?_⟩
  · rw [VideoMemory.allocateMore]
    simp only [hOk, if_true, fill, Option.map_some, hTotal, Nat.add_zero, hByte]
    rw [← h.metaCount]
    rfl
  · refine h.withMem ?_ ?_ (fun j hj => ?_) hGrown.live fun j hj => ?_
    · rw [hObject, hGrown.kind, h.kind]
    · rw [hObject, hGrown.bufferCount]
    · rw [hObject]
      exact hGrown.memInfo j hj
    · rw [hObject, hGrown.mapped, if_neg (by omega)]
      exact (h.ready j hj).camera

theorem allocateMore_count {count size : Nat} {events : List VideoEvent}
    (hCount : v.bufferCount = n) (hRoom : n + count ≤ maxNumFrames)
    (h : v.allocateMore count size r = some (v', events, true)) :
    v'.bufferCount = n + count + count := by
  have hBound : maxNumFrames = 24 := rfl
  have hBase : (v.mem.objects 0).bufferCount = n := hCount
  rw [VideoMemory.allocateMore] at h
  dsimp only at h
  split at h
  · rename_i hOk
    obtain ⟨filled, -, hResult⟩ := Option.map_eq_some_iff.mp h
    have hNew : (v.withMem (v.mem.allocateMore 0 count size r.base).1).bufferCount = n + count := by
      refine (MemWorld.allocateFrom_bufferCount hOk).trans ?_
      rw [hBase]
      exact Nat.mod_eq_of_lt (by omega)
    split at hResult
    · have hTotal : (n + count + count) % 256 = n + count + count := Nat.mod_eq_of_lt (by omega)
      rw [hNew, hTotal] at hResult
      have hAfter : _ = v' := congrArg Prod.fst hResult
      rw [← hAfter]
      exact congrArg MemObject.bufferCount (MemWorld.setObject_same ..)
    · rename_i hFailed
      rw [hResult] at hFailed
      exact absurd rfl hFailed
  · cases h

theorem clearSlots_some (h : ∀ j, i ≤ j → j < i + n → (v.metadata j).isSome = true) :
    ∃ v' events, clearSlots n i v = some (v', events) ∧ v'.mem = v.mem := by
  induction n generalizing i v with
  | zero => exact ⟨v, [], rfl, rfl⟩
  | succ n ih =>
    obtain ⟨data, hData⟩ := Option.isSome_iff_exists.mp (h i (Nat.le_refl i) (by omega))
    obtain ⟨v', events, hCleared, hMem⟩ := ih (i := i + 1)
      (v := { v with
        metadata := Function.update v.metadata i none
        nativeHandle := Function.update v.nativeHandle i none }) fun j hLow hHigh => by
          have hSame : Function.update v.metadata i none j = v.metadata j :=
            Function.update_of_ne (by omega) ..
          exact (congrArg Option.isSome hSame).trans (h j (by omega) (by omega))
    refine ⟨v', (v.nativeHandle i).toList.map .deleteHandle ++
      .releaseMetadata (some data) :: events, ?_, hMem⟩
    rw [clearSlots, hData]
    simp only [hCleared, Option.map_some]

theorem Ordered.deallocate (h : Ordered n v) :
    ∃ v' events, v.deallocate = some (v', events, true) ∧ Ordered 0 v' := by
  obtain ⟨v', events, hCleared, hMem⟩ := clearSlots_some (v := v) (i := 0) (n := n)
    fun j _ hj => (h.ready j (by omega)).metadata
  obtain ⟨hCount, hKind⟩ := v'.mem.deallocate_objects 0
  refine ⟨{ v'.withMem (v'.mem.deallocate 0) with metaBufCount := 0 }, events, ?_, ?_⟩
  · have hCamera : ∀ i < v.bufferCount, v.cameraMemory i = true := by
      rw [h.count]
      exact fun i hi => (h.ready i hi).camera
    rw [VideoMemory.deallocate, if_pos hCamera, h.metaCount, hCleared]
    rfl
  · refine ⟨?_, Nat.zero_le _, hCount, rfl, fun i hi => ?_, fun i hi => ?_⟩
    · exact hKind.trans (hMem ▸ h.kind)
    · omega
    · omega

theorem asked_append (inputs : List Input) (i : Input) : asked (inputs ++ [i]) = match i with
    | .allocate count _ _ | .allocateMore count _ _ => asked inputs + count
    | .deallocate => 0 := by
  rw [asked, List.foldl_append]
  cases i <;> rfl

/-- The step lemma: a call that is looked at returns, and keeps the invariant. -/
theorem Ordered.step {inputs : List Input} {answers answers' : List Bool} {i : Input}
    (h : Ordered (asked inputs) v) (hSpared : Spared inputs answers v i answers') :
    ∃ v' events, v.step i = some (v', events, true) ∧ Ordered (asked (inputs ++ [i])) v' := by
  obtain ⟨hRegular, hNoMore⟩ := hSpared
  rw [asked_append]
  cases i with
  | allocate count size r =>
    obtain ⟨hEmpty, hRoom, hr⟩ := hRegular
    rw [hEmpty] at h
    obtain ⟨v', hCall, hOrdered⟩ := h.allocate hRoom hr size
    refine ⟨v', [], hCall, ?_⟩
    simpa only [hEmpty, Nat.zero_add] using hOrdered
  | allocateMore count size r =>
    obtain ⟨v', hCall, hOrdered⟩ := h.allocateMore_zero hRegular.2 size
    change ∃ v' events, v.allocateMore count size r = some (v', events, true) ∧
      Ordered (asked inputs + count) v'
    rw [hNoMore count size r rfl]
    exact ⟨v', [], hCall, hOrdered⟩
  | deallocate => exact h.deallocate

theorem ordered_start (heapMask : Nat) (cached : Bool) : Ordered 0 (start heapMask cached) :=
  ⟨rfl, Nat.zero_le _, rfl, rfl, fun i hi => absurd hi (Nat.not_lt_zero i),
    fun i hi => absurd hi (Nat.not_lt_zero i)⟩

/-- As long as no second allocation asks for buffers the slots are consistent and every call
returns; a second allocation leaves them consistent exactly if it asks for none. -/
theorem consistent_more_iff {heapMask : Nat} {cached : Bool} {inputs : List Input}
    {answers : List Bool} (run : Lib.Steps Next Spared (start heapMask cached) inputs answers v) :
    (Consistent (asked inputs) v ∧
      ∀ i, Spared inputs answers v i [true] → ∃ v', Next v i [true] v') ∧
    ∀ (count : Fin 256) (size : Nat) (r : VideoResults),
      Regular (asked inputs) (.allocateMore count size r) →
      ((∃ v', Next v (.allocateMore count size r) [true] v' ∧
        Consistent (asked inputs + count) v') ↔ (count : Nat) = 0) := by
  have hOrdered : Ordered (asked inputs) v := by
    refine run.history (I := fun inputs _ v => Ordered (asked inputs) v)
      (ordered_start heapMask cached) ?_
    rintro inputs answers v i answer v' hSpared h ⟨events, ok, hStep, -⟩
    obtain ⟨v'', events', hCall, hAfter⟩ := h.step hSpared
    cases hCall.symm.trans hStep
    exact hAfter
  refine ⟨⟨hOrdered.consistent, fun i hSpared => ?_⟩, fun count size r hRegular => ⟨?_, ?_⟩⟩
  · obtain ⟨v', events, hCall, -⟩ := hOrdered.step hSpared
    exact ⟨v', events, true, hCall, rfl⟩
  · rintro ⟨v', ⟨events, ok, hStep, hAnswer⟩, hConsistent⟩
    cases hAnswer
    have hTwice := allocateMore_count hOrdered.count hRegular.1 hStep
    have hOnce := hConsistent.count
    omega
  · intro hZero
    obtain ⟨v', hCall, hAfter⟩ := hOrdered.allocateMore_zero hRegular.2 size
    refine ⟨v', ⟨[], true, ?_, rfl⟩, ?_⟩
    · rw [VideoMemory.step, hZero]
      exact hCall
    · rw [hZero]
      exact hAfter.consistent

/-- Everything that is asked for is given. -/
def allGranted : VideoResults := ⟨⟨fun _ => true, fun _ => true⟩, fun _ => true, fun _ => true⟩

theorem allGranted_granted : Granted allGranted := ⟨fun _ => rfl, fun _ => rfl, fun _ => rfl⟩

theorem run_call (allowed : List Input → List Bool → VideoMemory → Input → List Bool → Prop)
    {inputs : List Input} {answers : List Bool} {v₀ : VideoMemory} {i : Input}
    {events : List VideoEvent} (run : Lib.Steps Next allowed v₀ inputs answers v)
    (ok : allowed inputs answers v i [true]) (h : v.step i = some (v', events, true)) :
    Lib.Steps Next allowed v₀ (inputs ++ [i]) (answers ++ [true]) v' :=
  run.step ok ⟨events, true, h, rfl⟩

/-- Two buffers in one step. -/
theorem consistent_more_iff_two : ∃ v,
    Lib.Steps Next Spared (start 1 false) [.allocate 2 4096 allGranted] [true] v ∧
      Consistent 2 v := by
  have hSpared : Spared [] [] (start 1 false) (.allocate 2 4096 allGranted) [true] :=
    ⟨⟨rfl, by decide, allGranted_granted⟩, fun count size r hEq => Input.noConfusion hEq⟩
  have hOrdered : Ordered (asked []) (start 1 false) := ordered_start 1 false
  obtain ⟨v, events, hStep, -⟩ := hOrdered.step hSpared
  have run := run_call Spared .start hSpared hStep
  exact ⟨v, run, (consistent_more_iff run).1.1⟩

/-- One buffer and then one more: three are counted, and the second has no metadata. -/
theorem second_allocation_counted : ∃ v, Lib.Steps Next Lib.anyStep (start 1 false)
    [.allocate 1 4096 allGranted, .allocateMore 1 4096 allGranted] [true, true] v ∧
      v.bufferCount = 3 ∧ v.metadata 1 = none ∧ v.getMatchBufIndex (.metadata 7) true = none ∧
      ¬ Consistent 2 v := by
  have hRun : (((start 1 false).step (.allocate 1 4096 allGranted)).bind fun first =>
      (first.1.step (.allocateMore 1 4096 allGranted)).map fun second =>
        (first.2.2, second.2.2, second.1.bufferCount, second.1.metadata 1,
          second.1.getMatchBufIndex (.metadata 7) true)) =
      some (true, true, 3, none, none) := by decide +kernel
  obtain ⟨first, hFirst, hRest⟩ := Option.bind_eq_some_iff.mp hRun
  obtain ⟨second, hSecond, hEnd⟩ := Option.map_eq_some_iff.mp hRest
  obtain ⟨v₁, events₁, ok₁⟩ := first
  obtain ⟨v₂, events₂, ok₂⟩ := second
  simp only [Prod.mk.injEq] at hEnd
  obtain ⟨rfl, rfl, hCount, hMetadata, hMatch⟩ := hEnd
  have run := run_call Lib.anyStep (run_call Lib.anyStep .start trivial hFirst) trivial hSecond
  refine ⟨v₂, run, hCount, hMetadata, hMatch, fun hConsistent => ?_⟩
  have hTwo := hConsistent.count
  omega

end VideoMemory

end KiwiDevice.Hal

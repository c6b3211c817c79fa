import KiwiDevice.Lib.Memory
import KiwiDevice.Lib.Since
import KiwiDevice.Lib.Steps

/-!
# The parameter batch and its entries

`QCameraParameters` collects the parameters of an update in the buffer it shares with the backend.
The entries stand one behind the other in `entry`, each found from the one before by its
`aligned_size`. The words are those of a 32-bit process. A call that leaves the buffer has no
result. Then the entries that such a walk finds, and how the writes of the batch functions change
them.
-/

namespace KiwiDevice.Hal

open Lib (Memory)

def oneMbOfParams : Nat := 1048576

/-- `sizeof(parm_entry_type_new_t)`, which is that of `parm_buffer_new_t` too. -/
def entryHeader : Nat := 16

/-- The bytes from `entry[0]` to the end of the buffer. -/
abbrev EntryMemory := Lib.Memory (oneMbOfParams - 12)

structure ParmBuffer where
  numEntry : Nat
  totRemSize : Nat
  currSize : Nat
  entry : EntryMemory

structure Parameters where
  paramBuf : ParmBuffer
  tempMap : List (String × String)
  recordingHint : Bool
  recordingHintNew : Bool
  zslMode : Bool
  zslModeNew : Bool
  sceneTransitionAuto : Bool
  updateEffects : Bool
  releaseTorchCamera : Bool
  hasTorch : Bool

inductive BatchEvent where
  | began
  | setParms (rc : Int) (batch : ParmBuffer)
  | set (key value : String)
  | releaseTorchCamera

/-- A call of the batch functions, with the answer of `set_parms` if the call reaches it. -/
inductive BatchCall where
  | initBatchUpdate
  | addSet (paramType : UInt32) (paramValue : List UInt8) (setParms : Int)
  | addGet (paramType : UInt32)
  | commitSetBatch (setParms : Int)
  | updateParamEntry (key value : String)

def sizeT (n : Nat) : Nat := n % 2 ^ 32

def alignedSize (sizeReq : Nat) : Nat := sizeT (sizeReq + 3) / 4 * 4

def setAligned (paramLength : Nat) : Nat := alignedSize (sizeT (paramLength + entryHeader))

/-- The room that `AddGetParmEntryToBatch` asks for, when a `parm_type_t` has this size. -/
def getAligned (parmTypeSize : Nat) : Nat := alignedSize (sizeT (parmTypeSize + entryHeader - 1))

/-- The search for a type among `n` entries from `curr` on; `some none` when it is not found. -/
def findParm (m : EntryMemory) (paramType : UInt32) : Nat → Nat → Option (Option Nat)
  | 0, _ => some none
  | n + 1, curr => do
    let entryType ← m.loadWord curr
    if entryType = paramType.toNat then some (some curr)
    else
      let size ← m.loadWord (curr + 8)
      findParm m paramType n (curr + size)

def writeEntry (m : EntryMemory) (curr : Nat) (paramType : UInt32) (size aligned : Nat)
    (value : List UInt8) : Option EntryMemory := do
  let m ← m.storeWord curr paramType.toNat
  let m ← m.storeWord (curr + 4) size
  let m ← m.storeWord (curr + 8) aligned
  m.store (curr + 12) value

namespace ParmBuffer

def empty : ParmBuffer :=
  { numEntry := 0, totRemSize := oneMbOfParams - entryHeader, currSize := 0, entry := .zero }

def find (b : ParmBuffer) (paramType : UInt32) : Option (Option Nat) :=
  findParm b.entry paramType b.numEntry 0

def overwrite (b : ParmBuffer) (curr : Nat) (paramType : UInt32) (size aligned : Nat)
    (value : List UInt8) : Option ParmBuffer :=
  (writeEntry b.entry curr paramType size aligned value).map fun entry => { b with entry }

def append (b : ParmBuffer) (paramType : UInt32) (size aligned : Nat) (value : List UInt8) :
    Option ParmBuffer :=
  (writeEntry b.entry b.currSize paramType size aligned value).map fun entry =>
    { numEntry := sizeT (b.numEntry + 1)
      totRemSize := sizeT (b.totRemSize + 2 ^ 32 - aligned)
      currSize := sizeT (b.currSize + aligned)
      entry }

end ParmBuffer

namespace Parameters

variable (p : Parameters)

def initBatchUpdate : Parameters := { p with tempMap := [], paramBuf := .empty }

/-- `m_tempMap.replaceValueFor`, on a vector sorted by key. -/
def replaceValueFor (key value : String) : List (String × String) → List (String × String)
  | [] => [(key, value)]
  | entry :: rest =>
    if entry.1 = key then (key, value) :: rest
    else if key < entry.1 then (key, value) :: entry :: rest
    else entry :: replaceValueFor key value rest

def updateParamEntry (key value : String) : Parameters :=
  { p with tempMap := replaceValueFor key value p.tempMap }

def releasesTorch : Bool := p.releaseTorchCamera && p.hasTorch && !p.recordingHintNew

def commitParamChanges : Parameters × List BatchEvent :=
  ({ p with
      tempMap := []
      recordingHint := p.recordingHintNew
      zslMode := p.zslModeNew
      updateEffects := p.sceneTransitionAuto || p.updateEffects
      sceneTransitionAuto := false
      releaseTorchCamera := p.releaseTorchCamera && !p.releasesTorch },
    p.tempMap.map (fun change => .set change.1 change.2) ++
      if p.releasesTorch then [.releaseTorchCamera] else [])

def commitSetBatch (setParms : Int) : Parameters × List BatchEvent × Int :=
  let rc := if 0 < p.paramBuf.numEntry then setParms else 0
  let sent := if 0 < p.paramBuf.numEntry then [.setParms setParms p.paramBuf] else []
  if rc = 0 then (p.commitParamChanges.1, sent ++ p.commitParamChanges.2, rc)
  else (p, sent, rc)

def addSetParmEntryToBatch (paramType : UInt32) (paramValue : List UInt8) (setParms : Int) :
    Option (Parameters × List BatchEvent) := do
  let aligned := setAligned paramValue.length
  match ← p.paramBuf.find paramType with
  | some curr =>
    let paramBuf ← p.paramBuf.overwrite curr paramType paramValue.length aligned paramValue
    some ({ p with paramBuf }, [])
  | none =>
    if p.paramBuf.totRemSize < aligned then
      -- the result of the commit is dropped
      let committed := p.commitSetBatch setParms
      let p := committed.1.initBatchUpdate
      let paramBuf ← p.paramBuf.append paramType paramValue.length aligned paramValue
      some ({ p with paramBuf }, committed.2.1)
    else
      let paramBuf ← p.paramBuf.append paramType paramValue.length aligned paramValue
      some ({ p with paramBuf }, [])

def noMemory : Int := -12

def addGetParmEntryToBatch (parmTypeSize : Nat) (paramType : UInt32) :
    Option (Parameters × Int) := do
  let aligned := getAligned parmTypeSize
  match ← p.paramBuf.find paramType with
  | some curr =>
    let paramBuf ← p.paramBuf.overwrite curr paramType parmTypeSize aligned []
    some ({ p with paramBuf }, 0)
  | none =>
    if p.paramBuf.totRemSize < aligned then some (p, noMemory)
    else
      let paramBuf ← p.paramBuf.append paramType parmTypeSize aligned []
      some ({ p with paramBuf }, 0)

def call (parmTypeSize : Nat) : BatchCall → Option (Parameters × List BatchEvent)
  | .initBatchUpdate => some (p.initBatchUpdate, [.began])
  | .addSet paramType paramValue setParms =>
    p.addSetParmEntryToBatch paramType paramValue setParms
  | .addGet paramType => (p.addGetParmEntryToBatch parmTypeSize paramType).map fun r => (r.1, [])
  | .commitSetBatch setParms =>
    some ((p.commitSetBatch setParms).1, (p.commitSetBatch setParms).2.1)
  | .updateParamEntry key value => some (p.updateParamEntry key value, [])

def Next (parmTypeSize : Nat) (p : Parameters) (c : BatchCall) (events : List BatchEvent)
    (p' : Parameters) : Prop :=
  p.call parmTypeSize c = some (p', events)

/-- The entry of the call fits an empty batch. -/
def Fits (parmTypeSize : Nat) : BatchCall → Prop
  | .addSet _ paramValue _ => paramValue.length + entryHeader ≤ oneMbOfParams - entryHeader
  | .addGet _ => parmTypeSize + entryHeader - 1 ≤ oneMbOfParams - entryHeader
  | _ => True

/-- The calls that reach none of the ways in which parameters are lost: a type in the batch is added
again with the `aligned_size` its entry has (asked for, also with the same `size`), and `set_parms`
succeeds where the batch is full. -/
def Spared (parmTypeSize : Nat) : BatchCall → Prop
  | .addSet paramType paramValue setParms => ∀ found ∈ p.paramBuf.find paramType,
    (∀ curr ∈ found,
      p.paramBuf.entry.loadWord (curr + 8) = some (setAligned paramValue.length)) ∧
    (found = none → p.paramBuf.totRemSize < setAligned paramValue.length → setParms = 0)
  | .addGet paramType => ∀ found ∈ p.paramBuf.find paramType, ∀ curr ∈ found,
    p.paramBuf.entry.loadWord (curr + 8) = some (getAligned parmTypeSize) ∧
      p.paramBuf.entry.loadWord (curr + 4) = some parmTypeSize
  | _ => True

instance (parmTypeSize : Nat) : DecidablePred (Fits parmTypeSize)
  | .addSet _ paramValue _ => inferInstanceAs (Decidable (paramValue.length + _ ≤ _))
  | .addGet _ => inferInstanceAs (Decidable (parmTypeSize + _ - 1 ≤ _))
  | .initBatchUpdate | .commitSetBatch _ | .updateParamEntry _ _ =>
    inferInstanceAs (Decidable True)

instance (parmTypeSize : Nat) : DecidablePred (p.Spared parmTypeSize)
  | .addSet paramType _ _ =>
    inferInstanceAs (Decidable (∀ found ∈ p.paramBuf.find paramType,
      (∀ curr ∈ found, _ = some _) ∧ (found = none → _ < _ → _ = _)))
  | .addGet paramType =>
    inferInstanceAs (Decidable (∀ found ∈ p.paramBuf.find paramType, ∀ curr ∈ found,
      _ = some _ ∧ _ = some _))
  | .initBatchUpdate | .commitSetBatch _ | .updateParamEntry _ _ =>
    inferInstanceAs (Decidable True)

end Parameters

/-! ### The entries -/

structure ParmEntry where
  offset : Nat
  entryType : Nat
  size : Nat
  alignedSize : Nat
  data : List UInt8
  deriving DecidableEq, Repr

def readEntry (m : EntryMemory) (off : Nat) : Option ParmEntry := do
  let entryType ← m.loadWord off
  let size ← m.loadWord (off + 4)
  let alignedSize ← m.loadWord (off + 8)
  let data ← m.load (off + 12) size
  some { offset := off, entryType, size, alignedSize, data }

def walk (m : EntryMemory) : Nat → Nat → Option (List ParmEntry)
  | 0, _ => some []
  | n + 1, off => do
    let e ← readEntry m off
    let es ← walk m n (off + e.alignedSize)
    some (e :: es)

def ParmBuffer.entries (b : ParmBuffer) : Option (List ParmEntry) := walk b.entry b.numEntry 0

def totalSize (es : List ParmEntry) : Nat := (es.map ParmEntry.alignedSize).sum

/-- The entries stand one behind the other from `off` on, each within its own `aligned_size`. -/
def Laid (m : EntryMemory) : Nat → List ParmEntry → Prop
  | _, [] => True
  | off, e :: es =>
    readEntry m off = some e ∧ 12 + e.size ≤ e.alignedSize ∧ Laid m (off + e.alignedSize) es

variable {m m' : EntryMemory} {off off' : Nat} {e : ParmEntry} {es l r : List ParmEntry}

theorem totalSize_cons : totalSize (e :: es) = e.alignedSize + totalSize es := by
  rw [totalSize, List.map_cons, List.sum_cons]
  rfl

theorem totalSize_append : totalSize (l ++ r) = totalSize l + totalSize r := by
  rw [totalSize, List.map_append, List.sum_append]
  rfl

theorem readEntry_eq_some :
    readEntry m off = some e ↔
      e.offset = off ∧ m.loadWord off = some e.entryType ∧ m.loadWord (off + 4) = some e.size ∧
        m.loadWord (off + 8) = some e.alignedSize ∧ m.load (off + 12) e.size = some e.data := by
  simp only [readEntry, Option.bind_eq_bind, Option.bind_eq_some_iff, Option.some.injEq]
  constructor
  · rintro ⟨entryType, hType, size, hSize, aligned, hAligned, data, hData, rfl⟩
    exact ⟨rfl, hType, hSize, hAligned, hData⟩
  · rintro ⟨rfl, hType, hSize, hAligned, hData⟩
    exact ⟨_, hType, _, hSize, _, hAligned, _, hData, rfl⟩

theorem readEntry_of_agree (h : Memory.Agree m m' off (off + 12 + e.size))
    (hRead : readEntry m off = some e) : readEntry m' off = some e := by
  obtain ⟨hOff, hType, hSize, hAligned, hData⟩ := readEntry_eq_some.mp hRead
  have hWord : ∀ a, off ≤ a → a + 4 ≤ off + 12 → m.loadWord a = m'.loadWord a :=
    fun a hLo hHi => Memory.loadWord_of_agree h hLo (by omega)
  refine readEntry_eq_some.mpr ⟨hOff, ?_, ?_, ?_, ?_⟩
  · rwa [hWord off (Nat.le_refl _) (by omega)] at hType
  · rwa [hWord (off + 4) (by omega) (by omega)] at hSize
  · rwa [hWord (off + 8) (by omega) (by omega)] at hAligned
  · rwa [Memory.load_of_agree h (by omega) (Nat.le_refl _)] at hData

theorem laid_append :
    Laid m off (l ++ r) ↔ Laid m off l ∧ Laid m (off + totalSize l) r := by
  induction l generalizing off with
  | nil => exact ⟨fun h => ⟨trivial, h⟩, fun h => h.2⟩
  | cons e l ih =>
    rw [List.cons_append, Laid, Laid, ih, totalSize_cons, Nat.add_assoc]
    tauto

theorem Laid.of_agree (h : Laid m off es) (hAgree : Memory.Agree m m' off (off + totalSize es)) :
    Laid m' off es := by
  induction es generalizing off with
  | nil => trivial
  | cons e es ih =>
    obtain ⟨hRead, hIn, hRest⟩ := h
    rw [totalSize_cons] at hAgree
    refine ⟨readEntry_of_agree ?_ hRead, hIn, ih hRest ?_⟩
    · exact hAgree.mono (Nat.le_refl _) (by omega)
    · exact hAgree.mono (by omega) (by omega)

theorem Laid.walk (h : Laid m off es) : walk m es.length off = some es := by
  induction es generalizing off with
  | nil => rfl
  | cons e es ih =>
    rw [List.length_cons, Hal.walk, h.1, Option.bind_eq_bind, Option.bind_some, ih h.2.2]
    rfl

theorem Laid.length_le (h : Laid m off es) : 12 * es.length ≤ totalSize es := by
  induction es generalizing off with
  | nil => exact Nat.zero_le _
  | cons e es ih =>
    have hRest := ih h.2.2
    have hIn := h.2.1
    rw [List.length_cons, totalSize_cons]
    omega

theorem Laid.bounds (h : Laid m off es) (he : e ∈ es) :
    off ≤ e.offset ∧ 12 + e.size ≤ e.alignedSize ∧
      e.offset + e.alignedSize ≤ off + totalSize es := by
  induction es generalizing off with
  | nil => cases he
  | cons first es ih =>
    rw [totalSize_cons]
    rcases List.mem_cons.mp he with rfl | hRest
    · have hOff := (readEntry_eq_some.mp h.1).1
      have hIn := h.2.1
      omega
    · have hBounds := ih h.2.2 hRest
      omega

theorem Laid.ordered (h : Laid m off es) :
    es.Pairwise fun e e' => e.offset + e.alignedSize ≤ e'.offset := by
  induction es generalizing off with
  | nil => exact .nil
  | cons e es ih =>
    refine .cons ?_ (ih h.2.2)
    intro e' he'
    have hOff := (readEntry_eq_some.mp h.1).1
    have hBounds := h.2.2.bounds he'
    omega

theorem Laid.findParm (h : Laid m off es) (paramType : UInt32) :
    findParm m paramType es.length off =
      some ((es.find? fun e => e.entryType = paramType.toNat).map ParmEntry.offset) := by
  induction es generalizing off with
  | nil => rfl
  | cons e es ih =>
    obtain ⟨hRead, -, hRest⟩ := h
    obtain ⟨hOff, hType, -, hAligned, -⟩ := readEntry_eq_some.mp hRead
    rw [List.length_cons, Hal.findParm, hType, Option.bind_eq_bind, Option.bind_some]
    split
    · rename_i hFound
      rw [List.find?_cons_of_pos (by exact decide_eq_true hFound), Option.map_some, hOff]
    · rename_i hOther
      rw [List.find?_cons_of_neg (by simpa using hOther), hAligned, Option.bind_some, ih hRest]

/-- The bytes of an entry up to its data. -/
def headerBytes (paramType : UInt32) (size aligned : Nat) : List UInt8 :=
  Lib.littleEndian 4 paramType.toNat ++ Lib.littleEndian 4 size ++ Lib.littleEndian 4 aligned

theorem length_headerBytes (paramType : UInt32) (size aligned : Nat) :
    (headerBytes paramType size aligned).length = 12 := by
  simp [headerBytes]

variable {curr size aligned : Nat} {paramType : UInt32} {value : List UInt8}

theorem writeEntry_eq (hIn : curr + 12 + value.length ≤ oneMbOfParams - 12) :
    writeEntry m curr paramType size aligned value =
      some (m.write curr (headerBytes paramType size aligned ++ value)) := by
  have hStore : ∀ (m : EntryMemory) (a n : Nat), a + 4 ≤ oneMbOfParams - 12 →
      m.storeWord a n = some (m.write a (Lib.littleEndian 4 n)) :=
    fun m a n h => Memory.store_of_le (by rwa [Lib.length_littleEndian])
  have hFour : ∀ n, (Lib.littleEndian 4 n).length = 4 := Lib.length_littleEndian 4
  rw [writeEntry, hStore m _ _ (by omega), Option.bind_eq_bind, Option.bind_some,
    hStore _ _ _ (by omega), Option.bind_some, hStore _ _ _ (by omega), Option.bind_some,
    Memory.store_of_le hIn]
  congr 1
  have hSecond := Memory.write_append m curr (Lib.littleEndian 4 paramType.toNat)
    (Lib.littleEndian 4 size)
  have hThird := Memory.write_append m curr
    (Lib.littleEndian 4 paramType.toNat ++ Lib.littleEndian 4 size) (Lib.littleEndian 4 aligned)
  have hData := Memory.write_append m curr (headerBytes paramType size aligned) value
  rw [hFour] at hSecond
  rw [List.length_append, hFour, hFour] at hThird
  rw [length_headerBytes] at hData
  rw [hSecond, hThird, ← hData]
  rfl

/-- The data of a new entry are the value that was written, or without one the bytes that were there
before. -/
theorem load_data_write (m : EntryMemory) (paramType : UInt32) (aligned : Nat)
    (hIn : curr + 12 + size ≤ oneMbOfParams - 12)
    (hValue : value = [] ∨ value.length = size) :
    ∃ data, (m.write curr (headerBytes paramType size aligned ++ value)).load (curr + 12) size =
        some data ∧ (value.length = size → data = value) ∧
        (value = [] → m.load (curr + 12) size = some data) := by
  have hHeader := length_headerBytes paramType size aligned
  rcases hValue with rfl | rfl
  · have hAgree : Memory.Agree m (m.write curr (headerBytes paramType size aligned ++ []))
        (curr + 12) (curr + 12 + size) :=
      Memory.write_agree (.inr (Nat.le_of_eq (by rw [List.append_nil, hHeader])))
    have hLoad := Memory.load_of_agree hAgree (Nat.le_refl _) (Nat.le_refl _)
    refine ⟨(List.range size).map fun i => m.byte (curr + 12 + i), ?_, ?_, ?_⟩
    · rw [← hLoad]
      exact if_pos hIn
    · rintro rfl
      rfl
    · intro
      exact if_pos hIn
  · have hLoad := Memory.load_write m curr (headerBytes paramType value.length aligned) value []
      (by rwa [hHeader])
    rw [List.append_nil, hHeader] at hLoad
    refine ⟨value, hLoad, fun _ => rfl, ?_⟩
    rintro rfl
    exact if_pos hIn

theorem readEntry_write (m : EntryMemory) (curr : Nat) (paramType : UInt32) (size aligned : Nat)
    (hSize : size < 256 ^ 4) (hAligned : aligned < 256 ^ 4)
    (hIn : curr + 12 + size ≤ oneMbOfParams - 12) (hValue : value = [] ∨ value.length = size) :
    ∃ e, readEntry (m.write curr (headerBytes paramType size aligned ++ value)) curr = some e ∧
      e.offset = curr ∧ e.entryType = paramType.toNat ∧ e.size = size ∧
      e.alignedSize = aligned ∧ (value.length = size → e.data = value) ∧
      (value = [] → m.load (curr + 12) size = some e.data) := by
  obtain ⟨data, hData, hNew, hOld⟩ := load_data_write m paramType aligned hIn hValue
  have hFour : ∀ n, (Lib.littleEndian 4 n).length = 4 := Lib.length_littleEndian 4
  have hFirst := Memory.loadWord_write m curr []
    (Lib.littleEndian 4 size ++ Lib.littleEndian 4 aligned ++ value) paramType.toNat_lt
    (by rw [List.length_nil]; omega)
  have hSecond := Memory.loadWord_write m curr (Lib.littleEndian 4 paramType.toNat)
    (Lib.littleEndian 4 aligned ++ value) hSize (by rw [hFour]; omega)
  have hThird := Memory.loadWord_write m curr
    (Lib.littleEndian 4 paramType.toNat ++ Lib.littleEndian 4 size) value hAligned
    (by rw [List.length_append, hFour, hFour]; omega)
  simp only [List.nil_append, List.append_assoc, List.length_append, hFour, List.length_nil]
    at hFirst hSecond hThird
  simp only [headerBytes, List.append_assoc] at hData ⊢
  exact ⟨{ offset := curr, entryType := paramType.toNat, size, alignedSize := aligned, data },
    readEntry_eq_some.mpr ⟨rfl, hFirst, hSecond, hThird, hData⟩, rfl, rfl, rfl, rfl, hNew, hOld⟩

/-- An entry written between the entries `l` and `r`, in the room of `aligned` bytes there, leaves
both as they are. -/
theorem Laid.put (paramType : UInt32) (hBefore : Laid m off l)
    (hAfter : Laid m (off + totalSize l + aligned) r)
    (hCurr : off + totalSize l = curr) (hSize : 12 + size ≤ aligned)
    (hIn : curr + aligned ≤ oneMbOfParams - 12) (hValue : value = [] ∨ value.length = size) :
    ∃ m' e, writeEntry m curr paramType size aligned value = some m' ∧ Laid m' off (l ++ e :: r) ∧
      e.entryType = paramType.toNat ∧ e.size = size ∧ e.alignedSize = aligned ∧
      (value.length = size → e.data = value) ∧
      (value = [] → m.load (curr + 12) size = some e.data) := by
  subst hCurr
  have hLength : value.length ≤ size := by
    rcases hValue with rfl | rfl
    · exact Nat.zero_le _
    · exact Nat.le_refl _
  have hWritten : (headerBytes paramType size aligned ++ value).length ≤ aligned := by
    rw [List.length_append, length_headerBytes]
    omega
  have hSmall : oneMbOfParams - 12 < 256 ^ 4 := by decide
  obtain ⟨e, hRead, -, hType, heSize, heAligned, hNew, hOld⟩ :=
    readEntry_write m (off + totalSize l) paramType size aligned (by omega) (by omega) (by omega)
      hValue
  refine ⟨_, e, writeEntry_eq (by omega), laid_append.mpr ⟨?_, hRead, ?_, ?_⟩, hType, heSize,
    heAligned, hNew, hOld⟩
  · exact hBefore.of_agree (Memory.write_agree (.inl (Nat.le_refl _)))
  · rwa [heSize, heAligned]
  · rw [heAligned]
    exact hAfter.of_agree (Memory.write_agree (.inr (by omega)))

end KiwiDevice.Hal

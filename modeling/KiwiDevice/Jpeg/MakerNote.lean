import Mathlib.Data.List.Basic
import Mathlib.Tactic.IntervalCases

/-!
# The maker note of a JPEG

`process_3a_data` writes the 3A values as 16-bit words into a buffer, low word first, and adds as
many bytes of it as its index says to the EXIF table. The device is little endian.
-/

namespace KiwiDevice.Jpeg

def LOWER (a : BitVec 32) : BitVec 32 := a &&& 0xFFFF

def UPPER (a : BitVec 32) : BitVec 32 := (a >>> 16) &&& 0xFFFF

/-- `UPPER` of an `int32_t`, which is shifted with its sign. -/
def UPPER_SIGNED (a : BitVec 32) : BitVec 32 := a.sshiftRight 16 &&& 0xFFFF

def CHANGE_ENDIAN_16 (a : BitVec 32) : BitVec 16 :=
  ((0x00FF &&& (a >>> 8)) ||| (0xFF00 &&& (a <<< 8))).setWidth 16

def AAA_EXIF_BUF_SIZE : Nat := 10
def AE_EXIF_SIZE : Nat := 2
def AWB_EXIF_SIZE : Nat := 4
def AF_EXIF_SIZE : Nat := 2

structure AeParams where
  lineCount : BitVec 32

structure AwbParams where
  cctValue : BitVec 32
  decision : BitVec 32

structure FocusData where
  focusPos : BitVec 32

/-- `aaa_exif_buff` and `exif_byte_cnt`, which counts words. -/
structure NoteBuffer where
  words : List (BitVec 16)
  exifByteCnt : Nat

namespace NoteBuffer

def empty : NoteBuffer where
  words := List.replicate AAA_EXIF_BUF_SIZE 0
  exifByteCnt := 0

variable (b : NoteBuffer)

def put (w : BitVec 16) : NoteBuffer where
  words := b.words.set b.exifByteCnt w
  exifByteCnt := b.exifByteCnt + 1

/-- The store of the last word of the focus position leaves the index. -/
def putLast (w : BitVec 16) : NoteBuffer :=
  { b with words := b.words.set b.exifByteCnt w }

def skip (n : Nat) : NoteBuffer := { b with exifByteCnt := b.exifByteCnt + n }

def addAe : Option AeParams → NoteBuffer
  | none => b.skip AE_EXIF_SIZE
  | some p => (b.put (CHANGE_ENDIAN_16 (LOWER p.lineCount))).put
      (CHANGE_ENDIAN_16 (UPPER p.lineCount))

def addAwb : Option AwbParams → NoteBuffer
  | none => b.skip AWB_EXIF_SIZE
  | some p => (((b.put (CHANGE_ENDIAN_16 (LOWER p.cctValue))).put
      (CHANGE_ENDIAN_16 (UPPER_SIGNED p.cctValue))).put
      (CHANGE_ENDIAN_16 (LOWER p.decision))).put
      (CHANGE_ENDIAN_16 (UPPER_SIGNED p.decision))

def addFocus : Option FocusData → NoteBuffer
  | none => b.skip AF_EXIF_SIZE
  | some p => (b.put (CHANGE_ENDIAN_16 (LOWER p.focusPos))).putLast
      (CHANGE_ENDIAN_16 (UPPER_SIGNED p.focusPos))

end NoteBuffer

/-- A word in memory. -/
def wordBytes (w : BitVec 16) : List (BitVec 8) := [w.extractLsb' 0 8, w.extractLsb' 8 8]

/-- The bytes that `addExifEntry` copies for `EXIFTAGID_EXIF_MAKER_NOTE`. -/
def process3aData (ae : Option AeParams) (awb : Option AwbParams) (focus : Option FocusData) :
    List (BitVec 8) :=
  let b := ((NoteBuffer.empty.addAe ae).addAwb awb).addFocus focus
  (b.words.flatMap wordBytes).take (b.exifByteCnt * 2)

/-! ### The layout -/

/-- The values of a note, zero for an absent part. -/
@[ext]
structure NoteValues where
  lineCount : BitVec 32
  cctValue : BitVec 32
  decision : BitVec 32
  focusPos : BitVec 32

def NoteValues.of (ae : Option AeParams) (awb : Option AwbParams) (focus : Option FocusData) :
    NoteValues where
  lineCount := (ae.map AeParams.lineCount).getD 0
  cctValue := (awb.map AwbParams.cctValue).getD 0
  decision := (awb.map AwbParams.decision).getD 0
  focusPos := (focus.map FocusData.focusPos).getD 0

/-- The low word of a value, then the high one, each with its high byte first. -/
def valueBytes (v : BitVec 32) : List (BitVec 8) :=
  [v.extractLsb' 8 8, v.extractLsb' 0 8, v.extractLsb' 24 8, v.extractLsb' 16 8]

def readValue : List (BitVec 8) → Option (BitVec 32 × List (BitVec 8))
  | b₁ :: b₀ :: b₃ :: b₂ :: rest => some (b₃ ++ b₂ ++ b₁ ++ b₀, rest)
  | _ => none

namespace NoteValues

def layout (v : NoteValues) : List (BitVec 8) :=
  valueBytes v.lineCount ++ valueBytes v.cctValue ++ valueBytes v.decision ++ valueBytes v.focusPos

def decode (note : List (BitVec 8)) : Option NoteValues := do
  let (lineCount, rest) ← readValue note
  let (cctValue, rest) ← readValue rest
  let (decision, rest) ← readValue rest
  let (focusPos, rest) ← readValue rest
  if rest = [] then some ⟨lineCount, cctValue, decision, focusPos⟩ else none

end NoteValues

/-- The note has the fixed length and layout, and gives the values back. -/
structure Encodes (note : List (BitVec 8)) (v : NoteValues) : Prop where
  length : note.length = 2 * (AE_EXIF_SIZE + AWB_EXIF_SIZE + AF_EXIF_SIZE)
  layout : note = v.layout
  decoded : NoteValues.decode note = some v

/-! ### One value -/

theorem UPPER_SIGNED_eq (a : BitVec 32) : UPPER_SIGNED a = UPPER a := by
  ext i hi
  simp only [UPPER_SIGNED, UPPER, BitVec.getElem_and, BitVec.getElem_sshiftRight,
    BitVec.getElem_ushiftRight]
  interval_cases i <;> simp

theorem wordBytes_lower (v : BitVec 32) :
    wordBytes (CHANGE_ENDIAN_16 (LOWER v)) = [v.extractLsb' 8 8, v.extractLsb' 0 8] := by
  have hFirst : (CHANGE_ENDIAN_16 (LOWER v)).extractLsb' 0 8 = v.extractLsb' 8 8 := by
    ext i hi
    simp only [CHANGE_ENDIAN_16, LOWER, BitVec.getElem_extractLsb']
    interval_cases i <;> simp
  have hSecond : (CHANGE_ENDIAN_16 (LOWER v)).extractLsb' 8 8 = v.extractLsb' 0 8 := by
    ext i hi
    simp only [CHANGE_ENDIAN_16, LOWER, BitVec.getElem_extractLsb']
    interval_cases i <;> simp
  rw [wordBytes, hFirst, hSecond]

theorem wordBytes_upper (v : BitVec 32) :
    wordBytes (CHANGE_ENDIAN_16 (UPPER v)) = [v.extractLsb' 24 8, v.extractLsb' 16 8] := by
  have hFirst : (CHANGE_ENDIAN_16 (UPPER v)).extractLsb' 0 8 = v.extractLsb' 24 8 := by
    ext i hi
    simp only [CHANGE_ENDIAN_16, UPPER, BitVec.getElem_extractLsb']
    interval_cases i <;> simp
  have hSecond : (CHANGE_ENDIAN_16 (UPPER v)).extractLsb' 8 8 = v.extractLsb' 16 8 := by
    ext i hi
    simp only [CHANGE_ENDIAN_16, UPPER, BitVec.getElem_extractLsb']
    interval_cases i <;> simp
  rw [wordBytes, hFirst, hSecond]

theorem append_bytes (v : BitVec 32) :
    v.extractLsb' 24 8 ++ v.extractLsb' 16 8 ++ v.extractLsb' 8 8 ++ v.extractLsb' 0 8 = v := by
  ext i hi
  simp only [BitVec.getElem_append, BitVec.getElem_extractLsb']
  interval_cases i <;> simp

theorem readValue_valueBytes (v : BitVec 32) (rest : List (BitVec 8)) :
    readValue (valueBytes v ++ rest) = some (v, rest) :=
  congrArg (fun w => some (w, rest)) (append_bytes v)

/-! ### The note -/

namespace NoteValues

theorem length_layout (v : NoteValues) : v.layout.length = 16 := rfl

theorem decode_layout (v : NoteValues) : decode v.layout = some v := by
  have hLast := readValue_valueBytes v.focusPos []
  rw [List.append_nil] at hLast
  simp only [decode, layout, List.append_assoc, readValue_valueBytes, Option.bind_eq_bind,
    Option.bind_some, hLast]
  rfl

end NoteValues

/-- The words written so far, with zeros behind them. -/
structure NoteBuffer.Holds (b : NoteBuffer) (ws : List (BitVec 16)) : Prop where
  cnt_eq : b.exifByteCnt = ws.length
  words_eq : ∃ n, b.words = ws ++ List.replicate n 0 ∧ ws.length + n = AAA_EXIF_BUF_SIZE

namespace NoteBuffer

variable {b : NoteBuffer} {ws : List (BitVec 16)}

theorem empty_holds : empty.Holds [] where
  cnt_eq := rfl
  words_eq := ⟨AAA_EXIF_BUF_SIZE, rfl, rfl⟩

theorem Holds.set (hHolds : b.Holds ws) (hRoom : ws.length < AAA_EXIF_BUF_SIZE) (w : BitVec 16) :
    ∃ n, b.words.set b.exifByteCnt w = ws ++ w :: List.replicate n 0 ∧
      ws.length + 1 + n = AAA_EXIF_BUF_SIZE := by
  obtain ⟨n, hWords, hSize⟩ := hHolds.words_eq
  cases n with
  | zero => omega
  | succ n =>
    refine ⟨n, ?_, by omega⟩
    rw [hWords, hHolds.cnt_eq, List.set_append_right _ _ le_rfl, Nat.sub_self,
      List.replicate_succ, List.set_cons_zero]

theorem Holds.put (hHolds : b.Holds ws) (hRoom : ws.length < AAA_EXIF_BUF_SIZE) (w : BitVec 16) :
    (b.put w).Holds (ws ++ [w]) := by
  obtain ⟨n, hWords, hSize⟩ := hHolds.set hRoom w
  constructor
  · simp [NoteBuffer.put, hHolds.cnt_eq]
  · exact ⟨n, by simpa [NoteBuffer.put] using hWords, by simpa using hSize⟩

theorem Holds.skip (hHolds : b.Holds ws) {n : Nat} (hRoom : ws.length + n ≤ AAA_EXIF_BUF_SIZE) :
    (b.skip n).Holds (ws ++ List.replicate n 0) := by
  obtain ⟨m, hWords, hSize⟩ := hHolds.words_eq
  constructor
  · simp [NoteBuffer.skip, hHolds.cnt_eq]
  · refine ⟨m - n, ?_, by simp; omega⟩
    rw [NoteBuffer.skip, hWords, List.append_assoc, List.replicate_append_replicate,
      Nat.add_sub_cancel' (by omega)]

/-- The two words of a value. -/
def valueWords (v : BitVec 32) : List (BitVec 16) :=
  [CHANGE_ENDIAN_16 (LOWER v), CHANGE_ENDIAN_16 (UPPER v)]

@[simp] theorem length_valueWords (v : BitVec 32) : (valueWords v).length = 2 := rfl

theorem flatMap_valueWords (v : BitVec 32) : (valueWords v).flatMap wordBytes = valueBytes v := by
  simp [valueWords, wordBytes_lower, wordBytes_upper, valueBytes]

theorem valueWords_zero : valueWords 0 = List.replicate 2 0 := by
  decide

theorem Holds.addAe (hHolds : b.Holds ws) (hRoom : ws.length + 2 ≤ AAA_EXIF_BUF_SIZE)
    (ae : Option AeParams) :
    (b.addAe ae).Holds (ws ++ valueWords ((ae.map AeParams.lineCount).getD 0)) := by
  cases ae with
  | none => exact hHolds.skip hRoom
  | some p =>
    have hFirst := hHolds.put (by omega) (CHANGE_ENDIAN_16 (LOWER p.lineCount))
    have hSecond := hFirst.put (by simp; omega) (CHANGE_ENDIAN_16 (UPPER p.lineCount))
    rwa [List.append_assoc] at hSecond

theorem Holds.addAwb (hHolds : b.Holds ws) (hRoom : ws.length + 4 ≤ AAA_EXIF_BUF_SIZE)
    (awb : Option AwbParams) :
    (b.addAwb awb).Holds (ws ++ (valueWords ((awb.map AwbParams.cctValue).getD 0) ++
      valueWords ((awb.map AwbParams.decision).getD 0))) := by
  cases awb with
  | none => exact hHolds.skip hRoom
  | some p =>
    have hFirst := hHolds.put (by omega) (CHANGE_ENDIAN_16 (LOWER p.cctValue))
    have hSecond := hFirst.put (by simp; omega) (CHANGE_ENDIAN_16 (UPPER_SIGNED p.cctValue))
    have hThird := hSecond.put (by simp; omega) (CHANGE_ENDIAN_16 (LOWER p.decision))
    have hFourth := hThird.put (by simp; omega) (CHANGE_ENDIAN_16 (UPPER_SIGNED p.decision))
    simp only [List.append_assoc, UPPER_SIGNED_eq] at hFourth
    rw [NoteBuffer.addAwb, UPPER_SIGNED_eq, UPPER_SIGNED_eq]
    exact hFourth

end NoteBuffer

open NoteBuffer in
/-- With focus data the last two bytes of the layout are missing. -/
theorem process3aData_eq (ae : Option AeParams) (awb : Option AwbParams)
    (focus : Option FocusData) :
    process3aData ae awb focus =
      (NoteValues.of ae awb focus).layout.take (if focus.isSome then 14 else 16) := by
  have hAe := empty_holds.addAe (by decide) ae
  have hAwb := hAe.addAwb (by simp [AAA_EXIF_BUF_SIZE]) awb
  cases focus with
  | none =>
    have hAll := hAwb.skip (n := 2) (by simp [AAA_EXIF_BUF_SIZE])
    obtain ⟨n, hWords, -⟩ := hAll.words_eq
    have hNote : process3aData ae awb none =
        ((((empty.addAe ae).addAwb awb).skip 2).words.flatMap wordBytes).take
          ((((empty.addAe ae).addAwb awb).skip 2).exifByteCnt * 2) := rfl
    rw [hNote, hWords, hAll.cnt_eq, ← valueWords_zero]
    simp only [List.flatMap_append, flatMap_valueWords]
    rfl
  | some p =>
    have hFirst := hAwb.put (by simp [AAA_EXIF_BUF_SIZE]) (CHANGE_ENDIAN_16 (LOWER p.focusPos))
    obtain ⟨n, hWords, -⟩ := hFirst.set (by simp [AAA_EXIF_BUF_SIZE])
      (CHANGE_ENDIAN_16 (UPPER p.focusPos))
    rw [process3aData, NoteBuffer.addFocus, NoteBuffer.putLast, UPPER_SIGNED_eq]
    dsimp only
    rw [hWords, hFirst.cnt_eq]
    simp only [List.flatMap_append, flatMap_valueWords, List.flatMap_cons, wordBytes_lower,
      wordBytes_upper]
    rfl

theorem process3aData_encodes (ae : Option AeParams) (awb : Option AwbParams)
    (focus : Option FocusData) :
    Encodes (process3aData ae awb focus) (NoteValues.of ae awb focus) ↔ focus = none := by
  rw [process3aData_eq]
  constructor
  · intro hEncodes
    cases focus with
    | none => rfl
    | some p =>
      have hLength := hEncodes.length
      rw [List.length_take, NoteValues.length_layout] at hLength
      cases hLength
  · rintro rfl
    have hAll := List.take_of_length_le (NoteValues.length_layout (.of ae awb none)).le
    constructor
    · exact congrArg List.length hAll
    · exact hAll
    · exact (congrArg NoteValues.decode hAll).trans (NoteValues.decode_layout _)

/-- A focus position of 65536 is read back as nothing: its upper word is not in the note. -/
theorem focus_truncated : ¬∀ ae awb focus,
    Encodes (process3aData ae awb focus) (NoteValues.of ae awb focus) := by
  intro hAll
  exact absurd (hAll none none (some ⟨65536⟩)).length (by decide)

end KiwiDevice.Jpeg

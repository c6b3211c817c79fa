import KiwiDevice.Camera.PlaneLayouts
import KiwiDevice.Lib.Memory

/-!
# Pictures in padded frames

The rows and planes of a YUV frame are padded. `yuvDataRelocate` packs the picture of a frame,
`yuvDataRecover` puts one back, `TsMakeupProcess` has it beautified in between, and
`sendPreviewCallback` hands it to the application. Copying outside of a block has no result; no
pointer is NULL.
-/

namespace KiwiDevice.Hal

open Camera Lib

/-- An `int` as `size_t`. -/
def toSize (x : Word) : Nat := (x.signExtend 64).toNat

theorem toSize_of_lt {x : Word} (h : x.toNat < 2 ^ 31) : toSize x = x.toNat := by
  have hMsb : x.msb = false := by
    rw [BitVec.msb_eq_decide]
    exact decide_eq_false (by omega)
  rw [toSize, BitVec.signExtend_eq_setWidth_of_msb_false hMsb, BitVec.toNat_setWidth]
  exact Nat.mod_eq_of_lt (by omega)

theorem toInt_toNat_of_lt {x : Word} (h : x.toNat < 2 ^ 31) : x.toInt.toNat = x.toNat := by
  rw [BitVec.toInt_eq_toNat_of_lt (by omega), Int.toNat_natCast]

/-- The loops over the rows: the block that is written, the place in the packed picture and that in
the frame. -/
structure RowLoop (size : Nat) where
  block : Memory size
  offsetW : Word
  index : Word

section Loops

variable {size : Nat} (copy : Piece → Memory size → Option (Memory size))

/-- A row is a piece of the frame that has its place in the packed picture. -/
def copyRows (p : MpLenOffset) : Nat → RowLoop size → Option (RowLoop size)
  | 0, s => some s
  | rows + 1, s =>
    (copy ⟨s.index.toNat, s.offsetW.toNat, toSize p.width⟩ s.block).bind fun block =>
      copyRows p rows ⟨block, s.offsetW + p.width, s.index + p.stride⟩

def firstIndex (o : FrameLenOffset) (i : Nat) : Word :=
  if 0 < i then (o.mp i).offset + (o.mp (i - 1)).len else (o.mp i).offset

/-- `buf_h` -/
def bufH (o : FrameLenOffset) (i : Nat) : Word :=
  if 0 < i then (o.mp (i - 1)).height.sdiv 2 else (o.mp i).height

def copyPlanes (o : FrameLenOffset) (block : Memory size) : Option (Memory size) :=
  ((List.range o.numPlanes).foldlM
    (fun s i => copyRows copy (o.mp i) (bufH o i).toInt.toNat { s with index := firstIndex o i })
    ⟨block, 0#32, 0#32⟩).map RowLoop.block

end Loops

section Model

variable {f m : Nat}

def yuvDataRelocate (frame : Memory f) (image : Memory m) (o : FrameLenOffset) :
    Option (Memory m) :=
  copyPlanes (fun p image => image.memcpy p.dst frame p.src p.len) o image

def yuvDataRecover (image : Memory m) (frame : Memory f) (o : FrameLenOffset) :
    Option (Memory f) :=
  copyPlanes (fun p frame => frame.memcpy p.src image p.dst p.len) o frame

def isNeedDelPadding (o : FrameLenOffset) (width : Word) : Bool :=
  (o.mp 0).stride != width || (o.mp 0).stride * (o.mp 0).height != (o.mp 0).len

/-- The size of the packed picture. -/
def makeupSize (dim : CamDimension) : Word := (dim.width * dim.height * 3).sdiv 2

/-- `skinBeauty` is `ts_makeup_skin_beauty`, with the face and the levels that it is given;
`tempOriBuf` and `pMakeupOutBuf` hold anything before. -/
def tsMakeupProcess (enableMakeUp : Bool) (skinBeauty : List UInt8 → List UInt8)
    (tempOriBuf pMakeupOutBuf : Nat → UInt8) (dim : CamDimension) (o : FrameLenOffset)
    (frame : Memory f) : Option (Memory f) :=
  let size := toSize (makeupSize dim)
  let tmpBuf : Memory size := ⟨pMakeupOutBuf⟩
  if !enableMakeUp then some frame
  else if isNeedDelPadding o dim.width then do
    let packed ← yuvDataRelocate frame (⟨tempOriBuf⟩ : Memory size) o
    let tmpBuf ← tmpBuf.store 0 (skinBeauty (← packed.load 0 size))
    yuvDataRecover tmpBuf frame o
  else do
    let tmpBuf ← tmpBuf.store 0 (skinBeauty (← frame.load 0 size))
    frame.memcpy 0 tmpBuf 0 size

/-- The rows of one plane in `sendPreviewCallback`. -/
def previewRows (rows : Word) (stride strideToApp srcBase dstBase len : Word) (frame : Memory f)
    (data : Memory m) : Option (Memory m) :=
  (List.range rows.toInt.toNat).foldlM
    (fun data i => data.memcpy (toSize (BitVec.ofNat 32 i * strideToApp + dstBase)) frame
      (toSize (BitVec.ofNat 32 i * stride + srcBase)) (toSize len)) data

def previewNoMemory : Int := -12

/-- The buffer itself where the sizes agree, a copy otherwise. `granted` is whether `mGetMemory`
gives memory. -/
def previewData (dim : CamDimension) (o : FrameLenOffset) (frame : Memory f) (granted : Bool)
    (previewBufSize previewBufSizeFromCallback : Nat) : Option (Int × Option (List UInt8)) :=
  if previewBufSize = previewBufSizeFromCallback then
    if granted then
      (frame.load 0 previewBufSize).map fun data =>
        (0, if previewBufSize ≠ 0 then some data else none)
    else some (previewNoMemory, none)
  else if granted then
    (((previewRows dim.height (o.mp 0).stride dim.width 0 0 dim.width frame
      (Memory.zero : Memory previewBufSize)).bind fun dataToApp =>
        previewRows (dim.height.sdiv 2) (o.mp 1).stride dim.width
          ((o.mp 0).stride * (o.mp 0).scanline) (dim.width * dim.height) dim.width frame
          dataToApp).bind fun dataToApp => dataToApp.load 0 previewBufSize).map fun data =>
            (0, some data)
  else some (previewNoMemory, none)

/-- What the application gets, up to `notifyCallback`. -/
def sendPreviewCallback (fmt : CamFormat) (dim : CamDimension) (o : FrameLenOffset)
    (frame : Memory f) (granted : Bool) : Option (Int × Option (List UInt8)) :=
  let area (i : Nat) := (o.mp i).stride * (o.mp i).scanline
  match fmt with
  | .yuv420Nv21 | .yuv420Nv12 =>
    previewData dim o frame granted
      (toSize (dim.width * dim.height + dim.width * dim.height.sdiv 2)) (toSize (area 0 + area 1))
  | .yuv420Yv12 =>
    let previewBufSize := toSize (area 0 + area 1 + area 2)
    previewData dim o frame granted previewBufSize previewBufSize
  | _ => some (0, none)

end Model

/-! ## The picture -/

/-- A layout of NV12 or NV21 for `w` columns and `h` rows. -/
structure PictureLayout (o : FrameLenOffset) (w h : Nat) : Prop where
  two : o.numPlanes = 2
  luma : PlaneSound (o.mp 0) w h
  chroma : PlaneSound (o.mp 1) w (h / 2)
  fits : FitsFrame o
  width_lt : w < 2 ^ 31
  height_lt : h < 2 ^ 31

/-- Where the frame has byte `n` of the packed picture. -/
def picturePos (o : FrameLenOffset) (w h n : Nat) : Nat :=
  if n < w * h then (o.mp 0).offset.toNat + n / w * (o.mp 0).stride.toNat + n % w
  else (o.mp 0).len.toNat + (o.mp 1).offset.toNat + (n - w * h) / w * (o.mp 1).stride.toNat +
    (n - w * h) % w

def pictureSize (w h : Nat) : Nat := w * h + w * (h / 2)

def picture {f : Nat} (o : FrameLenOffset) (w h : Nat) (frame : Memory f) : List UInt8 :=
  (List.range (pictureSize w h)).map fun n => frame.byte (picturePos o w h n)

/-- The rows of a plane. -/
def rowPieces (w stride : Nat) : Nat → Nat → Nat → List Piece
  | 0, _, _ => []
  | rows + 1, src, dst => ⟨src, dst, w⟩ :: rowPieces w stride rows (src + stride) (dst + w)

def picturePieces (o : FrameLenOffset) (w h : Nat) : List Piece :=
  rowPieces w (o.mp 0).stride.toNat h (o.mp 0).offset.toNat 0 ++
    rowPieces w (o.mp 1).stride.toNat (h / 2) ((o.mp 0).len.toNat + (o.mp 1).offset.toNat) (w * h)

section Rows

variable {w stride rows src dst : Nat} {p q : Piece}

theorem mem_rowPieces : p ∈ rowPieces w stride rows src dst ↔
    ∃ j < rows, p = ⟨src + j * stride, dst + j * w, w⟩ := by
  induction rows generalizing src dst with
  | zero => simp [rowPieces]
  | succ rows ih =>
    rw [rowPieces, List.mem_cons, ih]
    constructor
    · rintro (rfl | ⟨j, hj, rfl⟩)
      · exact ⟨0, Nat.succ_pos rows, by simp⟩
      · refine ⟨j + 1, Nat.succ_lt_succ hj, ?_⟩
        rw [Nat.succ_mul, Nat.succ_mul, Nat.add_assoc src, Nat.add_assoc dst, Nat.add_comm stride,
          Nat.add_comm w]
    · rintro ⟨j, hj, rfl⟩
      cases j with
      | zero => exact .inl (by simp)
      | succ j =>
        refine .inr ⟨j, Nat.lt_of_succ_lt_succ hj, ?_⟩
        rw [Nat.succ_mul, Nat.succ_mul, Nat.add_assoc src, Nat.add_assoc dst, Nat.add_comm stride,
          Nat.add_comm w]

/-- The rows go one behind the other, in the packed picture and in the frame. -/
theorem rowPieces_before : (rowPieces w stride rows src dst).Pairwise Piece.Before := by
  induction rows generalizing src dst with
  | zero => exact List.Pairwise.nil
  | succ rows ih =>
    refine List.pairwise_cons.mpr ⟨?_, ih⟩
    intro q hq
    obtain ⟨j, -, rfl⟩ := mem_rowPieces.mp hq
    exact Nat.le_add_right _ _

theorem rowPieces_flip_before (hStride : w ≤ stride) :
    ((rowPieces w stride rows src dst).map Piece.flip).Pairwise Piece.Before := by
  induction rows generalizing src dst with
  | zero => exact List.Pairwise.nil
  | succ rows ih =>
    refine List.pairwise_cons.mpr ⟨?_, ih⟩
    intro q hq
    obtain ⟨p, hp, rfl⟩ := List.mem_map.mp hq
    obtain ⟨j, -, rfl⟩ := mem_rowPieces.mp hp
    have hNext : src + w ≤ src + stride + j * stride := by omega
    exact hNext

end Rows

section Loops

variable {size : Nat} {copy : Piece → Memory size → Option (Memory size)}

/-- The loop over the rows of a plane copies its pieces, if no sum wraps around before a row. -/
theorem copyRows_eq {p : MpLenOffset} (hWidth : p.width.toNat < 2 ^ 31) (rows : Nat)
    (s : RowLoop size) (hDst : s.offsetW.toNat + rows * p.width.toNat < 2 ^ 32)
    (hSrc : ∀ j < rows, s.index.toNat + j * p.stride.toNat < 2 ^ 32) :
    copyRows copy p rows s =
      ((rowPieces p.width.toNat p.stride.toNat rows s.index.toNat s.offsetW.toNat).foldlM
        (fun block q => copy q block) s.block).map
        fun block => ⟨block, s.offsetW + BitVec.ofNat 32 rows * p.width,
          s.index + BitVec.ofNat 32 rows * p.stride⟩ := by
  induction rows generalizing s with
  | zero => simp [copyRows, rowPieces]
  | succ rows ih =>
    have hOffset : (s.offsetW + p.width).toNat = s.offsetW.toNat + p.width.toNat := by
      rw [BitVec.toNat_add, Nat.mod_eq_of_lt]
      rw [Nat.succ_mul] at hDst
      omega
    rw [copyRows, rowPieces, List.foldlM_cons, toSize_of_lt hWidth]
    cases hCopy : copy ⟨s.index.toNat, s.offsetW.toNat, p.width.toNat⟩ s.block with
    | none => rfl
    | some block =>
      have hOne : ∀ x : Word, x + BitVec.ofNat 32 rows * x = BitVec.ofNat 32 (rows + 1) * x := by
        intro x
        rw [BitVec.ofNat_add, BitVec.add_mul, BitVec.add_comm, BitVec.one_mul]
      have hRest : rows = 0 ∨
          (s.index + p.stride).toNat = s.index.toNat + p.stride.toNat := by
        rcases Nat.eq_zero_or_pos rows with hZero | hPos
        · exact .inl hZero
        · have hNext := hSrc 1 (Nat.succ_lt_succ hPos)
          rw [Nat.one_mul] at hNext
          exact .inr (by rw [BitVec.toNat_add, Nat.mod_eq_of_lt hNext])
      have hLater := ih ⟨block, s.offsetW + p.width, s.index + p.stride⟩
        (by rw [Nat.succ_mul] at hDst; simp only [hOffset]; omega)
        (fun j hj => by
          obtain rfl | hIndex := hRest
          · exact absurd hj (Nat.not_lt_zero j)
          · have hNext := hSrc (j + 1) (Nat.succ_lt_succ hj)
            rw [Nat.succ_mul] at hNext
            simp only [hIndex]
            omega)
      simp only [Option.bind_some, Option.bind_eq_bind, hLater, BitVec.add_assoc, hOne, hOffset]
      obtain rfl | hIndex := hRest
      · rfl
      · rw [hIndex]

end Loops

section Row

variable {p : MpLenOffset} {w h j : Nat}

theorem row_le (hSound : PlaneSound p w h) (hj : j < h) :
    p.offset.toNat + j * p.stride.toNat + w ≤ p.len.toNat := by
  have hVisible := hSound.visible
  have hRows : p.stride.toNat * j ≤ p.stride.toNat * (h - 1) :=
    Nat.mul_le_mul_left _ (Nat.le_sub_one_of_lt hj)
  rw [Nat.mul_comm] at hRows
  omega

theorem area_le (hSound : PlaneSound p w h) : w * h ≤ p.len.toNat :=
  (Nat.mul_le_mul hSound.stride hSound.scanline).trans hSound.len

theorem row_end_le (hj : j < h) : j * w + w ≤ w * h := by
  rw [← Nat.succ_mul, Nat.mul_comm]
  exact Nat.mul_le_mul_left w hj

end Row

namespace PictureLayout

variable {o : FrameLenOffset} {w h f m n : Nat} {p : Piece} {frame frame' : Memory f}
  {image image' : Memory m}

theorem mem_picturePieces : p ∈ picturePieces o w h ↔
    (∃ j < h, p = ⟨(o.mp 0).offset.toNat + j * (o.mp 0).stride.toNat, 0 + j * w, w⟩) ∨
      ∃ j < h / 2, p = ⟨(o.mp 0).len.toNat + (o.mp 1).offset.toNat + j * (o.mp 1).stride.toNat,
        w * h + j * w, w⟩ := by
  rw [picturePieces, List.mem_append, mem_rowPieces, mem_rowPieces]

theorem before : (picturePieces o w h).Pairwise Piece.Before := by
  refine List.pairwise_append.mpr ⟨rowPieces_before, rowPieces_before, ?_⟩
  intro p hp q hq
  obtain ⟨i, hi, rfl⟩ := mem_rowPieces.mp hp
  obtain ⟨j, -, rfl⟩ := mem_rowPieces.mp hq
  have hEnd := row_end_le (w := w) hi
  exact show 0 + i * w + w ≤ w * h + j * w by omega

/-- A byte of a piece is a byte of the picture, at its place in the frame. -/
theorem pos_of_piece (hp : p ∈ picturePieces o w h) {i : Nat} (hi : i < p.len) :
    p.dst + i < pictureSize w h ∧ picturePos o w h (p.dst + i) = p.src + i := by
  obtain ⟨j, hj, rfl⟩ | ⟨j, hj, rfl⟩ := mem_picturePieces.mp hp
  · have hEnd := row_end_le (w := w) hj
    have hLt : i < w := hi
    have hDiv : (w * j + i) / w = j := by
      rw [Nat.mul_add_div (by omega), Nat.div_eq_of_lt hLt, Nat.add_zero]
    have hMod : (w * j + i) % w = i := by rw [Nat.mul_add_mod, Nat.mod_eq_of_lt hLt]
    rw [Nat.mul_comm] at hEnd
    dsimp only
    rw [pictureSize, picturePos, Nat.zero_add, Nat.mul_comm j w, if_pos (by omega), hDiv, hMod]
    exact ⟨by omega, rfl⟩
  · have hEnd := row_end_le (w := w) hj
    have hLt : i < w := hi
    have hSub : w * h + w * j + i - w * h = w * j + i := by omega
    have hDiv : (w * j + i) / w = j := by
      rw [Nat.mul_add_div (by omega), Nat.div_eq_of_lt hLt, Nat.add_zero]
    have hMod : (w * j + i) % w = i := by rw [Nat.mul_add_mod, Nat.mod_eq_of_lt hLt]
    rw [Nat.mul_comm] at hEnd
    dsimp only
    rw [pictureSize, picturePos, Nat.mul_comm j w, if_neg (by omega), hSub, hDiv, hMod]
    exact ⟨by omega, rfl⟩

/-- Every byte of the picture is in a piece. -/
theorem piece_of_pos (hn : n < pictureSize w h) :
    ∃ p ∈ picturePieces o w h, ∃ i < p.len, n = p.dst + i ∧ picturePos o w h n = p.src + i := by
  have hPos : 0 < w := by
    rcases Nat.eq_zero_or_pos w with rfl | hPos
    · simp [pictureSize] at hn
    · exact hPos
  rw [pictureSize] at hn
  by_cases hLuma : n < w * h
  · have hj : n / w < h := Nat.div_lt_of_lt_mul hLuma
    refine ⟨_, mem_picturePieces.mpr (.inl ⟨n / w, hj, rfl⟩), n % w, Nat.mod_lt n hPos, ?_, ?_⟩
    · have hSum := Nat.div_add_mod n w
      rw [Nat.mul_comm] at hSum
      exact show n = 0 + n / w * w + n % w by omega
    · rw [picturePos, if_pos hLuma]
  · have hj : (n - w * h) / w < h / 2 := Nat.div_lt_of_lt_mul (by omega)
    refine ⟨_, mem_picturePieces.mpr (.inr ⟨(n - w * h) / w, hj, rfl⟩), (n - w * h) % w,
      Nat.mod_lt _ hPos, ?_, ?_⟩
    · have hSum := Nat.div_add_mod (n - w * h) w
      rw [Nat.mul_comm] at hSum
      exact show n = w * h + (n - w * h) / w * w + (n - w * h) % w by omega
    · rw [picturePos, if_neg hLuma]

/-- What is packed is the picture, and the rest of the block is as it was. -/
theorem copied_picture (hImage : pictureSize w h ≤ m)
    (h' : Memory.Copied frame (picturePieces o w h) image image') :
    image'.load 0 (pictureSize w h) = some (picture o w h frame) ∧
      ∀ a, pictureSize w h ≤ a → image'.byte a = image.byte a := by
  refine ⟨?_, fun a ha => h'.outside a fun p hp hInto => ?_⟩
  · rw [Memory.load, if_pos (by omega), picture]
    congr 1
    apply List.map_congr_left
    intro n hn
    obtain ⟨p, hp, i, hi, hAt, hPos⟩ := piece_of_pos (List.mem_range.mp hn)
    rw [Nat.zero_add, hPos, hAt]
    exact h'.inside p hp i hi
  · obtain ⟨i, rfl⟩ := Nat.exists_eq_add_of_le hInto.1
    have hIn := (pos_of_piece hp (Nat.lt_of_add_lt_add_left hInto.2)).1
    omega

/-- The frame then shows the picture, and its padding is as it was. -/
theorem recovered_picture
    (h' : Memory.Copied image ((picturePieces o w h).map Piece.flip) frame frame') :
    (∀ n < pictureSize w h, frame'.byte (picturePos o w h n) = image.byte n) ∧
      ∀ a, (∀ n < pictureSize w h, picturePos o w h n ≠ a) → frame'.byte a = frame.byte a := by
  constructor
  · intro n hn
    obtain ⟨p, hp, i, hi, rfl, hPos⟩ := piece_of_pos hn
    rw [hPos]
    exact h'.inside p.flip (List.mem_map_of_mem hp) i hi
  · intro a hNot
    apply h'.outside
    intro q hq hInto
    obtain ⟨p, hp, rfl⟩ := List.mem_map.mp hq
    obtain ⟨i, rfl⟩ := Nat.exists_eq_add_of_le hInto.1
    obtain ⟨hIn, hPos⟩ := pos_of_piece hp (Nat.lt_of_add_lt_add_left hInto.2)
    exact hNot _ hIn hPos

section Geometry

variable (hLayout : PictureLayout o w h)
include hLayout

theorem lens_le : (o.mp 0).len.toNat + (o.mp 1).len.toNat ≤ o.frameLen.toNat := by
  have hFits := hLayout.fits
  rw [FitsFrame, hLayout.two] at hFits
  simpa [planeStart, placeOf] using hFits

theorem size_le : pictureSize w h ≤ o.frameLen.toNat := by
  have hLens := hLayout.lens_le
  have hLuma := area_le hLayout.luma
  have hChroma := area_le hLayout.chroma
  rw [pictureSize]
  omega

theorem size_lt : pictureSize w h < 2 ^ 32 :=
  Nat.lt_of_le_of_lt hLayout.size_le o.frameLen.isLt

theorem chroma_offset_le : (o.mp 1).offset.toNat ≤ (o.mp 1).len.toNat := by
  have hVisible := hLayout.chroma.visible
  omega

theorem chroma_index :
    (firstIndex o 1).toNat = (o.mp 0).len.toNat + (o.mp 1).offset.toNat := by
  have hLens := hLayout.lens_le
  have hOffset := hLayout.chroma_offset_le
  have hFrame := o.frameLen.isLt
  rw [firstIndex, if_pos Nat.one_pos, Nat.sub_self, BitVec.toNat_add, Nat.add_comm]
  exact Nat.mod_eq_of_lt (by omega)

theorem bufH_luma : (bufH o 0).toInt.toNat = h := by
  have hHeight := hLayout.luma.height_eq
  have hLt := hLayout.height_lt
  rw [bufH, if_neg (Nat.lt_irrefl 0), toInt_toNat_of_lt (by omega), hHeight]

theorem bufH_chroma : (bufH o 1).toInt.toNat = h / 2 := by
  have hHeight := hLayout.luma.height_eq
  have hLt := hLayout.height_lt
  have hHalf : ((o.mp 0).height.sdiv 2).toNat = h / 2 := by
    rw [half_eq (by omega), hHeight]
  rw [bufH, if_pos Nat.one_pos, Nat.sub_self, toInt_toNat_of_lt (by omega), hHalf]

/-- The loops copy the pieces of the picture. -/
theorem copyPlanes_eq {size : Nat} {copy : Piece → Memory size → Option (Memory size)}
    (block : Memory size) : copyPlanes copy o block =
      (picturePieces o w h).foldlM (fun block q => copy q block) block := by
  have hLuma : ∀ b : Memory size, copyRows copy (o.mp 0) h ⟨b, 0#32, firstIndex o 0⟩ = _ := fun b =>
    copyRows_eq (by rw [hLayout.luma.width_eq]; exact hLayout.width_lt) h ⟨b, 0#32, firstIndex o 0⟩
      (by
        have hArea := area_le hLayout.luma
        have hLen := (o.mp 0).len.isLt
        simp only [hLayout.luma.width_eq, BitVec.toNat_zero, Nat.zero_add, Nat.mul_comm h]
        omega)
      (fun j hj => by
        have hRow := row_le hLayout.luma hj
        have hLen := (o.mp 0).len.isLt
        simp only [firstIndex, if_neg (Nat.lt_irrefl 0)]
        omega)
  have hPlace : (0#32 + BitVec.ofNat 32 h * (o.mp 0).width).toNat = w * h := by
    have hArea := area_le hLayout.luma
    have hLen := (o.mp 0).len.isLt
    have hHeight := hLayout.height_lt
    rw [BitVec.zero_add, BitVec.toNat_mul, BitVec.toNat_ofNat, hLayout.luma.width_eq,
      Nat.mod_eq_of_lt (a := h) (by omega), Nat.mul_comm]
    exact Nat.mod_eq_of_lt (by omega)
  have hChroma : ∀ b : Memory size,
      copyRows copy (o.mp 1) (h / 2) ⟨b, 0#32 + BitVec.ofNat 32 h * (o.mp 0).width, firstIndex o 1⟩ =
        _ := fun b =>
    copyRows_eq (by rw [hLayout.chroma.width_eq]; exact hLayout.width_lt) (h / 2) _
      (by
        have hSize := hLayout.size_lt
        rw [pictureSize, Nat.mul_comm w (h / 2)] at hSize
        simp only [hPlace, hLayout.chroma.width_eq]
        omega)
      (fun j hj => by
        have hRow := row_le hLayout.chroma hj
        have hLens := hLayout.lens_le
        have hFrame := o.frameLen.isLt
        simp only [hLayout.chroma_index]
        omega)
  rw [copyPlanes, hLayout.two, show List.range 2 = [0, 1] from rfl, picturePieces,
    List.foldlM_append, List.foldlM_cons, hLayout.bufH_luma, hLuma, hLayout.luma.width_eq]
  simp only [BitVec.toNat_zero, List.foldlM_cons, List.foldlM_nil, hLayout.bufH_chroma]
  rw [show (firstIndex o 0).toNat = (o.mp 0).offset.toNat from rfl]
  cases (rowPieces w (o.mp 0).stride.toNat h (o.mp 0).offset.toNat 0).foldlM
    (fun block q => copy q block) block with
  | none => rfl
  | some b =>
    simp only [Option.map_some, Option.bind_eq_bind, Option.bind_some, hChroma, hPlace,
      hLayout.chroma_index, hLayout.chroma.width_eq]
    cases (rowPieces w (o.mp 1).stride.toNat (h / 2)
      ((o.mp 0).len.toNat + (o.mp 1).offset.toNat) (w * h)).foldlM
      (fun block q => copy q block) b with
    | none => rfl
    | some b => rfl

/-- The pieces lie in the frame and in the packed picture. -/
theorem within (hFrame : o.frameLen.toNat ≤ f) (hImage : pictureSize w h ≤ m)
    (hp : p ∈ picturePieces o w h) : p.Within f m := by
  have hLens := hLayout.lens_le
  rw [pictureSize] at hImage
  obtain ⟨j, hj, rfl⟩ | ⟨j, hj, rfl⟩ := mem_picturePieces.mp hp
  · have hRow := row_le hLayout.luma hj
    have hEnd := row_end_le (w := w) hj
    constructor
    · exact show (o.mp 0).offset.toNat + j * (o.mp 0).stride.toNat + w ≤ f by omega
    · exact show 0 + j * w + w ≤ m by omega
  · have hRow := row_le hLayout.chroma hj
    have hEnd := row_end_le (w := w) hj
    constructor
    · exact show (o.mp 0).len.toNat + (o.mp 1).offset.toNat + j * (o.mp 1).stride.toNat + w ≤ f by
        omega
    · exact show w * h + j * w + w ≤ m by omega

theorem flip_before : ((picturePieces o w h).map Piece.flip).Pairwise Piece.Before := by
  rw [picturePieces, List.map_append]
  refine List.pairwise_append.mpr ⟨rowPieces_flip_before hLayout.luma.stride,
    rowPieces_flip_before hLayout.chroma.stride, ?_⟩
  intro p hp q hq
  obtain ⟨r, hr, rfl⟩ := List.mem_map.mp hp
  obtain ⟨r', hr', rfl⟩ := List.mem_map.mp hq
  obtain ⟨i, hi, rfl⟩ := mem_rowPieces.mp hr
  obtain ⟨j, -, rfl⟩ := mem_rowPieces.mp hr'
  have hRow := row_le hLayout.luma hi
  exact show (o.mp 0).offset.toNat + i * (o.mp 0).stride.toNat + w ≤
    (o.mp 0).len.toNat + (o.mp 1).offset.toNat + j * (o.mp 1).stride.toNat by omega

theorem yuvDataRelocate_spec (hFrame : o.frameLen.toNat ≤ f) (hImage : pictureSize w h ≤ m)
    (frame : Memory f) (image : Memory m) : ∃ image', yuvDataRelocate frame image o = some image' ∧
      Memory.Copied frame (picturePieces o w h) image image' := by
  rw [yuvDataRelocate, hLayout.copyPlanes_eq]
  exact Memory.copyPieces_spec frame image (fun p hp => hLayout.within hFrame hImage hp) before

theorem yuvDataRecover_spec (hFrame : o.frameLen.toNat ≤ f) (hImage : pictureSize w h ≤ m)
    (image : Memory m) (frame : Memory f) : ∃ frame', yuvDataRecover image frame o = some frame' ∧
      Memory.Copied image ((picturePieces o w h).map Piece.flip) frame frame' := by
  have hSpec := Memory.copyPieces_spec image frame
    (fun q hq => by
      obtain ⟨p, hp, rfl⟩ := List.mem_map.mp hq
      exact (hLayout.within hFrame hImage hp).flip) hLayout.flip_before
  rw [yuvDataRecover, hLayout.copyPlanes_eq]
  rwa [Memory.copyPieces, List.foldlM_map] at hSpec

/-- What is packed is the picture. -/
theorem packed_picture (hFrame : o.frameLen.toNat ≤ f) (hImage : pictureSize w h ≤ m)
    (frame : Memory f) (image : Memory m) : ∃ packed, yuvDataRelocate frame image o = some packed ∧
      Memory.Copied frame (picturePieces o w h) image packed ∧
      packed.load 0 (pictureSize w h) = some (picture o w h frame) ∧
      ∀ a, pictureSize w h ≤ a → packed.byte a = image.byte a := by
  obtain ⟨packed, hPacked, hCopied⟩ := hLayout.yuvDataRelocate_spec hFrame hImage frame image
  obtain ⟨hLoad, hRest⟩ := copied_picture hImage hCopied
  exact ⟨packed, hPacked, hCopied, hLoad, hRest⟩

/-- What is put back is shown. -/
theorem shown_picture (hFrame : o.frameLen.toNat ≤ f) (hImage : pictureSize w h ≤ m)
    (frame : Memory f) (image : Memory m) : ∃ frame', yuvDataRecover image frame o = some frame' ∧
      some (picture o w h frame') = image.load 0 (pictureSize w h) ∧
      ∀ a, (∀ n < pictureSize w h, picturePos o w h n ≠ a) → frame'.byte a = frame.byte a := by
  obtain ⟨frame', hBack, hRecovered⟩ := hLayout.yuvDataRecover_spec hFrame hImage image frame
  obtain ⟨hShown, hRest⟩ := recovered_picture hRecovered
  refine ⟨frame', hBack, ?_, hRest⟩
  rw [Memory.load, if_pos (by omega), picture]
  congr 1
  apply List.map_congr_left
  intro n hn
  rw [Nat.zero_add, hShown n (List.mem_range.mp hn)]

end Geometry

/-- The picture that is packed is put back where it was, a picture that is put back is packed again,
and no byte beside it changes. -/
theorem relocate_recover (hLayout : PictureLayout o w h) (hFrame : o.frameLen.toNat ≤ f)
    (hImage : pictureSize w h ≤ m) (frame : Memory f) (image : Memory m) :
    (∃ packed, yuvDataRelocate frame image o = some packed ∧
      packed.load 0 (pictureSize w h) = some (picture o w h frame) ∧
      (∀ a, pictureSize w h ≤ a → packed.byte a = image.byte a) ∧
      yuvDataRecover packed frame o = some frame) ∧
    ∃ frame', yuvDataRecover image frame o = some frame' ∧
      some (picture o w h frame') = image.load 0 (pictureSize w h) ∧
      ∀ a, (∀ n < pictureSize w h, picturePos o w h n ≠ a) → frame'.byte a = frame.byte a := by
  constructor
  · obtain ⟨packed, hPacked, hCopied, hLoad, hRest⟩ :=
      hLayout.packed_picture hFrame hImage frame image
    obtain ⟨frame', hBack, hRecovered⟩ := hLayout.yuvDataRecover_spec hFrame hImage packed frame
    exact ⟨packed, hPacked, hLoad, hRest, hBack.trans (congrArg some (hCopied.back hRecovered))⟩
  · exact hLayout.shown_picture hFrame hImage frame image

/-! ### Making up -/

/-- Without padding the picture is the start of the frame. -/
theorem picturePos_self (hOffset₀ : (o.mp 0).offset.toNat = 0) (hOffset₁ : (o.mp 1).offset.toNat = 0)
    (hStride₀ : (o.mp 0).stride.toNat = w) (hStride₁ : (o.mp 1).stride.toNat = w)
    (hLen : (o.mp 0).len.toNat = w * h) (n : Nat) : picturePos o w h n = n := by
  have hSum := Nat.div_add_mod n w
  have hRest := Nat.div_add_mod (n - w * h) w
  rw [Nat.mul_comm] at hSum hRest
  rw [picturePos, hOffset₀, hOffset₁, hStride₀, hStride₁, hLen]
  split
  · omega
  · omega

theorem load_picture (hSize : pictureSize w h ≤ f) (hSelf : ∀ n, picturePos o w h n = n) :
    frame.load 0 (pictureSize w h) = some (picture o w h frame) := by
  rw [Memory.load, if_pos (by omega), picture]
  congr 1
  apply List.map_congr_left
  intro n _
  rw [hSelf, Nat.zero_add]

theorem makeupSize_eq {dim : CamDimension} (hEven : 2 ∣ dim.height.toNat)
    (hSmall : dim.width.toNat * dim.height.toNat * 3 < 2 ^ 31) :
    toSize (makeupSize dim) = pictureSize dim.width.toNat dim.height.toNat := by
  have hArea : (dim.width * dim.height).toNat = dim.width.toNat * dim.height.toNat :=
    toNat_mul_of_lt rfl rfl (by omega)
  have hThree : (dim.width * dim.height * 3).toNat = dim.width.toNat * dim.height.toNat * 3 :=
    toNat_mul_of_lt hArea rfl (by omega)
  have hHalf : (makeupSize dim).toNat = dim.width.toNat * dim.height.toNat * 3 / 2 := by
    rw [makeupSize, half_eq (by omega), hThree]
  obtain ⟨k, hk⟩ := hEven
  rw [toSize_of_lt (by omega), hHalf, pictureSize, hk]
  have hRow : dim.width.toNat * (2 * k) = 2 * (dim.width.toNat * k) := by
    rw [Nat.mul_left_comm]
  rw [Nat.mul_div_cancel_left k Nat.two_pos, hRow]
  omega

/-- An unpadded first plane leaves no room for an offset. -/
theorem self_of_unpadded {width : Word} (hLayout : PictureLayout o w h) (hWidth : width.toNat = w)
    (hRows : 0 < h) (hStride : (o.mp 1).stride = (o.mp 0).stride)
    (hOffset : (o.mp 1).offset = (o.mp 0).offset) (hNeed : isNeedDelPadding o width = false)
    (n : Nat) : picturePos o w h n = n := by
  rw [isNeedDelPadding, Bool.or_eq_false_iff, bne_eq_false_iff_eq, bne_eq_false_iff_eq] at hNeed
  obtain ⟨hStride₀, hLen⟩ := hNeed
  have hWide : (o.mp 0).stride.toNat = w := by rw [hStride₀, hWidth]
  have hArea := area_le hLayout.luma
  have hLt := (o.mp 0).len.isLt
  have hLen : (o.mp 0).len.toNat = w * h := by
    rw [← hLen]
    exact toNat_mul_of_lt hWide hLayout.luma.height_eq (by omega)
  have hLast := row_le hLayout.luma (Nat.sub_one_lt (Nat.ne_of_gt hRows))
  have hAll : (h - 1) * w + w = w * h := by
    rw [← Nat.succ_mul, Nat.succ_eq_add_one, Nat.sub_add_cancel hRows, Nat.mul_comm]
  rw [hWide] at hLast
  have hZero : (o.mp 0).offset.toNat = 0 := by omega
  exact picturePos_self hZero (by rw [hOffset, hZero]) hWide (by rw [hStride, hWide]) hLen n

/-- With or without padding, the frame shows what is made of its picture, and nothing else in it
changes. -/
theorem tsMakeupProcess_shows {dim : CamDimension} {skinBeauty : List UInt8 → List UInt8}
    (hLayout : PictureLayout o dim.width.toNat dim.height.toNat) (hDim : EvenDimension dim)
    (hStride : (o.mp 1).stride = (o.mp 0).stride) (hOffset : (o.mp 1).offset = (o.mp 0).offset)
    (hSmall : dim.width.toNat * dim.height.toNat * 3 < 2 ^ 31)
    (hBeauty : ∀ image, (skinBeauty image).length = image.length)
    (hFrame : o.frameLen.toNat ≤ f) (tempOriBuf pMakeupOutBuf : Nat → UInt8) (frame : Memory f) :
    ∃ frame', tsMakeupProcess true skinBeauty tempOriBuf pMakeupOutBuf dim o frame = some frame' ∧
      picture o dim.width.toNat dim.height.toNat frame' =
        skinBeauty (picture o dim.width.toNat dim.height.toNat frame) ∧
      ∀ a, (∀ n < pictureSize dim.width.toNat dim.height.toNat,
        picturePos o dim.width.toNat dim.height.toNat n ≠ a) → frame'.byte a = frame.byte a := by
  have hSize := makeupSize_eq hDim.height_even hSmall
  rw [tsMakeupProcess]
  generalize toSize (makeupSize dim) = size at hSize ⊢
  subst hSize
  have hLength : (skinBeauty (picture o dim.width.toNat dim.height.toNat frame)).length =
      pictureSize dim.width.toNat dim.height.toNat := by
    rw [hBeauty, picture, List.length_map, List.length_range]
  have hStored : ∀ tmpBuf : Memory (pictureSize dim.width.toNat dim.height.toNat),
      (tmpBuf.write 0 (skinBeauty (picture o dim.width.toNat dim.height.toNat frame))).load 0
        (pictureSize dim.width.toNat dim.height.toNat) =
      some (skinBeauty (picture o dim.width.toNat dim.height.toNat frame)) := by
    intro tmpBuf
    have hLoad := tmpBuf.load_write_self 0
      (skinBeauty (picture o dim.width.toNat dim.height.toNat frame)) (by omega)
    rwa [hLength] at hLoad
  by_cases hNeed : isNeedDelPadding o dim.width = true
  · obtain ⟨packed, hPacked, -, hLoad, -⟩ :=
      hLayout.packed_picture hFrame le_rfl frame ⟨tempOriBuf⟩
    obtain ⟨frame', hBack, hShown, hRest⟩ := hLayout.shown_picture hFrame le_rfl frame
      (Memory.write ⟨pMakeupOutBuf⟩ 0
        (skinBeauty (picture o dim.width.toNat dim.height.toNat frame)))
    refine ⟨frame', ?_, Option.some.inj (hShown.trans (hStored _)), hRest⟩
    simp only [Bool.not_true, Bool.false_eq_true, ↓reduceIte, if_pos hNeed, hPacked, hLoad,
      Option.bind_eq_bind, Option.bind_some]
    rw [Memory.store_of_le (by omega)]
    exact hBack
  · have hSelf := hLayout.self_of_unpadded rfl hDim.height_pos hStride hOffset
      (by simpa using hNeed)
    have hLe := hLayout.size_le.trans hFrame
    let tmpBuf : Memory (pictureSize dim.width.toNat dim.height.toNat) := ⟨pMakeupOutBuf⟩
    obtain ⟨frame', hCopy, hInside, hOutside⟩ := frame.memcpy_spec
      (tmpBuf.write 0 (skinBeauty (picture o dim.width.toNat dim.height.toNat frame))) 0 0
      (pictureSize dim.width.toNat dim.height.toNat) (by omega) (by omega)
    refine ⟨frame', ?_, ?_, ?_⟩
    · simp only [Bool.not_true, Bool.false_eq_true, ↓reduceIte, if_neg hNeed,
        load_picture hLe hSelf, Option.bind_eq_bind, Option.bind_some]
      rw [Memory.store_of_le (by omega)]
      exact hCopy
    · apply Option.some.inj
      rw [← load_picture hLe hSelf, ← hStored ⟨pMakeupOutBuf⟩, Memory.load, Memory.load,
        if_pos (by omega), if_pos (by omega)]
      congr 1
      apply List.map_congr_left
      intro n hn
      exact hInside n (List.mem_range.mp hn)
    · intro a hNot
      apply hOutside
      by_contra hIn
      exact hNot a (by omega) (hSelf a)

end PictureLayout

/-! ### The preview of the application -/

/-- The planes lie behind each other without offsets, and an `int` holds their sizes. -/
structure PreviewLayout (o : FrameLenOffset) (w h : Nat) : Prop extends PictureLayout o w h where
  offset_luma : (o.mp 0).offset.toNat = 0
  offset_chroma : (o.mp 1).offset.toNat = 0
  len_luma : (o.mp 0).len.toNat = (o.mp 0).stride.toNat * (o.mp 0).scanline.toNat
  small : (o.mp 0).stride.toNat * (o.mp 0).scanline.toNat +
    (o.mp 1).stride.toNat * (o.mp 1).scanline.toNat < 2 ^ 31

theorem rowPieces_eq_map (w stride rows src dst : Nat) : rowPieces w stride rows src dst =
    (List.range rows).map fun j => ⟨src + j * stride, dst + j * w, w⟩ := by
  induction rows generalizing src dst with
  | zero => rfl
  | succ rows ih =>
    rw [rowPieces, ih, List.range_succ_eq_map, List.map_cons, List.map_map, Nat.zero_mul,
      Nat.zero_mul]
    congr 1
    apply List.map_congr_left
    intro j _
    simp only [Function.comp_apply, Nat.succ_eq_add_one, Nat.succ_mul, Nat.add_assoc,
      Nat.add_comm stride, Nat.add_comm w]

/-- The place of a row, if it fits an `int`. -/
theorem toSize_row {x y : Word} {j : Nat} (h : y.toNat + j * x.toNat < 2 ^ 31) :
    toSize (BitVec.ofNat 32 j * x + y) = y.toNat + j * x.toNat := by
  have hProduct : (BitVec.ofNat 32 j * x).toNat = j * x.toNat := by
    rw [BitVec.toNat_mul, BitVec.toNat_ofNat, Nat.mod_mul_mod]
    exact Nat.mod_eq_of_lt (by omega)
  have hSum : (BitVec.ofNat 32 j * x + y).toNat = y.toNat + j * x.toNat := by
    rw [BitVec.toNat_add, hProduct, Nat.add_comm, Nat.mod_eq_of_lt (by omega)]
  rw [toSize_of_lt (by omega), hSum]

/-- The loop over the rows copies their pieces. -/
theorem previewRows_eq {f m : Nat} (rows stride width srcBase dstBase : Word)
    (hRows : rows.toNat < 2 ^ 31) (hWidth : width.toNat < 2 ^ 31)
    (hSrc : ∀ j < rows.toNat, srcBase.toNat + j * stride.toNat < 2 ^ 31)
    (hDst : ∀ j < rows.toNat, dstBase.toNat + j * width.toNat < 2 ^ 31) (frame : Memory f)
    (data : Memory m) : previewRows rows stride width srcBase dstBase width frame data =
      frame.copyPieces
        (rowPieces width.toNat stride.toNat rows.toNat srcBase.toNat dstBase.toNat) data := by
  have hPieces : rowPieces width.toNat stride.toNat rows.toNat srcBase.toNat dstBase.toNat =
      (List.range rows.toNat).map fun j => ⟨toSize (BitVec.ofNat 32 j * stride + srcBase),
        toSize (BitVec.ofNat 32 j * width + dstBase), toSize width⟩ := by
    rw [rowPieces_eq_map]
    apply List.map_congr_left
    intro j hj
    have hLt := List.mem_range.mp hj
    rw [toSize_row (hSrc j hLt), toSize_row (hDst j hLt), toSize_of_lt hWidth]
  rw [previewRows, toInt_toNat_of_lt hRows, hPieces, Memory.copyPieces, List.foldlM_map]

/-- A plane of exactly the size of its rows has no padding. -/
theorem width_eq_of_area {w h s c : Nat} (hWidth : w ≤ s) (hHeight : h ≤ c) (hPos : 0 < h)
    (hArea : s * c = w * h) : s = w := by
  have hRows : s * h ≤ s * c := Nat.mul_le_mul_left s hHeight
  exact Nat.le_antisymm (Nat.le_of_mul_le_mul_right (hRows.trans_eq hArea) hPos) hWidth

namespace PreviewLayout

variable {o : FrameLenOffset} {dim : CamDimension} {f : Nat} {fmt : CamFormat}

theorem sizes (hLayout : PreviewLayout o dim.width.toNat dim.height.toNat)
    (hDim : EvenDimension dim) :
    toSize (dim.width * dim.height + dim.width * dim.height.sdiv 2) =
        pictureSize dim.width.toNat dim.height.toNat ∧
      toSize ((o.mp 0).stride * (o.mp 0).scanline + (o.mp 1).stride * (o.mp 1).scanline) =
        (o.mp 0).stride.toNat * (o.mp 0).scanline.toNat +
          (o.mp 1).stride.toNat * (o.mp 1).scanline.toNat := by
  have hSmall := hLayout.small
  have hLuma := Nat.mul_le_mul hLayout.luma.stride hLayout.luma.scanline
  have hChroma := Nat.mul_le_mul hLayout.chroma.stride hLayout.chroma.scanline
  have hHalf := half_eq hDim.height_lt
  have h₀ : (dim.width * dim.height).toNat = dim.width.toNat * dim.height.toNat :=
    toNat_mul_of_lt rfl rfl (by omega)
  have h₁ : (dim.width * dim.height.sdiv 2).toNat = dim.width.toNat * (dim.height.toNat / 2) :=
    toNat_mul_of_lt rfl hHalf (by omega)
  have hSize : (dim.width * dim.height + dim.width * dim.height.sdiv 2).toNat =
      pictureSize dim.width.toNat dim.height.toNat := by
    rw [BitVec.toNat_add, h₀, h₁, pictureSize]
    exact Nat.mod_eq_of_lt (by omega)
  have h₂ : ((o.mp 0).stride * (o.mp 0).scanline).toNat =
      (o.mp 0).stride.toNat * (o.mp 0).scanline.toNat := toNat_mul_of_lt rfl rfl (by omega)
  have h₃ : ((o.mp 1).stride * (o.mp 1).scanline).toNat =
      (o.mp 1).stride.toNat * (o.mp 1).scanline.toNat := toNat_mul_of_lt rfl rfl (by omega)
  have hAreas : ((o.mp 0).stride * (o.mp 0).scanline + (o.mp 1).stride * (o.mp 1).scanline).toNat =
      (o.mp 0).stride.toNat * (o.mp 0).scanline.toNat +
        (o.mp 1).stride.toNat * (o.mp 1).scanline.toNat := by
    rw [BitVec.toNat_add, h₂, h₃]
    exact Nat.mod_eq_of_lt (by omega)
  rw [pictureSize] at hSize ⊢
  exact ⟨by rw [toSize_of_lt (by omega), hSize], by rw [toSize_of_lt (by omega), hAreas]⟩

/-- Where the sizes agree, nothing is padded. -/
theorem self_of_sizes (hLayout : PreviewLayout o dim.width.toNat dim.height.toNat)
    (hDim : EvenDimension dim)
    (hSizes : pictureSize dim.width.toNat dim.height.toNat =
      (o.mp 0).stride.toNat * (o.mp 0).scanline.toNat +
        (o.mp 1).stride.toNat * (o.mp 1).scanline.toNat) (n : Nat) :
    picturePos o dim.width.toNat dim.height.toNat n = n := by
  have hLuma := Nat.mul_le_mul hLayout.luma.stride hLayout.luma.scanline
  have hChroma := Nat.mul_le_mul hLayout.chroma.stride hLayout.chroma.scanline
  rw [pictureSize] at hSizes
  have hArea : (o.mp 0).stride.toNat * (o.mp 0).scanline.toNat =
      dim.width.toNat * dim.height.toNat := by omega
  have hStride₀ :=
    width_eq_of_area hLayout.luma.stride hLayout.luma.scanline hDim.height_pos hArea
  have hStride₁ := width_eq_of_area hLayout.chroma.stride hLayout.chroma.scanline
    hDim.half_height_pos (by omega)
  exact PictureLayout.picturePos_self hLayout.offset_luma hLayout.offset_chroma hStride₀ hStride₁
    (hLayout.len_luma.trans hArea) n

/-- The copy is made piece by piece. -/
theorem previewRows_both (hLayout : PreviewLayout o dim.width.toNat dim.height.toNat)
    (hDim : EvenDimension dim) (frame : Memory f)
    (data : Memory (pictureSize dim.width.toNat dim.height.toNat)) :
    ((previewRows dim.height (o.mp 0).stride dim.width 0 0 dim.width frame data).bind fun data =>
      previewRows (dim.height.sdiv 2) (o.mp 1).stride dim.width
        ((o.mp 0).stride * (o.mp 0).scanline) (dim.width * dim.height) dim.width frame data) =
      frame.copyPieces (picturePieces o dim.width.toNat dim.height.toNat) data := by
  have hSmall := hLayout.small
  have hHalf := half_eq hDim.height_lt
  have hLuma := Nat.mul_le_mul hLayout.luma.stride hLayout.luma.scanline
  have hChroma := Nat.mul_le_mul hLayout.chroma.stride hLayout.chroma.scanline
  have hSrc : ((o.mp 0).stride * (o.mp 0).scanline).toNat =
      (o.mp 0).stride.toNat * (o.mp 0).scanline.toNat := toNat_mul_of_lt rfl rfl (by omega)
  have hDst : (dim.width * dim.height).toNat = dim.width.toNat * dim.height.toNat :=
    toNat_mul_of_lt rfl rfl (by omega)
  have hRow {j n s c : Nat} (hj : j < n) (hn : n ≤ c) : j * s ≤ s * c := by
    rw [Nat.mul_comm]
    exact Nat.mul_le_mul_left s (hj.le.trans hn)
  have hFirst : ∀ data : Memory (pictureSize dim.width.toNat dim.height.toNat), _ = _ :=
    previewRows_eq dim.height (o.mp 0).stride dim.width 0#32 0#32 hDim.height_lt hDim.width_lt
      (fun j hj => by
        have hLe := hRow (s := (o.mp 0).stride.toNat) hj hLayout.luma.scanline
        rw [BitVec.toNat_zero]
        omega)
      (fun j hj => by
        have hLe := hRow (s := dim.width.toNat) hj le_rfl
        rw [BitVec.toNat_zero]
        omega) frame
  have hSecond : ∀ data : Memory (pictureSize dim.width.toNat dim.height.toNat), _ = _ :=
    previewRows_eq (dim.height.sdiv 2) (o.mp 1).stride dim.width
      ((o.mp 0).stride * (o.mp 0).scanline) (dim.width * dim.height) (by omega) hDim.width_lt
      (fun j hj => by
        have hLe := hRow (s := (o.mp 1).stride.toNat) (hHalf ▸ hj) hLayout.chroma.scanline
        omega)
      (fun j hj => by
        have hLe := hRow (s := dim.width.toNat) (hHalf ▸ hj) le_rfl
        omega) frame
  rw [picturePieces, Memory.copyPieces, List.foldlM_append, hLayout.offset_luma,
    hLayout.offset_chroma, hLayout.len_luma, Nat.add_zero, ← hSrc, ← hDst, ← hHalf]
  have hStart := hFirst data
  rw [BitVec.toNat_zero] at hStart
  exact (congrArg (Option.bind · _) hStart).trans (bind_congr fun data => hSecond data)

/-- In both ways the application gets the picture. -/
theorem sendPreviewCallback_eq (hLayout : PreviewLayout o dim.width.toNat dim.height.toNat)
    (hDim : EvenDimension dim) (hFmt : fmt = .yuv420Nv21 ∨ fmt = .yuv420Nv12)
    (hFrame : o.frameLen.toNat ≤ f) (frame : Memory f) :
    sendPreviewCallback fmt dim o frame true =
      some (0, some (picture o dim.width.toNat dim.height.toNat frame)) := by
  obtain ⟨hSize, hAreas⟩ := hLayout.sizes hDim
  have hPos : pictureSize dim.width.toNat dim.height.toNat ≠ 0 := by
    have hArea := Nat.mul_pos hDim.width_pos hDim.height_pos
    rw [pictureSize]
    omega
  have hLe := hLayout.size_le.trans hFrame
  have hSend : sendPreviewCallback fmt dim o frame true = previewData dim o frame true
      (toSize (dim.width * dim.height + dim.width * dim.height.sdiv 2))
      (toSize ((o.mp 0).stride * (o.mp 0).scanline + (o.mp 1).stride * (o.mp 1).scanline)) := by
    obtain rfl | rfl := hFmt
    · rfl
    · rfl
  rw [hSend, hSize, hAreas, previewData]
  by_cases hSizes : pictureSize dim.width.toNat dim.height.toNat =
      (o.mp 0).stride.toNat * (o.mp 0).scanline.toNat +
        (o.mp 1).stride.toNat * (o.mp 1).scanline.toNat
  · have hSelf := hLayout.self_of_sizes hDim hSizes
    rw [if_pos hSizes, if_pos rfl, PictureLayout.load_picture hLe hSelf, Option.map_some,
      if_pos hPos]
  · obtain ⟨data, hData, hCopied⟩ := Memory.copyPieces_spec frame Memory.zero
      (fun p hp => hLayout.within hFrame le_rfl hp) PictureLayout.before
    obtain ⟨hLoad, -⟩ := PictureLayout.copied_picture le_rfl hCopied
    rw [if_neg hSizes, if_pos rfl, hLayout.previewRows_both hDim, hData, Option.bind_some, hLoad,
      Option.map_some]

end PreviewLayout

section Preview

variable {b : BuildFlags} {s : LayoutInfo} {padding : PaddingInfo} {f n : Nat}

theorem calcOffset_preview (hSource : layoutSource s = some (.preview, s.dim))
    (hType : s.streamType = .preview) (hFmt : s.fmt = .yuv420Nv21 ∨ s.fmt = .yuv420Nv12) :
    calcOffset b s padding = (0, nv12Layout s.dim s.bufPlanes 32 2) := by
  have hOnline : s.streamType ≠ .offlineProc := by
    rw [hType]
    decide
  rw [calcOffset_eq hSource, calcOffsetByType, Option.getD_some, calcOffsetPreview]
  obtain hNv21 | hNv12 := hFmt
  · rw [hNv21]
    exact if_pos hOnline
  · rw [hNv12]
    exact if_pos hOnline

theorem pictureLayout_preview (hDim : EvenDimension s.dim)
    (hRoom : NoOverflow s n (nv12Layout s.dim s.bufPlanes 32 2)) :
    PictureLayout (nv12Layout s.dim s.bufPlanes 32 2) s.dim.width.toNat s.dim.height.toNat where
  two := rfl
  luma := nv12_sound hDim ⟨5, rfl⟩ ⟨1, rfl⟩ hRoom 0 Nat.zero_lt_two
  chroma := nv12_sound hDim ⟨5, rfl⟩ ⟨1, rfl⟩ hRoom 1 Nat.one_lt_two
  fits := (laid_nv12 32 2).fits hRoom.frame
  width_lt := hDim.width_lt
  height_lt := hDim.height_lt

theorem previewLayout_preview (hDim : EvenDimension s.dim)
    (hRoom : NoOverflow s n (nv12Layout s.dim s.bufPlanes 32 2))
    (hSmall : planeStart (nv12Layout s.dim s.bufPlanes 32 2) 2 < 2 ^ 31) :
    PreviewLayout (nv12Layout s.dim s.bufPlanes 32 2) s.dim.width.toNat s.dim.height.toNat where
  toPictureLayout := pictureLayout_preview hDim hRoom
  offset_luma := rfl
  offset_chroma := rfl
  len_luma := toNat_mul_of_lt rfl rfl (hRoom.area Nat.zero_lt_two)
  small := by
    have hLuma := (nv12_sound hDim ⟨5, rfl⟩ ⟨1, rfl⟩ hRoom 0 Nat.zero_lt_two).len
    have hChroma := (nv12_sound hDim ⟨5, rfl⟩ ⟨1, rfl⟩ hRoom 1 Nat.one_lt_two).len
    have hSum : planeStart (nv12Layout s.dim s.bufPlanes 32 2) 2 =
        ((nv12Layout s.dim s.bufPlanes 32 2).mp 0).len.toNat +
          ((nv12Layout s.dim s.bufPlanes 32 2).mp 1).len.toNat := by
      simp [planeStart, placeOf]
    omega

/-- For a preview as the stack lays it out, the application gets the picture that
`yuvDataRelocate` packs, whether the buffer itself is handed over or a copy. -/
theorem preview_shown (b : BuildFlags) (s : LayoutInfo) (padding : PaddingInfo)
    (hSource : layoutSource s = some (.preview, s.dim))
    (hType : s.streamType = .preview) (hFmt : s.fmt = .yuv420Nv21 ∨ s.fmt = .yuv420Nv12)
    (hDim : EvenDimension s.dim) (hRoom : NoOverflow s 1 (calcOffset b s padding).2)
    (hSmall : planeStart (calcOffset b s padding).2 2 < 2 ^ 31)
    (hFrame : (calcOffset b s padding).2.frameLen.toNat ≤ f) (frame : Memory f)
    (image : Memory (pictureSize s.dim.width.toNat s.dim.height.toNat)) :
    ∃ data packed, data.length = pictureSize s.dim.width.toNat s.dim.height.toNat ∧
      sendPreviewCallback s.fmt s.dim (calcOffset b s padding).2 frame true =
        some (0, some data) ∧
      yuvDataRelocate frame image (calcOffset b s padding).2 = some packed ∧
      packed.load 0 (pictureSize s.dim.width.toNat s.dim.height.toNat) = some data := by
  rw [calcOffset_preview hSource hType hFmt] at hRoom hSmall hFrame ⊢
  have hLayout := previewLayout_preview hDim hRoom hSmall
  obtain ⟨packed, hPacked, -, hLoad, -⟩ :=
    hLayout.packed_picture hFrame le_rfl frame image
  exact ⟨_, packed, Memory.load_length hLoad, hLayout.sendPreviewCallback_eq hDim hFmt hFrame frame,
    hPacked, hLoad⟩

end Preview

/-- A preview with padded lines and rows. -/
def paddedStream : LayoutInfo :=
  { nv12Stream .preview with dim := { width := 656, height := 362 } }

def paddedPreview : FrameLenOffset := (calcOffset plainChip paddedStream pagePadding).2

theorem paddedStream_even : EvenDimension paddedStream.dim where
  width_pos := by decide
  width_even := by decide
  width_lt := by decide
  height_pos := by decide
  height_even := by decide
  height_lt := by decide

theorem paddedPreview_room : NoOverflow paddedStream 1 paddedPreview where
  strides := by decide
  scanlines := by decide
  products := by decide
  frame := Nat.le_of_ble_eq_true rfl

theorem paddedPreview_layout : PictureLayout paddedPreview 656 362 :=
  pictureLayout_preview paddedStream_even paddedPreview_room

theorem relocate_recover_padded : ∃ packed : Memory 356208,
    yuvDataRelocate (Memory.zero : Memory 368640) Memory.zero paddedPreview = some packed ∧
      yuvDataRecover packed (Memory.zero : Memory 368640) paddedPreview = some Memory.zero := by
  obtain ⟨⟨packed, hPacked, -, -, hBack⟩, -⟩ := paddedPreview_layout.relocate_recover
    (Nat.le_of_ble_eq_true rfl) (Nat.le_of_ble_eq_true rfl) (Memory.zero : Memory 368640)
    (Memory.zero : Memory 356208)
  exact ⟨packed, hPacked, hBack⟩

theorem tsMakeupProcess_shows_padded : ∃ frame' : Memory 368640,
    tsMakeupProcess true List.reverse (fun _ => 0) (fun _ => 0) paddedStream.dim paddedPreview
        Memory.zero = some frame' ∧
      picture paddedPreview 656 362 frame' =
        (picture paddedPreview 656 362 (Memory.zero : Memory 368640)).reverse := by
  obtain ⟨frame', hDone, hShown, -⟩ := PictureLayout.tsMakeupProcess_shows paddedPreview_layout
    paddedStream_even rfl rfl (by decide) (fun image => image.length_reverse)
    (Nat.le_of_ble_eq_true rfl) (fun _ => 0) (fun _ => 0) (Memory.zero : Memory 368640)
  exact ⟨frame', hDone, hShown⟩

theorem preview_shown_padded : ∃ data, data.length = 356208 ∧
    sendPreviewCallback .yuv420Nv12 paddedStream.dim paddedPreview
      (Memory.zero : Memory 368640) true = some (0, some data) := by
  obtain ⟨data, -, hLength, hSent, -⟩ := preview_shown plainChip paddedStream pagePadding rfl rfl
    (.inr rfl) paddedStream_even paddedPreview_room (Nat.le_of_ble_eq_true rfl)
    (Nat.le_of_ble_eq_true rfl) (Memory.zero : Memory 368640) Memory.zero
  exact ⟨data, hLength, hSent⟩

end KiwiDevice.Hal

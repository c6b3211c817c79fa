import KiwiDevice.Camera.FrameSizes

/-!
# Raw frames

The layout of a raw frame against the packings that `cam_types.h` documents: every scanline takes a
multiple of 16 bytes.
-/

namespace KiwiDevice.Camera

open Lib

/-- How the pixels of a scanline lie in memory. -/
inductive RawPacking where
  | packedYuv
  | byte8
  | qcom10
  | qcom12
  | mipi10
  | mipi12
  | plain16
  deriving DecidableEq

/-- The formats of a raw stream. The two opaque ones are laid out as packed YUV. -/
def rawPacking : CamFormat → Option RawPacking
  | .yuvRaw8Bit _ | .jpegRaw8Bit | .metaRaw8Bit => some .packedYuv
  | .bayer .qcom8 _ | .bayer .mipi8 _ | .bayer .idealQcom8 _ | .bayer .idealMipi8 _
  | .bayer .idealPlain8 _ => some .byte8
  | .bayer .qcom10 _ | .bayer .idealQcom10 _ => some .qcom10
  | .bayer .qcom12 _ | .bayer .idealQcom12 _ => some .qcom12
  | .bayer .mipi10 _ | .bayer .idealMipi10 _ => some .mipi10
  | .bayer .mipi12 _ | .bayer .idealMipi12 _ => some .mipi12
  | .bayer .idealPlain16Of8 _ | .bayer .idealPlain16Of10 _ | .bayer .idealPlain16Of12 _ =>
    some .plain16
  | _ => none

namespace RawPacking

/-- The widths that the documentation of the format allows. -/
def Admits : RawPacking → Nat → Prop
  | mipi10, w => 4 ∣ w
  | mipi12, w => 2 ∣ w
  | _, _ => True

/-- The bytes that a line of `w` pixels needs: two bytes a pixel, 64-bit words of 6 or 5 pixels,
5 bytes for 4 pixels, or 3 bytes for 2. -/
def pixelBytes : RawPacking → Nat → Nat
  | packedYuv, w | plain16, w => 2 * w
  | byte8, w => w
  | qcom10, w => (w + 5) / 6 * 8
  | qcom12, w => (w + 4) / 5 * 8
  | mipi10, w => w / 4 * 5
  | mipi12, w => w / 2 * 3

/-- The bytes set aside for a line; the stride counts bytes for MIPI 10bpp and pixels otherwise. -/
def lineBytes : RawPacking → Nat → Nat
  | packedYuv, stride | plain16, stride => 2 * stride
  | byte8, stride | mipi10, stride => stride
  | qcom10, stride => stride / 6 * 8
  | qcom12, stride => stride / 5 * 8
  | mipi12, stride => stride / 2 * 3

/-- The stride and the size of the frame as the branches of the function compute them. -/
def words (dim : CamDimension) : RawPacking → Word × Word
  | packedYuv => (padToSize dim.width 16, padToSize dim.width 16 * dim.height * 2)
  | byte8 => (padToSize dim.width 16, padToSize dim.width 16 * dim.height)
  | qcom10 =>
    ((dim.width + 11).sdiv 12 * 12, ((dim.width + 11).sdiv 12 * 12 * dim.height * 8).sdiv 6)
  | qcom12 =>
    ((dim.width + 9).sdiv 10 * 10, ((dim.width + 9).sdiv 10 * 10 * dim.height * 8).sdiv 5)
  | mipi10 =>
    (padToSize ((dim.width * 5).sdiv 4) 8, padToSize ((dim.width * 5).sdiv 4) 8 * dim.height)
  | mipi12 => (padToSize dim.width 32, (padToSize dim.width 32 * dim.height * 3).sdiv 2)
  | plain16 => (padToSize dim.width 8, padToSize dim.width 8 * dim.height * 2)

/-- The same without a width of the words. -/
def stride : RawPacking → Nat → Nat
  | packedYuv, w | byte8, w => roundUp w 16
  | qcom10, w => (w + 11) / 12 * 12
  | qcom12, w => (w + 9) / 10 * 10
  | mipi10, w => roundUp (w * 5 / 4) 8
  | mipi12, w => roundUp w 32
  | plain16, w => roundUp w 8

def factor : RawPacking → Nat
  | packedYuv | plain16 => 2
  | byte8 | mipi10 => 1
  | qcom10 | qcom12 => 8
  | mipi12 => 3

def divisor : RawPacking → Nat
  | qcom10 => 6
  | qcom12 => 5
  | mipi12 => 2
  | _ => 1

def size (p : RawPacking) (w h : Nat) : Nat := p.stride w * h * p.factor / p.divisor

/-- Nothing that the function computes wraps around. -/
structure InRange (p : RawPacking) (w h planePadding : Nat) : Prop where
  scaled : p = mipi10 → w * 5 < 2 ^ 31
  product : p.stride w * h * p.factor < 2 ^ 31
  padded : p.size w h + (planePadding - 1) < 2 ^ 32
  page : roundUp (p.size w h) planePadding + 4095 < 2 ^ 32

end RawPacking

theorem rawSize_eq (s : LayoutInfo) (dim : CamDimension) :
    rawSize s dim = (rawPacking s.fmt).map (RawPacking.words dim) := by
  rw [rawSize]
  cases s.fmt with
  | bayer kind pattern => cases kind <;> rfl
  | _ => rfl

namespace RawPacking

variable {p : RawPacking} {w h planePadding : Nat} {dim : CamDimension}

/-! ### The words hold the numbers -/

theorem factor_pos (p : RawPacking) : 0 < p.factor := by
  cases p <;> decide

theorem InRange.line_lt (hRange : p.InRange w h planePadding) (hHeight : 0 < h) :
    p.stride w * p.factor < 2 ^ 31 := by
  have hProduct := hRange.product
  rw [Nat.mul_right_comm] at hProduct
  exact lt_of_le_of_lt (Nat.le_mul_of_pos_right _ hHeight) hProduct

theorem InRange.stride_lt (hRange : p.InRange w h planePadding) (hHeight : 0 < h) :
    p.stride w < 2 ^ 31 :=
  lt_of_le_of_lt (Nat.le_mul_of_pos_right _ p.factor_pos) (hRange.line_lt hHeight)

theorem InRange.area_lt (hRange : p.InRange w h planePadding) : p.stride w * h < 2 ^ 31 :=
  lt_of_le_of_lt (Nat.le_mul_of_pos_right _ p.factor_pos) hRange.product

theorem toNat_stride (hRange : p.InRange dim.width.toNat dim.height.toNat planePadding)
    (hHeight : 0 < dim.height.toNat) : (p.words dim).1.toNat = p.stride dim.width.toNat := by
  have hStride := hRange.stride_lt hHeight
  have hLine := hRange.line_lt hHeight
  have hRound (a : Nat) (ha : 0 < a) (hLt : roundUp dim.width.toNat a < 2 ^ 31) :
      dim.width.toNat < 2 ^ 31 := lt_of_le_of_lt (self_le_roundUp ha _) hLt
  cases p with
  | packedYuv =>
    have hWidth := hRound 16 (by decide) hStride
    exact toNat_padToSize rfl (k := 4) rfl (by omega)
  | byte8 =>
    have hWidth := hRound 16 (by decide) hStride
    exact toNat_padToSize rfl (k := 4) rfl (by omega)
  | qcom10 =>
    simp only [stride, factor] at hLine
    have hSum : (dim.width + 11).toNat = dim.width.toNat + 11 := toNat_add_of_lt rfl rfl (by omega)
    have hQuot : ((dim.width + 11).sdiv 12).toNat = (dim.width.toNat + 11) / 12 :=
      (toNat_sdiv_of_lt (by omega) (by decide)).trans (by rw [hSum]; rfl)
    exact toNat_mul_of_lt hQuot rfl (by omega)
  | qcom12 =>
    simp only [stride, factor] at hLine
    have hSum : (dim.width + 9).toNat = dim.width.toNat + 9 := toNat_add_of_lt rfl rfl (by omega)
    have hQuot : ((dim.width + 9).sdiv 10).toNat = (dim.width.toNat + 9) / 10 :=
      (toNat_sdiv_of_lt (by omega) (by decide)).trans (by rw [hSum]; rfl)
    exact toNat_mul_of_lt hQuot rfl (by omega)
  | mipi10 =>
    have hScaled := hRange.scaled rfl
    have hProduct : (dim.width * 5).toNat = dim.width.toNat * 5 :=
      toNat_mul_of_lt rfl rfl (by omega)
    have hQuot : ((dim.width * 5).sdiv 4).toNat = dim.width.toNat * 5 / 4 :=
      (toNat_sdiv_of_lt (by omega) (by decide)).trans (by rw [hProduct]; rfl)
    exact toNat_padToSize hQuot (k := 3) rfl (by omega)
  | mipi12 =>
    have hWidth := hRound 32 (by decide) hStride
    exact toNat_padToSize rfl (k := 5) rfl (by omega)
  | plain16 =>
    have hWidth := hRound 8 (by decide) hStride
    exact toNat_padToSize rfl (k := 3) rfl (by omega)

theorem toNat_size (hRange : p.InRange dim.width.toNat dim.height.toNat planePadding)
    (hHeight : 0 < dim.height.toNat) :
    (p.words dim).2.toNat = p.size dim.width.toNat dim.height.toNat := by
  have hProduct := hRange.product
  have hArea : ((p.words dim).1 * dim.height).toNat = p.stride dim.width.toNat * dim.height.toNat :=
    toNat_mul_of_lt (toNat_stride hRange hHeight) rfl (lt_trans hRange.area_lt (by decide))
  have hTimes (c : Word) (hFactor : c.toNat = p.factor) :
      ((p.words dim).1 * dim.height * c).toNat =
        p.stride dim.width.toNat * dim.height.toNat * p.factor :=
    toNat_mul_of_lt hArea hFactor (lt_trans hProduct (by decide))
  have hShare (c d : Word) (hFactor : c.toNat = p.factor) (hDivisor : d.toNat = p.divisor) :
      (((p.words dim).1 * dim.height * c).sdiv d).toNat =
        p.size dim.width.toNat dim.height.toNat := by
    have hLt : d.toNat < 2 ^ 31 := by
      rw [hDivisor]
      cases p <;> decide
    rw [toNat_sdiv_of_lt (by rw [hTimes c hFactor]; exact hProduct) hLt, hTimes c hFactor, hDivisor,
      size]
  cases p with
  | packedYuv => exact (hTimes 2 rfl).trans (Nat.div_one _).symm
  | byte8 => exact hArea.trans (by simp [size, factor, divisor])
  | qcom10 => exact hShare 8 6 rfl rfl
  | qcom12 => exact hShare 8 5 rfl rfl
  | mipi10 => exact hArea.trans (by simp [size, factor, divisor])
  | mipi12 => exact hShare 3 2 rfl rfl
  | plain16 => exact (hTimes 2 rfl).trans (Nat.div_one _).symm

/-! ### Scanlines -/

theorem pixelBytes_le (hAdmits : p.Admits w) : p.pixelBytes w ≤ p.lineBytes (p.stride w) := by
  cases p with
  | packedYuv => exact Nat.mul_le_mul_left 2 (self_le_roundUp (by decide) w)
  | byte8 => exact self_le_roundUp (by decide) w
  | qcom10 => simp only [pixelBytes, lineBytes, stride]; omega
  | qcom12 => simp only [pixelBytes, lineBytes, stride]; omega
  | mipi10 =>
    have hLe := self_le_roundUp (a := 8) (by decide) (w * 5 / 4)
    simp only [pixelBytes, lineBytes, stride]
    omega
  | mipi12 =>
    have hLe := self_le_roundUp (a := 32) (by decide) w
    simp only [pixelBytes, lineBytes, stride]
    omega
  | plain16 => exact Nat.mul_le_mul_left 2 (self_le_roundUp (by decide) w)

/-- The stride is a whole number of the groups that the pixels are packed in. -/
theorem dvd_stride (p : RawPacking) (w : Nat) : p.divisor ∣ p.stride w := by
  cases p with
  | qcom10 => exact Dvd.dvd.mul_left (by decide) _
  | qcom12 => exact Dvd.dvd.mul_left (by decide) _
  | mipi12 => exact dvd_trans (by decide) (dvd_roundUp w 32)
  | _ => exact one_dvd _

theorem lineBytes_eq (p : RawPacking) (w : Nat) :
    p.lineBytes (p.stride w) = p.stride w / p.divisor * p.factor := by
  cases p with
  | packedYuv => exact (Nat.mul_comm _ _).trans (congrArg (· * 2) (Nat.div_one _).symm)
  | plain16 => exact (Nat.mul_comm _ _).trans (congrArg (· * 2) (Nat.div_one _).symm)
  | byte8 => exact (Nat.div_one _).symm.trans (Nat.mul_one _).symm
  | mipi10 => exact (Nat.div_one _).symm.trans (Nat.mul_one _).symm
  | _ => rfl

/-- The division of the whole frame loses nothing. -/
theorem size_eq (p : RawPacking) (w h : Nat) : p.size w h = h * p.lineBytes (p.stride w) := by
  have hPos : 0 < p.divisor := by cases p <;> decide
  obtain ⟨q, hGroups⟩ := p.dvd_stride w
  rw [lineBytes_eq, size, hGroups, Nat.mul_div_cancel_left q hPos, Nat.mul_assoc, Nat.mul_assoc,
    Nat.mul_div_cancel_left _ hPos]
  exact Nat.mul_left_comm q h p.factor

/-- MIPI 10bpp is padded to 8 bytes only. -/
theorem dvd_lineBytes_iff (p : RawPacking) (w : Nat) :
    16 ∣ p.lineBytes (p.stride w) ↔
      (p = mipi10 → w * 5 / 4 % 16 = 0 ∨ 8 < w * 5 / 4 % 16) := by
  cases p with
  | packedYuv => simp [lineBytes, stride, Dvd.dvd.mul_left (dvd_roundUp w 16) 2]
  | byte8 => simp [lineBytes, stride, dvd_roundUp w 16]
  | qcom10 =>
    simp only [lineBytes, stride, reduceCtorEq, false_imp_iff, iff_true]
    omega
  | qcom12 =>
    simp only [lineBytes, stride, reduceCtorEq, false_imp_iff, iff_true]
    omega
  | mipi10 =>
    simp only [lineBytes, stride, roundUp, forall_const]
    generalize w * 5 / 4 = bytes
    omega
  | mipi12 =>
    obtain ⟨q, hPad⟩ := dvd_roundUp w 32
    simp only [lineBytes, stride, hPad, reduceCtorEq, false_imp_iff, iff_true]
    omega
  | plain16 =>
    obtain ⟨q, hPad⟩ := dvd_roundUp w 8
    simp only [lineBytes, stride, hPad, reduceCtorEq, false_imp_iff, iff_true]
    omega

end RawPacking

/-- The law of a raw frame. -/
structure RawLaw (p : RawPacking) (w h : Nat) (r : Int × FrameLenOffset) : Prop where
  ok : r.1 = 0
  one_plane : r.2.numPlanes = 1
  holds : p.pixelBytes w ≤ p.lineBytes (r.2.mp 0).stride.toNat
  aligned : 16 ∣ p.lineBytes (r.2.mp 0).stride.toNat
  len : h * p.lineBytes (r.2.mp 0).stride.toNat ≤ (r.2.mp 0).len.toNat
  page : 4096 ∣ r.2.frameLen.toNat
  frame : (r.2.mp 0).len.toNat ≤ r.2.frameLen.toNat

theorem calcOffsetRaw_law (s : LayoutInfo) (dim : CamDimension) (padding : PaddingInfo)
    (o : FrameLenOffset) (p : RawPacking) (hPacking : rawPacking s.fmt = some p)
    (hHeight : 0 < dim.height.toNat) (hAdmits : p.Admits dim.width.toNat)
    (hPow : ∃ k, padding.planePadding.toNat = 2 ^ k)
    (hRange : p.InRange dim.width.toNat dim.height.toNat padding.planePadding.toNat) :
    RawLaw p dim.width.toNat dim.height.toNat (calcOffsetRaw s dim padding o) ↔
      (p = .mipi10 → dim.width.toNat * 5 / 4 % 16 = 0 ∨ 8 < dim.width.toNat * 5 / 4 % 16) := by
  obtain ⟨k, hPow⟩ := hPow
  have hStride := RawPacking.toNat_stride hRange hHeight
  have hSize := RawPacking.toNat_size hRange hHeight
  have hLen : (padToSize (p.words dim).2 padding.planePadding).toNat =
      roundUp (p.size dim.width.toNat dim.height.toNat) padding.planePadding.toNat := by
    have hPadded := hRange.padded
    rw [hPow] at hPadded ⊢
    exact toNat_padToSize hSize hPow hPadded
  have hPage := hRange.page
  rw [← hLen] at hPage
  have hFrame := toNat_padToSize (p := 4096) (k := 12) rfl rfl hPage
  have hPos : 0 < padding.planePadding.toNat := by
    rw [hPow]
    exact Nat.two_pow_pos k
  rw [← RawPacking.dvd_lineBytes_iff, calcOffsetRaw, rawSize_eq, hPacking, Option.map_some,
    ← hStride]
  constructor
  · exact RawLaw.aligned
  · intro hAligned
    constructor
    · rfl
    · rfl
    · exact (RawPacking.pixelBytes_le hAdmits).trans_eq (by rw [← hStride]; rfl)
    · exact hAligned
    · have hLines := RawPacking.size_eq p dim.width.toNat dim.height.toNat
      rw [← hStride] at hLines
      exact hLines.symm.trans_le ((self_le_roundUp hPos _).trans_eq hLen.symm)
    · exact (dvd_roundUp _ (2 ^ 12)).trans (dvd_of_eq hFrame.symm)
    · exact (self_le_roundUp (Nat.two_pow_pos 12) _).trans_eq hFrame.symm

/-- A raw stream of a format, 644 pixels wide. -/
def rawStream (fmt : CamFormat) : LayoutInfo where
  streamType := .raw
  fmt := fmt
  dim := { width := 644, height := 484 }
  featureMask := 0
  turned := false
  reprocess := .online .default
  ppFeatureMask := 0
  tpMetaMaxSize := 0
  bufPlanes := noPlanes

theorem qcom10_raw_law : RawLaw .qcom10 644 484
    (calcOffsetRaw (rawStream (.bayer .qcom10 .gbrg)) { width := 644, height := 484 } pagePadding
      noPlanes) :=
  (calcOffsetRaw_law (rawStream (.bayer .qcom10 .gbrg)) { width := 644, height := 484 } pagePadding
    noPlanes .qcom10 rfl (by decide) trivial ⟨12, rfl⟩
    ⟨by decide, by decide, by decide, by decide⟩).mpr (by decide)

/-- Lines of 644 pixels are 808 bytes apart. -/
theorem mipi10_unaligned : ¬∀ (s : LayoutInfo) (dim : CamDimension) (padding : PaddingInfo)
    (o : FrameLenOffset) (p : RawPacking), rawPacking s.fmt = some p → 0 < dim.height.toNat →
    p.Admits dim.width.toNat → (∃ k, padding.planePadding.toNat = 2 ^ k) →
    p.InRange dim.width.toNat dim.height.toNat padding.planePadding.toNat →
    RawLaw p dim.width.toNat dim.height.toNat (calcOffsetRaw s dim padding o) := by
  intro hAll
  have hLaw := hAll (rawStream (.bayer .mipi10 .gbrg)) { width := 644, height := 484 } pagePadding
    noPlanes .mipi10 rfl (by decide) ⟨161, rfl⟩ ⟨12, rfl⟩
    ⟨by decide, by decide, by decide, by decide⟩
  exact absurd hLaw.aligned (by decide)

end KiwiDevice.Camera

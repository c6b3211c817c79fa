import KiwiDevice.Camera.FrameSizes
import Mathlib.Tactic.IntervalCases

/-!
# The planes of a YUV frame

What the layouts of `mm_stream_calc_offset` have to say about each plane: its lines are long enough,
its rows fit behind its offset, and its size is written. On an A-family chip the offset of a snapshot
plane is rounded up on its own, so the rows behind it can end beyond the plane.
-/

namespace KiwiDevice.Camera

open Lib

/-- The type and the size that the layout is for: those of the stream, turned for a rotation, or
those of the source of a reprocess stream. A layout that is copied has none. -/
def layoutSource (s : LayoutInfo) : Option (CamStreamType × CamDimension) :=
  match s.streamType with
  | .offlineProc =>
    match s.reprocess with
    | .offline .default _ => none
    | .offline type _ => some (type, s.dim)
    | .online type => some (type, s.dim)
  | type =>
    if s.featureMask &&& featureRotation ≠ 0 ∧ s.streamType ≠ .video ∧ s.turned then
      some (type, { width := s.dim.height, height := s.dim.width })
    else some (type, s.dim)

/-! The sizes of the planes without padding. -/

def nv12Size (w h i : Nat) : Nat × Nat := if i = 0 then (w, h) else (w, h / 2)

def yv12Size (w h i : Nat) : Nat × Nat := if i = 0 then (w, h) else (w / 2, h / 2)

def fullSize (w h _ : Nat) : Nat × Nat := (w, h)

/-- Video is laid out as NV12, whatever its format. -/
def planeSize (type : CamStreamType) (fmt : CamFormat) : Nat → Nat → Nat → Nat × Nat :=
  match type, fmt with
  | .metadata, _ => fullSize
  | .video, _ => nv12Size
  | _, .yuv420Yv12 => yv12Size
  | _, .yuv422Nv16 | _, .yuv422Nv61 => fullSize
  | _, _ => nv12Size

structure PlaneSound (p : MpLenOffset) (w h : Nat) : Prop where
  stride : w ≤ p.stride.toNat
  scanline : h ≤ p.scanline.toNat
  len : p.stride.toNat * p.scanline.toNat ≤ p.len.toNat
  visible : p.offset.toNat + p.stride.toNat * (h - 1) + w ≤ p.len.toNat
  width_eq : p.width.toNat = w
  height_eq : p.height.toNat = h

def PlanesSound (size : Nat → Nat × Nat) (o : FrameLenOffset) : Prop :=
  ∀ i < o.numPlanes, PlaneSound (o.mp i) (size i).1 (size i).2

structure LayoutSound (type : CamStreamType) (fmt : CamFormat) (dim : CamDimension)
    (o : FrameLenOffset) : Prop where
  planes : PlanesSound (planeSize type fmt dim.width.toNat dim.height.toNat) o
  frame : FitsFrame o
  page : type ≠ .metadata → 4096 ∣ o.frameLen.toNat

structure EvenDimension (dim : CamDimension) : Prop where
  width_pos : 0 < dim.width.toNat
  width_even : 2 ∣ dim.width.toNat
  width_lt : dim.width.toNat < 2 ^ 31
  height_pos : 0 < dim.height.toNat
  height_even : 2 ∣ dim.height.toNat
  height_lt : dim.height.toNat < 2 ^ 31

structure PowerPadding (padding : PaddingInfo) : Prop where
  width : ∃ k, padding.widthPadding.toNat = 2 ^ k
  height : ∃ k, padding.heightPadding.toNat = 2 ^ k
  plane : ∃ k, padding.planePadding.toNat = 2 ^ k

/-- What the length of a plane is rounded up to. -/
def lenPadding (type : CamStreamType) (fmt : CamFormat) (padding : PaddingInfo) : Nat :=
  match type, fmt with
  | .snapshot, _ | .metadata, _ => padding.planePadding.toNat
  | .video, _ => 2048
  | _, .yuv420Nv21Adreno => 4096
  | _, _ => 1

/-- Strides and scanlines fit an `int`, the length of every plane a word, and so does the frame. -/
structure NoOverflow (s : LayoutInfo) (lenPadding : Nat) (o : FrameLenOffset) : Prop where
  strides : ∀ i < o.numPlanes, (o.mp i).stride.toNat < 2 ^ 31
  scanlines : ∀ i < o.numPlanes, (o.mp i).scanline.toNat < 2 ^ 31
  products : ∀ i < o.numPlanes,
    (o.mp i).stride.toNat * (o.mp i).scanline.toNat + (lenPadding - 1) < 2 ^ 32
  frame : Roomy s o

/-- The stride and scanlines of a plane, and its size without padding. -/
structure PlaneShape where
  stride : Nat
  scanline : Nat
  row : Nat
  rows : Nat

/-- The planes of a snapshot that differ, from the stride and scanlines of the first. -/
def snapshotPlanes (fmt : CamFormat) (w h stride scanline : Nat) : List PlaneShape :=
  match fmt with
  | .yuv420Yv12 =>
    [⟨stride, scanline, w, h⟩, ⟨roundUp (stride / 2) 16, scanline / 2, w / 2, h / 2⟩]
  | .yuv422Nv16 | .yuv422Nv61 => [⟨stride, scanline, w, h⟩]
  | _ => [⟨stride, scanline, w, h⟩, ⟨stride, scanline / 2, w, h / 2⟩]

/-- The rows that the offset skips end on a multiple of the padding, or the last multiple within the
plane leaves room for the visible rows. -/
def PlaneShape.Fits (g : PlaneShape) (planePadding offsetY : Nat) : Prop :=
  g.stride * offsetY % planePadding = 0 ∨
    roundUp (g.stride * (g.rows - 1) + g.row) planePadding <
      g.stride * offsetY % planePadding + (g.stride * g.scanline - g.stride * offsetY)

/-- On an A-family chip the rows of the last macroblock that are not in the picture lie before it,
and once more behind it. -/
def SnapshotFits (padding : PaddingInfo) (fmt : CamFormat) (w h : Nat) : Prop :=
  ∀ g ∈ snapshotPlanes fmt w h w (roundUp h 16 + (roundUp h 16 - h)),
    g.Fits padding.planePadding.toNat (roundUp h 16 - h)

/-- Where the layout is sound. Video without Venus writes the size of the second plane over that of
the first, and the Venus format does not halve the height of the second. -/
def SoundWhen (b : BuildFlags) (type : CamStreamType) (fmt : CamFormat) (padding : PaddingInfo)
    (w h : Nat) : Prop :=
  match type with
  | .preview | .postview => fmt ≠ .yuv420Nv12Venus
  | .snapshot => b.isAFamily = true → SnapshotFits padding fmt w h
  | .video => False
  | _ => True

variable {b : BuildFlags} {s : LayoutInfo} {dim : CamDimension} {padding : PaddingInfo}
  {o : FrameLenOffset} {type : CamStreamType} {fmt : CamFormat}

theorem calcOffset_offline (hOffline : s.streamType = .offlineProc) :
    calcOffset b s padding = calcOffsetPostproc b s padding s.bufPlanes := by
  rw [calcOffset, hOffline]

theorem calcOffset_online (hOnline : s.streamType ≠ .offlineProc) :
    calcOffset b s padding =
      (calcOffsetByType b s
        (if s.featureMask &&& featureRotation ≠ 0 ∧ s.streamType ≠ .video ∧ s.turned then
          { width := s.dim.height, height := s.dim.width }
        else s.dim)
        padding s.bufPlanes s.streamType).getD (-1, s.bufPlanes) := by
  rw [calcOffset]
  split
  · rename_i hOffline
    exact absurd hOffline hOnline
  · rfl

theorem layoutSource_online (hOnline : s.streamType ≠ .offlineProc) :
    layoutSource s = some (s.streamType,
      if s.featureMask &&& featureRotation ≠ 0 ∧ s.streamType ≠ .video ∧ s.turned then
        { width := s.dim.height, height := s.dim.width }
      else s.dim) := by
  rw [layoutSource]
  split
  · rename_i hOffline
    exact absurd hOffline hOnline
  · rw [← apply_ite some, ← apply_ite (Prod.mk s.streamType)]

theorem calcOffset_eq (hSource : layoutSource s = some (type, dim)) :
    calcOffset b s padding =
      (calcOffsetByType b s dim padding s.bufPlanes type).getD (-1, s.bufPlanes) := by
  by_cases hOffline : s.streamType = .offlineProc
  · rw [calcOffset_offline hOffline]
    cases hReprocess : s.reprocess with
    | online input =>
      simp only [layoutSource, hOffline, hReprocess] at hSource
      cases hSource
      simp only [calcOffsetPostproc, hReprocess]
    | offline input planes =>
      simp only [layoutSource, hOffline, hReprocess] at hSource
      simp only [calcOffsetPostproc, hReprocess]
      cases input with
      | default => cases hSource
      | _ =>
        cases hSource
        rfl
  · rw [layoutSource_online hOffline] at hSource
    cases hSource
    exact calcOffset_online hOffline

/-! ### One plane -/

section Plane

variable {stride scanline width height x p : Word} {w h : Nat}

theorem pad_eq (hPow : ∃ k, p.toNat = 2 ^ k) (hLt : x.toNat < 2 ^ 31) :
    (padToSize x p).toNat = roundUp x.toNat p.toNat := by
  obtain ⟨k, hPow⟩ := hPow
  have hHalf : 2 ^ k ≤ 2 ^ 31 := by
    have hWidth := p.isLt
    rw [hPow] at hWidth
    have hExponent : k < 32 := (Nat.pow_lt_pow_iff_right (by decide)).mp hWidth
    exact Nat.pow_le_pow_right (by decide) (Nat.le_of_lt_succ hExponent)
  rw [hPow]
  exact toNat_padToSize rfl hPow (by omega)

theorem le_pad (hPow : ∃ k, p.toNat = 2 ^ k) (hLt : x.toNat < 2 ^ 31) :
    x.toNat ≤ (padToSize x p).toNat := by
  rw [pad_eq hPow hLt]
  obtain ⟨k, hPow⟩ := hPow
  exact self_le_roundUp (by rw [hPow]; exact Nat.two_pow_pos k) _

theorem half_eq (hLt : x.toNat < 2 ^ 31) : (x.sdiv 2).toNat = x.toNat / 2 :=
  toNat_sdiv_of_lt hLt (by decide)

theorem page_dvd (x : Word) : 4096 ∣ (padToSize x 4096).toNat := by
  rw [padToSize, toNat_and_not_pred (k := 12) _ rfl]
  exact Nat.dvd_mul_left _ _

/-- Without an offset a plane is sound when its lines hold its rows. -/
theorem planeSound_of_whole {q : MpLenOffset} (hOffset : q.offset.toNat = 0) (hPos : 0 < h)
    (hStride : w ≤ q.stride.toNat) (hScanline : h ≤ q.scanline.toNat)
    (hLen : q.stride.toNat * q.scanline.toNat ≤ q.len.toNat)
    (hWidth : q.width.toNat = w) (hHeight : q.height.toNat = h) : PlaneSound q w h where
  stride := hStride
  scanline := hScanline
  len := hLen
  visible := by
    have hRows : q.stride.toNat * (h - 1) + q.stride.toNat = q.stride.toNat * h := by
      rw [← Nat.mul_succ, Nat.succ_eq_add_one, Nat.sub_add_cancel hPos]
    have hArea := Nat.mul_le_mul_left q.stride.toNat hScanline
    rw [hOffset]
    omega
  width_eq := hWidth
  height_eq := hHeight

theorem planeOf_sound (hRoom : stride.toNat * scanline.toNat < 2 ^ 32) (hPos : 0 < height.toNat)
    (hStride : width.toNat ≤ stride.toNat) (hScanline : height.toNat ≤ scanline.toNat) :
    PlaneSound (planeOf stride scanline width height) width.toNat height.toNat :=
  planeSound_of_whole rfl hPos hStride hScanline (toNat_mul_of_lt rfl rfl hRoom).ge rfl rfl

/-- A longer plane stays sound. -/
theorem PlaneSound.lengthen {q : MpLenOffset} (hSound : PlaneSound q w h) {len : Word}
    (hLe : q.len.toNat ≤ len.toNat) : PlaneSound { q with len } w h :=
  { hSound with
    len := hSound.len.trans hLe
    visible := hSound.visible.trans hLe }

theorem snapshotPlane_sound_iff {offsetY : Word} (hPow : ∃ k, padding.planePadding.toNat = 2 ^ k)
    (hRoom : stride.toNat * scanline.toNat + (padding.planePadding.toNat - 1) < 2 ^ 32)
    (hPos : 0 < height.toNat) (hStride : width.toNat ≤ stride.toNat)
    (hRows : offsetY.toNat + height.toNat ≤ scanline.toNat) :
    PlaneSound (snapshotPlane padding 0 offsetY stride scanline width height) width.toNat
        height.toNat ↔
      (PlaneShape.mk stride.toNat scanline.toNat width.toNat height.toNat).Fits
        padding.planePadding.toNat offsetY.toNat := by
  obtain ⟨k, hPow⟩ := hPow
  have hSkipped : stride.toNat * offsetY.toNat + stride.toNat * height.toNat ≤
      stride.toNat * scanline.toNat := by
    rw [← Nat.mul_add]
    exact Nat.mul_le_mul_left _ hRows
  have hLast : stride.toNat * (height.toNat - 1) + stride.toNat = stride.toNat * height.toNat := by
    rw [← Nat.mul_succ, Nat.succ_eq_add_one, Nat.sub_add_cancel hPos]
  have hLen : (padToSize (stride * scanline) padding.planePadding).toNat =
      roundUp (stride.toNat * scanline.toNat) (2 ^ k) :=
    toNat_padToSize (toNat_mul_of_lt rfl rfl (by omega)) hPow (by rwa [hPow] at hRoom)
  have hStart : (0 + stride * offsetY).toNat = stride.toNat * offsetY.toNat := by
    have hProduct : (stride * offsetY).toNat = stride.toNat * offsetY.toNat :=
      toNat_mul_of_lt rfl rfl (by omega)
    exact (congrArg BitVec.toNat (BitVec.zero_add _)).trans hProduct
  have hOffset : (padToSize (0 + stride * offsetY) padding.planePadding).toNat =
      roundUp (stride.toNat * offsetY.toNat) (2 ^ k) :=
    toNat_padToSize hStart hPow (by rw [hPow] at hRoom; omega)
  have hFits := roundUp_add_le_iff (Nat.two_pow_pos k)
    (show stride.toNat * offsetY.toNat + (stride.toNat * (height.toNat - 1) + width.toNat) ≤
      stride.toNat * scanline.toNat by omega)
  rw [← Nat.add_assoc, ← hLen, ← hOffset] at hFits
  rw [PlaneShape.Fits, hPow, ← hFits]
  constructor
  · exact PlaneSound.visible
  · intro hVisible
    constructor
    · exact hStride
    · exact (Nat.le_add_left _ _).trans hRows
    · exact (self_le_roundUp (Nat.two_pow_pos k) _).trans_eq hLen.symm
    · exact hVisible
    · rfl
    · rfl

end Plane

/-! ### The layouts -/

section Layouts

variable {size : Nat → Nat × Nat} {p₀ p₁ p₂ : MpLenOffset} {frameLen : Word} {n : Nat}

theorem planesSound_one (hFirst : PlaneSound p₀ (size 0).1 (size 0).2) :
    PlanesSound size (o.onePlane p₀ frameLen) := by
  intro i hLt
  change i < 1 at hLt
  interval_cases i
  exact hFirst

theorem planesSound_two_iff : PlanesSound size (o.twoPlanes p₀ p₁ frameLen) ↔
    PlaneSound p₀ (size 0).1 (size 0).2 ∧ PlaneSound p₁ (size 1).1 (size 1).2 := by
  constructor
  · intro hAll
    exact ⟨hAll 0 Nat.zero_lt_two, hAll 1 Nat.one_lt_two⟩
  · rintro ⟨hFirst, hSecond⟩ i hLt
    change i < 2 at hLt
    interval_cases i
    · exact hFirst
    · exact hSecond

theorem planesSound_three_iff : PlanesSound size (o.threePlanes p₀ p₁ p₂ frameLen) ↔
    PlaneSound p₀ (size 0).1 (size 0).2 ∧ PlaneSound p₁ (size 1).1 (size 1).2 ∧
      PlaneSound p₂ (size 2).1 (size 2).2 := by
  constructor
  · intro hAll
    exact ⟨hAll 0 (Nat.succ_pos 2), hAll 1 (Nat.lt_add_left 1 Nat.one_lt_two),
      hAll 2 (Nat.lt_succ_self 2)⟩
  · rintro ⟨hFirst, hSecond, hThird⟩ i hLt
    change i < 3 at hLt
    interval_cases i
    · exact hFirst
    · exact hSecond
    · exact hThird

theorem NoOverflow.area (hRoom : NoOverflow s n o) {i : Nat} (hLt : i < o.numPlanes) :
    (o.mp i).stride.toNat * (o.mp i).scanline.toNat < 2 ^ 32 :=
  Nat.lt_of_le_of_lt (Nat.le_add_right _ _) (hRoom.products i hLt)

theorem EvenDimension.half_height_pos (hDim : EvenDimension dim) : 0 < dim.height.toNat / 2 := by
  have hPos := hDim.height_pos
  have hEven := hDim.height_even
  omega

theorem nv12_sound {widthPadding heightPadding : Word} (hDim : EvenDimension dim)
    (hWidth : ∃ k, widthPadding.toNat = 2 ^ k) (hHeight : ∃ k, heightPadding.toNat = 2 ^ k)
    (hRoom : NoOverflow s n (nv12Layout dim o widthPadding heightPadding)) :
    PlanesSound (nv12Size dim.width.toNat dim.height.toNat)
      (nv12Layout dim o widthPadding heightPadding) := by
  have hHalf := half_eq hDim.height_lt
  have hHalfPos := hDim.half_height_pos
  rw [← hHalf] at hHalfPos
  apply planesSound_two_iff.mpr
  constructor
  · exact planeOf_sound (hRoom.area Nat.zero_lt_two) hDim.height_pos (le_pad hWidth hDim.width_lt)
      (le_pad hHeight hDim.height_lt)
  · have hSecond := planeOf_sound (hRoom.area Nat.one_lt_two) hHalfPos (le_pad hWidth hDim.width_lt)
      (le_pad hHeight (by rw [hHalf]; exact (Nat.div_le_self _ 2).trans_lt hDim.height_lt))
    rwa [hHalf] at hSecond

theorem planeOf_page_sound {stride scanline width height : Word}
    (hRoom : stride.toNat * scanline.toNat + 4095 < 2 ^ 32) (hPos : 0 < height.toNat)
    (hStride : width.toNat ≤ stride.toNat) (hScanline : height.toNat ≤ scanline.toNat) :
    PlaneSound { planeOf stride scanline width height with
      len := padToSize (planeOf stride scanline width height).len 4096 } width.toNat
      height.toNat := by
  have hLen : (stride * scanline).toNat = stride.toNat * scanline.toNat :=
    toNat_mul_of_lt rfl rfl (by omega)
  apply (planeOf_sound (by omega) hPos hStride hScanline).lengthen
  exact le_padToSize (by rw [planeOf, hLen]; omega)

theorem adreno_sound (hDim : EvenDimension dim) (hRoom : NoOverflow s 4096 (adrenoLayout dim o)) :
    PlanesSound (nv12Size dim.width.toNat dim.height.toNat) (adrenoLayout dim o) := by
  have hHalf := half_eq hDim.height_lt
  have hHalfPos := hDim.half_height_pos
  have hHalfLt : (dim.height.sdiv 2).toNat < 2 ^ 31 := by
    rw [hHalf]
    exact (Nat.div_le_self _ 2).trans_lt hDim.height_lt
  rw [← hHalf] at hHalfPos
  apply planesSound_two_iff.mpr
  constructor
  · exact planeOf_page_sound (hRoom.products 0 Nat.zero_lt_two) hDim.height_pos
      (le_pad ⟨5, rfl⟩ hDim.width_lt) (le_pad ⟨5, rfl⟩ hDim.height_lt)
  · have hWidth := half_eq hDim.width_lt
    have hWidthLt := hDim.width_lt
    have hWidthEven := hDim.width_even
    have hPad := pad_eq (p := 32) ⟨5, rfl⟩ (x := dim.width.sdiv 2) (by omega)
    have hUp := self_le_roundUp (a := 32) (by decide) (dim.width.sdiv 2).toNat
    have hDown := roundUp_lt (a := 32) (by decide) (dim.width.sdiv 2).toNat
    have hStride : (padToSize (dim.width.sdiv 2) 32 * 2).toNat =
        roundUp (dim.width.sdiv 2).toNat 32 * 2 := toNat_mul_of_lt hPad rfl (by omega)
    have hRow : dim.width.toNat ≤ (padToSize (dim.width.sdiv 2) 32 * 2).toNat := by omega
    have hSecond := planeOf_page_sound (hRoom.products 1 Nat.one_lt_two) hHalfPos hRow
      (le_pad ⟨5, rfl⟩ hHalfLt)
    rwa [hHalf] at hSecond

theorem yv12_sound (hDim : EvenDimension dim) (hRoom : NoOverflow s n (yv12Layout dim o)) :
    PlanesSound (yv12Size dim.width.toNat dim.height.toNat) (yv12Layout dim o) := by
  have hStrideLt : (padToSize dim.width 16).toNat < 2 ^ 31 := hRoom.strides 0 (Nat.succ_pos 2)
  have hScanLt : (padToSize dim.height 2).toNat < 2 ^ 31 := hRoom.scanlines 0 (Nat.succ_pos 2)
  have hStride := le_pad (p := 16) ⟨4, rfl⟩ hDim.width_lt
  have hScan := le_pad (p := 2) ⟨1, rfl⟩ hDim.height_lt
  have hHalfPos := hDim.half_height_pos
  have hHalves := half_eq hDim.width_lt
  have hHalfRows := half_eq hDim.height_lt
  have hHalfStride := half_eq hStrideLt
  have hHalfScan := half_eq hScanLt
  have hPad := le_pad (p := 16) ⟨4, rfl⟩ (x := (padToSize dim.width 16).sdiv 2) (by omega)
  have hRow : (dim.width.sdiv 2).toNat ≤
      (padToSize ((padToSize dim.width 16).sdiv 2) 16).toNat := by omega
  have hRows : (dim.height.sdiv 2).toNat ≤ ((padToSize dim.height 2).sdiv 2).toNat := by omega
  have hSecond := planeOf_sound (hRoom.area (Nat.lt_add_left 1 Nat.one_lt_two)) (by omega) hRow
    hRows
  rw [hHalves, hHalfRows] at hSecond
  apply planesSound_three_iff.mpr
  constructor
  · exact planeOf_sound (hRoom.area (Nat.succ_pos 2)) hDim.height_pos hStride hScan
  · exact ⟨hSecond, hSecond⟩

theorem nv16_sound (hDim : EvenDimension dim) (hRoom : NoOverflow s n (nv16Layout dim o)) :
    PlanesSound (fullSize dim.width.toNat dim.height.toNat) (nv16Layout dim o) := by
  have hPlane := planeOf_sound (hRoom.area Nat.zero_lt_two) hDim.height_pos
    (le_pad ⟨4, rfl⟩ hDim.width_lt) le_rfl
  exact planesSound_two_iff.mpr ⟨hPlane, hPlane⟩

theorem venus_not_sound (hDim : EvenDimension dim) (v : Venus) :
    ¬PlanesSound (nv12Size dim.width.toNat dim.height.toNat) (venusLayout dim o v) := by
  intro hSound
  have hHeight : dim.height.toNat = dim.height.toNat / 2 :=
    (planesSound_two_iff.mp hSound).2.height_eq
  have hPos := hDim.height_pos
  omega

/-- The size of the second plane is written over that of the first. -/
theorem video_not_sound (hDim : EvenDimension dim) (hVenus : b.venus = none) :
    ¬PlanesSound (nv12Size dim.width.toNat dim.height.toNat) (calcOffsetVideo b dim o).2 := by
  intro hSound
  rw [calcOffsetVideo, hVenus] at hSound
  have hHeight : (dim.height.sdiv 2).toNat = dim.height.toNat :=
    (planesSound_two_iff.mp hSound).1.height_eq
  have hHalf := half_eq hDim.height_lt
  have hPos := hDim.height_pos
  omega

theorem metadata_sound (hDim : EvenDimension dim) (hPadding : PowerPadding padding)
    (hRoom : NoOverflow s padding.planePadding.toNat (calcOffsetMetadata dim padding o).2) :
    PlanesSound (fullSize dim.width.toNat dim.height.toNat)
      (calcOffsetMetadata dim padding o).2 := by
  obtain ⟨k, hPow⟩ := hPadding.plane
  have hProduct : dim.width.toNat * dim.height.toNat + (padding.planePadding.toNat - 1) < 2 ^ 32 :=
    hRoom.products 0 Nat.zero_lt_one
  have hArea : (dim.width * dim.height).toNat = dim.width.toNat * dim.height.toNat :=
    toNat_mul_of_lt rfl rfl (by omega)
  have hLen : (padToSize (dim.width * dim.height) padding.planePadding).toNat =
      roundUp (dim.width.toNat * dim.height.toNat) (2 ^ k) :=
    toNat_padToSize hArea hPow (by rwa [hPow] at hProduct)
  apply planesSound_one
  apply (planeOf_sound (hRoom.area Nat.zero_lt_one) hDim.height_pos le_rfl le_rfl).lengthen
  exact (hArea.trans_le (self_le_roundUp (Nat.two_pow_pos k) _)).trans_eq hLen.symm

end Layouts

/-! ### Snapshots -/

section Snapshot

variable {stride scanline offsetY frameLen : Word}

/-- The rows of a picture lie within the scanlines, and half of them within half. -/
structure SnapshotLines (dim : CamDimension) (stride scanline offsetY : Word) : Prop where
  row : dim.width.toNat ≤ stride.toNat
  rows : offsetY.toNat + dim.height.toNat ≤ scanline.toNat
  half_rows : offsetY.toNat + dim.height.toNat / 2 ≤ scanline.toNat / 2
  stride_lt : stride.toNat < 2 ^ 31
  scanline_lt : scanline.toNat < 2 ^ 31

section Chroma

variable {chroma : Word}

theorem snapshot_luma_iff (hDim : EvenDimension dim) (hPadding : PowerPadding padding)
    (hLines : SnapshotLines dim stride scanline offsetY)
    (hRoom : stride.toNat * scanline.toNat + (padding.planePadding.toNat - 1) < 2 ^ 32) :
    PlaneSound (snapshotPlane padding 0 offsetY stride scanline dim.width dim.height)
        dim.width.toNat dim.height.toNat ↔
      (PlaneShape.mk stride.toNat scanline.toNat dim.width.toNat dim.height.toNat).Fits
        padding.planePadding.toNat offsetY.toNat :=
  snapshotPlane_sound_iff hPadding.plane hRoom hDim.height_pos hLines.row hLines.rows

/-- A plane of half as many rows, with a stride and rows of its own. -/
theorem snapshot_chroma_iff {row : Word} (hDim : EvenDimension dim)
    (hPadding : PowerPadding padding) (hLines : SnapshotLines dim stride scanline offsetY)
    (hRow : row.toNat ≤ chroma.toNat)
    (hRoom : chroma.toNat * (scanline.sdiv 2).toNat + (padding.planePadding.toNat - 1) < 2 ^ 32) :
    PlaneSound (snapshotPlane padding 0 offsetY chroma (scanline.sdiv 2) row (dim.height.sdiv 2))
        row.toNat (dim.height.toNat / 2) ↔
      (PlaneShape.mk chroma.toNat (scanline.toNat / 2) row.toNat (dim.height.toNat / 2)).Fits
        padding.planePadding.toNat offsetY.toNat := by
  have hHalf := half_eq hDim.height_lt
  have hHalfScan := half_eq hLines.scanline_lt
  have hHalfPos := hDim.half_height_pos
  have hHalfRows := hLines.half_rows
  rw [← hHalf] at hHalfPos
  rw [← hHalf, ← hHalfScan] at hHalfRows
  have hPlane := snapshotPlane_sound_iff hPadding.plane hRoom hHalfPos hRow hHalfRows
  rwa [hHalf, hHalfScan] at hPlane

end Chroma

theorem snapshot_nv12_iff (hDim : EvenDimension dim) (hPadding : PowerPadding padding)
    (hLines : SnapshotLines dim stride scanline offsetY)
    (hFirst : stride.toNat * scanline.toNat + (padding.planePadding.toNat - 1) < 2 ^ 32)
    (hSecond : stride.toNat * (scanline.sdiv 2).toNat + (padding.planePadding.toNat - 1) <
      2 ^ 32) :
    PlanesSound (nv12Size dim.width.toNat dim.height.toNat) (o.twoPlanes
        (snapshotPlane padding 0 offsetY stride scanline dim.width dim.height)
        (snapshotPlane padding 0 offsetY stride (scanline.sdiv 2) dim.width (dim.height.sdiv 2))
        frameLen) ↔
      ∀ g ∈ snapshotPlanes .yuv420Nv12 dim.width.toNat dim.height.toNat stride.toNat
        scanline.toNat, g.Fits padding.planePadding.toNat offsetY.toNat := by
  rw [planesSound_two_iff, snapshotPlanes, List.forall_mem_cons, List.forall_mem_singleton]
  · exact and_congr (snapshot_luma_iff hDim hPadding hLines hFirst)
      (snapshot_chroma_iff hDim hPadding hLines hLines.row hSecond)
  all_goals simp

theorem snapshot_yv12_iff (hDim : EvenDimension dim) (hPadding : PowerPadding padding)
    (hLines : SnapshotLines dim stride scanline offsetY)
    (hFirst : stride.toNat * scanline.toNat + (padding.planePadding.toNat - 1) < 2 ^ 32)
    (hSecond : (padToSize (stride.sdiv 2) 16).toNat * (scanline.sdiv 2).toNat +
      (padding.planePadding.toNat - 1) < 2 ^ 32) :
    PlanesSound (yv12Size dim.width.toNat dim.height.toNat) (o.threePlanes
        (snapshotPlane padding 0 offsetY stride scanline dim.width dim.height)
        (snapshotPlane padding 0 offsetY (padToSize (stride.sdiv 2) 16) (scanline.sdiv 2)
          (dim.width.sdiv 2) (dim.height.sdiv 2))
        (snapshotPlane padding 0 offsetY (padToSize (stride.sdiv 2) 16) (scanline.sdiv 2)
          (dim.width.sdiv 2) (dim.height.sdiv 2)) frameLen) ↔
      ∀ g ∈ snapshotPlanes .yuv420Yv12 dim.width.toNat dim.height.toNat stride.toNat
        scanline.toNat, g.Fits padding.planePadding.toNat offsetY.toNat := by
  have hHalfRow := half_eq hDim.width_lt
  have hHalfStride := half_eq hLines.stride_lt
  have hStrideLt := hLines.stride_lt
  have hPad := pad_eq (p := 16) ⟨4, rfl⟩ (x := stride.sdiv 2) (by omega)
  have hRow : (dim.width.sdiv 2).toNat ≤ (padToSize (stride.sdiv 2) 16).toNat := by
    rw [hPad, hHalfRow, hHalfStride]
    exact (Nat.div_le_div_right hLines.row).trans (self_le_roundUp (by decide) _)
  have hChroma := snapshot_chroma_iff hDim hPadding hLines hRow hSecond
  have hLuma := snapshot_luma_iff hDim hPadding hLines hFirst
  rw [hHalfRow, hPad, hHalfStride] at hChroma
  rw [planesSound_three_iff, snapshotPlanes, List.forall_mem_cons, List.forall_mem_singleton]
  constructor
  · rintro ⟨hFirst, hSecond, -⟩
    exact ⟨hLuma.mp hFirst, hChroma.mp hSecond⟩
  · rintro ⟨hFirst, hSecond⟩
    exact ⟨hLuma.mpr hFirst, hChroma.mpr hSecond, hChroma.mpr hSecond⟩

theorem snapshot_nv16_iff (hDim : EvenDimension dim) (hPadding : PowerPadding padding)
    (hLines : SnapshotLines dim stride scanline offsetY)
    (hRoom : stride.toNat * scanline.toNat + (padding.planePadding.toNat - 1) < 2 ^ 32) :
    PlanesSound (fullSize dim.width.toNat dim.height.toNat) (o.twoPlanes
        (snapshotPlane padding 0 offsetY stride scanline dim.width dim.height)
        (snapshotPlane padding 0 offsetY stride scanline dim.width dim.height) frameLen) ↔
      ∀ g ∈ snapshotPlanes .yuv422Nv16 dim.width.toNat dim.height.toNat stride.toNat
        scanline.toNat, g.Fits padding.planePadding.toNat offsetY.toNat := by
  rw [planesSound_two_iff, snapshotPlanes, List.forall_mem_singleton]
  exact (and_self_iff).trans (snapshot_luma_iff hDim hPadding hLines hRoom)

/-- The layout of a snapshot from its stride and scanlines. -/
def snapshotFrame (s : LayoutInfo) (dim : CamDimension) (padding : PaddingInfo)
    (o : FrameLenOffset) (stride scanline offsetY : Word) : Int × FrameLenOffset :=
  let p₀ := snapshotPlane padding 0 offsetY stride scanline dim.width dim.height
  match s.fmt with
  | .yuv420Nv12 | .yuv420Nv21 =>
    let p₁ := snapshotPlane padding 0 offsetY stride (scanline.sdiv 2) dim.width
      (dim.height.sdiv 2)
    (0, o.twoPlanes p₀ p₁ (padToSize (p₀.len + p₁.len + truePortraitExtra s) 4096))
  | .yuv420Yv12 =>
    let p₁ := snapshotPlane padding 0 offsetY (padToSize (stride.sdiv 2) 16) (scanline.sdiv 2)
      (dim.width.sdiv 2) (dim.height.sdiv 2)
    (0, o.threePlanes p₀ p₁ p₁ (padToSize (p₀.len + p₁.len + p₁.len) 4096))
  | .yuv422Nv16 | .yuv422Nv61 => (0, o.twoPlanes p₀ p₀ (padToSize (p₀.len + p₀.len) 4096))
  | _ => (-1, o)

theorem calcOffsetSnapshot_eq (b : BuildFlags) (s : LayoutInfo) (dim : CamDimension)
    (padding : PaddingInfo) (o : FrameLenOffset) : calcOffsetSnapshot b s dim padding o =
    if b.isAFamily then
      snapshotFrame s dim padding o dim.width
        (padToSize dim.height 16 + (padToSize dim.height 16 - dim.height))
        (padToSize dim.height 16 - dim.height)
    else
      snapshotFrame s dim padding o (padToSize dim.width padding.widthPadding)
        (padToSize dim.height padding.heightPadding) 0 := by
  rw [calcOffsetSnapshot]
  cases b.isAFamily <;> rfl

theorem snapshotFrame_sound_iff (hDim : EvenDimension dim) (hPadding : PowerPadding padding)
    (hLines : SnapshotLines dim stride scanline offsetY)
    (hOk : (snapshotFrame s dim padding o stride scanline offsetY).1 = 0)
    (hRoom : NoOverflow s padding.planePadding.toNat
      (snapshotFrame s dim padding o stride scanline offsetY).2) :
    PlanesSound (planeSize .snapshot s.fmt dim.width.toNat dim.height.toNat)
        (snapshotFrame s dim padding o stride scanline offsetY).2 ↔
      ∀ g ∈ snapshotPlanes s.fmt dim.width.toNat dim.height.toNat stride.toNat scanline.toNat,
        g.Fits padding.planePadding.toNat offsetY.toNat := by
  have hFirst := hRoom.products 0
  have hSecond := hRoom.products 1
  unfold snapshotFrame at *
  dsimp only at *
  cases hFmt : s.fmt with
  | yuv420Nv12 =>
    rw [hFmt] at hFirst hSecond
    exact snapshot_nv12_iff hDim hPadding hLines (hFirst Nat.zero_lt_two)
      (hSecond Nat.one_lt_two)
  | yuv420Nv21 =>
    rw [hFmt] at hFirst hSecond
    exact snapshot_nv12_iff hDim hPadding hLines (hFirst Nat.zero_lt_two)
      (hSecond Nat.one_lt_two)
  | yuv420Yv12 =>
    rw [hFmt] at hFirst hSecond
    exact snapshot_yv12_iff hDim hPadding hLines (hFirst (Nat.succ_pos 2))
      (hSecond (Nat.lt_add_left 1 Nat.one_lt_two))
  | yuv422Nv16 =>
    rw [hFmt] at hFirst
    exact snapshot_nv16_iff hDim hPadding hLines (hFirst Nat.zero_lt_two)
  | yuv422Nv61 =>
    rw [hFmt] at hFirst
    exact snapshot_nv16_iff hDim hPadding hLines (hFirst Nat.zero_lt_two)
  | _ =>
    rw [hFmt] at hOk
    cases hOk

theorem aFamily_lines (hDim : EvenDimension dim)
    (hLt : (padToSize dim.height 16 + (padToSize dim.height 16 - dim.height)).toNat < 2 ^ 31) :
    (padToSize dim.height 16 - dim.height).toNat = roundUp dim.height.toNat 16 - dim.height.toNat ∧
      (padToSize dim.height 16 + (padToSize dim.height 16 - dim.height)).toNat =
        roundUp dim.height.toNat 16 + (roundUp dim.height.toNat 16 - dim.height.toNat) ∧
      SnapshotLines dim dim.width
        (padToSize dim.height 16 + (padToSize dim.height 16 - dim.height))
        (padToSize dim.height 16 - dim.height) := by
  have hPadded : (padToSize dim.height 16).toNat = roundUp dim.height.toNat 16 :=
    pad_eq ⟨4, rfl⟩ hDim.height_lt
  have hUp := self_le_roundUp (a := 16) (by decide) dim.height.toNat
  have hDown := roundUp_lt (a := 16) (by decide) dim.height.toNat
  have hHeightLt := hDim.height_lt
  have hEven := hDim.height_even
  obtain ⟨q, hBlocks⟩ := dvd_roundUp dim.height.toNat 16
  have hOffset : (padToSize dim.height 16 - dim.height).toNat =
      roundUp dim.height.toNat 16 - dim.height.toNat := by
    rw [BitVec.toNat_sub_of_le (by rw [BitVec.le_def]; omega), hPadded]
  have hScanline : (padToSize dim.height 16 + (padToSize dim.height 16 - dim.height)).toNat =
      roundUp dim.height.toNat 16 + (roundUp dim.height.toNat 16 - dim.height.toNat) :=
    toNat_add_of_lt hPadded hOffset (by omega)
  refine ⟨hOffset, hScanline, ?_⟩
  constructor
  · exact le_rfl
  · omega
  · omega
  · exact hDim.width_lt
  · exact hLt

theorem padded_lines (hDim : EvenDimension dim) (hPadding : PowerPadding padding)
    (hStrideLt : (padToSize dim.width padding.widthPadding).toNat < 2 ^ 31)
    (hScanLt : (padToSize dim.height padding.heightPadding).toNat < 2 ^ 31) :
    SnapshotLines dim (padToSize dim.width padding.widthPadding)
      (padToSize dim.height padding.heightPadding) 0 := by
  have hRows := le_pad hPadding.height hDim.height_lt
  constructor
  · exact le_pad hPadding.width hDim.width_lt
  · exact (Nat.zero_add _).trans_le hRows
  · exact (Nat.zero_add _).trans_le (Nat.div_le_div_right hRows)
  · exact hStrideLt
  · exact hScanLt

theorem snapshotFrame_numPlanes
    (hOk : (snapshotFrame s dim padding o stride scanline offsetY).1 = 0) :
    0 < (snapshotFrame s dim padding o stride scanline offsetY).2.numPlanes ∧
      ((snapshotFrame s dim padding o stride scanline offsetY).2.mp 0).stride = stride ∧
      ((snapshotFrame s dim padding o stride scanline offsetY).2.mp 0).scanline = scanline := by
  unfold snapshotFrame at *
  dsimp only at *
  split at hOk
  · exact ⟨Nat.zero_lt_two, rfl, rfl⟩
  · exact ⟨Nat.zero_lt_two, rfl, rfl⟩
  · exact ⟨Nat.succ_pos 2, rfl, rfl⟩
  · exact ⟨Nat.zero_lt_two, rfl, rfl⟩
  · exact ⟨Nat.zero_lt_two, rfl, rfl⟩
  · cases hOk

theorem snapshot_sound_iff (hDim : EvenDimension dim) (hPadding : PowerPadding padding)
    (hOk : (calcOffsetSnapshot b s dim padding o).1 = 0)
    (hRoom : NoOverflow s padding.planePadding.toNat (calcOffsetSnapshot b s dim padding o).2) :
    PlanesSound (planeSize .snapshot s.fmt dim.width.toNat dim.height.toNat)
        (calcOffsetSnapshot b s dim padding o).2 ↔
      (b.isAFamily = true → SnapshotFits padding s.fmt dim.width.toNat dim.height.toNat) := by
  have hSame := calcOffsetSnapshot_eq b s dim padding o
  cases hFamily : b.isAFamily with
  | false =>
    rw [hFamily, if_neg Bool.false_ne_true] at hSame
    rw [hSame] at hOk hRoom ⊢
    obtain ⟨hSome, hStride, hScanline⟩ := snapshotFrame_numPlanes hOk
    have hStrideLt := hRoom.strides 0 hSome
    have hScanLt := hRoom.scanlines 0 hSome
    rw [hStride] at hStrideLt
    rw [hScanline] at hScanLt
    rw [snapshotFrame_sound_iff hDim hPadding (padded_lines hDim hPadding hStrideLt hScanLt) hOk
      hRoom]
    constructor
    · intro _ hOther
      cases hOther
    · intro _ g _
      exact Or.inl (Nat.zero_mod _)
  | true =>
    rw [hFamily, if_pos rfl] at hSame
    rw [hSame] at hOk hRoom ⊢
    obtain ⟨hSome, hStride, hScanline⟩ := snapshotFrame_numPlanes hOk
    have hScanLt := hRoom.scanlines 0 hSome
    rw [hScanline] at hScanLt
    obtain ⟨hOffset, hScan, hLines⟩ := aFamily_lines hDim hScanLt
    rw [snapshotFrame_sound_iff hDim hPadding hLines hOk hRoom, hOffset, hScan]
    exact ⟨fun hFits _ => hFits, fun hFits => hFits rfl⟩

end Snapshot

/-! ### Streams -/

theorem preview_sound_iff (hDim : EvenDimension dim) (hPadding : PowerPadding padding)
    (hOk : (calcOffsetPreview b s dim padding o).1 = 0)
    (hRoom : NoOverflow s (lenPadding .preview s.fmt padding)
      (calcOffsetPreview b s dim padding o).2) :
    PlanesSound (planeSize .preview s.fmt dim.width.toNat dim.height.toNat)
        (calcOffsetPreview b s dim padding o).2 ↔ s.fmt ≠ .yuv420Nv12Venus := by
  have hNv12 {n : Nat} (hRoom : NoOverflow s n
      (if s.streamType ≠ .offlineProc then (0, nv12Layout dim o 32 2)
        else ((0 : Int), nv12Layout dim o padding.widthPadding padding.heightPadding)).2) :
      PlanesSound (nv12Size dim.width.toNat dim.height.toNat)
        (if s.streamType ≠ .offlineProc then (0, nv12Layout dim o 32 2)
          else ((0 : Int), nv12Layout dim o padding.widthPadding padding.heightPadding)).2 := by
    by_cases hType : s.streamType ≠ .offlineProc
    · simp only [if_pos hType] at hRoom ⊢
      exact nv12_sound hDim ⟨5, rfl⟩ ⟨1, rfl⟩ hRoom
    · simp only [if_neg hType] at hRoom ⊢
      exact nv12_sound hDim hPadding.width hPadding.height hRoom
  unfold calcOffsetPreview at *
  cases hFmt : s.fmt with
  | yuv420Nv12 =>
    rw [hFmt] at hRoom
    exact iff_of_true (hNv12 hRoom) (by decide)
  | yuv420Nv21 =>
    rw [hFmt] at hRoom
    exact iff_of_true (hNv12 hRoom) (by decide)
  | yuv420Nv21Adreno =>
    rw [hFmt] at hRoom
    exact iff_of_true (adreno_sound hDim hRoom) (by decide)
  | yuv420Yv12 =>
    rw [hFmt] at hRoom
    exact iff_of_true (yv12_sound hDim hRoom) (by decide)
  | yuv422Nv16 =>
    rw [hFmt] at hRoom
    exact iff_of_true (nv16_sound hDim hRoom) (by decide)
  | yuv422Nv61 =>
    rw [hFmt] at hRoom
    exact iff_of_true (nv16_sound hDim hRoom) (by decide)
  | yuv420Nv12Venus =>
    rw [hFmt] at hOk
    cases hVenus : b.venus with
    | none =>
      rw [hVenus] at hOk
      cases hOk
    | some v => exact iff_of_false (venus_not_sound hDim v) (absurd rfl)
  | _ =>
    rw [hFmt] at hOk
    cases hOk

theorem postView_sound_iff (hDim : EvenDimension dim)
    (hOk : (calcOffsetPostView b s dim o).1 = 0)
    (hRoom : NoOverflow s (lenPadding .postview s.fmt padding) (calcOffsetPostView b s dim o).2) :
    PlanesSound (planeSize .postview s.fmt dim.width.toNat dim.height.toNat)
        (calcOffsetPostView b s dim o).2 ↔ s.fmt ≠ .yuv420Nv12Venus := by
  unfold calcOffsetPostView at *
  cases hFmt : s.fmt with
  | yuv420Nv12 =>
    rw [hFmt] at hRoom
    exact iff_of_true (nv12_sound hDim ⟨6, rfl⟩ ⟨6, rfl⟩ hRoom) (by decide)
  | yuv420Nv21 =>
    rw [hFmt] at hRoom
    exact iff_of_true (nv12_sound hDim ⟨6, rfl⟩ ⟨6, rfl⟩ hRoom) (by decide)
  | yuv420Nv21Adreno =>
    rw [hFmt] at hRoom
    exact iff_of_true (adreno_sound hDim hRoom) (by decide)
  | yuv420Yv12 =>
    rw [hFmt] at hRoom
    exact iff_of_true (yv12_sound hDim hRoom) (by decide)
  | yuv422Nv16 =>
    rw [hFmt] at hRoom
    exact iff_of_true (nv16_sound hDim hRoom) (by decide)
  | yuv422Nv61 =>
    rw [hFmt] at hRoom
    exact iff_of_true (nv16_sound hDim hRoom) (by decide)
  | yuv420Nv12Venus =>
    rw [hFmt] at hOk
    cases hVenus : b.venus with
    | none =>
      rw [hVenus] at hOk
      cases hOk
    | some v => exact iff_of_false (venus_not_sound hDim v) (absurd rfl)
  | _ =>
    rw [hFmt] at hOk
    cases hOk

/-! The frame is rounded up to pages where its size is computed from that of the planes. -/

theorem preview_page (hOk : (calcOffsetPreview b s dim padding o).1 = 0)
    (hVenus : s.fmt ≠ .yuv420Nv12Venus) :
    4096 ∣ (calcOffsetPreview b s dim padding o).2.frameLen.toNat := by
  have hNv12 : 4096 ∣ (if s.streamType ≠ .offlineProc then (0, nv12Layout dim o 32 2)
      else ((0 : Int), nv12Layout dim o padding.widthPadding padding.heightPadding)).2.frameLen.toNat := by
    split <;> exact page_dvd _
  unfold calcOffsetPreview at *
  cases hFmt : s.fmt with
  | yuv420Nv12 => exact hNv12
  | yuv420Nv21 => exact hNv12
  | yuv420Nv21Adreno => exact page_dvd _
  | yuv420Yv12 => exact page_dvd _
  | yuv422Nv16 => exact page_dvd _
  | yuv422Nv61 => exact page_dvd _
  | yuv420Nv12Venus => exact absurd hFmt hVenus
  | _ =>
    rw [hFmt] at hOk
    cases hOk

theorem postView_page (hOk : (calcOffsetPostView b s dim o).1 = 0)
    (hVenus : s.fmt ≠ .yuv420Nv12Venus) :
    4096 ∣ (calcOffsetPostView b s dim o).2.frameLen.toNat := by
  unfold calcOffsetPostView at *
  cases hFmt : s.fmt with
  | yuv420Nv12 => exact page_dvd _
  | yuv420Nv21 => exact page_dvd _
  | yuv420Nv21Adreno => exact page_dvd _
  | yuv420Yv12 => exact page_dvd _
  | yuv422Nv16 => exact page_dvd _
  | yuv422Nv61 => exact page_dvd _
  | yuv420Nv12Venus => exact absurd hFmt hVenus
  | _ =>
    rw [hFmt] at hOk
    cases hOk

theorem snapshot_page (hOk : (calcOffsetSnapshot b s dim padding o).1 = 0) :
    4096 ∣ (calcOffsetSnapshot b s dim padding o).2.frameLen.toNat := by
  unfold calcOffsetSnapshot at *
  cases hFmt : s.fmt with
  | yuv420Nv12 => exact page_dvd _
  | yuv420Nv21 => exact page_dvd _
  | yuv420Yv12 => exact page_dvd _
  | yuv422Nv16 => exact page_dvd _
  | yuv422Nv61 => exact page_dvd _
  | _ =>
    rw [hFmt] at hOk
    cases hOk

/-- The clause on the planes decides about a computed layout. -/
theorem layoutSound_iff {cond : Prop} (hLaid : Laid s o) (hRoom : Roomy s o)
    (hPage : cond → type ≠ .metadata → 4096 ∣ o.frameLen.toNat)
    (hPlanes : PlanesSound (planeSize type fmt dim.width.toNat dim.height.toNat) o ↔ cond) :
    LayoutSound type fmt dim o ↔ cond := by
  constructor
  · intro hSound
    exact hPlanes.mp hSound.planes
  · intro hCond
    constructor
    · exact hPlanes.mpr hCond
    · exact hLaid.fits hRoom
    · exact hPage hCond

theorem calcOffset_sound_iff (b : BuildFlags) (s : LayoutInfo) (padding : PaddingInfo)
    (type : CamStreamType) (dim : CamDimension) (hSource : layoutSource s = some (type, dim))
    (hRaw : type ≠ .raw) (hVideo : type = .video → b.venus = none) (hDim : EvenDimension dim)
    (hPadding : PowerPadding padding) (hOk : (calcOffset b s padding).1 = 0)
    (hRoom : NoOverflow s (lenPadding type s.fmt padding) (calcOffset b s padding).2) :
    LayoutSound type s.fmt dim (calcOffset b s padding).2 ↔
      SoundWhen b type s.fmt padding dim.width.toNat dim.height.toNat := by
  rw [calcOffset_eq hSource] at hOk hRoom ⊢
  cases type with
  | preview =>
    exact layoutSound_iff (laid_preview hOk) hRoom.frame (fun hFmt _ => preview_page hOk hFmt)
      (preview_sound_iff hDim hPadding hOk hRoom)
  | postview =>
    exact layoutSound_iff (laid_postView hOk) hRoom.frame (fun hFmt _ => postView_page hOk hFmt)
      (postView_sound_iff hDim hOk hRoom)
  | snapshot =>
    exact layoutSound_iff (laid_snapshot hOk) hRoom.frame (fun _ _ => snapshot_page hOk)
      (snapshot_sound_iff hDim hPadding hOk hRoom)
  | video =>
    exact layoutSound_iff (laid_video hOk) hRoom.frame False.elim
      (iff_of_false (video_not_sound hDim (hVideo rfl)) id)
  | metadata =>
    exact layoutSound_iff (laid_metadata hOk) hRoom.frame (fun _ hOther => absurd rfl hOther)
      (iff_of_true (metadata_sound hDim hPadding hRoom) trivial)
  | raw => exact absurd rfl hRaw
  | _ => cases hOk

def smallPicture : CamDimension := { width := 640, height := 360 }

theorem smallPicture_even : EvenDimension smallPicture where
  width_pos := by decide
  width_even := by decide
  width_lt := by decide
  height_pos := by decide
  height_even := by decide
  height_lt := by decide

theorem pagePadding_powers : PowerPadding pagePadding where
  width := ⟨5, rfl⟩
  height := ⟨5, rfl⟩
  plane := ⟨12, rfl⟩

/-- An NV12 stream of a type. -/
def nv12Stream (type : CamStreamType) : LayoutInfo where
  streamType := type
  fmt := .yuv420Nv12
  dim := smallPicture
  featureMask := 0
  turned := false
  reprocess := .online .default
  ppFeatureMask := 0
  tpMetaMaxSize := 0
  bufPlanes := noPlanes

def plainChip : BuildFlags where
  isAFamily := false
  venus := none

theorem preview_layout_sound : LayoutSound .preview .yuv420Nv12 smallPicture
    (calcOffset plainChip (nv12Stream .preview) pagePadding).2 :=
  (calcOffset_sound_iff plainChip (nv12Stream .preview) pagePadding .preview smallPicture rfl
    (by decide) (fun h => nomatch h) smallPicture_even pagePadding_powers rfl
    { strides := by decide
      scanlines := by decide
      products := by decide
      frame := Nat.le_of_ble_eq_true rfl }).mpr (fun h => nomatch h)

/-- The first plane of a video frame has half its height. -/
theorem video_height_halved : ¬∀ (b : BuildFlags) (s : LayoutInfo) (padding : PaddingInfo)
    (type : CamStreamType) (dim : CamDimension), layoutSource s = some (type, dim) →
    type ≠ .raw → (type = .video → b.venus = none) → EvenDimension dim → PowerPadding padding →
    (calcOffset b s padding).1 = 0 →
    NoOverflow s (lenPadding type s.fmt padding) (calcOffset b s padding).2 →
    LayoutSound type s.fmt dim (calcOffset b s padding).2 := by
  intro hAll
  have hSound := hAll plainChip (nv12Stream .video) pagePadding .video smallPicture rfl (by decide)
    (fun _ => rfl) smallPicture_even pagePadding_powers rfl
    { strides := by decide
      scanlines := by decide
      products := by decide
      frame := Nat.le_of_ble_eq_true rfl }
  exact absurd (hSound.planes 0 Nat.zero_lt_two).height_eq (by decide)

end KiwiDevice.Camera

import KiwiDevice.Camera.FrameOffsets
import KiwiDevice.Lib.RoundUp
import KiwiDevice.Lib.Words

/-!
# Planes within their frame

A layout that `mm_stream_calc_offset` computes holds its planes one after the other, unless the sum
of their lengths wraps around.
-/

namespace KiwiDevice.Camera

open Lib

/-- The first byte of a plane, without wrapping around. -/
def planeStart (o : FrameLenOffset) : Nat → Nat := placeOf fun i => (o.mp i).len.toNat

def FitsFrame (o : FrameLenOffset) : Prop := planeStart o o.numPlanes ≤ o.frameLen.toNat

/-- The planes, the extra memory and the last rounding stay within a word. -/
def Roomy (s : LayoutInfo) (o : FrameLenOffset) : Prop :=
  planeStart o o.numPlanes + (truePortraitExtra s).toNat + 4096 ≤ 2 ^ 32

/-- A layout is copied, not computed. -/
def Copied (s : LayoutInfo) : Prop :=
  s.streamType = .offlineProc ∧ ∃ planes, s.reprocess = .offline .default planes

/-- The forms that the computed layouts have. -/
inductive Laid (s : LayoutInfo) : FrameLenOffset → Prop where
  | exact (o : FrameLenOffset) (p : MpLenOffset) : Laid s (o.onePlane p p.len)
  | one (o : FrameLenOffset) (p : MpLenOffset) : Laid s (o.onePlane p (padToSize p.len 4096))
  | two (o : FrameLenOffset) (p₀ p₁ : MpLenOffset) :
    Laid s (o.twoPlanes p₀ p₁ (padToSize (p₀.len + p₁.len) 4096))
  | extra (o : FrameLenOffset) (p₀ p₁ : MpLenOffset) :
    Laid s (o.twoPlanes p₀ p₁ (padToSize (p₀.len + p₁.len + truePortraitExtra s) 4096))
  | three (o : FrameLenOffset) (p₀ p₁ p₂ : MpLenOffset) :
    Laid s (o.threePlanes p₀ p₁ p₂ (padToSize (p₀.len + p₁.len + p₂.len) 4096))
  | rest (o : FrameLenOffset) (p₀ q₁ : MpLenOffset) (frameLen : Word) :
    Laid s (o.twoPlanes p₀ { q₁ with len := frameLen - p₀.len } frameLen)

variable {b : BuildFlags} {s : LayoutInfo} {dim : CamDimension} {padding : PaddingInfo}
  {o : FrameLenOffset} {r : Int × FrameLenOffset}

theorem planeStart_onePlane (p : MpLenOffset) (f : Word) :
    planeStart (o.onePlane p f) 1 = p.len.toNat := by
  simp [planeStart, placeOf, FrameLenOffset.onePlane]

theorem planeStart_twoPlanes (p₀ p₁ : MpLenOffset) (f : Word) :
    planeStart (o.twoPlanes p₀ p₁ f) 2 = p₀.len.toNat + p₁.len.toNat := by
  simp [planeStart, placeOf, FrameLenOffset.twoPlanes, Function.update]

theorem planeStart_threePlanes (p₀ p₁ p₂ : MpLenOffset) (f : Word) :
    planeStart (o.threePlanes p₀ p₁ p₂ f) 3 = p₀.len.toNat + p₁.len.toNat + p₂.len.toNat := by
  simp [planeStart, placeOf, FrameLenOffset.threePlanes, Function.update]

theorem le_padToSize {x : Word} (h : x.toNat + 4096 ≤ 2 ^ 32) :
    x.toNat ≤ (padToSize x 4096).toNat := by
  apply le_roundUp
  rw [show (4096 - 1 : Word).toNat = 4095 from rfl]
  omega

theorem toNat_padToSize {x p : Word} {n k : Nat} (hx : x.toNat = n) (hPow : p.toNat = 2 ^ k)
    (hRoom : n + (2 ^ k - 1) < 2 ^ 32) : (padToSize x p).toNat = roundUp n (2 ^ k) := by
  rw [padToSize, toNat_add_and_not hPow (by rwa [hx, hPow]), hx, hPow]

theorem Laid.fits (h : Laid s o) (hRoom : Roomy s o) : FitsFrame o := by
  cases h with
  | exact o p => exact (planeStart_onePlane p p.len).le
  | one o p =>
    have hLen : planeStart _ 1 = _ := planeStart_onePlane (o := o) p (padToSize p.len 4096)
    have hSize : planeStart _ 1 + _ + 4096 ≤ _ := hRoom
    exact hLen.trans_le (le_padToSize (by omega))
  | two o p₀ p₁ =>
    have hLen : planeStart _ 2 = _ :=
      planeStart_twoPlanes (o := o) p₀ p₁ (padToSize (p₀.len + p₁.len) 4096)
    have hSize : planeStart _ 2 + _ + 4096 ≤ _ := hRoom
    have hSum : (p₀.len + p₁.len).toNat = p₀.len.toNat + p₁.len.toNat := by
      rw [BitVec.toNat_add]
      omega
    exact (hLen.trans hSum.symm).trans_le (le_padToSize (by omega))
  | extra o p₀ p₁ =>
    have hLen : planeStart _ 2 = _ :=
      planeStart_twoPlanes (o := o) p₀ p₁ (padToSize (p₀.len + p₁.len + truePortraitExtra s) 4096)
    have hSize : planeStart _ 2 + _ + 4096 ≤ _ := hRoom
    have hSum : (p₀.len + p₁.len + truePortraitExtra s).toNat =
        p₀.len.toNat + p₁.len.toNat + (truePortraitExtra s).toNat := by
      rw [BitVec.toNat_add, BitVec.toNat_add]
      omega
    have hPlanes : planeStart _ 2 ≤ (p₀.len + p₁.len + truePortraitExtra s).toNat :=
      hLen.trans_le (by omega)
    exact hPlanes.trans (le_padToSize (by omega))
  | three o p₀ p₁ p₂ =>
    have hLen : planeStart _ 3 = _ :=
      planeStart_threePlanes (o := o) p₀ p₁ p₂ (padToSize (p₀.len + p₁.len + p₂.len) 4096)
    have hSize : planeStart _ 3 + _ + 4096 ≤ _ := hRoom
    have hSum : (p₀.len + p₁.len + p₂.len).toNat = p₀.len.toNat + p₁.len.toNat + p₂.len.toNat := by
      rw [BitVec.toNat_add, BitVec.toNat_add]
      omega
    exact (hLen.trans hSum.symm).trans_le (le_padToSize (by omega))
  | rest o p₀ q₁ f =>
    have hLen : planeStart _ 2 = p₀.len.toNat + (f - p₀.len).toNat :=
      planeStart_twoPlanes (o := o) p₀ { q₁ with len := f - p₀.len } f
    have hSize : planeStart _ 2 + _ + 4096 ≤ _ := hRoom
    have hRest : (f - p₀.len).toNat = (2 ^ 32 - p₀.len.toNat + f.toNat) % 2 ^ 32 := BitVec.toNat_sub ..
    -- a first plane beyond the frame would leave a second one that wraps around
    have hFits : p₀.len.toNat + (f - p₀.len).toNat ≤ f.toNat := by omega
    exact hLen.trans_le hFits

/-! ## Every function computes such a layout -/

theorem laid_nv12 (widthPadding heightPadding : Word) :
    Laid s (nv12Layout dim o widthPadding heightPadding) := .two ..

theorem laid_adreno : Laid s (adrenoLayout dim o) := .two ..

theorem laid_yv12 : Laid s (yv12Layout dim o) := .three ..

theorem laid_nv16 : Laid s (nv16Layout dim o) := .two ..

theorem laid_venus (v : Venus) : Laid s (venusLayout dim o v) := .rest ..

/-- Where the result is a success, the layout is a computed one. -/
def LaidIfOk (s : LayoutInfo) (r : Int × FrameLenOffset) : Prop := r.1 = 0 → Laid s r.2

theorem laidIfOk_failed : LaidIfOk s (-1, o) := fun h => nomatch h

theorem Laid.ok (h : Laid s o) : LaidIfOk s (0, o) := fun _ => h

theorem laid_preview : LaidIfOk s (calcOffsetPreview b s dim padding o) := by
  rw [calcOffsetPreview]
  split
  · split
    · exact (laid_nv12 32 2).ok
    · exact (laid_nv12 _ _).ok
  · split
    · exact (laid_nv12 32 2).ok
    · exact (laid_nv12 _ _).ok
  · exact laid_adreno.ok
  · exact laid_yv12.ok
  · exact laid_nv16.ok
  · exact laid_nv16.ok
  · split
    · exact (laid_venus _).ok
    · exact laidIfOk_failed
  · exact laidIfOk_failed

theorem laid_postView : LaidIfOk s (calcOffsetPostView b s dim o) := by
  rw [calcOffsetPostView]
  split
  · exact (laid_nv12 64 64).ok
  · exact (laid_nv12 64 64).ok
  · exact laid_adreno.ok
  · exact laid_yv12.ok
  · exact laid_nv16.ok
  · exact laid_nv16.ok
  · split
    · exact (laid_venus _).ok
    · exact laidIfOk_failed
  · exact laidIfOk_failed

theorem laid_snapshot : LaidIfOk s (calcOffsetSnapshot b s dim padding o) := by
  unfold calcOffsetSnapshot
  dsimp only
  split
  · exact Laid.ok (.extra ..)
  · exact Laid.ok (.extra ..)
  · exact Laid.ok (.three ..)
  · exact Laid.ok (.two ..)
  · exact Laid.ok (.two ..)
  · exact laidIfOk_failed

theorem laid_raw : LaidIfOk s (calcOffsetRaw s dim padding o) := by
  rw [calcOffsetRaw]
  split
  · exact Laid.ok (.one ..)
  · exact laidIfOk_failed

theorem laid_video : LaidIfOk s (calcOffsetVideo b dim o) := by
  rw [calcOffsetVideo]
  split
  · exact (laid_venus _).ok
  · exact Laid.ok (.two ..)

theorem laid_metadata : LaidIfOk s (calcOffsetMetadata dim padding o) := Laid.ok (.exact ..)

theorem laid_byType (type : CamStreamType) :
    LaidIfOk s ((calcOffsetByType b s dim padding o type).getD (-1, o)) := by
  cases type with
  | preview => exact laid_preview
  | postview => exact laid_postView
  | snapshot => exact laid_snapshot
  | video => exact laid_video
  | raw => exact laid_raw
  | metadata => exact laid_metadata
  | _ => exact laidIfOk_failed

theorem laid_postproc (h : ¬ ∃ planes, s.reprocess = .offline .default planes) :
    LaidIfOk s (calcOffsetPostproc b s padding o) := by
  unfold calcOffsetPostproc
  split
  · rename_i planes hSource
    exact absurd ⟨planes, hSource⟩ h
  · exact laid_byType _
  · exact laid_byType _

theorem laid_calcOffset (h : ¬ Copied s) : LaidIfOk s (calcOffset b s padding) := by
  unfold calcOffset
  dsimp only
  split
  · rename_i hType
    exact laid_postproc fun hSource => h ⟨hType, hSource⟩
  · exact laid_byType _

/-- The layouts of `mm_stream_calc_offset` hold their planes. -/
theorem calcOffset_fits (hOk : (calcOffset b s padding).1 = 0) (hCopied : ¬ Copied s)
    (hRoom : Roomy s (calcOffset b s padding).2) : FitsFrame (calcOffset b s padding).2 :=
  (laid_calcOffset hCopied hOk).fits hRoom

/-- A stream before its first layout. -/
def noPlanes : FrameLenOffset where
  numPlanes := 0
  few := by decide
  mp := fun _ => { len := 0, stride := 0, scanline := 0, width := 0, height := 0 }
  frameLen := 0

def pagePadding : PaddingInfo where
  widthPadding := 32
  heightPadding := 32
  planePadding := 4096

end KiwiDevice.Camera

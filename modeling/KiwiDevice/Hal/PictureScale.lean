import KiwiDevice.Hal.StateMachine
import KiwiDevice.Lib.Steps
import Mathlib.Data.List.DropRight

/-!
# Pictures larger than the sensor

`QCameraReprocScaleParam`, and the picture size in `QCameraParameters`. A size that the sensor does
not have is taken with the largest one that it has and scaled when the picture is reprocessed; the
application is not to notice. The ratios of sizes are compared as `double`s, so that test is a
parameter.
-/

namespace KiwiDevice.Hal

structure PictureDim where
  width : Int
  height : Int
  deriving DecidableEq, Repr

/-- By the width first. -/
def PictureDim.larger (d d' : PictureDim) : Bool :=
  decide (d.width > d'.width) || (d.width == d'.width && decide (d.height > d'.height))

def maxScaleSizesCnt : Nat := 8
def maxSizesCnt : Nat := 26

/-- `fabs(supported_ratio - cur_ratio) > ASPECT_TOLERANCE`. -/
abbrev RatioTest := PictureDim → PictureDim → Bool

/-- A table of picture sizes has its count as length. Of `mNeedScaledSizeTbl` the first
`mNeedScaleCnt` are read. -/
structure ReprocScaleParam where
  mScaleEnabled : Bool := false
  mIsUnderScaling : Bool := false
  mNeedScaleCnt : Nat := 0
  mNeedScaledSizeTbl : List PictureDim := List.replicate maxScaleSizesCnt ⟨0, 0⟩
  mSensorSizeTbl : List PictureDim := []
  mPicSizeFromAPK : PictureDim := ⟨0, 0⟩
  mPicSizeSetted : PictureDim := ⟨0, 0⟩

namespace ReprocScaleParam

variable (s : ReprocScaleParam)

/-- Sizes at the end of the table that are not larger than the sensor's first are dropped, then
those of another ratio. -/
def checkScaleSizeTable (far : RatioTest) (scaleTbl orgTbl : List PictureDim) : List PictureDim :=
  match orgTbl with
  | [] => []
  | first :: _ =>
    (scaleTbl.rdropWhile fun d => !d.larger first).filter fun d => !far first d

def setScaleEnable (enabled : Bool) : ReprocScaleParam := { s with mScaleEnabled := enabled }

def setScaleSizeTbl (far : RatioTest) (scaleTbl orgTbl : List PictureDim) :
    ReprocScaleParam × Int :=
  if !s.mScaleEnabled || scaleTbl.isEmpty || orgTbl.isEmpty then
    ({ s with mNeedScaleCnt := 0 }, badValue)
  else
    let found := checkScaleSizeTable far scaleTbl orgTbl
    let s := { s with
      mSensorSizeTbl := orgTbl
      mNeedScaledSizeTbl := found ++ s.mNeedScaledSizeTbl.drop found.length
      mNeedScaleCnt := min found.length maxScaleSizesCnt }
    if found.length = 0 then (s, badValue)
    else if maxSizesCnt < s.mNeedScaleCnt + orgTbl.length then (s, badValue)
    else (s, noError)

def scaleSizes : List PictureDim := s.mNeedScaledSizeTbl.take s.mNeedScaleCnt

def isScalePicSize (d : PictureDim) : Bool := s.scaleSizes.contains d

def isValidatePicSize (d : PictureDim) : Bool :=
  s.mSensorSizeTbl.contains d || s.scaleSizes.contains d

def setSensorSupportedPicSize : ReprocScaleParam × Int :=
  match s.mSensorSizeTbl with
  | first :: _ =>
    if s.mIsUnderScaling then ({ s with mPicSizeSetted := first }, noError) else (s, badValue)
  | [] => (s, badValue)

/-- With the size that is left in `width` and `height`. -/
def setValidatePicSize (d : PictureDim) : ReprocScaleParam × PictureDim × Int :=
  if !s.mScaleEnabled then (s, d, badValue)
  else if s.isScalePicSize d then
    let set := setSensorSupportedPicSize
      { s with mIsUnderScaling := true, mPicSizeFromAPK := d }
    if set.2 = noError then (set.1, set.1.mPicSizeSetted, noError) else (set.1, d, badValue)
  else
    let s := { s with mIsUnderScaling := false }
    if s.isValidatePicSize d then ({ s with mPicSizeSetted := d }, d, noError)
    else (s, d, badValue)

def getPicSizeFromAPK (d : PictureDim) : PictureDim :=
  if s.mIsUnderScaling then s.mPicSizeFromAPK else d

end ReprocScaleParam

/-- What the sensor has. The counts are checked where the default parameters are set. -/
structure PictureCapability where
  pictureSizes : List PictureDim
  scalePictureSizes : List PictureDim
  nonempty : pictureSizes ≠ []
  fits : pictureSizes.length ≤ maxSizesCnt

namespace PictureCapability

variable (cap : PictureCapability)

def first : PictureDim := cap.pictureSizes.head cap.nonempty

def last : PictureDim := cap.pictureSizes.getLast cap.nonempty

/-- Both tables begin with their largest size, that of the scaled sizes is ordered. -/
structure Descending : Prop where
  sensor : ∀ d ∈ cap.pictureSizes, d.larger cap.first = false
  scale : cap.scalePictureSizes.Pairwise fun d d' => d'.larger d = false

end PictureCapability

/-- `QCameraParameters` with the key of the picture size, in the map and in `m_tempMap`. -/
structure PictureParameters where
  reprocScale : ReprocScaleParam := {}
  pictureSize : PictureDim
  tempPictureSize : Option PictureDim := none

namespace PictureParameters

variable (cap : PictureCapability) (far : RatioTest) (p : PictureParameters)

def initDefaultParameters : PictureParameters :=
  let p : PictureParameters := { pictureSize := cap.last }
  if 0 < cap.scalePictureSizes.length ∧ cap.scalePictureSizes.length ≤ maxScaleSizesCnt then
    let set := (p.reprocScale.setScaleEnable true).setScaleSizeTbl far cap.scalePictureSizes
      cap.pictureSizes
    { p with
      reprocScale := if set.2 = noError then set.1 else set.1.setScaleEnable false }
  else { p with reprocScale := p.reprocScale.setScaleEnable false }

/-- The flag is `m_bNeedRestart`; `running` is `m_bZslMode || m_bRecordingHint`. -/
def setPictureSize (running : Bool) (d : PictureDim) : PictureParameters × Int × Bool :=
  if !p.reprocScale.mScaleEnabled then
    if cap.pictureSizes.contains d then
      ({ p with pictureSize := d }, noError, running && d != p.pictureSize)
    else (p, badValue, false)
  else
    let set := p.reprocScale.setValidatePicSize d
    if set.2.2 = noError then
      ({ p with reprocScale := set.1, tempPictureSize := some set.2.1 }, noError,
        running && set.2.1 != p.pictureSize)
    else ({ p with reprocScale := set.1 }, badValue, false)

def initBatchUpdate : PictureParameters := { p with tempPictureSize := none }

def commitSetBatch (setParms : Int) : PictureParameters :=
  if setParms = noError then
    { p with pictureSize := p.tempPictureSize.getD p.pictureSize, tempPictureSize := none }
  else p

def isScaling : Bool := p.reprocScale.mScaleEnabled && p.reprocScale.mIsUnderScaling

/-- While the parameters are written down, the key has the size of the application. -/
def getParameters : PictureParameters × PictureDim :=
  let shown := if p.isScaling then
      { p with pictureSize := p.reprocScale.getPicSizeFromAPK p.pictureSize }
    else p
  (if shown.isScaling then { shown with pictureSize := p.pictureSize } else shown,
    shown.pictureSize)

/-- The part of `getReprocessConfig` for the feature of scaling: the size that pictures are scaled
to, if they are. -/
def scaleOutput : Option PictureDim :=
  if p.isScaling then some (p.reprocScale.getPicSizeFromAPK p.pictureSize) else none

/-- A `setParameters` of the application with the status of the other keys and that of the daemon,
a batch of anything else, or a `getParameters`. -/
inductive Call where
  | setParameters (d : PictureDim) (running : Bool) (others setParms : Int)
  | otherBatch (setParms : Int)
  | getParameters
  deriving Repr

/-- The parameters and the status of `updateParameters`. -/
def updateParameters (d : PictureDim) (running : Bool) (others : Int) :
    PictureParameters × Int × Bool :=
  let set := p.initBatchUpdate.setPictureSize cap running d
  (set.1, if others = noError then set.2.1 else others, set.2.2)

def call : Call → PictureParameters
  | .setParameters d running others setParms =>
    let updated := p.updateParameters cap d running others
    if updated.2.1 = noError then updated.1.commitSetBatch setParms else updated.1
  | .otherBatch setParms => p.initBatchUpdate.commitSetBatch setParms
  | .getParameters => p.getParameters.1

def Next (p : PictureParameters) (c : Call) (_ : List Unit) (p' : PictureParameters) : Prop :=
  p' = p.call cap c

/-- Each `setParameters` is accepted and committed. -/
def Accepted (p : PictureParameters) : Call → Prop
  | .setParameters d running others setParms =>
    (p.updateParameters cap d running others).2.1 = noError ∧ setParms = noError
  | _ => True

def Call.asks (d : PictureDim) : Call → PictureDim
  | setParameters d' _ _ _ => d'
  | _ => d

/-- The size that the application asked for last. -/
def lastAsked (cs : List Call) : PictureDim := cs.foldl Call.asks cap.last

/-! ### Scaled sizes -/

section Tables

variable {cap : PictureCapability} {far : RatioTest}

theorem larger_trans {d d' e : PictureDim} (hLarger : d.larger e = true)
    (hLe : d.larger d' = false) : d'.larger e = true := by
  simp only [PictureDim.larger, Bool.or_eq_true, Bool.or_eq_false_iff, Bool.and_eq_true,
    Bool.and_eq_false_iff, decide_eq_true_eq, decide_eq_false_iff_not, beq_iff_eq,
    beq_eq_false_iff_ne] at hLarger hLe ⊢
  omega

/-- In an ordered table, what stands before a larger size is larger. -/
theorem larger_of_kept {e : PictureDim} {l : List PictureDim}
    (hOrder : l.Pairwise fun d d' => d'.larger d = false) {d : PictureDim}
    (hMem : d ∈ l.rdropWhile fun d => !d.larger e) : d.larger e = true := by
  induction l using List.reverseRecOn with
  | nil => cases hMem
  | append_singleton l x ih =>
    obtain ⟨hFront, -, hLast⟩ := List.pairwise_append.mp hOrder
    rw [List.rdropWhile_concat] at hMem
    split at hMem
    · exact ih hFront hMem
    · rename_i hLarger
      rw [Bool.not_eq_true', Bool.not_eq_false] at hLarger
      obtain hBefore | rfl := List.mem_append.mp hMem |>.imp_right List.mem_singleton.mp
      · exact larger_trans hLarger (hLast d hBefore x (List.mem_singleton.mpr rfl))
      · exact hLarger

theorem mem_checkScaleSizeTable {d : PictureDim} (hMem : d ∈
      ReprocScaleParam.checkScaleSizeTable far cap.scalePictureSizes cap.pictureSizes) :
    d ∈ cap.scalePictureSizes ∧ (cap.Descending → d.larger cap.first = true) := by
  obtain ⟨sizes, scaleSizes, hNonempty, hFits⟩ := cap
  cases sizes with
  | nil => exact absurd rfl hNonempty
  | cons first rest =>
    have hKept := (List.mem_filter.mp hMem).1
    exact ⟨(List.rdropWhile_prefix _ _).subset hKept, fun hDesc => larger_of_kept hDesc.scale hKept⟩

theorem not_mem_pictureSizes (hDesc : cap.Descending) {d : PictureDim} (hMem : d ∈
      ReprocScaleParam.checkScaleSizeTable far cap.scalePictureSizes cap.pictureSizes) :
    d ∉ cap.pictureSizes := by
  intro hSensor
  have hLarger := (mem_checkScaleSizeTable hMem).2 hDesc
  rw [hDesc.sensor d hSensor] at hLarger
  cases hLarger

end Tables

/-! ### The steps -/

section Steps

variable {cap : PictureCapability} {far : RatioTest} {p : PictureParameters} {d : PictureDim}

/-- What holds whatever is refused. -/
structure Sound (cap : PictureCapability) (far : RatioTest) (p : PictureParameters) : Prop where
  key : p.pictureSize ∈ cap.pictureSizes
  temp : ∀ d ∈ p.tempPictureSize, d ∈ cap.pictureSizes
  sensor : p.reprocScale.mScaleEnabled = true → p.reprocScale.mSensorSizeTbl = cap.pictureSizes
  sizes : ∀ d ∈ p.reprocScale.scaleSizes,
    d ∈ ReprocScaleParam.checkScaleSizeTable far cap.scalePictureSizes cap.pictureSizes
  fromAPK : p.isScaling = true → p.reprocScale.mPicSizeFromAPK ∈ p.reprocScale.scaleSizes

theorem isScalePicSize_iff {s : ReprocScaleParam} :
    s.isScalePicSize d = true ↔ d ∈ s.scaleSizes := List.contains_iff_mem

theorem isValidatePicSize_iff {s : ReprocScaleParam} (hScaled : d ∉ s.scaleSizes) :
    s.isValidatePicSize d = true ↔ d ∈ s.mSensorSizeTbl := by
  rw [ReprocScaleParam.isValidatePicSize, Bool.or_eq_true, List.contains_iff_mem,
    List.contains_iff_mem, or_iff_left hScaled]

theorem setSensorSupportedPicSize_eq {s : ReprocScaleParam} (hUnder : s.mIsUnderScaling = true)
    (hSensor : s.mSensorSizeTbl = cap.pictureSizes) :
    s.setSensorSupportedPicSize = ({ s with mPicSizeSetted := cap.first }, noError) := by
  obtain ⟨sizes, scaleSizes, hNonempty, hFits⟩ := cap
  cases sizes with
  | nil => exact absurd rfl hNonempty
  | cons first rest =>
    rw [ReprocScaleParam.setSensorSupportedPicSize, hSensor]
    exact if_pos hUnder

theorem badValue_ne : badValue ≠ noError := by decide

/-- A size is scaled, taken as it is, or refused. -/
theorem setValidatePicSize_cases {s : ReprocScaleParam} (hEnabled : s.mScaleEnabled = true)
    (hSensor : s.mSensorSizeTbl = cap.pictureSizes) (d : PictureDim) :
    (d ∈ s.scaleSizes ∧ s.setValidatePicSize d =
      ({ s with mIsUnderScaling := true, mPicSizeFromAPK := d, mPicSizeSetted := cap.first },
        cap.first, noError)) ∨
    (d ∉ s.scaleSizes ∧ d ∈ cap.pictureSizes ∧ s.setValidatePicSize d =
      ({ s with mIsUnderScaling := false, mPicSizeSetted := d }, d, noError)) ∨
    (d ∉ s.scaleSizes ∧ d ∉ cap.pictureSizes ∧ s.setValidatePicSize d =
      ({ s with mIsUnderScaling := false }, d, badValue)) := by
  rw [ReprocScaleParam.setValidatePicSize, if_neg (by rw [hEnabled]; decide)]
  by_cases hScaled : d ∈ s.scaleSizes
  · left
    refine ⟨hScaled, ?_⟩
    have hFirst := setSensorSupportedPicSize_eq
      (s := { s with mIsUnderScaling := true, mPicSizeFromAPK := d }) rfl hSensor
    rw [if_pos (isScalePicSize_iff.mpr hScaled), hFirst]
    rfl
  · right
    rw [if_neg fun hMem => hScaled (isScalePicSize_iff.mp hMem)]
    have hValid : ReprocScaleParam.isValidatePicSize { s with mIsUnderScaling := false } d = true ↔
        d ∈ cap.pictureSizes := by
      rw [← hSensor]
      exact isValidatePicSize_iff hScaled
    by_cases hKnown : d ∈ cap.pictureSizes
    · left
      exact ⟨hScaled, hKnown, if_pos (hValid.mpr hKnown)⟩
    · right
      exact ⟨hScaled, hKnown, if_neg fun hMem => hKnown (hValid.mp hMem)⟩

/-- All that `setPictureSize` can do. -/
inductive Outcome (cap : PictureCapability) (p : PictureParameters) (running : Bool)
    (d : PictureDim) : PictureParameters × Int × Bool → Prop where
  | plain (hOff : p.reprocScale.mScaleEnabled = false) (hKnown : d ∈ cap.pictureSizes) :
    Outcome cap p running d ({ p with pictureSize := d }, noError, running && d != p.pictureSize)
  | unknown (hOff : p.reprocScale.mScaleEnabled = false) (hUnknown : d ∉ cap.pictureSizes) :
    Outcome cap p running d (p, badValue, false)
  | scaled (hOn : p.reprocScale.mScaleEnabled = true) (hScaled : d ∈ p.reprocScale.scaleSizes) :
    Outcome cap p running d
      ({ p with
          reprocScale := { p.reprocScale with
            mIsUnderScaling := true
            mPicSizeFromAPK := d
            mPicSizeSetted := cap.first }
          tempPictureSize := some cap.first }, noError, running && cap.first != p.pictureSize)
  | unscaled (hOn : p.reprocScale.mScaleEnabled = true) (hNot : d ∉ p.reprocScale.scaleSizes)
      (hKnown : d ∈ cap.pictureSizes) :
    Outcome cap p running d
      ({ p with
          reprocScale := { p.reprocScale with mIsUnderScaling := false, mPicSizeSetted := d }
          tempPictureSize := some d }, noError, running && d != p.pictureSize)
  | refused (hOn : p.reprocScale.mScaleEnabled = true) (hNot : d ∉ p.reprocScale.scaleSizes)
      (hUnknown : d ∉ cap.pictureSizes) :
    Outcome cap p running d
      ({ p with reprocScale := { p.reprocScale with mIsUnderScaling := false } }, badValue, false)

theorem setPictureSize_outcome (hSensor : p.reprocScale.mScaleEnabled = true →
      p.reprocScale.mSensorSizeTbl = cap.pictureSizes) (running : Bool) (d : PictureDim) :
    Outcome cap p running d (p.setPictureSize cap running d) := by
  rw [PictureParameters.setPictureSize]
  cases hEnabled : p.reprocScale.mScaleEnabled with
  | false =>
    rw [if_pos (by decide)]
    split
    · rename_i hKnown
      exact .plain hEnabled (List.contains_iff_mem.mp hKnown)
    · rename_i hUnknown
      exact .unknown hEnabled fun hMem => hUnknown (List.contains_iff_mem.mpr hMem)
  | true =>
    rw [if_neg (by decide)]
    obtain ⟨hScaled, hSet⟩ | ⟨hNot, hKnown, hSet⟩ | ⟨hNot, hUnknown, hSet⟩ :=
      setValidatePicSize_cases hEnabled (hSensor hEnabled) d
    · rw [hSet]
      exact .scaled hEnabled hScaled
    · rw [hSet]
      exact .unscaled hEnabled hNot hKnown
    · rw [hSet]
      exact .refused hEnabled hNot hUnknown

theorem not_isScaling (hUnder : p.reprocScale.mIsUnderScaling = false) : p.isScaling = false := by
  rw [isScaling, hUnder, Bool.and_false]

theorem Sound.outcome (h : Sound cap far p) {running : Bool}
    {q : PictureParameters × Int × Bool} (hOutcome : Outcome cap p running d q) :
    Sound cap far q.1 := by
  cases hOutcome with
  | plain hOff hKnown =>
    exact { h with key := hKnown }
  | unknown hOff hUnknown => exact h
  | scaled hOn hScaled =>
    exact { h with
      temp := by
        rintro _ ⟨⟩
        exact List.head_mem cap.nonempty
      fromAPK := fun _ => hScaled }
  | unscaled hOn hNot hKnown =>
    exact { h with
      temp := by
        rintro _ ⟨⟩
        exact hKnown
      fromAPK := fun hOn => absurd ((not_isScaling rfl).symm.trans hOn) Bool.false_ne_true }
  | refused hOn hNot hUnknown =>
    exact { h with
      fromAPK := fun hOn => absurd ((not_isScaling rfl).symm.trans hOn) Bool.false_ne_true }

theorem Sound.initBatchUpdate (h : Sound cap far p) : Sound cap far p.initBatchUpdate :=
  { h with
    temp := by
      intro d hMem
      cases hMem }

theorem Sound.commitSetBatch (h : Sound cap far p) (setParms : Int) :
    Sound cap far (p.commitSetBatch setParms) := by
  rw [PictureParameters.commitSetBatch]
  split
  · exact { h.initBatchUpdate with
      key := by
        change p.tempPictureSize.getD p.pictureSize ∈ cap.pictureSizes
        cases hTemp : p.tempPictureSize with
        | none => exact h.key
        | some d => exact h.temp d hTemp }
  · exact h

/-- Writing the parameters down leaves them as they are. -/
theorem getParameters_fst (p : PictureParameters) : p.getParameters.1 = p := by
  cases hScaling : p.isScaling with
  | false => simp only [getParameters, hScaling, Bool.false_eq_true, if_false]
  | true =>
    simp only [getParameters, hScaling, if_true]
    exact if_pos hScaling

theorem Sound.call (h : Sound cap far p) (c : Call) : Sound cap far (p.call cap c) := by
  cases c with
  | setParameters d running others setParms =>
    have hSet := h.initBatchUpdate.outcome
      (setPictureSize_outcome h.initBatchUpdate.sensor running d)
    rw [PictureParameters.call]
    split
    · exact hSet.commitSetBatch setParms
    · exact hSet
  | otherBatch setParms => exact h.initBatchUpdate.commitSetBatch setParms
  | getParameters =>
    rw [PictureParameters.call, getParameters_fst]
    exact h

theorem setScaleSizeTbl_spec (far : RatioTest) (s : ReprocScaleParam)
    (scaleTbl orgTbl : List PictureDim) :
    (∀ d ∈ (s.setScaleSizeTbl far scaleTbl orgTbl).1.scaleSizes,
      d ∈ ReprocScaleParam.checkScaleSizeTable far scaleTbl orgTbl) ∧
    ((s.setScaleSizeTbl far scaleTbl orgTbl).2 = noError →
      (s.setScaleSizeTbl far scaleTbl orgTbl).1.mSensorSizeTbl = orgTbl) ∧
    (s.setScaleSizeTbl far scaleTbl orgTbl).1.mIsUnderScaling = s.mIsUnderScaling := by
  have hTake : ∀ found old : List PictureDim,
      ∀ d ∈ (found ++ old).take (min found.length maxScaleSizesCnt), d ∈ found := by
    intro found old d hMem
    rw [List.take_append_of_le_length (Nat.min_le_left _ _)] at hMem
    exact List.mem_of_mem_take hMem
  rw [ReprocScaleParam.setScaleSizeTbl]
  split
  · refine ⟨?_, fun hFailed => absurd hFailed badValue_ne, rfl⟩
    intro d hMem
    cases hMem
  · dsimp only
    split
    · exact ⟨hTake _ _, fun _ => rfl, rfl⟩
    · split <;> exact ⟨hTake _ _, fun _ => rfl, rfl⟩

theorem initDefaultParameters_under (cap : PictureCapability) (far : RatioTest) :
    (initDefaultParameters cap far).isScaling = false ∧
      (initDefaultParameters cap far).pictureSize = cap.last ∧
      (initDefaultParameters cap far).tempPictureSize = none := by
  rw [initDefaultParameters]
  split
  · refine ⟨not_isScaling ?_, rfl, rfl⟩
    have hSpec := (setScaleSizeTbl_spec far (ReprocScaleParam.setScaleEnable {} true)
      cap.scalePictureSizes cap.pictureSizes).2.2
    dsimp only
    split <;> exact hSpec
  · exact ⟨rfl, rfl, rfl⟩

theorem initDefaultParameters_sound (cap : PictureCapability) (far : RatioTest) :
    Sound cap far (initDefaultParameters cap far) := by
  obtain ⟨hScaling, hKey, hTemp⟩ := initDefaultParameters_under cap far
  obtain ⟨hSizes, hSensor, -⟩ := setScaleSizeTbl_spec far
    (ReprocScaleParam.setScaleEnable {} true) cap.scalePictureSizes cap.pictureSizes
  exact {
    key := by
      rw [hKey]
      exact List.getLast_mem cap.nonempty
    temp := by
      rw [hTemp]
      rintro _ ⟨⟩
    sensor := by
      rw [initDefaultParameters]
      split
      · dsimp only
        split
        · rename_i hDone
          exact fun _ => hSensor hDone
        · exact fun hOn => absurd hOn Bool.false_ne_true
      · exact fun hOn => absurd hOn Bool.false_ne_true
    sizes := by
      rw [initDefaultParameters]
      split
      · dsimp only
        split <;> exact hSizes
      · intro d hMem
        cases hMem
    fromAPK := fun hOn => absurd (hScaling.symm.trans hOn) Bool.false_ne_true }

/-- The sensor's size is one of its own, whatever is refused. -/
theorem sound_of_run {cs : List Call} {os : List Unit}
    (run : Lib.Steps (Next cap) Lib.anyStep (initDefaultParameters cap far) cs os p) :
    Sound cap far p := by
  refine run.invariant (initDefaultParameters_sound cap far) ?_
  rintro _ _ p c _ _ - h rfl
  exact h.call c

/-! ### The size that the application sees -/

/-- What holds when each `setParameters` is accepted: pictures have the size that was asked for,
taken as it is or scaled from the sensor's first. -/
structure Shows (cap : PictureCapability) (far : RatioTest) (asked : PictureDim)
    (p : PictureParameters) : Prop where
  sound : Sound cap far p
  committed : p.tempPictureSize = none
  size : (p.isScaling = false ∧ p.pictureSize = asked) ∨
    (p.isScaling = true ∧ p.pictureSize = cap.first ∧ p.reprocScale.mPicSizeFromAPK = asked)

variable {asked : PictureDim}

theorem Shows.scaleOutput (h : Shows cap far asked p) :
    p.scaleOutput.getD p.pictureSize = asked := by
  obtain ⟨hScaling, hKey⟩ | ⟨hScaling, -, hAsked⟩ := h.size
  · rw [PictureParameters.scaleOutput, hScaling]
    exact hKey
  · have hUnder := (Bool.and_eq_true _ _ |>.mp hScaling).2
    rw [PictureParameters.scaleOutput, hScaling, ReprocScaleParam.getPicSizeFromAPK, hUnder]
    exact hAsked

theorem getParameters_eq (p : PictureParameters) :
    p.getParameters = (p, p.scaleOutput.getD p.pictureSize) := by
  refine Prod.ext (getParameters_fst p) ?_
  cases hScaling : p.isScaling with
  | false =>
    simp only [getParameters, PictureParameters.scaleOutput, hScaling, Bool.false_eq_true, if_false]
    rfl
  | true =>
    simp only [getParameters, PictureParameters.scaleOutput, hScaling, if_true]
    rfl

theorem initBatchUpdate_eq (h : p.tempPictureSize = none) : p.initBatchUpdate = p := by
  obtain ⟨scale, key, temp⟩ := p
  obtain rfl : temp = none := h
  rfl

theorem Shows.commit (h : Shows cap far asked p) (setParms : Int) :
    p.commitSetBatch setParms = p := by
  rw [commitSetBatch]
  split
  · rw [h.committed]
    exact initBatchUpdate_eq h.committed
  · rfl

/-- A size that is accepted is shown. -/
theorem Shows.outcome (h : Shows cap far asked p) {running : Bool} {d : PictureDim}
    {q : PictureParameters × Int × Bool} (hOutcome : Outcome cap p running d q)
    (hDone : q.2.1 = noError) : Shows cap far d (q.1.commitSetBatch noError) := by
  have hSound := (h.sound.outcome hOutcome).commitSetBatch noError
  rw [commitSetBatch, if_pos rfl] at hSound ⊢
  refine ⟨hSound, rfl, ?_⟩
  cases hOutcome with
  | plain hOff hKnown =>
    refine .inl ⟨?_, ?_⟩
    · exact (congrArg (· && _) hOff).trans (Bool.false_and _)
    · rw [h.committed]
      rfl
  | unknown hOff hUnknown => exact absurd hDone badValue_ne
  | scaled hOn hScaled => exact .inr ⟨(congrArg (· && _) hOn).trans (Bool.true_and _), rfl, rfl⟩
  | unscaled hOn hNot hKnown => exact .inl ⟨not_isScaling rfl, rfl⟩
  | refused hOn hNot hUnknown => exact absurd hDone badValue_ne

/-- What is shown can be set again: no restart is needed, and the sensor keeps its size. -/
theorem Shows.again (h : Shows cap far asked p) (hDesc : cap.Descending) {running : Bool}
    {q : PictureParameters × Int × Bool} (hOutcome : Outcome cap p running asked q) :
    q.2 = (noError, false) ∧ (q.1.commitSetBatch noError).pictureSize = p.pictureSize := by
  have hSame : ∀ d : PictureDim, (running && d != d) = false := fun d => by
    rw [bne_self_eq_false, Bool.and_false]
  obtain ⟨hScaling, rfl⟩ | ⟨hScaling, hKey, rfl⟩ := h.size
  · have hNot := fun hMem => not_mem_pictureSizes hDesc (h.sound.sizes _ hMem) h.sound.key
    cases hOutcome with
    | plain hOff hKnown =>
      refine ⟨congrArg (noError, ·) (hSame _), ?_⟩
      rw [h.committed]
      rfl
    | unscaled hOn hNot hKnown => exact ⟨congrArg (noError, ·) (hSame _), rfl⟩
    | scaled hOn hScaled => exact absurd hScaled hNot
    | unknown hOff hUnknown | refused hOn hNot hUnknown => exact absurd h.sound.key hUnknown
  · have hOn := (Bool.and_eq_true _ _ |>.mp hScaling).1
    have hScaled := h.sound.fromAPK hScaling
    cases hOutcome with
    | plain hOff hKnown | unknown hOff hUnknown => exact absurd (hOff.symm.trans hOn) (by decide)
    | scaled hOn hScaled =>
      rw [hKey]
      exact ⟨congrArg (noError, ·) (hSame _), rfl⟩
    | unscaled hOn hNot hKnown | refused hOn hNot hUnknown => exact absurd hScaled hNot

theorem Shows.call (h : Shows cap far asked p) {c : Call} (hAccepted : p.Accepted cap c) :
    Shows cap far (c.asks asked) (p.call cap c) := by
  cases c with
  | setParameters d running others setParms =>
    obtain ⟨hDone, rfl⟩ := hAccepted
    rw [PictureParameters.call, if_pos hDone]
    have hSet : (p.initBatchUpdate.setPictureSize cap running d).2.1 = noError := by
      change (if others = noError then _ else others) = noError at hDone
      split at hDone
      · exact hDone
      · exact absurd hDone ‹_›
    rw [initBatchUpdate_eq h.committed] at hSet
    change Shows cap far d
      ((p.initBatchUpdate.setPictureSize cap running d).1.commitSetBatch noError)
    rw [initBatchUpdate_eq h.committed]
    exact h.outcome (setPictureSize_outcome h.sound.sensor running d) hSet
  | otherBatch setParms =>
    rw [PictureParameters.call, initBatchUpdate_eq h.committed, h.commit]
    exact h
  | getParameters =>
    rw [PictureParameters.call, getParameters_eq]
    exact h

theorem initDefaultParameters_shows (cap : PictureCapability) (far : RatioTest) :
    Shows cap far cap.last (initDefaultParameters cap far) := by
  obtain ⟨hScaling, hKey, hTemp⟩ := initDefaultParameters_under cap far
  exact ⟨initDefaultParameters_sound cap far, hTemp, .inl ⟨hScaling, hKey⟩⟩

/-- While the application's settings are accepted, it reads the size back that it asked for last and
gets pictures of it, which are scaled up when the sensor does not have the size; the sensor's is
always one of its own. Setting what was read needs no restart and leaves the sensor's size. -/
theorem asked_size_shown (hDesc : cap.Descending) {cs : List Call} {os : List Unit}
    (run : Lib.Steps (Next cap) (fun _ _ p c _ => p.Accepted cap c)
      (initDefaultParameters cap far) cs os p) :
    p.getParameters = (p, lastAsked cap cs) ∧
      p.scaleOutput.getD p.pictureSize = lastAsked cap cs ∧
      p.pictureSize ∈ cap.pictureSizes ∧
      (∀ d ∈ p.scaleOutput, d ∈ cap.scalePictureSizes ∧ d.larger p.pictureSize = true) ∧
      ∀ running, (p.updateParameters cap (lastAsked cap cs) running noError).2 = (noError, false) ∧
        (p.call cap (.setParameters (lastAsked cap cs) running noError noError)).pictureSize =
          p.pictureSize := by
  have h : Shows cap far (lastAsked cap cs) p := by
    refine run.history (I := fun cs _ p => Shows cap far (lastAsked cap cs) p)
      (initDefaultParameters_shows cap far) ?_
    rintro cs _ p c _ _ hAccepted h rfl
    rw [lastAsked, List.foldl_append]
    exact h.call hAccepted
  refine ⟨?_, h.scaleOutput, h.sound.key, ?_, ?_⟩
  · rw [getParameters_eq, h.scaleOutput]
  · intro d hMem
    cases hScaling : p.isScaling with
    | false =>
      rw [PictureParameters.scaleOutput, hScaling] at hMem
      cases hMem
    | true =>
      have hAsked := h.scaleOutput
      rw [Option.mem_def.mp hMem, Option.getD_some] at hAsked
      subst hAsked
      obtain ⟨hNot, -⟩ | ⟨-, hKey, hFromAPK⟩ := h.size
      · exact absurd (hNot.symm.trans hScaling) Bool.false_ne_true
      · obtain ⟨hTable, hLarger⟩ :=
          mem_checkScaleSizeTable (h.sound.sizes _ (hFromAPK ▸ h.sound.fromAPK hScaling))
        exact ⟨hTable, hKey ▸ hLarger hDesc⟩
  · intro running
    obtain ⟨hDone, hKey⟩ :=
      h.again hDesc (setPictureSize_outcome h.sound.sensor running (lastAsked cap cs))
    rw [← initBatchUpdate_eq h.committed] at hDone hKey
    have hUpdated : (p.updateParameters cap (lastAsked cap cs) running noError).2 =
        (noError, false) := hDone
    refine ⟨hUpdated, ?_⟩
    rw [PictureParameters.call, if_pos (by rw [hUpdated])]
    exact hKey

end Steps

/-- A sensor of the ratio 4:3. -/
def wideSensor : PictureCapability where
  pictureSizes := [⟨4160, 3120⟩, ⟨2048, 1536⟩]
  scalePictureSizes := [⟨4608, 3456⟩]
  nonempty := by decide
  fits := by decide

def ratiosDiffer : RatioTest := fun d d' => d.width * d'.height != d'.width * d.height

theorem asked_size_shown_scaled : ∃ p : PictureParameters,
    p.getParameters = (p, ⟨4608, 3456⟩) ∧ p.pictureSize = ⟨4160, 3120⟩ := by
  have hDesc : wideSensor.Descending := ⟨by decide, by decide⟩
  have hAccepted : (initDefaultParameters wideSensor ratiosDiffer).Accepted wideSensor
      (.setParameters ⟨4608, 3456⟩ true 0 0) := ⟨by decide, rfl⟩
  have run : Lib.Steps (Next wideSensor) (fun _ _ p c _ => p.Accepted wideSensor c)
      (initDefaultParameters wideSensor ratiosDiffer) _ _ _ :=
    .step (o := []) .start hAccepted rfl
  exact ⟨_, (asked_size_shown hDesc run).1, by decide⟩

end PictureParameters

end KiwiDevice.Hal

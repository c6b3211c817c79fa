import Mathlib.Algebra.Order.Field.Rat
import Mathlib.Tactic.Linarith

/-!
# Thermal levels

`calcThermalLevel` turns a thermal level into a range of frame rates, which `updateThermalLevel`
commits. The rates are exact numbers here; a field that is not assigned is `none`.
-/

namespace KiwiDevice.Hal

inductive ThermalLevel where
  | noAdjustment
  | slightAdjustment
  | bigAdjustment
  | maxAdjustment
  | shutdown
  deriving DecidableEq, Repr

inductive ThermalMode where
  | adjustFps
  | adjustFrameskip
  deriving DecidableEq, Repr

inductive SkipPattern where
  | noSkip
  | every2Frame
  | every4Frame
  | maxSkip
  deriving DecidableEq, Repr

structure FpsRange where
  minFps : Option ℚ
  maxFps : Option ℚ
  videoMinFps : Option ℚ
  videoMaxFps : Option ℚ
  deriving DecidableEq

/-- The configured ranges in 1/1000 fps, the video range in HFR mode, and `min_fps` of the entries
of the capability table. -/
structure FpsConfig where
  minFPS : Int
  maxFPS : Int
  hfrFps : Option (ℚ × ℚ)
  fpsRangesTbl : List ℚ
  recordingHint : Bool

/-- What `calcThermalLevel` leaves in its two output parameters, and whether it reports that the
camera is closed. -/
structure ThermalResult where
  adjustedRange : FpsRange
  skipPattern : Option SkipPattern
  serverDied : Bool
  deriving DecidableEq

/-- What `updateThermalLevel` sends to the camera. -/
inductive ThermalCommit where
  | fpsRange (range : FpsRange)
  | frameSkip (pattern : Option SkipPattern)
  deriving DecidableEq

structure ThermalState where
  mCameraOpened : Bool
  thermalMode : ThermalMode
  config : FpsConfig
  mThermalLevel : ThermalLevel

namespace FpsConfig

def videoFps (c : FpsConfig) : ℚ × ℚ := c.hfrFps.getD (c.minFPS, c.maxFPS)

/-- The configured range. -/
def unadjusted (c : FpsConfig) : FpsRange where
  minFps := some (c.minFPS / 1000)
  maxFps := some (c.maxFPS / 1000)
  videoMinFps := some (c.videoFps.1 / 1000)
  videoMaxFps := some (c.videoFps.2 / 1000)

def atLeastOne (fps : ℚ) : ℚ := if fps < 1 then 1 else fps

/-- The configured range divided by `n`. -/
def divided (c : FpsConfig) (n : ℚ) : FpsRange where
  minFps := some (atLeastOne (c.minFPS / n / 1000))
  maxFps := some (atLeastOne (c.maxFPS / n / 1000))
  videoMinFps := some (atLeastOne (c.videoFps.1 / n / 1000))
  videoMaxFps := some (atLeastOne (c.videoFps.2 / n / 1000))

/-- The lowest minimum of the table, and not more than the configured one. -/
def lowest (c : FpsConfig) : ℚ :=
  c.fpsRangesTbl.foldl (fun low minFps => if minFps < low then minFps else low) (c.minFPS / 1000)

def calcThermalLevel (c : FpsConfig) (level : ThermalLevel) (adjustedRange : FpsRange)
    (skipPattern : Option SkipPattern) : ThermalResult :=
  let r : ThermalResult :=
    match level with
    | .noAdjustment => ⟨c.unadjusted, some .noSkip, false⟩
    | .slightAdjustment => ⟨c.divided 2, some .every2Frame, false⟩
    | .bigAdjustment => ⟨c.divided 4, some .every4Frame, false⟩
    | .maxAdjustment => ⟨⟨some c.lowest, some c.lowest, some c.lowest, some c.lowest⟩, some .maxSkip, false⟩
    | .shutdown => ⟨adjustedRange, skipPattern, true⟩
  if level ≠ .shutdown ∧ c.recordingHint then
    { r with adjustedRange := c.unadjusted, skipPattern := some .noSkip }
  else r

end FpsConfig

namespace ThermalState

/-- The locals of `updateThermalLevel` are not initialised. -/
def updateThermalLevel (level : ThermalLevel) (s : ThermalState) :
    ThermalState × Option ThermalCommit :=
  if s.mCameraOpened = false then (s, none)
  else
    let r := s.config.calcThermalLevel level ⟨none, none, none, none⟩ none
    let commit : ThermalCommit :=
      match s.thermalMode with
      | .adjustFps => .fpsRange r.adjustedRange
      | .adjustFrameskip => .frameSkip r.skipPattern
    ({ s with mThermalLevel := level }, some commit)

def Commits (s : ThermalState) (level : ThermalLevel) (range : FpsRange) : Prop :=
  (s.updateThermalLevel level).2 = some (.fpsRange range)

/-- A configured range and a table as they can be, without a recording hint. -/
structure Configured (c : FpsConfig) : Prop where
  recordingHint : c.recordingHint = false
  minFPS : 0 < c.minFPS
  maxFPS : c.minFPS ≤ c.maxFPS
  oneFps : 1000 ≤ c.maxFPS
  hfrFps : ∀ fps ∈ c.hfrFps, 0 < fps.1 ∧ fps.1 ≤ fps.2 ∧ 1000 ≤ fps.2
  table : ∀ minFps ∈ c.fpsRangesTbl, 0 < minFps

/-- All fields are assigned, to ranges that are not empty, within the configured maximum. -/
structure WellDefined (c : FpsConfig) (range : FpsRange) : Prop where
  preview : ∃ lo hi, range.minFps = some lo ∧ range.maxFps = some hi ∧ 0 < lo ∧ lo ≤ hi ∧ hi ≤ c.maxFPS / 1000
  video : ∃ lo hi, range.videoMinFps = some lo ∧ range.videoMaxFps = some hi ∧ 0 < lo ∧ lo ≤ hi

/-- The maximum of the one range is not above that of the other. -/
def NotAbove (range other : FpsRange) : Prop :=
  ∀ hi ∈ range.maxFps, ∀ hi' ∈ other.maxFps, hi ≤ hi'

variable {s : ThermalState} {c : FpsConfig} {level : ThermalLevel} {range : FpsRange} {fps fps' : ℚ}

theorem le_atLeastOne (fps : ℚ) : fps ≤ FpsConfig.atLeastOne fps := by
  rw [FpsConfig.atLeastOne]
  split
  · rename_i h
    exact h.le
  · exact le_refl fps

theorem one_le_atLeastOne (fps : ℚ) : 1 ≤ FpsConfig.atLeastOne fps := by
  rw [FpsConfig.atLeastOne]
  split
  · exact le_refl 1
  · rename_i h
    exact not_lt.mp h

theorem atLeastOne_le (h : fps ≤ fps') (hOne : 1 ≤ fps') : FpsConfig.atLeastOne fps ≤ fps' := by
  rw [FpsConfig.atLeastOne]
  split
  · exact hOne
  · exact h

theorem atLeastOne_mono (h : fps ≤ fps') : FpsConfig.atLeastOne fps ≤ FpsConfig.atLeastOne fps' :=
  atLeastOne_le (h.trans (le_atLeastOne fps')) (one_le_atLeastOne fps')

theorem atLeastOne_eq_max (fps : ℚ) : FpsConfig.atLeastOne fps = max fps 1 := by
  apply le_antisymm
  · exact atLeastOne_le (le_max_left fps 1) (le_max_right fps 1)
  · exact max_le (le_atLeastOne fps) (one_le_atLeastOne fps)

theorem lowest_le_iff (c : FpsConfig) (fps : ℚ) :
    c.lowest ≤ fps ↔ ∃ minFps ∈ (c.minFPS / 1000 : ℚ) :: c.fpsRangesTbl, minFps ≤ fps := by
  rw [FpsConfig.lowest]
  generalize (c.minFPS / 1000 : ℚ) = low
  induction c.fpsRangesTbl generalizing low with
  | nil => simp
  | cons minFps table ih =>
    rw [List.foldl_cons, ih]
    simp only [List.mem_cons, exists_eq_or_imp]
    split
    · rename_i h
      have hSkip : low ≤ fps → minFps ≤ fps := h.le.trans
      tauto
    · rename_i h
      have hSkip : minFps ≤ fps → low ≤ fps := (not_lt.mp h).trans
      tauto

theorem lowest_pos (h : Configured c) : 0 < c.lowest := by
  by_contra hNot
  obtain ⟨minFps, hMem, hLe⟩ := (lowest_le_iff c 0).mp (not_lt.mp hNot)
  cases hMem with
  | head =>
    have hMin : (0 : ℚ) < c.minFPS := Int.cast_pos.mpr h.minFPS
    linarith
  | tail _ hTable => exact absurd (h.table minFps hTable) (not_lt.mpr hLe)

theorem lowest_le_min (c : FpsConfig) : c.lowest ≤ c.minFPS / 1000 :=
  (lowest_le_iff c _).mpr ⟨_, List.mem_cons_self, le_refl _⟩

theorem min_le_max (h : Configured c) : (c.minFPS / 1000 : ℚ) ≤ c.maxFPS / 1000 := by
  have hMax : (c.minFPS : ℚ) ≤ c.maxFPS := Int.cast_le.mpr h.maxFPS
  linarith

theorem one_le_max (h : Configured c) : (1 : ℚ) ≤ c.maxFPS / 1000 := by
  have hOne : ((1000 : Int) : ℚ) ≤ c.maxFPS := Int.cast_le.mpr h.oneFps
  norm_num at hOne
  linarith

theorem videoFps_ordered (h : Configured c) :
    0 < c.videoFps.1 ∧ c.videoFps.1 ≤ c.videoFps.2 := by
  rw [FpsConfig.videoFps]
  cases hHfr : c.hfrFps with
  | none => exact ⟨Int.cast_pos.mpr h.minFPS, Int.cast_le.mpr h.maxFPS⟩
  | some fps =>
    have hFps := h.hfrFps fps hHfr
    exact ⟨hFps.1, hFps.2.1⟩

theorem unadjusted_wellDefined (h : Configured c) : WellDefined c c.unadjusted := by
  have hMin : (0 : ℚ) < c.minFPS := Int.cast_pos.mpr h.minFPS
  have hVideo := videoFps_ordered h
  constructor
  · exact ⟨_, _, rfl, rfl, by linarith, min_le_max h, le_refl _⟩
  · exact ⟨_, _, rfl, rfl, by linarith, by linarith⟩

theorem divided_le_divided (hPos : 0 < fps) (hLe : fps ≤ fps') (lo : ℚ) (hLo : 0 ≤ lo) :
    lo / fps' / 1000 ≤ lo / fps / 1000 := by
  have hDiv : lo / fps' ≤ lo / fps := div_le_div_of_nonneg_left hLo hPos hLe
  linarith

theorem divided_wellDefined (h : Configured c) {n : ℚ} (hOne : 1 ≤ n) :
    WellDefined c (c.divided n) := by
  have hPos : 0 < n := lt_of_lt_of_le one_pos hOne
  have hMin : (0 : ℚ) < c.minFPS := Int.cast_pos.mpr h.minFPS
  have hMax := min_le_max h
  have hVideo := videoFps_ordered h
  have hScale : ∀ lo hi : ℚ, lo ≤ hi → lo / n / 1000 ≤ hi / n / 1000 := by
    intro lo hi hLe
    have hDiv : lo / n ≤ hi / n := (div_le_div_iff_of_pos_right hPos).mpr hLe
    linarith
  have hWhole : (c.maxFPS / n / 1000 : ℚ) ≤ c.maxFPS / 1000 := by
    have hDivided := divided_le_divided one_pos hOne c.maxFPS (by linarith)
    rwa [div_one] at hDivided
  constructor
  · refine ⟨_, _, rfl, rfl, ?_, ?_, ?_⟩
    · exact lt_of_lt_of_le one_pos (one_le_atLeastOne _)
    · exact atLeastOne_mono (hScale _ _ (by linarith))
    · exact atLeastOne_le hWhole (one_le_max h)
  · refine ⟨_, _, rfl, rfl, ?_, ?_⟩
    · exact lt_of_lt_of_le one_pos (one_le_atLeastOne _)
    · exact atLeastOne_mono (hScale _ _ hVideo.2)

theorem lowest_wellDefined (h : Configured c) :
    WellDefined c ⟨some c.lowest, some c.lowest, some c.lowest, some c.lowest⟩ := by
  have hPos := lowest_pos h
  have hMax : c.lowest ≤ c.maxFPS / 1000 := (lowest_le_min c).trans (min_le_max h)
  constructor
  · exact ⟨_, _, rfl, rfl, hPos, le_refl _, hMax⟩
  · exact ⟨_, _, rfl, rfl, hPos, le_refl _⟩

/-- The range that a level other than `SHUTDOWN` assigns. -/
def assigned (c : FpsConfig) : ThermalLevel → FpsRange
  | .noAdjustment => c.unadjusted
  | .slightAdjustment => c.divided 2
  | .bigAdjustment => c.divided 4
  | .maxAdjustment => ⟨some c.lowest, some c.lowest, some c.lowest, some c.lowest⟩
  | .shutdown => ⟨none, none, none, none⟩

theorem commits_assigned (hRecord : s.config.recordingHint = false) (h : s.Commits level range) :
    range = assigned s.config level := by
  rw [Commits, updateThermalLevel] at h
  split at h
  · cases h
  · cases hMode : s.thermalMode with
    | adjustFps =>
      cases level <;> simp [FpsConfig.calcThermalLevel, hMode, hRecord] at h <;> exact h.symm
    | adjustFrameskip => simp [hMode] at h

theorem assigned_wellDefined (h : Configured c) (hLevel : level ≠ .shutdown) :
    WellDefined c (assigned c level) := by
  cases level with
  | noAdjustment => exact unadjusted_wellDefined h
  | slightAdjustment => exact divided_wellDefined h (by norm_num)
  | bigAdjustment => exact divided_wellDefined h (by norm_num)
  | maxAdjustment => exact lowest_wellDefined h
  | shutdown => exact absurd rfl hLevel

theorem notAbove_some {hi hi' : ℚ} (h : range.maxFps = some hi) {other : FpsRange}
    (hOther : other.maxFps = some hi') : NotAbove range other ↔ hi ≤ hi' := by
  simp [NotAbove, h, hOther]

theorem slight_notAbove_no (h : Configured c) : NotAbove (c.divided 2) c.unadjusted := by
  obtain ⟨_, hi, _, hHi, _, _, hLe⟩ := (divided_wellDefined h (n := 2) (by norm_num)).preview
  exact (notAbove_some hHi rfl).mpr hLe

theorem big_notAbove_slight (h : Configured c) : NotAbove (c.divided 4) (c.divided 2) := by
  have hOne := one_le_max h
  apply (notAbove_some rfl rfl).mpr
  apply atLeastOne_mono
  exact divided_le_divided two_pos (by norm_num) c.maxFPS (by linarith)

/-- The frame rate does not rise with the level up to `BIG`. `MAX` does not look at the configured
maximum, and raises the rate of `BIG` unless some minimum is low enough. -/
theorem thermal_ranges (h : Configured s.config) :
    (∀ level range, level ≠ .shutdown → s.Commits level range → WellDefined s.config range) ∧
      (∀ no slight, s.Commits .noAdjustment no → s.Commits .slightAdjustment slight →
        NotAbove slight no) ∧
      (∀ slight big, s.Commits .slightAdjustment slight → s.Commits .bigAdjustment big →
        NotAbove big slight) ∧
      ∀ big most, s.Commits .bigAdjustment big → s.Commits .maxAdjustment most →
        (NotAbove most big ↔
          ∃ minFps ∈ (s.config.minFPS / 1000 : ℚ) :: s.config.fpsRangesTbl,
            minFps ≤ max ((s.config.maxFPS : ℚ) / 4 / 1000) 1) := by
  have hCommits : ∀ level range, s.Commits level range → range = assigned s.config level :=
    fun level range hC => commits_assigned h.recordingHint hC
  refine ⟨?_, ?_, ?_, ?_⟩
  · intro level range hLevel hC
    rw [hCommits level range hC]
    exact assigned_wellDefined h hLevel
  · intro no slight hNo hSlight
    rw [hCommits _ no hNo, hCommits _ slight hSlight]
    exact slight_notAbove_no h
  · intro slight big hSlight hBig
    rw [hCommits _ slight hSlight, hCommits _ big hBig]
    exact big_notAbove_slight h
  · intro big most hBig hMost
    rw [hCommits _ big hBig, hCommits _ most hMost, ← lowest_le_iff, ← atLeastOne_eq_max]
    exact notAbove_some rfl rfl

/-- Thirty frames a second are configured, and the table has an entry of fifteen. -/
def thirtyFps : ThermalState where
  mCameraOpened := true
  thermalMode := .adjustFps
  config := ⟨30000, 30000, none, [15], false⟩
  mThermalLevel := .noAdjustment

theorem thirtyFps_configured : Configured thirtyFps.config := by
  constructor <;> simp [thirtyFps]

theorem thirtyFps_wellDefined :
    WellDefined thirtyFps.config (assigned thirtyFps.config .maxAdjustment) ∧
      NotAbove (thirtyFps.config.divided 4) (thirtyFps.config.divided 2) :=
  have hRanges := thermal_ranges (s := thirtyFps) thirtyFps_configured
  ⟨hRanges.1 .maxAdjustment _ (by decide) rfl, hRanges.2.2.1 _ _ rfl rfl⟩

/-- `BIG` commits 7.5 fps there, `MAX` 15, and `SHUTDOWN` commits what the stack held. -/
theorem thirtyFps_rises :
    Configured thirtyFps.config ∧
      thirtyFps.Commits .shutdown ⟨none, none, none, none⟩ ∧
      ∃ big most, thirtyFps.Commits .bigAdjustment big ∧ thirtyFps.Commits .maxAdjustment most ∧
        big.maxFps = some (15 / 2) ∧ most.maxFps = some 15 ∧ ¬ NotAbove most big := by
  have hLowest : thirtyFps.config.lowest = 15 := by
    norm_num [thirtyFps, FpsConfig.lowest]
  have hBig : (thirtyFps.config.divided 4).maxFps = some (15 / 2) := by
    norm_num [thirtyFps, FpsConfig.divided, FpsConfig.atLeastOne]
  have hMost : (assigned thirtyFps.config .maxAdjustment).maxFps = some 15 := by
    rw [← hLowest, assigned]
  have hRises : ¬ NotAbove (assigned thirtyFps.config .maxAdjustment) (thirtyFps.config.divided 4) := by
    rw [notAbove_some hMost hBig]
    norm_num
  exact ⟨thirtyFps_configured, rfl, _, _, rfl, rfl, hBig, hMost, hRises⟩

end ThermalState

end KiwiDevice.Hal

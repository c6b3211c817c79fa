import KiwiDevice.Gps.PositionFields

/-!
# Magnetic headings

The VTG sentence prints a magnetic track, the RMC sentence of the same fix the magnetic variation.
The correction of the track is lost with the block it is computed in, so that the two agree only
where there is nothing to correct.
-/

namespace KiwiDevice.Gps.Nmea

/-- West is negative. -/
def signedVariation (variation : Rat × Char) : Rat :=
  if variation.2 = 'W' then -variation.1 else variation.1

structure HeadingsAgree (location : GpsLocation) (ext : PositionExtended) : Prop where
  range : 0 ≤ magTrack location ext ∧ magTrack location ext < 360
  congruent : ∃ turns : Int, magTrack location ext =
    location.bearing - signedVariation (magneticVariation ext) + 360 * turns

section Printed

variable {location : GpsLocation} {ext : PositionExtended} {mode : LocPositionMode} {tm : Tm}
  {text rest : Text}

theorem comma_not_mem_formatFixed {width prec : Nat} {x : Rat} : ',' ∉ formatFixed width prec x :=
  not_mem_formatFixed rfl (by decide) (by decide)

/-- The position takes four fields, also when there is none. -/
theorem splitOn_position :
    ∃ four : List Text, four.length = 4 ∧
      (positionText location ++ rest).splitOn ',' = four ++ rest.splitOn ',' := by
  by_cases hFix : location.flags &&& GPS_LOCATION_HAS_LAT_LONG = 0
  · refine ⟨[[], [], [], []], rfl, ?_⟩
    have hEmpty : ∀ more : Text, (',' :: more).splitOn ',' = [] :: more.splitOn ',' :=
      fun more => List.splitOn_append_cons_self_of_not_mem (show ',' ∉ ([] : Text) by simp) more
    rw [positionText, if_neg (not_not.mpr hFix)]
    simp [hEmpty]
  · exact ⟨_, rfl, splitOn_positionText hFix⟩

theorem comma_not_mem_date : ',' ∉ formatTwo tm.mday ++ formatTwo (tm.mon + 1) ++
    formatTwo (tm.year.tmod 100) := by
  have hTwo : ∀ n, ',' ∉ formatTwo n := by
    intro n hMem
    rcases List.mem_append.mp hMem with hSign | hDigit
    · split at hSign
      · cases List.mem_singleton.mp hSign
      · cases hSign
    · cases Lib.isDigit_padded _ hDigit
  simp [hTwo]

/-- The track is the fourth field of the VTG sentence. -/
theorem vtgText_track (hBearing : location.flags &&& GPS_LOCATION_HAS_BEARING ≠ 0)
    (h : vtgText location ext mode = some text) :
    (text.splitOn ',')[3]? = some (formatFixed 0 1 (magTrack location ext)) := by
  have hText : ∃ rest, text = ['$', 'G', 'P', 'V', 'T', 'G'] ++ ',' ::
      (formatFixed 0 1 location.bearing ++ ',' :: (['T'] ++ ',' ::
        (formatFixed 0 1 (magTrack location ext) ++ ',' :: rest))) := by
    simp only [vtgText, Option.bind_eq_bind, Option.bind_eq_some_iff, Option.pure_def,
      Option.some.injEq] at h
    obtain ⟨s₁, h₁, s₂, h₂, rfl⟩ := h
    rw [Sentence.putLast, put_text h₂, put_text h₁, if_pos hBearing]
    simp only [emptySentence, List.append_assoc, List.nil_append, List.cons_append]
    exact ⟨_, rfl⟩
  obtain ⟨rest, rfl⟩ := hText
  rw [List.splitOn_append_cons_self_of_not_mem (by decide),
    List.splitOn_append_cons_self_of_not_mem comma_not_mem_formatFixed,
    List.splitOn_append_cons_self_of_not_mem (by decide),
    List.splitOn_append_cons_self_of_not_mem comma_not_mem_formatFixed]
  rfl

/-- The variation and its direction are two fields of the RMC sentence. -/
theorem rmcText_variation (hDev : ext.flags &&& GPS_LOCATION_EXTENDED_HAS_MAG_DEV ≠ 0)
    (h : rmcText location ext mode tm = some text) :
    ((text.splitOn ',').drop 10).take 2 =
      [formatFixed 0 1 (magneticVariation ext).1, [(magneticVariation ext).2]] := by
  have hText : ∃ speed bearing rest, ',' ∉ speed ∧ ',' ∉ bearing ∧
      text = ['$', 'G', 'P', 'R', 'M', 'C'] ++ ',' :: (timeText tm location.timestamp ++
        ',' :: (['A'] ++ ',' :: (positionText location ++ (speed ++ ',' :: (bearing ++
          ',' :: ((formatTwo tm.mday ++ formatTwo (tm.mon + 1) ++ formatTwo (tm.year.tmod 100)) ++
            ',' :: (formatFixed 0 1 (magneticVariation ext).1 ++
              ',' :: ([(magneticVariation ext).2] ++ ',' :: rest)))))))) := by
    simp only [rmcText, Option.bind_eq_bind, Option.bind_eq_some_iff, Option.pure_def,
      Option.some.injEq] at h
    obtain ⟨s₁, h₁, s₂, h₂, s₃, h₃, s₄, h₄, s₅, h₅, s₆, h₆, rfl⟩ := h
    rw [Sentence.putLast, put_text h₆, put_text h₅, put_text h₄, put_text h₃, put_text h₂,
      put_text h₁, if_pos hDev]
    have hPiece : ∀ (p : Prop) [Decidable p] (x : Rat), ∃ field, ',' ∉ field ∧
        (if p then formatFixed 0 1 x ++ [','] else [',']) = field ++ [','] := by
      intro p _ x
      split
      · exact ⟨_, comma_not_mem_formatFixed, rfl⟩
      · exact ⟨[], by simp, rfl⟩
    obtain ⟨speed, hSpeed, hSpeedEq⟩ := hPiece (location.flags &&& GPS_LOCATION_HAS_SPEED ≠ 0)
      (speedKnots location)
    obtain ⟨bearing, hBearing, hBearingEq⟩ :=
      hPiece (location.flags &&& GPS_LOCATION_HAS_BEARING ≠ 0) location.bearing
    rw [hSpeedEq, hBearingEq]
    refine ⟨speed, bearing, (modeText location mode).take (s₆.lengthRemaining - 1), hSpeed,
      hBearing, ?_⟩
    simp only [emptySentence, List.append_assoc, List.nil_append, List.cons_append]
  obtain ⟨speed, bearing, rest, hSpeed, hBearing, rfl⟩ := hText
  have hDirection : ',' ∉ [(magneticVariation ext).2] := by
    unfold magneticVariation
    split <;> simp
  rw [List.splitOn_append_cons_self_of_not_mem (by decide),
    List.splitOn_append_cons_self_of_not_mem not_mem_timeText,
    List.splitOn_append_cons_self_of_not_mem (by decide)]
  obtain ⟨four, hFour, hPosition⟩ := splitOn_position
  rw [hPosition, List.splitOn_append_cons_self_of_not_mem hSpeed,
    List.splitOn_append_cons_self_of_not_mem hBearing,
    List.splitOn_append_cons_self_of_not_mem comma_not_mem_date,
    List.splitOn_append_cons_self_of_not_mem comma_not_mem_formatFixed,
    List.splitOn_append_cons_self_of_not_mem hDirection]
  have hPast : four.drop 7 = [] := List.drop_eq_nil_of_le (by omega)
  simp [List.drop_append, hFour, hPast]

end Printed

theorem magTrack_eq (location : GpsLocation) (ext : PositionExtended) :
    magTrack location ext = location.bearing := by
  simp [magTrack]

theorem signedVariation_eq (ext : PositionExtended) :
    signedVariation (magneticVariation ext) = ext.magneticDeviation := by
  unfold magneticVariation
  split <;> simp [signedVariation]

/-- Of the track and the variation that the two sentences print. They agree only where the deviation
is zero. -/
theorem headings_agree_iff (location : GpsLocation) (ext : PositionExtended)
    (mode : LocPositionMode) (tm : Tm)
    (hBearing : location.flags &&& GPS_LOCATION_HAS_BEARING ≠ 0)
    (hDev : ext.flags &&& GPS_LOCATION_EXTENDED_HAS_MAG_DEV ≠ 0)
    (hTrack : 0 ≤ location.bearing ∧ location.bearing < 360)
    (hRange : -180 < ext.magneticDeviation ∧ ext.magneticDeviation < 180) :
    (∀ text, vtgText location ext mode = some text →
        (text.splitOn ',')[3]? = some (formatFixed 0 1 (magTrack location ext))) ∧
      (∀ text, rmcText location ext mode tm = some text → ((text.splitOn ',').drop 10).take 2 =
        [formatFixed 0 1 (magneticVariation ext).1, [(magneticVariation ext).2]]) ∧
      (HeadingsAgree location ext ↔ ext.magneticDeviation = 0) := by
  refine ⟨fun text => vtgText_track hBearing, fun text => rmcText_variation hDev, ?_⟩
  constructor
  · rintro ⟨_, turns, hTurns⟩
    rw [magTrack_eq, signedVariation_eq] at hTurns
    have hDeviation : ext.magneticDeviation = 360 * turns := by linarith
    -- a whole number of turns within half a turn
    have hLow : -1 < turns := by
      have hCast : (-1 : Rat) < turns := by linarith
      exact_mod_cast hCast
    have hHigh : turns < 1 := by
      have hCast : (turns : Rat) < 1 := by linarith
      exact_mod_cast hCast
    have hZero : turns = 0 := by omega
    rw [hDeviation, hZero]
    norm_num
  · intro hZero
    constructor
    · rwa [magTrack_eq]
    · refine ⟨0, ?_⟩
      rw [magTrack_eq, signedVariation_eq, hZero]
      norm_num

theorem headings_agree_north :
    HeadingsAgree { fixAt 60 25 with bearing := 359 } { fixExtended with magneticDeviation := 0 } :=
  (headings_agree_iff { fixAt 60 25 with bearing := 359 }
    { fixExtended with magneticDeviation := 0 } .standalone ⟨123, 10, 14, 22, 13, 20⟩ (by decide)
    (by decide) (by decide +kernel) (by decide +kernel)).2.2.mpr rfl

/-- With a bearing of 90.5 and a deviation of 3.5, both to the east. -/
theorem headings_differ :
    ¬ HeadingsAgree (fixAt 60 25) fixExtended := by
  rintro ⟨_, turns, hTurns⟩
  have hTrack : magTrack (fixAt 60 25) fixExtended = 181 / 2 := by decide +kernel
  have hVariation : signedVariation (magneticVariation fixExtended) = 7 / 2 := by decide +kernel
  have hBearing : (fixAt 60 25).bearing = 181 / 2 := rfl
  rw [hTrack, hVariation, hBearing] at hTurns
  have hWhole : ((720 * turns : Int) : Rat) = (7 : Int) := by
    push_cast
    linarith
  have hInt : 720 * turns = 7 := by exact_mod_cast hWhole
  omega

end KiwiDevice.Gps.Nmea

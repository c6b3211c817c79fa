import KiwiDevice.Gps.PositionText

/-!
# Coordinates in the sentences

The RMC and the GGA sentence of a position report carry the coordinates in the same four fields.
They decode to the location, except just below a full degree, where the minutes are rounded up to
60 and the degrees stay.
-/

namespace KiwiDevice.Gps.Nmea

structure Coordinate where
  degrees : Nat
  minutes : Rat
  sign : Int

def Coordinate.value (c : Coordinate) : Rat := c.sign * (c.degrees + c.minutes / 60)

/-- Within half of a millionth of a minute. -/
structure Coordinate.Decodes (c : Coordinate) (limit : Nat) (x : Rat) : Prop where
  degrees : c.degrees ≤ limit
  minutes : 0 ≤ c.minutes ∧ c.minutes < 60
  near : |c.value - x| ≤ 1 / 2 * (1 / 10 ^ 6) / 60

/-- The sign that a hemisphere stands for. -/
def readHemisphere (positive negative : Char) (hemisphere : Text) : Option Int :=
  if hemisphere = [positive] then some 1
  else if hemisphere = [negative] then some (-1)
  else none

def readCoordinate (width : Nat) (positive negative : Char) (field hemisphere : Text) :
    Option Coordinate := do
  let sign ← readHemisphere positive negative hemisphere
  let minutes ← Lib.readDecimal (field.drop width)
  if (field.take width).all Char.isDigit then
    some ⟨Lib.number (field.take width), minutes, sign⟩
  else none

def readPosition : List Text → Option (Coordinate × Coordinate)
  | [latitude, latHemisphere, longitude, lonHemisphere] => do
    let lat ← readCoordinate 2 'N' 'S' latitude latHemisphere
    let lon ← readCoordinate 3 'E' 'W' longitude lonHemisphere
    return (lat, lon)
  | _ => none

def PositionDecodes (fields : List Text) (latitude longitude : Rat) : Prop :=
  ∃ lat lon, readPosition fields = some (lat, lon) ∧ lat.Decodes 90 latitude ∧
    lon.Decodes 180 longitude

def fields (sentence : Text × Nat) : List Text := sentence.1.splitOn ','

/-- The four fields of the position in an RMC or GGA sentence. -/
def positionFields (sentence : Text × Nat) : Option (List Text) :=
  if (fields sentence).head? = some ['$', 'G', 'P', 'R', 'M', 'C'] then
    some (((fields sentence).drop 3).take 4)
  else if (fields sentence).head? = some ['$', 'G', 'P', 'G', 'G', 'A'] then
    some (((fields sentence).drop 2).take 4)
  else none

/-- What a report of a final fix sends. -/
def newReports (d : LocEngData) (location : GpsLocation) (ext : PositionExtended)
    (mode : LocPositionMode) : List (Text × Nat) :=
  (locEngNmeaGeneratePos d location ext mode true).sent.drop d.sent.length

/-- The minutes stay below 60 when they are rounded to the sixth place. -/
def MinutesRoundDown (x : Rat) : Prop := Int.fract |x| * 60 < 60 - 1 / 2 * (1 / 10 ^ 6)

section Numerals

variable {width prec n : Nat} {x : Rat} {c : Char}

theorem formatInt_natCast : formatInt width n = Lib.padded width n := by
  have hNonneg : ¬ ((n : Int) < 0) := by omega
  simp [formatInt, Lib.padded, hNonneg]

theorem readDecimal_formatFixed (hPrec : 0 < prec) (hx : 0 ≤ x) :
    Lib.readDecimal (formatFixed width prec x) =
      some ((Lib.roundToEven (x * 10 ^ prec) : Rat) / 10 ^ prec) := by
  obtain ⟨n, hRound⟩ := Int.eq_ofNat_of_zero_le
    (Lib.roundToEven_nonneg (mul_nonneg hx (pow_nonneg (by norm_num : (0 : Rat) ≤ 10) prec)))
  have hPow : 0 < 10 ^ prec := Nat.pow_pos (by omega)
  have hLength : (Lib.padded prec (n % 10 ^ prec)).length = prec :=
    Lib.length_padded hPrec (Nat.mod_lt n hPow)
  have hSplit : (n : Rat) = ((n / 10 ^ prec : Nat) : Rat) * 10 ^ prec +
      ((n % 10 ^ prec : Nat) : Rat) := by
    exact_mod_cast (Nat.div_add_mod' n (10 ^ prec)).symm
  have hZeros : ∀ k, ∀ c ∈ List.replicate k '0' ++ Nat.toDigits 10 (n / 10 ^ prec),
      c.isDigit = true := by
    intro k c hMem
    rcases List.mem_append.mp hMem with hZero | hDigit
    · rw [List.eq_of_mem_replicate hZero]
      rfl
    · exact Nat.isDigit_of_mem_toDigits (by omega) (by omega) hDigit
  simp only [formatFixed, abs_of_nonneg hx, hRound, Int.toNat_natCast, if_neg (not_lt.mpr hx),
    List.nil_append]
  rw [← List.append_assoc, Lib.readDecimal_eq (hZeros _) Lib.isDigit_padded,
    Lib.number_zeros_append, Lib.number_toDigits, Lib.number_padded, hLength]
  congr 1
  rw [Int.cast_natCast, hSplit, add_div, mul_div_assoc, div_self (by positivity), mul_one]

theorem not_mem_formatInt (hDigit : c.isDigit = false) (hSign : c ≠ '-') {n : Int} :
    c ∉ formatInt width n := by
  intro hMem
  simp only [formatInt, List.mem_append, List.mem_replicate] at hMem
  rcases hMem with (hMem | ⟨_, rfl⟩) | hMem
  · split at hMem
    · exact hSign (List.mem_singleton.mp hMem)
    · cases hMem
  · cases hDigit
  · rw [Nat.isDigit_of_mem_toDigits (by omega) (by omega) hMem] at hDigit
    cases hDigit

theorem not_mem_formatFixed (hDigit : c.isDigit = false) (hSign : c ≠ '-') (hPoint : c ≠ '.') :
    c ∉ formatFixed width prec x := by
  intro hMem
  simp only [formatFixed, List.mem_append, List.mem_replicate, List.mem_cons] at hMem
  rcases hMem with (hMem | ⟨_, rfl⟩) | hMem | hMem | hMem
  · split at hMem
    · exact hSign (List.mem_singleton.mp hMem)
    · cases hMem
  · cases hDigit
  · rw [Nat.isDigit_of_mem_toDigits (by omega) (by omega) hMem] at hDigit
    cases hDigit
  · exact hPoint hMem
  · rw [Lib.isDigit_padded c hMem] at hDigit
    cases hDigit

end Numerals

section Coordinates

variable {width limit : Nat} {positive negative : Char} {x : Rat} {hemisphere : Text} {sign : Int}

theorem fmod_sixty (hx : 0 ≤ x) : fmod (x * 60) 60 = Int.fract x * 60 := by
  have hDegrees : x * 60 / 60 = x := mul_div_cancel_right₀ x (by norm_num)
  rw [fmod, hDegrees, if_pos hx, Int.fract]
  ring

/-- Of a coordinate without its sign. -/
def roundedCoordinate (a : Rat) (sign : Int) : Coordinate where
  degrees := ⌊a⌋.toNat
  minutes := Lib.roundToEven (Int.fract a * 60 * 10 ^ 6) / 10 ^ 6
  sign := sign

theorem readCoordinate_degreesText (hWidth : 0 < width) (hx : 0 ≤ x)
    (hFits : ⌊x⌋.toNat < 10 ^ width) (hByte : ⌊x⌋ < 256)
    (hSign : readHemisphere positive negative hemisphere = some sign) :
    readCoordinate width positive negative (degreesText width x) hemisphere =
      some (roundedCoordinate x sign) := by
  have hFloor : 0 ≤ ⌊x⌋ := Int.floor_nonneg.mpr hx
  have hByteEq : ⌊x⌋ % 256 = (⌊x⌋.toNat : Int) := by
    rw [Int.emod_eq_of_lt hFloor hByte, Int.toNat_of_nonneg hFloor]
  have hMinutes : 0 ≤ Int.fract x * 60 := mul_nonneg (Int.fract_nonneg x) (by norm_num)
  have hLength : (Lib.padded width ⌊x⌋.toNat).length = width := Lib.length_padded hWidth hFits
  have hAll : (Lib.padded width ⌊x⌋.toNat).all Char.isDigit = true :=
    List.all_eq_true.mpr Lib.isDigit_padded
  rw [degreesText, hByteEq, formatInt_natCast, fmod_sixty hx, readCoordinate, hSign,
    List.drop_left' hLength, List.take_left' hLength, readDecimal_formatFixed (by omega) hMinutes]
  simp [hAll, roundedCoordinate]

/-- The degrees are the whole part, so only the minutes can leave their range. -/
theorem coordinate_decodes_iff {a : Rat} (ha : 0 ≤ a) (hLimit : a ≤ limit)
    (hSign : (sign : Rat) * a = x) (hUnit : |(sign : Rat)| = 1) :
    (roundedCoordinate a sign).Decodes limit x ↔
      Int.fract a * 60 < 60 - 1 / 2 * (1 / 10 ^ 6) := by
  have hFloor : 0 ≤ ⌊a⌋ := Int.floor_nonneg.mpr ha
  have hToNat : ((⌊a⌋.toNat : Nat) : Rat) = a - Int.fract a := by
    have hCast : ((⌊a⌋.toNat : Nat) : Rat) = (⌊a⌋ : Rat) := by
      exact_mod_cast Int.toNat_of_nonneg hFloor
    rw [hCast, Int.self_sub_fract]
  have hMinutes : 0 ≤ Int.fract a * 60 * 10 ^ 6 :=
    mul_nonneg (mul_nonneg (Int.fract_nonneg a) (by norm_num)) (by norm_num)
  have hBelow := Lib.roundToEven_lt_iff (x := Int.fract a * 60 * 10 ^ 6)
    (show (60 * 10 ^ 6 : Int) % 2 = 0 by decide)
  unfold roundedCoordinate
  generalize hRound : Lib.roundToEven (Int.fract a * 60 * 10 ^ 6) = m at hBelow ⊢
  have hSixty : ((m : Rat) / 10 ^ 6 < 60) ↔ m < 60 * 10 ^ 6 := by
    rw [div_lt_iff₀ (by norm_num)]
    exact_mod_cast Iff.rfl
  have hBand : Int.fract a * 60 * 10 ^ 6 < ((60 * 10 ^ 6 : Int) : Rat) - 1 / 2 ↔
      Int.fract a * 60 < 60 - 1 / 2 * (1 / 10 ^ 6) := by
    push_cast
    constructor <;> intro h <;> linarith
  constructor
  · intro hDecodes
    exact hBand.mp (hBelow.mp (hSixty.mp hDecodes.minutes.2))
  · intro hLess
    have hNonneg : 0 ≤ m := hRound ▸ Lib.roundToEven_nonneg hMinutes
    have hNear := Lib.abs_roundToEven_sub_le (x := Int.fract a * 60 * 10 ^ 6)
    rw [hRound] at hNear
    refine ⟨?_, ⟨?_, hSixty.mpr (hBelow.mpr (hBand.mpr hLess))⟩, ?_⟩
    · have hLe : ((⌊a⌋.toNat : Nat) : Rat) ≤ limit := by
        rw [hToNat]
        linarith [Int.fract_nonneg a]
      exact_mod_cast hLe
    · exact div_nonneg (by exact_mod_cast hNonneg) (by norm_num)
    · have hError : Coordinate.value ⟨⌊a⌋.toNat, m / 10 ^ 6, sign⟩ - x =
          sign * ((m - Int.fract a * 60 * 10 ^ 6) / (10 ^ 6 * 60)) := by
        rw [Coordinate.value, hToNat, ← hSign]
        ring
      rw [hError, abs_mul, hUnit, one_mul, abs_div, abs_of_pos (by norm_num : (0 : Rat) < 10 ^ 6 * 60),
        div_le_iff₀ (by norm_num)]
      linarith

/-- The four fields as the code builds them. -/
def writtenFields (location : GpsLocation) : List Text :=
  [degreesText 2 (latHemisphere location.latitude).2, [(latHemisphere location.latitude).1],
    degreesText 3 (lonHemisphere location.longitude).2, [(lonHemisphere location.longitude).1]]

theorem latHemisphere_eq :
    ∃ sign : Int, readHemisphere 'N' 'S' [(latHemisphere x).1] = some sign ∧
      (latHemisphere x).2 = |x| ∧ (sign : Rat) * |x| = x ∧ |(sign : Rat)| = 1 := by
  unfold latHemisphere
  split
  · rename_i hPos
    refine ⟨1, rfl, (abs_of_pos hPos).symm, ?_, by simp⟩
    simp [abs_of_pos hPos]
  · rename_i hNeg
    refine ⟨-1, rfl, ?_, ?_, by simp⟩
    · simp [abs_of_nonpos (not_lt.mp hNeg)]
    · simp [abs_of_nonpos (not_lt.mp hNeg)]

theorem lonHemisphere_eq :
    ∃ sign : Int, readHemisphere 'E' 'W' [(lonHemisphere x).1] = some sign ∧
      (lonHemisphere x).2 = |x| ∧ (sign : Rat) * |x| = x ∧ |(sign : Rat)| = 1 := by
  unfold lonHemisphere
  split
  · rename_i hNeg
    refine ⟨-1, rfl, ?_, ?_, by simp⟩
    · simp [abs_of_neg hNeg]
    · simp [abs_of_neg hNeg]
  · rename_i hPos
    refine ⟨1, rfl, (abs_of_nonneg (not_lt.mp hPos)).symm, ?_, by simp⟩
    simp [abs_of_nonneg (not_lt.mp hPos)]

theorem readCoordinate_eq {a : Rat} (hWidth : 0 < width) (ha : 0 ≤ a) (hLimit : a ≤ limit)
    (hFits : limit < 10 ^ width) (hByte : limit < 256)
    (hSign : readHemisphere positive negative hemisphere = some sign) :
    readCoordinate width positive negative (degreesText width a) hemisphere =
      some (roundedCoordinate a sign) := by
  have hFloor : ⌊a⌋ ≤ limit := by
    have hCast : (⌊a⌋ : Rat) ≤ limit := (Int.floor_le a).trans hLimit
    exact_mod_cast hCast
  apply readCoordinate_degreesText hWidth ha _ (by omega) hSign
  omega

theorem position_decodes_written {location : GpsLocation} (hLat : |location.latitude| ≤ 90)
    (hLon : |location.longitude| ≤ 180) :
    PositionDecodes (writtenFields location) location.latitude location.longitude ↔
      MinutesRoundDown location.latitude ∧ MinutesRoundDown location.longitude := by
  obtain ⟨latSign, hLatSign, hLatAbs, hLatMul, hLatUnit⟩ :=
    latHemisphere_eq (x := location.latitude)
  obtain ⟨lonSign, hLonSign, hLonAbs, hLonMul, hLonUnit⟩ :=
    lonHemisphere_eq (x := location.longitude)
  have hLatLimit : |location.latitude| ≤ (90 : Nat) := by exact_mod_cast hLat
  have hLonLimit : |location.longitude| ≤ (180 : Nat) := by exact_mod_cast hLon
  have hReadLat := readCoordinate_eq (show 0 < 2 by omega) (abs_nonneg _) hLatLimit (by omega)
    (by omega) hLatSign
  have hReadLon := readCoordinate_eq (show 0 < 3 by omega) (abs_nonneg _) hLonLimit (by omega)
    (by omega) hLonSign
  have hRead : readPosition (writtenFields location) =
      some (roundedCoordinate |location.latitude| latSign,
        roundedCoordinate |location.longitude| lonSign) := by
    rw [writtenFields, readPosition, hLatAbs, hLonAbs, hReadLat, hReadLon]
    rfl
  have hLatIff := coordinate_decodes_iff (abs_nonneg _) hLatLimit hLatMul hLatUnit
  have hLonIff := coordinate_decodes_iff (abs_nonneg _) hLonLimit hLonMul hLonUnit
  constructor
  · rintro ⟨lat, lon, hEq, hLatDecodes, hLonDecodes⟩
    rw [hRead] at hEq
    cases hEq
    exact ⟨hLatIff.mp hLatDecodes, hLonIff.mp hLonDecodes⟩
  · rintro ⟨hLatBelow, hLonBelow⟩
    exact ⟨_, _, hRead, hLatIff.mpr hLatBelow, hLonIff.mpr hLonBelow⟩

end Coordinates

section Sentences

variable {d d' : LocEngData} {location : GpsLocation} {ext : PositionExtended}
  {mode : LocPositionMode} {tm : Tm} {s s' : Sentence} {part text rest : Text}
  {P : Text × Nat → Prop} {n : Nat}

theorem put_text (h : s.put part = some s') : s'.text = s.text ++ part := by
  rw [Sentence.put] at h
  split at h
  · cases h
  · cases h
    rfl

theorem not_mem_degreesText {width : Nat} {x : Rat} : ',' ∉ degreesText width x := by
  rw [degreesText, List.mem_append, not_or]
  exact ⟨not_mem_formatInt rfl (by decide), not_mem_formatFixed rfl (by decide) (by decide)⟩

theorem not_mem_timeText {timestamp : Int} : ',' ∉ timeText tm timestamp := by
  simp only [timeText, List.mem_append, not_or]
  refine ⟨⟨⟨⟨?_, ?_⟩, ?_⟩, by decide⟩, ?_⟩ <;> exact not_mem_formatInt rfl (by decide)

theorem splitOn_single {c : Char} (hComma : c ≠ ',') :
    (c :: ',' :: rest).splitOn ',' = [c] :: rest.splitOn ',' := by
  have hPiece : ',' ∉ [c] := by simpa using hComma.symm
  exact List.splitOn_append_cons_self_of_not_mem hPiece rest

theorem splitOn_positionText (hFix : location.flags &&& GPS_LOCATION_HAS_LAT_LONG ≠ 0) :
    (positionText location ++ rest).splitOn ',' = writtenFields location ++ rest.splitOn ',' := by
  have hLat : ∀ x, (latHemisphere x).1 ≠ ',' := by
    intro x
    unfold latHemisphere
    split <;> simp
  have hLon : ∀ x, (lonHemisphere x).1 ≠ ',' := by
    intro x
    unfold lonHemisphere
    split <;> simp
  simp only [positionText, if_pos hFix, List.append_assoc, List.cons_append, List.nil_append]
  rw [List.splitOn_append_cons_self_of_not_mem not_mem_degreesText, splitOn_single (hLat _),
    List.splitOn_append_cons_self_of_not_mem not_mem_degreesText, splitOn_single (hLon _)]
  rfl

theorem rmcText_eq (h : rmcText location ext mode tm = some text) :
    ∃ rest, text = ['$', 'G', 'P', 'R', 'M', 'C'] ++ ',' :: (timeText tm location.timestamp ++
      ',' :: (['A'] ++ ',' :: (positionText location ++ rest))) := by
  simp only [rmcText, Option.bind_eq_bind, Option.bind_eq_some_iff, Option.pure_def,
    Option.some.injEq] at h
  obtain ⟨s₁, h₁, s₂, h₂, s₃, h₃, s₄, h₄, s₅, h₅, s₆, h₆, rfl⟩ := h
  rw [Sentence.putLast, put_text h₆, put_text h₅, put_text h₄, put_text h₃, put_text h₂,
    put_text h₁]
  simp only [emptySentence, List.append_assoc, List.nil_append, List.cons_append]
  exact ⟨_, rfl⟩

theorem ggaText_eq {count : Nat} {dops : Option (Rat × Rat × Rat)}
    (h : ggaText location ext mode tm count dops = some text) :
    ∃ rest, text = ['$', 'G', 'P', 'G', 'G', 'A'] ++ ',' :: (timeText tm location.timestamp ++
      ',' :: (positionText location ++ rest)) := by
  simp only [ggaText, Option.bind_eq_bind, Option.bind_eq_some_iff, Option.pure_def,
    Option.some.injEq] at h
  obtain ⟨s₁, h₁, s₂, h₂, s₃, h₃, s₄, h₄, rfl⟩ := h
  rw [Sentence.putLast, put_text h₄, put_text h₃, put_text h₂, put_text h₁]
  simp only [emptySentence, List.append_assoc, List.nil_append, List.cons_append]
  exact ⟨_, rfl⟩

theorem gsaText_eq {talker : Text} {used : List Nat} {dops : Option (Rat × Rat × Rat)}
    (h : gsaText talker used dops = some text) : ∃ rest, text = talker ++ ',' :: rest := by
  have hLoop : ∀ (l : List Nat) (s s' : Sentence),
      l.foldlM (fun s i => s.put (svUsedText used i)) s = some s' →
        ∃ more, s'.text = s.text ++ more := by
    intro l
    induction l with
    | nil =>
      rintro s s' hNil
      cases hNil
      exact ⟨[], (List.append_nil _).symm⟩
    | cons i l ih =>
      intro s s' hCons
      rw [List.foldlM_cons, Option.bind_eq_bind, Option.bind_eq_some_iff] at hCons
      obtain ⟨s₁, hPut, hRest⟩ := hCons
      obtain ⟨more, hMore⟩ := ih _ _ hRest
      exact ⟨_, by rw [hMore, put_text hPut, List.append_assoc]⟩
  simp only [gsaText, Option.bind_eq_bind, Option.bind_eq_some_iff, Option.pure_def,
    Option.some.injEq] at h
  obtain ⟨s₁, h₁, s₂, h₂, rfl⟩ := h
  obtain ⟨more, hMore⟩ := hLoop _ _ _ h₂
  rw [Sentence.putLast, hMore, put_text h₁]
  simp only [emptySentence, List.append_assoc, List.nil_append, List.cons_append]
  exact ⟨_, rfl⟩

theorem vtgText_eq (h : vtgText location ext mode = some text) :
    ∃ rest, text = ['$', 'G', 'P', 'V', 'T', 'G'] ++ ',' :: rest := by
  simp only [vtgText, Option.bind_eq_bind, Option.bind_eq_some_iff, Option.pure_def,
    Option.some.injEq] at h
  obtain ⟨s₁, h₁, s₂, h₂, rfl⟩ := h
  rw [Sentence.putLast, put_text h₂, put_text h₁]
  split
  · simp only [emptySentence, List.append_assoc, List.nil_append, List.cons_append]
    exact ⟨_, rfl⟩
  · exact ⟨_, rfl⟩

theorem putChecksum_text (text : Text) (n : Nat) :
    ∃ mark, (locEngNmeaPutChecksum text n).1 = text ++ mark := ⟨_, rfl⟩

theorem splitOn_field {field more : Text} (hComma : ',' ∉ field) :
    (field ++ ',' :: rest ++ more).splitOn ',' = field :: (rest ++ more).splitOn ',' := by
  rw [List.append_assoc, List.cons_append (a := ','),
    List.splitOn_append_cons_self_of_not_mem hComma]

/-- A sentence with another talker has no position. -/
theorem positionFields_none {talker : Text} (hComma : ',' ∉ talker)
    (hRmc : talker ≠ ['$', 'G', 'P', 'R', 'M', 'C'])
    (hGga : talker ≠ ['$', 'G', 'P', 'G', 'G', 'A']) :
    positionFields (locEngNmeaPutChecksum (talker ++ ',' :: rest) n) = none := by
  obtain ⟨mark, hMark⟩ := putChecksum_text (talker ++ ',' :: rest) n
  rw [positionFields, fields, hMark, splitOn_field hComma]
  simp [hRmc, hGga]

theorem positionFields_rmc (hFix : location.flags &&& GPS_LOCATION_HAS_LAT_LONG ≠ 0)
    (h : rmcText location ext mode tm = some text) :
    positionFields (locEngNmeaPutChecksum text n) = some (writtenFields location) := by
  obtain ⟨mark, hMark⟩ := putChecksum_text text n
  obtain ⟨rest, rfl⟩ := rmcText_eq h
  rw [positionFields, fields, hMark, splitOn_field (by decide), splitOn_field not_mem_timeText,
    splitOn_field (by decide), List.append_assoc, splitOn_positionText hFix]
  simp [writtenFields]

theorem positionFields_gga {count : Nat} {dops : Option (Rat × Rat × Rat)}
    (hFix : location.flags &&& GPS_LOCATION_HAS_LAT_LONG ≠ 0)
    (h : ggaText location ext mode tm count dops = some text) :
    positionFields (locEngNmeaPutChecksum text n) = some (writtenFields location) := by
  obtain ⟨mark, hMark⟩ := putChecksum_text text n
  obtain ⟨rest, rfl⟩ := ggaText_eq h
  rw [positionFields, fields, hMark, splitOn_field (by decide), splitOn_field not_mem_timeText,
    List.append_assoc, splitOn_positionText hFix]
  simp [writtenFields]

/-- What is sent from the one state to the other has the property. -/
def Adds (P : Text × Nat → Prop) (d d' : LocEngData) : Prop :=
  ∃ sent, d'.sent = d.sent ++ sent ∧ ∀ s ∈ sent, P s

/-- The state that a call leaves, wherever it ended. -/
def outcome : Except LocEngData LocEngData → LocEngData
  | .ok d => d
  | .error d => d

theorem adds_report {t : Option Text}
    (hText : ∀ text, t = some text → P (locEngNmeaPutChecksum text NMEA_SENTENCE_MAX_LENGTH)) :
    Adds P d (outcome (d.report t)) := by
  cases t with
  | none => exact ⟨[], by simp [LocEngData.report, outcome], by simp⟩
  | some text => exact ⟨_, rfl, by simpa using hText text rfl⟩

theorem adds_report_bind {t : Option Text} {f : LocEngData → Except LocEngData LocEngData}
    (hText : ∀ text, t = some text → P (locEngNmeaPutChecksum text NMEA_SENTENCE_MAX_LENGTH))
    (hNext : ∀ d, Adds P d (outcome (f d))) : Adds P d (outcome (d.report t >>= f)) := by
  obtain ⟨first, hFirst, hFirstHolds⟩ := adds_report (d := d) hText
  cases t with
  | none => exact ⟨first, hFirst, hFirstHolds⟩
  | some text =>
    obtain ⟨later, hLater, hLaterHolds⟩ := hNext (outcome (d.report (some text)))
    refine ⟨first ++ later, ?_, ?_⟩
    · rw [← List.append_assoc, ← hFirst]
      exact hLater
    · intro s hMem
      exact (List.mem_append.mp hMem).elim (hFirstHolds s) (hLaterHolds s)

/-- Whatever a sentence has for a position are the written fields. -/
def PositionWritten (location : GpsLocation) (sentence : Text × Nat) : Prop :=
  ∀ f, positionFields sentence = some f → f = writtenFields location

theorem reportPosition_adds (hFix : location.flags &&& GPS_LOCATION_HAS_LAT_LONG ≠ 0) :
    Adds (PositionWritten location) d (outcome (reportPosition d location ext mode tm)) := by
  have hNone : ∀ {sentence : Text × Nat}, positionFields sentence = none →
      PositionWritten location sentence := by
    intro sentence hNone f hSome
    rw [hNone] at hSome
    cases hSome
  have hSome : ∀ {sentence : Text × Nat}, positionFields sentence = some (writtenFields location) →
      PositionWritten location sentence := by
    intro sentence hWritten f hSome
    rw [hWritten] at hSome
    exact (Option.some.inj hSome).symm
  have hGsa : ∀ (talker : Text), ',' ∉ talker → talker ≠ ['$', 'G', 'P', 'R', 'M', 'C'] →
      talker ≠ ['$', 'G', 'P', 'G', 'G', 'A'] → ∀ used dops text,
        gsaText talker used dops = some text → PositionWritten location
          (locEngNmeaPutChecksum text NMEA_SENTENCE_MAX_LENGTH) := by
    intro talker hComma hRmc hGga used dops text hText
    obtain ⟨rest, rfl⟩ := gsaText_eq hText
    exact hNone (positionFields_none hComma hRmc hGga)
  apply adds_report_bind (d := { d with gpsUsedMask := 0 })
  · exact hGsa _ (by decide) (by decide) (by decide) _ _
  · intro d
    apply adds_report_bind (d := { d with gloUsedMask := 0 })
    · exact hGsa _ (by decide) (by decide) (by decide) _ _
    · intro d
      apply adds_report_bind
      · intro text hText
        obtain ⟨rest, rfl⟩ := vtgText_eq hText
        exact hNone (positionFields_none (by decide) (by decide) (by decide))
      · intro d
        apply adds_report_bind
        · exact fun text hText => hSome (positionFields_rmc hFix hText)
        · exact fun d => adds_report fun text hText => hSome (positionFields_gga hFix hText)

theorem newReports_written (hFix : location.flags &&& GPS_LOCATION_HAS_LAT_LONG ≠ 0) :
    ∀ s ∈ newReports d location ext mode, PositionWritten location s := by
  have hEnd : Adds (PositionWritten location) d (locEngNmeaGeneratePos d location ext mode true) := by
    rw [locEngNmeaGeneratePos]
    split
    · exact ⟨[], by simp, by simp⟩
    · rename_i tm _
      have hAdds : Adds (PositionWritten location) d
          (outcome (reportPosition d location ext mode tm)) := reportPosition_adds hFix
      rw [if_pos rfl]
      split
      · rename_i hError
        rwa [hError] at hAdds
      · rename_i hOk
        rwa [hOk] at hAdds
  obtain ⟨sent, hSent, hHolds⟩ := hEnd
  rwa [newReports, hSent, List.drop_left]

end Sentences

/-- The coordinates decode unless the minutes of one are rounded up to 60. -/
theorem position_decodes_iff (d : LocEngData) (location : GpsLocation) (ext : PositionExtended)
    (mode : LocPositionMode) (hFix : location.flags &&& GPS_LOCATION_HAS_LAT_LONG ≠ 0)
    (hLat : -90 ≤ location.latitude ∧ location.latitude ≤ 90)
    (hLon : -180 ≤ location.longitude ∧ location.longitude ≤ 180) :
    ∀ s ∈ newReports d location ext mode, ∀ f, positionFields s = some f →
      (PositionDecodes f location.latitude location.longitude ↔
        MinutesRoundDown location.latitude ∧ MinutesRoundDown location.longitude) := by
  intro s hMem f hFields
  rw [newReports_written hFix s hMem f hFields]
  exact position_decodes_written (abs_le.mpr hLat) (abs_le.mpr hLon)

def fixAt (latitude longitude : Rat) : GpsLocation where
  flags := 0x000F
  latitude := latitude
  longitude := longitude
  altitude := 520
  speed := 3
  bearing := 181 / 2
  timestamp := 1700000000123

def fixExtended : PositionExtended where
  flags := 0x0007
  pdop := 2
  hdop := 11 / 10
  vdop := 7 / 5
  altitudeMeanSeaLevel := 480
  magneticDeviation := 7 / 2

/-- Satellites of both constellations were used. -/
def usedData : LocEngData := ⟨0x1F, 0x3, 0, 0, 0, []⟩

theorem position_decodes_iff_south :
    ((newReports usedData (fixAt (-33.856) 151.215) fixExtended .standalone).filterMap
        positionFields).length = 2 ∧
      ∀ s ∈ newReports usedData (fixAt (-33.856) 151.215) fixExtended .standalone, ∀ f,
        positionFields s = some f → PositionDecodes f (-33.856) 151.215 := by
  constructor
  · decide +kernel
  · intro s hMem f hFields
    have hIff := position_decodes_iff usedData (fixAt (-33.856) 151.215) fixExtended .standalone
      (by decide) (by decide +kernel) (by decide +kernel) s hMem f hFields
    have hLat : MinutesRoundDown (-33.856) := by
      unfold MinutesRoundDown
      decide +kernel
    have hLon : MinutesRoundDown 151.215 := by
      unfold MinutesRoundDown
      decide +kernel
    exact hIff.mpr ⟨hLat, hLon⟩

/-- A ten millionth of a minute below 60 degrees. -/
def belowSixty : Rat := 60 - 1 / 10 ^ 7 / 60

def carriedFields : List Text :=
  ["5960.000000".toList, ['N'], "01130.000000".toList, ['W']]

theorem position_carried :
    (newReports usedData (fixAt belowSixty (-11.5)) fixExtended .standalone).filterMap
        positionFields = [carriedFields, carriedFields] ∧
      ¬ PositionDecodes carriedFields belowSixty (-11.5) := by
  constructor
  · decide +kernel
  · rintro ⟨lat, lon, hRead, hLat, _⟩
    have hMinutes : (readPosition carriedFields).map (fun c => c.1.minutes) = some 60 := by
      decide +kernel
    rw [hRead] at hMinutes
    have hSixty : lat.minutes = 60 := Option.some.inj hMinutes
    have hBelow := hLat.minutes.2
    rw [hSixty] at hBelow
    exact lt_irrefl _ hBelow

end KiwiDevice.Gps.Nmea

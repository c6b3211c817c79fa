import KiwiDevice.Gps.NmeaText
import KiwiDevice.Lib.Decimal

/-!
# Sentences of a position report

`loc_eng_nmea_generate_pos`. The `float`s and `double`s of the report are rationals and its
arithmetic is exact.
-/

namespace KiwiDevice.Gps.Nmea

inductive LocPositionMode where
  | invalid
  | standalone
  | msBased
  | msAssisted
  | reserved (number : Fin 5)
  deriving DecidableEq

def GPS_LOCATION_HAS_LAT_LONG : BitVec 16 := 0x0001
def GPS_LOCATION_HAS_ALTITUDE : BitVec 16 := 0x0002
def GPS_LOCATION_HAS_SPEED : BitVec 16 := 0x0004
def GPS_LOCATION_HAS_BEARING : BitVec 16 := 0x0008

def GPS_LOCATION_EXTENDED_HAS_ALTITUDE_MEAN_SEA_LEVEL : BitVec 16 := 0x0002
def GPS_LOCATION_EXTENDED_HAS_MAG_DEV : BitVec 16 := 0x0004

/-- `timestamp` is in milliseconds. -/
structure GpsLocation where
  flags : BitVec 16
  latitude : Rat
  longitude : Rat
  altitude : Rat
  speed : Rat
  bearing : Rat
  timestamp : Int

/-- With the fields that only the position report reads. -/
structure PositionExtended extends GpsLocationExtended where
  altitudeMeanSeaLevel : Rat
  magneticDeviation : Rat

/-- `%.<prec>f` and `%0<width>.<prec>f`. -/
def formatFixed (width prec : Nat) (x : Rat) : Text :=
  let scaled := (Lib.roundToEven (|x| * 10 ^ prec)).toNat
  let digits := Nat.toDigits 10 (scaled / 10 ^ prec) ++
    '.' :: Lib.padded prec (scaled % 10 ^ prec)
  let sign : Text := if x < 0 then ['-'] else []
  sign ++ List.replicate (width - (sign.length + digits.length)) '0' ++ digits

/-- `%2.2d`. -/
def formatTwo (n : Int) : Text := (if n < 0 then ['-'] else []) ++ Lib.padded 2 n.natAbs

def fmod (x y : Rat) : Rat :=
  x - y * (if 0 ≤ x / y then ⌊x / y⌋ else ⌈x / y⌉ : Int)

structure Tm where
  year : Int
  mon : Int
  mday : Int
  hour : Int
  min : Int
  sec : Int

/-- The year counts from 1900 and has to fit an `int`. -/
def gmtime (time : Int) : Option Tm :=
  -- days since the first of March of the year 0, in eras of 400 years
  let days := time / 86400 + 719468
  let dayOfEra := days % 146097
  let yearOfEra := (dayOfEra - dayOfEra / 1460 + dayOfEra / 36524 - dayOfEra / 146096) / 365
  let dayOfYear := dayOfEra - (365 * yearOfEra + yearOfEra / 4 - yearOfEra / 100)
  let month := (5 * dayOfYear + 2) / 153
  let year := days / 146097 * 400 + yearOfEra + (if month < 10 then 0 else 1) - 1900
  if -2 ^ 31 ≤ year ∧ year < 2 ^ 31 then
    some
      { year := year
        mon := if month < 10 then month + 2 else month - 10
        mday := dayOfYear - (153 * month + 2) / 5 + 1
        hour := time % 86400 / 3600
        min := time % 3600 / 60
        sec := time % 60 }
  else none

/-- The loop over the bits of a mask. -/
def svUsedList (offset : Nat) (mask : BitVec 32) : List Nat :=
  (List.range 32).filterMap fun i => if mask.getLsbD i then some (i + 1 + offset) else none

def fixType (svUsedCount : Nat) : Char :=
  if svUsedCount = 0 then '1' else if svUsedCount ≤ 3 then '2' else '3'

/-- The dilutions of the location, or else those kept from the last report of satellites. -/
def dops (d : LocEngData) (ext : PositionExtended) : Option (Rat × Rat × Rat) :=
  if ext.flags &&& GPS_LOCATION_EXTENDED_HAS_DOP ≠ 0 then some (ext.pdop, ext.hdop, ext.vdop)
  else if d.pdop > 0 ∧ d.hdop > 0 ∧ d.vdop > 0 then some (d.pdop, d.hdop, d.vdop)
  else none

/-- `snprintf` at the marker without the check of its result. -/
def Sentence.putLast (s : Sentence) (part : Text) : Text :=
  s.text ++ part.take (s.lengthRemaining - 1)

def svUsedText (used : List Nat) (i : Nat) : Text :=
  match used[i]? with
  | some sv => formatInt 2 sv ++ [',']
  | none => [',']

def gsaText (talker : Text) (used : List Nat) (dops : Option (Rat × Rat × Rat)) : Option Text := do
  let s ← emptySentence.put (talker ++ [',', 'A', ',', fixType used.length, ','])
  -- only the first 12 go in the sentence
  let s ← (List.range 12).foldlM (fun s i => s.put (svUsedText used i)) s
  return s.putLast <|
    match dops with
    | some (pdop, hdop, vdop) =>
      formatFixed 0 1 pdop ++ [','] ++ formatFixed 0 1 hdop ++ [','] ++ formatFixed 0 1 vdop
    | none => [',', ',']

def speedKnots (location : GpsLocation) : Rat := location.speed * (3600 / 1852)

def speedKmPerHour (location : GpsLocation) : Rat := location.speed * 3.6

/-- The inner `magTrack` is a variable of its own, which ends with the block. -/
def magTrack (location : GpsLocation) (ext : PositionExtended) : Rat :=
  let magTrack := location.bearing
  if ext.flags &&& GPS_LOCATION_EXTENDED_HAS_MAG_DEV ≠ 0 then
    let _magTrack :=
      let inner := location.bearing - ext.magneticDeviation
      if inner < 0 then inner + 360 else if inner > 360 then inner - 360 else inner
    magTrack
  else magTrack

def modeText (location : GpsLocation) (mode : LocPositionMode) : Text :=
  if location.flags &&& GPS_LOCATION_HAS_LAT_LONG = 0 then ['N']
  else if mode = .standalone then ['A']
  else ['D']

def vtgText (location : GpsLocation) (ext : PositionExtended) (mode : LocPositionMode) :
    Option Text := do
  let s ← emptySentence.put <|
    if location.flags &&& GPS_LOCATION_HAS_BEARING ≠ 0 then
      ['$', 'G', 'P', 'V', 'T', 'G', ','] ++ formatFixed 0 1 location.bearing ++ [',', 'T', ','] ++
        formatFixed 0 1 (magTrack location ext) ++ [',', 'M', ',']
    else ['$', 'G', 'P', 'V', 'T', 'G', ',', ',', 'T', ',', ',', 'M', ',']
  let s ← s.put <|
    if location.flags &&& GPS_LOCATION_HAS_SPEED ≠ 0 then
      formatFixed 0 1 (speedKnots location) ++ [',', 'N', ','] ++
        formatFixed 0 1 (speedKmPerHour location) ++ [',', 'K', ',']
    else [',', 'N', ',', ',', 'K', ',']
  return s.putLast (modeText location mode)

/-- The hour, minute, second and hundredth. -/
def timeText (tm : Tm) (timestamp : Int) : Text :=
  formatInt 2 tm.hour ++ formatInt 2 tm.min ++ formatInt 2 tm.sec ++ ['.'] ++
    formatInt 2 ((timestamp.tmod 1000).tdiv 10)

/-- The hemisphere and the latitude without its sign. -/
def latHemisphere (latitude : Rat) : Char × Rat :=
  if latitude > 0 then ('N', latitude) else ('S', latitude * -1)

def lonHemisphere (longitude : Rat) : Char × Rat :=
  if longitude < 0 then ('W', longitude * -1) else ('E', longitude)

/-- `%02d%09.6lf` and `%03d%09.6lf` of the degrees, as a byte, and the minutes. -/
def degreesText (width : Nat) (degrees : Rat) : Text :=
  formatInt width (⌊degrees⌋ % 256) ++ formatFixed 9 6 (fmod (degrees * 60) 60)

/-- The same code in the RMC and the GGA sentence. -/
def positionText (location : GpsLocation) : Text :=
  if location.flags &&& GPS_LOCATION_HAS_LAT_LONG ≠ 0 then
    let lat := latHemisphere location.latitude
    let lon := lonHemisphere location.longitude
    degreesText 2 lat.2 ++ [',', lat.1, ','] ++ degreesText 3 lon.2 ++ [',', lon.1, ',']
  else [',', ',', ',', ',']

/-- The printed variation and its direction. -/
def magneticVariation (ext : PositionExtended) : Rat × Char :=
  if ext.magneticDeviation < 0 then (ext.magneticDeviation * -1, 'W')
  else (ext.magneticDeviation, 'E')

def rmcText (location : GpsLocation) (ext : PositionExtended) (mode : LocPositionMode) (tm : Tm) :
    Option Text := do
  let s ← emptySentence.put
    (['$', 'G', 'P', 'R', 'M', 'C', ','] ++ timeText tm location.timestamp ++ [',', 'A', ','])
  let s ← s.put (positionText location)
  let s ← s.put <|
    if location.flags &&& GPS_LOCATION_HAS_SPEED ≠ 0 then
      formatFixed 0 1 (speedKnots location) ++ [',']
    else [',']
  let s ← s.put <|
    if location.flags &&& GPS_LOCATION_HAS_BEARING ≠ 0 then
      formatFixed 0 1 location.bearing ++ [',']
    else [',']
  let s ← s.put
    (formatTwo tm.mday ++ formatTwo (tm.mon + 1) ++ formatTwo (tm.year.tmod 100) ++ [','])
  let s ← s.put <|
    if ext.flags &&& GPS_LOCATION_EXTENDED_HAS_MAG_DEV ≠ 0 then
      formatFixed 0 1 (magneticVariation ext).1 ++ [',', (magneticVariation ext).2, ',']
    else [',', ',']
  return s.putLast (modeText location mode)

def gpsQuality (location : GpsLocation) (mode : LocPositionMode) : Char :=
  if location.flags &&& GPS_LOCATION_HAS_LAT_LONG = 0 then '0'
  else if mode = .standalone then '1'
  else '2'

def ggaText (location : GpsLocation) (ext : PositionExtended) (mode : LocPositionMode) (tm : Tm)
    (svUsedCount : Nat) (dops : Option (Rat × Rat × Rat)) : Option Text := do
  let s ← emptySentence.put
    (['$', 'G', 'P', 'G', 'G', 'A', ','] ++ timeText tm location.timestamp ++ [','])
  let s ← s.put (positionText location)
  let s ← s.put <| [gpsQuality location mode, ','] ++ formatInt 2 svUsedCount ++
    match dops with
    | some (_, hdop, _) => [','] ++ formatFixed 0 1 hdop ++ [',']
    | none => [',', ',']
  let s ← s.put <|
    if ext.flags &&& GPS_LOCATION_EXTENDED_HAS_ALTITUDE_MEAN_SEA_LEVEL ≠ 0 then
      formatFixed 0 1 ext.altitudeMeanSeaLevel ++ [',', 'M', ',']
    else [',', ',']
  return s.putLast <|
    if location.flags &&& GPS_LOCATION_HAS_ALTITUDE ≠ 0 ∧
        ext.flags &&& GPS_LOCATION_EXTENDED_HAS_ALTITUDE_MEAN_SEA_LEVEL ≠ 0 then
      formatFixed 0 1 (location.altitude - ext.altitudeMeanSeaLevel) ++ [',', 'M', ',', ',']
    else [',', ',', ',']

/-- A sentence that did not fit ends the function, with what it changed so far. -/
def LocEngData.report (d : LocEngData) : Option Text → Except LocEngData LocEngData
  | none => .error d
  | some text => .ok (d.locEngNmeaSend (locEngNmeaPutChecksum text NMEA_SENTENCE_MAX_LENGTH))

def reportPosition (d : LocEngData) (location : GpsLocation) (ext : PositionExtended)
    (mode : LocPositionMode) (tm : Tm) : Except LocEngData LocEngData := do
  let gpsUsed := svUsedList 0 d.gpsUsedMask
  let gloUsed := svUsedList 64 d.gloUsedMask
  let dops := dops d ext
  -- a mask is cleared once it is read
  let d ← { d with gpsUsedMask := 0 }.report (gsaText ['$', 'G', 'P', 'G', 'S', 'A'] gpsUsed dops)
  let d ← { d with gloUsedMask := 0 }.report (gsaText ['$', 'G', 'N', 'G', 'S', 'A'] gloUsed dops)
  let d ← d.report (vtgText location ext mode)
  let d ← d.report (rmcText location ext mode tm)
  d.report (ggaText location ext mode tm gpsUsed.length dops)

/-- For fixes that are not final. -/
def blankReports : List Text :=
  ["$GPGSA,A,1,,,,,,,,,,,,,,,".toList, "$GNGSA,A,1,,,,,,,,,,,,,,,".toList,
    "$GPVTG,,T,,M,,N,,K,N".toList, "$GPRMC,,V,,,,,,,,,,N".toList,
    "$GPGGA,,,,,,0,,,,,,,,".toList]

def LocEngData.clearDops (d : LocEngData) : LocEngData := { d with pdop := 0, hdop := 0, vdop := 0 }

def locEngNmeaGeneratePos (d : LocEngData) (location : GpsLocation) (ext : PositionExtended)
    (mode : LocPositionMode) (generateNmea : Bool) : LocEngData :=
  match gmtime (location.timestamp.tdiv 1000) with
  | none => d
  | some tm =>
    if generateNmea then
      match reportPosition d location ext mode tm with
      | .error d => d
      | .ok d => d.clearDops
    else
      (blankReports.foldl
        (fun d text => d.locEngNmeaSend (locEngNmeaPutChecksum text NMEA_SENTENCE_MAX_LENGTH))
        d).clearDops

end KiwiDevice.Gps.Nmea

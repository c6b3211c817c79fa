import Mathlib.Data.Rat.Floor
import Mathlib.Data.List.Basic

/-!
# Sentences of satellites in view

`loc_eng_nmea_generate_sv`. A sentence is written into its buffer with `snprintf`; a part that does
not fit ends the function. The measures are rationals, as finite floats are.
-/

namespace KiwiDevice.Gps.Nmea

abbrev Text := List Char

/-- `%d`, `%02d` and `%03d`, by the width. -/
def formatInt (width : Nat) (n : Int) : Text :=
  let digits := Nat.toDigits 10 n.natAbs
  let sign : Text := if n < 0 then ['-'] else []
  sign ++ List.replicate (width - (sign.length + digits.length)) '0' ++ digits

/-- `%02X` of a byte. -/
def formatByte (n : BitVec 8) : Text :=
  [(Nat.digitChar (n.toNat / 16)).toUpper, (Nat.digitChar (n.toNat % 16)).toUpper]

/-- `(int)(0.5 + x)`, which rounds towards zero. -/
def floatToInt (x : Rat) : Int := if 0 ≤ 1 / 2 + x then ⌊1 / 2 + x⌋ else ⌈1 / 2 + x⌉

def NMEA_SENTENCE_MAX_LENGTH : Nat := 200

structure GpsSvInfo where
  prn : Int
  snr : Rat
  elevation : Rat
  azimuth : Rat

structure QcomSvStatus where
  svList : List GpsSvInfo
  gpsUsedInFixMask : BitVec 32
  gloUsedInFixMask : BitVec 32

structure GpsLocationExtended where
  flags : BitVec 16
  pdop : Rat
  hdop : Rat
  vdop : Rat

/-- The data kept for the position report, and the calls of `loc_eng_nmea_send` so far. -/
structure LocEngData where
  gpsUsedMask : BitVec 32
  gloUsedMask : BitVec 32
  pdop : Rat
  hdop : Rat
  vdop : Rat
  sent : List (Text × Nat)

def GPS_LOCATION_EXTENDED_HAS_DOP : BitVec 16 := 0x0001

/-- Of the two parts of the function, which differ in these values only. -/
structure Constellation where
  talker : Text
  prnStart : Int
  prnEnd : Int

def gps : Constellation where
  talker := ['$', 'G', 'P', 'G', 'S', 'V']
  prnStart := 1
  prnEnd := 32

def glonass : Constellation where
  talker := ['$', 'G', 'L', 'G', 'S', 'V']
  prnStart := 65
  prnEnd := 96

def Constellation.Has (c : Constellation) (sv : GpsSvInfo) : Prop :=
  c.prnStart ≤ sv.prn ∧ sv.prn ≤ c.prnEnd

instance (c : Constellation) (sv : GpsSvInfo) : Decidable (c.Has sv) :=
  inferInstanceAs (Decidable (_ ∧ _))

/-- The array `sentence` up to the marker. -/
structure Sentence where
  text : Text
  lengthRemaining : Nat

def emptySentence : Sentence := ⟨[], NMEA_SENTENCE_MAX_LENGTH⟩

/-- `snprintf` at the marker and the check of its result. -/
def Sentence.put (s : Sentence) (part : Text) : Option Sentence :=
  if part.length ≥ s.lengthRemaining then none
  else some ⟨s.text ++ part, s.lengthRemaining - part.length⟩

/-- The sentence with its checksum, and the length. -/
def locEngNmeaPutChecksum (pNmea : Text) (maxSize : Nat) : Text × Nat :=
  let length := pNmea.tail.length
  let checksum := pNmea.tail.foldl (fun sum c => sum ^^^ BitVec.ofNat 8 c.toNat) 0
  let mark := '*' :: formatByte checksum ++ ['\r', '\n']
  (pNmea ++ mark.take (maxSize - length - 1 - 1), length + mark.length + 1)

def LocEngData.locEngNmeaSend (d : LocEngData) (sentence : Text × Nat) : LocEngData :=
  { d with sent := d.sent ++ [sentence] }

/-- The loop that counts the satellites of both constellations. -/
def countSvs (svList : List GpsSvInfo) : Nat × Nat :=
  svList.foldl
    (fun n sv =>
      if gps.Has sv then (n.1 + 1, n.2)
      else if glonass.Has sv then (n.1, n.2 + 1)
      else n)
    (0, 0)

def headerText (c : Constellation) (sentenceCount sentenceNumber count : Nat) : Text :=
  c.talker ++ [','] ++ formatInt 0 sentenceCount ++ [','] ++ formatInt 0 sentenceNumber ++ [','] ++
    formatInt 2 count

def angleText (sv : GpsSvInfo) : Text :=
  [','] ++ formatInt 2 sv.prn ++ [','] ++ formatInt 2 (floatToInt sv.elevation) ++ [','] ++
    formatInt 3 (floatToInt sv.azimuth) ++ [',']

def snrText (sv : GpsSvInfo) : Text := formatInt 2 (floatToInt sv.snr)

def putSv (s : Sentence) (sv : GpsSvInfo) : Option Sentence :=
  (s.put (angleText sv)).bind fun s => if sv.snr > 0 then s.put (snrText sv) else some s

/-- The loop over the satellites of one sentence. -/
def svLoop (c : Constellation) (svList : List GpsSvInfo) (svNumber i : Nat) (s : Sentence) :
    Option (Nat × Sentence) :=
  if svNumber ≤ svList.length ∧ i < 4 then
    svList[svNumber - 1]?.bind fun sv =>
      if c.Has sv then (putSv s sv).bind fun s => svLoop c svList (svNumber + 1) (i + 1) s
      else svLoop c svList (svNumber + 1) i s
  else some (svNumber, s)
termination_by svList.length + 1 - svNumber

/-- The loop over the sentences; `false` when the function returned from it. -/
def sentenceLoop (c : Constellation) (svList : List GpsSvInfo) (sentenceCount count sentenceNumber
    svNumber : Nat) (d : LocEngData) : Bool × LocEngData :=
  if sentenceNumber ≤ sentenceCount then
    match (emptySentence.put (headerText c sentenceCount sentenceNumber count)).bind
      (svLoop c svList svNumber 0) with
    | none => (false, d)
    | some (svNumber, s) =>
      sentenceLoop c svList sentenceCount count (sentenceNumber + 1) svNumber
        (d.locEngNmeaSend (locEngNmeaPutChecksum s.text NMEA_SENTENCE_MAX_LENGTH))
  else (true, d)
termination_by sentenceCount + 1 - sentenceNumber

def blankText (c : Constellation) : Text := c.talker ++ [',', '1', ',', '1', ',', '0', ',']

def sendConstellation (c : Constellation) (svList : List GpsSvInfo) (count : Nat)
    (d : LocEngData) : Bool × LocEngData :=
  if count ≤ 0 then
    (true, d.locEngNmeaSend (locEngNmeaPutChecksum (blankText c) NMEA_SENTENCE_MAX_LENGTH))
  else
    sentenceLoop c svList (count / 4 + if count % 4 ≠ 0 then 1 else 0) count 1 1 d

/-- The part after the sentences. -/
def cacheForPosition (d : LocEngData) (svStatus : QcomSvStatus)
    (locationExtended : GpsLocationExtended) : LocEngData :=
  let d :=
    { d with
      gpsUsedMask := svStatus.gpsUsedInFixMask
      gloUsedMask := svStatus.gloUsedInFixMask }
  if locationExtended.flags &&& GPS_LOCATION_EXTENDED_HAS_DOP ≠ 0 then
    { d with
      pdop := locationExtended.pdop
      hdop := locationExtended.hdop
      vdop := locationExtended.vdop }
  else
    { d with pdop := 0, hdop := 0, vdop := 0 }

def locEngNmeaGenerateSv (d : LocEngData) (svStatus : QcomSvStatus)
    (locationExtended : GpsLocationExtended) : LocEngData :=
  let counts := countSvs svStatus.svList
  match sendConstellation gps svStatus.svList counts.1 d with
  | (false, d) => d
  | (true, d) =>
    match sendConstellation glonass svStatus.svList counts.2 d with
    | (false, d) => d
    | (true, d) => cacheForPosition d svStatus locationExtended

end KiwiDevice.Gps.Nmea

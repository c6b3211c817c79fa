import KiwiDevice.Gps.NmeaText
import KiwiDevice.Lib.Lists

/-!
# The sentences partition the satellites

The texts that `loc_eng_nmea_generate_sv` sends are those of the satellites of each constellation,
four to a sentence.
-/

namespace KiwiDevice.Gps.Nmea

/-- What a sentence says. -/
structure GsvSentence where
  count : Nat
  number : Nat
  total : Nat
  svs : List GpsSvInfo

def svText (sv : GpsSvInfo) : Text := angleText sv ++ if sv.snr > 0 then snrText sv else []

def GsvSentence.text (s : GsvSentence) (c : Constellation) : Text :=
  headerText c s.count s.number s.total ++ s.svs.flatMap svText

def checksumText (text : Text) : Text :=
  '*' :: formatByte (text.tail.foldl (fun sum c => sum ^^^ BitVec.ofNat 8 c.toNat) 0) ++
    ['\r', '\n']

/-- A text that is sent whole, with its length. -/
def complete (text : Text) : Text × Nat := (text ++ checksumText text, text.length + 5)

def gsvSentence (svs : List GpsSvInfo) (j : Nat) : GsvSentence where
  count := (svs.length + 3) / 4
  number := j + 1
  total := svs.length
  svs := (svs.drop (4 * j)).take 4

/-- The satellites four to a sentence. -/
def gsvSentences (svs : List GpsSvInfo) : List GsvSentence :=
  (List.range ((svs.length + 3) / 4)).map (gsvSentence svs)

/-- One blank sentence when there are none. -/
def sends (c : Constellation) : List GsvSentence → List (Text × Nat)
  | [] => [complete (blankText c)]
  | sentences => sentences.map fun s => complete (s.text c)

structure Partitions (svs : List GpsSvInfo) (sentences : List GsvSentence) : Prop where
  length : sentences.length = (svs.length + 3) / 4
  numbers : sentences.map GsvSentence.number = List.range' 1 sentences.length
  count : ∀ s ∈ sentences, s.count = sentences.length
  total : ∀ s ∈ sentences, s.total = svs.length
  atMost : ∀ s ∈ sentences, s.svs.length ≤ 4
  full : ∀ s ∈ sentences.dropLast, s.svs.length = 4
  svs : sentences.flatMap GsvSentence.svs = svs

variable {c : Constellation} {svs svList : List GpsSvInfo} {s : GsvSentence} {text part : Text}

theorem gsvSentences_partitions : Partitions svs (gsvSentences svs) where
  length := by simp [gsvSentences]
  numbers := by
    simp [gsvSentences, gsvSentence, Function.comp_def, List.range'_eq_map_range, Nat.add_comm]
  count := by simp [gsvSentences, gsvSentence]
  total := by simp [gsvSentences, gsvSentence]
  atMost := by simp [gsvSentences, gsvSentence]
  full := by
    intro s hMem
    rw [gsvSentences, ← List.map_dropLast, List.mem_map] at hMem
    obtain ⟨j, hRange, rfl⟩ := hMem
    have hLast : j < (svs.length + 3) / 4 - 1 := by
      rw [List.dropLast_eq_take, List.length_range, List.take_range, List.mem_range] at hRange
      omega
    simp only [gsvSentence, List.length_take, List.length_drop]
    omega
  svs := by
    have hPieces := Lib.flatMap_pieces 4 ((svs.length + 3) / 4) svs
    rw [gsvSentences, List.flatMap_map]
    exact hPieces.trans (List.take_of_length_le (by omega))

theorem not_glonass {sv : GpsSvInfo} (hGps : gps.Has sv) : ¬ glonass.Has sv := by
  simp only [Constellation.Has, gps, glonass] at *
  omega

theorem countSvs_foldl (n : Nat × Nat) :
    svList.foldl
      (fun n sv =>
        if gps.Has sv then (n.1 + 1, n.2) else if glonass.Has sv then (n.1, n.2 + 1) else n) n =
      (n.1 + (svList.filter fun sv => gps.Has sv).length,
        n.2 + (svList.filter fun sv => glonass.Has sv).length) := by
  induction svList generalizing n with
  | nil => simp
  | cons sv svList ih =>
    rw [List.foldl_cons, ih]
    by_cases hGps : gps.Has sv
    · simp [hGps, not_glonass hGps, Nat.add_assoc, Nat.add_comm 1]
    · by_cases hGlonass : glonass.Has sv
      · simp [hGps, hGlonass, Nat.add_assoc, Nat.add_comm 1]
      · simp [hGps, hGlonass]

theorem countSvs_eq :
    countSvs svList = ((svList.filter fun sv => gps.Has sv).length,
      (svList.filter fun sv => glonass.Has sv).length) := by
  rw [countSvs, countSvs_foldl]
  simp

/-- The array with a text in it. -/
def sentenceOf (text : Text) : Sentence := ⟨text, NMEA_SENTENCE_MAX_LENGTH - text.length⟩

theorem put_eq (hFits : (text ++ part).length < NMEA_SENTENCE_MAX_LENGTH) :
    (sentenceOf text).put part = some (sentenceOf (text ++ part)) := by
  rw [List.length_append] at hFits
  rw [Sentence.put, sentenceOf, if_neg (by simp only; omega), sentenceOf, List.length_append,
    Nat.sub_add_eq]

theorem putSv_eq {sv : GpsSvInfo} (hFits : (text ++ svText sv).length < NMEA_SENTENCE_MAX_LENGTH) :
    putSv (sentenceOf text) sv = some (sentenceOf (text ++ svText sv)) := by
  have hAngle : (text ++ angleText sv).length < NMEA_SENTENCE_MAX_LENGTH := by
    simp only [svText, List.length_append] at hFits ⊢
    omega
  rw [putSv, put_eq hAngle, Option.bind_some]
  by_cases hSnr : sv.snr > 0
  · simp only [svText, if_pos hSnr, ← List.append_assoc] at hFits ⊢
    exact put_eq hFits
  · simp [svText, hSnr]

/-- From satellite `m` on, with `i` in the sentence already. -/
theorem svLoop_eq {rest : List GpsSvInfo} {m i : Nat} (hRest : svList.drop m = rest)
    (hCount : i ≤ 4)
    (hFits : (text ++ ((rest.filter fun sv => c.Has sv).take (4 - i)).flatMap svText).length <
      NMEA_SENTENCE_MAX_LENGTH) :
    ∃ m', svLoop c svList (m + 1) i (sentenceOf text) = some (m' + 1, sentenceOf
        (text ++ ((rest.filter fun sv => c.Has sv).take (4 - i)).flatMap svText)) ∧
      ((svList.drop m').filter fun sv => c.Has sv) =
        (rest.filter fun sv => c.Has sv).drop (4 - i) := by
  induction rest generalizing m i text with
  | nil =>
    have hEnd : svList.length ≤ m := List.drop_eq_nil_iff.mp hRest
    refine ⟨m, ?_, ?_⟩
    · rw [svLoop, if_neg (by omega)]
      simp
    · simp [hRest]
  | cons sv rest ih =>
    obtain hLess | rfl := Nat.lt_or_eq_of_le hCount
    · have hLength : m < svList.length := by
        by_contra hGe
        rw [List.drop_eq_nil_of_le (by omega)] at hRest
        cases hRest
      rw [List.drop_eq_getElem_cons hLength, List.cons.injEq] at hRest
      have hGet : svList[m + 1 - 1]? = some sv := by
        rw [Nat.add_sub_cancel, List.getElem?_eq_getElem hLength, hRest.1]
      rw [svLoop, if_pos (by omega), hGet, Option.bind_some]
      by_cases hHas : c.Has sv
      · have hTake : 4 - i = 4 - (i + 1) + 1 := by omega
        simp only [List.filter_cons, hHas, decide_true, if_true, hTake, List.take_succ_cons,
          List.flatMap_cons, List.drop_succ_cons] at hFits ⊢
        rw [← List.append_assoc] at hFits ⊢
        have hHere : (text ++ svText sv).length < NMEA_SENTENCE_MAX_LENGTH := by
          rw [List.length_append] at hFits
          omega
        rw [putSv_eq hHere, Option.bind_some]
        exact ih hRest.2 (by omega) hFits
      · simp only [List.filter_cons, hHas, decide_false, if_false, Bool.false_eq_true] at hFits ⊢
        exact ih hRest.2 hCount hFits
    · refine ⟨m, ?_, ?_⟩
      · rw [svLoop, if_neg (by omega)]
        simp
      · simp [hRest]

theorem putChecksum_eq (hText : text ≠ []) (hFits : text.length + 5 < NMEA_SENTENCE_MAX_LENGTH) :
    locEngNmeaPutChecksum text NMEA_SENTENCE_MAX_LENGTH = complete text := by
  have hTail : text.tail.length = text.length - 1 := List.length_tail
  have hPos : 0 < text.length := List.length_pos_of_ne_nil hText
  have hMark : (checksumText text).length = 5 := rfl
  have hTake : (checksumText text).take (NMEA_SENTENCE_MAX_LENGTH - text.tail.length - 1 - 1) =
      checksumText text := List.take_of_length_le (by omega)
  have hLength : text.tail.length + (checksumText text).length + 1 = text.length + 5 := by omega
  rw [locEngNmeaPutChecksum, complete]
  exact Prod.ext (congrArg (text ++ ·) hTake) hLength

/-- From sentence `j` on, with the satellites of the sentences before it behind `m`. -/
theorem sentenceLoop_eq {m j left : Nat} {d : LocEngData}
    (hLeft : j + left = (svs.length + 3) / 4)
    (hRest : ((svList.drop m).filter fun sv => c.Has sv) = svs.drop (4 * j))
    (hFits : ∀ s ∈ gsvSentences svs, (s.text c).length + 5 < NMEA_SENTENCE_MAX_LENGTH) :
    sentenceLoop c svList ((svs.length + 3) / 4) svs.length (j + 1) (m + 1) d =
      (true, { d with sent := d.sent ++
        (List.range' j left).map fun j => complete ((gsvSentence svs j).text c) }) := by
  induction left generalizing m j d with
  | zero =>
    rw [sentenceLoop, if_neg (by omega)]
    simp
  | succ left ih =>
    have hMem : gsvSentence svs j ∈ gsvSentences svs :=
      List.mem_map_of_mem (List.mem_range.mpr (by omega))
    have hWhole := hFits _ hMem
    have hText : (gsvSentence svs j).text c ≠ [] := by
      simp [GsvSentence.text, headerText]
    have hHeader : ([] ++ headerText c ((svs.length + 3) / 4) (j + 1) svs.length).length <
        NMEA_SENTENCE_MAX_LENGTH := by
      simp only [GsvSentence.text, gsvSentence, List.length_append] at hWhole
      rw [List.nil_append]
      omega
    have hBody : (headerText c ((svs.length + 3) / 4) (j + 1) svs.length ++
        (((svList.drop m).filter fun sv => c.Has sv).take 4).flatMap svText).length <
          NMEA_SENTENCE_MAX_LENGTH := by
      rw [hRest]
      exact lt_of_le_of_lt (Nat.le_add_right _ 5) hWhole
    obtain ⟨m', hLoop, hRest'⟩ := svLoop_eq rfl (Nat.zero_le 4) hBody
    have hNext : ((svList.drop m').filter fun sv => c.Has sv) = svs.drop (4 * (j + 1)) := by
      rw [hRest', hRest, List.drop_drop, Nat.mul_succ]
    have hSentence : (emptySentence.put
        (headerText c ((svs.length + 3) / 4) (j + 1) svs.length)).bind (svLoop c svList (m + 1) 0) = some (m' + 1, sentenceOf ((gsvSentence svs j).text c)) := by
      have hEmpty : emptySentence = sentenceOf [] := rfl
      rw [hEmpty, put_eq hHeader, Option.bind_some]
      rw [hRest] at hLoop
      exact hLoop
    rw [sentenceLoop, if_pos (by omega), hSentence]
    simp only
    rw [ih (by omega) hNext]
    simp only [sentenceOf, putChecksum_eq hText hWhole, LocEngData.locEngNmeaSend]
    rw [List.range'_succ, List.map_cons, List.append_assoc, List.singleton_append]

theorem sends_of_ne_nil {sentences : List GsvSentence} (hNe : sentences ≠ []) :
    sends c sentences = sentences.map fun s => complete (s.text c) := by
  cases sentences with
  | nil => exact absurd rfl hNe
  | cons s sentences => rfl

theorem sendConstellation_eq {d : LocEngData}
    (hBlank : (blankText c).length + 5 < NMEA_SENTENCE_MAX_LENGTH)
    (hFits : ∀ s ∈ gsvSentences (svList.filter fun sv => c.Has sv),
      (s.text c).length + 5 < NMEA_SENTENCE_MAX_LENGTH) :
    sendConstellation c svList (svList.filter fun sv => c.Has sv).length d =
      (true, { d with sent := d.sent ++ sends c (gsvSentences (svList.filter fun sv => c.Has sv)) })
      := by
  have hRest : ((svList.drop 0).filter fun sv => c.Has sv) =
      (svList.filter fun sv => c.Has sv).drop (4 * 0) := rfl
  generalize hSvs : (svList.filter fun sv => c.Has sv) = svs at hFits hRest ⊢
  rw [sendConstellation]
  by_cases hZero : svs.length ≤ 0
  · cases svs with
    | nil =>
      have hComplete := putChecksum_eq (by simp [blankText]) hBlank
      simp [hComplete, LocEngData.locEngNmeaSend, sends, gsvSentences]
    | cons sv svs => exact absurd hZero (Nat.not_succ_le_zero _)
  · have hCeil : svs.length / 4 + (if svs.length % 4 ≠ 0 then 1 else 0) = (svs.length + 3) / 4 := by
      split <;> omega
    have hNe : gsvSentences svs ≠ [] := by
      simp only [gsvSentences, ne_eq, List.map_eq_nil_iff, List.range_eq_nil]
      omega
    rw [if_neg hZero, hCeil, sentenceLoop_eq (Nat.zero_add _) hRest hFits, sends_of_ne_nil hNe,
      gsvSentences, List.map_map, List.range_eq_range']
    rfl

/-- Each constellation has its sentences, first GPS and then GLONASS. -/
theorem generateSv_partitions (d : LocEngData) (svStatus : QcomSvStatus)
    (locationExtended : GpsLocationExtended)
    (hFits : ∀ c ∈ [gps, glonass], ∀ s ∈ gsvSentences (svStatus.svList.filter fun sv => c.Has sv),
      (s.text c).length + 5 < NMEA_SENTENCE_MAX_LENGTH) :
    ∃ gpsSentences glonassSentences,
      Partitions (svStatus.svList.filter fun sv => gps.Has sv) gpsSentences ∧
        Partitions (svStatus.svList.filter fun sv => glonass.Has sv) glonassSentences ∧
        (locEngNmeaGenerateSv d svStatus locationExtended).sent =
          d.sent ++ sends gps gpsSentences ++ sends glonass glonassSentences := by
  refine ⟨_, _, gsvSentences_partitions, gsvSentences_partitions, ?_⟩
  have hGps := fun d => sendConstellation_eq (d := d) (by decide) (hFits gps (by simp))
  have hGlonass := fun d => sendConstellation_eq (d := d) (by decide) (hFits glonass (by simp))
  rw [locEngNmeaGenerateSv, countSvs_eq]
  simp only [hGps, hGlonass, cacheForPosition]
  split
  · rfl
  · rfl

/-- Five of GPS, one of GLONASS and a foreign one. -/
def mixedStatus : QcomSvStatus where
  svList := [⟨3, 40, 45, 120⟩, ⟨70, 0, 10, 7⟩, ⟨201, 30, 20, 90⟩, ⟨5, 22, 1 / 4, 359⟩,
    ⟨3, 0, 90, 0⟩, ⟨32, 99, 12, 33⟩, ⟨1, 18, 60, 200⟩]
  gpsUsedInFixMask := 0
  gloUsedInFixMask := 0

def noData : LocEngData := ⟨0, 0, 0, 0, 0, []⟩

theorem generateSv_partitions_mixed :
    ∃ gpsSentences glonassSentences, gpsSentences.length = 2 ∧ glonassSentences.length = 1 ∧
      (locEngNmeaGenerateSv noData mixedStatus ⟨0, 0, 0, 0⟩).sent =
        sends gps gpsSentences ++ sends glonass glonassSentences := by
  obtain ⟨gpsSentences, glonassSentences, hGps, hGlonass, hSent⟩ :=
    generateSv_partitions noData mixedStatus ⟨0, 0, 0, 0⟩ (by decide +kernel)
  exact ⟨gpsSentences, glonassSentences, hGps.length, hGlonass.length, hSent⟩

end KiwiDevice.Gps.Nmea

import KiwiDevice.Gps.ConfigText

/-!
# Which configuration texts are applied

The loop over the lines ends after as many matching lines as the table has entries less one, and
counts the lines instead of the entries.
-/

namespace KiwiDevice.Gps.Conf

/-- The name on a line, and the value as it stands there. -/
def lineItem (line : Text) : Option (Text × Text) :=
  match tokens '=' line with
  | name :: value :: _ => some (locUtilTrimSpace name, value)
  | _ => none

def lineName (line : Text) : Option Text := (lineItem line).map Prod.fst

/-- The values on the lines with a name. -/
def valuesOf (lines : List Text) (name : Text) : List Text :=
  lines.filterMap fun line => (lineItem line).bind fun item =>
    if item.1 = name then some item.2 else none

/-- The type and the pointer are those that the table is declared with. -/
def LocParam.Settable (entry : LocParam) : Prop :=
  entry.hasPtr = true ∧ (entry.paramType = 's' ∨ entry.paramType = 'n' ∨ entry.paramType = 'f')

instance (entry : LocParam) : Decidable entry.Settable :=
  inferInstanceAs (Decidable (_ ∧ _))

variable {δ : Type}

/-- What an entry gets for a value. -/
def entryWrite (doubles : Doubles δ) (entry : LocParam) (value : Text) : Option (ParamWrite δ) :=
  locSetConfigEntry entry (parseNumber doubles entry.paramName value)

/-- Every entry that one line names has the value of that line, and these entries are counted. -/
def applied (doubles : Doubles δ) (lines : List Text) (table : List LocParam) :
    Int × List (Option (ParamWrite δ)) :=
  (table.countP fun entry => (valuesOf lines entry.paramName).length = 1,
    table.map fun entry =>
      match valuesOf lines entry.paramName with
      | [value] => entryWrite doubles entry (strip value)
      | _ => none)

/-- The line is the only one that names some entry. -/
def NamesAlone (table : List LocParam) (lines : List Text) (line : Text) : Prop :=
  ∃ entry ∈ table, lineName line = some entry.paramName ∧
    (valuesOf lines entry.paramName).length = 1

/-- Lines that name entries come first. The loop stops behind the last entry but one; where it does
not stop, there is no other line. -/
structure Applicable (text : Text) (table : List LocParam) : Prop where
  nonempty : text ≠ []
  lines : ∃ front back, tokens '\n' text = front ++ back ∧
    (∀ line ∈ front, NamesAlone table (tokens '\n' text) line) ∧
    (∀ line ∈ back, ¬ NamesAlone table (tokens '\n' text) line) ∧
    front.length < table.length ∧ (back ≠ [] → front.length + 1 = table.length)
  values : ∀ entry ∈ table, entry.paramType = 's' →
    ∀ value, valuesOf (tokens '\n' text) entry.paramName = [value] → value.all isspace = false

variable {doubles : Doubles δ} {table : List LocParam} {lines front back : List Text}
  {line name value : Text} {entry : LocParam}

@[simp] theorem valuesOf_append :
    valuesOf (front ++ back) name = valuesOf front name ++ valuesOf back name :=
  List.filterMap_append

theorem valuesOf_single_none (h : lineName line ≠ some name) : valuesOf [line] name = [] := by
  cases hItem : lineItem line with
  | none => simp [valuesOf, hItem]
  | some item =>
    have hNe : item.1 ≠ name := by
      rintro rfl
      exact h (by simp [lineName, hItem])
    simp [valuesOf, hItem, hNe]

theorem valuesOf_single (h : lineItem line = some (name, value)) :
    valuesOf [line] name = [value] := by
  simp [valuesOf, h]

theorem length_valuesOf : (valuesOf lines name).length = (lines.map lineName).count (some name) := by
  induction lines with
  | nil => rfl
  | cons line lines ih =>
    have hSplit : valuesOf (line :: lines) name = valuesOf [line] name ++ valuesOf lines name :=
      (valuesOf_append : valuesOf ([line] ++ lines) name = _)
    rw [hSplit, List.length_append, ih, List.map_cons, List.count_cons]
    cases hItem : lineItem line with
    | none =>
      have hName : lineName line = none := by simp [lineName, hItem]
      simp [valuesOf_single_none (hName.trans_ne (by simp)), hName]
    | some item =>
      have hName : lineName line = some item.1 := by simp [lineName, hItem]
      by_cases hEq : item.1 = name
      · subst hEq
        simp [valuesOf_single hItem, hName, Nat.add_comm]
      · have hOther : lineName line ≠ some name := by simpa [hName] using hEq
        simp [valuesOf_single_none hOther, hName, hEq]

theorem exists_line_of_valuesOf (h : valuesOf lines name ≠ []) :
    ∃ line ∈ lines, lineName line = some name := by
  have hPos : 0 < (lines.map lineName).count (some name) := by
    rw [← length_valuesOf]
    exact List.length_pos_of_ne_nil h
  exact List.mem_map.mp (List.count_pos_iff.mp hPos)

theorem valuesOf_ne_nil (hMem : line ∈ lines) (h : lineName line = some name) :
    valuesOf lines name ≠ [] := by
  apply List.ne_nil_of_length_pos
  rw [length_valuesOf]
  exact List.count_pos_iff.mpr (List.mem_map.mpr ⟨line, hMem, h⟩)

theorem entryWrite_isSome (h : entry.Settable) : (entryWrite doubles entry value).isSome = true := by
  obtain ⟨hPtr, hType⟩ := h
  have hName : (parseNumber doubles entry.paramName value).paramName = entry.paramName := by
    unfold parseNumber
    split <;> rfl
  rw [entryWrite, locSetConfigEntry, if_pos ⟨hName.symm, hPtr⟩, Option.isSome_map, paramValue]
  rcases hType with hType | hType | hType
  · rw [if_pos hType]
    split <;> rfl
  · simp [hType]
  · simp [hType]

/-- A value goes to the entries with its name only. -/
theorem locSetConfigEntry_parse :
    locSetConfigEntry entry (parseNumber doubles name value) =
      if entry.paramName = name then entryWrite doubles entry value else none := by
  have hName : (parseNumber doubles name value).paramName = name := by
    unfold parseNumber
    split <;> rfl
  split
  · rename_i hEq
    rw [entryWrite, hEq]
  · rename_i hNe
    rw [locSetConfigEntry, hName, if_neg fun h => hNe h.1]

/-- What the lines have written so far; a later line goes over an earlier one. -/
def writesAfter (doubles : Doubles δ) (table : List LocParam) (lines : List Text) :
    List (Option (ParamWrite δ)) :=
  table.map fun entry => (valuesOf lines entry.paramName).getLast?.bind fun value =>
    entryWrite doubles entry (locUtilTrimSpace value)

def Names (table : List LocParam) (line : Text) : Bool :=
  table.any fun entry => lineName line = some entry.paramName

theorem names_iff :
    Names table line = true ↔ ∃ entry ∈ table, lineName line = some entry.paramName := by
  simp [Names]

/-- A line writes to one entry at most, as no two have the same name. -/
theorem fill_writesAfter (hNames : (table.map LocParam.paramName).Nodup)
    (hTable : ∀ entry ∈ table, entry.Settable) :
    locFillConfItem doubles line table (writesAfter doubles table lines) =
      (if Names table line then 1 else 0, writesAfter doubles table (lines ++ [line])) := by
  have hNone : ∀ name, lineName line ≠ some name →
      valuesOf (lines ++ [line]) name = valuesOf lines name := by
    intro name hName
    rw [valuesOf_append, valuesOf_single_none hName, List.append_nil]
  unfold locFillConfItem
  split
  · rename_i name value _ hTokens
    have hItem : lineItem line = some (locUtilTrimSpace name, value) := by
      rw [lineItem, hTokens]
    have hName : lineName line = some (locUtilTrimSpace name) := by simp [lineName, hItem]
    have hCount : (table.map fun entry => locSetConfigEntry entry
        (parseNumber doubles (locUtilTrimSpace name) (locUtilTrimSpace value))).countP
          Option.isSome = (table.map LocParam.paramName).count (locUtilTrimSpace name) := by
      rw [List.countP_map, List.count, List.countP_map]
      apply List.countP_congr
      intro entry hMem
      rw [Function.comp_apply, locSetConfigEntry_parse]
      split
      · rename_i hEq
        simp [entryWrite_isSome (hTable entry hMem), hEq]
      · rename_i hNe
        simp [hNe]
    refine Prod.ext ?_ ?_
    · show List.countP _ _ = _
      rw [hCount]
      split
      · rename_i hNamed
        obtain ⟨entry, hMem, hEq⟩ := names_iff.mp hNamed
        rw [hName] at hEq
        rw [Option.some.inj hEq]
        exact List.count_eq_one_of_mem hNames (List.mem_map_of_mem hMem)
      · rename_i hNot
        apply List.count_eq_zero_of_not_mem
        intro hMem
        obtain ⟨entry, hEntry, hEq⟩ := List.mem_map.mp hMem
        exact hNot (names_iff.mpr ⟨entry, hEntry, by rw [hName, hEq]⟩)
    · show List.zipWith Option.or _ _ = _
      rw [writesAfter, List.zipWith_map, List.zipWith_self, writesAfter]
      apply List.map_congr_left
      intro entry hMem
      rw [locSetConfigEntry_parse]
      split
      · rename_i hEq
        rw [← hEq] at hItem
        rw [valuesOf_append, valuesOf_single hItem, List.getLast?_concat, Option.bind_some]
        exact Option.or_of_isSome (entryWrite_isSome (hTable entry hMem))
      · rename_i hNe
        rw [Option.none_or, hNone]
        rw [hName]
        exact fun hEq => hNe (Option.some.inj hEq).symm
  · rename_i hTokens
    have hItem : lineItem line = none := by
      unfold lineItem
      split
      · rename_i name value rest hEq
        exact absurd hEq (hTokens name value rest)
      · rfl
    have hName : lineName line = none := by simp [lineName, hItem]
    have hNot : Names table line = false := by simp [Names, hName]
    refine Prod.ext ?_ ?_
    · simp [hNot]
    · apply List.map_congr_left
      intro entry _
      rw [hNone _ (by simp [hName])]

variable (doubles) in
/-- The lines that are read, and those behind the last entry but one. -/
theorem confLoop_eq (hNames : (table.map LocParam.paramName).Nodup)
    (hTable : ∀ entry ∈ table, entry.Settable) (rest : List Text) (k : Nat) (hk : k < 2 ^ 32)
    (ret : Int) (lines : List Text) :
    ∃ front back, rest = front ++ back ∧
      confLoop doubles table rest (BitVec.ofNat 32 k) ret (writesAfter doubles table lines) =
        (ret + front.length, writesAfter doubles table (lines ++ front)) ∧
      front.countP (Names table) ≤ k ∧ (back ≠ [] → front.countP (Names table) = k) ∧
      ∀ read more, front = read ++ more → more ≠ [] → read.countP (Names table) < k := by
  induction rest generalizing k ret lines with
  | nil => exact ⟨[], [], rfl, by simp [confLoop], by simp, by simp, by simp⟩
  | cons line rest ih =>
    rw [confLoop]
    by_cases hZero : k = 0
    · subst hZero
      exact ⟨[], line :: rest, rfl, by simp, by simp, by simp, by simp⟩
    · have hMore : BitVec.ofNat 32 k ≠ 0 := by
        intro hEq
        have hNat := congrArg BitVec.toNat hEq
        rw [BitVec.toNat_ofNat, Nat.mod_eq_of_lt hk] at hNat
        exact hZero hNat
      rw [if_neg hMore, fill_writesAfter hNames hTable]
      generalize hStep : (if Names table line = true then 1 else 0 : Nat) = c
      have hLe : c ≤ k := by
        rw [← hStep]
        split <;> omega
      have hSub : BitVec.ofNat 32 k - BitVec.ofNat 32 c = BitVec.ofNat 32 (k - c) := by
        apply BitVec.eq_of_toNat_eq
        simp only [BitVec.toNat_sub, BitVec.toNat_ofNat]
        omega
      obtain ⟨front, back, hRest, hLoop, hCount, hStop, hBefore⟩ :=
        ih (k - c) (by omega) (ret + 1) (lines ++ [line])
      refine ⟨line :: front, back, by rw [hRest, List.cons_append], ?_, ?_, ?_, ?_⟩
      · simp only [hSub, hLoop, List.append_assoc, List.singleton_append, List.length_cons]
        congr 1
        push_cast
        omega
      · rw [List.countP_cons]
        omega
      · intro hNe
        rw [List.countP_cons]
        have hLast := hStop hNe
        omega
      · intro read more hSplit hMoreNe
        cases read with
        | nil =>
          rw [List.countP_nil]
          omega
        | cons first read =>
          rw [List.cons_append, List.cons.injEq] at hSplit
          have hLess := hBefore read more hSplit.2 hMoreNe
          rw [List.countP_cons, ← hSplit.1]
          omega

instance : DecidablePred (NamesAlone table lines) := fun line =>
  inferInstanceAs (Decidable (∃ entry ∈ table, lineName line = some entry.paramName ∧
    (valuesOf lines entry.paramName).length = 1))

/-- The entries that one line names, and these lines among the first ones. -/
theorem countP_namesAlone (hNames : (table.map LocParam.paramName).Nodup)
    (hFront : ∀ entry ∈ table, (valuesOf (front ++ back) entry.paramName).length = 1 →
      valuesOf front entry.paramName ≠ []) :
    front.countP (NamesAlone table (front ++ back)) =
      table.countP fun entry => (valuesOf (front ++ back) entry.paramName).length = 1 := by
  generalize hAlone : (front.filter (NamesAlone table (front ++ back))).map lineName = alone
  generalize hOnce : (table.filter fun entry =>
    (valuesOf (front ++ back) entry.paramName).length = 1).map
      (fun entry => some entry.paramName) = once
  have hMem : ∀ name, name ∈ alone ↔ name ∈ once := by
    intro name
    rw [← hAlone, ← hOnce]
    simp only [List.mem_map, List.mem_filter, decide_eq_true_eq]
    constructor
    · rintro ⟨line, ⟨_, entry, hEntry, hName, hLength⟩, rfl⟩
      exact ⟨entry, ⟨hEntry, hLength⟩, hName.symm⟩
    · rintro ⟨entry, ⟨hEntry, hLength⟩, rfl⟩
      obtain ⟨line, hLine, hName⟩ := exists_line_of_valuesOf (hFront entry hEntry hLength)
      exact ⟨line, ⟨hLine, entry, hEntry, hName, hLength⟩, hName⟩
  have hNodupOnce : once.Nodup := by
    rw [← hOnce]
    have hMap : ((table.map LocParam.paramName).map some).Nodup :=
      hNames.map fun _ _ hEq => Option.some.inj hEq
    rw [List.map_map] at hMap
    exact hMap.sublist (List.filter_sublist.map _)
  have hNodupAlone : alone.Nodup := by
    rw [List.nodup_iff_count_le_one]
    intro name
    by_cases hIn : name ∈ alone
    · have hLines : alone.Sublist ((front ++ back).map lineName) := by
        rw [← hAlone]
        exact (List.filter_sublist.trans (List.sublist_append_left _ _)).map _
      have hInOnce := (hMem name).mp hIn
      rw [← hOnce] at hInOnce
      obtain ⟨entry, hFilter, rfl⟩ := List.mem_map.mp hInOnce
      have hLength := of_decide_eq_true (List.mem_filter.mp hFilter).2
      rw [length_valuesOf] at hLength
      exact hLength ▸ hLines.count_le _
    · rw [List.count_eq_zero_of_not_mem hIn]
      exact Nat.zero_le 1
  have hPerm : alone.Perm once := (List.perm_ext_iff_of_nodup hNodupAlone hNodupOnce).mpr hMem
  have hLength := hPerm.length_eq
  rw [← hAlone, ← hOnce, List.length_map, List.length_map, ← List.countP_eq_length_filter,
    ← List.countP_eq_length_filter] at hLength
  exact hLength

/-- Spaces are the number zero. -/
theorem parseNumber_blank (h : value.all isspace = true) :
    parseNumber doubles name value = ⟨name, value, 0, doubles.zero⟩ := by
  have hAll := List.all_eq_true.mp h
  have hHex : ¬ (value.length ≥ 3 ∧ value[0]? = some '0' ∧
      value[1]?.map Char.toLower = some 'x') := by
    rintro ⟨_, hZero, _⟩
    cases hAll '0' (List.mem_of_getElem? hZero)
  have hDrop : value.dropWhile isspace = [] := List.dropWhile_eq_nil_iff.mpr hAll
  rw [parseNumber, if_neg hHex, doubles.blank value hAll, strtol, hDrop]
  rfl

/-- Only a string keeps spaces that are the whole value. -/
theorem entryWrite_trim_iff (hSettable : entry.Settable) (hValue : value ≠ []) :
    entryWrite doubles entry (locUtilTrimSpace value) = entryWrite doubles entry (strip value) ↔
      (entry.paramType = 's' → value.all isspace = false) := by
  rw [locUtilTrimSpace_eq]
  cases hBlank : value.all isspace with
  | false => simp
  | true =>
    have hNil : ([] : Text).all isspace = true := rfl
    have hNull : value ≠ ['N', 'U', 'L', 'L'] := by
      rintro rfl
      cases hBlank
    obtain ⟨hPtr, hType⟩ := hSettable
    rw [strip_blank hBlank]
    simp only [if_true, entryWrite, parseNumber_blank hBlank, parseNumber_blank hNil,
      locSetConfigEntry, hPtr, and_self]
    rcases hType with hType | hType | hType
    · have hTake : value.take LOC_MAX_PARAM_STRING ≠ [] := by
        simp [LOC_MAX_PARAM_STRING, hValue]
      simp [paramValue, hType, hNull, hTake]
    · simp [paramValue, hType]
    · simp [paramValue, hType]

theorem ne_nil_of_mem_valuesOf (h : value ∈ valuesOf lines name) : value ≠ [] := by
  obtain ⟨line, _, hItem⟩ := List.mem_filterMap.mp h
  obtain ⟨item, hLine, hValue⟩ := Option.bind_eq_some_iff.mp hItem
  rw [lineItem] at hLine
  split at hLine
  · rename_i token value' rest hTokens
    cases hLine
    split at hValue
    · cases hValue
      have hMem : value' ∈ tokens '=' line := by simp [hTokens]
      exact of_decide_eq_true (List.mem_filter.mp hMem).2
    · cases hValue
  · cases hLine

theorem names_of_namesAlone (h : NamesAlone table lines line) : Names table line = true := by
  obtain ⟨entry, hEntry, hName, _⟩ := h
  exact names_iff.mpr ⟨entry, hEntry, hName⟩

theorem countP_names_eq (h : ∀ line ∈ front, NamesAlone table lines line) :
    front.countP (Names table) = front.length :=
  List.countP_eq_length.mpr fun line hMem => names_of_namesAlone (h line hMem)

theorem not_mem_valuesOf_back (hBack : ∀ line ∈ back, ¬ NamesAlone table lines line)
    (hEntry : entry ∈ table) (hOnce : (valuesOf lines entry.paramName).length = 1) :
    valuesOf back entry.paramName = [] := by
  by_contra hNe
  obtain ⟨line, hMem, hName⟩ := exists_line_of_valuesOf hNe
  exact hBack line hMem ⟨entry, hEntry, hName, hOnce⟩

/-- The lines read are those that alone name an entry. -/
theorem applied_of_front (hNames : (table.map LocParam.paramName).Nodup)
    (hTable : ∀ entry ∈ table, entry.Settable)
    (hFront : ∀ line ∈ front, NamesAlone table (front ++ back) line)
    (hBack : ∀ line ∈ back, ¬ NamesAlone table (front ++ back) line)
    (hValues : ∀ entry ∈ table, entry.paramType = 's' →
      ∀ value, valuesOf (front ++ back) entry.paramName = [value] → value.all isspace = false) :
    ((front.length : Int), writesAfter doubles table front) =
      applied doubles (front ++ back) table := by
  have hOnce : ∀ entry ∈ table, (valuesOf (front ++ back) entry.paramName).length = 1 →
      valuesOf front entry.paramName = valuesOf (front ++ back) entry.paramName := by
    intro entry hEntry hLength
    rw [valuesOf_append, not_mem_valuesOf_back hBack hEntry hLength, List.append_nil]
  refine Prod.ext ?_ ?_
  · have hCount := countP_namesAlone hNames fun entry hEntry hLength => by
      rw [hOnce entry hEntry hLength]
      exact List.ne_nil_of_length_pos (by omega)
    have hAll : front.countP (NamesAlone table (front ++ back)) = front.length :=
      List.countP_eq_length.mpr fun line hMem => decide_eq_true (hFront line hMem)
    show (front.length : Int) = ((table.countP _ : Nat) : Int)
    rw [← hCount, hAll]
  · apply List.map_congr_left
    intro entry hEntry
    split
    · rename_i value hValue
      have hSame := hOnce entry hEntry (by rw [hValue]; rfl)
      have hNe : value ≠ [] := ne_nil_of_mem_valuesOf (by rw [hValue]; exact List.mem_cons_self)
      rw [hSame, hValue, List.getLast?_singleton, Option.bind_some]
      exact (entryWrite_trim_iff (hTable entry hEntry) hNe).mpr fun hType =>
        hValues entry hEntry hType value hValue
    · rename_i hOther
      have hNone : valuesOf front entry.paramName = [] := by
        by_contra hNe
        obtain ⟨line, hMem, hName⟩ := exists_line_of_valuesOf hNe
        obtain ⟨other, hOtherMem, hOtherName, hLength⟩ := hFront line hMem
        rw [hName] at hOtherName
        rw [← Option.some.inj hOtherName] at hLength
        obtain ⟨value, hValue⟩ := List.length_eq_one_iff.mp hLength
        exact hOther value hValue
      rw [hNone, List.getLast?_nil, Option.bind_none]

theorem front_of_applied (hNames : (table.map LocParam.paramName).Nodup)
    (hTable : ∀ entry ∈ table, entry.Settable)
    (h : ((front.length : Int), writesAfter doubles table front) =
      applied doubles (front ++ back) table) :
    (∀ line ∈ front, NamesAlone table (front ++ back) line) ∧
      (∀ line ∈ back, ¬ NamesAlone table (front ++ back) line) ∧
      ∀ entry ∈ table, entry.paramType = 's' →
        ∀ value, valuesOf (front ++ back) entry.paramName = [value] →
          value.all isspace = false := by
  have hLength : (front.length : Int) = ((table.countP fun entry =>
      (valuesOf (front ++ back) entry.paramName).length = 1 : Nat) : Int) := congrArg Prod.fst h
  have hWrites := List.map_inj_left.mp (congrArg Prod.snd h)
  have hRead : ∀ entry ∈ table, ∀ value, valuesOf (front ++ back) entry.paramName = [value] →
      valuesOf front entry.paramName = [value] := by
    intro entry hEntry value hValue
    have hWrite := hWrites entry hEntry
    rw [hValue] at hWrite
    rw [valuesOf_append] at hValue
    rcases List.append_eq_singleton_iff.mp hValue with ⟨hNil, _⟩ | ⟨hSingle, _⟩
    · have hSome : (entryWrite doubles entry (strip value)).isSome = true :=
        entryWrite_isSome (hTable entry hEntry)
      rw [hNil] at hWrite
      simp only [← hWrite] at hSome
      cases hSome
    · exact hSingle
  have hNonempty : ∀ entry ∈ table, (valuesOf (front ++ back) entry.paramName).length = 1 →
      valuesOf front entry.paramName ≠ [] := by
    intro entry hEntry hOne
    obtain ⟨value, hValue⟩ := List.length_eq_one_iff.mp hOne
    rw [hRead entry hEntry value hValue]
    exact List.cons_ne_nil value []
  refine ⟨?_, ?_, ?_⟩
  · have hCount := countP_namesAlone hNames hNonempty
    have hAll : front.countP (NamesAlone table (front ++ back)) = front.length := by
      rw [hCount]
      exact_mod_cast hLength.symm
    exact fun line hMem => of_decide_eq_true (List.countP_eq_length.mp hAll line hMem)
  · rintro line hMem ⟨entry, hEntry, hName, hOne⟩
    have hFirst := List.length_pos_of_ne_nil (hNonempty entry hEntry hOne)
    have hSecond := List.length_pos_of_ne_nil (valuesOf_ne_nil hMem hName)
    rw [valuesOf_append, List.length_append] at hOne
    omega
  · intro entry hEntry hType value hValue
    have hWrite := hWrites entry hEntry
    have hNe : value ≠ [] := ne_nil_of_mem_valuesOf (by rw [hValue]; exact List.mem_cons_self)
    rw [hRead entry hEntry value hValue, hValue] at hWrite
    exact (entryWrite_trim_iff (hTable entry hEntry) hNe).mp hWrite hType

/-- Where the lines that alone name an entry come first, and the loop can stop behind them, it reads
exactly these. -/
theorem front_unique {lines' : List Text} {k : Nat} {read rest : List Text}
    (hSplit : front ++ back = read ++ rest)
    (hFront : ∀ line ∈ front, NamesAlone table lines' line) (hLess : front.length ≤ k)
    (hFull : back ≠ [] → front.length = k)
    (hStop : rest ≠ [] → read.countP (Names table) = k)
    (hBefore : ∀ first more, read = first ++ more → more ≠ [] → first.countP (Names table) < k) :
    read = front ∧ rest = back := by
  rcases List.append_eq_append_iff.mp hSplit with ⟨more, hRead, hBack⟩ | ⟨more, hFrontEq, hRest⟩
  · cases more with
    | nil =>
      rw [List.append_nil] at hRead
      exact ⟨hRead, hBack.symm⟩
    | cons line more =>
      have hLate := hBefore front (line :: more) hRead (List.cons_ne_nil _ _)
      have hWhole := hFull (by rw [hBack]; exact List.cons_ne_nil _ _)
      rw [countP_names_eq hFront] at hLate
      omega
  · cases more with
    | nil =>
      rw [List.append_nil] at hFrontEq
      exact ⟨hFrontEq.symm, hRest⟩
    | cons line more =>
      have hEarly := hStop (by rw [hRest]; exact List.cons_ne_nil _ _)
      have hReadAlone : ∀ line ∈ read, NamesAlone table lines' line := fun line hMem =>
        hFront line (by rw [hFrontEq]; exact List.mem_append_left _ hMem)
      rw [countP_names_eq hReadAlone] at hEarly
      rw [hFrontEq, List.length_append, List.length_cons] at hLess
      omega

theorem locUpdateConf_eq {malloc : Bool} {text : Text} (hText : text ≠ []) (hEntries : table ≠ [])
    (hMalloc : malloc = true) :
    locUpdateConf doubles malloc text table = confLoop doubles table (tokens '\n' text)
      (BitVec.ofNat 32 (table.length - 1)) 0 (writesAfter doubles table []) := by
  have hPos : 0 < table.length := List.length_pos_of_ne_nil hEntries
  have hOne : BitVec.ofNat 32 table.length - 1 = BitVec.ofNat 32 (table.length - 1) := by
    apply BitVec.eq_of_toNat_eq
    simp only [BitVec.toNat_sub, BitVec.toNat_ofNat, BitVec.ofNat_eq_ofNat]
    omega
  have hStart : (table.map fun _ => (none : Option (ParamWrite δ))) =
      writesAfter doubles table [] := by
    simp [writesAfter, valuesOf]
  rw [locUpdateConf, if_pos ⟨hText, hEntries, hMalloc⟩, hOne, hStart]

/-- A text is applied completely, and the entries counted, iff its matching lines come first, leave
one entry out when other lines follow, and none of their strings is blank. -/
theorem update_conf_iff (doubles : Doubles δ) (malloc : Bool) (text : Text)
    (table : List LocParam) (hEntries : table ≠ []) (hLength : table.length < 2 ^ 32)
    (hNames : (table.map LocParam.paramName).Nodup) (hTable : ∀ entry ∈ table, entry.Settable) :
    locUpdateConf doubles malloc text table = applied doubles (tokens '\n' text) table ↔
      malloc = true ∧ Applicable text table := by
  have hPos : 0 < table.length := List.length_pos_of_ne_nil hEntries
  obtain ⟨read, rest, hSplit, hLoop, hCount, hStop, hBefore⟩ :=
    confLoop_eq doubles hNames hTable (tokens '\n' text) (table.length - 1) (by omega) 0 []
  rw [Int.zero_add, List.nil_append] at hLoop
  constructor
  · intro hApplied
    by_cases hRuns : text ≠ [] ∧ table ≠ [] ∧ malloc = true
    · obtain ⟨hText, _, hMalloc⟩ := hRuns
      rw [locUpdateConf_eq hText hEntries hMalloc, hLoop, hSplit] at hApplied
      obtain ⟨hFront, hBack, hValues⟩ := front_of_applied hNames hTable hApplied
      rw [countP_names_eq hFront] at hCount hStop
      rw [← hSplit] at hFront hBack hValues
      refine ⟨hMalloc, hText, ⟨read, rest, hSplit, hFront, hBack, by omega, ?_⟩, hValues⟩
      intro hNe
      have hAll := hStop hNe
      omega
    · rw [locUpdateConf, if_neg hRuns] at hApplied
      have hCounted : (-1 : Int) = ((table.countP _ : Nat) : Int) := congrArg Prod.fst hApplied
      omega
  · rintro ⟨hMalloc, hText, ⟨front, back, hLines, hFront, hBack, hLess, hFull⟩, hValues⟩
    obtain ⟨rfl, rfl⟩ := front_unique (hLines.symm.trans hSplit) hFront (k := table.length - 1)
      (by omega) (fun hNe => by have := hFull hNe; omega) hStop hBefore
    rw [locUpdateConf_eq hText hEntries hMalloc, hLoop, hSplit]
    rw [hSplit] at hFront hBack hValues
    exact applied_of_front hNames hTable hFront hBack hValues

/-- The numbers that the entries are read as are not looked at here. -/
def noDoubles : Doubles Unit where
  zero := ()
  atof _ := ()
  blank _ _ := rfl

def agpsTable : List LocParam :=
  [⟨"SUPL_HOST".toList, true, true, 's'⟩, ⟨"SUPL_PORT".toList, true, true, 'n'⟩]

/-- One entry of two, with a comment behind it. -/
theorem update_conf_iff_host :
    locUpdateConf noDoubles true "SUPL_HOST = supl.example\n# port".toList agpsTable =
      (1, [some ⟨.string "supl.example".toList, true⟩, none]) := by
  have hApplicable : Applicable "SUPL_HOST = supl.example\n# port".toList agpsTable := by
    have hValues : ∀ entry ∈ agpsTable, ∀ value ∈ valuesOf
        (tokens '\n' "SUPL_HOST = supl.example\n# port".toList) entry.paramName,
          value.all isspace = false := by decide
    refine ⟨by decide, ⟨["SUPL_HOST = supl.example".toList], ["# port".toList], by decide⟩, ?_⟩
    intro entry hEntry _ value hValue
    exact hValues entry hEntry value (by rw [hValue]; exact List.mem_cons_self)
  exact (update_conf_iff noDoubles true "SUPL_HOST = supl.example\n# port".toList agpsTable
    (by decide) (by decide) (by decide) (by decide)).mpr ⟨rfl, hApplicable⟩

/-- With a line for every entry the last one is not read. -/
theorem update_conf_full :
    locUpdateConf noDoubles true "SUPL_HOST=supl.example\nSUPL_PORT=7275\n".toList agpsTable =
        (1, [some ⟨.string "supl.example".toList, true⟩, none]) ∧
      applied noDoubles (tokens '\n' "SUPL_HOST=supl.example\nSUPL_PORT=7275\n".toList)
          agpsTable =
        (2, [some ⟨.string "supl.example".toList, true⟩, some ⟨.int 7275, true⟩]) := by
  constructor
  · decide
  · decide

end KiwiDevice.Gps.Conf

import Mathlib.Algebra.Order.Ring.Int
import Mathlib.Data.List.TakeWhile

/-!
# Focus and metering areas

The parser of area strings such as `(1,2,3,4,5),(6,7,8,9,10)` and the check of what it finds. A
string is the list of its bytes before the NUL, a pointer into it the rest of the string from there.
`int` and `long` have 32 bits, and their sums and differences wrap around. The arrays `area_str` and
`pAreas` are local to the parser and given by its caller; a write past `area_str` has no result.
-/

namespace KiwiDevice.Hal.Areas

def openParen : UInt8 := 40

def closeParen : UInt8 := 41

def comma : UInt8 := 44

structure CamArea where
  left : Int
  top : Int
  width : Int
  height : Int
  weight : Int
  deriving DecidableEq, Repr

def int32 (n : Int) : Int := (n + 2 ^ 31) % 2 ^ 32 - 2 ^ 31

/-- What `strtol` returns for this number. -/
def clamp (n : Int) : Int := if n < -2 ^ 31 then -2 ^ 31 else if 2 ^ 31 ≤ n then 2 ^ 31 - 1 else n

def isSpace (c : UInt8) : Bool := c = 32 ∨ 9 ≤ c ∧ c ≤ 13

def isDigit (c : UInt8) : Bool := 48 ≤ c ∧ c ≤ 57

def digitsValue (digits : List UInt8) : Nat :=
  digits.foldl (fun n c => 10 * n + (c.toNat - 48)) 0

/-- The sign in front of a number, and the rest of the string after it. -/
def readSign : List UInt8 → Int × List UInt8
  | 45 :: s => (-1, s)
  | 43 :: s => (1, s)
  | s => (1, s)

/-- The number at the start of a string, and the rest of the string after it; without a number these
are 0 and the string itself. -/
def readNumber (s : List UInt8) : Int × List UInt8 :=
  let signed := readSign (s.dropWhile isSpace)
  let digits := signed.2.takeWhile isDigit
  if digits = [] then (0, s) else (signed.1 * digitsValue digits, signed.2.dropWhile isDigit)

def strtol (s : List UInt8) : Int × List UInt8 := ((readNumber s).1 |> clamp, (readNumber s).2)

/-- The loop of `parseNDimVector`, reading the numbers by `read`. -/
def parseValues (read : List UInt8 → Int × List UInt8) : Nat → List UInt8 → Option (List Int)
  | 0, _ => some []
  | n + 1, start =>
    -- the last number may be followed by anything
    if (read start).2.head? ≠ some comma ∧ 0 < n then none
    else (parseValues read n (read start).2.tail).map ((read start).1 :: ·)

def parseNDimVector (read : List UInt8 → Int × List UInt8) (str : List UInt8) (n : Nat) :
    Option (List Int) :=
  if str.head? ≠ some openParen ∨ str.getLast? ≠ some closeParen then none
  else parseValues read n str.tail

def areaOf (values : List Int) : CamArea where
  left := values.getD 0 0
  top := values.getD 1 0
  width := int32 (values.getD 2 0 - values.getD 0 0)
  height := int32 (values.getD 3 0 - values.getD 1 0)
  weight := values.getD 4 0

def badValue : Int := -22

def areaStrSize : Nat := 32

theorem dropWhile_length_le {α : Type} (p : α → Bool) (l : List α) :
    (l.dropWhile p).length ≤ l.length :=
  (List.dropWhile_sublist p).length_le

/-- The loop of `parseCameraAreaString`; `areas` is what it has written to `pAreas`. -/
def parseAreas (maxNumAreas : Int) (start : List UInt8) (areas : List CamArea) :
    Option (Int × List CamArea) :=
  match start with
  | [] => some (badValue, areas)
  | c :: rest =>
    if c ≠ openParen then some (badValue, areas)
    else if rest.dropWhile (· ≠ closeParen) = [] then some (badValue, areas)
    else
      let areaStr := c :: rest.takeWhile (· ≠ closeParen) ++ [closeParen]
      if areaStrSize ≤ areaStr.length then none
      else
        match parseNDimVector strtol areaStr 5 with
        | none => some (badValue, areas)
        | some values =>
          if maxNumAreas ≤ areas.length then some (badValue, areas)
          else
            let next := (rest.dropWhile (· ≠ closeParen)).dropWhile (· ≠ openParen)
            if next = [] then some (0, areas ++ [areaOf values])
            else parseAreas maxNumAreas next (areas ++ [areaOf values])
  termination_by start.length
  decreasing_by
    have hOuter := dropWhile_length_le (· ≠ openParen) (rest.dropWhile (· ≠ closeParen))
    have hInner := dropWhile_length_le (· ≠ closeParen) rest
    rw [List.length_cons]
    omega

/-- The result and `pAreas`; `num_areas_found` is the number of these areas if the result is 0. -/
def parseCameraAreaString (str : List UInt8) (maxNumAreas : Int) : Option (Int × List CamArea) :=
  parseAreas maxNumAreas str []

def isDefaultArea (areas : List CamArea) : Bool := areas = [⟨0, 0, 0, 0, 0⟩]

def validArea (a : CamArea) : Bool :=
  -1000 ≤ a.left ∧ -1000 ≤ a.top ∧ 0 < a.width ∧ 0 < a.height ∧
    int32 (a.left + a.width) ≤ 1000 ∧ int32 (a.top + a.height) ≤ 1000 ∧
    1 ≤ a.weight ∧ a.weight ≤ 1000

def validateCameraAreas (areas : List CamArea) : Bool :=
  isDefaultArea areas || areas.all validArea

/-!
### The groups of an area string

What an area string says as text: its parenthesised groups and the integers in them. The parser goes
through the groups one by one.
-/

/-- The groups of a string in order; `none` stands for a parenthesis that is not closed. -/
def areaGroups (s : List UInt8) : List (Option (List UInt8)) :=
  match s with
  | [] => []
  | c :: rest =>
    if c ≠ openParen then areaGroups rest
    else if closeParen ∉ rest then [none]
    else
      some (c :: rest.takeWhile (· ≠ closeParen) ++ [closeParen]) ::
        areaGroups (rest.dropWhile (· ≠ closeParen))
  termination_by s.length
  decreasing_by
    · exact Nat.lt_succ_self _
    · exact Nat.lt_succ_of_le (dropWhile_length_le _ _)

/-- The five integers that a group begins with. -/
def groupNumbers (group : List UInt8) : Option (List Int) := parseNDimVector readNumber group 5

/-- The groups that the parser copies to `area_str`, when `n` areas have been found: up to one
without five numbers, or one too many. -/
def copiedGroups (maxNumAreas : Int) : List (Option (List UInt8)) → Nat → List (List UInt8)
  | some group :: gs, n =>
    group ::
      if (groupNumbers group).isSome ∧ (n : Int) < maxNumAreas then
        copiedGroups maxNumAreas gs (n + 1)
      else []
  | _, _ => []

/-- The groups are closed, have five numbers each and are no more than `maxNumAreas`. -/
def Accepted (maxNumAreas : Int) (s : List UInt8) : Prop :=
  s.head? = some openParen ∧ ((areaGroups s).length : Int) ≤ maxNumAreas ∧
    ∀ group? ∈ areaGroups s, ∃ group, group? = some group ∧ (groupNumbers group).isSome

/-- The parser as a loop over the groups. -/
def parseGroups (maxNumAreas : Int) :
    List (Option (List UInt8)) → List CamArea → Option (Int × List CamArea)
  | [], areas => some (0, areas)
  | none :: _, areas => some (badValue, areas)
  | some group :: gs, areas =>
    if areaStrSize ≤ group.length then none
    else
      match parseNDimVector strtol group 5 with
      | none => some (badValue, areas)
      | some values =>
        if maxNumAreas ≤ areas.length then some (badValue, areas)
        else parseGroups maxNumAreas gs (areas ++ [areaOf values])

theorem dropWhile_eq_nil_iff_notMem {c : UInt8} {s : List UInt8} :
    s.dropWhile (· ≠ c) = [] ↔ c ∉ s := by
  rw [List.dropWhile_eq_nil_iff]
  constructor
  · intro h hMem
    simpa using h c hMem
  · intro h x hx
    have hOther : x ≠ c := fun hSame => h (hSame ▸ hx)
    simpa using hOther

theorem areaGroups_dropWhile (s : List UInt8) :
    areaGroups (s.dropWhile (· ≠ openParen)) = areaGroups s := by
  induction s with
  | nil => rfl
  | cons c rest ih =>
    by_cases h : c = openParen
    · subst h
      rw [List.dropWhile_cons_of_neg (by simp)]
    · rw [List.dropWhile_cons_of_pos (by simpa using h), ih, areaGroups.eq_2 c rest, if_pos h]

theorem dropWhile_open (s : List UInt8) :
    s.dropWhile (· ≠ openParen) = [] ∨ ∃ rest, s.dropWhile (· ≠ openParen) = openParen :: rest := by
  induction s with
  | nil => exact .inl rfl
  | cons c s ih =>
    by_cases h : c = openParen
    · subst h
      exact .inr ⟨s, List.dropWhile_cons_of_neg (by simp)⟩
    · rwa [List.dropWhile_cons_of_pos (by simpa using h)]

theorem parseAreas_eq_parseGroups (maxNumAreas : Int) (rest : List UInt8) (areas : List CamArea) :
    parseAreas maxNumAreas (openParen :: rest) areas =
      parseGroups maxNumAreas (areaGroups (openParen :: rest)) areas := by
  have hOpen : ¬ openParen ≠ openParen := not_not_intro rfl
  rw [parseAreas.eq_2, areaGroups.eq_2, if_neg hOpen, if_neg hOpen]
  by_cases hClosed : closeParen ∈ rest
  · rw [if_neg (by rwa [dropWhile_eq_nil_iff_notMem, not_not]), if_neg (not_not_intro hClosed),
      parseGroups.eq_3]
    have hLength := dropWhile_length_le (· ≠ openParen) (rest.dropWhile (· ≠ closeParen))
    have hInner := dropWhile_length_le (· ≠ closeParen) rest
    rw [← areaGroups_dropWhile (rest.dropWhile _)]
    generalize openParen :: rest.takeWhile (· ≠ closeParen) ++ [closeParen] = areaStr
    dsimp only
    cases parseNDimVector strtol areaStr 5 with
    | none => rfl
    | some values =>
      dsimp only
      rcases dropWhile_open (rest.dropWhile (· ≠ closeParen)) with hNone | ⟨next, hNext⟩
      · rw [hNone, if_pos rfl, areaGroups.eq_1, parseGroups.eq_1]
      · rw [hNext, if_neg (List.cons_ne_nil _ _)]
        rw [hNext, List.length_cons] at hLength
        have hShort : next.length < rest.length := by omega
        rw [parseAreas_eq_parseGroups maxNumAreas next]
  · rw [if_pos (dropWhile_eq_nil_iff_notMem.mpr hClosed), if_pos hClosed, parseGroups.eq_2]
  termination_by rest.length


theorem areaGroups_cons_ne_nil (rest : List UInt8) : areaGroups (openParen :: rest) ≠ [] := by
  rw [areaGroups.eq_2, if_neg (not_not_intro rfl)]
  split <;> exact List.cons_ne_nil _ _

theorem parseCameraAreaString_eq (s : List UInt8) (maxNumAreas : Int) :
    parseCameraAreaString s maxNumAreas =
      if s.head? = some openParen then parseGroups maxNumAreas (areaGroups s) []
      else some (badValue, []) := by
  rw [parseCameraAreaString]
  cases s with
  | nil => rw [parseAreas.eq_1, List.head?_nil, if_neg (Option.some_ne_none _).symm]
  | cons c rest =>
    rw [List.head?_cons]
    by_cases h : c = openParen
    · subst h
      rw [if_pos rfl, parseAreas_eq_parseGroups]
    · rw [if_neg (fun hSome => h (Option.some.inj hSome)), parseAreas.eq_2, if_pos h]

theorem strtol_eq (s : List UInt8) : strtol s = (clamp (readNumber s).1, (readNumber s).2) := rfl

theorem parseValues_strtol (n : Nat) (s : List UInt8) :
    parseValues strtol n s = (parseValues readNumber n s).map (List.map clamp) := by
  induction n generalizing s with
  | zero => rfl
  | succ n ih =>
    rw [parseValues, parseValues, strtol_eq]
    dsimp only
    split
    · rfl
    · rw [ih, Option.map_map, Option.map_map]
      rfl

theorem parseNDimVector_strtol (group : List UInt8) :
    parseNDimVector strtol group 5 = (groupNumbers group).map (List.map clamp) := by
  rw [groupNumbers, parseNDimVector, parseNDimVector]
  split
  · rfl
  · exact parseValues_strtol 5 group.tail

theorem parseValues_length {read : List UInt8 → Int × List UInt8} {n : Nat} {s : List UInt8}
    {values : List Int} (h : parseValues read n s = some values) : values.length = n := by
  induction n generalizing s values with
  | zero =>
    cases h
    rfl
  | succ n ih =>
    rw [parseValues] at h
    split at h
    · cases h
    · obtain ⟨rest, hRest, rfl⟩ := Option.map_eq_some_iff.mp h
      rw [List.length_cons, ih hRest]

theorem groupNumbers_cases {group : List UInt8} {values : List Int}
    (h : groupNumbers group = some values) : ∃ l t r b w, values = [l, t, r, b, w] := by
  have hLength : values.length = 5 := by
    rw [groupNumbers, parseNDimVector] at h
    split at h
    · cases h
    · exact parseValues_length h
  match values, hLength with
  | [l, t, r, b, w], _ => exact ⟨l, t, r, b, w, rfl⟩

end KiwiDevice.Hal.Areas

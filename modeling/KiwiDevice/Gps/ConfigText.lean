import Mathlib.Algebra.Group.Int.Defs
import Mathlib.Algebra.Group.Nat.Defs
import Mathlib.Data.List.DropRight
import Mathlib.Data.List.Nodup

/-!
# Configuration text

`loc_update_conf` cuts a text into lines with `strtok_r`, and `loc_fill_conf_item` a line into a
name and a value, which go to the entries of the table with that name.
-/

namespace KiwiDevice.Gps.Conf

/-- A C string without its terminator. -/
abbrev Text := List Char

/-- In the C locale. -/
def isspace (c : Char) : Bool := c == ' ' || (9 ≤ c.toNat && c.toNat ≤ 13)

/-- The tokens that the calls of `strtok_r` give one after the other. -/
def tokens (delim : Char) (text : Text) : List Text := (text.splitOn delim).filter (· ≠ [])

/-- What of `loc_util_trim_space` changes from one character to the next: the characters written to
the front of the string, and their number at the last one that is no space. -/
structure TrimScan where
  firstNonspace : Bool
  written : Text
  lastNonspace : Option Nat

def trimPass (s : TrimScan) (c : Char) : TrimScan :=
  if s.firstNonspace || !isspace c then
    { firstNonspace := true
      written := s.written ++ [c]
      lastNonspace := if isspace c then s.lastNonspace else some (s.written.length + 1) }
  else s

def locUtilTrimSpace (orgString : Text) : Text :=
  let s := orgString.foldl trimPass ⟨false, [], none⟩
  match s.lastNonspace with
  | some last => s.written.take last
  | none => orgString

def digitValue (c : Char) : Nat :=
  if c.isDigit then c.toNat - '0'.toNat
  else if c.isAlpha then c.toLower.toNat - 'a'.toNat + 10
  else 36

/-- The digits of the base at the front. -/
def leadingNumber (base : Nat) (text : Text) : Nat :=
  (text.takeWhile fun c => digitValue c < base).foldl (fun n c => n * base + digitValue c) 0

/-- A prefix `0x` is passed over when a digit of the base follows. -/
def skipHex (text : Text) : Text :=
  match text with
  | '0' :: x :: c :: rest => if x.toLower = 'x' ∧ digitValue c < 16 then c :: rest else text
  | _ => text

/-- Into a `long` of 64 bits. -/
def strtol (base : Nat) (text : Text) : Int :=
  let number := fun text => (leadingNumber base (if base = 16 then skipHex text else text) : Int)
  match text.dropWhile isspace with
  | '-' :: rest => max (-2 ^ 63) (-number rest)
  | '+' :: rest => min (2 ^ 63 - 1) (number rest)
  | rest => min (2 ^ 63 - 1) (number rest)

/-- The conversion of a `long` to an `int`. -/
def toInt (n : Int) : Int := (BitVec.ofInt 32 n).toInt

/-- Of the C library: `atof` of a text that holds no number is zero. -/
structure Doubles (δ : Type) where
  zero : δ
  atof : Text → δ
  blank : ∀ text, (∀ c ∈ text, isspace c = true) → atof text = zero

structure ConfigValue (δ : Type) where
  paramName : Text
  paramStrValue : Text
  paramIntValue : Int
  paramDoubleValue : δ

inductive ParamValue (δ : Type) where
  | string (text : Text)
  | int (n : Int)
  | double (d : δ)
  deriving DecidableEq

/-- An entry of the table, with whether its pointers are there. -/
structure LocParam where
  paramName : Text
  hasPtr : Bool
  hasSet : Bool
  paramType : Char
  deriving DecidableEq

/-- What was written to `param_ptr`, and whether 1 was to `param_set`. -/
structure ParamWrite (δ : Type) where
  value : ParamValue δ
  isSet : Bool
  deriving DecidableEq

def LOC_MAX_PARAM_STRING : Nat := 80

variable {δ : Type}

def paramValue (paramType : Char) (v : ConfigValue δ) : Option (ParamValue δ) :=
  if paramType = 's' then
    if v.paramStrValue = ['N', 'U', 'L', 'L'] then some (.string [])
    else some (.string (v.paramStrValue.take LOC_MAX_PARAM_STRING))
  else if paramType = 'n' then some (.int v.paramIntValue)
  else if paramType = 'f' then some (.double v.paramDoubleValue)
  else none

/-- `none` for the result -1. -/
def locSetConfigEntry (entry : LocParam) (v : ConfigValue δ) : Option (ParamWrite δ) :=
  if entry.paramName = v.paramName ∧ entry.hasPtr then
    (paramValue entry.paramType v).map fun value => ⟨value, entry.hasSet⟩
  else none

/-- The numbers that a value stands for. -/
def parseNumber (doubles : Doubles δ) (name value : Text) : ConfigValue δ :=
  if value.length ≥ 3 ∧ value[0]? = some '0' ∧ value[1]?.map Char.toLower = some 'x' then
    ⟨name, value, toInt (strtol 16 (value.drop 2)), doubles.zero⟩
  else ⟨name, value, toInt (strtol 10 value), doubles.atof value⟩

/-- The writes to the entries of the table so far are `writes`. -/
def locFillConfItem (doubles : Doubles δ) (inputBuf : Text) (table : List LocParam)
    (writes : List (Option (ParamWrite δ))) : Nat × List (Option (ParamWrite δ)) :=
  match tokens '=' inputBuf with
  | name :: value :: _ =>
    let v := parseNumber doubles (locUtilTrimSpace name) (locUtilTrimSpace value)
    let results := table.map fun entry => locSetConfigEntry entry v
    (results.countP Option.isSome, List.zipWith Option.or results writes)
  | _ => (0, writes)

/-- The loop over the lines, which counts them in `ret`. -/
def confLoop (doubles : Doubles δ) (table : List LocParam) :
    List Text → BitVec 32 → Int → List (Option (ParamWrite δ)) →
      Int × List (Option (ParamWrite δ))
  | [], _, ret, writes => (ret, writes)
  | inputBuf :: rest, numParams, ret, writes =>
    if numParams = 0 then (ret, writes)
    else
      let r := locFillConfItem doubles inputBuf table writes
      confLoop doubles table rest (numParams - BitVec.ofNat 32 r.1) (ret + 1) r.2

/-- The text of length `strlen`, and whether `malloc` gives memory for its copy. -/
def locUpdateConf (doubles : Doubles δ) (malloc : Bool) (confData : Text)
    (table : List LocParam) : Int × List (Option (ParamWrite δ)) :=
  let writes := table.map fun _ => none
  if confData ≠ [] ∧ table ≠ [] ∧ malloc then
    -- start with one record off
    confLoop doubles table (tokens '\n' confData) (BitVec.ofNat 32 table.length - 1) 0 writes
  else (-1, writes)

/-- Without the spaces around it. -/
def strip (text : Text) : Text := (text.dropWhile isspace).rdropWhile isspace

theorem trimScan_eq (text : Text) :
    text.foldl trimPass ⟨false, [], none⟩ =
      ⟨!text.all isspace, text.dropWhile isspace,
        if text.all isspace then none else some (strip text).length⟩ := by
  induction text using List.reverseRecOn with
  | nil => rfl
  | append_singleton text c ih =>
    rw [List.foldl_append, ih]
    by_cases hBlank : text.all isspace = true
    · have hNone : text.dropWhile isspace = [] := by
        rw [List.dropWhile_eq_nil_iff]
        exact List.all_eq_true.mp hBlank
      cases hSpace : isspace c with
      | true => simp [trimPass, hBlank, hSpace, List.dropWhile_append, hNone]
      | false =>
        simp [trimPass, hBlank, hSpace, List.dropWhile_append, hNone, strip, List.rdropWhile]
    · rw [Bool.not_eq_true] at hBlank
      have hSome : text.dropWhile isspace ≠ [] := by
        intro hNil
        rw [List.dropWhile_eq_nil_iff] at hNil
        rw [List.all_eq_true.mpr hNil] at hBlank
        cases hBlank
      cases hSpace : isspace c with
      | true =>
        simp [trimPass, hBlank, hSpace, List.dropWhile_append, hSome, strip]
      | false =>
        simp [trimPass, hBlank, hSpace, List.dropWhile_append, hSome, strip]

theorem strip_blank {text : Text} (h : text.all isspace = true) : strip text = [] := by
  rw [strip, List.dropWhile_eq_nil_iff.mpr (List.all_eq_true.mp h)]
  rfl

/-- A string of spaces only is left as it is. -/
theorem locUtilTrimSpace_eq (text : Text) :
    locUtilTrimSpace text = if text.all isspace then text else strip text := by
  rw [locUtilTrimSpace, trimScan_eq]
  cases hBlank : text.all isspace with
  | true => simp
  | false =>
    simp only [Bool.false_eq_true, if_false]
    exact (List.prefix_iff_eq_take.mp (List.rdropWhile_prefix _ _)).symm

end KiwiDevice.Gps.Conf

import Mathlib.Data.Rat.Floor
import Mathlib.Algebra.Order.Ring.Rat
import Mathlib.Tactic.Linarith

/-!
# Decimal numerals

Numerals of a fixed number of digits, decimal fractions, and the rounding of a rational to the
nearest integer, the even one of two.
-/

namespace KiwiDevice.Lib

/-- The value of a row of digits. -/
def number (digits : List Char) : Nat := Nat.ofDigitChars 10 digits 0

/-- A number with zeros before it. -/
def padded (width n : Nat) : List Char :=
  List.replicate (width - (Nat.toDigits 10 n).length) '0' ++ Nat.toDigits 10 n

/-- A row of digits, a point and a row of digits. -/
def readDecimal (text : List Char) : Option Rat :=
  match text.splitOn '.' with
  | [whole, fraction] =>
    if (whole ++ fraction).all Char.isDigit then
      some (number whole + number fraction / 10 ^ fraction.length)
    else none
  | _ => none

def roundToEven (x : Rat) : Int :=
  if Int.fract x < 1 / 2 ∨ (Int.fract x = 1 / 2 ∧ ⌊x⌋ % 2 = 0) then ⌊x⌋ else ⌊x⌋ + 1

variable {width n k : Nat} {x : Rat} {whole fraction : List Char}

theorem number_zeros_append {digits : List Char} :
    number (List.replicate k '0' ++ digits) = number digits := by
  rw [number, Nat.ofDigitChars_append, Nat.ofDigitChars_replicate_zero, Nat.mul_zero, number]

@[simp] theorem number_toDigits : number (Nat.toDigits 10 n) = n := by
  simp [number]

@[simp] theorem number_padded : number (padded width n) = n := by
  rw [padded, number_zeros_append, number_toDigits]

theorem isDigit_padded : ∀ c ∈ padded width n, c.isDigit = true := by
  intro c hMem
  rcases List.mem_append.mp hMem with hZero | hDigit
  · rw [List.eq_of_mem_replicate hZero]
    rfl
  · exact Nat.isDigit_of_mem_toDigits (by omega) (by omega) hDigit

theorem length_padded (hPos : 0 < width) (hFits : n < 10 ^ width) :
    (padded width n).length = width := by
  have hShort : (Nat.toDigits 10 n).length ≤ width :=
    (Nat.length_toDigits_le_iff (by omega) hPos).mpr hFits
  rw [padded, List.length_append, List.length_replicate]
  omega

theorem readDecimal_eq (hWhole : ∀ c ∈ whole, c.isDigit = true)
    (hFraction : ∀ c ∈ fraction, c.isDigit = true) :
    readDecimal (whole ++ '.' :: fraction) =
      some ((number whole : Rat) + number fraction / 10 ^ fraction.length) := by
  have hPoint : ∀ {digits : List Char}, (∀ c ∈ digits, c.isDigit = true) → '.' ∉ digits := by
    intro digits hDigits hMem
    cases hDigits '.' hMem
  have hAll : (whole ++ fraction).all Char.isDigit = true := by
    rw [List.all_append, Bool.and_eq_true]
    exact ⟨List.all_eq_true.mpr hWhole, List.all_eq_true.mpr hFraction⟩
  rw [readDecimal, List.splitOn_append_cons_self_of_not_mem (hPoint hWhole),
    List.splitOn_eq_singleton (hPoint hFraction)]
  simp only
  rw [if_pos hAll]

theorem abs_roundToEven_sub_le : |(roundToEven x : Rat) - x| ≤ 1 / 2 := by
  have hFract := Int.floor_add_fract x
  have hNonneg := Int.fract_nonneg x
  have hLess := Int.fract_lt_one x
  rw [abs_le, roundToEven]
  split
  · rename_i hDown
    have hHalf : Int.fract x ≤ 1 / 2 := hDown.elim le_of_lt fun hTie => hTie.1.le
    constructor <;> linarith
  · rename_i hUp
    have hHalf : 1 / 2 ≤ Int.fract x := not_lt.mp fun hLow => hUp (Or.inl hLow)
    push_cast
    constructor <;> linarith

theorem roundToEven_nonneg (h : 0 ≤ x) : 0 ≤ roundToEven x := by
  have hFloor := Int.floor_nonneg.mpr h
  rw [roundToEven]
  split <;> omega

/-- An even bound is reached from half below it on. -/
theorem roundToEven_lt_iff {bound : Int} (hEven : bound % 2 = 0) :
    roundToEven x < bound ↔ x < bound - 1 / 2 := by
  have hFract := Int.floor_add_fract x
  have hNonneg := Int.fract_nonneg x
  have hOne := Int.fract_lt_one x
  constructor
  · intro hLess
    rw [roundToEven] at hLess
    split at hLess
    · rename_i hDown
      have hFloor : (⌊x⌋ : Rat) ≤ bound - 1 := by exact_mod_cast Int.le_sub_one_of_lt hLess
      rcases hDown with hLow | ⟨hTie, hFloorEven⟩
      · linarith
      · have hBelow : ⌊x⌋ ≤ bound - 2 := by omega
        have hBelow : (⌊x⌋ : Rat) ≤ bound - 2 := by exact_mod_cast hBelow
        linarith
    · have hFloor : (⌊x⌋ : Rat) ≤ bound - 2 := by
        have hBelow : ⌊x⌋ ≤ bound - 2 := by omega
        exact_mod_cast hBelow
      linarith
  · intro hLess
    have hFloor : ⌊x⌋ < bound := by
      have hBelow : (⌊x⌋ : Rat) < bound := by linarith
      exact_mod_cast hBelow
    rw [roundToEven]
    split
    · exact hFloor
    · rename_i hUp
      have hHalf : 1 / 2 ≤ Int.fract x := not_lt.mp fun hLow => hUp (Or.inl hLow)
      have hBelow : (⌊x⌋ : Rat) < bound - 1 := by linarith
      have hBelow : ⌊x⌋ < bound - 1 := by exact_mod_cast hBelow
      omega

end KiwiDevice.Lib

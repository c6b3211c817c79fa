import Mathlib.Data.List.Basic

/-!
# Percent-encoded bytes
-/

namespace KiwiDevice.Lib

def percent : UInt8 := 37

/-- The value of a hexadecimal digit. -/
def hexValue (c : UInt8) : Option UInt8 :=
  if 48 ≤ c ∧ c ≤ 57 then some (c - 48)
  else if 65 ≤ c ∧ c ≤ 70 then some (c - 55)
  else if 97 ≤ c ∧ c ≤ 102 then some (c - 87)
  else none

/-- A percent sign that two hexadecimal digits do not follow stands for itself. -/
def percentDecode : List UInt8 → List UInt8
  | [] => []
  | [a] => [a]
  | [a, b] => [a, b]
  | a :: b :: c :: rest =>
    match if a = percent then hexValue b else none, hexValue c with
    | some x, some y => (16 * x + y) :: percentDecode rest
    | _, _ => a :: percentDecode (b :: c :: rest)

theorem percentDecode_cons {a : UInt8} (h : a ≠ percent) (rest : List UInt8) :
    percentDecode (a :: rest) = a :: percentDecode rest := by
  rcases rest with _ | ⟨b, _ | ⟨c, rest⟩⟩
  · rfl
  · rfl
  · rw [percentDecode, if_neg h]

end KiwiDevice.Lib

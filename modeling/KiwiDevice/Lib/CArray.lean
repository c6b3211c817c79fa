import Mathlib.Data.List.TakeWhile

/-!
# Arrays of a fixed size

An array is the list of its elements; a store outside of it has no result. A string is what stands
before the first zero.
-/

namespace KiwiDevice.Lib

universe u

variable {α : Type u} {l xs : List α} {a : α} {i n : Nat}

def store (l : List α) (i : Nat) (a : α) : Option (List α) :=
  if i < l.length then some (l.set i a) else none

theorem store_of_lt (h : i < l.length) : store l i a = some (l.set i a) := if_pos h

/-- A store right after what is there. -/
theorem take_set_succ (h : n < l.length) (hTake : l.take n = xs) :
    (l.set n a).take (n + 1) = xs ++ [a] := by
  have hLength : n < (l.set n a).length := by rwa [List.length_set]
  rw [List.take_succ_eq_append_getElem hLength, List.take_set_of_le (Nat.le_refl n), hTake,
    List.getElem_set_self]

theorem drop_set_self (h : n < l.length) : (l.set n a).drop n = a :: l.drop (n + 1) := by
  have hLength : n < (l.set n a).length := by rwa [List.length_set]
  rw [List.drop_eq_getElem_cons hLength, List.getElem_set_self, List.drop_set_of_lt (Nat.lt_succ_self n)]

/-- The string at the start of an array of bytes. -/
def cString (l : List UInt8) : List UInt8 := l.takeWhile (· ≠ 0)

theorem cString_split {l : List UInt8} (h : 0 ∈ l) : ∃ rest, l = cString l ++ 0 :: rest := by
  induction l with
  | nil => cases h
  | cons c l ih =>
    rcases eq_or_ne c 0 with rfl | hNe
    · exact ⟨l, by rw [cString, List.takeWhile_cons_of_neg (by simp), List.nil_append]⟩
    · obtain ⟨rest, hRest⟩ := ih ((List.mem_cons.mp h).resolve_left hNe.symm)
      refine ⟨rest, ?_⟩
      rw [cString, List.takeWhile_cons_of_pos (by simpa using hNe), List.cons_append]
      exact congrArg (c :: ·) hRest

theorem cString_append_zero (l rest : List UInt8) : cString (l ++ 0 :: rest) = cString l := by
  induction l with
  | nil => rw [List.nil_append, cString, List.takeWhile_cons_of_neg (by simp), cString, List.takeWhile_nil]
  | cons c l ih =>
    rw [List.cons_append, cString, cString, List.takeWhile_cons, List.takeWhile_cons]
    exact congrArg (fun s => if decide (c ≠ 0) = true then c :: s else []) ih

end KiwiDevice.Lib

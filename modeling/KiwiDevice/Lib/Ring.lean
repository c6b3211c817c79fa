import Mathlib.Data.List.Basic
import Mathlib.Algebra.Order.Group.Unbundled.Int

/-!
# Circular windows in an array

The window of length `n` from `start` in an array of `cap` slots, read around the end of the array.
Moving the start consumes the head of the window, the slots just behind it extend it, and writes
to other slots leave it alone.
-/

namespace KiwiDevice.Lib.Ring

universe u

variable {α : Type u}

def slot (cap start j : Int) : Int := (start + j) % cap

theorem slot_nonneg {cap : Int} (hCap : 0 < cap) (start j : Int) : 0 ≤ slot cap start j :=
  Int.emod_nonneg _ hCap.ne'

theorem slot_zero {cap start : Int} (hStart : 0 ≤ start) (hLt : start < cap) :
    slot cap start 0 = start := by
  rw [slot, add_zero, Int.emod_eq_of_lt hStart hLt]

/-- Moving the start by one shifts every slot by one. -/
theorem slot_slot (cap start i j : Int) :
    slot cap (slot cap start i) j = slot cap start (i + j) := by
  rw [slot, slot, slot, Int.emod_add_emod, add_assoc]

/-- Slots less than one turn apart differ. -/
theorem slot_inj {cap start i j : Int} (hi : 0 ≤ i) (hiCap : i < cap) (hj : 0 ≤ j)
    (hjCap : j < cap) (h : slot cap start i = slot cap start j) : i = j := by
  have hDvd : cap ∣ (start + i) - (start + j) :=
    Int.dvd_of_emod_eq_zero (Int.emod_eq_emod_iff_emod_sub_eq_zero.mp h)
  have hZero : (start + i) - (start + j) = 0 := by
    apply Int.eq_zero_of_abs_lt_dvd hDvd
    rw [abs_lt]
    constructor <;> omega
  omega

/-- Behind a slot there is no turn before the end of the array. -/
theorem slot_add_of_lt {cap start i j : Int} (hCap : 0 < cap) (hj : 0 ≤ j)
    (hLt : slot cap start i + j < cap) : slot cap start (i + j) = slot cap start i + j := by
  have hNonneg := slot_nonneg hCap start i
  rw [← slot_slot, slot, Int.emod_eq_of_lt (by omega) hLt]

/-- The two positions of a slot relative to the start. -/
theorem slot_cases {cap start j : Int} (hStart : 0 ≤ start) (hLt : start < cap) (hj : 0 ≤ j)
    (hjCap : j < cap) :
    (start + j < cap ∧ slot cap start j = start + j) ∨
      (cap ≤ start + j ∧ slot cap start j = start + j - cap) := by
  rcases lt_or_ge (start + j) cap with h | h
  · left
    exact ⟨h, Int.emod_eq_of_lt (by omega) h⟩
  · right
    refine ⟨h, ?_⟩
    rw [slot, ← Int.sub_emod_right, Int.emod_eq_of_lt] <;> omega

def window (cap : Int) (data : Int → α) (start : Int) (n : Nat) : List α :=
  (List.range n).map fun j : Nat => data (slot cap start j)

theorem window_succ (cap : Int) (data : Int → α) (start : Int) (n : Nat) :
    window cap data start (n + 1)
      = data (slot cap start 0) :: window cap data (slot cap start 1) n := by
  rw [window, List.range_succ_eq_map, List.map_cons, List.map_map]
  congr 1
  apply List.map_congr_left
  intro j _
  simp only [Function.comp_apply]
  rw [slot_slot, add_comm]
  rfl

theorem window_add (cap : Int) (data : Int → α) (start : Int) (n m : Nat) :
    window cap data start (n + m)
      = window cap data start n ++
        (List.range m).map fun j : Nat => data (slot cap start (n + j)) := by
  rw [window, List.range_add, List.map_append, List.map_map]
  rfl

/-- A window reads nothing but its own slots. -/
theorem window_congr {cap start : Int} {data data' : Int → α} {n : Nat}
    (h : ∀ j : Int, 0 ≤ j → j < n → data' (slot cap start j) = data (slot cap start j)) :
    window cap data' start n = window cap data start n := by
  apply List.map_congr_left
  intro j hj
  have hLt := List.mem_range.mp hj
  exact h j (by omega) (by omega)

end KiwiDevice.Lib.Ring

import Mathlib.Algebra.Order.Ring.Nat
import Mathlib.Order.Interval.Set.Defs

/-!
# Placing parts and rounding up

Parts of given lengths lie one after the other from zero. A length is rounded up to the least
multiple of an alignment that is not below it; for a power of two a mask computes it.
-/

namespace KiwiDevice.Lib

/-! ## Parts one after the other -/

section Parts

variable {len : Nat → Nat} {i j w : Nat}

/-- Where the part starts. -/
def placeOf (len : Nat → Nat) : Nat → Nat
  | 0 => 0
  | i + 1 => placeOf len i + len i

theorem placeOf_mono (h : i ≤ j) : placeOf len i ≤ placeOf len j := by
  induction h with
  | refl => exact Nat.le_refl _
  | step _ ih => exact Nat.le_trans ih (Nat.le_add_right _ _)

theorem parts_apart {n : Nat} (skip : Nat → Nat) (h : i ≠ j)
    (hi : n ∈ Set.Ico (placeOf len i + skip i) (placeOf len (i + 1))) :
    n ∉ Set.Ico (placeOf len j + skip j) (placeOf len (j + 1)) := by
  rintro ⟨hLo, hHi⟩
  rcases Nat.lt_or_gt_of_ne h with h | h
  · have hEnd : placeOf len (i + 1) ≤ placeOf len j := placeOf_mono h
    have hLast := hi.2
    omega
  · have hEnd : placeOf len (j + 1) ≤ placeOf len i := placeOf_mono h
    have hFirst := hi.1
    omega

theorem and_not_add_and (x m : BitVec w) : (x &&& ~~~m).toNat + (x &&& m).toNat = x.toNat := by
  have hApart : (x &&& ~~~m) &&& (x &&& m) = 0#w := by
    ext i hi
    cases h : m[i] <;> simp [h]
  have hParts : (x &&& ~~~m) ||| (x &&& m) = x := by
    ext i hi
    cases h : m[i] <;> simp [h]
  rw [← BitVec.toNat_add_of_and_eq_zero hApart, BitVec.add_eq_or_of_and_eq_zero _ _ hApart, hParts]

/-- What the mask takes away is at most the mask. -/
theorem le_and_not_add (x m : BitVec w) : x.toNat ≤ (x &&& ~~~m).toNat + m.toNat := by
  have hSum := and_not_add_and x m
  have hLow : (x &&& m).toNat ≤ m.toNat := by
    rw [BitVec.toNat_and]
    exact Nat.and_le_right
  omega

/-- Rounding up does not make a length smaller as long as it does not wrap around. -/
theorem le_roundUp {x m : BitVec w} (h : x.toNat + m.toNat < 2 ^ w) :
    x.toNat ≤ ((x + m) &&& ~~~m).toNat := by
  have hMask := le_and_not_add (x + m) m
  rw [BitVec.toNat_add, Nat.mod_eq_of_lt h] at hMask
  omega

end Parts

/-! ## Rounding up -/

def roundUp (n a : Nat) : Nat := (n + (a - 1)) / a * a

variable {n m a : Nat}

theorem dvd_roundUp (n a : Nat) : a ∣ roundUp n a := Nat.dvd_mul_left _ _

theorem self_le_roundUp (ha : 0 < a) (n : Nat) : n ≤ roundUp n a := by
  have hDivMod := Nat.div_add_mod (n + (a - 1)) a
  have hLt := Nat.mod_lt (n + (a - 1)) ha
  rw [Nat.mul_comm] at hDivMod
  rw [roundUp]
  omega

theorem roundUp_lt (ha : 0 < a) (n : Nat) : roundUp n a < n + a := by
  have hLe := Nat.div_mul_le_self (n + (a - 1)) a
  rw [roundUp]
  omega

theorem roundUp_le (hLe : n ≤ m) (hDvd : a ∣ m) : roundUp n a ≤ m := by
  rcases Nat.eq_zero_or_pos a with rfl | ha
  · simp [roundUp]
  · obtain ⟨q, rfl⟩ := hDvd
    have hQuot : (n + (a - 1)) / a ≤ q := by
      rw [← Nat.lt_succ_iff, Nat.div_lt_iff_lt_mul ha, Nat.succ_mul, Nat.mul_comm]
      omega
    rw [roundUp, Nat.mul_comm a q]
    exact Nat.mul_le_mul_right a hQuot

theorem roundUp_of_dvd (ha : 0 < a) (hDvd : a ∣ n) : roundUp n a = n :=
  Nat.le_antisymm (roundUp_le le_rfl hDvd) (self_le_roundUp ha n)

theorem lt_roundUp_iff (ha : 0 < a) (hDvd : a ∣ m) : m < roundUp n a ↔ m < n := by
  constructor
  · intro hLt
    by_contra hNot
    exact absurd (roundUp_le (Nat.le_of_not_lt hNot) hDvd) hLt.not_ge
  · intro hLt
    exact hLt.trans_le (self_le_roundUp ha n)

theorem add_le_roundUp_iff (ha : 0 < a) (hDvd : a ∣ m) : m + a ≤ roundUp n a ↔ m < n := by
  rw [← lt_roundUp_iff ha hDvd]
  obtain ⟨p, rfl⟩ := hDvd
  obtain ⟨q, hQ⟩ := dvd_roundUp n a
  rw [hQ, ← Nat.mul_succ, Nat.mul_le_mul_left_iff ha, Nat.mul_lt_mul_left ha, Nat.succ_le_iff]

theorem add_roundUp (ha : 0 < a) (hDvd : a ∣ m) (n : Nat) :
    roundUp (m + n) a = m + roundUp n a := by
  obtain ⟨q, rfl⟩ := hDvd
  rw [roundUp, roundUp, Nat.add_assoc, Nat.mul_add_div ha, Nat.add_mul, Nat.mul_comm q a]

/-- A part of length `e` that starts at `n` rounded up ends within `m` rounded up. -/
theorem roundUp_add_le_iff {e : Nat} (ha : 0 < a) (hIn : n + e ≤ m) :
    roundUp n a + e ≤ roundUp m a ↔ n % a = 0 ∨ roundUp e a < n % a + (m - n) := by
  rcases Nat.eq_zero_or_pos (n % a) with hZero | hPos
  · have hSame := roundUp_of_dvd ha (Nat.dvd_of_mod_eq_zero hZero)
    have hEnd := self_le_roundUp ha m
    simp only [hZero, true_or, iff_true, hSame]
    omega
  · have hDivMod := Nat.div_add_mod n a
    have hLt := Nat.mod_lt n ha
    have hStart : roundUp n a = a * (n / a) + a := by
      have hRest : roundUp (n % a) a = a := by
        have hOver : n % a + (a - 1) = n % a - 1 + a := by omega
        rw [roundUp, hOver, Nat.add_div_right _ ha, Nat.div_eq_of_lt (by omega), Nat.zero_add,
          Nat.one_mul]
      have hSplit := add_roundUp ha (Nat.dvd_mul_right a (n / a)) (n % a)
      rwa [hDivMod, hRest] at hSplit
    have hEnd : roundUp m a = a * (n / a) + roundUp (n % a + (m - n)) a := by
      rw [← add_roundUp ha (Nat.dvd_mul_right a _)]
      congr 1
      omega
    have hRound : a + e ≤ roundUp (n % a + (m - n)) a ↔
        roundUp e a + a ≤ roundUp (n % a + (m - n)) a := by
      constructor
      · intro hLe
        rw [Nat.add_comm, ← add_roundUp ha dvd_rfl]
        exact roundUp_le hLe (dvd_roundUp _ a)
      · intro hLe
        have hSelf := self_le_roundUp ha e
        omega
    rw [hStart, hEnd, Nat.add_assoc, Nat.add_le_add_iff_left, hRound,
      add_le_roundUp_iff ha (dvd_roundUp e a)]
    simp [hPos.ne']

section Mask

variable {w k : Nat} {x p : BitVec w}

theorem toNat_pred (hPow : p.toNat = 2 ^ k) : (p - 1).toNat = 2 ^ k - 1 := by
  have hPos : 0 < 2 ^ k := Nat.two_pow_pos k
  have hWidth := p.isLt
  have hOne : (BitVec.ofNat w 1).toNat = 1 := by
    rw [BitVec.toNat_ofNat, Nat.mod_eq_of_lt (by omega)]
  have hLe : BitVec.ofNat w 1 ≤ p := by
    rw [BitVec.le_def]
    omega
  exact (BitVec.toNat_sub_of_le hLe).trans (by rw [hOne, hPow])

theorem toNat_and_not_pred (x : BitVec w) (hPow : p.toNat = 2 ^ k) :
    (x &&& ~~~(p - 1)).toNat = x.toNat / 2 ^ k * 2 ^ k := by
  have hSum := and_not_add_and x (p - 1)
  rw [BitVec.toNat_and (x := x) (y := p - 1), toNat_pred hPow,
    Nat.and_two_pow_sub_one_eq_mod] at hSum
  have hDivMod := Nat.div_add_mod x.toNat (2 ^ k)
  rw [Nat.mul_comm] at hDivMod
  omega

/-- The mask rounds up as long as the sum does not wrap around. -/
theorem toNat_add_and_not (hPow : p.toNat = 2 ^ k) (hRoom : x.toNat + (p.toNat - 1) < 2 ^ w) :
    ((x + (p - 1)) &&& ~~~(p - 1)).toNat = roundUp x.toNat p.toNat := by
  rw [hPow] at hRoom ⊢
  rw [toNat_and_not_pred _ hPow, roundUp, BitVec.toNat_add, toNat_pred hPow,
    Nat.mod_eq_of_lt hRoom]

end Mask

end KiwiDevice.Lib

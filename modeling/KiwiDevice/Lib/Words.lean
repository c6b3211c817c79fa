import Mathlib.Algebra.Order.Ring.Int
import Mathlib.Data.List.Basic

/-!
# Words in memory

The bytes of a word, lowest first, the value that an `int` holds after a conversion, arithmetic that
does not wrap around, and words that differ in one bit.
-/

namespace KiwiDevice.Lib

variable {n k : Nat}

/-- A value that is stored in an `int`. -/
def toInt (n : Nat) : Int := if n % 2 ^ 32 < 2 ^ 31 then n % 2 ^ 32 else n % 2 ^ 32 - 2 ^ 32

theorem toInt_of_lt (h : n < 2 ^ 31) : toInt n = n := by
  rw [toInt]
  split <;> omega

theorem toInt_neg (hLo : 2 ^ 31 ≤ n) (hHi : n < 2 ^ 32) : toInt n < 0 := by
  rw [toInt]
  split <;> omega

def ofBytes : List UInt8 → Nat
  | [] => 0
  | b :: bs => b.toNat + 256 * ofBytes bs

def toBytes : Nat → Nat → List UInt8
  | 0, _ => []
  | k + 1, n => UInt8.ofNat n :: toBytes k (n / 256)

@[simp] theorem length_toBytes (k n : Nat) : (toBytes k n).length = k := by
  induction k generalizing n with
  | zero => rfl
  | succ k ih => rw [toBytes, List.length_cons, ih]

theorem ofBytes_toBytes (h : n < 256 ^ k) : ofBytes (toBytes k n) = n := by
  induction k generalizing n with
  | zero =>
    rw [Nat.pow_zero, Nat.lt_one_iff] at h
    rw [h, toBytes, ofBytes]
  | succ k ih =>
    have hRest : n / 256 < 256 ^ k := by
      rw [Nat.pow_succ] at h
      exact Nat.div_lt_of_lt_mul (by rwa [Nat.mul_comm])
    rw [toBytes, ofBytes, ih hRest, UInt8.toNat_ofNat']
    omega

theorem ofBytes_lt (bs : List UInt8) : ofBytes bs < 256 ^ bs.length := by
  induction bs with
  | nil => exact Nat.one_pos
  | cons b bs ih =>
    have hByte := b.toNat_lt
    rw [ofBytes, List.length_cons, Nat.pow_succ]
    omega

section Arithmetic

variable {w m : Nat} {x y : BitVec w}

theorem toNat_add_of_lt (hx : x.toNat = n) (hy : y.toNat = m) (h : n + m < 2 ^ w) :
    (x + y).toNat = n + m := by
  rw [BitVec.toNat_add, hx, hy, Nat.mod_eq_of_lt h]

theorem toNat_mul_of_lt (hx : x.toNat = n) (hy : y.toNat = m) (h : n * m < 2 ^ w) :
    (x * y).toNat = n * m := by
  rw [BitVec.toNat_mul, hx, hy, Nat.mod_eq_of_lt h]

theorem toNat_sdiv_of_lt (hx : x.toNat < 2 ^ (w - 1)) (hy : y.toNat < 2 ^ (w - 1)) :
    (x.sdiv y).toNat = x.toNat / y.toNat := by
  have hX : x.msb = false := by
    rw [BitVec.msb_eq_decide]
    exact decide_eq_false hx.not_ge
  have hY : y.msb = false := by
    rw [BitVec.msb_eq_decide]
    exact decide_eq_false hy.not_ge
  rw [BitVec.sdiv_eq, hX, hY]
  exact BitVec.toNat_udiv

end Arithmetic

/-- Two numbers agree outside bit `n`. -/
theorem testBit_eq_of_ne_iff {a b : Nat} :
    (∀ i, i ≠ n → a.testBit i = b.testBit i) ↔
      a % 2 ^ n = b % 2 ^ n ∧ a / 2 ^ (n + 1) = b / 2 ^ (n + 1) := by
  constructor
  · intro hBits
    constructor
    · apply Nat.eq_of_testBit_eq
      intro i
      rw [Nat.testBit_mod_two_pow, Nat.testBit_mod_two_pow]
      rcases lt_or_ge i n with hLow | hHigh
      · rw [hBits i hLow.ne]
      · simp [hHigh.not_gt]
    · apply Nat.eq_of_testBit_eq
      intro i
      rw [Nat.testBit_div_two_pow, Nat.testBit_div_two_pow, hBits _ (by omega)]
  · rintro ⟨hLow, hHigh⟩ i hNe
    rcases lt_or_gt_of_ne hNe with hLt | hGt
    · have hBit := congrArg (fun m => m.testBit i) hLow
      simpa [Nat.testBit_mod_two_pow, hLt] using hBit
    · have hBit := congrArg (fun m => m.testBit (i - (n + 1))) hHigh
      simpa [Nat.testBit_div_two_pow, Nat.sub_add_cancel hGt] using hBit

end KiwiDevice.Lib

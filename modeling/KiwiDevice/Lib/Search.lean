import Mathlib.Data.List.Basic
import Mathlib.Data.List.Infix

/-!
# Search for a pattern by shifts

A window of the length of the pattern is moved along a text. Where the pattern is compared from its
end and a character differs, the window may be shifted as far as no occurrence is skipped. What the
pattern alone says about such shifts is `Compatible`.
-/

namespace KiwiDevice.Lib.Search

universe u

variable {α : Type u} {pat text : List α} {s j d d' e q : Nat} {c : α}

def OccursAt (pat text : List α) (s : Nat) : Prop :=
  ∀ k < pat.length, text[s + k]? = pat[k]?

instance [DecidableEq α] : Decidable (OccursAt pat text s) :=
  inferInstanceAs (Decidable (∀ k < pat.length, text[s + k]? = pat[k]?))

/-- The first place at which the pattern occurs, if there is one. -/
def IsFirst (pat text : List α) : Option Nat → Prop
  | some s => OccursAt pat text s ∧ ∀ e < s, ¬ OccursAt pat text e
  | none => ∀ s, ¬ OccursAt pat text s

/-- The window at `s` agrees with the pattern after `j` and differs from it there. -/
structure Mismatch (pat text : List α) (s j : Nat) (c : α) : Prop where
  lt : j < pat.length
  after : ∀ k, j < k → k < pat.length → text[s + k]? = pat[k]?
  char : text[s + j]? = some c
  ne : pat[j]? ≠ some c

/-- A shift by `d` skips no occurrence when a window differs from the pattern at `j`, where it has
the character `c`. -/
def Safe (pat : List α) (j : Nat) (c : α) (d : Nat) : Prop :=
  ∀ text s, Mismatch pat text s j c → ∀ e, 0 < e → e < d → ¬ OccursAt pat text (s + e)

/-- The pattern, shifted by `e`, agrees with itself after `j` and differs from itself there. -/
def Compatible (pat : List α) (j e : Nat) : Prop :=
  (∀ k, j < k → k < pat.length → e ≤ k → pat[k - e]? = pat[k]?) ∧
    (e ≤ j → pat[j - e]? ≠ pat[j]?)

/-- What stands from `q` on is a prefix of the pattern. -/
def Border (pat : List α) (q : Nat) : Prop := pat.drop q <+: pat

theorem OccursAt.length_le (h : OccursAt pat text s) (hPat : pat ≠ []) :
    s + pat.length ≤ text.length := by
  have hPos := List.length_pos_iff.mpr hPat
  have hLast := h (pat.length - 1) (by omega)
  rw [List.getElem?_eq_getElem (by omega : pat.length - 1 < pat.length)] at hLast
  obtain ⟨hLt, -⟩ := List.getElem?_eq_some_iff.mp hLast
  omega

theorem Mismatch.not_occurs (h : Mismatch pat text s j c) : ¬ OccursAt pat text s := by
  intro hOccurs
  exact h.ne ((hOccurs j h.lt).symm.trans h.char)

/-- An occurrence in a shifted window. -/
theorem Mismatch.compatible (h : Mismatch pat text s j c) (hOccurs : OccursAt pat text (s + e)) :
    Compatible pat j e := by
  have hShift : ∀ k, e ≤ k → k < pat.length → text[s + k]? = pat[k - e]? := by
    intro k hLe hLt
    rw [← hOccurs (k - e) (by omega)]
    congr 1
    omega
  refine ⟨fun k hAfter hLt hLe => ?_, fun hLe hSame => ?_⟩
  · rw [← hShift k hLe hLt]
    exact h.after k hAfter hLt
  · apply h.ne
    rw [← hSame, ← hShift j hLe h.lt]
    exact h.char

theorem safe_of_compatible (h : ∀ e, 0 < e → e < d → ¬ Compatible pat j e) (c : α) :
    Safe pat j c d :=
  fun _ _ hMismatch e hPos hLt hOccurs => h e hPos hLt (hMismatch.compatible hOccurs)

theorem Safe.max (h : Safe pat j c d) (h' : Safe pat j c d') : Safe pat j c (max d d') := by
  intro text s hMismatch e hPos hLt
  rcases Nat.lt_or_ge e d with hFirst | hFrom
  · exact h text s hMismatch e hPos hFirst
  · exact h' text s hMismatch e hPos (by omega)

theorem border_iff : Border pat q ↔ ∀ k, q ≤ k → k < pat.length → pat[k - q]? = pat[k]? := by
  constructor
  · rintro ⟨rest, hRest⟩ k hLe hLt
    have hAt : (pat.drop q ++ rest)[k - q]? = (pat.drop q)[k - q]? :=
      List.getElem?_append_left (by rw [List.length_drop]; omega)
    rw [hRest, List.getElem?_drop] at hAt
    rw [hAt]
    congr 1
    omega
  · intro h
    rw [Border, List.prefix_iff_getElem?]
    intro i hi
    rw [List.length_drop] at hi
    have hAt := h (q + i) (by omega) (by omega)
    rw [Nat.add_sub_cancel_left] at hAt
    rw [hAt, List.getElem_drop, List.getElem?_eq_getElem]

/-- Beyond `j` the compatible shifts are the borders. -/
theorem compatible_iff_border (h : j < e) : Compatible pat j e ↔ Border pat e := by
  rw [border_iff]
  constructor
  · intro hCompatible k hLe hLt
    exact hCompatible.1 k (by omega) hLt hLe
  · exact fun hBorder => ⟨fun k _ hLt hLe => hBorder k hLe hLt, fun hLe => absurd h (by omega)⟩

theorem border_zero (pat : List α) : Border pat 0 := List.prefix_refl pat

/-- A text in which the pattern occurs at the border `q` and the window before it differs at `j`. -/
def borderText (pat : List α) (q j : Nat) (c : α) : List α := (pat.take q).set j c ++ pat

theorem occurs_borderText (h : q ≤ pat.length) : OccursAt pat (borderText pat q j c) q := by
  intro k _
  have hLength : ((pat.take q).set j c).length = q := by
    rw [List.length_set, List.length_take, Nat.min_eq_left h]
  rw [borderText, List.getElem?_append_right (by omega), hLength, Nat.add_sub_cancel_left]

theorem mismatch_borderText (hLt : j < q) (hIn : q ≤ pat.length) (hBorder : Border pat q)
    (hNe : pat[j]? ≠ some c) : Mismatch pat (borderText pat q j c) 0 j c := by
  have hLength : ((pat.take q).set j c).length = q := by
    rw [List.length_set, List.length_take, Nat.min_eq_left hIn]
  refine ⟨by omega, fun k hAfter hk => ?_, ?_, hNe⟩
  · rw [Nat.zero_add, borderText]
    rcases Nat.lt_or_ge k q with hBefore | hFrom
    · rw [List.getElem?_append_left (by omega), List.getElem?_set_ne (Nat.ne_of_lt hAfter),
        List.getElem?_take_of_lt hBefore]
    · rw [List.getElem?_append_right (by omega), hLength]
      exact border_iff.mp hBorder k hFrom hk
  · rw [Nat.zero_add, borderText, List.getElem?_append_left (by omega),
      List.getElem?_set_self (by rw [List.length_take]; omega)]

/-- A shift that passes a border after `j` skips an occurrence. -/
theorem not_safe_of_border (hLt : j < q) (hIn : q ≤ pat.length) (hBorder : Border pat q)
    (hNe : pat[j]? ≠ some c) (hd : q < d) : ¬ Safe pat j c d := by
  intro hSafe
  have hMismatch := mismatch_borderText hLt hIn hBorder hNe
  refine hSafe _ 0 hMismatch q (by omega) hd ?_
  rw [Nat.zero_add]
  exact occurs_borderText hIn

/-! ## A run of windows -/

/-- No occurrence is before `s`. -/
def NoneBefore (pat text : List α) (s : Nat) : Prop := ∀ e < s, ¬ OccursAt pat text e

theorem NoneBefore.shift (h : NoneBefore pat text s) (hMismatch : Mismatch pat text s j c)
    (hSafe : Safe pat j c d) : NoneBefore pat text (s + d) := by
  intro e hLt
  rcases Nat.lt_trichotomy e s with hBefore | rfl | hAfter
  · exact h e hBefore
  · exact hMismatch.not_occurs
  · obtain ⟨k, rfl⟩ := Nat.exists_eq_add_of_lt hAfter
    rw [Nat.add_assoc]
    exact hSafe text s hMismatch (k + 1) (Nat.succ_pos k) (by omega)

theorem NoneBefore.isFirst (h : NoneBefore pat text s) (hOccurs : OccursAt pat text s) :
    IsFirst pat text (some s) := ⟨hOccurs, h⟩

theorem NoneBefore.none (h : NoneBefore pat text s) (hPat : pat ≠ [])
    (hEnd : text.length < s + pat.length) : IsFirst pat text none := by
  intro e hOccurs
  rcases Nat.lt_or_ge e s with hBefore | hFrom
  · exact h e hBefore hOccurs
  · have hLe := hOccurs.length_le hPat
    omega

end KiwiDevice.Lib.Search

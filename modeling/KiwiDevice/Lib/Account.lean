import Mathlib.Algebra.Order.Group.Multiset

/-!
# Accounts of what is held

An event takes something, gives something back or does neither. `Account effect es held` says that
the events `es` give back only what is held at that point, and leave `held`; with nothing held at
the end everything that was taken has been given back once.
-/

namespace KiwiDevice.Lib

universe u v

inductive Effect (ρ : Type u) where
  | take (r : ρ)
  | give (r : ρ)
  | pass
  deriving DecidableEq

variable {ε : Type v} {ρ : Type u} {effect : ε → Effect ρ} {es : List ε} {held : Multiset ρ} {r : ρ}

inductive Account (effect : ε → Effect ρ) : List ε → Multiset ρ → Prop where
  | start : Account effect [] 0
  | take {es : List ε} {held : Multiset ρ} {e : ε} {r : ρ} (h : Account effect es held)
      (hEffect : effect e = .take r) : Account effect (es ++ [e]) (r ::ₘ held)
  | give {es : List ε} {held : Multiset ρ} {e : ε} {r : ρ} (h : Account effect es (r ::ₘ held))
      (hEffect : effect e = .give r) : Account effect (es ++ [e]) held
  | pass {es : List ε} {held : Multiset ρ} {e : ε} (h : Account effect es held)
      (hEffect : effect e = .pass) : Account effect (es ++ [e]) held

/-- As much was taken as was given back and is held. -/
theorem Account.count [DecidableEq ρ] (h : Account effect es held) (r : ρ) :
    es.countP (fun e => effect e = .take r) =
      es.countP (fun e => effect e = .give r) + held.count r := by
  induction h with
  | start => rfl
  | @take es held e x _ hEffect ih =>
    rw [List.countP_append, List.countP_append, ih, List.countP_singleton, List.countP_singleton,
      hEffect, Multiset.count_cons]
    rcases eq_or_ne r x with rfl | hOther
    · simp
      omega
    · simp [hOther, hOther.symm]
  | @give es held e x _ hEffect ih =>
    rw [List.countP_append, List.countP_append, ih, List.countP_singleton, List.countP_singleton,
      hEffect, Multiset.count_cons]
    rcases eq_or_ne r x with rfl | hOther
    · simp
      omega
    · simp [hOther, hOther.symm]
  | pass _ hEffect ih =>
    rw [List.countP_append, List.countP_append, ih, List.countP_singleton, List.countP_singleton,
      hEffect]
    simp

/-- With nothing held, what was taken has been given back. -/
theorem Account.given (h : Account effect es 0) {e : ε} (hMem : e ∈ es)
    (hTake : effect e = .take r) :
    ∃ e' ∈ es, effect e' = .give r := by
  classical
  have hCount := h.count r
  have hTaken : 0 < es.countP fun e => effect e = .take r :=
    List.countP_pos_iff.mpr ⟨e, hMem, decide_eq_true hTake⟩
  rw [hCount, Multiset.count_zero, Nat.add_zero] at hTaken
  obtain ⟨e', hMem', hGive⟩ := List.countP_pos_iff.mp hTaken
  exact ⟨e', hMem', of_decide_eq_true hGive⟩

theorem Account.takes {α : Type v} {f : α → ε} {g : α → ρ} (h : Account effect es held) (l : List α)
    (hEffect : ∀ a, effect (f a) = .take (g a)) :
    Account effect (es ++ l.map f) (Multiset.ofList (l.map g) + held) := by
  induction l generalizing es held with
  | nil => simpa using h
  | cons a l ih =>
    have hRest := ih (h.take (hEffect a))
    rw [List.append_assoc, Multiset.add_cons] at hRest
    rwa [List.map_cons, List.map_cons, ← Multiset.cons_coe, Multiset.cons_add]

theorem Account.gives {α : Type v} {f : α → ε} {g : α → ρ} (l : List α)
    (h : Account effect es (Multiset.ofList (l.map g) + held))
    (hEffect : ∀ a, effect (f a) = .give (g a)) :
    Account effect (es ++ l.map f) held := by
  induction l generalizing es with
  | nil => simpa using h
  | cons a l ih =>
    rw [List.map_cons, ← Multiset.cons_coe, Multiset.cons_add] at h
    have hRest := ih (h.give (hEffect a))
    rwa [List.append_assoc] at hRest

end KiwiDevice.Lib

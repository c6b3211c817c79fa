import Mathlib.Data.List.Basic

/-!
# Since in a list

`Since p q l` says that somewhere in `l` an element was `p`, of the elements before it and itself,
and that all later ones are `q`. It is decided by the last element and what held before. `Each p l`
says that every element is `p` of the ones before it.
-/

namespace KiwiDevice.Lib

universe u

variable {α : Type u} {p : List α → α → Prop} {q : α → Prop} {l : List α} {y : α}

def Since (p : List α → α → Prop) (q : α → Prop) (l : List α) : Prop :=
  ∃ before x since, l = before ++ x :: since ∧ p before x ∧ ∀ y ∈ since, q y

theorem not_since_nil : ¬ Since p q [] := by
  rintro ⟨before, x, since, h, -⟩
  exact List.append_ne_nil_of_right_ne_nil before (List.cons_ne_nil x since) h.symm

theorem since_snoc : Since p q (l ++ [y]) ↔ p l y ∨ q y ∧ Since p q l := by
  constructor
  · rintro ⟨before, x, since, h, hx, hSince⟩
    rcases List.eq_nil_or_concat since with rfl | ⟨rest, z, rfl⟩
    · obtain ⟨rfl, hEnd⟩ := List.append_inj' h rfl
      cases hEnd
      exact .inl hx
    · have hSplit : l ++ [y] = (before ++ x :: rest) ++ [z] := by
        rw [h, List.concat_eq_append, ← List.cons_append, List.append_assoc]
      obtain ⟨rfl, hEnd⟩ := List.append_inj' hSplit rfl
      cases hEnd
      rw [List.concat_eq_append] at hSince
      have hAll := List.forall_mem_append.mp hSince
      exact .inr ⟨hAll.2 y List.mem_cons_self, before, x, rest, rfl, hx, hAll.1⟩
  · rintro (hy | ⟨hq, before, x, since, rfl, hx, hSince⟩)
    · exact ⟨l, y, [], rfl, hy, nofun⟩
    · refine ⟨before, x, since ++ [y], ?_, hx, ?_⟩
      · rw [List.append_assoc, List.cons_append]
      · exact List.forall_mem_append.mpr ⟨hSince, List.forall_mem_singleton.mpr hq⟩

theorem Since.append {l' : List α} (h : Since p q l) (hAfter : ∀ y ∈ l', q y) :
    Since p q (l ++ l') := by
  obtain ⟨before, x, since, rfl, hx, hSince⟩ := h
  refine ⟨before, x, since ++ l', ?_, hx, ?_⟩
  · rw [List.append_assoc, List.cons_append]
  · exact List.forall_mem_append.mpr ⟨hSince, hAfter⟩

def Each (p : List α → α → Prop) (l : List α) : Prop :=
  ∀ before x after, l = before ++ x :: after → p before x

theorem each_nil : Each p [] := by
  intro before x after h
  exact absurd h.symm (List.append_ne_nil_of_right_ne_nil before (List.cons_ne_nil x after))

theorem each_snoc : Each p (l ++ [y]) ↔ Each p l ∧ p l y := by
  constructor
  · intro h
    refine ⟨?_, h l y [] rfl⟩
    rintro before x after rfl
    refine h before x (after ++ [y]) ?_
    rw [List.append_assoc, List.cons_append]
  · rintro ⟨hEach, hy⟩ before x after h
    rcases List.eq_nil_or_concat after with rfl | ⟨rest, z, rfl⟩
    · obtain ⟨rfl, hEnd⟩ := List.append_inj' h rfl
      cases hEnd
      exact hy
    · rw [List.concat_eq_append, ← List.cons_append, ← List.append_assoc] at h
      obtain ⟨hl, -⟩ := List.append_inj' h rfl
      exact hEach before x rest hl

/-- What can follow anything does not matter at the end. -/
theorem each_append {l' : List α} (h : ∀ before, ∀ y ∈ l', p before y) :
    Each p (l ++ l') ↔ Each p l := by
  induction l' generalizing l with
  | nil => rw [List.append_nil]
  | cons y l' ih =>
    rw [List.append_cons, ih fun before z hz => h before z (List.mem_cons_of_mem _ hz), each_snoc]
    exact and_iff_left (h l y List.mem_cons_self)

end KiwiDevice.Lib

import Mathlib.Data.List.Nodup
import Mathlib.Data.List.TakeWhile

/-!
# Ordered lists
-/

namespace KiwiDevice.Lib

/-- In a list ordered by `R`, a property that `R` carries upwards once it fails holds of no element
after the first failure. -/
theorem forall_dropWhile {α : Type} {R : α → α → Prop} {p : α → Bool}
    (hp : ∀ a b, R a b → p a = false → p b = false) {l : List α} (h : l.Pairwise R) :
    ∀ b ∈ l.dropWhile p, p b = false := by
  induction l with
  | nil => simp
  | cons a l ih =>
    obtain ⟨hHead, hTail⟩ := List.pairwise_cons.mp h
    rw [List.dropWhile_cons]
    split
    · exact ih hTail
    · rename_i hFalse
      have ha : p a = false := by simpa using hFalse
      intro b hb
      rcases List.mem_cons.mp hb with rfl | hb
      · exact ha
      · exact hp a b (hHead b hb) ha

theorem mem_append_skip {α : Type} {front back : List α} (gone : List α) {a : α}
    (h : a ∈ front ++ back) : a ∈ front ++ (gone ++ back) :=
  ((List.sublist_append_right gone back).append_left front).subset h

theorem forall_insert {α : Type} {P : α → Prop} {front back : List α} {a : α}
    (h : ∀ x ∈ front ++ back, P x) (ha : P a) : ∀ x ∈ front ++ a :: back, P x := by
  intro x hx
  rcases List.mem_append.mp hx with hx | hx
  · exact h x (List.mem_append_left _ hx)
  · rcases List.mem_cons.mp hx with rfl | hx
    · exact ha
    · exact h x (List.mem_append_right _ hx)

/-- Inserting an element that stands in the order to both sides. -/
theorem pairwise_insert {α : Type} {R : α → α → Prop} {front back : List α} {a : α}
    (h : (front ++ back).Pairwise R) (hFront : ∀ x ∈ front, R x a) (hBack : ∀ y ∈ back, R a y) :
    (front ++ a :: back).Pairwise R := by
  obtain ⟨hf, hb, hCross⟩ := List.pairwise_append.mp h
  refine List.pairwise_append.mpr ⟨hf, List.pairwise_cons.mpr ⟨hBack, hb⟩, ?_⟩
  intro x hx y hy
  rcases List.mem_cons.mp hy with rfl | hy
  · exact hFront x hx
  · exact hCross x hx y hy

/-- Replacing an element by one that stands in the order wherever the old one did. -/
theorem pairwise_replace {α : Type} {R : α → α → Prop} {front back : List α} {a a' : α}
    (h : (front ++ a :: back).Pairwise R) (hFront : ∀ x, R x a → R x a')
    (hBack : ∀ y, R a y → R a' y) : (front ++ a' :: back).Pairwise R := by
  obtain ⟨hf, hb, hCross⟩ := List.pairwise_append.mp h
  refine pairwise_insert (h.sublist ?_) ?_ ?_
  · exact (List.sublist_cons_self a back).append_left front
  · exact fun x hx => hFront x (hCross x hx a List.mem_cons_self)
  · exact fun y hy => hBack y (List.rel_of_pairwise_cons hb hy)

/-- A list around one of its places, and the list with another element there. -/
theorem exists_split {α : Type} {l : List α} {i : Nat} {a : α} (h : l[i]? = some a) :
    ∃ front back, l = front ++ a :: back ∧ ∀ b, l.set i b = front ++ b :: back := by
  induction l generalizing i with
  | nil => cases h
  | cons c l ih =>
    cases i with
    | zero =>
      cases h
      exact ⟨[], l, rfl, fun _ => rfl⟩
    | succ i =>
      obtain ⟨front, back, hList, hSet⟩ := ih h
      exact ⟨c :: front, back, congrArg (c :: ·) hList, fun b => congrArg (c :: ·) (hSet b)⟩

/-- Where no two elements share a key, erasing by the key of an element takes out that element. -/
theorem exists_eraseP_of_nodup {α β : Type} [DecidableEq β] {f : α → β} {l : List α} {a : α}
    (h : (l.map f).Nodup) (ha : a ∈ l) :
    ∃ front back, l = front ++ a :: back ∧ l.eraseP (fun b => f b = f a) = front ++ back := by
  obtain ⟨b, front, back, _, hb, hSplit, hErase⟩ :=
    List.exists_of_eraseP (p := fun b => f b = f a) ha (decide_eq_true rfl)
  have hMem : b ∈ l := by
    rw [hSplit]
    exact List.mem_append_right _ List.mem_cons_self
  cases List.inj_on_of_nodup_map h hMem ha (of_decide_eq_true hb)
  exact ⟨front, back, hSplit, hErase⟩

/-- A filter keeps a count iff it keeps what is counted. -/
theorem countP_filter_eq_iff {α : Type} (p q : α → Bool) (l : List α) :
    (l.filter q).countP p = l.countP p ↔ ∀ a ∈ l, p a = true → q a = true := by
  rw [List.countP_filter]
  induction l with
  | nil =>
    constructor
    · intro _ a ha
      cases ha
    · intro _
      rfl
  | cons a l ih =>
    have hLe : l.countP (fun x => p x && q x) ≤ l.countP p :=
      List.countP_mono_left fun x _ hx => (Bool.and_eq_true_iff.mp hx).1
    rw [List.forall_mem_cons, ← ih, List.countP_cons, List.countP_cons]
    cases hp : p a with
    | false => simp
    | true =>
      cases hq : q a with
      | true => simp
      | false =>
        simp
        omega

theorem perm_eraseP_of_find? {α : Type u} {l : List α} {p : α → Bool} {a : α}
    (h : l.find? p = some a) : l.Perm (a :: l.eraseP p) := by
  obtain ⟨hHolds, before, after, rfl, hBefore⟩ := List.find?_eq_some_iff_append.mp h
  have hNone : ∀ b ∈ before, ¬ p b = true := by
    intro b hb hpb
    have hNot := hBefore b hb
    rw [hpb] at hNot
    cases hNot
  rw [List.eraseP_append_right _ hNone, List.eraseP_cons_of_pos hHolds]
  exact List.perm_middle

/-- The first pieces of `n` elements, one after the other. -/
theorem flatMap_pieces {α : Type} (n k : Nat) (l : List α) :
    ((List.range k).flatMap fun j => (l.drop (n * j)).take n) = l.take (n * k) := by
  induction k with
  | zero => simp
  | succ k ih =>
    rw [List.range_succ, List.flatMap_append, ih, Nat.mul_succ, List.take_add]
    simp

theorem length_filter_lt_range {m n : Nat} (h : m ≤ n) :
    ((List.range n).filter fun i => i < m).length = m := by
  obtain ⟨k, rfl⟩ := Nat.exists_eq_add_of_le h
  have hLow : (List.range m).filter (fun i => i < m) = List.range m := by
    rw [List.filter_eq_self]
    simp
  have hHigh : ((List.range k).map (m + ·)).filter (fun i => i < m) = [] := by
    rw [List.filter_eq_nil_iff]
    simp
  rw [List.range_add, List.filter_append, hLow, hHigh, List.append_nil, List.length_range]

theorem length_filterMap_le {α β : Type} {f g : α → Option β} {l : List α}
    (hLe : ∀ a ∈ l, f a = none ∨ f a = g a) : (l.filterMap f).length ≤ (l.filterMap g).length := by
  rw [List.length_filterMap_eq_countP, List.length_filterMap_eq_countP]
  apply List.countP_mono_left
  intro a hMem hSome
  rcases hLe a hMem with hNone | hSame
  · rw [hNone] at hSome
    cases hSome
  · rwa [← hSame]

/-- A filter that agrees with another where it keeps something, and gives the same list, agrees with
it everywhere. -/
theorem eq_of_filterMap_eq {α β : Type} {f g : α → Option β} {l : List α}
    (hLe : ∀ a ∈ l, f a = none ∨ f a = g a) (h : l.filterMap f = l.filterMap g) :
    ∀ a ∈ l, f a = g a := by
  induction l with
  | nil => simp
  | cons a l ih =>
    have hRest : ∀ b ∈ l, f b = none ∨ f b = g b := fun b hMem =>
      hLe b (List.mem_cons_of_mem _ hMem)
    rw [List.forall_mem_cons]
    have hHead : f a = g a := by
      rcases hLe a List.mem_cons_self with hNone | hSame
      · cases hSome : g a with
        | none => exact hNone
        | some b =>
          have hShort := length_filterMap_le hRest
          have hLength := congrArg List.length h
          rw [List.filterMap_cons_none hNone, List.filterMap_cons_some hSome, List.length_cons]
            at hLength
          omega
      · exact hSame
    refine ⟨hHead, ih hRest ?_⟩
    cases hSome : g a with
    | none => rwa [List.filterMap_cons_none (hHead.trans hSome), List.filterMap_cons_none hSome] at h
    | some b =>
      rw [List.filterMap_cons_some (hHead.trans hSome), List.filterMap_cons_some hSome] at h
      exact List.tail_eq_of_cons_eq h

theorem filterMap_toList {α β : Type} (f : α → Option β) (o : Option α) :
    o.toList.filterMap f = (o.bind f).toList := by
  cases o with
  | none => rfl
  | some a =>
    change [a].filterMap f = (f a).toList
    cases h : f a with
    | none => exact List.filterMap_cons_none h
    | some b => exact List.filterMap_cons_some h

/-- A filter without repetitions tells the elements apart that it keeps. -/
theorem eq_of_nodup_filterMap {α β : Type} {f : α → Option β} {l : List α}
    (h : (l.filterMap f).Nodup) {a a' : α} {b : β} (hMem : a ∈ l) (hMem' : a' ∈ l)
    (hSome : f a = some b) (hSome' : f a' = some b) : a = a' := by
  induction l with
  | nil => cases hMem
  | cons x l ih =>
    have hNot : f x = some b → ∀ y ∈ l, f y ≠ some b := by
      intro hx y hy hyb
      rw [List.filterMap_cons_some hx] at h
      exact (List.nodup_cons.mp h).1 (List.mem_filterMap.mpr ⟨y, hy, hyb⟩)
    obtain rfl | hRest := List.mem_cons.mp hMem
    · obtain rfl | hRest' := List.mem_cons.mp hMem'
      · rfl
      · exact absurd hSome' (hNot hSome a' hRest')
    · obtain rfl | hRest' := List.mem_cons.mp hMem'
      · exact absurd hSome (hNot hSome' a hRest)
      · refine ih ?_ hRest hRest'
        exact h.sublist ((List.sublist_cons_self x l).filterMap f)

end KiwiDevice.Lib

import Mathlib.Data.List.Chain
import Mathlib.Data.List.Nodup
import Mathlib.Logic.Function.Basic

/-!
# Circular lists

Nodes linked both ways, in a circle through a sentinel. A node is put between two neighbours
or taken out without a look at the others.
-/

namespace KiwiDevice.Lib

universe u

/-- The links of all nodes. -/
@[ext]
structure Links (A : Type u) where
  next : A → A
  prev : A → A

namespace Links

variable {A : Type u}

def Linked (l : Links A) (a b : A) : Prop := l.next a = b ∧ l.prev b = a

/-- The circle from the sentinel `h` through `xs`. -/
structure Ring (l : Links A) (h : A) (xs : List A) : Prop where
  nodup : (h :: xs).Nodup
  chain : (h :: (xs ++ [h])).IsChain l.Linked

section Chains

variable {l l' : Links A} {a b h x : A} {xs ys zs front back : List A}

/-- A chain is unchanged where the links between its nodes are. -/
theorem isChain_frame (hChain : zs.IsChain l.Linked)
    (hNext : ∀ c ∈ zs.dropLast, l'.next c = l.next c)
    (hPrev : ∀ c ∈ zs.tail, l'.prev c = l.prev c) : zs.IsChain l'.Linked := by
  induction zs with
  | nil => exact .nil
  | cons a zs ih =>
    cases zs with
    | nil => exact .singleton a
    | cons b zs =>
      rw [List.isChain_cons_cons] at hChain ⊢
      constructor
      · constructor
        · exact (hNext a (by simp)).trans hChain.1.1
        · exact (hPrev b (by simp)).trans hChain.1.2
      · apply ih hChain.2
        · intro c hMem
          apply hNext c
          rw [List.dropLast_cons_cons]
          exact List.mem_cons_of_mem _ hMem
        · intro c hMem
          exact hPrev c (List.mem_cons_of_mem _ hMem)

theorem Ring.next_first (hRing : l.Ring h xs) (hFirst : xs ++ [h] = b :: back) :
    l.next h = b ∧ l.prev b = h := by
  have hChain := hRing.chain
  rw [hFirst, List.isChain_cons_cons] at hChain
  exact hChain.1

theorem Ring.prev_last (hRing : l.Ring h xs) (front : List A) (hLast : h :: xs = front ++ [a]) :
    l.next a = h ∧ l.prev h = a := by
  have hChain := hRing.chain
  rw [← List.cons_append, hLast, List.append_assoc, List.singleton_append,
    List.isChain_append_cons_cons] at hChain
  exact hChain.2.1

theorem Ring.next_sentinel (hRing : l.Ring h xs) : l.next h = xs.headD h := by
  cases xs with
  | nil => exact (hRing.next_first rfl).1
  | cons b xs => exact (hRing.next_first rfl).1

theorem exists_last (h : A) (xs : List A) : ∃ front a, h :: xs = front ++ [a] :=
  ⟨(h :: xs).dropLast, (h :: xs).getLast (by simp), (List.dropLast_append_getLast _).symm⟩

theorem exists_first (xs : List A) (h : A) : ∃ b back, xs ++ [h] = b :: back := by
  cases xs with
  | nil => exact ⟨h, [], rfl⟩
  | cons b xs => exact ⟨b, xs ++ [h], rfl⟩

theorem Ring.next (hRing : l.Ring h (xs ++ a :: ys)) : l.next a = ys.headD h := by
  have hChain := hRing.chain
  obtain ⟨b, back, hFirst⟩ := exists_first ys h
  rw [List.append_assoc, List.cons_append, hFirst, ← List.cons_append,
    List.isChain_append_cons_cons] at hChain
  rw [hChain.2.1.1]
  cases ys with
  | nil =>
    cases hFirst
    rfl
  | cons c ys =>
    cases hFirst
    rfl

/-- The neighbours at a place of the circle, and the nodes of both sides. -/
structure Place (h : A) (xs ys front back : List A) (a b : A) : Prop where
  last : h :: xs = front ++ [a]
  first : ys ++ [h] = b :: back
  nodup : (h :: (xs ++ ys)).Nodup

theorem exists_place (hNodup : (h :: (xs ++ ys)).Nodup) :
    ∃ front a b back, Place h xs ys front back a b := by
  obtain ⟨front, a, hLast⟩ := exists_last h xs
  obtain ⟨b, back, hFirst⟩ := exists_first ys h
  exact ⟨front, a, b, back, hLast, hFirst, hNodup⟩

namespace Place

variable (hPlace : Place h xs ys front back a b)

include hPlace

theorem mem_last : a ∈ h :: xs := by
  rw [hPlace.last]
  simp

theorem mem_first : b ∈ ys ++ [h] := by
  rw [hPlace.first]
  simp

theorem ne_last {c : A} (hMem : c ∈ front) : c ≠ a := by
  have hNodup : (h :: xs).Nodup :=
    hPlace.nodup.sublist (List.cons_sublist_cons.mpr (List.sublist_append_left xs ys))
  rw [hPlace.last, List.nodup_append] at hNodup
  exact hNodup.2.2 c hMem a (by simp)

theorem ne_first {c : A} (hMem : c ∈ back) : c ≠ b := by
  have hNodup : (ys ++ [h]).Nodup := by
    rw [List.nodup_append_comm]
    exact hPlace.nodup.sublist (List.cons_sublist_cons.mpr (List.sublist_append_right xs ys))
  rw [hPlace.first, List.nodup_cons] at hNodup
  rintro rfl
  exact hNodup.1 hMem

theorem front_ne_first {c : A} (hMem : c ∈ xs) : c ≠ b := by
  rintro rfl
  have hFirst := hPlace.mem_first
  have hNodup := hPlace.nodup
  grind

theorem back_ne_last {c : A} (hMem : c ∈ ys) : c ≠ a := by
  rintro rfl
  have hLast := hPlace.mem_last
  have hNodup := hPlace.nodup
  grind

theorem mem_front {c : A} (hMem : c ∈ front) : c ∈ h :: xs := by
  rw [hPlace.last]
  exact List.mem_append_left _ hMem

theorem mem_back {c : A} (hMem : c ∈ back) : c ∈ ys ++ [h] := by
  rw [hPlace.first]
  exact List.mem_cons_of_mem b hMem

/-- The circle, cut at the place. -/
theorem chain_iff : (h :: (xs ++ ys ++ [h])).IsChain l.Linked ↔
    (front ++ [a]).IsChain l.Linked ∧ l.Linked a b ∧ (b :: back).IsChain l.Linked := by
  rw [List.append_assoc, ← List.cons_append, hPlace.last, hPlace.first, List.append_assoc,
    List.singleton_append, List.isChain_append_cons_cons]

theorem chain_cons_iff : (h :: (xs ++ x :: ys ++ [h])).IsChain l.Linked ↔
    (front ++ [a]).IsChain l.Linked ∧ l.Linked a x ∧ l.Linked x b ∧
      (b :: back).IsChain l.Linked := by
  rw [List.append_assoc, ← List.cons_append, hPlace.last, List.cons_append, hPlace.first,
    List.append_assoc, List.singleton_append, List.isChain_append_cons_cons,
    List.isChain_cons_cons]

/-- Both sides stay chained when no link changes but those between the two neighbours. -/
theorem sides_frame (l' : Links A)
    (hNext : ∀ c ∈ h :: (xs ++ ys), c ≠ a → l'.next c = l.next c)
    (hPrev : ∀ c ∈ h :: (xs ++ ys), c ≠ b → l'.prev c = l.prev c)
    (hFront : (front ++ [a]).IsChain l.Linked) (hBack : (b :: back).IsChain l.Linked) :
    (front ++ [a]).IsChain l'.Linked ∧ (b :: back).IsChain l'.Linked := by
  constructor
  · apply isChain_frame hFront
    · intro c hMem
      rw [List.dropLast_concat] at hMem
      have hCircle := hPlace.mem_front hMem
      exact hNext c (by grind) (hPlace.ne_last hMem)
    · intro c hMem
      rw [← hPlace.last, List.tail_cons] at hMem
      exact hPrev c (by grind) (hPlace.front_ne_first hMem)
  · apply isChain_frame hBack
    · intro c hMem
      rw [← hPlace.first, List.dropLast_concat] at hMem
      exact hNext c (by grind) (hPlace.back_ne_last hMem)
    · intro c hMem
      rw [List.tail_cons] at hMem
      have hCircle := hPlace.mem_back hMem
      exact hPrev c (by grind) (hPlace.ne_first hMem)

end Place

end Chains

section Updates

variable [DecidableEq A] (l : Links A) {a b h x : A} {xs ys front back : List A}

def setNext (a b : A) : Links A := { l with next := Function.update l.next a b }

def setPrev (a b : A) : Links A := { l with prev := Function.update l.prev a b }

/-- Links of `x` to its neighbours `a` and `b`. -/
def insertBetween (a x b : A) : Links A where
  next := Function.update (Function.update l.next x b) a x
  prev := Function.update (Function.update l.prev b x) x a

/-- The neighbours of `x` are linked to each other, and `x` to itself. -/
def unlink (x : A) : Links A where
  next := Function.update (Function.update l.next (l.prev x) (l.next x)) x x
  prev := Function.update (Function.update l.prev (l.next x) (l.prev x)) x x

variable {l}

theorem Ring.insert (hRing : l.Ring h (xs ++ ys)) (hNew : x ∉ h :: (xs ++ ys))
    (hPlace : Place h xs ys front back a b) :
    (l.insertBetween a x b).Ring h (xs ++ x :: ys) := by
  have hLast : a ≠ x := by
    rintro rfl
    have hMem := hPlace.mem_last
    grind
  have hFirst : b ≠ x := by
    rintro rfl
    have hMem := hPlace.mem_first
    grind
  constructor
  · have hNodup := hRing.nodup
    grind
  · obtain ⟨hFront, -, hBack⟩ := hPlace.chain_iff.mp hRing.chain
    have hSides := hPlace.sides_frame (l.insertBetween a x b)
      (fun c hMem hNe => by
        have hNeNew : c ≠ x := fun hEq => hNew (hEq ▸ hMem)
        simp [insertBetween, hNe, hNeNew])
      (fun c hMem hNe => by
        have hNeNew : c ≠ x := fun hEq => hNew (hEq ▸ hMem)
        simp [insertBetween, hNe, hNeNew]) hFront hBack
    refine hPlace.chain_cons_iff.mpr ⟨hSides.1, ⟨?_, ?_⟩, ⟨?_, ?_⟩, hSides.2⟩
    · simp [insertBetween]
    · simp [insertBetween]
    · simp [insertBetween, hLast.symm]
    · simp [insertBetween, hFirst]

theorem Ring.unlink (hRing : l.Ring h (xs ++ x :: ys)) : (l.unlink x).Ring h (xs ++ ys) := by
  have hNodup : (h :: (xs ++ ys)).Nodup :=
    hRing.nodup.sublist (by simp)
  have hOut : x ∉ h :: (xs ++ ys) := by
    have hNodup := hRing.nodup
    grind
  obtain ⟨front, a, b, back, hPlace⟩ := exists_place hNodup
  have hLast : a ≠ x := by
    rintro rfl
    have hMem := hPlace.mem_last
    grind
  have hFirst : b ≠ x := by
    rintro rfl
    have hMem := hPlace.mem_first
    grind
  obtain ⟨hFront, ⟨-, hPrev⟩, ⟨hNext, -⟩, hBack⟩ := hPlace.chain_cons_iff.mp hRing.chain
  constructor
  · exact hNodup
  · have hSides := hPlace.sides_frame (l.unlink x)
      (fun c hMem hNe => by
        have hNeOut : c ≠ x := fun hEq => hOut (hEq ▸ hMem)
        simp [Links.unlink, hPrev, hNe, hNeOut])
      (fun c hMem hNe => by
        have hNeOut : c ≠ x := fun hEq => hOut (hEq ▸ hMem)
        simp [Links.unlink, hNext, hNe, hNeOut]) hFront hBack
    refine hPlace.chain_iff.mpr ⟨hSides.1, ⟨?_, ?_⟩, hSides.2⟩
    · simp [Links.unlink, hPrev, hNext, hLast]
    · simp [Links.unlink, hPrev, hNext, hFirst]

end Updates

end Links

end KiwiDevice.Lib

import KiwiDevice.Gps.LocHeap

/-!
# Heap order and node counts

`IsHeap` says of every node that nothing below it outranks it and that its size counts its subtree.
Each operation keeps it and moves exactly the objects that it should.
-/

namespace KiwiDevice.Gps

open Lib

universe u

variable {α : Type u} {ranks : α → α → Int}

namespace TotalPreorder

variable (hRanks : TotalPreorder ranks)
include hRanks

theorem irrefl (a : α) : outRanks ranks a a = false := (hRanks.total a a).elim id id

theorem asymm {a b : α} (h : outRanks ranks a b = true) : outRanks ranks b a = false := by
  apply (hRanks.total a b).resolve_left
  rw [h]
  decide

end TotalPreorder

namespace LocHeapNode

/-- The objects of a subtree. -/
def stored : LocHeapNode α → Multiset α
  | .null => 0
  | .node _ data left right => data ::ₘ (left.stored + right.stored)

/-- The objects of the children. -/
def underTop : LocHeapNode α → Multiset α
  | .null => 0
  | .node _ _ left right => left.stored + right.stored

/-- None of the objects outranks `top`. -/
def Tops (ranks : α → α → Int) (top : α) (s : Multiset α) : Prop :=
  ∀ x ∈ s, outRanks ranks x top = false

inductive IsHeap (ranks : α → α → Int) : LocHeapNode α → Prop where
  | null : IsHeap ranks .null
  | node {size : Int} {data : α} {left right : LocHeapNode α}
      (hTops : Tops ranks data (left.stored + right.stored))
      (hSize : size = (left.stored + right.stored).card + 1)
      (hLeft : IsHeap ranks left) (hRight : IsHeap ranks right) :
      IsHeap ranks (.node size data left right)

@[simp] theorem stored_node (size : Int) (data : α) (left right : LocHeapNode α) :
    (node size data left right).stored = data ::ₘ (left.stored + right.stored) := rfl

@[simp] theorem underTop_node (size : Int) (data : α) (left right : LocHeapNode α) :
    (node size data left right).underTop = left.stored + right.stored := rfl

theorem isNull_iff {t : LocHeapNode α} : t.isNull = true ↔ t = .null := by
  cases t with
  | null => exact ⟨fun _ => rfl, fun _ => rfl⟩
  | node size data left right =>
    constructor <;> intro h <;> cases h

theorem Tops.mono {a b : α} {s : Multiset α} (hRanks : TotalPreorder ranks) (h : Tops ranks a s)
    (hab : outRanks ranks a b = false) : Tops ranks b s :=
  fun x hx => hRanks.trans x a b (h x hx) hab

theorem Tops.add {a : α} {s t : Multiset α} (hs : Tops ranks a s) (ht : Tops ranks a t) :
    Tops ranks a (s + t) := by
  intro x hx
  obtain hx | hx := Multiset.mem_add.mp hx
  · exact hs x hx
  · exact ht x hx

theorem Tops.cons {a b : α} {s : Multiset α} (hb : outRanks ranks b a = false)
    (hs : Tops ranks a s) : Tops ranks a (b ::ₘ s) := by
  intro x hx
  obtain rfl | hx := Multiset.mem_cons.mp hx
  · exact hb
  · exact hs x hx

theorem Tops.subset {a : α} {s t : Multiset α} (h : Tops ranks a t) (hst : s ⊆ t) :
    Tops ranks a s := fun x hx => h x (hst hx)

theorem IsHeap.tops {size : Int} {data : α} {left right : LocHeapNode α}
    (hRanks : TotalPreorder ranks) (h : IsHeap ranks (.node size data left right)) :
    Tops ranks data (LocHeapNode.node size data left right).stored := by
  cases h with
  | node hTops _ _ _ => exact hTops.cons (hRanks.irrefl data)

theorem IsHeap.mSize {t : LocHeapNode α} (h : IsHeap ranks t) : t.mSize = t.stored.card := by
  cases h with
  | null => rfl
  | node _ hSize _ _ =>
    rw [stored_node, Multiset.card_cons]
    exact_mod_cast hSize

/-! ### Push -/

/-- What a push into a node does: the higher ranking object is the head of the node, the other one
goes into a subtree. -/
theorem push_node (ranks : α → α → Int) (data : α) (size : Int) (top : α)
    (left right : LocHeapNode α) :
    ∃ top' data', (top' = top ∧ data' = data ∧ outRanks ranks data top = false ∨
        top' = data ∧ data' = top ∧ outRanks ranks data top = true) ∧
      (push ranks data (.node size top left right) =
          .node (size + 1) top' (push ranks data' left) right ∨
        push ranks data (.node size top left right) =
          .node (size + 1) top' left (push ranks data' right)) := by
  refine ⟨if outRanks ranks data top then data else top,
    if outRanks ranks data top then top else data, ?_, ?_⟩
  · split
    · exact .inr ⟨rfl, rfl, ‹_›⟩
    · exact .inl ⟨rfl, rfl, Bool.eq_false_of_not_eq_true ‹_›⟩
  · rw [push]
    split
    · rename_i hNull
      rw [isNull_iff.mp hNull, push]
      exact .inl rfl
    · split
      · rename_i hNull
        rw [isNull_iff.mp hNull, push]
        exact .inr rfl
      · split
        · exact .inl rfl
        · exact .inr rfl

theorem stored_push (data : α) (t : LocHeapNode α) :
    (push ranks data t).stored = data ::ₘ t.stored := by
  induction t generalizing data with
  | null => rfl
  | node size top left right ihLeft ihRight =>
    obtain ⟨top', data', hSwap, hPush⟩ := push_node ranks data size top left right
    have hPair : ∀ s : Multiset α, top' ::ₘ data' ::ₘ s = data ::ₘ top ::ₘ s := by
      intro s
      obtain ⟨rfl, rfl, _⟩ | ⟨rfl, rfl, _⟩ := hSwap
      · exact Multiset.cons_swap _ _ s
      · rfl
    obtain hPush | hPush := hPush
    · rw [hPush, stored_node, ihLeft, Multiset.cons_add, hPair, stored_node]
    · rw [hPush, stored_node, ihRight, Multiset.add_cons, hPair, stored_node]

theorem IsHeap.push (hRanks : TotalPreorder ranks) {data : α} {t : LocHeapNode α}
    (h : IsHeap ranks t) : IsHeap ranks (push ranks data t) := by
  induction h generalizing data with
  | null => exact .node (fun x hx => absurd hx (Multiset.notMem_zero x)) rfl .null .null
  | @node size top left right hTops hSize hLeft hRight ihLeft ihRight =>
    obtain ⟨top', data', hSwap, hPush⟩ := push_node ranks data size top left right
    have hData : outRanks ranks data' top' = false := by
      obtain ⟨rfl, rfl, hNot⟩ | ⟨rfl, rfl, hOut⟩ := hSwap
      · exact hNot
      · exact hRanks.asymm hOut
    have hOld : Tops ranks top' (left.stored + right.stored) := by
      obtain ⟨rfl, _, _⟩ | ⟨rfl, _, hOut⟩ := hSwap
      · exact hTops
      · exact hTops.mono hRanks (hRanks.asymm hOut)
    obtain hPush | hPush := hPush
    · have hBelow : (LocHeapNode.push ranks data' left).stored + right.stored =
          data' ::ₘ (left.stored + right.stored) := by rw [stored_push, Multiset.cons_add]
      rw [hPush]
      refine .node ?_ ?_ ihLeft hRight
      · rw [hBelow]
        exact hOld.cons hData
      · rw [hBelow, Multiset.card_cons, hSize]
        omega
    · have hBelow : left.stored + (LocHeapNode.push ranks data' right).stored =
          data' ::ₘ (left.stored + right.stored) := by rw [stored_push, Multiset.add_cons]
      rw [hPush]
      refine .node ?_ ?_ hLeft ihRight
      · rw [hBelow]
        exact hOld.cons hData
      · rw [hBelow, Multiset.card_cons, hSize]
        omega

/-! ### Pop -/

/-- What a pop of a node does: a leaf goes, and otherwise the head of a child that the other child
does not outrank moves up. -/
inductive PopStep (ranks : α → α → Int) (data : α) (size : Int) :
    LocHeapNode α → LocHeapNode α → LocHeapNode α × α → Prop where
  | last : PopStep ranks data size .null .null (.null, data)
  | fromLeft {lSize : Int} {lData : α} {lLeft lRight right : LocHeapNode α}
      (hOther : ∀ s d l r, right = .node s d l r → outRanks ranks d lData = false) :
      PopStep ranks data size (.node lSize lData lLeft lRight) right
        (.node (size - 1) lData (pop ranks data (.node lSize lData lLeft lRight)).1 right,
          (pop ranks data (.node lSize lData lLeft lRight)).2)
  | fromRight {rSize : Int} {rData : α} {left rLeft rRight : LocHeapNode α}
      (hOther : ∀ s d l r, left = .node s d l r → outRanks ranks d rData = false) :
      PopStep ranks data size left (.node rSize rData rLeft rRight)
        (.node (size - 1) rData left (pop ranks data (.node rSize rData rLeft rRight)).1,
          (pop ranks data (.node rSize rData rLeft rRight)).2)

theorem pop_node (hRanks : TotalPreorder ranks) (data : α) (size : Int) (top : α)
    (left right : LocHeapNode α) :
    PopStep ranks data size left right (pop ranks data (.node size top left right)) := by
  cases left with
  | null =>
    cases right with
    | null => exact .last
    | node rSize rData rLeft rRight => exact .fromRight (by rintro s d l r ⟨⟩)
  | node lSize lData lLeft lRight =>
    cases right with
    | null => exact .fromLeft (by rintro s d l r ⟨⟩)
    | node rSize rData rLeft rRight =>
      rw [pop]
      split
      · rename_i hOut
        apply PopStep.fromLeft
        rintro s d l r ⟨⟩
        exact hRanks.asymm hOut
      · rename_i hOut
        apply PopStep.fromRight
        rintro s d l r ⟨⟩
        exact Bool.eq_false_of_not_eq_true hOut

theorem pop_moves (hRanks : TotalPreorder ranks) (data : α) (t : LocHeapNode α) :
    (pop ranks data t).1.stored = t.underTop ∧ (pop ranks data t).2 = data := by
  induction t with
  | null => exact ⟨rfl, rfl⟩
  | node size top left right ihLeft ihRight =>
    have hStep := pop_node hRanks data size top left right
    generalize pop ranks data (.node size top left right) = popped at hStep
    cases hStep with
    | last => exact ⟨rfl, rfl⟩
    | fromLeft hOther =>
      refine ⟨?_, ihLeft.2⟩
      rw [stored_node, ihLeft.1, underTop_node, underTop_node, stored_node, Multiset.cons_add]
    | fromRight hOther =>
      refine ⟨?_, ihRight.2⟩
      rw [stored_node, ihRight.1, underTop_node, underTop_node, stored_node, Multiset.add_cons]

theorem IsHeap.pop (hRanks : TotalPreorder ranks) {data : α} {t : LocHeapNode α}
    (h : IsHeap ranks t) : IsHeap ranks (pop ranks data t).1 := by
  induction h with
  | null => exact .null
  | @node size top left right hTops hSize hLeft hRight ihLeft ihRight =>
    have hStep := pop_node hRanks data size top left right
    have hMoves := (pop_moves hRanks data (.node size top left right)).1
    generalize LocHeapNode.pop ranks data (.node size top left right) = popped at hStep hMoves
    cases hStep with
    | last => exact .null
    | @fromLeft lSize lData lLeft lRight _ hOther =>
      have hBelow := (pop_moves hRanks data (.node lSize lData lLeft lRight)).1
      refine .node ?_ ?_ ihLeft hRight
      · rw [hBelow]
        apply Tops.add
        · cases hLeft with
          | node hTopsLeft _ _ _ => exact hTopsLeft
        · cases hRight with
          | null => exact fun x hx => absurd hx (Multiset.notMem_zero x)
          | node hT hS hL hR =>
            exact (IsHeap.node hT hS hL hR).tops hRanks |>.mono hRanks (hOther _ _ _ _ rfl)
      · rw [hSize, hBelow, stored_node, underTop_node, Multiset.cons_add, Multiset.card_cons]
        omega
    | @fromRight rSize rData _ rLeft rRight hOther =>
      have hBelow := (pop_moves hRanks data (.node rSize rData rLeft rRight)).1
      refine .node ?_ ?_ hLeft ihRight
      · rw [hBelow]
        apply Tops.add
        · cases hLeft with
          | null => exact fun x hx => absurd hx (Multiset.notMem_zero x)
          | node hT hS hL hR =>
            exact (IsHeap.node hT hS hL hR).tops hRanks |>.mono hRanks (hOther _ _ _ _ rfl)
        · cases hRight with
          | node hTopsRight _ _ _ => exact hTopsRight
      · rw [hSize, hBelow, stored_node, underTop_node, Multiset.add_cons, Multiset.card_cons]
        omega

/-! ### Remove -/

variable [DecidableEq α]

theorem remove_of_notMem {data : α} {t : LocHeapNode α} (h : data ∉ t.stored) :
    remove ranks data t = (t, none) := by
  induction t with
  | null => rfl
  | node size top left right ihLeft ihRight =>
    rw [stored_node, Multiset.mem_cons, Multiset.mem_add, not_or, not_or] at h
    obtain ⟨hTop, hLeft, hRight⟩ := h
    rw [remove, if_neg hTop, ihLeft hLeft, ihRight hRight]
    split <;> rfl

theorem remove_node_left {data x : α} {size : Int} {top : α} {left right : LocHeapNode α}
    (hTop : data ≠ top) (hOut : outRanks ranks data top = false)
    (hFound : (remove ranks data left).2 = some x) :
    remove ranks data (.node size top left right) =
      (.node (size - 1) top (remove ranks data left).1 right, some x) := by
  rw [remove, if_neg hTop, hOut, if_neg Bool.false_ne_true]
  simp only [hFound, Option.isNone_some, Bool.false_eq_true, if_false, Option.isSome_some, if_true]

theorem remove_node_right {data x : α} {size : Int} {top : α} {left right : LocHeapNode α}
    (hTop : data ≠ top) (hOut : outRanks ranks data top = false)
    (hMissing : remove ranks data left = (left, none))
    (hFound : (remove ranks data right).2 = some x) :
    remove ranks data (.node size top left right) =
      (.node (size - 1) top left (remove ranks data right).1, some x) := by
  rw [remove, if_neg hTop, hOut, if_neg Bool.false_ne_true]
  simp only [hMissing, Option.isNone_none, if_true, hFound, Option.isSome_some]

/-- An object of a heap is found: the pruning skips no subtree that it can be in. -/
theorem IsHeap.remove (hRanks : TotalPreorder ranks) {data : α} {t : LocHeapNode α}
    (h : IsHeap ranks t) (hMem : data ∈ t.stored) :
    (remove ranks data t).2 = some data ∧
      (remove ranks data t).1.stored = t.stored.erase data ∧
      IsHeap ranks (remove ranks data t).1 := by
  induction h with
  | null => exact absurd hMem (Multiset.notMem_zero data)
  | @node size top left right hTops hSize hLeft hRight ihLeft ihRight =>
    by_cases hTop : data = top
    · obtain ⟨hStored, hData⟩ := pop_moves hRanks top (.node size top left right)
      rw [LocHeapNode.remove, if_pos hTop, hTop, stored_node, Multiset.erase_cons_head]
      exact ⟨congrArg some hData, hStored, (IsHeap.node hTops hSize hLeft hRight).pop hRanks⟩
    · have hBelow : data ∈ left.stored + right.stored :=
        (Multiset.mem_cons.mp hMem).resolve_left hTop
      have hCount : ((left.stored + right.stored).erase data).card + 1 =
          (left.stored + right.stored).card := Multiset.card_erase_add_one hBelow
      have hKept : Tops ranks top ((left.stored + right.stored).erase data) :=
        hTops.subset (Multiset.erase_subset data _)
      rw [stored_node, Multiset.erase_cons_tail (left.stored + right.stored) (Ne.symm hTop)]
      by_cases hInLeft : data ∈ left.stored
      · obtain ⟨hFound, hStored, hHeap⟩ := ihLeft hInLeft
        have hErase : (LocHeapNode.remove ranks data left).1.stored + right.stored =
            (left.stored + right.stored).erase data := by
          rw [hStored, Multiset.erase_add_left_pos right.stored hInLeft]
        rw [remove_node_left hTop (hTops data hBelow) hFound, stored_node, hErase]
        refine ⟨rfl, rfl, .node ?_ ?_ hHeap hRight⟩
        · rw [hErase]
          exact hKept
        · rw [hErase, hSize]
          omega
      · have hInRight : data ∈ right.stored := (Multiset.mem_add.mp hBelow).resolve_left hInLeft
        obtain ⟨hFound, hStored, hHeap⟩ := ihRight hInRight
        have hErase : left.stored + (LocHeapNode.remove ranks data right).1.stored =
            (left.stored + right.stored).erase data := by
          rw [hStored, Multiset.erase_add_right_neg right.stored hInLeft]
        rw [remove_node_right hTop (hTops data hBelow) (remove_of_notMem hInLeft) hFound,
          stored_node, hErase]
        refine ⟨rfl, rfl, .node ?_ ?_ hLeft hHeap⟩
        · rw [hErase]
          exact hKept
        · rw [hErase, hSize]
          omega

end LocHeapNode

end KiwiDevice.Gps

import KiwiDevice.Gps.HeapOrder
import Mathlib.Data.List.Induction
import Mathlib.Data.Nat.Log

/-!
# The shape of a heap under pushes

`push` goes to the smaller subtree, and to the left one of two of one size. In a heap that was only
pushed to, the left subtree of a node has as many nodes as the right one, or one more.
-/

namespace KiwiDevice.Gps

universe u

variable {α : Type u} {ranks : α → α → Int}

namespace LocHeapNode

/-- The nodes of a subtree. -/
def count : LocHeapNode α → Nat
  | .null => 0
  | .node _ _ left right => left.count + right.count + 1

/-- The nodes on a longest way down. -/
def depth : LocHeapNode α → Nat
  | .null => 0
  | .node _ _ left right => max left.depth right.depth + 1

/-- The calls of `LocHeapNode::push` inside each other when one more object is pushed. -/
def pushCalls : LocHeapNode α → Nat
  | .null => 0
  | .node _ _ left right =>
    if left.isNull then 1
    else if right.isNull then 1
    else if left.mSize ≤ right.mSize then left.pushCalls + 1
    else right.pushCalls + 1

/-- At every node the sizes of the subtrees differ by at most one. -/
def Balanced : LocHeapNode α → Prop
  | .null => True
  | .node _ _ left right =>
    left.count ≤ right.count + 1 ∧ right.count ≤ left.count + 1 ∧ left.Balanced ∧ right.Balanced

/-- What pushes keep of the shape: `mSize` counts the nodes, and the left subtree is the one that is
filled first. -/
inductive LeftFirst : LocHeapNode α → Prop where
  | null : LeftFirst .null
  | node {size : Int} {data : α} {left right : LocHeapNode α}
      (hSize : size = left.count + right.count + 1)
      (hLower : right.count ≤ left.count) (hUpper : left.count ≤ right.count + 1)
      (hLeft : LeftFirst left) (hRight : LeftFirst right) :
      LeftFirst (.node size data left right)

theorem LeftFirst.mSize {t : LocHeapNode α} (h : LeftFirst t) : t.mSize = t.count := by
  cases h with
  | null => rfl
  | node hSize _ _ _ _ => exact hSize

theorem LeftFirst.balanced {t : LocHeapNode α} (h : LeftFirst t) : t.Balanced := by
  induction h with
  | null => trivial
  | node _ hLower hUpper _ _ ihLeft ihRight =>
    exact ⟨hUpper, hLower.trans (Nat.le_succ _), ihLeft, ihRight⟩

theorem count_eq_zero {t : LocHeapNode α} : t.count = 0 ↔ t.isNull = true := by
  cases t with
  | null => exact iff_of_true rfl rfl
  | node size data left right => exact iff_of_false (Nat.succ_ne_zero _) Bool.false_ne_true

theorem count_push (data : α) (t : LocHeapNode α) : (push ranks data t).count = t.count + 1 := by
  induction t generalizing data with
  | null => rfl
  | node size top left right ihLeft ihRight =>
    obtain ⟨top', data', -, hPush | hPush⟩ := push_node ranks data size top left right
    · rw [hPush, count, ihLeft, count]
      omega
    · rw [hPush, count, ihRight, count]
      omega

theorem leaf_leftFirst (data : α) : LeftFirst (leaf data) :=
  .node rfl le_rfl (Nat.zero_le _) .null .null

section Fill

variable {size : Int} {data : α} {left right grown : LocHeapNode α}
  (hSize : size = left.count + right.count + 1) (hGrown : LeftFirst grown)

include hSize hGrown

/-- One more node on the left, where both subtrees have as many. -/
theorem LeftFirst.fillLeft (hCount : grown.count = left.count + 1)
    (hSame : left.count = right.count) (hRight : LeftFirst right) :
    LeftFirst (.node (size + 1) data grown right) := by
  refine .node ?_ ?_ ?_ hGrown hRight
  · rw [hSize, hCount]
    omega
  · rw [hCount, hSame]
    exact Nat.le_succ _
  · rw [hCount, hSame]

/-- One more node on the right, where it is missing. -/
theorem LeftFirst.fillRight (hCount : grown.count = right.count + 1)
    (hMissing : left.count = right.count + 1) (hLeft : LeftFirst left) :
    LeftFirst (.node (size + 1) data left grown) := by
  refine .node ?_ ?_ ?_ hLeft hGrown
  · rw [hSize, hCount]
    omega
  · rw [hCount, hMissing]
  · rw [hCount, hMissing]
    exact Nat.le_succ _

end Fill

/-- `push` finds the side where a node is missing from the sizes that the nodes have before it. -/
theorem LeftFirst.push {data : α} {t : LocHeapNode α} (h : LeftFirst t) :
    LeftFirst (push ranks data t) := by
  induction h generalizing data with
  | null => exact leaf_leftFirst data
  | @node size top left right hSize hLower hUpper hLeft hRight ihLeft ihRight =>
    rw [LocHeapNode.push]
    split
    · rename_i hNull
      have hEmpty := count_eq_zero.mpr hNull
      refine .fillLeft hSize (leaf_leftFirst _) ?_ ?_ hRight
      · rw [hEmpty]
        rfl
      · rw [hEmpty] at hLower ⊢
        exact (Nat.le_zero.mp hLower).symm
    · rename_i hNode
      have hSome : left.count ≠ 0 := fun hZero => hNode (count_eq_zero.mp hZero)
      split
      · rename_i hNull
        have hEmpty := count_eq_zero.mpr hNull
        refine .fillRight hSize (leaf_leftFirst _) ?_ ?_ hLeft
        · rw [hEmpty]
          rfl
        · rw [hEmpty] at hUpper ⊢
          exact Nat.le_antisymm hUpper (Nat.one_le_iff_ne_zero.mpr hSome)
      · rw [hLeft.mSize, hRight.mSize]
        split
        · rename_i hSizes
          exact .fillLeft hSize ihLeft (count_push _ _)
            (Nat.le_antisymm (Int.ofNat_le.mp hSizes) hLower) hRight
        · rename_i hSizes
          exact .fillRight hSize ihRight (count_push _ _)
            (Nat.le_antisymm hUpper (Int.ofNat_lt.mp (Int.lt_of_not_ge hSizes))) hLeft

theorem depth_of_empty {t : LocHeapNode α} (h : t.count = 0) : t.depth = 0 := by
  rw [isNull_iff.mp (count_eq_zero.mp h), depth]

/-- A subtree of at most half of the nodes is one level lower. -/
theorem depth_le_log {t : LocHeapNode α} {n : Nat} (h : t.depth ≤ Nat.log 2 t.count + 1)
    (hHalf : 2 * t.count ≤ n) : t.depth ≤ Nat.log 2 n := by
  rcases Nat.eq_zero_or_pos t.count with hEmpty | hPos
  · rw [depth_of_empty hEmpty]
    exact Nat.zero_le _
  · calc t.depth
        ≤ Nat.log 2 t.count + 1 := h
      _ = Nat.log 2 (t.count * 2) := (Nat.log_mul_base Nat.one_lt_two hPos.ne').symm
      _ ≤ Nat.log 2 n := Nat.log_mono_right (by rwa [Nat.mul_comm])

theorem Balanced.depth_le {t : LocHeapNode α} (h : t.Balanced) :
    t.depth ≤ Nat.log 2 t.count + 1 := by
  induction t with
  | null => exact Nat.zero_le _
  | node size data left right ihLeft ihRight =>
    obtain ⟨hLeft, hRight, hBelowLeft, hBelowRight⟩ := h
    rw [depth, count]
    apply Nat.succ_le_succ
    apply max_le
    · exact depth_le_log (ihLeft hBelowLeft) (by omega)
    · exact depth_le_log (ihRight hBelowRight) (by omega)

theorem pushCalls_le_depth (t : LocHeapNode α) : t.pushCalls ≤ t.depth := by
  induction t with
  | null => exact le_rfl
  | node size data left right ihLeft ihRight =>
    rw [pushCalls, depth]
    split
    · exact Nat.succ_le_succ (Nat.zero_le _)
    · split
      · exact Nat.succ_le_succ (Nat.zero_le _)
      · split
        · exact Nat.succ_le_succ (ihLeft.trans (le_max_left _ _))
        · exact Nat.succ_le_succ (ihRight.trans (le_max_right _ _))

end LocHeapNode

namespace LocHeap

/-- The heap after pushes of these objects, the first one first. -/
def pushAll (ranks : α → α → Int) (datas : List α) : LocHeap α := datas.foldl (push ranks) empty

theorem pushAll_snoc (datas : List α) (data : α) :
    (pushAll ranks (datas ++ [data])).mTree =
      LocHeapNode.push ranks data (pushAll ranks datas).mTree := by
  rw [pushAll, List.foldl_append]
  rfl

theorem pushAll_leftFirst (ranks : α → α → Int) (datas : List α) :
    (pushAll ranks datas).mTree.LeftFirst ∧ (pushAll ranks datas).mTree.count = datas.length := by
  induction datas using List.reverseRecOn with
  | nil => exact ⟨.null, rfl⟩
  | append_singleton datas data ih =>
    rw [pushAll_snoc, LocHeapNode.count_push, ih.2, List.length_append]
    exact ⟨ih.1.push, rfl⟩

end LocHeap

/-- After `n` pushes into an empty heap, of objects that rank in any way, the subtrees of every node
are of the same size up to one, so that the heap has at most `log₂ n + 1` levels, and the next push
as many calls inside each other. -/
theorem pushes_balanced (ranks : α → α → Int) (datas : List α) :
    (LocHeap.pushAll ranks datas).mTree.mSize = datas.length ∧
      (LocHeap.pushAll ranks datas).mTree.count = datas.length ∧
      (LocHeap.pushAll ranks datas).mTree.Balanced ∧
      (LocHeap.pushAll ranks datas).mTree.depth ≤ Nat.log 2 datas.length + 1 ∧
      (LocHeap.pushAll ranks datas).mTree.pushCalls ≤ Nat.log 2 datas.length + 1 := by
  obtain ⟨hShape, hCount⟩ := LocHeap.pushAll_leftFirst ranks datas
  have hDepth := hShape.balanced.depth_le
  rw [hCount] at hDepth
  refine ⟨?_, hCount, hShape.balanced, hDepth, ?_⟩
  · rw [hShape.mSize, hCount]
  · exact (LocHeapNode.pushCalls_le_depth _).trans hDepth

end KiwiDevice.Gps

import KiwiDevice.Lib.PriorityQueue
import Mathlib.Algebra.Order.Ring.Nat

/-!
# The heap of rankable objects

`LocHeap` keeps pointers to objects that rank against each other in a binary tree that is ordered
from the parent to the children only. A link of the tree is `null` or a node; an object is its
address, so `remove` compares with `=`.
-/

namespace KiwiDevice.Gps

open Lib

universe u

inductive LocHeapNode (α : Type u) where
  | null
  | node (mSize : Int) (mData : α) (mLeft mRight : LocHeapNode α)
deriving Repr, DecidableEq

variable {α : Type u}

/-- `ranks a b` is `a.ranks(b)`: positive when `a` ranks higher than `b`. -/
def outRanks (ranks : α → α → Int) (a b : α) : Bool := 0 < ranks a b

theorem outRanks_eq_false {ranks : α → α → Int} {a b : α} :
    outRanks ranks a b = false ↔ ranks a b ≤ 0 := by
  rw [outRanks, decide_eq_false_iff_not, Int.not_lt]

namespace LocHeapNode

def isNull : LocHeapNode α → Bool
  | .null => true
  | .node .. => false

def mSize : LocHeapNode α → Int
  | .null => 0
  | .node size .. => size

/-- `new LocHeapNode(data)`. -/
def leaf (data : α) : LocHeapNode α := .node 1 data .null .null

/-- `LocHeapNode::push`, and the first node of an empty tree. -/
def push (ranks : α → α → Int) : α → LocHeapNode α → LocHeapNode α
  | data, .null => leaf data
  | data, .node size top left right =>
    -- the data of the two nodes are swapped, the links stay
    let swaps := outRanks ranks data top
    let top' := if swaps then data else top
    let data' := if swaps then top else data
    if left.isNull then .node (size + 1) top' (leaf data') right
    else if right.isNull then .node (size + 1) top' left (leaf data')
    else if left.mSize ≤ right.mSize then .node (size + 1) top' (push ranks data' left) right
    else .node (size + 1) top' left (push ranks data' right)

/-- `LocHeapNode::pop` of a node that holds `data` in place of its own: the caller has swapped it
there. The popped node is a leaf, and `data` is in it. -/
def pop (ranks : α → α → Int) (data : α) : LocHeapNode α → LocHeapNode α × α
  | .null => (.null, data)
  | .node _ _ .null .null => (.null, data)
  | .node size _ .null (.node rSize rData rLeft rRight) =>
    let popped := pop ranks data (.node rSize rData rLeft rRight)
    (.node (size - 1) rData .null popped.1, popped.2)
  | .node size _ (.node lSize lData lLeft lRight) .null =>
    let popped := pop ranks data (.node lSize lData lLeft lRight)
    (.node (size - 1) lData popped.1 .null, popped.2)
  | .node size _ (.node lSize lData lLeft lRight) (.node rSize rData rLeft rRight) =>
    if outRanks ranks lData rData then
      let popped := pop ranks data (.node lSize lData lLeft lRight)
      (.node (size - 1) lData popped.1 (.node rSize rData rLeft rRight), popped.2)
    else
      let popped := pop ranks data (.node rSize rData rLeft rRight)
      (.node (size - 1) rData (.node lSize lData lLeft lRight) popped.1, popped.2)

/-- `LocHeapNode::remove`. -/
def remove [DecidableEq α] (ranks : α → α → Int) (data : α) :
    LocHeapNode α → LocHeapNode α × Option α
  | .null => (.null, none)
  | .node size top left right =>
    if data = top then
      let popped := pop ranks top (.node size top left right)
      (popped.1, some popped.2)
    else if outRanks ranks data top then (.node size top left right, none)
    else
      let fromLeft := remove ranks data left
      let fromRight :=
        if fromLeft.2.isNone then remove ranks data right else (right, fromLeft.2)
      let size' := if fromRight.2.isSome then size - 1 else size
      (.node size' top fromLeft.1 fromRight.1, fromRight.2)

/-- `mLeft->outRanks(*this)`, false for no child. -/
def childOutRanks (ranks : α → α → Int) (top : α) : LocHeapNode α → Bool
  | .null => false
  | .node _ data _ _ => outRanks ranks data top

def checkNodes (ranks : α → α → Int) : LocHeapNode α → Bool
  | .null => true
  | .node size top left right =>
    if left.childOutRanks ranks top || !left.checkNodes ranks then false
    else if right.childOutRanks ranks top || !right.checkNodes ranks then false
    else size - left.mSize - right.mSize == 1

end LocHeapNode

structure LocHeap (α : Type u) where
  mTree : LocHeapNode α
deriving Repr, DecidableEq

namespace LocHeap

def empty : LocHeap α := ⟨.null⟩

def push (ranks : α → α → Int) (heap : LocHeap α) (data : α) : LocHeap α :=
  ⟨heap.mTree.push ranks data⟩

def peek (heap : LocHeap α) : Option α :=
  match heap.mTree with
  | .null => none
  | .node _ data _ _ => some data

def pop (ranks : α → α → Int) (heap : LocHeap α) : LocHeap α × Option α :=
  match heap.mTree with
  | .null => (heap, none)
  | .node size data left right =>
    let popped := LocHeapNode.pop ranks data (.node size data left right)
    (⟨popped.1⟩, some popped.2)

def remove [DecidableEq α] (ranks : α → α → Int) (heap : LocHeap α) (data : α) :
    LocHeap α × Option α :=
  let removed := heap.mTree.remove ranks data
  (⟨removed.1⟩, removed.2)

def checkTree (ranks : α → α → Int) (heap : LocHeap α) : Bool := heap.mTree.checkNodes ranks

/-- One call on the heap and what it returns. -/
def apply [DecidableEq α] (ranks : α → α → Int) (heap : LocHeap α) :
    PqOp α → LocHeap α × Option α
  | .push data => (heap.push ranks data, none)
  | .pop => heap.pop ranks
  | .remove data => heap.remove ranks data

end LocHeap

/-- Of any two objects one does not outrank the other, and what does not outrank an object does not
outrank anything that this object does not outrank. -/
structure TotalPreorder (ranks : α → α → Int) : Prop where
  total : ∀ a b, outRanks ranks a b = false ∨ outRanks ranks b a = false
  trans : ∀ a b c, outRanks ranks a b = false → outRanks ranks b c = false →
    outRanks ranks a c = false

end KiwiDevice.Gps

import KiwiDevice.Gps.HeapOrder
import KiwiDevice.Gps.LocTimer
import KiwiDevice.Lib.Steps
import Mathlib.Algebra.Order.Group.Multiset

/-!
# The heap of a container and its timer

Every call on a heap refines a step of the abstract priority queue of its objects. Each message to a
container either leaves the timer fd alone or arms it with the deadline of the new head.
-/

namespace KiwiDevice.Gps

open Lib

universe u

/-! ### The heap is a priority queue -/

section

variable {α : Type u} {ranks : α → α → Int}

theorem LocHeapNode.IsHeap.childOutRanks {t : LocHeapNode α} {top : α}
    (hTops : Tops ranks top t.stored) : t.childOutRanks ranks top = false := by
  cases t with
  | null => rfl
  | node size data left right => exact hTops data (Multiset.mem_cons_self data _)

theorem LocHeapNode.IsHeap.checkNodes {t : LocHeapNode α} (h : IsHeap ranks t) :
    t.checkNodes ranks = true := by
  induction h with
  | null => rfl
  | @node size data left right hTops hSize hLeft hRight ihLeft ihRight =>
    have hTopsLeft := IsHeap.childOutRanks (hTops.subset (Multiset.subset_of_le
      (Multiset.le_add_right left.stored right.stored)))
    have hTopsRight := IsHeap.childOutRanks (hTops.subset (Multiset.subset_of_le
      (Multiset.le_add_left right.stored left.stored)))
    rw [LocHeapNode.checkNodes, hTopsLeft, hTopsRight, ihLeft, ihRight, hSize, hLeft.mSize,
      hRight.mSize, Multiset.card_add]
    simp only [Bool.not_true, Bool.or_self, Bool.false_eq_true, if_false, beq_iff_eq]
    omega

namespace LocHeap

def stored (heap : LocHeap α) : Multiset α := heap.mTree.stored

def IsHeap (ranks : α → α → Int) (heap : LocHeap α) : Prop := heap.mTree.IsHeap ranks

variable [DecidableEq α]

/-- One call on the heap, with the object that it returns. -/
def Step (ranks : α → α → Int) (heap : LocHeap α) (op : PqOp α) (out : List α)
    (heap' : LocHeap α) : Prop :=
  heap' = (heap.apply ranks op).1 ∧ out = (heap.apply ranks op).2.toList

theorem apply_refines (hRanks : TotalPreorder ranks) {heap : LocHeap α} (h : heap.IsHeap ranks)
    (op : PqOp α) :
    (heap.apply ranks op).1.IsHeap ranks ∧
      PqStep (fun a b => outRanks ranks a b = true) heap.stored op (heap.apply ranks op).2
        (heap.apply ranks op).1.stored := by
  obtain ⟨t⟩ := heap
  cases op with
  | push data =>
    refine ⟨LocHeapNode.IsHeap.push hRanks h, ?_⟩
    rw [show (LocHeap.apply ranks ⟨t⟩ (.push data)).1.stored = data ::ₘ t.stored from
      LocHeapNode.stored_push data t]
    exact .push t.stored data
  | pop =>
    cases t with
    | null => exact ⟨.null, .popEmpty⟩
    | node size data left right =>
      obtain ⟨hStored, hData⟩ := LocHeapNode.pop_moves hRanks data (.node size data left right)
      refine ⟨LocHeapNode.IsHeap.pop hRanks h, ?_⟩
      have hErase : (LocHeap.apply ranks ⟨.node size data left right⟩ .pop).1.stored =
          (LocHeapNode.node size data left right).stored.erase data := by
        rw [LocHeapNode.stored_node, Multiset.erase_cons_head]
        exact hStored
      have hOut : (LocHeap.apply ranks ⟨.node size data left right⟩ .pop).2 = some data :=
        congrArg some hData
      rw [hErase, hOut]
      refine .pop (Multiset.mem_cons_self data _) fun y hy => ?_
      rw [LocHeapNode.IsHeap.tops hRanks h y hy]
      exact Bool.false_ne_true
  | remove data =>
    by_cases hMem : data ∈ t.stored
    · obtain ⟨hFound, hStored, hHeap⟩ := LocHeapNode.IsHeap.remove hRanks h hMem
      refine ⟨hHeap, ?_⟩
      rw [show (LocHeap.apply ranks ⟨t⟩ (.remove data)).2 = some data from hFound,
        show (LocHeap.apply ranks ⟨t⟩ (.remove data)).1.stored = t.stored.erase data from hStored]
      exact .remove hMem
    · have hSame : LocHeap.apply ranks ⟨t⟩ (.remove data) = (⟨t⟩, none) := by
        rw [LocHeap.apply, LocHeap.remove, LocHeapNode.remove_of_notMem hMem]
      rw [hSame]
      exact ⟨h, .removeMissing hMem⟩

theorem run_isHeap (hRanks : TotalPreorder ranks) {ops : List (PqOp α)} {out : List α}
    {heap : LocHeap α} (run : Steps (Step ranks) anyStep empty ops out heap) :
    heap.IsHeap ranks := by
  refine run.invariant .null ?_
  rintro _ _ heap op _ heap' _ hHeap ⟨rfl, rfl⟩
  exact (apply_refines hRanks hHeap op).1

theorem run_account (hRanks : TotalPreorder ranks) {ops : List (PqOp α)} {out : List α}
    {heap : LocHeap α} (run : Steps (Step ranks) anyStep empty ops out heap) :
    heap.stored + (out : Multiset α) = (ops.flatMap PqOp.pushed : Multiset α) := by
  have hBoth := run.history (I := fun ops out heap => heap.IsHeap ranks ∧
    heap.stored + (out : Multiset α) = (ops.flatMap PqOp.pushed : Multiset α)) ⟨.null, rfl⟩ ?_
  · exact hBoth.2
  · rintro ops out heap op _ heap' _ ⟨hHeap, hAccount⟩ ⟨rfl, rfl⟩
    obtain ⟨hHeap', hStep⟩ := apply_refines hRanks hHeap op
    refine ⟨hHeap', ?_⟩
    calc (heap.apply ranks op).1.stored + ((out ++ (heap.apply ranks op).2.toList : List α) :
            Multiset α)
        = (heap.apply ranks op).1.stored + ((heap.apply ranks op).2.toList : Multiset α) +
            (out : Multiset α) := by
          rw [← Multiset.coe_add, Multiset.add_comm (out : Multiset α), Multiset.add_assoc]
      _ = heap.stored + (out : Multiset α) + (op.pushed : Multiset α) := by
          rw [hStep.account, add_right_comm]
      _ = ((ops ++ [op]).flatMap PqOp.pushed : Multiset α) := by
          rw [hAccount, Multiset.coe_add, List.flatMap_append, List.flatMap_singleton]

end LocHeap

/-- After any calls on a heap that was empty, for any total preorder: the tree passes its own check,
nothing below a node outranks it and its size counts its subtree; what is stored is what was pushed
less what came out; a pop gives back an object that nothing left outranks; and a removal gives back
the very object when it is stored, and changes nothing otherwise. -/
theorem locHeap_isPriorityQueue [DecidableEq α] (hRanks : TotalPreorder ranks)
    {ops : List (PqOp α)} {out : List α} {heap : LocHeap α}
    (run : Steps (LocHeap.Step ranks) anyStep LocHeap.empty ops out heap) :
    heap.checkTree ranks = true ∧ heap.IsHeap ranks ∧
      heap.stored + (out : Multiset α) = (ops.flatMap PqOp.pushed : Multiset α) ∧
      ((heap.pop ranks).2 = none ↔ heap.stored = 0) ∧
      (∀ x, (heap.pop ranks).2 = some x → x ∈ heap.stored ∧
        (heap.pop ranks).1.stored = heap.stored.erase x ∧
        ∀ y ∈ (heap.pop ranks).1.stored, outRanks ranks y x = false) ∧
      ∀ x, (x ∈ heap.stored → (heap.remove ranks x).2 = some x ∧
          (heap.remove ranks x).1.stored = heap.stored.erase x) ∧
        (x ∉ heap.stored → heap.remove ranks x = (heap, none)) := by
  have hHeap := LocHeap.run_isHeap hRanks run
  have hPop := (LocHeap.apply_refines hRanks hHeap .pop).2
  refine ⟨LocHeapNode.IsHeap.checkNodes hHeap, hHeap, LocHeap.run_account hRanks run,
    hPop.pop_eq_none_iff, ?_, ?_⟩
  · intro x hx
    change (heap.apply ranks .pop).2 = some x at hx
    rw [hx] at hPop
    obtain ⟨hMem, hErase, hMax⟩ := hPop.pop_max
    exact ⟨hMem, hErase, fun y hy => Bool.eq_false_of_not_eq_true (hMax y hy)⟩
  · intro x
    constructor
    · exact fun hMem => (LocHeap.apply_refines hRanks hHeap (.remove x)).2.remove_of_mem hMem
    · intro hMem
      rw [LocHeap.remove, LocHeapNode.remove_of_notMem hMem]

end

/-- The objects of the command line test, each with its address. -/
structure LocHeapDebugData where
  address : Nat
  mID : Int
deriving Repr, DecidableEq

def LocHeapDebugData.ranks (data rankable : LocHeapDebugData) : Int := rankable.mID - data.mID

theorem LocHeapDebugData.totalPreorder : TotalPreorder LocHeapDebugData.ranks where
  total a b := by
    rw [outRanks_eq_false, outRanks_eq_false, LocHeapDebugData.ranks, LocHeapDebugData.ranks]
    omega
  trans a b c := by
    simp only [outRanks_eq_false, LocHeapDebugData.ranks]
    omega

/-- Three objects of one rank under an object of a higher rank, a pop and a removal. -/
def debugOps : List (PqOp LocHeapDebugData) :=
  [.push ⟨1, 5⟩, .push ⟨2, 5⟩, .push ⟨3, 2⟩, .push ⟨4, 5⟩, .pop, .remove ⟨4, 5⟩, .remove ⟨9, 5⟩]

theorem locHeap_isPriorityQueue_debugData :
    ∃ heap : LocHeap LocHeapDebugData,
      heap.checkTree LocHeapDebugData.ranks = true ∧
        heap.stored + ([⟨3, 2⟩, ⟨4, 5⟩] : List LocHeapDebugData) =
          (debugOps.flatMap PqOp.pushed : Multiset LocHeapDebugData) := by
  obtain ⟨⟨heap, out⟩, hRun, hOut⟩ := Option.map_eq_some_iff.mp (show
    (Lib.exec (fun _ _ heap op => some ((heap.apply LocHeapDebugData.ranks op).1,
      (heap.apply LocHeapDebugData.ranks op).2.toList)) [] [] LocHeap.empty debugOps).map Prod.snd =
        some [⟨3, 2⟩, ⟨4, 5⟩] by decide +kernel)
  have run := Steps.of_exec (LocHeap.Step LocHeapDebugData.ranks) anyStep (by
    rintro op _ _ _ heap _ _ ⟨⟩
    exact ⟨⟨rfl, rfl⟩, trivial⟩) hRun
  obtain ⟨hCheck, _, hAccount, _⟩ := locHeap_isPriorityQueue LocHeapDebugData.totalPreorder run
  exact ⟨heap, hCheck, hOut ▸ hAccount⟩

/-! ### What a message does to a container -/

section

variable {α : Type u} {ranks : α → α → Int}

namespace LocHeap

theorem peek_eq_none_iff {heap : LocHeap α} : heap.peek = none ↔ heap.stored = 0 := by
  obtain ⟨t⟩ := heap
  cases t with
  | null => exact ⟨fun _ => rfl, fun _ => rfl⟩
  | node size data left right =>
    constructor
    · intro h
      cases h
    · exact fun h => absurd h (Multiset.cons_ne_zero)

theorem mem_of_peek {heap : LocHeap α} {top : α} (h : heap.peek = some top) :
    top ∈ heap.stored := by
  obtain ⟨t⟩ := heap
  cases t with
  | null => cases h
  | node size data left right =>
    cases h
    exact Multiset.mem_cons_self top _

theorem IsHeap.tops_peek (hRanks : TotalPreorder ranks) {heap : LocHeap α} {top : α}
    (hHeap : heap.IsHeap ranks) (h : heap.peek = some top) :
    LocHeapNode.Tops ranks top heap.stored := by
  obtain ⟨t⟩ := heap
  cases t with
  | null => cases h
  | node size data left right =>
    cases h
    exact LocHeapNode.IsHeap.tops hRanks hHeap

theorem peek_push (ranks : α → α → Int) (heap : LocHeap α) (data : α) :
    (∃ top, heap.peek = some top ∧ outRanks ranks data top = false ∧
        (heap.push ranks data).peek = some top) ∨
      (∀ top, heap.peek = some top → outRanks ranks data top = true) ∧
        (heap.push ranks data).peek = some data := by
  obtain ⟨t⟩ := heap
  cases t with
  | null =>
    right
    refine ⟨?_, rfl⟩
    rintro top ⟨⟩
  | node size top left right =>
    obtain ⟨top', data', hSwap, hPush⟩ := LocHeapNode.push_node ranks data size top left right
    have hHead : ((LocHeap.mk (.node size top left right)).push ranks data).peek = some top' := by
      rw [LocHeap.push]
      obtain hPush | hPush := hPush <;> rw [hPush] <;> rfl
    obtain ⟨rfl, rfl, hNot⟩ | ⟨rfl, rfl, hOut⟩ := hSwap
    · exact .inl ⟨top', rfl, hNot, hHead⟩
    · right
      refine ⟨?_, hHead⟩
      rintro top ⟨⟩
      exact hOut

theorem pop_snd (hRanks : TotalPreorder ranks) (heap : LocHeap α) :
    (heap.pop ranks).2 = heap.peek := by
  obtain ⟨t⟩ := heap
  cases t with
  | null => rfl
  | node size data left right => exact congrArg some (LocHeapNode.pop_moves hRanks data _).2

variable [DecidableEq α]

theorem peek_remove_of_ne {heap : LocHeap α} {top data : α} (h : heap.peek = some top)
    (hNe : data ≠ top) : (heap.remove ranks data).1.peek = some top := by
  obtain ⟨t⟩ := heap
  cases t with
  | null => cases h
  | node size head left right =>
    cases h
    rw [LocHeap.remove, LocHeapNode.remove, if_neg hNe]
    split <;> rfl

theorem remove_empty {heap : LocHeap α} (h : heap.peek = none) (data : α) :
    heap.remove ranks data = (heap, none) := by
  obtain ⟨t⟩ := heap
  cases t with
  | null => rfl
  | node size head left right => cases h

theorem remove_snd (hRanks : TotalPreorder ranks) {heap : LocHeap α} (hHeap : heap.IsHeap ranks)
    (data : α) : (heap.remove ranks data).2 = none ∨ (heap.remove ranks data).2 = some data := by
  by_cases hMem : data ∈ heap.stored
  · exact .inr (LocHeapNode.IsHeap.remove hRanks hHeap hMem).1
  · left
    rw [LocHeap.remove, LocHeapNode.remove_of_notMem hMem]

end LocHeap

end

theorem Timespec.totalPreorder : TotalPreorder Timespec.ranks where
  total a b := by
    simp only [outRanks_eq_false, Timespec.ranks]
    omega
  trans a b c := by
    simp only [outRanks_eq_false, Timespec.ranks]
    omega

theorem LocTimerDelegate.totalPreorder : TotalPreorder LocTimerDelegate.ranks where
  total a b := Timespec.totalPreorder.total a.mFutureTime b.mFutureTime
  trans a b c := Timespec.totalPreorder.trans a.mFutureTime b.mFutureTime c.mFutureTime

namespace LocTimerContainer

variable {c : LocTimerContainer} {timer top : LocTimerDelegate}

/-- The container with its fd armed for a timer. -/
def armed (heap : LocHeap LocTimerDelegate) (timer : LocTimerDelegate) : LocTimerContainer where
  heap
  itValue := some timer.mFutureTime
  polled := true

theorem updateSoonestTime_same {priorTop : Option LocTimerDelegate} (h : c.heap.peek = priorTop) :
    c.updateSoonestTime priorTop = c := by
  simp only [updateSoonestTime, getSoonestTimer, h, if_true]

theorem updateSoonestTime_force (h : c.heap.peek = some top) :
    c.updateSoonestTime none = armed c.heap top := by
  simp only [updateSoonestTime, getSoonestTimer, h, reduceCtorEq, if_false, armed]

theorem updateSoonestTime_outRanks {prior : LocTimerDelegate} (h : c.heap.peek = some top)
    (hOut : outRanks LocTimerDelegate.ranks top prior = true) :
    c.updateSoonestTime (some prior) = armed c.heap top := by
  have hNe : ¬some top = some prior := by
    rintro ⟨⟩
    rw [LocTimerDelegate.totalPreorder.irrefl] at hOut
    cases hOut
  simp only [updateSoonestTime, getSoonestTimer, h, hNe, if_false, hOut, if_true, armed]

theorem updateSoonestTime_none (c : LocTimerContainer) :
    c.heap.peek = none ∧ c.updateSoonestTime none = c ∨
      ∃ top, c.heap.peek = some top ∧ c.updateSoonestTime none = armed c.heap top := by
  cases hPeek : c.heap.peek with
  | none => exact .inl ⟨rfl, updateSoonestTime_same hPeek⟩
  | some top => exact .inr ⟨top, rfl, updateSoonestTime_force hPeek⟩

theorem procPush_cases (c : LocTimerContainer) (timer : LocTimerDelegate) :
    (∃ top, c.heap.peek = some top ∧ outRanks LocTimerDelegate.ranks timer top = false ∧
        (c.heap.push LocTimerDelegate.ranks timer).peek = some top ∧
        c.procPush timer = { c with heap := c.heap.push LocTimerDelegate.ranks timer }) ∨
      (∀ top, c.heap.peek = some top → outRanks LocTimerDelegate.ranks timer top = true) ∧
        (c.heap.push LocTimerDelegate.ranks timer).peek = some timer ∧
        c.procPush timer = armed (c.heap.push LocTimerDelegate.ranks timer) timer := by
  obtain ⟨top, hTop, hNot, hPeek⟩ | ⟨hOut, hPeek⟩ :=
    LocHeap.peek_push LocTimerDelegate.ranks c.heap timer
  · left
    refine ⟨top, hTop, hNot, hPeek, updateSoonestTime_same ?_⟩
    exact hPeek.trans hTop.symm
  · right
    refine ⟨hOut, hPeek, ?_⟩
    rw [procPush, getSoonestTimer]
    cases hTop : c.heap.peek with
    | none => exact updateSoonestTime_force hPeek
    | some top => exact updateSoonestTime_outRanks hPeek (hOut top hTop)

theorem procRemove_cases (timer : LocTimerDelegate)
    (hHeap : c.heap.IsHeap LocTimerDelegate.ranks) :
    c.heap.peek = none ∧ c.procRemove timer = c ∨
      (∃ top, c.heap.peek = some top ∧ timer ≠ top ∧
        (c.heap.remove LocTimerDelegate.ranks timer).1.peek = some top ∧
        c.procRemove timer =
          { c with heap := (c.heap.remove LocTimerDelegate.ranks timer).1 }) ∨
      c.heap.peek = some timer ∧
        c.procRemove timer =
          ({ c with heap := (c.heap.remove LocTimerDelegate.ranks timer).1 } :
            LocTimerContainer).updateSoonestTime none := by
  rw [procRemove, getSoonestTimer]
  cases hPeek : c.heap.peek with
  | none =>
    left
    rw [LocHeap.remove_empty hPeek timer]
    exact ⟨rfl, (if_pos rfl).trans (updateSoonestTime_same hPeek)⟩
  | some top =>
    right
    by_cases hTop : timer = top
    · right
      have hFound := (LocHeapNode.IsHeap.remove LocTimerDelegate.totalPreorder hHeap
        (LocHeap.mem_of_peek hPeek)).1
      refine ⟨congrArg some hTop.symm, if_pos ?_⟩
      rw [hTop]
      exact hFound.symm
    · left
      refine ⟨top, rfl, hTop, LocHeap.peek_remove_of_ne hPeek hTop, if_neg ?_⟩
      obtain hGone | hFound := LocHeap.remove_snd LocTimerDelegate.totalPreorder hHeap timer
      · rw [hGone]
        nofun
      · rw [hFound]
        exact fun hSame => hTop (Option.some.inj hSame).symm

theorem pop_cases (c : LocTimerContainer) :
    c.heap.peek = none ∧ c.pop = (c, none) ∨
      ∃ top, c.heap.peek = some top ∧
        c.pop = ({ c with heap := (c.heap.pop LocTimerDelegate.ranks).1 }, some top) := by
  have hPopped := LocHeap.pop_snd LocTimerDelegate.totalPreorder c.heap
  cases hPeek : c.heap.peek with
  | none =>
    left
    refine ⟨rfl, ?_⟩
    obtain ⟨⟨t⟩, itValue, polled⟩ := c
    cases t with
    | null => rfl
    | node size data left right => cases hPeek
  | some top =>
    right
    refine ⟨top, rfl, ?_⟩
    rw [pop, hPopped, hPeek]

theorem popIfOutRanks_cases (c : LocTimerContainer) (now : Timespec) :
    c.heap.peek = none ∧ c.popIfOutRanks now = (c, none) ∨
      (∃ top, c.heap.peek = some top ∧ c.popIfOutRanks now = (c, none)) ∨
      ∃ top, c.heap.peek = some top ∧ top.mFutureTime.tvSec ≤ now.tvSec ∧
        c.popIfOutRanks now =
          ({ c with heap := (c.heap.pop LocTimerDelegate.ranks).1 }, some top) := by
  rw [popIfOutRanks]
  obtain ⟨hPeek, _⟩ | ⟨top, hPeek, hPop⟩ := c.pop_cases
  · left
    rw [hPeek]
    exact ⟨rfl, rfl⟩
  · right
    rw [hPeek]
    by_cases hOut : outRanks Timespec.ranks now top.mFutureTime = true
    · exact .inl ⟨top, rfl, if_pos hOut⟩
    · right
      refine ⟨top, rfl, ?_, (if_neg hOut).trans hPop⟩
      have hRanks := outRanks_eq_false.mp (Bool.eq_false_of_not_eq_true hOut)
      rw [Timespec.ranks] at hRanks
      omega

theorem updateSoonestTime_heap (c : LocTimerContainer) :
    (c.updateSoonestTime none).heap = c.heap := by
  obtain ⟨_, hEq⟩ | ⟨top, _, hEq⟩ := c.updateSoonestTime_none <;> rw [hEq]
  rfl

theorem procPush_heap (c : LocTimerContainer) (timer : LocTimerDelegate) :
    (c.procPush timer).heap = c.heap.push LocTimerDelegate.ranks timer := by
  obtain ⟨_, _, _, _, hEq⟩ | ⟨_, _, hEq⟩ := c.procPush_cases timer <;> rw [hEq]
  rfl

theorem procRemove_heap (hHeap : c.heap.IsHeap LocTimerDelegate.ranks) :
    (c.procRemove timer).heap = (c.heap.remove LocTimerDelegate.ranks timer).1 := by
  obtain ⟨hPeek, hEq⟩ | ⟨_, _, _, _, hEq⟩ | ⟨_, hEq⟩ := procRemove_cases timer hHeap
  · rw [hEq, LocHeap.remove_empty hPeek]
  · rw [hEq]
  · rw [hEq, updateSoonestTime_heap]

end LocTimerContainer

end KiwiDevice.Gps

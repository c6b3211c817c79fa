import KiwiDevice.Lib.Loop
import Mathlib.Data.List.Induction
import Mathlib.Data.List.Nodup

/-!
# The doubly linked list

`linked_list_add` puts an element at the head, `linked_list_remove` takes the one at the tail. An
access to a freed element gives `none`; `linked_list_flush` does not get past one.
-/

namespace KiwiDevice.Gps

universe u

inductive LinkedListErr where
  | success
  | failureGeneral
  | invalidParameter
  | invalidHandle
  | unavailableResource
  | insufficientBuffer
  deriving DecidableEq, Repr

/-- Of the deallocation function it matters whether there is one. -/
structure ListElement (α : Type u) where
  next : Option Nat
  prev : Option Nat
  dataPtr : α
  deallocFunc : Bool

structure ListState (α : Type u) where
  cell : Nat → Option (ListElement α)
  pHead : Option Nat
  pTail : Option Nat

/-- The local state of the loop of `linked_list_flush`, and the elements freed so far. -/
structure ListFlush (α : Type u) where
  list : ListState α
  freed : List (α × Bool)

/-- An element of the list at its address. -/
structure Linked (α : Type u) where
  addr : Nat
  dataPtr : α
  deallocFunc : Bool

namespace ListState

variable {α : Type u}

def linkedListInit : ListState α := ⟨fun _ => none, none, none⟩

def setCell (s : ListState α) (a : Nat) (e : Option (ListElement α)) : ListState α :=
  { s with cell := fun b => if b = a then e else s.cell b }

def modifyCell (s : ListState α) (a : Nat) (f : ListElement α → ListElement α) :
    Option (ListState α) :=
  (s.cell a).map fun e => s.setCell a (some (f e))

/-- `malloc` gives `elem`. -/
def linkedListAdd (s : ListState α) (elem : Option Nat) (dataObj : Option α) (dealloc : Bool) :
    Option (LinkedListErr × ListState α) :=
  match dataObj, elem with
  | none, _ => some (.invalidParameter, s)
  | some _, none => some (.failureGeneral, s)
  | some data, some a =>
    let s' := { s.setCell a (some ⟨s.pHead, none, data, dealloc⟩) with pHead := some a }
    match s.pHead with
    | some tmp => (s'.modifyCell tmp fun e => { e with prev := some a }).map fun s => (.success, s)
    | none => some (.success, { s' with pTail := some a })

def linkedListRemove (s : ListState α) : Option (LinkedListErr × Option α × ListState α) :=
  match s.pTail with
  | none => some (.unavailableResource, none, s)
  | some t =>
    (s.cell t).bind fun tmp =>
      let s' := { s with pTail := tmp.prev }
      let unlinked :=
        match tmp.prev with
        | some p => s'.modifyCell p fun e => { e with next := none }
        | none => some { s' with pHead := none }
      unlinked.map fun s => (.success, some tmp.dataPtr, s.setCell t none)

def linkedListEmpty (s : ListState α) : Bool := s.pHead.isNone

def flushPass (f : ListFlush α) : Option (ListFlush α) :=
  match f.list.pHead with
  | none => none
  | some h =>
    match f.list.cell h with
    | none => some f
    | some e =>
      some ⟨{ f.list.setCell h none with pHead := e.next }, f.freed ++ [(e.dataPtr, e.deallocFunc)]⟩

/-- `linked_list_flush` frees the elements `freed`, in this order. -/
def LinkedListFlush (s : ListState α) (freed : List (α × Bool)) (s' : ListState α) : Prop :=
  ∃ r : ListFlush α, Lib.Loop.Exits flushPass ⟨s, []⟩ r ∧ freed = r.freed ∧
    s' = { r.list with pTail := none }

def first (l : List (Linked α)) : Option Nat := l.head?.map Linked.addr

def last (l : List (Linked α)) : Option Nat := l.getLast?.map Linked.addr

/-- The elements are linked to each other, to `p` in front and to `n` behind. -/
def Chain (cell : Nat → Option (ListElement α)) (p : Option Nat) (l : List (Linked α))
    (n : Option Nat) : Prop :=
  match l with
  | [] => True
  | x :: l =>
    cell x.addr = some ⟨(first l).or n, p, x.dataPtr, x.deallocFunc⟩ ∧ Chain cell (some x.addr) l n

structure Holds (s : ListState α) (l : List (Linked α)) : Prop where
  nodup : (l.map Linked.addr).Nodup
  head : s.pHead = first l
  tail : s.pTail = last l
  chain : Chain s.cell none l none

variable {s s' : ListState α} {l front back : List (Linked α)} {x : Linked α}
  {cell cell' : Nat → Option (ListElement α)} {p n : Option Nat} {a : Nat}

@[simp] theorem first_nil : first ([] : List (Linked α)) = none := rfl

@[simp] theorem first_cons : first (x :: l) = some x.addr := rfl

@[simp] theorem last_nil : last ([] : List (Linked α)) = none := rfl

@[simp] theorem last_snoc : last (l ++ [x]) = some x.addr := by
  simp [last]

theorem last_cons : last (x :: l) = (last l).or (some x.addr) := by
  induction l using List.reverseRecOn with
  | nil => rfl
  | append_singleton l y _ => rw [← List.cons_append, last_snoc, last_snoc, Option.some_or]

theorem first_append : first (front ++ back) = (first front).or (first back) := by
  cases front with
  | nil => simp
  | cons x front => simp

theorem Chain.congr (h : Chain cell p l n) (hCell : ∀ y ∈ l, cell' y.addr = cell y.addr) :
    Chain cell' p l n := by
  induction l generalizing p with
  | nil => exact trivial
  | cons x l ih =>
    obtain ⟨hHead, hRest⟩ := h
    constructor
    · rw [hCell x List.mem_cons_self, hHead]
    · exact ih hRest fun y hy => hCell y (List.mem_cons_of_mem x hy)

theorem chain_append : Chain cell p (front ++ back) n ↔
    Chain cell p front ((first back).or n) ∧ Chain cell ((last front).or p) back n := by
  induction front generalizing p with
  | nil => simp [Chain]
  | cons x front ih =>
    rw [List.cons_append, Chain, Chain, ih, first_append, last_cons, Option.or_assoc, and_assoc]
    cases hLast : last front <;> simp

theorem setCell_self (s : ListState α) (a : Nat) (e : Option (ListElement α)) :
    (s.setCell a e).cell a = e :=
  if_pos rfl

theorem setCell_ne {b : Nat} (h : b ≠ a) (e : Option (ListElement α)) :
    (s.setCell a e).cell b = s.cell b :=
  if_neg h

theorem Chain.setCell (h : Chain s.cell p l n) (ha : a ∉ l.map Linked.addr)
    (e : Option (ListElement α)) : Chain (s.setCell a e).cell p l n :=
  h.congr fun y hy => setCell_ne (fun hEq => ha (List.mem_map.mpr ⟨y, hy, hEq⟩)) e

theorem Chain.notMem (h : Chain cell p l n) (ha : cell a = none) : a ∉ l.map Linked.addr := by
  induction l generalizing p with
  | nil => simp
  | cons x l ih =>
    obtain ⟨hHead, hRest⟩ := h
    have hNe : a ≠ x.addr := by
      rintro rfl
      rw [hHead] at ha
      cases ha
    simp only [List.map_cons, List.mem_cons, not_or]
    exact ⟨hNe, ih hRest⟩

theorem holds_init : Holds (linkedListInit : ListState α) [] := by
  constructor
  · exact List.nodup_nil
  · rfl
  · rfl
  · exact trivial

theorem add_first (h : s.pHead = none) (data : α) (dealloc : Bool) :
    s.linkedListAdd (some a) (some data) dealloc =
      some (.success, { s.setCell a (some ⟨none, none, data, dealloc⟩) with
        pHead := some a
        pTail := some a }) := by
  simp only [linkedListAdd, h]

theorem add_before {h : Nat} {e : ListElement α} (hHead : s.pHead = some h)
    (hCell : s.cell h = some e)
    (hNe : h ≠ a) (data : α) (dealloc : Bool) :
    s.linkedListAdd (some a) (some data) dealloc =
      some (.success, ({ s.setCell a (some ⟨some h, none, data, dealloc⟩) with
        pHead := some a } : ListState α).setCell h (some { e with prev := some a })) := by
  have hOld := (setCell_ne hNe (some ⟨some h, none, data, dealloc⟩)).trans hCell
  simp only [linkedListAdd, hHead, modifyCell, hOld, Option.map_some]

theorem remove_only {t : Nat} {e : ListElement α} (hTail : s.pTail = some t)
    (hCell : s.cell t = some e)
    (hPrev : e.prev = none) :
    s.linkedListRemove = some (.success, some e.dataPtr,
      ({ s with pHead := none, pTail := none } : ListState α).setCell t none) := by
  simp only [linkedListRemove, hTail, hCell, Option.bind_some, hPrev, Option.map_some]

theorem remove_after {t b : Nat} {e e' : ListElement α} (hTail : s.pTail = some t)
    (hCell : s.cell t = some e) (hPrev : e.prev = some b) (hBefore : s.cell b = some e') :
    s.linkedListRemove = some (.success, some e.dataPtr,
      (({ s with pTail := some b } : ListState α).setCell b
        (some { e' with next := none })).setCell t none) := by
  simp only [linkedListRemove, hTail, hCell, Option.bind_some, hPrev, modifyCell, hBefore,
    Option.map_some]

/-- `linked_list_add` with memory for the element. -/
theorem add_holds (h : Holds s l) (hFresh : s.cell a = none) (data : α) (dealloc : Bool) :
    ∃ s', s.linkedListAdd (some a) (some data) dealloc = some (.success, s') ∧
      Holds s' (⟨a, data, dealloc⟩ :: l) := by
  have hNotMem := h.chain.notMem hFresh
  have hNodup : ((⟨a, data, dealloc⟩ :: l).map Linked.addr).Nodup :=
    List.nodup_cons.mpr ⟨hNotMem, h.nodup⟩
  cases l with
  | nil =>
    refine ⟨_, add_first h.head data dealloc, ?_⟩
    constructor
    · exact hNodup
    · rfl
    · rfl
    · exact ⟨setCell_self s a _, trivial⟩
  | cons x l =>
    simp only [List.map_cons, List.mem_cons, not_or] at hNotMem
    obtain ⟨hNe, hNotTail⟩ := hNotMem
    obtain ⟨hCell, hRest⟩ := h.chain
    refine ⟨_, add_before h.head hCell (Ne.symm hNe) data dealloc, ?_⟩
    constructor
    · exact hNodup
    · rfl
    · have hTail : s.pTail = last (x :: l) := h.tail
      rw [last_cons, last_cons, Option.or_assoc, Option.some_or, ← last_cons]
      exact hTail
    · refine ⟨?_, ?_, ?_⟩
      · rw [setCell_ne hNe]
        exact setCell_self s a _
      · exact setCell_self _ x.addr _
      · apply Chain.setCell
        · exact hRest.setCell hNotTail _
        · exact (List.nodup_cons.mp h.nodup).1

theorem remove_nil (h : Holds s []) :
    s.linkedListRemove = some (.unavailableResource, none, s) := by
  have hTail : s.pTail = none := h.tail
  rw [linkedListRemove, hTail]

theorem nodup_snoc (h : ((l ++ [x]).map Linked.addr).Nodup) :
    (l.map Linked.addr).Nodup ∧ x.addr ∉ l.map Linked.addr := by
  rw [List.map_append, List.nodup_append] at h
  obtain ⟨hNodup, -, hDisjoint⟩ := h
  exact ⟨hNodup, fun hMem => hDisjoint _ hMem x.addr List.mem_cons_self rfl⟩

theorem remove_holds (h : Holds s (l ++ [x])) :
    ∃ s', s.linkedListRemove = some (.success, some x.dataPtr, s') ∧ Holds s' l := by
  have hTail : s.pTail = some x.addr := h.tail.trans last_snoc
  have hHead : s.pHead = (first l).or (some x.addr) := h.head.trans first_append
  obtain ⟨hNodup, hNotMem⟩ := nodup_snoc h.nodup
  obtain ⟨hFront, hBack, -⟩ := chain_append.mp h.chain
  rw [Option.or_none] at hBack
  cases l using List.reverseRecOn with
  | nil =>
    refine ⟨_, remove_only hTail hBack rfl, ?_⟩
    constructor
    · exact List.nodup_nil
    · rfl
    · rfl
    · exact trivial
  | append_singleton l y =>
    obtain ⟨hInit, hLast, -⟩ := chain_append.mp hFront
    have hPrev : (last (l ++ [y])).or none = some y.addr := by
      rw [last_snoc, Option.or_none]
    refine ⟨_, remove_after hTail hBack hPrev hLast, ?_⟩
    constructor
    · exact hNodup
    · show s.pHead = _
      rw [hHead, first_append, Option.or_assoc]
      rfl
    · exact last_snoc.symm
    · apply Chain.setCell _ hNotMem
      apply chain_append.mpr
      constructor
      · exact hInit.setCell (nodup_snoc hNodup).2 _
      · exact ⟨setCell_self _ y.addr _, trivial⟩

/-- The loop frees the elements from the head on; what is behind the last one freed is not
looked at. -/
theorem flush_exits (l : List (Linked α)) {p : Option Nat} {f : ListFlush α}
    (hNodup : (l.map Linked.addr).Nodup) (hHead : f.list.pHead = first l)
    (hChain : Chain f.list.cell p l none) :
    ∃ r, Lib.Loop.Exits flushPass f r ∧ r.list.pHead = none ∧
      r.freed = f.freed ++ l.map fun x => (x.dataPtr, x.deallocFunc) := by
  induction l generalizing p f with
  | nil =>
    refine ⟨f, .done ?_, hHead, (List.append_nil f.freed).symm⟩
    rw [flushPass, hHead]
    rfl
  | cons x l ih =>
    obtain ⟨hCell, hRest⟩ := hChain
    obtain ⟨hNotMem, hNodup⟩ := List.nodup_cons.mp hNodup
    rw [Option.or_none] at hCell
    have hPass : flushPass f = some
        ⟨{ f.list.setCell x.addr none with pHead := first l },
          f.freed ++ [(x.dataPtr, x.deallocFunc)]⟩ := by
      rw [flushPass, hHead, first_cons]
      simp only [hCell]
    obtain ⟨r, hExits, hEnd, hFreed⟩ := ih
      (f := ⟨{ f.list.setCell x.addr none with pHead := first l },
        f.freed ++ [(x.dataPtr, x.deallocFunc)]⟩)
      hNodup rfl (hRest.setCell hNotMem none)
    refine ⟨r, .next hPass hExits, hEnd, ?_⟩
    rw [hFreed, List.append_assoc]
    rfl

theorem flush_holds (h : Holds s l) : ∃ s', LinkedListFlush s
    (l.map fun x => (x.dataPtr, x.deallocFunc)) s' := by
  obtain ⟨r, hExits, -, hFreed⟩ := flush_exits l (f := ⟨s, []⟩) h.nodup h.head h.chain
  exact ⟨_, r, hExits, hFreed.symm, rfl⟩

theorem holds_flush {freed : List (α × Bool)} (h : Holds s l)
    (hFlush : LinkedListFlush s freed s') :
    Holds s' [] ∧ freed = l.map fun x => (x.dataPtr, x.deallocFunc) := by
  obtain ⟨r, hExits, rfl, rfl⟩ := hFlush
  obtain ⟨r', hExits', hHead, hFreed⟩ := flush_exits l (f := ⟨s, []⟩) h.nodup h.head h.chain
  obtain rfl := hExits.unique hExits'
  constructor
  · constructor
    · exact List.nodup_nil
    · exact hHead
    · rfl
    · exact trivial
  · exact hFreed

theorem empty_iff (h : Holds s l) : s.linkedListEmpty = true ↔ l = [] := by
  rw [linkedListEmpty, h.head]
  cases l <;> simp

end ListState

end KiwiDevice.Gps

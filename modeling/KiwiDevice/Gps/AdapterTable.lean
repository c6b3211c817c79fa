import Mathlib.Data.List.Induction
import Mathlib.Data.List.Nodup
import Mathlib.Logic.Function.Basic

/-!
# The adapters of the location API

`LocApiBase` keeps its adapters in an array and goes through it up to the first free slot. An
adapter is put into the first free slot; where one is removed, the last one takes its place.
-/

namespace KiwiDevice.Gps

universe u

def maxAdapters : Nat := 10

abbrev Adapters (α : Type u) := Nat → Option α

/-- What the table asks of the modem's API: a message to open it with a mask, or the call
of `close`. -/
inductive ApiRequest where
  | openMsg (mask : UInt32)
  | close
  deriving DecidableEq, Repr

namespace Adapters

variable {α : Type u}

def empty : Adapters α := fun _ => none

def set (t : Adapters α) (i : Nat) (adapter : Option α) : Adapters α := Function.update t i adapter

/-- `TO_ALL_ADAPTERS`: the adapters on which the call is made, from slot `i` on. Each pass raises
`i`, so as many passes as there are slots are enough; so for the other loops. -/
def toAllFrom (t : Adapters α) : Nat → Nat → List α
  | 0, _ => []
  | n + 1, i =>
    if i < maxAdapters then
      match t i with
      | none => []
      | some adapter => adapter :: toAllFrom t n (i + 1)
    else []

def toAllAdapters (t : Adapters α) : List α := t.toAllFrom maxAdapters 0

/-- `TO_1ST_HANDLING_ADAPTER`, where `call` says which adapters handle it. -/
def toFirstFrom (call : α → Bool) (t : Adapters α) : Nat → Nat → List α
  | 0, _ => []
  | n + 1, i =>
    if i < maxAdapters then
      match t i with
      | none => []
      | some adapter => if call adapter then [adapter] else adapter :: toFirstFrom call t n (i + 1)
    else []

def toFirstHandlingAdapter (call : α → Bool) (t : Adapters α) :
    List α := t.toFirstFrom call maxAdapters 0

def getEvtMask (evtMask : α → UInt32) (mExcludedMask : UInt32) (t : Adapters α) : UInt32 :=
  t.toAllAdapters.foldl (fun mask adapter => mask ||| evtMask adapter) 0 &&& ~~~ mExcludedMask

/-- `while (++i < MAX_ADAPTERS && mLocAdapters[i] != NULL);` -/
def scan (t : Adapters α) : Nat → Nat → Nat
  | 0, i => i
  | n + 1, i => if i + 1 < maxAdapters ∧ t (i + 1) ≠ none then scan t n (i + 1) else i + 1

/-- The slot `j` is filled from the last one, `i`, which is cleared. -/
def fill (t : Adapters α) (j i : Nat) : Adapters α := (t.set j (t i)).set i none

/-- The table holds the adapters of a list, one after another from the first slot on. -/
structure Holds (t : Adapters α) (l : List α) : Prop where
  length_le : l.length ≤ maxAdapters
  slot : ∀ i < maxAdapters, t i = l[i]?

variable {t : Adapters α} {l p q : List α} {a b : α} {evtMask : α → UInt32} {mExcludedMask : UInt32}
  {n : Nat}

theorem empty_holds : Holds (empty : Adapters α) [] where
  length_le := Nat.zero_le maxAdapters
  slot := fun _ _ => rfl

@[simp] theorem set_self (t : Adapters α) (i : Nat) (o : Option α) : t.set i o i = o := by
  rw [set, Function.update_self]

theorem set_of_ne {i j : Nat} (h : j ≠ i) (t : Adapters α) (o : Option α) : t.set i o j = t j := by
  rw [set, Function.update_of_ne h]

theorem Holds.lt (h : Holds t (p ++ b :: q)) : p.length < maxAdapters := by
  have hLe := h.length_le
  simp at hLe
  omega

theorem Holds.next (h : Holds t (p ++ b :: q)) : t p.length = some b := by
  rw [h.slot _ h.lt]
  simp

theorem Holds.stop (h : Holds t p) (hLt : p.length < maxAdapters) : t p.length = none := by
  rw [h.slot _ hLt]
  simp

theorem Holds.toAllFrom (h : Holds t (p ++ q)) (hn : n + p.length = maxAdapters) :
    t.toAllFrom n p.length = q := by
  induction q generalizing p n with
  | nil =>
    rw [List.append_nil] at h
    cases n with
    | zero => rfl
    | succ n => simp [Adapters.toAllFrom, h.stop (by omega)]
  | cons b q ih =>
    have hLt := h.lt
    have hNext := h.next
    cases n with
    | zero => omega
    | succ n =>
      rw [List.append_cons] at h
      have hRest := ih (n := n) h (by simp; omega)
      rw [List.length_append] at hRest
      simpa [Adapters.toAllFrom, hLt, hNext] using hRest

theorem Holds.toAllAdapters (h : Holds t l) : t.toAllAdapters = l :=
  Holds.toAllFrom (p := []) h rfl

theorem Holds.toFirstFrom {call : α → Bool} (h : Holds t (p ++ q)) (hn : n + p.length = maxAdapters)
    (hCall : ∃ a ∈ q, call a = true) :
    ∃ before a, t.toFirstFrom call n p.length = before ++ [a] ∧ call a = true ∧
      ∀ b ∈ before, call b = false := by
  induction q generalizing p n with
  | nil => simp at hCall
  | cons b q ih =>
    have hLt := h.lt
    have hNext := h.next
    cases n with
    | zero => omega
    | succ n =>
      cases hHandles : call b with
      | true => exact ⟨[], b, by simp [Adapters.toFirstFrom, hLt, hNext, hHandles], hHandles, nofun⟩
      | false =>
        rw [List.append_cons] at h
        have hRest := ih (n := n) h (by simp; omega) (by simpa [hHandles] using hCall)
        obtain ⟨before, a, hCalled, ha, hBefore⟩ := hRest
        rw [List.length_append] at hCalled
        refine ⟨b :: before, a, ?_, ha, ?_⟩
        · simpa [Adapters.toFirstFrom, hLt, hNext, hHandles] using hCalled
        · simpa [hHandles] using hBefore

theorem Holds.snoc (h : Holds t l) (hFree : l.length < maxAdapters) :
    Holds (t.set l.length (some a)) (l ++ [a]) := by
  constructor
  · simpa [Nat.succ_le_iff] using hFree
  · intro i hi
    by_cases hEq : i = l.length
    · simp [hEq]
    · rw [set_of_ne hEq, h.slot i hi, List.getElem?_append]
      split
      · rfl
      · have hPast : l.length < i := by omega
        simp [List.getElem?_eq_none_iff.mpr (by omega : l.length ≤ i), Nat.sub_eq_zero_iff_le,
          hPast]

theorem scan_spec {i : Nat} (hAbove : ∀ j, i < j → j < maxAdapters → t j = l[j]?)
    (hi : i < l.length)
    (hLength : l.length ≤ maxAdapters) (hn : l.length - i ≤ n) : t.scan n i = l.length := by
  induction n generalizing i with
  | zero => omega
  | succ n ih =>
    rw [scan]
    split
    · rename_i hNext
      rw [hAbove (i + 1) (Nat.lt_succ_self i) hNext.1, ← Option.isSome_iff_ne_none, isSome_getElem?] at hNext
      apply ih
      · intro j hj
        exact hAbove j (by omega)
      · exact hNext.2
      · omega
    · rename_i hNext
      by_contra hOther
      apply hNext
      constructor
      · omega
      · rw [hAbove (i + 1) (Nat.lt_succ_self i) (by omega), List.getElem?_eq_getElem (by omega)]
        exact Option.some_ne_none _

/-- The list without what stands between `p` and `q`, whose place the last one takes. -/
def refilled (p q : List α) : List α :=
  match q.getLast? with
  | none => p
  | some z => p ++ z :: q.dropLast

theorem refilled_nil (p : List α) : refilled p [] = p := rfl

theorem refilled_snoc (p q : List α) (z : α) : refilled p (q ++ [z]) = p ++ z :: q := by
  simp [refilled]

theorem refilled_perm (p q : List α) : (refilled p q).Perm (p ++ q) := by
  cases q using List.reverseRecOn with
  | nil => simp [refilled_nil]
  | append_singleton q z =>
    rw [refilled_snoc]
    exact (List.perm_append_singleton z q).symm.append_left p

theorem Holds.fill (h : Holds t (p ++ b :: q)) :
    Holds ((t.set p.length none).fill p.length (p ++ q).length) (refilled p q) := by
  have hLe := h.length_le
  have hPerm := (refilled_perm p q).length_eq
  constructor
  · rw [hPerm]
    simp at hLe ⊢
    omega
  · intro i hi
    have hSlot := h.slot i hi
    rw [Adapters.fill]
    cases q using List.reverseRecOn with
    | nil =>
      rw [refilled_nil]
      by_cases hLast : i = p.length
      · simp [hLast]
      · simp only [List.append_nil]
        rw [set_of_ne hLast, set_of_ne hLast, set_of_ne hLast, hSlot]
        grind
    | append_singleton q z =>
      rw [refilled_snoc]
      by_cases hLast : i = (p ++ (q ++ [z])).length
      · rw [hLast, set_self]
        simp
      · rw [set_of_ne hLast]
        by_cases hHole : i = p.length
        · rw [hHole, set_self, set_of_ne (by simp), h.slot _ (by simp at hLe ⊢; omega)]
          simp
        · rw [set_of_ne hHole, set_of_ne hHole, hSlot]
          grind

variable [DecidableEq α]

def addFrom (evtMask : α → UInt32) (adapter : α) (t : Adapters α) :
    Nat → Nat → Adapters α × List ApiRequest
  | 0, _ => (t, [])
  | n + 1, i =>
    if i < maxAdapters ∧ t i ≠ some adapter then
      if t i = none then (t.set i (some adapter), [.openMsg (evtMask adapter)])
      else addFrom evtMask adapter t n (i + 1)
    else (t, [])

def addAdapter (evtMask : α → UInt32) (adapter : α) (t : Adapters α) :
    Adapters α × List ApiRequest :=
  t.addFrom evtMask adapter maxAdapters 0

/-- After a removal the loop goes on behind the last slot. -/
def removeFrom (evtMask : α → UInt32) (mExcludedMask : UInt32) (adapter : α) :
    Adapters α → Nat → Nat → Adapters α × List ApiRequest
  | t, 0, _ => (t, [])
  | t, n + 1, i =>
    if i < maxAdapters ∧ t i ≠ none then
      if t i = some adapter then
        let cleared := t.set i none
        let last := cleared.scan maxAdapters i - 1
        let filled := cleared.fill i last
        let request := if last = 0 then .close else .openMsg (filled.getEvtMask evtMask mExcludedMask)
        let rest := removeFrom evtMask mExcludedMask adapter filled n (last + 1)
        (rest.1, request :: rest.2)
      else removeFrom evtMask mExcludedMask adapter t n (i + 1)
    else (t, [])

def removeAdapter (evtMask : α → UInt32) (mExcludedMask : UInt32) (adapter : α) (t : Adapters α) :
    Adapters α × List ApiRequest :=
  t.removeFrom evtMask mExcludedMask adapter maxAdapters 0

theorem Holds.addFrom_mem (h : Holds t (p ++ q)) (hn : n + p.length = maxAdapters) (ha : a ∈ q) :
    t.addFrom evtMask a n p.length = (t, []) := by
  induction q generalizing p n with
  | nil => cases ha
  | cons b q ih =>
    have hLt := h.lt
    have hNext := h.next
    cases n with
    | zero => omega
    | succ n =>
      by_cases hSame : b = a
      · simp [Adapters.addFrom, hNext, hSame]
      · rw [List.append_cons] at h
        have hLater : a ∈ q := (List.mem_cons.mp ha).resolve_left (Ne.symm hSame)
        have hRest := ih (n := n) h (by simp; omega) hLater
        rw [List.length_append] at hRest
        simpa [Adapters.addFrom, hLt, hNext, hSame] using hRest

theorem Holds.addFrom_notMem (h : Holds t (p ++ q)) (hn : n + p.length = maxAdapters) (ha : a ∉ q)
    (hFree : (p ++ q).length < maxAdapters) :
    t.addFrom evtMask a n p.length = (t.set (p ++ q).length (some a), [.openMsg (evtMask a)]) := by
  induction q generalizing p n with
  | nil =>
    rw [List.append_nil] at h hFree ⊢
    cases n with
    | zero => omega
    | succ n => simp [Adapters.addFrom, h.stop hFree, hFree]
  | cons b q ih =>
    have hLt := h.lt
    have hNext := h.next
    cases n with
    | zero => omega
    | succ n =>
      have hSame : b ≠ a := fun hEq => ha (hEq ▸ List.mem_cons_self)
      have hLength : (p ++ [b]).length = p.length + 1 := List.length_append
      rw [List.append_cons] at h hFree ⊢
      have hRest := ih (n := n) h (by omega) (fun hMem => ha (List.mem_cons_of_mem b hMem)) hFree
      rw [hLength] at hRest
      simpa [Adapters.addFrom, hLt, hNext, hSame] using hRest

theorem Holds.addAdapter_mem (h : Holds t l) (ha : a ∈ l) : t.addAdapter evtMask a = (t, []) :=
  Holds.addFrom_mem (p := []) h rfl ha

theorem Holds.addAdapter_notMem (h : Holds t l) (ha : a ∉ l) (hFree : l.length < maxAdapters) :
    t.addAdapter evtMask a = (t.set l.length (some a), [.openMsg (evtMask a)]) :=
  Holds.addFrom_notMem (p := []) h rfl ha hFree

theorem Holds.removeFrom_notMem (h : Holds t (p ++ q)) (hn : n + p.length = maxAdapters)
    (ha : a ∉ q) :
    t.removeFrom evtMask mExcludedMask a n p.length = (t, []) := by
  induction q generalizing p n with
  | nil =>
    rw [List.append_nil] at h
    cases n with
    | zero => rfl
    | succ n => simp [removeFrom, h.stop (by omega)]
  | cons b q ih =>
    have hLt := h.lt
    have hNext := h.next
    cases n with
    | zero => omega
    | succ n =>
      have hSame : b ≠ a := fun hEq => ha (hEq ▸ List.mem_cons_self)
      rw [List.append_cons] at h
      have hRest := ih (n := n) h (by simp; omega) (fun hMem => ha (List.mem_cons_of_mem b hMem))
      rw [List.length_append] at hRest
      simpa [removeFrom, hLt, hNext, hSame] using hRest

theorem removeFrom_stop {i : Nat} (h : i < maxAdapters → t i = none) :
    t.removeFrom evtMask mExcludedMask a n i = (t, []) := by
  cases n with
  | zero => rfl
  | succ n =>
    rw [removeFrom, if_neg]
    rintro ⟨hLt, hNext⟩
    exact hNext (h hLt)

/-- What a removal asks for when `rest` is left. -/
def removed (evtMask : α → UInt32) (mExcludedMask : UInt32) (t : Adapters α) : List α → ApiRequest
  | [] => .close
  | _ :: _ => .openMsg (t.getEvtMask evtMask mExcludedMask)

theorem Holds.removeFrom_at (h : Holds t (p ++ a :: q)) (hn : n + p.length = maxAdapters) :
    ∃ t', t.removeFrom evtMask mExcludedMask a n p.length =
      (t', [removed evtMask mExcludedMask t' (p ++ q)]) ∧ Holds t' (refilled p q) := by
  have hLe := h.length_le
  have hFilled := h.fill
  refine ⟨_, ?_, hFilled⟩
  have hLast : (t.set p.length none).scan maxAdapters p.length - 1 = (p ++ q).length := by
    rw [scan_spec (l := p ++ a :: q)]
    · simp
    · intro j hj hLt
      rw [set_of_ne (Nat.ne_of_gt hj), h.slot j hLt]
    · simp
    · exact hLe
    · omega
  have hStop : ((t.set p.length none).fill p.length (p ++ q).length).removeFrom evtMask mExcludedMask a
      (n - 1) ((p ++ q).length + 1) = ((t.set p.length none).fill p.length (p ++ q).length, []) := by
    apply removeFrom_stop
    intro hLt
    rw [hFilled.slot _ hLt, List.getElem?_eq_none_iff, (refilled_perm p q).length_eq]
    exact Nat.le_succ _
  cases n with
  | zero =>
    have hLt := h.lt
    omega
  | succ n =>
    rw [Nat.add_sub_cancel] at hStop
    rw [removeFrom, if_pos ⟨h.lt, by simp [h.next]⟩, if_pos h.next]
    simp only [hLast, hStop]
    cases hRest : p ++ q with
    | nil => rfl
    | cons b rest => rfl

theorem Holds.removeAdapter_notMem (h : Holds t l) (ha : a ∉ l) :
    t.removeAdapter evtMask mExcludedMask a = (t, []) :=
  Holds.removeFrom_notMem (p := []) h rfl ha

theorem Holds.removeFrom_mem (h : Holds t (p ++ q)) (hn : n + p.length = maxAdapters) (hp : a ∉ p)
    (ha : a ∈ q) :
    ∃ t' l', t.removeFrom evtMask mExcludedMask a n p.length =
      (t', [removed evtMask mExcludedMask t' ((p ++ q).erase a)]) ∧
        Holds t' l' ∧ l'.Perm ((p ++ q).erase a) := by
  induction q generalizing p n with
  | nil => cases ha
  | cons b q ih =>
    by_cases hSame : b = a
    · subst hSame
      obtain ⟨t', hRemoved, hHolds⟩ := h.removeFrom_at hn
      rw [List.erase_append_right _ hp, List.erase_cons_head]
      exact ⟨t', refilled p q, hRemoved, hHolds, refilled_perm p q⟩
    · have hLt := h.lt
      have hNext := h.next
      cases n with
      | zero => omega
      | succ n =>
        rw [List.append_cons] at h ⊢
        have hRest := ih (n := n) h (by simp; omega) (by simp [hp, Ne.symm hSame])
          ((List.mem_cons.mp ha).resolve_left (Ne.symm hSame))
        rw [List.length_append] at hRest
        simpa [removeFrom, hLt, hNext, hSame] using hRest

theorem Holds.removeAdapter_mem (evtMask : α → UInt32) (mExcludedMask : UInt32) (h : Holds t l)
    (ha : a ∈ l) :
    ∃ t' l', t.removeAdapter evtMask mExcludedMask a = (t', [removed evtMask mExcludedMask t' (l.erase a)]) ∧
      Holds t' l' ∧ l'.Perm (l.erase a) :=
  Holds.removeFrom_mem (p := []) h rfl List.not_mem_nil ha

end Adapters

end KiwiDevice.Gps

import Mathlib.Data.Multiset.AddSub

/-!
# Priority queues

A priority queue is a multiset: it takes an object, gives back one that nothing left outranks, or
gives back the very object that is asked for.
-/

namespace KiwiDevice.Lib

universe u

variable {α : Type u}

inductive PqOp (α : Type u) where
  | push (x : α)
  | pop
  | remove (x : α)

/-- The objects that an operation puts in. -/
def PqOp.pushed : PqOp α → List α
  | .push x => [x]
  | _ => []

variable [DecidableEq α]

inductive PqStep (outRanks : α → α → Prop) :
    Multiset α → PqOp α → Option α → Multiset α → Prop where
  | push (s : Multiset α) (x : α) : PqStep outRanks s (.push x) none (x ::ₘ s)
  | popEmpty : PqStep outRanks 0 .pop none 0
  | pop {s : Multiset α} {x : α} (hMem : x ∈ s) (hMax : ∀ y ∈ s, ¬outRanks y x) :
      PqStep outRanks s .pop (some x) (s.erase x)
  | remove {s : Multiset α} {x : α} (hMem : x ∈ s) :
      PqStep outRanks s (.remove x) (some x) (s.erase x)
  | removeMissing {s : Multiset α} {x : α} (hMem : x ∉ s) :
      PqStep outRanks s (.remove x) none s

namespace PqStep

variable {outRanks : α → α → Prop} {s s' : Multiset α} {op : PqOp α} {r : Option α}

/-- What is in the queue afterwards and what came out is what was in the queue and what was
put in. -/
theorem account (h : PqStep outRanks s op r s') :
    s' + (r.toList : Multiset α) = s + (op.pushed : Multiset α) := by
  have hErase : ∀ {t : Multiset α} {y : α}, y ∈ t → t.erase y + {y} = t := by
    intro t y hy
    rw [Multiset.add_comm, Multiset.singleton_add, Multiset.cons_erase hy]
  cases h with
  | push _ x =>
    change x ::ₘ s + 0 = s + {x}
    rw [Multiset.add_zero, Multiset.add_comm s, Multiset.singleton_add]
  | popEmpty => rfl
  | pop hMem hMax => exact (hErase hMem).trans (Multiset.add_zero s).symm
  | remove hMem => exact (hErase hMem).trans (Multiset.add_zero s).symm
  | removeMissing hMem => rfl

theorem le (h : PqStep outRanks s op r s') (hOp : op.pushed = []) : s' ≤ s := by
  have hAccount := h.account
  rw [hOp, Multiset.coe_nil, Multiset.add_zero] at hAccount
  rw [← hAccount]
  exact Multiset.le_add_right s' _

theorem pop_eq_none_iff (h : PqStep outRanks s .pop r s') : r = none ↔ s = 0 := by
  cases h with
  | popEmpty => exact ⟨fun _ => rfl, fun _ => rfl⟩
  | pop hMem hMax =>
    constructor
    · intro hNone
      cases hNone
    · rintro rfl
      exact absurd hMem (Multiset.notMem_zero _)

theorem pop_max {x : α} (h : PqStep outRanks s .pop (some x) s') :
    x ∈ s ∧ s' = s.erase x ∧ ∀ y ∈ s', ¬outRanks y x := by
  cases h with
  | pop hMem hMax => exact ⟨hMem, rfl, fun y hy => hMax y (Multiset.mem_of_mem_erase hy)⟩

theorem remove_of_mem {x : α} (h : PqStep outRanks s (.remove x) r s') (hMem : x ∈ s) :
    r = some x ∧ s' = s.erase x := by
  cases h with
  | remove _ => exact ⟨rfl, rfl⟩
  | removeMissing hNot => exact absurd hMem hNot

end PqStep

end KiwiDevice.Lib

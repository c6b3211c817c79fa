import KiwiDevice.Gps.AdapterTable
import KiwiDevice.Lib.Since
import KiwiDevice.Lib.Steps
import Mathlib.Data.List.Perm.Subperm

/-!
# Registered adapters

The table after any calls of `addAdapter` and `removeAdapter` holds the adapters that were added and
not removed since, each once and without a hole before it. The masks of the adapters may be others
at each call.
-/

namespace KiwiDevice.Gps

universe u

inductive AdapterCall (α : Type u) where
  | add (adapter : α)
  | remove (adapter : α)

namespace Adapters

variable {α : Type u}

/-- The adapter was added and not removed since. -/
def Registered (is : List (AdapterCall α)) (a : α) : Prop :=
  Lib.Since (fun _ i => i = .add a) (· ≠ .remove a) is

/-- At most as many adapters are registered as there are slots. -/
def Fits (is : List (AdapterCall α)) : Prop :=
  ∀ l : List α, l.Nodup → (∀ a ∈ l, Registered is a) → l.length ≤ maxAdapters

/-- The call removes the only adapter that is registered. -/
def RemovesLast (is : List (AdapterCall α)) (i : AdapterCall α) : Prop :=
  ∃ a, i = .remove a ∧ Registered is a ∧ ∀ b, Registered is b → b = a

variable {is : List (AdapterCall α)} {i : AdapterCall α} {a b : α} {l : List α}

theorem registered_add : Registered (is ++ [.add b]) a ↔ a = b ∨ Registered is a := by
  simp [Registered, Lib.since_snoc, eq_comm]

theorem registered_remove : Registered (is ++ [.remove b]) a ↔ a ≠ b ∧ Registered is a := by
  simp [Registered, Lib.since_snoc, eq_comm]

theorem fits_of_length (h : is.length ≤ maxAdapters) : Fits is := by
  intro l hNodup hAll
  have hAdded : l.map AdapterCall.add ⊆ is := by
    intro i hi
    obtain ⟨a, ha, rfl⟩ := List.mem_map.mp hi
    obtain ⟨before, x, since, rfl, rfl, -⟩ := hAll a ha
    simp
  have hMap : (l.map AdapterCall.add).Nodup := hNodup.map (fun a b h => by cases h; rfl)
  have hLe := (List.subperm_of_subset hMap hAdded).length_le
  rw [List.length_map] at hLe
  omega

variable [DecidableEq α]

def perform (evtMask : α → UInt32) (mExcludedMask : UInt32) (t : Adapters α) :
    AdapterCall α → Adapters α × List ApiRequest
  | .add adapter => t.addAdapter evtMask adapter
  | .remove adapter => t.removeAdapter evtMask mExcludedMask adapter

def Next (mExcludedMask : UInt32) (t : Adapters α) (i : AdapterCall α) (o : List ApiRequest)
    (t' : Adapters α) : Prop :=
  ∃ evtMask, t.perform evtMask mExcludedMask i = (t', o)

/-- Calls that leave no more adapters registered than there are slots. -/
def Fitting (is : List (AdapterCall α)) (_ : List ApiRequest) (_ : Adapters α) (i : AdapterCall α)
    (_ : List ApiRequest) : Prop :=
  Fits (is ++ [i])

structure Consistent (is : List (AdapterCall α)) (t : Adapters α) : Prop where
  noHole : ∀ i j, i < j → j < maxAdapters → t j ≠ none → t i ≠ none
  distinct : ∀ i j a, i < maxAdapters → j < maxAdapters → t i = some a → t j = some a → i = j
  registered : ∀ a, (∃ i < maxAdapters, t i = some a) ↔ Registered is a
  toAll : ∀ a, t.toAllAdapters.count a ≤ 1 ∧ (t.toAllAdapters.count a = 1 ↔ Registered is a)
  toFirst : ∀ call : α → Bool, (∃ a, Registered is a ∧ call a = true) →
    ∃ before a, t.toFirstHandlingAdapter call = before ++ [a] ∧ call a = true ∧
      ∀ b ∈ before, call b = false

/-- The list in the table is that of the registered adapters. -/
structure Lists (is : List (AdapterCall α)) (t : Adapters α) (l : List α) : Prop where
  holds : Holds t l
  nodup : l.Nodup
  mem_iff : ∀ a, a ∈ l ↔ Registered is a

variable {mExcludedMask : UInt32} {os o : List ApiRequest} {t t' : Adapters α}

theorem Lists.removesLast_iff (h : Lists is t l) (hb : b ∈ l) :
    RemovesLast is (.remove b) ↔ l.erase b = [] := by
  constructor
  · rintro ⟨c, hSame, -, hOnly⟩
    cases hSame
    apply List.eq_nil_iff_forall_not_mem.mpr
    intro a ha
    obtain ⟨hNe, hMem⟩ := h.nodup.mem_erase_iff.mp ha
    exact hNe (hOnly a ((h.mem_iff a).mp hMem))
  · intro hEmpty
    refine ⟨b, rfl, (h.mem_iff b).mp hb, ?_⟩
    intro a ha
    by_contra hNe
    have hRest := h.nodup.mem_erase_iff.mpr ⟨hNe, (h.mem_iff a).mpr ha⟩
    rw [hEmpty] at hRest
    cases hRest

theorem Lists.step (h : Lists is t l) (hFits : Fits (is ++ [i]))
    (hNext : Next mExcludedMask t i o t') :
    (∃ l', Lists (is ++ [i]) t' l') ∧ o.count .close ≤ 1 ∧ (.close ∈ o ↔ RemovesLast is i) := by
  obtain ⟨evtMask, hPerform⟩ := hNext
  cases i with
  | add b =>
    have hNot : ¬ RemovesLast is (.add b) := nofun
    by_cases hb : b ∈ l
    · rw [perform, h.holds.addAdapter_mem hb] at hPerform
      cases hPerform
      refine ⟨⟨l, h.holds, h.nodup, ?_⟩, by simp, by simp [hNot]⟩
      intro a
      rw [registered_add, ← h.mem_iff]
      grind
    · have hAll : ∀ a ∈ l ++ [b], Registered (is ++ [.add b]) a := by
        intro a ha
        rw [registered_add, ← h.mem_iff]
        grind
      have hNodup : (l ++ [b]).Nodup := by
        rw [← List.concat_eq_append]
        exact h.nodup.concat hb
      have hLength := hFits _ hNodup hAll
      rw [List.length_append] at hLength
      have hFree : l.length < maxAdapters := hLength
      rw [perform, h.holds.addAdapter_notMem hb hFree] at hPerform
      cases hPerform
      refine ⟨⟨l ++ [b], h.holds.snoc hFree, hNodup, ?_⟩, by simp, by simp [hNot]⟩
      intro a
      rw [registered_add, ← h.mem_iff]
      grind
  | remove b =>
    by_cases hb : b ∈ l
    · obtain ⟨t₁, l', hRemoved, hHolds, hPerm⟩ :=
        h.holds.removeAdapter_mem evtMask mExcludedMask hb
      rw [perform, hRemoved] at hPerform
      cases hPerform
      refine ⟨⟨l', hHolds, hPerm.nodup_iff.mpr (h.nodup.erase b), ?_⟩, ?_⟩
      · intro a
        rw [registered_remove, hPerm.mem_iff, h.nodup.mem_erase_iff, h.mem_iff]
      · rw [h.removesLast_iff hb]
        cases hRest : l.erase b with
        | nil => simp [removed]
        | cons c rest => simp [removed]
    · rw [perform, h.holds.removeAdapter_notMem hb] at hPerform
      cases hPerform
      refine ⟨⟨l, h.holds, h.nodup, ?_⟩, by simp, ?_⟩
      · intro a
        rw [registered_remove, ← h.mem_iff]
        grind
      · constructor
        · nofun
        · rintro ⟨c, hSame, hRegistered, -⟩
          cases hSame
          exact absurd ((h.mem_iff b).mpr hRegistered) hb

theorem Lists.consistent (h : Lists is t l) : Consistent is t where
  noHole i j hij hj hNext := by
    have hSlot := h.holds.slot j hj
    rw [h.holds.slot i (by omega), ← Option.isSome_iff_ne_none, isSome_getElem?]
    rw [hSlot, ← Option.isSome_iff_ne_none, isSome_getElem?] at hNext
    omega
  distinct i j a hi hj hAt hSame := by
    rw [h.holds.slot i hi] at hAt
    rw [h.holds.slot j hj] at hSame
    obtain ⟨hLt, -⟩ := List.getElem?_eq_some_iff.mp hAt
    exact (List.getElem?_inj hLt h.nodup).mp (hAt.trans hSame.symm)
  registered a := by
    rw [← h.mem_iff, List.mem_iff_getElem?]
    constructor
    · rintro ⟨i, hi, hAt⟩
      exact ⟨i, (h.holds.slot i hi).symm.trans hAt⟩
    · rintro ⟨i, hAt⟩
      obtain ⟨hLt, -⟩ := List.getElem?_eq_some_iff.mp hAt
      have hi := Nat.lt_of_lt_of_le hLt h.holds.length_le
      exact ⟨i, hi, (h.holds.slot i hi).trans hAt⟩
  toAll a := by
    rw [h.holds.toAllAdapters, ← h.mem_iff]
    have hOnce := List.nodup_iff_count_le_one.mp h.nodup a
    refine ⟨hOnce, ?_⟩
    rw [← List.count_pos_iff]
    omega
  toFirst call hCall := by
    obtain ⟨a, hRegistered, hHandles⟩ := hCall
    exact Holds.toFirstFrom (p := []) h.holds rfl ⟨a, (h.mem_iff a).mpr hRegistered, hHandles⟩

theorem lists_of_run (run : Lib.Steps (Next mExcludedMask) Fitting (empty : Adapters α) is os t) :
    ∃ l, Lists is t l := by
  apply run.history (I := fun is _ t => ∃ l, Lists is t l)
  · exact ⟨[], empty_holds, List.nodup_nil, fun a => iff_of_false List.not_mem_nil Lib.not_since_nil⟩
  · rintro is os t i o t' hFits ⟨l, hLists⟩ hNext
    exact (hLists.step hFits hNext).1

theorem consistent_of_run (run : Lib.Steps (Next mExcludedMask) Fitting (empty : Adapters α) is os t) :
    Consistent is t ∧ ∀ i o t', Fitting is os t i o → Next mExcludedMask t i o t' →
      o.count .close ≤ 1 ∧ (.close ∈ o ↔ RemovesLast is i) := by
  obtain ⟨l, hLists⟩ := lists_of_run run
  refine ⟨hLists.consistent, ?_⟩
  intro i o t' hFits hNext
  exact (hLists.step hFits hNext).2

/-- One further call, of a run that is short enough to leave a slot for each adapter. -/
def shortStep (is : List (AdapterCall α)) (_ : List ApiRequest) (t : Adapters α)
    (i : AdapterCall α) :
    Option (Adapters α × List ApiRequest) :=
  if is.length < maxAdapters then some (t.perform (fun _ => 0) 0 i) else none

theorem shortStep_spec (h : shortStep is os t i = some (t', o)) :
    Next 0 t i o t' ∧ Fitting is os t i o := by
  rw [shortStep] at h
  split at h
  · rename_i hLength
    refine ⟨⟨_, Option.some.inj h⟩, fits_of_length ?_⟩
    rw [List.length_append]
    exact hLength
  · cases h

/-- The last of three adapters takes the place of the first; one that is unknown changes nothing. -/
theorem consistent_after_removal : ∃ t : Adapters Nat, t.toAllAdapters = [3, 2] ∧
    Consistent [.add 1, .add 2, .add 3, .add 2, .remove 7, .remove 1] t := by
  have hExec : Lib.exec shortStep [] [] (empty : Adapters Nat)
      [.add 1, .add 2, .add 3, .add 2, .remove 7, .remove 1] = some (_, _) := rfl
  have hRun := Lib.Steps.of_exec (Next 0) Fitting (fun _ _ _ _ _ _ _ h => shortStep_spec h) hExec
  exact ⟨_, by decide, (consistent_of_run hRun).1⟩

end Adapters

end KiwiDevice.Gps

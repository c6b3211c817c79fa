import Mathlib.Data.List.Nodup
import Mathlib.Order.Basic

/-!
# Waiting

A wait relation between threads, and the rule by which it has no deadlock: every thread waits only
for threads of a lower rank. A condition variable has the threads that are blocked on it, and those
that have left it and do not hold the mutex again yet: their wake-ups are pending. A thread may
leave at any time.
-/

namespace KiwiDevice.Lib

universe u

/-! ## Deadlocks -/

/-- Some threads, at least one, of which each waits for another. -/
def Deadlock {α : Type u} (waits : α → α → Prop) : Prop :=
  ∃ S : α → Prop, (∃ a, S a) ∧ ∀ a, S a → ∃ b, S b ∧ b ≠ a ∧ waits a b

theorem not_deadlock_of_rank {α : Type u} {waits : α → α → Prop} (rank : α → Nat)
    (h : ∀ a b, waits a b → rank b < rank a) : ¬ Deadlock waits := by
  rintro ⟨S, ⟨a, ha⟩, hWaits⟩
  have hNone : ∀ n a, rank a < n → ¬ S a := by
    intro n
    induction n with
    | zero => exact fun a hLt => absurd hLt (Nat.not_lt_zero _)
    | succ n ih =>
      intro a hLt hIn
      obtain ⟨b, hb, -, hWait⟩ := hWaits a hIn
      exact ih b (Nat.lt_of_lt_of_le (h a b hWait) (Nat.le_of_lt_succ hLt)) hb
  exact hNone (rank a + 1) a (Nat.lt_succ_self _) ha

/-! ## Condition variables -/

structure Condition (τ : Type u) where
  waiting : List τ
  woken : List τ

namespace Condition

variable {τ : Type u} {c c' : Condition τ} {t : τ} {n : Nat}

def idle : Condition τ := ⟨[], []⟩

def wait (c : Condition τ) (t : τ) : Condition τ := { c with waiting := t :: c.waiting }

def broadcast (c : Condition τ) : Condition τ := ⟨[], c.waiting ++ c.woken⟩

def Inside (c : Condition τ) (t : τ) : Prop := t ∈ c.waiting ∨ t ∈ c.woken

/-- While a thread is blocked there are `n` pending wake-ups. -/
def Covers (c : Condition τ) (n : Nat) : Prop := c.waiting ≠ [] → n ≤ c.woken.length

theorem covers_of_nil (h : c.waiting = []) : c.Covers n :=
  fun hWaiting => absurd h hWaiting

theorem covers_zero (c : Condition τ) : c.Covers 0 :=
  fun _ => Nat.zero_le _

theorem covers_broadcast (c : Condition τ) (n : Nat) : c.broadcast.Covers n :=
  covers_of_nil rfl

theorem Covers.mono {m : Nat} (h : c.Covers n) (hLe : m ≤ n) : c.Covers m :=
  fun hWaiting => Nat.le_trans hLe (h hWaiting)

/-- A thread is blocked or woken, and once. -/
def Single (c : Condition τ) : Prop := (c.waiting ++ c.woken).Nodup

theorem Single.wait (h : c.Single) (ht : ¬ c.Inside t) : (c.wait t).Single := by
  apply List.nodup_cons.mpr
  constructor
  · exact fun hMem => ht (List.mem_append.mp hMem)
  · exact h

theorem Single.broadcast (h : c.Single) : c.broadcast.Single := h

variable [DecidableEq τ]

def wake (c : Condition τ) (t : τ) : Condition τ where
  waiting := c.waiting.erase t
  woken := t :: c.woken

/-- One thread leaves, if there is one. -/
def signal (c : Condition τ) : Option τ → Option (Condition τ)
  | some t => if t ∈ c.waiting then some (c.wake t) else none
  | none => if c.waiting = [] then some c else none

/-- A thread gets the mutex. -/
def resume (c : Condition τ) (t : τ) : Condition τ := { c with woken := c.woken.erase t }

theorem Covers.wake (h : c.Covers n) (ht : t ∈ c.waiting) : (c.wake t).Covers (n + 1) := by
  intro _
  have hLe := h (List.ne_nil_of_mem ht)
  simp only [Condition.wake, List.length_cons]
  omega

/-- A signal for each new item keeps the items covered. -/
theorem Covers.signal {pick : Option τ} (h : c.Covers n) (hSignal : c.signal pick = some c') :
    c'.Covers (n + 1) := by
  cases pick with
  | none =>
    rw [Condition.signal] at hSignal
    split at hSignal
    · rename_i hNil
      cases hSignal
      exact covers_of_nil hNil
    · cases hSignal
  | some t =>
    rw [Condition.signal] at hSignal
    split at hSignal
    · rename_i ht
      cases hSignal
      exact h.wake ht
    · cases hSignal

theorem Covers.spurious (h : c.Covers n) (ht : t ∈ c.waiting) : (c.wake t).Covers n :=
  (h.wake ht).mono (Nat.le_succ n)

/-- A thread that goes on takes one item at most off the count. -/
theorem Covers.resume (h : c.Covers n) : (c.resume t).Covers (n - 1) := by
  intro hWaiting
  have hLe := h hWaiting
  have hErase := List.le_length_erase (a := t) (l := c.woken)
  simp only [Condition.resume]
  omega

theorem Single.wake (h : c.Single) (ht : t ∈ c.waiting) : (c.wake t).Single := by
  have hPerm : (c.waiting.erase t ++ t :: c.woken).Perm (c.waiting ++ c.woken) :=
    List.perm_middle.trans ((List.perm_cons_erase ht).symm.append_right c.woken)
  exact hPerm.nodup_iff.mpr h

theorem Single.resume (h : c.Single) (t : τ) : (c.resume t).Single :=
  h.sublist (List.erase_sublist.append_left c.waiting)

theorem Single.not_inside_resume (h : c.Single) (ht : t ∈ c.woken) : ¬ (c.resume t).Inside t := by
  obtain ⟨-, hWoken, hDisjoint⟩ := List.nodup_append.mp h
  rintro (hMem | hMem)
  · exact hDisjoint t hMem t ht rfl
  · exact hWoken.not_mem_erase hMem

theorem Single.mem_wake (h : c.Single) {w : τ} :
    w ∈ (c.wake t).waiting ↔ w ≠ t ∧ w ∈ c.waiting := by
  obtain ⟨hWaiting, -, -⟩ := List.nodup_append.mp h
  exact hWaiting.mem_erase_iff

theorem Single.signal {pick : Option τ} (h : c.Single) (hSignal : c.signal pick = some c') :
    c'.Single ∧ ∀ w, w ∈ c'.waiting ↔ pick ≠ some w ∧ w ∈ c.waiting := by
  cases pick with
  | none =>
    rw [Condition.signal] at hSignal
    split at hSignal
    · cases hSignal
      simp [h]
    · cases hSignal
  | some t =>
    rw [Condition.signal] at hSignal
    split at hSignal
    · rename_i ht
      cases hSignal
      refine ⟨h.wake ht, fun w => h.mem_wake.trans ?_⟩
      simp [eq_comm]
    · cases hSignal

/-- There is always a thread to pick, or none to wake. -/
theorem exists_signal (c : Condition τ) : ∃ pick c', c.signal pick = some c' := by
  cases hWaiting : c.waiting with
  | nil => exact ⟨none, c, if_pos hWaiting⟩
  | cons t _ =>
    have ht : t ∈ c.waiting := hWaiting ▸ List.mem_cons_self
    exact ⟨some t, c.wake t, if_pos ht⟩

end Condition

end KiwiDevice.Lib

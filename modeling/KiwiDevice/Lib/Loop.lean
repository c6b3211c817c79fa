import Mathlib.Logic.Basic

/-!
# Loops given by one pass

A loop is a partial map on its locals: `none` where the guard fails, `some s'` after one pass.
`Exits` is the run of such a loop, `exec` computes it with a bound on the number of passes. A loop
whose passes either shrink a measure or change nothing is decided by `exec`: within the measure it
has exited, or it stands still for ever.
-/

namespace KiwiDevice.Lib.Loop

universe u

variable {σ : Type u} {pass : σ → Option σ}

inductive Exits (pass : σ → Option σ) : σ → σ → Prop where
  | done {s : σ} (h : pass s = none) : Exits pass s s
  | next {s s' r : σ} (h : pass s = some s') (rest : Exits pass s' r) : Exits pass s r

def Spins (pass : σ → Option σ) (s : σ) : Prop :=
  ∀ r, ¬ Exits pass s r

def exec (pass : σ → Option σ) : Nat → σ → Option σ
  | 0, _ => none
  | n + 1, s =>
    match pass s with
    | none => some s
    | some s' => exec pass n s'

theorem exec_exits {n : Nat} {s r : σ} (h : exec pass n s = some r) : Exits pass s r := by
  induction n generalizing s with
  | zero => cases h
  | succ n ih =>
    rw [exec] at h
    split at h
    · rename_i hStop
      cases h
      exact .done hStop
    · rename_i s' hPass
      exact .next hPass (ih h)

theorem Exits.guard {s r : σ} (h : Exits pass s r) : pass r = none := by
  induction h with
  | done h => exact h
  | next _ _ ih => exact ih

theorem Exits.unique {s r r' : σ} (h : Exits pass s r) (h' : Exits pass s r') : r = r' := by
  induction h with
  | done hStop =>
    cases h' with
    | done _ => rfl
    | next hNext _ =>
      rw [hStop] at hNext
      cases hNext
  | next hNext _ ih =>
    cases h' with
    | done hStop =>
      rw [hStop] at hNext
      cases hNext
    | next hNext' rest =>
      rw [hNext] at hNext'
      cases hNext'
      exact ih rest

/-- What every pass preserves holds when the loop is left. -/
theorem Exits.invariant {s r : σ} (h : Exits pass s r) (I : σ → Prop)
    (hPass : ∀ a b, I a → pass a = some b → I b) (hs : I s) : I r := by
  induction h with
  | done _ => exact hs
  | next hNext _ ih => exact ih (hPass _ _ hs hNext)

/-- A loop whose guard no pass can make fail is never left. -/
theorem spins_of_invariant (I : σ → Prop) (hPass : ∀ a b, I a → pass a = some b → I b)
    (hGuard : ∀ a, I a → pass a ≠ none) {s : σ} (hs : I s) : Spins pass s := by
  intro r hr
  exact hGuard r (hr.invariant I hPass hs) hr.guard

/-- A pass that changes nothing is repeated for ever. -/
theorem spins_of_fixed {s : σ} (h : pass s = some s) : Spins pass s := by
  apply spins_of_invariant (· = s)
  · rintro a b rfl hNext
    rw [h] at hNext
    cases hNext
    rfl
  · rintro a rfl
    rw [h]
    exact Option.some_ne_none a
  · rfl

theorem Spins.back {s s' : σ} (h : pass s = some s') (hs : Spins pass s') : Spins pass s := by
  intro r hr
  cases hr with
  | done hStop =>
    rw [h] at hStop
    cases hStop
  | next hNext rest =>
    rw [h] at hNext
    cases hNext
    exact hs r rest

/-- `exec` with enough passes for the measure decides the loop. -/
theorem exec_none_spins (μ : σ → Nat)
    (hμ : ∀ a b, pass a = some b → b = a ∨ μ b < μ a) {n : Nat} {s : σ} (hn : μ s < n)
    (h : exec pass n s = none) : Spins pass s := by
  induction n generalizing s with
  | zero => exact absurd hn (Nat.not_lt_zero _)
  | succ n ih =>
    rw [exec] at h
    split at h
    · cases h
    · rename_i s' hPass
      rcases hμ s s' hPass with hSame | hLess
      · subst hSame
        exact spins_of_fixed hPass
      · exact Spins.back hPass (ih (by omega) h)

/-- A loop each of whose passes shrinks the measure is left. -/
theorem exec_isSome (pass : σ → Option σ) (μ : σ → Nat) (I : σ → Prop)
    (hI : ∀ a b, I a → pass a = some b → I b) (hμ : ∀ a b, I a → pass a = some b → μ b < μ a)
    {n : Nat} {s : σ} (hs : I s) (hn : μ s < n) : ∃ r, exec pass n s = some r := by
  induction n generalizing s with
  | zero => exact absurd hn (Nat.not_lt_zero _)
  | succ n ih =>
    rw [exec]
    split
    · exact ⟨s, rfl⟩
    · rename_i s' hPass
      exact ih (hI s s' hs hPass) (by have := hμ s s' hs hPass; omega)

end KiwiDevice.Lib.Loop

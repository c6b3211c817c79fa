import KiwiDevice.Lib.Steps
import Mathlib.Order.WellFounded

/-!
# Fair runs

Infinite runs of a machine whose inputs are steps of agents. A run may idle, also for ever, so a run
that has come to an end is one of them. It is fair when an agent that can step again and again does
so. The rule for what comes about in a fair run: a rank that no step raises and that the step of a
helpful agent lowers.
-/

namespace KiwiDevice.Lib

universe u v w z

structure Run {σ : Type u} {ι : Type v} (next : σ → ι → σ → Prop) where
  state : Nat → σ
  input : Nat → Option ι
  idle : ∀ k, input k = none → state (k + 1) = state k
  step : ∀ k i, input k = some i → next (state k) i (state (k + 1))

namespace Run

variable {σ : Type u} {ι : Type v} {α : Type w} {next : σ → ι → σ → Prop}

/-- What holds in one state and is kept by every step holds from there on. -/
theorem invariant (run : Run next) {I : σ → Prop}
    (hStep : ∀ k i, run.input k = some i → I (run.state k) → I (run.state (k + 1))) {k k' : Nat}
    (hLe : k ≤ k') (h : I (run.state k)) : I (run.state k') := by
  induction k', hLe using Nat.le_induction with
  | base => exact h
  | succ m _ ih =>
    cases hInput : run.input m with
    | none =>
      rw [run.idle m hInput]
      exact ih
    | some i => exact hStep m i hInput ih

/-- The agent has a step that it takes of itself. -/
def Enabled (next : σ → ι → σ → Prop) (agent : ι → Option α) (offered : ι → Prop) (s : σ) (a : α) :
    Prop :=
  ∃ i s', agent i = some a ∧ offered i ∧ next s i s'

def Fair (agent : ι → Option α) (offered : ι → Prop) (run : Run next) : Prop :=
  ∀ a, (∀ k, ∃ k' ≥ k, Enabled next agent offered (run.state k') a) →
    ∀ k, ∃ k' ≥ k, ∃ i, run.input k' = some i ∧ agent i = some a

/-- While the goal is not reached, no step raises the rank, the steps of the helpful agent lower it,
and that agent is not kept from stepping for ever. -/
theorem Fair.eventually {agent : ι → Option α} {offered : ι → Prop} {run : Run next}
    (hFair : run.Fair agent offered) {ρ : Type z} [LT ρ] [WellFoundedLT ρ] (goal : σ → Prop)
    (rank : σ → ρ) (helpful : σ → α)
    (hStep : ∀ k i, run.input k = some i → ¬ goal (run.state k) →
      goal (run.state (k + 1)) ∨ rank (run.state (k + 1)) < rank (run.state k) ∨
        rank (run.state (k + 1)) = rank (run.state k) ∧
          helpful (run.state (k + 1)) = helpful (run.state k) ∧
            agent i ≠ some (helpful (run.state k)))
    (hEnabled : ∀ k, ¬ goal (run.state k) → ∃ k' ≥ k,
      goal (run.state k') ∨ rank (run.state k') ≠ rank (run.state k) ∨
        Enabled next agent offered (run.state k') (helpful (run.state k)))
    (k : Nat) : ∃ k' ≥ k, goal (run.state k') := by
  by_contra hNever
  have hNot : ∀ k' ≥ k, ¬ goal (run.state k') := fun k' hLe hGoal => hNever ⟨k', hLe, hGoal⟩
  have hWf : WellFounded ((· < ·) : ρ → ρ → Prop) := wellFounded_lt
  obtain ⟨_, ⟨k₀, hFrom, rfl⟩, hLeast⟩ := hWf.has_min
    {r | ∃ k' ≥ k, r = rank (run.state k')} ⟨_, k, le_rfl, rfl⟩
  have hStays : ∀ k' ≥ k₀, rank (run.state k') = rank (run.state k₀) ∧
      helpful (run.state k') = helpful (run.state k₀) := by
    intro k' hLe
    induction k', hLe using Nat.le_induction with
    | base => exact ⟨rfl, rfl⟩
    | succ m hLe ih =>
      cases hInput : run.input m with
      | none =>
        rw [run.idle m hInput]
        exact ih
      | some i =>
        have hLater : m ≥ k := le_trans hFrom hLe
        rcases hStep m i hInput (hNot m hLater) with hGoal | hLess | ⟨hRank, hSame, -⟩
        · exact absurd hGoal (hNot (m + 1) (le_trans hLater (Nat.le_succ m)))
        · rw [ih.1] at hLess
          exact absurd hLess (hLeast _ ⟨m + 1, le_trans hLater (Nat.le_succ m), rfl⟩)
        · exact ⟨hRank.trans ih.1, hSame.trans ih.2⟩
  have hOften : ∀ j, ∃ k' ≥ j,
      Enabled next agent offered (run.state k') (helpful (run.state k₀)) := by
    intro j
    have hFar : max j k₀ ≥ k₀ := le_max_right j k₀
    obtain ⟨k', hLe, hGoal | hRank | hCan⟩ := hEnabled (max j k₀) (hNot _ (le_trans hFrom hFar))
    · exact absurd hGoal (hNot k' (le_trans (le_trans hFrom hFar) hLe))
    · exact absurd ((hStays k' (le_trans hFar hLe)).1.trans (hStays _ hFar).1.symm) hRank
    · rw [(hStays _ hFar).2] at hCan
      exact ⟨k', le_trans (le_max_left j k₀) hLe, hCan⟩
  obtain ⟨k', hLe, i, hInput, hAgent⟩ := hFair _ hOften k₀
  have hLater : k' ≥ k := le_trans hFrom hLe
  rcases hStep k' i hInput (hNot k' hLater) with hGoal | hLess | ⟨-, -, hOther⟩
  · exact hNot (k' + 1) (le_trans hLater (Nat.le_succ k')) hGoal
  · rw [(hStays k' hLe).1] at hLess
    exact hLeast _ ⟨k' + 1, le_trans hLater (Nat.le_succ k'), rfl⟩ hLess
  · exact hOther (hAgent.trans (congrArg some (hStays k' hLe).2.symm))

/-! ### Runs that come to an end -/

def still (next : σ → ι → σ → Prop) (s : σ) : Run next where
  state := fun _ => s
  input := fun _ => none
  idle := fun _ _ => rfl
  step := fun _ _ h => absurd h (by simp)

/-- The run after one step. -/
def prepend (run : Run next) {s : σ} {i : ι} (h : next s i (run.state 0)) : Run next where
  state
    | 0 => s
    | k + 1 => run.state k
  input
    | 0 => some i
    | k + 1 => run.input k
  idle
    | 0, hNone => absurd hNone (by simp)
    | k + 1, hNone => run.idle k hNone
  step
    | 0, _, hInput => Option.some.inj hInput ▸ h
    | k + 1, j, hInput => run.step k j hInput

variable {agent : ι → Option α} {offered : ι → Prop}

/-- A run that stays where no agent has a step is fair. -/
theorem fair_still {s : σ} (h : ∀ a, ¬ Enabled next agent offered s a) :
    (still next s).Fair agent offered := by
  intro a hOften
  obtain ⟨_, -, hCan⟩ := hOften 0
  exact absurd hCan (h a)

theorem Fair.prepend {run : Run next} (hFair : run.Fair agent offered) {s : σ} {i : ι}
    (h : next s i (run.state 0)) : (run.prepend h).Fair agent offered := by
  intro a hOften k
  have hLater : ∀ j, ∃ k' ≥ j, Enabled next agent offered (run.state k') a := by
    intro j
    obtain ⟨k', hLe, hCan⟩ := hOften (j + 1)
    cases k' with
    | zero => exact absurd hLe (by omega)
    | succ k' => exact ⟨k', by omega, hCan⟩
  obtain ⟨k', hLe, j, hInput, hAgent⟩ := hFair a hLater k
  exact ⟨k' + 1, by omega, j, hInput, hAgent⟩

/-- A finite run continued by a fair one. -/
theorem Fair.of_steps {ω : Type z} {emit : σ → ι → List ω → σ → Prop}
    {allowed : List ι → List ω → σ → ι → List ω → Prop} {s₀ s : σ} {is : List ι} {os : List ω}
    {P : σ → Prop}
    (hNext : ∀ is os s i o s', allowed is os s i o → emit s i o s' → next s i s' ∧ P s)
    (steps : Steps emit allowed s₀ is os s) (run : Run next) (hStart : run.state 0 = s)
    (hFair : run.Fair agent offered) (hP : ∀ k, P (run.state k)) :
    ∃ whole : Run next, whole.state 0 = s₀ ∧ whole.Fair agent offered ∧
      (∀ k, P (whole.state k)) ∧ ∀ k, whole.state (is.length + k) = run.state k := by
  induction steps generalizing run with
  | start => exact ⟨run, hStart, hFair, hP, fun k => by rw [List.length_nil, Nat.zero_add]⟩
  | step before hOk hStep ih =>
    subst hStart
    obtain ⟨hTo, hHere⟩ := hNext _ _ _ _ _ _ hOk hStep
    obtain ⟨whole, hFrom, hWhole, hAll, hSame⟩ := ih (run.prepend hTo) rfl (hFair.prepend hTo) (by
      rintro (_ | k)
      · exact hHere
      · exact hP k)
    refine ⟨whole, hFrom, hWhole, hAll, fun k => ?_⟩
    rw [List.length_append, List.length_singleton, Nat.add_assoc, Nat.add_comm 1 k]
    exact hSame (k + 1)

end Run

end KiwiDevice.Lib

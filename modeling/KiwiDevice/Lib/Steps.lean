import Mathlib.Data.List.Basic

/-!
# Runs of a machine that reads inputs and emits events

`next s i o s'` says that in state `s` the input `i` can be taken, emits the events `o` and leads to
`s'`. `Steps` is a finite run; `allowed` restricts the inputs by what has happened so far, so an
assumption about a run is a predicate on its steps. Every property of runs is proved by one of the
two induction rules below.
-/

namespace KiwiDevice.Lib

universe u v w

variable {σ : Type u} {ι : Type v} {ω : Type w}

inductive Steps (next : σ → ι → List ω → σ → Prop)
    (allowed : List ι → List ω → σ → ι → List ω → Prop) (s₀ : σ) :
    List ι → List ω → σ → Prop where
  | start : Steps next allowed s₀ [] [] s₀
  | step {is : List ι} {os : List ω} {s s' : σ} {i : ι} {o : List ω}
      (run : Steps next allowed s₀ is os s) (ok : allowed is os s i o) (h : next s i o s') :
      Steps next allowed s₀ (is ++ [i]) (os ++ o) s'

/-- No restriction on the steps of a run. -/
def anyStep : List ι → List ω → σ → ι → List ω → Prop := fun _ _ _ _ _ => True

variable {next : σ → ι → List ω → σ → Prop}
  {allowed : List ι → List ω → σ → ι → List ω → Prop} {s₀ : σ}

/-- What holds at the start and is kept by every allowed step holds in every state of every run. -/
theorem Steps.invariant {I : σ → Prop} (hStart : I s₀)
    (hStep : ∀ is os s i o s', allowed is os s i o → I s → next s i o s' → I s')
    {is : List ι} {os : List ω} {s : σ} (run : Steps next allowed s₀ is os s) : I s := by
  induction run with
  | start => exact hStart
  | step run ok h ih => exact hStep _ _ _ _ _ _ ok ih h

/-- The same for a property of the state together with the inputs and events so far. -/
theorem Steps.history {I : List ι → List ω → σ → Prop} (hStart : I [] [] s₀)
    (hStep : ∀ is os s i o s', allowed is os s i o → I is os s → next s i o s' →
      I (is ++ [i]) (os ++ o) s')
    {is : List ι} {os : List ω} {s : σ} (run : Steps next allowed s₀ is os s) : I is os s := by
  induction run with
  | start => exact hStart
  | step run ok h ih => exact hStep _ _ _ _ _ _ ok ih h

/-- The last step of a run. -/
theorem Steps.unsnoc (is : List ι) {os : List ω} {s : σ} {i : ι}
    (run : Steps next allowed s₀ (is ++ [i]) os s) :
    ∃ os' s' o, Steps next allowed s₀ is os' s' ∧ next s' i o s := by
  generalize hInputs : is ++ [i] = inputs at run
  cases run with
  | start => exact absurd hInputs (by simp)
  | step before _ h =>
    obtain ⟨rfl, hLast⟩ := List.append_inj' hInputs rfl
    cases hLast
    exact ⟨_, _, _, before, h⟩

theorem Steps.eq_of_nil {os : List ω} {s : σ} (run : Steps next allowed s₀ [] os s) : s = s₀ := by
  generalize hInputs : ([] : List ι) = inputs at run
  cases run with
  | start => rfl
  | step _ _ _ => exact absurd hInputs (by simp)

theorem Steps.mono {allowed' : List ι → List ω → σ → ι → List ω → Prop}
    (h : ∀ is os s i o, allowed is os s i o → allowed' is os s i o)
    {is : List ι} {os : List ω} {s : σ} (run : Steps next allowed s₀ is os s) :
    Steps next allowed' s₀ is os s := by
  induction run with
  | start => exact .start
  | step _ ok hNext ih => exact ih.step (h _ _ _ _ _ ok) hNext

/-- The run of an executable machine on further inputs, when no step fails; the machine sees the
inputs and events so far. -/
def exec (f : List ι → List ω → σ → ι → Option (σ × List ω)) :
    List ι → List ω → σ → List ι → Option (σ × List ω)
  | _, os, s, [] => some (s, os)
  | is₀, os, s, i :: is =>
    match f is₀ os s i with
    | none => none
    | some (s', o) => exec f (is₀ ++ [i]) (os ++ o) s' is

theorem Steps.append_exec {f : List ι → List ω → σ → ι → Option (σ × List ω)} {is₀ is : List ι}
    {os₀ : List ω} {s : σ} {r : σ × List ω}
    (hNext : ∀ i ∈ is, ∀ is' os' s s' o, f is' os' s i = some (s', o) →
      next s i o s' ∧ allowed is' os' s i o)
    (run : Steps next allowed s₀ is₀ os₀ s) (h : Lib.exec f is₀ os₀ s is = some r) :
    Steps next allowed s₀ (is₀ ++ is) r.2 r.1 := by
  induction is generalizing is₀ os₀ s with
  | nil =>
    cases h
    rwa [List.append_nil]
  | cons i is ih =>
    rw [Lib.exec] at h
    split at h
    · cases h
    · rename_i s' o hStep
      obtain ⟨hTo, hOk⟩ := hNext i List.mem_cons_self is₀ os₀ _ _ _ hStep
      have hRun := ih (fun j hj => hNext j (List.mem_cons_of_mem _ hj)) (run.step hOk hTo) h
      rwa [List.append_assoc] at hRun

theorem Steps.of_exec (next : σ → ι → List ω → σ → Prop)
    (allowed : List ι → List ω → σ → ι → List ω → Prop)
    {f : List ι → List ω → σ → ι → Option (σ × List ω)} {is : List ι}
    {r : σ × List ω}
    (hNext : ∀ i ∈ is, ∀ is' os' s s' o, f is' os' s i = some (s', o) →
      next s i o s' ∧ allowed is' os' s i o)
    (h : exec f [] [] s₀ is = some r) : Steps next allowed s₀ is r.2 r.1 :=
  Steps.append_exec hNext .start h

theorem Steps.append_silent {f : σ → ι → Option σ} {is₀ is : List ι} {s s' : σ}
    (hNext : ∀ s i s', f s i = some s' → next s i [] s')
    (run : Steps next anyStep s₀ is₀ [] s) (h : List.foldlM f s is = some s') :
    Steps next anyStep s₀ (is₀ ++ is) [] s' := by
  induction is generalizing is₀ s with
  | nil =>
    cases h
    rwa [List.append_nil]
  | cons i is ih =>
    rw [List.foldlM_cons] at h
    obtain ⟨s₁, hStep, hRest⟩ := Option.bind_eq_some_iff.mp h
    have hRun := ih (run.step trivial (hNext s i s₁ hStep)) hRest
    rwa [List.append_assoc] at hRun

/-- The run of a machine that emits nothing, when no step fails. -/
theorem Steps.of_silent {f : σ → ι → Option σ} {is : List ι} {s : σ}
    (hNext : ∀ s i s', f s i = some s' → next s i [] s') (h : List.foldlM f s₀ is = some s) :
    Steps next anyStep s₀ is [] s :=
  Steps.append_silent hNext .start h

end KiwiDevice.Lib

import KiwiDevice.Camera.PollFair

/-!
# Synchronous updates of the poll thread

A synchronous call whose command is written returns, and the updates before it are in effect then.
A call whose write fails returns without them, and a writer that waits for room in the pipe keeps
the thread from answering.
-/

namespace KiwiDevice.Camera.PollThread

universe u

namespace PollState

variable {τ : Type u} [DecidableEq τ]

theorem sync_takesEffect_and_returns (pipe : PollPipe) :
    (∀ (is : List (PollInput τ)) (os : List (PollEvent τ)) (s : PollState τ), PollRun pipe is os s →
      ∀ (i : PollInput τ) (o : List (PollEvent τ)) (s' : PollState τ) (n : τ), Next pipe s i o s' →
        .returned n 0 ∈ o → (∀ c pc, s.calls n = some (c, pc) → c.sync = true) →
          (∃ cmd, .sent n cmd ∈ os) → TakesEffect (os ++ o) n s') ∧
    ∀ run : Lib.Run (Moves pipe : PollState τ → PollInput τ → PollState τ → Prop),
      FairRun pipe run → ∀ (k : Nat) (n : τ), (run.state k).InProgress n →
        ∃ k' ≥ k, ∃ c, (run.state k').calls n = some (c, .done) := by
  constructor
  · intro is os s run i o s' n hNext hReturned hSync hSent
    obtain ⟨hRecorded, hSound⟩ := recorded_of_run run
    exact takesEffect_of_returned hRecorded hSound hNext hReturned hSync hSent
  · exact fun run hRun k n hProgress => hRun.done hProgress

section Instances

/-! ### Runs -/

open Lib (Run)

variable {pipe : PollPipe} {is : List (PollInput τ)} {os o : List (PollEvent τ)}
  {s s' : PollState τ} {r : PollState τ × List (PollEvent τ)}

theorem PollRun.begins (run : PollRun pipe is os s) (n : τ) (c : PollCall)
    (hOne : s.OneSync (.call n c)) (h : s.step pipe (.call n c) = some (s', o)) :
    PollRun pipe (is ++ [.call n c]) (os ++ o) s' :=
  run.step hOne h

/-- A run goes on with steps that are not calls. -/
theorem PollRun.goOn (run : PollRun pipe is os s) (is' : List (PollInput τ))
    (hOne : ∀ i ∈ is', ∀ s : PollState τ, s.OneSync i)
    (h : Lib.exec (fun _ _ s i => s.step pipe i) is os s is' = some r) :
    PollRun pipe (is ++ is') r.2 r.1 :=
  Lib.Steps.append_exec (fun i hMem _ _ s _ _ hStep => ⟨hStep, hOne i hMem s⟩) run h

omit [DecidableEq τ] in
theorem oneSync_init (n : τ) (c : PollCall) : (init pipe).OneSync (.call n c) := by
  rintro - m ⟨_, _, hCall, -⟩
  cases hCall

theorem not_canStep (hCaller : ∀ n, s.callStep pipe n true = none)
    (hWorker : ∀ pick, s.workerStep pipe pick = none) (a : PollAgent τ) : ¬ CanStep pipe s a := by
  rintro ⟨input, s', hAgent, hOffered, -, o, hNext⟩
  cases input with
  | call n c => cases hAgent
  | caller n ok =>
    have hOk : ok = true := hOffered
    subst hOk
    have hStep : s.callStep pipe n true = some (s', o) := hNext
    rw [hCaller n] at hStep
    cases hStep
  | worker pick =>
    have hStep : s.workerStep pipe pick = some (s', o) := hNext
    rw [hWorker pick] at hStep
    cases hStep
  | data => cases hAgent

/-- The thread does not wait for the mutex. -/
def calm (s : PollState τ) : Bool :=
  match s.worker with
  | .sigDone _ => s.mutex.isNone
  | _ => true

omit [DecidableEq τ] in
theorem not_stuck_of_calm (h : s.calm = true) : ¬ Stuck pipe s := by
  rintro ⟨cmd, m, c, hAt, hMutex, -⟩
  rw [calm, hAt, hMutex] at h
  cases h

/-- A call is made, it goes on with steps that are not calls, and then nobody can step. -/
theorem exists_fairRun (pipe : PollPipe) (n : τ) (c : PollCall) (is : List (PollInput τ))
    (hOne : ∀ i ∈ is, ∀ s : PollState τ, s.OneSync i)
    (hCall : Next pipe (init pipe) (.call n c) o s)
    (hRest : Lib.exec (fun _ _ s i => if s.calm then s.step pipe i else none) [] [] s is = some r)
    (hEnd : ∀ a, ¬ CanStep pipe r.1 a) (hCalm : r.1.calm = true) :
    ∃ run, FairRun pipe run ∧ run.state 1 = s := by
  have hSteps : Lib.Steps (Next pipe) (fun _ _ s i _ => s.OneSync i ∧ ¬ Stuck pipe s) s is r.2
      r.1 := by
    apply Lib.Steps.of_exec _ _ _ hRest
    intro i hMem _ _ s s' o hStep
    by_cases hNow : s.calm = true
    · rw [if_pos hNow] at hStep
      exact ⟨hStep, hOne i hMem s, not_stuck_of_calm hNow⟩
    · rw [if_neg hNow] at hStep
      cases hStep
  obtain ⟨run, rfl, hFair, hFree, -⟩ := Run.Fair.of_steps (P := fun s => ¬ Stuck pipe s)
    (fun _ _ _ _ o _ hOk hStep => ⟨⟨hOk.1, o, hStep⟩, hOk.2⟩) hSteps (Run.still (Moves pipe) r.1)
    rfl (Run.fair_still hEnd) (fun _ => not_stuck_of_calm hCalm)
  refine ⟨run.prepend ⟨oneSync_init n c, o, hCall⟩, ⟨rfl, hFair.prepend _, ?_⟩, rfl⟩
  rintro (_ | k)
  · exact not_stuck_of_calm rfl
  · exact hFree k

def oneCommand : PollPipe := ⟨9, 1, Nat.one_pos⟩

/-- Caller 0 adds a descriptor, and the thread answers. -/
def syncAdd : List (PollInput (Fin 3)) :=
  List.replicate 5 (.caller 0 true) ++ List.replicate 6 (.worker none) ++
    [.worker (some 0), .caller 0 true]

theorem syncAdd_takesEffect :
    (∃ is os s, PollRun oneCommand is os (s : PollState (Fin 3)) ∧ TakesEffect os 0 s ∧
      s.pollFds 1 = 5) ∧
    ∃ run : Run (Moves oneCommand : PollState (Fin 3) → _), FairRun oneCommand run ∧
      ∃ k ≥ 1, ∃ c, (run.state k).calls 0 = some (c, .done) := by
  constructor
  · have run₀ : PollRun oneCommand [] [] (init oneCommand : PollState (Fin 3)) := .start
    have run₁ := run₀.begins 0 (.addPollFd 256 5 true) (oneSync_init 0 _) rfl
    have run₂ := run₁.goOn syncAdd (by simp [syncAdd, OneSync]) rfl
    have hEffect := (sync_takesEffect_and_returns oneCommand).1 _ _ _ run₂ (.caller 0 true) _ _ 0
      rfl (by decide) (by rintro c pc hCall; cases hCall; rfl) ⟨.pollEntriesUpdated, by decide⟩
    exact ⟨_, _, _, run₂.goOn [.caller 0 true] (by simp [OneSync]) rfl, hEffect, rfl⟩
  · obtain ⟨run, hRun, hState⟩ := exists_fairRun oneCommand (0 : Fin 3) (.addPollFd 256 5 true)
      (syncAdd ++ [.caller 0 true]) (by simp [syncAdd, OneSync]) rfl rfl
      (not_canStep (fun n => match n with | 0 => rfl | 1 => rfl | 2 => rfl) fun _ => rfl) rfl
    refine ⟨run, hRun, (sync_takesEffect_and_returns oneCommand).2 run hRun 1 0 ?_⟩
    rw [hState]
    exact ⟨_, _, rfl, rfl, by decide⟩

end Instances

/-! ### Calls without an answer -/

/-- The thread is about to answer call 0, and `k` commands are in the pipe. -/
structure Filled (s : PollState Nat) (k : Nat) : Prop where
  worker : s.worker = .sigDone (0, .commit)
  mutex : s.mutex = none
  pipe : s.pipe.length = k
  waits : s.calls 0 = some (.commitUpdates, .wait)
  blocked : s.condV.woken = []
  done : ∀ n, 0 < n → n ≤ k → ∃ c, s.calls n = some (c, .done)
  idle : ∀ n, k < n → s.calls n = none

section Filled

variable {pipe : PollPipe} {is : List (PollInput Nat)} {os o : List (PollEvent Nat)}
  {s s' : PollState Nat} {n k : Nat}

theorem PollRun.caller (run : PollRun pipe is os s) (h : s.callStep pipe n true = some (s', o)) :
    PollRun pipe (is ++ [.caller n true]) (os ++ o) s' :=
  run.step trivial h

theorem callStep_lock {c : PollCall} (hCall : s.calls n = some (c, .lock)) (h : s.mutex = none) :
    s.callStep pipe n true =
      some ({ s with mutex := some n, status := false }.goto n c .write, []) := by
  rw [callStep, hCall]
  exact if_pos h

theorem callStep_write {c : PollCall} (hCall : s.calls n = some (c, .write))
    (h : s.pipe.length < pipe.capacity) : s.callStep pipe n true =
      some ({ s with pipe := s.pipe ++ [(n, c.cmd)] }.goto n c (if c.sync then .check else .unlock),
        [.sent n c.cmd]) := by
  rw [callStep, hCall]
  exact if_pos h

def asyncAdd : PollCall := .addPollFd 256 5 false

/-- An asynchronous call comes to its write. -/
theorem PollRun.asyncAdd (run : PollRun pipe is os s) (hCalls : s.calls n = none)
    (hMutex : s.mutex = none) : ∃ is' os' s', PollRun pipe is' os' s' ∧
      s'.calls = Function.update s.calls n (some (PollState.asyncAdd, .write)) ∧
        s'.mutex = some n ∧ s'.pipe = s.pipe ∧ s'.condV = s.condV ∧ s'.worker = s.worker := by
  have run₁ := run.begins n PollState.asyncAdd (fun h => by cases h) (by rw [step, hCalls])
  have run₂ := run₁.caller (n := n) (by rw [callStep, calls_goto_self]; rfl)
  have run₃ := run₂.caller (n := n) (by rw [callStep, calls_goto_self])
  have run₄ := run₃.caller (callStep_lock calls_goto_self hMutex)
  refine ⟨_, _, _, run₄, ?_, rfl, rfl, rfl, rfl⟩
  simp [goto, setEntry]

theorem exists_filled (pipe : PollPipe) (hLe : k ≤ pipe.capacity) :
    ∃ is os s, PollRun pipe is os s ∧ Filled s k := by
  induction k with
  | zero =>
    have run₀ : PollRun pipe [] [] (init pipe : PollState Nat) := .start
    have run₁ := run₀.begins 0 .commitUpdates (oneSync_init 0 _) rfl
    have run₂ := run₁.caller (n := 0) rfl
    have run₃ := run₂.caller (callStep_write calls_goto_self pipe.pos)
    have run₄ := run₃.goOn [.caller 0 true, .worker none] (by simp [OneSync]) rfl
    refine ⟨_, _, _, run₄, rfl, rfl, rfl, rfl, rfl, by omega, ?_⟩
    rintro (_ | n) hPos
    · exact absurd hPos (Nat.lt_irrefl 0)
    · rfl
  | succ k ih =>
    obtain ⟨is, os, s, run, h⟩ := ih (Nat.le_of_succ_le hLe)
    obtain ⟨is₁, os₁, s₁, run₁, hCalls, hMutex, hPipe, hCond, hWorker⟩ :=
      run.asyncAdd (h.idle (k + 1) (Nat.lt_succ_self k)) h.mutex
    have hCall : s₁.calls (k + 1) = some (asyncAdd, .write) := by
      rw [hCalls, Function.update_self]
    have run₂ := run₁.caller (callStep_write hCall (by rw [hPipe, h.pipe]; exact hLe))
    have run₃ := run₂.caller (n := k + 1) (by rw [callStep, calls_goto_self]; rfl)
    have hOther : ∀ (n : Nat) (pc pc' : CallPc) (s₂ : PollState Nat), n ≠ k + 1 →
        s₂.calls = s₁.calls →
          ({ s₂.goto (k + 1) asyncAdd pc with mutex := none }.goto (k + 1) asyncAdd pc').calls n =
            s.calls n := by
      intro n pc pc' s₂ hNe hSame
      simp only [goto, Function.update_of_ne hNe, hSame, hCalls]
    refine ⟨_, _, _, run₃, hWorker.trans h.worker, rfl, ?_, ?_, ?_, ?_, ?_⟩
    · change (s₁.pipe ++ [_]).length = k + 1
      rw [List.length_append, hPipe, h.pipe, List.length_singleton]
    · exact (hOther 0 _ _ _ (Nat.succ_ne_zero k).symm rfl).trans h.waits
    · exact (congrArg Lib.Condition.woken hCond).trans h.blocked
    · intro n hPos hLe
      by_cases hLast : n = k + 1
      · subst hLast
        exact ⟨asyncAdd, calls_goto_self⟩
      · obtain ⟨c, hDone⟩ := h.done n hPos (by omega)
        exact ⟨c, (hOther n _ _ _ hLast rfl).trans hDone⟩
    · intro n hLt
      exact (hOther n _ _ _ (Nat.ne_of_gt hLt) rfl).trans (h.idle n (by omega))

end Filled

/-- The write of a synchronous call fails; and the thread and the writers wait for each other. -/
theorem sync_unanswered :
    (∀ pipe, ∃ is os s, PollRun pipe is os (s : PollState Nat) ∧ .returned 0 0 ∈ os ∧
      ¬ TakesEffect os 0 s) ∧
    ∀ pipe, ∃ is os s, PollRun pipe is os (s : PollState Nat) ∧ s.InProgress 0 ∧
      ∀ a, ¬ CanStep pipe s a := by
  constructor
  · intro pipe
    have run₀ : PollRun pipe [] [] (init pipe : PollState Nat) := .start
    have run₁ := run₀.begins 0 (.addPollFd 256 5 true) (oneSync_init 0 _) rfl
    have hFailed : ∃ is s, PollRun pipe is
        [.called 0 (.addPollFd 256 5 true), .stored 0 0 5, .writeFailed 0, .returned 0 0]
        (s : PollState Nat) ∧ s.pollFds 1 = 0 :=
      ⟨_, _, run₁.goOn (List.replicate 3 (.caller 0 true) ++ [.caller 0 false, .caller 0 true])
        (by simp [OneSync]) rfl, rfl⟩
    obtain ⟨is, s, run, hFd⟩ := hFailed
    refine ⟨is, _, s, run, by decide, ?_⟩
    intro h
    obtain ⟨m, -, hReflects, hLast⟩ := h.slots 0 (by decide)
    have hLt : 1 < m := hLast 0 (Or.inl rfl) 1 5 rfl
    obtain ⟨m, rfl⟩ := Nat.exists_eq_add_of_le' hLt
    rw [hFd] at hReflects
    have hEntry : entryAt 0 (List.take (m + 2) [.called 0 (.addPollFd 256 5 true), .stored 0 0 5,
        .writeFailed 0, (.returned 0 0 : PollEvent Nat)]) = 5 := by
      match m with
      | 0 => rfl
      | 1 => rfl
      | m + 2 => rw [List.take_of_length_le (by simp)]; rfl
    rw [hEntry] at hReflects
    rcases hReflects with h | ⟨h, -⟩ <;> exact absurd h (by decide)
  · intro pipe
    obtain ⟨is, os, s, run, h⟩ := exists_filled pipe le_rfl
    obtain ⟨is₁, os₁, s₁, run₁, hCalls, hMutex, hPipe, hCond, hWorker⟩ :=
      run.asyncAdd (h.idle _ (Nat.lt_succ_self _)) h.mutex
    have hOther : ∀ n, n ≠ pipe.capacity + 1 → s₁.calls n = s.calls n := by
      intro n hNe
      rw [hCalls, Function.update_of_ne hNe]
    have hWaits := (hOther 0 (Nat.succ_ne_zero _).symm).trans h.waits
    refine ⟨is₁, os₁, s₁, run₁, ⟨_, _, hWaits, rfl, by decide⟩, not_canStep ?_ ?_⟩
    · intro n
      rw [callStep]
      rcases lt_trichotomy n (pipe.capacity + 1) with hLt | rfl | hGt
      · by_cases hZero : n = 0
        · subst hZero
          rw [hWaits]
          exact if_neg fun hMem => absurd hMem.2 (by rw [hMutex]; simp)
        · obtain ⟨c, hDone⟩ := h.done n (Nat.pos_of_ne_zero hZero) (Nat.le_of_lt_succ hLt)
          rw [hOther n (Nat.ne_of_lt hLt), hDone]
      · rw [hCalls, Function.update_self]
        have hFull : ¬ s₁.pipe.length < pipe.capacity := by
          rw [hPipe, h.pipe]
          exact Nat.lt_irrefl _
        exact if_neg hFull
      · rw [hOther n (Nat.ne_of_gt hGt), h.idle n (by omega)]
    · intro pick
      rw [workerStep, hWorker.trans h.worker, hMutex]
      rfl

end PollState

end KiwiDevice.Camera.PollThread

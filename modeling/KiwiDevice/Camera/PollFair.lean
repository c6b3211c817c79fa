import KiwiDevice.Camera.PollUpdates
import KiwiDevice.Lib.Fairness
import Mathlib.Data.Prod.Lex

/-!
# A synchronous call returns

In a fair run the mutex is released again and again, unless a writer waits for room in the pipe
while the thread waits for the mutex. So the thread gets to the command of a synchronous call, and
the call to its end, whatever the other calls do.
-/

namespace KiwiDevice.Camera.PollThread

universe u

open Lib (Condition Run)

/-- Who takes steps of its own: the calls and the thread. -/
inductive PollAgent (τ : Type u) where
  | caller (n : τ)
  | worker

namespace PollInput

variable {τ : Type u}

def agent : PollInput τ → Option (PollAgent τ)
  | .caller n _ => some (.caller n)
  | .worker _ => some .worker
  | _ => none

/-- Nobody counts on a write that fails. -/
def offered : PollInput τ → Prop
  | .caller _ ok => ok = true
  | _ => True

end PollInput

namespace PollState

variable {τ : Type u}

/-- The thread has to take the mutex, and its holder waits for room in the pipe. -/
def Stuck (pipe : PollPipe) (s : PollState τ) : Prop :=
  ∃ cmd m c, s.worker = .sigDone cmd ∧ s.mutex = some m ∧ s.calls m = some (c, .write) ∧
    pipe.capacity ≤ s.pipe.length

/-- The steps that the thread takes before it reads the next command, at most. -/
def workerSteps : WorkerPc τ → Nat
  | .poll => 2 * MAX_STREAM_NUM_IN_BUNDLE + 3
  | .testFd _ i => 2 * (MAX_STREAM_NUM_IN_BUNDLE - i) + 2
  | .copyFd _ i => 2 * (MAX_STREAM_NUM_IN_BUNDLE - i) + 1
  | .sigDone _ => 1

/-- The steps for `k` commands. -/
def workLeft (k : Nat) (wpc : WorkerPc τ) : Nat :=
  k * (2 * MAX_STREAM_NUM_IN_BUNDLE + 4) + workerSteps wpc

theorem workLeft_poll_lt (k : Nat) (wpc : WorkerPc τ) :
    workLeft k (.poll : WorkerPc τ) < workLeft (k + 1) wpc := by
  simp only [workLeft, workerSteps, Nat.succ_mul]
  omega

def place (s : PollState τ) (n : τ) : Nat := (s.calls n).elim 0 fun call => stage call.2

variable {pipe : PollPipe} {s s' s₁ : PollState τ} {n m : τ} {c : PollCall} {pc pc' : CallPc}
  {cmd : τ × PipeCmd} {o : List (PollEvent τ)} {i : Nat}

theorem place_eq (h : s.calls n = some (c, pc)) : s.place n = stage pc := by
  rw [place, h]
  rfl

theorem stage_inj (h : stage pc = stage pc') : pc = pc' := by
  cases pc <;> cases pc' <;> first | rfl | cases h

theorem Sound.holder (h : s.Sound) (hMutex : s.mutex = some m) :
    ∃ c pc, s.calls m = some (c, pc) ∧ (pc = .write ∨ pc = .check ∨ pc = .unlock) := by
  have hSound := h.calls m
  cases hCall : s.calls m with
  | none =>
    rw [CallSound, hCall] at hSound
    exact absurd hMutex hSound.mutex
  | some call =>
    obtain ⟨c, pc⟩ := call
    have hPc := hSound.of_pc hCall
    cases pc with
    | write => exact ⟨c, _, rfl, by simp⟩
    | check => exact ⟨c, _, rfl, by simp⟩
    | unlock => exact ⟨c, _, rfl, by simp⟩
    | wait => exact absurd hMutex hPc.1
    | done => exact absurd hMutex hPc.1
    | _ => exact absurd hMutex hPc.mutex

theorem Sound.mutex_of_pc (h : s.Sound) (hCall : s.calls n = some (c, pc))
    (hPc : pc = .write ∨ pc = .check ∨ pc = .unlock) : s.mutex = some n := by
  have hSound := (h.calls n).of_pc hCall
  rcases hPc with rfl | rfl | rfl <;> exact hSound.1

/-- A pass of the loop over the entries brings the thread nearer to the end of the command. -/
theorem SlotStep.progress {wpc : WorkerPc τ} (h : SlotStep cmd i wpc o)
    (hi : i < MAX_STREAM_NUM_IN_BUNDLE) :
    current wpc = [cmd] ∧ workerSteps wpc < workerSteps (.copyFd cmd i) ∨
      wpc = .poll ∧ cmd.2 = .pollEntriesUpdatedAsync := by
  cases h with
  | next hMore =>
    refine Or.inl ⟨rfl, ?_⟩
    simp only [workerSteps]
    omega
  | async _ hAsync => exact Or.inr ⟨rfl, hAsync⟩
  | sync =>
    refine Or.inl ⟨rfl, ?_⟩
    simp only [workerSteps]
    omega

/-- What a step of the thread brings: it goes on with its command, is done with an asynchronous one,
or answers a synchronous one. -/
inductive Progress [DecidableEq τ] (s s' : PollState τ) (pick : Option τ) : Prop where
  | goesOn (steps : workerSteps s'.worker < workerSteps s.worker)
      (unprocessed : s'.unprocessed = s.unprocessed) (condV : s'.condV = s.condV)
      (mutex : s'.mutex = s.mutex)
  | finishes {cmd : τ × PipeCmd} (unprocessed : s.unprocessed = cmd :: s'.unprocessed)
      (isAsync : cmd.2 = .pollEntriesUpdatedAsync) (worker : s'.worker = .poll)
      (condV : s'.condV = s.condV) (mutex : s'.mutex = s.mutex)
  | answers {cmd : τ × PipeCmd} (worker : s.worker = .sigDone cmd) (free : s.mutex = none)
      (signal : s.condV.signal pick = some s'.condV)
      (unprocessed : s.unprocessed = cmd :: s'.unprocessed) (after : s'.worker = .poll)

theorem Sound.of_waiting (h : s.Sound) (hWaiting : n ∈ s.condV.waiting) :
    ∃ c, s.calls n = some (c, .wait) ∧ c.sync = true ∧ s.Queued n := by
  obtain ⟨c, pc, hCall, hSync, -⟩ := h.inProgress_of_inside (Or.inl hWaiting)
  have hPc := (h.calls n).of_pc hCall
  have hInside : s.condV.Inside n := Or.inl hWaiting
  cases pc with
  | wait =>
    rcases hPc.2.2 with ⟨-, hQueued⟩ | ⟨hNot, -⟩
    · exact ⟨c, hCall, hSync, hQueued⟩
    · exact absurd hWaiting hNot
  | write => exact absurd hInside hPc.2.1
  | check => exact absurd hInside hPc.2.1
  | unlock => exact absurd hInside hPc.2.1
  | done => exact absurd hInside hPc.2.1
  | _ => exact absurd hInside hPc.cond

section Steps

variable [DecidableEq τ] {ok : Bool} {pick : Option τ} {input : PollInput τ}

/-- A step in a run. -/
def Moves (pipe : PollPipe) (s : PollState τ) (input : PollInput τ) (s' : PollState τ) : Prop :=
  s.OneSync input ∧ ∃ o, Next pipe s input o s'

def CanStep (pipe : PollPipe) (s : PollState τ) (a : PollAgent τ) : Prop :=
  Lib.Run.Enabled (Moves pipe) PollInput.agent PollInput.offered s a

theorem canStep_caller (h : s.callStep pipe n true = some (s', o)) : CanStep pipe s (.caller n) :=
  ⟨.caller n true, s', rfl, rfl, trivial, o, h⟩

theorem canStep_worker (pick : Option τ) (h : s.workerStep pipe pick = some (s', o)) :
    CanStep pipe s .worker :=
  ⟨.worker pick, s', rfl, trivial, trivial, o, h⟩

/-- The thread only waits for a command or for the mutex. -/
theorem canStep_of_free (hQueued : s.unprocessed ≠ [])
    (hFree : ∀ cmd, s.worker = .sigDone cmd → s.mutex = none) : CanStep pipe s .worker := by
  cases hAt : s.worker with
  | poll =>
    cases hPipe : s.pipe with
    | nil =>
      rw [unprocessed, hAt, hPipe] at hQueued
      exact absurd rfl hQueued
    | cons cmd rest =>
      by_cases hCommit : cmd.2 = .commit
      · apply canStep_worker none
        simp only [workerStep, hAt, hPipe, if_pos hCommit]
        rfl
      · apply canStep_worker none
        simp only [workerStep, hAt, hPipe, if_neg hCommit]
        rfl
  | testFd cmd i =>
    by_cases hFd : 0 < (s.pollEntries i).fd
    · apply canStep_worker none
      simp only [workerStep, hAt, if_pos hFd]
      rfl
    · apply canStep_worker none
      simp only [workerStep, hAt, if_neg hFd]
      rfl
  | copyFd cmd i =>
    apply canStep_worker none
    simp only [workerStep, hAt]
    rfl
  | sigDone cmd =>
    obtain ⟨pick, condV, hSignal⟩ := s.condV.exists_signal
    apply canStep_worker pick
    simp only [workerStep, hAt, if_pos (hFree cmd hAt), hSignal, Option.map_some]
    rfl

/-! ### The mutex is released -/

/-- The holder waits for room in the pipe. -/
def WaitsForRoom (pipe : PollPipe) (s : PollState τ) (m : τ) : Prop :=
  s.place m = 4 ∧ pipe.capacity ≤ s.pipe.length

instance (pipe : PollPipe) (s : PollState τ) (m : τ) : Decidable (WaitsForRoom pipe s m) :=
  inferInstanceAs (Decidable (_ ∧ _))

def roomRank (pipe : PollPipe) (s : PollState τ) (m : τ) : Nat :=
  if WaitsForRoom pipe s m then workLeft s.unprocessed.length s.worker else 0

/-- What is left until the holder releases the mutex. -/
def holderRank (pipe : PollPipe) (m : τ) (s : PollState τ) : Nat ×ₗ Nat :=
  toLex (8 - s.place m, roomRank pipe s m)

def holderHelp (pipe : PollPipe) (m : τ) (s : PollState τ) : PollAgent τ :=
  if WaitsForRoom pipe s m then .worker else .caller m

theorem Sound.progress (h : s.Sound) (hStep : s.workerStep pipe pick = some (s', o)) :
    Progress s s' pick := by
  have hCase := workerStep_cases hStep
  have hWorker := h.worker
  generalize hAt : s.worker = wpc at hCase hWorker
  have hCurrent : s.unprocessed = current wpc ++ s.pipe := by rw [unprocessed, hAt]
  cases hCase with
  | commit hReadable =>
    refine .goesOn ?_ ?_ rfl rfl
    · rw [hAt]
      change 1 < 2 * MAX_STREAM_NUM_IN_BUNDLE + 3
      omega
    · rw [hCurrent, hReadable]
      rfl
  | update hReadable =>
    refine .goesOn ?_ ?_ rfl rfl
    · rw [hAt]
      exact Nat.lt_succ_self (2 * MAX_STREAM_NUM_IN_BUNDLE + 2)
    · rw [hCurrent, hReadable]
      rfl
  | valid =>
    refine .goesOn ?_ hCurrent.symm rfl rfl
    rw [hAt]
    exact Nat.lt_succ_self _
  | invalid _ hSlot =>
    rcases hSlot.progress hWorker.2.1 with ⟨hSame, hLt⟩ | ⟨rfl, hAsync⟩
    · refine .goesOn ?_ ?_ rfl rfl
      · rw [hAt]
        exact hLt.trans (Nat.lt_succ_self _)
      · rw [hCurrent, unprocessed, hSame]
        rfl
    · exact .finishes hCurrent hAsync rfl rfl rfl
  | copied hSlot =>
    rcases hSlot.progress hWorker.2.1 with ⟨hSame, hLt⟩ | ⟨rfl, hAsync⟩
    · refine .goesOn ?_ ?_ rfl rfl
      · rw [hAt]
        exact hLt
      · rw [hCurrent, unprocessed, hSame]
        rfl
    · exact .finishes hCurrent hAsync rfl rfl rfl
  | sigDone hFree hSignal => exact .answers hAt hFree hSignal hCurrent rfl

theorem WorkerStep.pipe_length_le {wpc : WorkerPc τ} (h : WorkerStep pipe s pick wpc s' o) :
    s'.pipe.length ≤ s.pipe.length := by
  cases h with
  | commit hReadable =>
    rw [hReadable]
    exact Nat.le_succ _
  | update hReadable =>
    rw [hReadable]
    exact Nat.le_succ _
  | _ => exact le_rfl

/-- A step of a call that does not hold the mutex, while another one does. -/
theorem Sound.other (h : s.Sound) (hMutex : s.mutex = some m) (hNe : n ≠ m)
    (hCall : s.calls n = some (c, pc)) (hStep : CallStep pipe s n c pc ok pc' s₁ o) :
    s₁.mutex = s.mutex ∧ s₁.pipe = s.pipe ∧ s₁.worker = s.worker := by
  have hNotMine (hPc : pc = .write ∨ pc = .check ∨ pc = .unlock) : False := by
    have hMine := h.mutex_of_pc hCall hPc
    rw [hMutex] at hMine
    exact hNe (Option.some.inj hMine).symm
  cases hStep with
  | lock hFree =>
    rw [hMutex] at hFree
    cases hFree
  | resumed _ hFree =>
    rw [hMutex] at hFree
    cases hFree
  | writeFailed => exact (hNotMine (by simp)).elim
  | sent => exact (hNotMine (by simp)).elim
  | signalled => exact (hNotMine (by simp)).elim
  | blocked => exact (hNotMine (by simp)).elim
  | returned => exact (hNotMine (by simp)).elim
  | _ => exact ⟨rfl, rfl, rfl⟩

/-- A step while `m` holds the mutex and afterwards does not go without it. -/
theorem Sound.holder_step (h : s.Sound) (hMutex : s.mutex = some m)
    (hNext : Next pipe s input o s') :
    s'.mutex ≠ some m ∨ holderRank pipe m s' < holderRank pipe m s ∨
      holderRank pipe m s' = holderRank pipe m s ∧ holderHelp pipe m s' = holderHelp pipe m s ∧
        input.agent ≠ some (holderHelp pipe m s) := by
  obtain ⟨c₀, pc₀, hHolder, hPlace⟩ := h.holder hMutex
  have hSame (hCalls : s'.calls m = s.calls m) (hPipe : s'.pipe = s.pipe)
      (hWorker : s'.worker = s.worker) :
      holderRank pipe m s' = holderRank pipe m s ∧ holderHelp pipe m s' = holderHelp pipe m s := by
    have hPlaceEq : s'.place m = s.place m := by rw [place, hCalls, place]
    have hWaits : WaitsForRoom pipe s' m ↔ WaitsForRoom pipe s m := by
      rw [WaitsForRoom, WaitsForRoom, hPlaceEq, hPipe]
    constructor
    · rw [holderRank, holderRank, hPlaceEq, roomRank, roomRank, unprocessed, hPipe, hWorker]
      exact congrArg (fun room => toLex (8 - s.place m, room)) (if_congr hWaits rfl rfl)
    · exact if_congr hWaits rfl rfl
  cases input with
  | call n c =>
    obtain ⟨hCall, rfl, -⟩ := call_cases hNext
    have hNe : m ≠ n := by
      rintro rfl
      rw [hHolder] at hCall
      cases hCall
    obtain ⟨hRank, hHelp⟩ := hSame (calls_goto_of_ne hNe) rfl rfl
    exact Or.inr (Or.inr ⟨hRank, hHelp, by simp [PollInput.agent]⟩)
  | caller n ok =>
    obtain ⟨c, pc, pc', s₁, hCall, hStep, rfl⟩ := callStep_cases hNext
    rcases eq_or_ne n m with rfl | hNe
    · have hLater := hStep.stage_lt
      right
      left
      apply Prod.Lex.toLex_lt_toLex.mpr
      left
      have hLe : stage pc' ≤ 8 := by cases pc' <;> decide
      rw [place_eq calls_goto_self, place_eq hCall]
      omega
    · obtain ⟨-, hPipe, hWorker⟩ := h.other hMutex hNe hCall hStep
      have hCalls : (s₁.goto n c pc').calls m = s.calls m := by
        rw [calls_goto_of_ne hNe.symm]
        cases hStep <;> rfl
      obtain ⟨hRank, hHelp⟩ := hSame hCalls hPipe hWorker
      refine Or.inr (Or.inr ⟨hRank, hHelp, ?_⟩)
      rw [holderHelp, PollInput.agent]
      split <;> simp [hNe]
  | worker pick =>
    have hCase := workerStep_cases hNext
    have hCalls := hCase.calls_eq
    have hPlaceEq : s'.place m = s.place m := by rw [place, hCalls, place]
    have hWork : workLeft s'.unprocessed.length s'.worker <
        workLeft s.unprocessed.length s.worker := by
      cases h.progress hNext with
      | goesOn hSteps hUnprocessed =>
        rw [hUnprocessed, workLeft, workLeft]
        omega
      | finishes hUnprocessed _ hPoll =>
        rw [hUnprocessed, hPoll, List.length_cons]
        exact workLeft_poll_lt _ _
      | answers _ hFree =>
        rw [hMutex] at hFree
        cases hFree
    have hShrinks := hCase.pipe_length_le
    by_cases hWaits : WaitsForRoom pipe s m
    · right
      left
      apply Prod.Lex.toLex_lt_toLex.mpr
      right
      refine ⟨by rw [hPlaceEq], ?_⟩
      rw [roomRank, roomRank, if_pos hWaits]
      split
      · exact hWork
      · omega
    · have hNot : ¬ WaitsForRoom pipe s' m := by
        rintro ⟨hAt, hFull⟩
        exact hWaits ⟨hPlaceEq.symm.trans hAt, hFull.trans hShrinks⟩
      refine Or.inr (Or.inr ⟨?_, ?_, ?_⟩)
      · rw [holderRank, holderRank, hPlaceEq, roomRank, roomRank, if_neg hNot, if_neg hWaits]
      · rw [holderHelp, holderHelp, if_neg hNot, if_neg hWaits]
      · rw [holderHelp, if_neg hWaits]
        simp [PollInput.agent]
  | data =>
    obtain ⟨rfl, -⟩ := data_cases hNext
    exact Or.inr (Or.inr ⟨rfl, rfl, by simp [PollInput.agent]⟩)

theorem Sound.mutex_step (h : s.Sound) (hMutex : s.mutex = some m)
    (hNext : Next pipe s input o s') : s'.mutex = some m ∨ s'.mutex = none := by
  cases input with
  | call n c =>
    obtain ⟨-, rfl, -⟩ := call_cases hNext
    exact Or.inl hMutex
  | caller n ok =>
    obtain ⟨c, pc, pc', s₁, hCall, hStep, rfl⟩ := callStep_cases hNext
    cases hStep with
    | lock hFree =>
      rw [hMutex] at hFree
      cases hFree
    | resumed _ hFree =>
      rw [hMutex] at hFree
      cases hFree
    | blocked => exact Or.inr rfl
    | returned => exact Or.inr rfl
    | _ => exact Or.inl hMutex
  | worker pick =>
    cases h.progress hNext with
    | goesOn _ _ _ hSame => exact Or.inl (hSame.trans hMutex)
    | finishes _ _ _ _ hSame => exact Or.inl (hSame.trans hMutex)
    | answers _ hFree =>
      rw [hMutex] at hFree
      cases hFree
  | data =>
    obtain ⟨rfl, -⟩ := data_cases hNext
    exact Or.inl hMutex

theorem Sound.holder_canStep (h : s.Sound) (hMutex : s.mutex = some m) (hNot : ¬ Stuck pipe s) :
    CanStep pipe s (holderHelp pipe m s) := by
  obtain ⟨c, pc, hCall, hPc⟩ := h.holder hMutex
  by_cases hWaits : WaitsForRoom pipe s m
  · rw [holderHelp, if_pos hWaits]
    apply canStep_of_free
    · intro hNil
      have hNone : s.pipe = [] := (List.append_eq_nil_iff.mp hNil).2
      have hFull := hWaits.2
      rw [hNone] at hFull
      exact absurd (pipe.pos.trans_le hFull) (Nat.lt_irrefl 0)
    · intro cmd hAt
      have hWrite : pc = .write := stage_inj ((place_eq hCall).symm.trans hWaits.1)
      exact absurd ⟨cmd, m, c, hAt, hMutex, hWrite ▸ hCall, hWaits.2⟩ hNot
  · rw [holderHelp, if_neg hWaits]
    rcases hPc with rfl | rfl | rfl
    · have hRoom : s.pipe.length < pipe.capacity := by
        by_contra hFull
        exact hWaits ⟨place_eq hCall, Nat.le_of_not_lt hFull⟩
      apply canStep_caller
      simp only [callStep, hCall, Bool.true_eq_false, if_false, if_pos hRoom]
      rfl
    · have hStatus := ((h.calls m).of_pc hCall).2.2.2.2
      apply canStep_caller
      simp only [callStep, hCall, hStatus]
      rfl
    · apply canStep_caller
      simp only [callStep, hCall]
      rfl

/-- A fair run in which the thread never waits for a holder of the mutex that waits for room. -/
structure FairRun (pipe : PollPipe) (run : Run (Moves pipe : PollState τ → _)) : Prop where
  start : run.state 0 = init pipe
  fair : run.Fair PollInput.agent PollInput.offered
  not_stuck : ∀ k, ¬ Stuck pipe (run.state k)

variable {run : Run (Moves pipe : PollState τ → PollInput τ → PollState τ → Prop)}

theorem FairRun.sound (hRun : FairRun pipe run) (k : Nat) : (run.state k).Sound := by
  refine run.invariant (I := Sound) ?_ (Nat.zero_le k) (hRun.start ▸ sound_init pipe)
  intro k input hInput hSound
  obtain ⟨hOne, o, hNext⟩ := run.step k input hInput
  exact hSound.next hOne hNext

theorem FairRun.released (hRun : FairRun pipe run) (k : Nat) :
    ∃ k' ≥ k, (run.state k').mutex = none := by
  by_contra hNever
  have hHeld : ∀ k' ≥ k, (run.state k').mutex ≠ none := fun k' hLe hNone => hNever ⟨k', hLe, hNone⟩
  cases hMutex : (run.state k).mutex with
  | none => exact hHeld k le_rfl hMutex
  | some m =>
    have hSame : ∀ k' ≥ k, (run.state k').mutex = some m := by
      intro k' hLe
      induction k', hLe using Nat.le_induction with
      | base => exact hMutex
      | succ j hLe ih =>
        cases hInput : run.input j with
        | none => rw [run.idle j hInput, ih]
        | some input =>
          obtain ⟨-, o, hNext⟩ := run.step j input hInput
          exact ((hRun.sound j).mutex_step ih hNext).resolve_right
            (hHeld (j + 1) (Nat.le_succ_of_le hLe))
    have hOut : ∃ k' ≥ k, (run.state k').mutex ≠ some m := by
      apply hRun.fair.eventually (fun s => s.mutex ≠ some m) (holderRank pipe m) (holderHelp pipe m)
      · intro j input hInput hHolds
        obtain ⟨-, o, hNext⟩ := run.step j input hInput
        exact (hRun.sound j).holder_step (not_not.mp hHolds) hNext
      · intro j hHolds
        have hCan := (hRun.sound j).holder_canStep (not_not.mp hHolds) (hRun.not_stuck j)
        exact ⟨j, le_rfl, Or.inr (Or.inr hCan)⟩
    obtain ⟨k', hLe, hGoal⟩ := hOut
    exact hGoal (hSame k' hLe)

/-! ### The call returns -/

/-- The commands before that of the call. -/
def ahead (s : PollState τ) (n : τ) : Nat := (s.unprocessed.map Prod.fst).idxOf n

def callRank (n : τ) (s : PollState τ) : Nat ×ₗ Nat :=
  if n ∈ s.condV.waiting then toLex (2 * (8 - s.place n) + 1, workLeft (s.ahead n) s.worker)
  else toLex (2 * (8 - s.place n), 0)

def callHelp (n : τ) (s : PollState τ) : PollAgent τ :=
  if n ∈ s.condV.waiting then .worker else .caller n

theorem stage_le (pc : CallPc) : stage pc ≤ 8 := by
  cases pc <;> decide

/-- A step of another call leaves the commands in front and the threads that are blocked. -/
theorem CallStep.others (h : CallStep pipe s n c pc ok pc' s₁ o) (hNe : m ≠ n) :
    s₁.calls = s.calls ∧ (m ∈ s₁.condV.waiting ↔ m ∈ s.condV.waiting) ∧ s₁.worker = s.worker ∧
      ∃ sent, s₁.unprocessed = s.unprocessed ++ sent := by
  cases h with
  | sent => exact ⟨rfl, Iff.rfl, rfl, _, unprocessed_sent⟩
  | blocked => exact ⟨rfl, by simp [Condition.wait, hNe], rfl, [], (List.append_nil _).symm⟩
  | _ => exact ⟨rfl, Iff.rfl, rfl, [], (List.append_nil _).symm⟩

theorem callRank_waiting (h : n ∈ s.condV.waiting) :
    callRank n s = toLex (2 * (8 - s.place n) + 1, workLeft (s.ahead n) s.worker) :=
  if_pos h

theorem callRank_not_waiting (h : n ∉ s.condV.waiting) :
    callRank n s = toLex (2 * (8 - s.place n), 0) :=
  if_neg h

/-- A call that is blocked takes no step. -/
theorem Sound.not_waiting_of_callStep (h : s.Sound) (hCall : s.calls n = some (c, pc))
    (hStep : CallStep pipe s n c pc ok pc' s₁ o) : n ∉ s.condV.waiting := by
  intro hWaiting
  obtain ⟨c', hWait, -, -⟩ := h.of_waiting hWaiting
  rw [hCall] at hWait
  cases hWait
  cases hStep with
  | resumed hWoken =>
    exact (List.nodup_append.mp h.cond).2.2 n hWaiting n hWoken rfl

theorem Sound.call_step_own (h : s.Sound) (hCall : s.calls n = some (c, pc))
    (hStep : CallStep pipe s n c pc ok pc' s₁ o) :
    callRank n (s₁.goto n c pc') < callRank n s := by
  have hLt := hStep.stage_lt
  have hLe := stage_le pc'
  rw [callRank_not_waiting (h.not_waiting_of_callStep hCall hStep), callRank,
    place_eq calls_goto_self, place_eq hCall]
  split <;> apply Prod.Lex.toLex_lt_toLex.mpr <;> left <;> simp only <;> omega

theorem Sound.call_step_other (h : s.Sound) (hNe : n ≠ m)
    (hStep : CallStep pipe s m c pc ok pc' s₁ o) :
    callRank n (s₁.goto m c pc') = callRank n s ∧ callHelp n (s₁.goto m c pc') = callHelp n s := by
  obtain ⟨hCalls, hWaiting, hWorker, sent, hSent⟩ := hStep.others hNe
  have hPlace : (s₁.goto m c pc').place n = s.place n := by
    rw [place, calls_goto_of_ne hNe, hCalls, place]
  constructor
  · by_cases hIn : n ∈ s.condV.waiting
    · obtain ⟨-, -, -, hQueued⟩ := h.of_waiting hIn
      have hAhead : (s₁.goto m c pc').ahead n = s.ahead n := by
        change (s₁.unprocessed.map Prod.fst).idxOf n = _
        rw [hSent, List.map_append, List.idxOf_append_of_mem hQueued, ahead]
      have hStill : n ∈ (s₁.goto m c pc').condV.waiting := hWaiting.mpr hIn
      rw [callRank_waiting hIn, callRank_waiting hStill, hPlace, hAhead]
      exact congrArg (fun wpc => toLex (2 * (8 - s.place n) + 1, workLeft (s.ahead n) wpc)) hWorker
    · have hStill : n ∉ (s₁.goto m c pc').condV.waiting := fun hNew => hIn (hWaiting.mp hNew)
      rw [callRank_not_waiting hIn, callRank_not_waiting hStill, hPlace]
  · exact if_congr hWaiting rfl rfl

theorem Sound.call_step_blocked (h : s.Sound) (hIn : n ∈ s.condV.waiting)
    (hStep : s.workerStep pipe pick = some (s', o)) : callRank n s' < callRank n s := by
  obtain ⟨c, hCall, hSync, hQueued⟩ := h.of_waiting hIn
  have hPlace : s'.place n = s.place n := by
    rw [place, (workerStep_cases hStep).calls_eq, place]
  rw [callRank_waiting hIn]
  cases h.progress hStep with
  | goesOn hSteps hUnprocessed hCond =>
    have hSame : s'.ahead n = s.ahead n := by rw [ahead, hUnprocessed, ahead]
    rw [callRank_waiting (hCond ▸ hIn), hPlace, hSame]
    exact Prod.Lex.toLex_lt_toLex.mpr (Or.inr ⟨rfl, Nat.add_lt_add_left hSteps _⟩)
  | @finishes cmd hUnprocessed hAsync hPoll hCond =>
    have hNe : cmd.1 ≠ n := by
      rintro rfl
      obtain ⟨c', pc', hAt, hCmd⟩ := h.cmds cmd (hUnprocessed ▸ List.mem_cons_self)
      rw [hCall] at hAt
      cases hAt
      have hNotSync := PollCall.cmd_eq_async_iff.mp (hCmd.trans hAsync)
      rw [hSync] at hNotSync
      cases hNotSync
    have hAhead : s.ahead n = s'.ahead n + 1 := by
      rw [ahead, hUnprocessed, List.map_cons, List.idxOf_cons_ne _ hNe, ahead]
    rw [callRank_waiting (hCond ▸ hIn), hPlace, hAhead, hPoll]
    exact Prod.Lex.toLex_lt_toLex.mpr (Or.inr ⟨rfl, workLeft_poll_lt _ _⟩)
  | @answers cmd hAt hFree hSignal hUnprocessed =>
    have hMem : cmd ∈ s.unprocessed := hUnprocessed ▸ List.mem_cons_self
    have hWorker := h.worker
    rw [hAt] at hWorker
    obtain ⟨-, -, -, hWaiting⟩ := h.blocked_of_front hMem hWorker hFree
    have hMine : n = cmd.1 := h.single _ _ (h.inProgress_of_inside (Or.inl hIn))
      (h.inProgress_of_inside (Or.inl hWaiting))
    obtain ⟨-, hWake⟩ := h.pick_eq hMem hWorker hFree hSignal
    have hGone : n ∉ s'.condV.waiting := by
      rw [hWake, hMine]
      exact fun hStill => (h.cond.mem_wake.mp hStill).1 rfl
    rw [callRank_not_waiting hGone, hPlace]
    exact Prod.Lex.toLex_lt_toLex.mpr (Or.inl (Nat.lt_succ_self _))

theorem Sound.call_step_thread (h : s.Sound) (hOut : n ∉ s.condV.waiting)
    (hStep : s.workerStep pipe pick = some (s', o)) :
    callRank n s' = callRank n s ∧ callHelp n s' = callHelp n s := by
  have hStill : n ∉ s'.condV.waiting := by
    cases h.progress hStep with
    | goesOn _ _ hCond => rwa [hCond]
    | finishes _ _ _ hCond => rwa [hCond]
    | answers _ _ hSignal => exact fun hIn => hOut (((h.cond.signal hSignal).2 n).mp hIn).2
  have hPlace : s'.place n = s.place n := by
    rw [place, (workerStep_cases hStep).calls_eq, place]
  rw [callRank_not_waiting hStill, callRank_not_waiting hOut, hPlace, callHelp, callHelp,
    if_neg hStill, if_neg hOut]
  exact ⟨rfl, rfl⟩

/-- No step raises the rank of a call in progress; its own steps lower it, and while it is blocked
those of the thread do. -/
theorem Sound.call_step (h : s.Sound) (hProgress : s.InProgress n)
    (hNext : Next pipe s input o s') :
    callRank n s' < callRank n s ∨
      callRank n s' = callRank n s ∧ callHelp n s' = callHelp n s ∧
        input.agent ≠ some (callHelp n s) := by
  obtain ⟨c₀, pc₀, hAt, -⟩ := hProgress
  cases input with
  | call m c =>
    obtain ⟨hCall, rfl, -⟩ := call_cases hNext
    have hNe : n ≠ m := by
      rintro rfl
      rw [hAt] at hCall
      cases hCall
    have hPlace : (s.goto m c c.start).place n = s.place n := by
      rw [place, calls_goto_of_ne hNe, place]
    refine Or.inr ⟨?_, rfl, by simp [PollInput.agent]⟩
    rw [callRank, callRank, hPlace]
    rfl
  | caller m ok =>
    obtain ⟨c, pc, pc', s₁, hCall, hStep, rfl⟩ := callStep_cases hNext
    rcases eq_or_ne n m with rfl | hNe
    · exact Or.inl (h.call_step_own hCall hStep)
    · obtain ⟨hRank, hHelp⟩ := h.call_step_other hNe hStep
      refine Or.inr ⟨hRank, hHelp, ?_⟩
      rw [callHelp, PollInput.agent]
      split <;> simp [hNe.symm]
  | worker pick =>
    by_cases hIn : n ∈ s.condV.waiting
    · exact Or.inl (h.call_step_blocked hIn hNext)
    · obtain ⟨hRank, hHelp⟩ := h.call_step_thread hIn hNext
      refine Or.inr ⟨hRank, hHelp, ?_⟩
      rw [callHelp, if_neg hIn]
      simp [PollInput.agent]
  | data =>
    obtain ⟨rfl, -⟩ := data_cases hNext
    exact Or.inr ⟨rfl, rfl, by simp [PollInput.agent]⟩

/-- With the mutex free, whoever has to bring the call on can step. -/
theorem Sound.call_canStep (h : s.Sound) (hProgress : s.InProgress n) (hFree : s.mutex = none) :
    CanStep pipe s (callHelp n s) := by
  obtain ⟨c, pc, hCall, hSync, hNotDone⟩ := hProgress
  have hPc := (h.calls n).of_pc hCall
  by_cases hIn : n ∈ s.condV.waiting
  · obtain ⟨-, -, -, hQueued⟩ := h.of_waiting hIn
    rw [callHelp, if_pos hIn]
    apply canStep_of_free
    · intro hNil
      rw [Queued, hNil] at hQueued
      exact absurd hQueued List.not_mem_nil
    · exact fun _ _ => hFree
  · rw [callHelp, if_neg hIn]
    cases pc with
    | checkHandler =>
      by_cases hFound : c.handler = (s.pollEntries c.idx).handler
      · apply canStep_caller
        simp only [callStep, hCall, if_pos hFound]
        rfl
      · apply canStep_caller
        simp only [callStep, hCall, if_neg hFound]
        rfl
    | setFd =>
      apply canStep_caller
      simp only [callStep, hCall]
      rfl
    | setHandler =>
      apply canStep_caller
      simp only [callStep, hCall]
      rfl
    | lock =>
      apply canStep_caller
      simp only [callStep, hCall, if_pos hFree]
      rfl
    | wait =>
      have hWoken : n ∈ s.condV.woken := by
        rcases hPc.2.2 with ⟨hWaiting, -⟩ | ⟨-, hWoken, -⟩
        · exact absurd hWaiting hIn
        · exact hWoken
      apply canStep_caller
      simp only [callStep, hCall, if_pos (show n ∈ s.condV.woken ∧ s.mutex = none from
        ⟨hWoken, hFree⟩)]
      rfl
    | done => exact absurd rfl hNotDone
    | _ =>
      have hMutex := hPc.1
      rw [hFree] at hMutex
      cases hMutex

theorem callHelp_eq (h : callRank n s' = callRank n s) : callHelp n s' = callHelp n s := by
  rw [callRank, callRank] at h
  rw [callHelp, callHelp]
  by_cases hIn' : n ∈ s'.condV.waiting <;> by_cases hIn : n ∈ s.condV.waiting
  · rw [if_pos hIn', if_pos hIn]
  · rw [if_pos hIn', if_neg hIn] at h
    have hOdd : 2 * (8 - s'.place n) + 1 = 2 * (8 - s.place n) := congrArg (fun r => (ofLex r).1) h
    omega
  · rw [if_neg hIn', if_pos hIn] at h
    have hOdd : 2 * (8 - s'.place n) = 2 * (8 - s.place n) + 1 := congrArg (fun r => (ofLex r).1) h
    omega
  · rw [if_neg hIn', if_neg hIn]

theorem FairRun.returns (hRun : FairRun pipe run) (k : Nat) (n : τ) :
    ∃ k' ≥ k, ¬ (run.state k').InProgress n := by
  apply hRun.fair.eventually (fun s => ¬ s.InProgress n) (callRank n) (callHelp n)
  · intro j input hInput hProgress
    obtain ⟨-, o, hNext⟩ := run.step j input hInput
    exact Or.inr ((hRun.sound j).call_step (not_not.mp hProgress) hNext)
  · intro j hProgress
    obtain ⟨k', hLe, hFree⟩ := hRun.released j
    refine ⟨k', hLe, ?_⟩
    by_cases hStill : (run.state k').InProgress n
    · right
      by_cases hRank : callRank n (run.state k') = callRank n (run.state j)
      · right
        rw [← callHelp_eq hRank]
        exact (hRun.sound k').call_canStep hStill hFree
      · exact Or.inl hRank
    · exact Or.inl hStill

theorem Later.of_next (hNext : Next pipe s input o s') : Later s s' := by
  cases input with
  | call n c =>
    obtain ⟨hCall, rfl, -⟩ := call_cases hNext
    intro m c' pc hAt
    have hNe : m ≠ n := by
      rintro rfl
      rw [hAt] at hCall
      cases hCall
    exact ⟨pc, by rw [calls_goto_of_ne hNe, hAt], le_rfl⟩
  | caller n ok =>
    obtain ⟨c, pc, pc', s₁, hCall, hStep, rfl⟩ := callStep_cases hNext
    exact later_goto (by cases hStep <;> rfl) hCall hStep.stage_lt
  | worker pick =>
    intro m c pc hAt
    exact ⟨pc, by rw [(workerStep_cases hNext).calls_eq, hAt], le_rfl⟩
  | data =>
    obtain ⟨rfl, -⟩ := data_cases hNext
    exact fun m c pc hAt => ⟨pc, hAt, le_rfl⟩

/-- A synchronous call that is in progress comes to its end. -/
theorem FairRun.done (hRun : FairRun pipe run) {k : Nat} (hProgress : (run.state k).InProgress n) :
    ∃ k' ≥ k, ∃ c, (run.state k').calls n = some (c, .done) := by
  obtain ⟨k', hLe, hEnd⟩ := hRun.returns k n
  obtain ⟨c, pc, hCall, hSync, -⟩ := hProgress
  have hLater : ∃ pc', (run.state k').calls n = some (c, pc') := by
    refine run.invariant (I := fun s => ∃ pc', s.calls n = some (c, pc')) ?_ hLe ⟨pc, hCall⟩
    rintro j input hInput ⟨pc', hAt⟩
    obtain ⟨-, o, hNext⟩ := run.step j input hInput
    obtain ⟨pc'', hTo, -⟩ := Later.of_next hNext n c pc' hAt
    exact ⟨pc'', hTo⟩
  obtain ⟨pc', hAt⟩ := hLater
  refine ⟨k', hLe, c, ?_⟩
  by_cases hDone : pc' = .done
  · rw [← hDone]
    exact hAt
  · exact absurd ⟨c, pc', hAt, hSync, hDone⟩ hEnd

end Steps

end PollState

end KiwiDevice.Camera.PollThread

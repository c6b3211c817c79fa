import KiwiDevice.Camera.PollThread

/-!
# The protocol of the poll thread

A call that has written its command holds the mutex until it waits or returns, so the answer to a
synchronous command finds its caller blocked. The status is never set in between. What a step can do
has one case for each place of a call and of the thread.
-/

namespace KiwiDevice.Camera.PollThread

universe u

open Lib (Condition)

namespace PollState

variable {τ : Type u} {pipe : PollPipe} {s s' : PollState τ} {n : τ} {o : List (PollEvent τ)}

/-- The end of one pass of the loop over the entries. -/
inductive SlotStep (cmd : τ × PipeCmd) (i : Nat) : WorkerPc τ → List (PollEvent τ) → Prop where
  | next (more : i + 1 < MAX_STREAM_NUM_IN_BUNDLE) : SlotStep cmd i (.testFd cmd (i + 1)) []
  | async (last : MAX_STREAM_NUM_IN_BUNDLE ≤ i + 1) (isAsync : cmd.2 = .pollEntriesUpdatedAsync) :
      SlotStep cmd i .poll [.processed cmd.1 cmd.2]
  | sync (last : MAX_STREAM_NUM_IN_BUNDLE ≤ i + 1) (notAsync : cmd.2 ≠ .pollEntriesUpdatedAsync) :
      SlotStep cmd i (.sigDone cmd) []

theorem nextSlot_cases (s : PollState τ) (cmd : τ × PipeCmd) (i : Nat) :
    ∃ pc o, SlotStep cmd i pc o ∧ s.nextSlot cmd i = ({ s with worker := pc }, o) := by
  by_cases hMore : i + 1 < MAX_STREAM_NUM_IN_BUNDLE
  · exact ⟨_, _, .next hMore, if_pos hMore⟩
  · by_cases hAsync : cmd.2 = .pollEntriesUpdatedAsync
    · exact ⟨_, _, .async (Nat.le_of_not_lt hMore) hAsync, by
        rw [nextSlot, if_neg hMore, if_pos hAsync]⟩
    · exact ⟨_, _, .sync (Nat.le_of_not_lt hMore) hAsync, by
        rw [nextSlot, if_neg hMore, if_neg hAsync]⟩

variable [DecidableEq τ] {ok : Bool} {pick : Option τ}

/-- A step of a call: where it is, what `write` returns, where it goes on, the state but for that,
and the events. -/
inductive CallStep (pipe : PollPipe) (s : PollState τ) (n : τ) (c : PollCall) :
    CallPc → Bool → CallPc → PollState τ → List (PollEvent τ) → Prop where
  | found {ok : Bool} : CallStep pipe s n c .checkHandler ok .setFd s []
  | notFound {ok : Bool} : CallStep pipe s n c .checkHandler ok .done s [.returned n (-1)]
  | setFd {ok : Bool} : CallStep pipe s n c .setFd ok .setHandler
      (s.setEntry c.idx { s.pollEntries c.idx with fd := c.entry.fd })
      [.stored n c.idx c.entry.fd]
  | setHandler {ok : Bool} : CallStep pipe s n c .setHandler ok .lock
      (s.setEntry c.idx { s.pollEntries c.idx with handler := c.entry.handler }) []
  | lock {ok : Bool} (free : s.mutex = none) : CallStep pipe s n c .lock ok .write
      { s with mutex := some n, status := false } []
  | writeFailed : CallStep pipe s n c .write false .unlock s [.writeFailed n]
  | sent (room : s.pipe.length < pipe.capacity) : CallStep pipe s n c .write true
      (if c.sync then .check else .unlock) { s with pipe := s.pipe ++ [(n, c.cmd)] }
      [.sent n c.cmd]
  | signalled {ok : Bool} (status : s.status = true) : CallStep pipe s n c .check ok .unlock s []
  | blocked {ok : Bool} : CallStep pipe s n c .check ok .wait
      { s with mutex := none, condV := s.condV.wait n } []
  | resumed {ok : Bool} (woken : n ∈ s.condV.woken) (free : s.mutex = none) :
      CallStep pipe s n c .wait ok .unlock
        { s with mutex := some n, condV := s.condV.resume n } []
  | returned {ok : Bool} : CallStep pipe s n c .unlock ok .done { s with mutex := none }
      [.returned n 0]

theorem callStep_cases (h : s.callStep pipe n ok = some (s', o)) :
    ∃ c pc pc' s₁, s.calls n = some (c, pc) ∧ CallStep pipe s n c pc ok pc' s₁ o ∧
      s' = s₁.goto n c pc' := by
  cases hCall : s.calls n with
  | none =>
    simp only [callStep, hCall] at h
    cases h
  | some call =>
    obtain ⟨c, pc⟩ := call
    cases pc <;> simp only [callStep, hCall] at h
    case checkHandler =>
      by_cases hFound : c.handler = (s.pollEntries c.idx).handler
      · rw [if_pos hFound] at h
        cases h
        exact ⟨c, _, _, _, rfl, .found, rfl⟩
      · rw [if_neg hFound] at h
        cases h
        exact ⟨c, _, _, _, rfl, .notFound, rfl⟩
    case setFd =>
      cases h
      exact ⟨c, _, _, _, rfl, .setFd, rfl⟩
    case setHandler =>
      cases h
      exact ⟨c, _, _, _, rfl, .setHandler, rfl⟩
    case lock =>
      by_cases hFree : s.mutex = none
      · rw [if_pos hFree] at h
        cases h
        exact ⟨c, _, _, _, rfl, .lock hFree, rfl⟩
      · rw [if_neg hFree] at h
        cases h
    case write =>
      cases ok with
      | false =>
        rw [if_pos rfl] at h
        cases h
        exact ⟨c, _, _, _, rfl, .writeFailed, rfl⟩
      | true =>
        rw [if_neg (by decide)] at h
        by_cases hRoom : s.pipe.length < pipe.capacity
        · rw [if_pos hRoom] at h
          cases h
          exact ⟨c, _, _, _, rfl, .sent hRoom, rfl⟩
        · rw [if_neg hRoom] at h
          cases h
    case check =>
      by_cases hStatus : s.status = true
      · rw [if_pos hStatus] at h
        cases h
        exact ⟨c, _, _, _, rfl, .signalled hStatus, rfl⟩
      · rw [if_neg hStatus] at h
        cases h
        exact ⟨c, _, _, _, rfl, .blocked, rfl⟩
    case wait =>
      by_cases hReady : n ∈ s.condV.woken ∧ s.mutex = none
      · rw [if_pos hReady] at h
        cases h
        exact ⟨c, _, _, _, rfl, .resumed hReady.1 hReady.2, rfl⟩
      · rw [if_neg hReady] at h
        cases h
    case unlock =>
      cases h
      exact ⟨c, _, _, _, rfl, .returned, rfl⟩
    case done => cases h

/-- A step of the thread, from the step that it is at. -/
inductive WorkerStep (pipe : PollPipe) (s : PollState τ) (pick : Option τ) :
    WorkerPc τ → PollState τ → List (PollEvent τ) → Prop where
  | commit {cmd : τ × PipeCmd} {rest : List (τ × PipeCmd)} (readable : s.pipe = cmd :: rest)
      (isCommit : cmd.2 = .commit) :
      WorkerStep pipe s pick .poll { s with pipe := rest, worker := .sigDone cmd } []
  | update {cmd : τ × PipeCmd} {rest : List (τ × PipeCmd)} (readable : s.pipe = cmd :: rest)
      (notCommit : cmd.2 ≠ .commit) :
      WorkerStep pipe s pick .poll
        (setPollFd { s with pipe := rest, numFds := 0, worker := .testFd cmd 0 } pipe.readFd) []
  | valid {cmd : τ × PipeCmd} {i : Nat} :
      WorkerStep pipe s pick (.testFd cmd i) { s with worker := .copyFd cmd i } []
  | invalid {cmd : τ × PipeCmd} {i : Nat} {pc : WorkerPc τ} {o : List (PollEvent τ)}
      (removed : (s.pollEntries i).fd ≤ 0) (slot : SlotStep cmd i pc o) :
      WorkerStep pipe s pick (.testFd cmd i) { s.setPollFd (-1) with worker := pc } o
  | copied {cmd : τ × PipeCmd} {i : Nat} {pc : WorkerPc τ} {o : List (PollEvent τ)}
      (slot : SlotStep cmd i pc o) :
      WorkerStep pipe s pick (.copyFd cmd i)
        { s.setPollFd (s.pollEntries i).fd with worker := pc } o
  | sigDone {cmd : τ × PipeCmd} {condV : Condition τ} (free : s.mutex = none)
      (signal : s.condV.signal pick = some condV) :
      WorkerStep pipe s pick (.sigDone cmd) { s with status := true, condV, worker := .poll }
        [.processed cmd.1 cmd.2]

theorem workerStep_cases (h : s.workerStep pipe pick = some (s', o)) :
    WorkerStep pipe s pick s.worker s' o := by
  cases hWorker : s.worker with
  | poll =>
    simp only [workerStep, hWorker] at h
    cases hPipe : s.pipe with
    | nil =>
      simp only [hPipe] at h
      cases h
    | cons cmd rest =>
      simp only [hPipe] at h
      by_cases hCommit : cmd.2 = .commit
      · rw [if_pos hCommit] at h
        cases h
        exact .commit hPipe hCommit
      · rw [if_neg hCommit] at h
        cases h
        exact .update hPipe hCommit
  | testFd cmd i =>
    simp only [workerStep, hWorker] at h
    by_cases hFd : 0 < (s.pollEntries i).fd
    · rw [if_pos hFd] at h
      cases h
      exact .valid
    · obtain ⟨pc, o', hSlot, hNext⟩ := nextSlot_cases (s.setPollFd (-1)) cmd i
      rw [if_neg hFd, hNext] at h
      cases h
      exact .invalid (Int.not_lt.mp hFd) hSlot
  | copyFd cmd i =>
    obtain ⟨pc, o', hSlot, hNext⟩ := nextSlot_cases (s.setPollFd (s.pollEntries i).fd) cmd i
    simp only [workerStep, hWorker, hNext] at h
    cases h
    exact .copied hSlot
  | sigDone cmd =>
    simp only [workerStep, hWorker] at h
    by_cases hFree : s.mutex = none
    · rw [if_pos hFree] at h
      obtain ⟨condV, hSignal, hTo⟩ := Option.map_eq_some_iff.mp h
      cases hTo
      exact .sigDone hFree hSignal
    · rw [if_neg hFree] at h
      cases h

end PollState

/-! ### What is held and what is owed -/

namespace PollState

variable {τ : Type u}

def current : WorkerPc τ → List (τ × PipeCmd)
  | .poll => []
  | .testFd cmd _ => [cmd]
  | .copyFd cmd _ => [cmd]
  | .sigDone cmd => [cmd]

/-- The commands that the thread has not dealt with. -/
def unprocessed (s : PollState τ) : List (τ × PipeCmd) := current s.worker ++ s.pipe

/-- The command of the call has not been dealt with. -/
def Queued (s : PollState τ) (n : τ) : Prop := n ∈ s.unprocessed.map Prod.fst

/-- What holds for a call before it takes the mutex. -/
structure Outside (s : PollState τ) (n : τ) : Prop where
  mutex : s.mutex ≠ some n
  cond : ¬ s.condV.Inside n
  queued : ¬ s.Queued n

def PcSound (s : PollState τ) (n : τ) (c : PollCall) : CallPc → Prop
  | .write =>
    s.mutex = some n ∧ ¬ s.condV.Inside n ∧ ¬ s.Queued n ∧ s.status = false
  | .check =>
    s.mutex = some n ∧ ¬ s.condV.Inside n ∧ s.Queued n ∧ c.sync = true ∧ s.status = false
  | .wait =>
    s.mutex ≠ some n ∧ c.sync = true ∧
      (n ∈ s.condV.waiting ∧ s.Queued n ∨
        n ∉ s.condV.waiting ∧ n ∈ s.condV.woken ∧ ¬ s.Queued n)
  | .unlock => s.mutex = some n ∧ ¬ s.condV.Inside n ∧ (c.sync = true → ¬ s.Queued n)
  | .done => s.mutex ≠ some n ∧ ¬ s.condV.Inside n ∧ (c.sync = true → ¬ s.Queued n)
  | _ => s.Outside n

def CallSound (s : PollState τ) (n : τ) : Prop :=
  match s.calls n with
  | none => s.Outside n
  | some (c, pc) => s.PcSound n c pc

/-- The command that the thread is at fits the step that it is at. -/
def WorkerSound (s : PollState τ) : WorkerPc τ → Prop
  | .poll => True
  | .testFd cmd i => cmd.2 ≠ .commit ∧ i < MAX_STREAM_NUM_IN_BUNDLE ∧ s.numFds = i + 1
  | .copyFd cmd i => cmd.2 ≠ .commit ∧ i < MAX_STREAM_NUM_IN_BUNDLE ∧ s.numFds = i + 1
  | .sigDone cmd => cmd.2 ≠ .pollEntriesUpdatedAsync

structure Sound (s : PollState τ) : Prop where
  calls : ∀ n, s.CallSound n
  single : ∀ m n, s.InProgress m → s.InProgress n → m = n
  nodup : (s.unprocessed.map Prod.fst).Nodup
  cond : s.condV.Single
  cmds : ∀ cmd ∈ s.unprocessed, ∃ c pc, s.calls cmd.1 = some (c, pc) ∧ c.cmd = cmd.2
  worker : s.WorkerSound s.worker

variable {pipe : PollPipe} {s s' : PollState τ} {n m : τ} {c : PollCall} {pc : CallPc}
  {cmd : τ × PipeCmd} {o : List (PollEvent τ)}

theorem sound_init (pipe : PollPipe) : (init pipe : PollState τ).Sound where
  calls := fun n => ⟨by simp [init], by simp [init, Condition.idle, Condition.Inside],
    by simp [init, Queued, unprocessed, current]⟩
  single := by
    rintro m n ⟨c, pc, hCall, -⟩
    cases hCall
  nodup := List.nodup_nil
  cond := List.nodup_nil
  cmds := by simp [init, unprocessed, current]
  worker := trivial

theorem CallSound.of_pc (h : s.CallSound n) (hCall : s.calls n = some (c, pc)) :
    s.PcSound n c pc := by
  rw [CallSound, hCall] at h
  exact h

/-- The step of another call, or of the thread, leaves what the call depends on. -/
theorem CallSound.frame (h : s.CallSound m) (hCalls : s'.calls m = s.calls m)
    (hMutex : s'.mutex = some m ↔ s.mutex = some m)
    (hWaiting : m ∈ s'.condV.waiting ↔ m ∈ s.condV.waiting)
    (hWoken : m ∈ s'.condV.woken ↔ m ∈ s.condV.woken) (hQueued : s'.Queued m ↔ s.Queued m)
    (hStatus : s.mutex = some m → s'.status = s.status) : s'.CallSound m := by
  have hInside : s'.condV.Inside m ↔ s.condV.Inside m := or_congr hWaiting hWoken
  have hOutside : s.Outside m → s'.Outside m := by
    rintro ⟨hFree, hCond, hNot⟩
    exact ⟨fun hMine => hFree (hMutex.mp hMine), fun hIn => hCond (hInside.mp hIn),
      fun hIn => hNot (hQueued.mp hIn)⟩
  cases hCall : s.calls m with
  | none =>
    rw [CallSound, hCall] at h
    rw [CallSound, hCalls, hCall]
    exact hOutside h
  | some call =>
    obtain ⟨c, pc⟩ := call
    have hPc := h.of_pc hCall
    rw [CallSound, hCalls, hCall]
    cases pc with
    | write =>
      simp only [PcSound, hMutex, hInside, hQueued] at hPc ⊢
      rwa [hStatus hPc.1]
    | check =>
      simp only [PcSound, hMutex, hInside, hQueued] at hPc ⊢
      rwa [hStatus hPc.1]
    | wait => simpa only [PcSound, ne_eq, hMutex, hWaiting, hWoken, hQueued] using hPc
    | unlock => simpa only [PcSound, hMutex, hInside, hQueued] using hPc
    | done => simpa only [PcSound, ne_eq, hMutex, hInside, hQueued] using hPc
    | _ => exact hOutside hPc

theorem PollCall.cmd_eq_async_iff : c.cmd = .pollEntriesUpdatedAsync ↔ c.sync = false := by
  cases c with
  | addPollFd handler fd sync => cases sync <;> simp [PollCall.cmd, PollCall.sync]
  | delPollFd handler sync => cases sync <;> simp [PollCall.cmd, PollCall.sync]
  | _ => simp [PollCall.cmd, PollCall.sync]

/-- A step of the thread, by what it leaves of the calls and the commands. -/
theorem Sound.work (h : s.Sound) (hCalls : s'.calls = s.calls) (hSound : ∀ m, s'.CallSound m)
    (hCond : s'.condV.Single) (hSub : s'.unprocessed.Sublist s.unprocessed)
    (hWorker : s'.WorkerSound s'.worker) : s'.Sound where
  calls := hSound
  single := by
    rintro m m' ⟨c, pc, hAt, hRest⟩ ⟨c', pc', hAt', hRest'⟩
    rw [hCalls] at hAt hAt'
    exact h.single m m' ⟨c, pc, hAt, hRest⟩ ⟨c', pc', hAt', hRest'⟩
  nodup := h.nodup.sublist (hSub.map _)
  cond := hCond
  cmds := by
    intro cmd hMem
    rw [hCalls]
    exact h.cmds cmd (hSub.subset hMem)
  worker := hWorker

/-- The commands that are not dealt with stay the same. -/
theorem Sound.work_same (h : s.Sound) (hCalls : s'.calls = s.calls) (hMutex : s'.mutex = s.mutex)
    (hCond : s'.condV = s.condV) (hStatus : s'.status = s.status)
    (hUnprocessed : s'.unprocessed = s.unprocessed) (hWorker : s'.WorkerSound s'.worker) :
    s'.Sound := by
  refine h.work hCalls ?_ (hCond ▸ h.cond) (hUnprocessed ▸ List.Sublist.refl _) hWorker
  intro m
  refine (h.calls m).frame (by rw [hCalls]) (by rw [hMutex]) (by rw [hCond]) (by rw [hCond]) ?_
    fun _ => hStatus
  rw [Queued, hUnprocessed, Queued]

/-- The command in front is dealt with. -/
theorem queued_front {rest : List (τ × PipeCmd)} (s' : PollState τ) (h : s.Sound)
    (hFront : s.unprocessed = cmd :: rest) (hRest : s'.unprocessed = rest) :
    ¬ s'.Queued cmd.1 ∧ ∀ m, m ≠ cmd.1 → (s'.Queued m ↔ s.Queued m) := by
  have hNodup := h.nodup
  rw [hFront, List.map_cons, List.nodup_cons] at hNodup
  constructor
  · rw [Queued, hRest]
    exact hNodup.1
  · intro m hNe
    rw [Queued, Queued, hRest, hFront, List.map_cons, List.mem_cons]
    simp [hNe]

theorem CallSound.async (h : s.CallSound n) (hCall : s.calls n = some (c, pc))
    (hAsync : c.sync = false) (hQueued : s.Queued n) (hCalls : s'.calls = s.calls)
    (hMutex : s'.mutex = s.mutex) (hCond : s'.condV = s.condV) : s'.CallSound n := by
  have hPc := h.of_pc hCall
  have hNot (hSync : c.sync = true) : ¬ s'.Queued n := by
    rw [hAsync] at hSync
    cases hSync
  rw [CallSound, hCalls, hCall]
  cases pc with
  | write => exact absurd hQueued hPc.2.2.1
  | check => exact absurd hPc.2.2.2.1 (by simp [hAsync])
  | wait => exact absurd hPc.2.1 (by simp [hAsync])
  | unlock =>
    change s'.mutex = some n ∧ ¬ s'.condV.Inside n ∧ (c.sync = true → ¬ s'.Queued n)
    rw [hMutex, hCond]
    exact ⟨hPc.1, hPc.2.1, hNot⟩
  | done =>
    change s'.mutex ≠ some n ∧ ¬ s'.condV.Inside n ∧ (c.sync = true → ¬ s'.Queued n)
    rw [hMutex, hCond]
    exact ⟨hPc.1, hPc.2.1, hNot⟩
  | _ => exact absurd hQueued hPc.queued

theorem unprocessed_sent :
    unprocessed { s with pipe := s.pipe ++ [cmd] } = s.unprocessed ++ [cmd] :=
  (List.append_assoc _ _ _).symm

theorem queued_sent (hNe : m ≠ cmd.1) :
    Queued { s with pipe := s.pipe ++ [cmd] } m ↔ s.Queued m := by
  rw [Queued, unprocessed_sent, Queued, List.map_append, List.mem_append]
  simp [hNe]

/-- The end of a pass of the loop over the entries. -/
theorem Sound.slot {i : Nat} {wpc : WorkerPc τ} (h : s.Sound) (hCalls : s'.calls = s.calls)
    (hMutex : s'.mutex = s.mutex) (hCond : s'.condV = s.condV) (hStatus : s'.status = s.status)
    (hPipe : s'.pipe = s.pipe) (hFrom : current s.worker = [cmd]) (hNotCommit : cmd.2 ≠ .commit)
    (hNum : s'.numFds = i + 2) (hTo : s'.worker = wpc) (hSlot : SlotStep cmd i wpc o) :
    s'.Sound := by
  have hFront : s.unprocessed = cmd :: s.pipe := by rw [unprocessed, hFrom]; rfl
  cases hSlot with
  | next hMore =>
    refine h.work_same hCalls hMutex hCond hStatus ?_ ?_
    · rw [unprocessed, hTo, hPipe, hFront]
      rfl
    · rw [hTo]
      exact ⟨hNotCommit, hMore, hNum⟩
  | async hLast hAsync =>
    have hRest : s'.unprocessed = s.pipe := by rw [unprocessed, hTo, hPipe]; rfl
    obtain ⟨hGone, hOthers⟩ := queued_front s' h hFront hRest
    refine h.work hCalls ?_ (hCond ▸ h.cond) ?_ (by rw [hTo]; trivial)
    · intro m
      rcases eq_or_ne m cmd.1 with rfl | hNe
      · have hMem : cmd ∈ s.unprocessed := hFront ▸ List.mem_cons_self
        obtain ⟨c, pc, hCall, hCmd⟩ := h.cmds cmd hMem
        exact (h.calls _).async hCall (PollCall.cmd_eq_async_iff.mp (hCmd.trans hAsync))
          (List.mem_map_of_mem hMem) hCalls hMutex hCond
      · exact (h.calls m).frame (by rw [hCalls]) (by rw [hMutex]) (by rw [hCond]) (by rw [hCond])
          (hOthers m hNe) fun _ => hStatus
    · rw [hRest, hFront]
      exact List.sublist_cons_self _ _
  | sync hLast hNotAsync =>
    refine h.work_same hCalls hMutex hCond hStatus ?_ ?_
    · rw [unprocessed, hTo, hPipe, hFront]
      rfl
    · rw [hTo]
      exact hNotAsync

/-- The caller of the synchronous command in front is the one thread that is blocked. -/
theorem Sound.blocked_of_front (h : s.Sound) (hMem : cmd ∈ s.unprocessed)
    (hNotAsync : cmd.2 ≠ .pollEntriesUpdatedAsync) (hFree : s.mutex = none) :
    ∃ c, s.calls cmd.1 = some (c, .wait) ∧ c.sync = true ∧ cmd.1 ∈ s.condV.waiting := by
  obtain ⟨c, pc, hCall, hCmd⟩ := h.cmds cmd hMem
  have hSync : c.sync = true := by
    rw [← hCmd, ne_eq, PollCall.cmd_eq_async_iff] at hNotAsync
    simpa using hNotAsync
  have hPc := (h.calls cmd.1).of_pc hCall
  have hQueued : s.Queued cmd.1 := List.mem_map_of_mem hMem
  cases pc with
  | write => exact absurd hQueued hPc.2.2.1
  | check => simp [PcSound, hFree] at hPc
  | wait =>
    rcases hPc.2.2 with ⟨hWaiting, -⟩ | ⟨-, -, hNot⟩
    · exact ⟨c, hCall, hSync, hWaiting⟩
    · exact absurd hQueued hNot
  | unlock => exact absurd hQueued (hPc.2.2 hSync)
  | done => exact absurd hQueued (hPc.2.2 hSync)
  | _ => exact absurd hQueued hPc.queued

theorem Sound.inProgress_of_inside (h : s.Sound) (hInside : s.condV.Inside n) :
    s.InProgress n := by
  have hSound := h.calls n
  cases hCall : s.calls n with
  | none =>
    rw [CallSound, hCall] at hSound
    exact absurd hInside hSound.cond
  | some call =>
    obtain ⟨c, pc⟩ := call
    have hPc := hSound.of_pc hCall
    cases pc with
    | wait => exact ⟨c, .wait, hCall, hPc.2.1, by decide⟩
    | write => exact absurd hInside hPc.2.1
    | check => exact absurd hInside hPc.2.1
    | unlock => exact absurd hInside hPc.2.1
    | done => exact absurd hInside hPc.2.1
    | _ => exact absurd hInside hPc.cond

/-- The command of a synchronous call that is about to return has been dealt with. -/
theorem Sound.not_mem_of_unlock (h : s.Sound) (hCall : s.calls n = some (c, .unlock))
    (hSync : c.sync = true) {k : PipeCmd} : (n, k) ∉ s.unprocessed :=
  fun hMem => ((h.calls n).of_pc hCall).2.2 hSync (List.mem_map_of_mem hMem)

section Steps

variable [DecidableEq τ] {ok : Bool} {pick : Option τ} {pc' : CallPc} {s₁ : PollState τ}

/-! ### The protocol is kept -/

@[simp] theorem mutex_goto : (s.goto n c pc).mutex = s.mutex := rfl

@[simp] theorem condV_goto : (s.goto n c pc).condV = s.condV := rfl

@[simp] theorem queued_goto : (s.goto n c pc).Queued m ↔ s.Queued m := Iff.rfl

theorem calls_goto_self : (s.goto n c pc).calls n = some (c, pc) := Function.update_self _ _ _

theorem calls_goto_of_ne (hNe : m ≠ n) : (s.goto n c pc).calls m = s.calls m :=
  Function.update_of_ne hNe _ _

theorem InProgress.of_goto (hCall : s.calls n = some (c, pc)) (hPc : pc ≠ .done)
    (h : (s.goto n c pc').InProgress m) : s.InProgress m := by
  obtain ⟨c', pc'', hAt, hSync, hNotDone⟩ := h
  rcases eq_or_ne m n with rfl | hNe
  · rw [calls_goto_self] at hAt
    cases hAt
    exact ⟨c, pc, hCall, hSync, hPc⟩
  · rw [calls_goto_of_ne hNe] at hAt
    exact ⟨c', pc'', hAt, hSync, hNotDone⟩

/-- A step of call `n` that leaves `s₁` but for the place of the call. -/
theorem Sound.goto (h : s.Sound) (hCall : s.calls n = some (c, pc)) (hPc : pc ≠ .done)
    (hCalls : s₁.calls = s.calls)
    (hFrame : ∀ m, m ≠ n → s.CallSound m → (s₁.goto n c pc').CallSound m)
    (hOwn : (s₁.goto n c pc').PcSound n c pc') (hNodup : (s₁.unprocessed.map Prod.fst).Nodup)
    (hCond : s₁.condV.Single)
    (hCmds : ∀ cmd ∈ s₁.unprocessed, cmd ∈ s.unprocessed ∨ cmd = (n, c.cmd))
    (hWorker : s₁.worker = s.worker) (hNum : s₁.numFds = s.numFds) :
    (s₁.goto n c pc').Sound where
  calls := by
    intro m
    rcases eq_or_ne m n with rfl | hNe
    · rw [CallSound, calls_goto_self]
      exact hOwn
    · exact hFrame m hNe (h.calls m)
  single := by
    intro m m' hm hm'
    have hCall₁ : s₁.calls n = some (c, pc) := hCalls ▸ hCall
    obtain ⟨c₁, pc₁, hAt, hRest⟩ := InProgress.of_goto hCall₁ hPc hm
    obtain ⟨c₂, pc₂, hAt', hRest'⟩ := InProgress.of_goto hCall₁ hPc hm'
    rw [hCalls] at hAt hAt'
    exact h.single m m' ⟨c₁, pc₁, hAt, hRest⟩ ⟨c₂, pc₂, hAt', hRest'⟩
  nodup := hNodup
  cond := hCond
  cmds := by
    intro cmd hMem
    have hOld : ∃ c' pc', s.calls cmd.1 = some (c', pc') ∧ c'.cmd = cmd.2 := by
      rcases hCmds cmd hMem with hIn | rfl
      · exact h.cmds cmd hIn
      · exact ⟨c, pc, hCall, rfl⟩
    obtain ⟨c', pc'', hAt, hSame⟩ := hOld
    rcases eq_or_ne cmd.1 n with hMine | hNe
    · rw [hMine, hCall] at hAt
      cases hAt
      exact ⟨c, pc', by rw [hMine, calls_goto_self], hSame⟩
    · exact ⟨c', pc'', by rw [calls_goto_of_ne hNe, hCalls, hAt], hSame⟩
  worker := by
    change s₁.WorkerSound s₁.worker
    have hKept := h.worker
    rw [hWorker]
    cases hAt : s.worker with
    | poll => trivial
    | testFd cmd i =>
      rw [hAt] at hKept
      exact ⟨hKept.1, hKept.2.1, hNum.trans hKept.2.2⟩
    | copyFd cmd i =>
      rw [hAt] at hKept
      exact ⟨hKept.1, hKept.2.1, hNum.trans hKept.2.2⟩
    | sigDone cmd =>
      rw [hAt] at hKept
      exact hKept

theorem Outside.goto (h : s.Outside n) (hMutex : s₁.mutex = s.mutex) (hCond : s₁.condV = s.condV)
    (hUnprocessed : s₁.unprocessed = s.unprocessed) : (s₁.goto n c pc').Outside n where
  mutex := by
    change s₁.mutex ≠ some n
    rw [hMutex]
    exact h.mutex
  cond := by
    change ¬ s₁.condV.Inside n
    rw [hCond]
    exact h.cond
  queued := by
    change ¬ n ∈ s₁.unprocessed.map Prod.fst
    rw [hUnprocessed]
    exact h.queued

/-- A step that changes nothing that the others look at. -/
theorem Sound.goto_quiet (h : s.Sound) (hCall : s.calls n = some (c, pc)) (hPc : pc ≠ .done)
    (entries : Nat → PollEntry)
    (hOwn : (PollState.goto { s with pollEntries := entries } n c pc').PcSound n c pc') :
    (PollState.goto { s with pollEntries := entries } n c pc').Sound :=
  h.goto hCall hPc rfl (fun _ hNe hm => hm.frame (calls_goto_of_ne hNe) Iff.rfl Iff.rfl Iff.rfl
    Iff.rfl fun _ => rfl) hOwn h.nodup h.cond (fun _ hMem => Or.inl hMem) rfl rfl

theorem Sound.caller (h : s.Sound) (hStep : s.callStep pipe n ok = some (s', o)) : s'.Sound := by
  obtain ⟨c, pc, pc', s₁, hCall, hCase, rfl⟩ := callStep_cases hStep
  have hPc := (h.calls n).of_pc hCall
  cases hCase with
  | found => exact h.goto_quiet hCall (by simp) s.pollEntries (Outside.goto hPc rfl rfl rfl)
  | notFound =>
    exact h.goto_quiet hCall (by simp) s.pollEntries ⟨hPc.mutex, hPc.cond, fun _ => hPc.queued⟩
  | setFd => exact h.goto_quiet hCall (by simp) _ (Outside.goto hPc rfl rfl rfl)
  | setHandler => exact h.goto_quiet hCall (by simp) _ (Outside.goto hPc rfl rfl rfl)
  | lock hFree =>
    refine h.goto hCall (by simp) rfl ?_ ⟨rfl, hPc.cond, hPc.queued, rfl⟩ h.nodup h.cond
      (fun _ hMem => Or.inl hMem) rfl rfl
    intro m hNe hm
    refine hm.frame (calls_goto_of_ne hNe) ?_ Iff.rfl Iff.rfl Iff.rfl ?_
    · simp [hFree, hNe.symm]
    · simp [hFree]
  | writeFailed =>
    obtain ⟨hMutex, hCond, hNot, -⟩ := hPc
    exact h.goto_quiet hCall (by simp) s.pollEntries ⟨hMutex, hCond, fun _ => hNot⟩
  | sent hRoom =>
    obtain ⟨hMutex, hCond, hNot, hStatus⟩ := hPc
    refine h.goto hCall (by simp) rfl ?_ ?_ ?_ h.cond ?_ rfl rfl
    · intro m hNe hm
      have hQueued : Queued { s with pipe := s.pipe ++ [(n, c.cmd)] } m ↔ s.Queued m :=
        queued_sent hNe
      exact hm.frame (calls_goto_of_ne hNe) Iff.rfl Iff.rfl Iff.rfl hQueued fun _ => rfl
    · cases hSync : c.sync with
      | true =>
        refine ⟨hMutex, hCond, ?_, hSync, hStatus⟩
        change n ∈ (unprocessed { s with pipe := s.pipe ++ [(n, c.cmd)] }).map Prod.fst
        rw [unprocessed_sent]
        simp
      | false => exact ⟨hMutex, hCond, fun hTrue => absurd hTrue (by simp [hSync])⟩
    · rw [unprocessed_sent, List.map_append]
      refine h.nodup.append (List.nodup_singleton _) ?_
      intro m hm hNew
      obtain rfl : m = n := List.mem_singleton.mp hNew
      exact hNot hm
    · intro cmd hMem
      rw [unprocessed_sent, List.mem_append, List.mem_singleton] at hMem
      exact hMem
  | signalled hStatus =>
    rw [hPc.2.2.2.2] at hStatus
    cases hStatus
  | blocked =>
    obtain ⟨hMutex, hCond, hQueued, hSync, -⟩ := hPc
    refine h.goto hCall (by simp) rfl ?_ ?_ h.nodup (h.cond.wait hCond)
      (fun _ hMem => Or.inl hMem) rfl rfl
    · intro m hNe hm
      refine hm.frame (calls_goto_of_ne hNe) ?_ ?_ Iff.rfl Iff.rfl fun _ => rfl
      · simp [hMutex, hNe.symm]
      · simp [Condition.wait, hNe]
    · exact ⟨by simp, hSync, Or.inl ⟨List.mem_cons_self, hQueued⟩⟩
  | resumed hWoken hFree =>
    obtain ⟨-, hSync, hIn⟩ := hPc
    have hNotQueued : ¬ s.Queued n := by
      rcases hIn with ⟨hWaiting, -⟩ | ⟨-, -, hNot⟩
      · exact absurd rfl ((List.nodup_append.mp h.cond).2.2 n hWaiting n hWoken)
      · exact hNot
    refine h.goto hCall (by simp) rfl ?_ ⟨rfl, h.cond.not_inside_resume hWoken, fun _ => hNotQueued⟩
      h.nodup (h.cond.resume n) (fun _ hMem => Or.inl hMem) rfl rfl
    intro m hNe hm
    refine hm.frame (calls_goto_of_ne hNe) ?_ Iff.rfl ?_ Iff.rfl fun _ => rfl
    · simp [hFree, hNe.symm]
    · exact List.mem_erase_of_ne hNe
  | returned =>
    obtain ⟨hMutex, hCond, hNot⟩ := hPc
    refine h.goto hCall (by simp) rfl ?_ ⟨by simp, hCond, hNot⟩ h.nodup h.cond
      (fun _ hMem => Or.inl hMem) rfl rfl
    intro m hNe hm
    refine hm.frame (calls_goto_of_ne hNe) ?_ Iff.rfl Iff.rfl Iff.rfl fun _ => rfl
    simp [hMutex, hNe.symm]

/-! ### The steps of the thread -/

/-- The signal wakes the caller of the command. -/
theorem Sound.pick_eq {condV : Condition τ} (h : s.Sound) (hMem : cmd ∈ s.unprocessed)
    (hNotAsync : cmd.2 ≠ .pollEntriesUpdatedAsync) (hFree : s.mutex = none)
    (hSignal : s.condV.signal pick = some condV) :
    pick = some cmd.1 ∧ condV = s.condV.wake cmd.1 := by
  obtain ⟨c, hCall, hSync, hWaiting⟩ := h.blocked_of_front hMem hNotAsync hFree
  cases pick with
  | none =>
    rw [Condition.signal] at hSignal
    split at hSignal
    · rename_i hNil
      rw [hNil] at hWaiting
      exact absurd hWaiting List.not_mem_nil
    · cases hSignal
  | some t =>
    rw [Condition.signal] at hSignal
    split at hSignal
    · rename_i ht
      have hSame : t = cmd.1 := h.single _ _ (h.inProgress_of_inside (Or.inl ht))
        (h.inProgress_of_inside (Or.inl hWaiting))
      cases hSignal
      rw [hSame]
      exact ⟨rfl, rfl⟩
    · cases hSignal

theorem Sound.sigDone {condV : Condition τ} (h : s.Sound) (hAt : s.worker = .sigDone cmd)
    (hFree : s.mutex = none) (hSignal : s.condV.signal pick = some condV) :
    Sound { s with status := true, condV, worker := .poll } := by
  have hFront : s.unprocessed = cmd :: s.pipe := by rw [unprocessed, hAt]; rfl
  have hMem : cmd ∈ s.unprocessed := hFront ▸ List.mem_cons_self
  have hWorker := h.worker
  rw [hAt] at hWorker
  obtain ⟨c, hCall, hSync, hWaiting⟩ := h.blocked_of_front hMem hWorker hFree
  obtain ⟨-, rfl⟩ := h.pick_eq hMem hWorker hFree hSignal
  obtain ⟨hGone, hOthers⟩ := queued_front
    { s with status := true, condV := s.condV.wake cmd.1, worker := .poll } h hFront rfl
  refine h.work rfl ?_ (h.cond.wake hWaiting) ?_ trivial
  · intro m
    rcases eq_or_ne m cmd.1 with rfl | hNe
    · rw [CallSound]
      simp only [hCall]
      refine ⟨by simp [hFree], hSync, Or.inr ⟨?_, List.mem_cons_self, hGone⟩⟩
      exact fun hIn => (h.cond.mem_wake.mp hIn).1 rfl
    · refine (h.calls m).frame rfl Iff.rfl ?_ ?_ (hOthers m hNe) (by simp [hFree])
      · exact h.cond.mem_wake.trans (and_iff_right hNe)
      · simp [Condition.wake, hNe]
  · rw [hFront]
    exact List.sublist_cons_self _ _

theorem Sound.workerStep (h : s.Sound) (hStep : s.workerStep pipe pick = some (s', o)) :
    s'.Sound := by
  have hCase := workerStep_cases hStep
  have hWorker := h.worker
  generalize hAt : s.worker = at_ at hCase hWorker
  cases hCase with
  | commit hReadable hCommit =>
    refine h.work_same rfl rfl rfl rfl ?_ ?_
    · rw [unprocessed, unprocessed, hAt, hReadable]
      rfl
    · change _ ≠ _
      rw [hCommit]
      decide
  | update hReadable hNotCommit =>
    refine h.work_same rfl rfl rfl rfl ?_ ⟨hNotCommit, by decide, rfl⟩
    rw [unprocessed, unprocessed, hAt, hReadable]
    rfl
  | valid =>
    refine h.work_same rfl rfl rfl rfl ?_ hWorker
    rw [unprocessed, unprocessed, hAt]
    rfl
  | invalid hRemoved hSlot =>
    refine h.slot rfl rfl rfl rfl rfl (by rw [hAt]; rfl) hWorker.1 ?_ rfl hSlot
    exact congrArg (· + 1) hWorker.2.2
  | copied hSlot =>
    refine h.slot rfl rfl rfl rfl rfl (by rw [hAt]; rfl) hWorker.1 ?_ rfl hSlot
    exact congrArg (· + 1) hWorker.2.2
  | sigDone hFree hSignal => exact h.sigDone hAt hFree hSignal

/-! ### Runs -/

theorem start_cases (c : PollCall) : c.start = .done ∨ c.start = .setFd ∨ c.start = .checkHandler ∨
    c.start = .lock := by
  cases c with
  | addPollFd handler fd sync =>
    rw [PollCall.start]
    split <;> simp
  | delPollFd handler sync =>
    rw [PollCall.start]
    split <;> simp
  | _ => simp [PollCall.start]

/-- A call begins. -/
theorem Sound.start (h : s.Sound) (hCall : s.calls n = none) (hOne : s.OneSync (.call n c)) :
    (s.goto n c c.start).Sound := by
  have hOut := h.calls n
  rw [CallSound, hCall] at hOut
  constructor
  · intro m
    rcases eq_or_ne m n with rfl | hNe
    · rw [CallSound, calls_goto_self]
      rcases start_cases c with hStart | hStart | hStart | hStart <;> rw [hStart]
      · exact ⟨hOut.mutex, hOut.cond, fun _ => hOut.queued⟩
      · exact hOut.goto rfl rfl rfl
      · exact hOut.goto rfl rfl rfl
      · exact hOut.goto rfl rfl rfl
    · exact (h.calls m).frame (calls_goto_of_ne hNe) Iff.rfl Iff.rfl Iff.rfl Iff.rfl fun _ => rfl
  · have hOld {m : τ} (hm : (s.goto n c c.start).InProgress m) :
        s.InProgress m ∨ m = n ∧ c.sync = true := by
      obtain ⟨c', pc', hAt, hSync, hNotDone⟩ := hm
      rcases eq_or_ne m n with rfl | hNe
      · rw [calls_goto_self] at hAt
        cases hAt
        exact Or.inr ⟨rfl, hSync⟩
      · rw [calls_goto_of_ne hNe] at hAt
        exact Or.inl ⟨c', pc', hAt, hSync, hNotDone⟩
    intro m m' hm hm'
    rcases hOld hm with hIn | ⟨hSame, hSync⟩
    · rcases hOld hm' with hIn' | ⟨-, hSync⟩
      · exact h.single m m' hIn hIn'
      · exact absurd hIn (hOne hSync m)
    · rcases hOld hm' with hIn' | ⟨hSame', -⟩
      · exact absurd hIn' (hOne hSync m')
      · exact hSame.trans hSame'.symm
  · exact h.nodup
  · exact h.cond
  · intro cmd hMem
    obtain ⟨c', pc', hAt, hCmd⟩ := h.cmds cmd hMem
    have hNe : cmd.1 ≠ n := by
      intro hSame
      rw [hSame, hCall] at hAt
      cases hAt
    exact ⟨c', pc', by rw [calls_goto_of_ne hNe, hAt], hCmd⟩
  · exact h.worker

theorem call_cases {n : τ} {c : PollCall} (h : Next pipe s (.call n c) o s') :
    s.calls n = none ∧ s' = s.goto n c c.start ∧
      o = .called n c :: if c.start = .done then [.returned n (-1)] else [] := by
  rw [Next] at h
  cases hCall : s.calls n with
  | none =>
    simp only [step, hCall] at h
    cases h
    exact ⟨rfl, rfl, rfl⟩
  | some call =>
    simp only [step, hCall] at h
    cases h

theorem data_cases (h : Next pipe s .data o s') : s' = s ∧ o = [] := by
  rw [Next] at h
  cases hWorker : s.worker <;> cases hPipe : s.pipe <;> simp only [step, hWorker, hPipe] at h <;>
    cases h
  exact ⟨rfl, rfl⟩

theorem Sound.next {i : PollInput τ} (h : s.Sound) (hOne : s.OneSync i)
    (hNext : Next pipe s i o s') :
    s'.Sound := by
  cases i with
  | call n c =>
    obtain ⟨hCall, rfl, -⟩ := call_cases hNext
    exact h.start hCall hOne
  | caller n ok => exact h.caller hNext
  | worker pick => exact h.workerStep hNext
  | data =>
    obtain ⟨rfl, -⟩ := data_cases hNext
    exact h

end Steps

end PollState

end KiwiDevice.Camera.PollThread

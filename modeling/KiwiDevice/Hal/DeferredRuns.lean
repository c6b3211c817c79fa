import KiwiDevice.Hal.DeferredWork

/-!
# Deferred work is done once

The slots that are set are those of the jobs that are not done yet, and a thread is blocked on such
a slot only. A job without a channel keeps its slot for ever, and the one wake-up at the end of an
allocation may go to a thread that waits for another job.
-/

namespace KiwiDevice.Hal

universe u

namespace DefferedWorkCmd

/-- The worker gets to the channel. -/
def Runnable (asserts : Bool) : DefferedWorkCmd → Prop
  | .allocateBuff ch _ => ch ≠ none
  | .pprocStart ch => asserts = true → ch ≠ none
  | .max => False

def IsAllocation : DefferedWorkCmd → Prop
  | .allocateBuff _ _ => True
  | _ => False

end DefferedWorkCmd

namespace DeffState

variable {τ : Type u}

def accepted (os : List (DeffEvent τ)) : List DeffWork :=
  os.filterMap fun e =>
    match e with
    | .queued dw => some dw
    | _ => none

def executed (os : List (DeffEvent τ)) : List DeffWork :=
  os.filterMap fun e =>
    match e with
    | .executed dw => some dw
    | _ => none

def running : DeffWorker → List DeffWork
  | .executing dw => [dw]
  | _ => []

def unfinished (s : DeffState τ) : List DeffWork := running s.worker ++ s.mCmdQueue

/-- What the worker has left to do. -/
def work (s : DeffState τ) : Nat := 2 * s.cmdQueue.length + (running s.worker).length

def ByWorker : DeffInput τ → Prop
  | .nextCmd => True
  | .finish _ _ => True
  | _ => False

/-- A job that gets an id can be run, there is memory for the queues, and of the threads that wait
for an allocation at its end the signal leaves none behind. -/
def Meets (s : DeffState τ) : DeffInput τ → Prop
  | .queue cmd workNode cmdNode =>
    s.freeSlot ≠ none → workNode = true ∧ cmdNode = true ∧ cmd.Runnable s.asserts
  | .finish pick _ =>
    ∀ dw, s.worker = .executing dw → dw.cmd.IsAllocation →
      ∀ w ∈ s.mDeffCond.waiting, w.2 = dw.id → pick = some w
  | _ => True

structure Sound (os : List (DeffEvent τ)) (s : DeffState τ) : Prop where
  once : accepted os = executed os ++ s.unfinished
  ids : (s.unfinished.map DeffWork.id).Nodup
  ongoing : ∀ i, s.mDeffOngoingJobs i = true ↔ i ∈ s.unfinished.map DeffWork.id
  range : ∀ dw ∈ s.unfinished, dw.id < MAX_ONGOING_JOBS
  runnable : ∀ dw ∈ s.unfinished, dw.cmd.Runnable s.asserts
  sem : s.cmdSem = s.cmdQueue.length
  jobs : s.cmdQueue.count .doNextJob = s.mCmdQueue.length
  cmds : ∀ cmd ∈ s.cmdQueue, cmd = .startDataProc ∨ cmd = .doNextJob
  worker : s.worker = .waiting ∨ ∃ dw, s.worker = .executing dw
  single : s.mDeffCond.Single
  blocked : ∀ w ∈ s.mDeffCond.waiting, s.mDeffOngoingJobs w.2 = true

variable {os o : List (DeffEvent τ)} {s s' : DeffState τ} {i : DeffInput τ} {dw : DeffWork} {n : Nat}

@[simp] theorem accepted_append (os o : List (DeffEvent τ)) :
    accepted (os ++ o) = accepted os ++ accepted o :=
  List.filterMap_append

@[simp] theorem executed_append (os o : List (DeffEvent τ)) :
    executed (os ++ o) = executed os ++ executed o :=
  List.filterMap_append

theorem sound_init (asserts : Bool) : Sound [] (init asserts : DeffState τ) := by
  constructor <;> simp [init, accepted, executed, unfinished, running, Lib.Condition.idle,
    Lib.Condition.Single]

theorem freeSlot_some (h : s.freeSlot = some n) :
    n < MAX_ONGOING_JOBS ∧ s.mDeffOngoingJobs n = false := by
  constructor
  · exact List.mem_range.mp (List.mem_of_find?_eq_some h)
  · simpa using List.find?_some h

theorem sound_queue (h : Sound os s) (cmd : DefferedWorkCmd) {workNode cmdNode : Bool}
    (hMeets : s.Meets (.queue cmd workNode cmdNode)) :
    Sound (os ++ [(s.queueDefferedWork cmd workNode cmdNode).2])
      (s.queueDefferedWork cmd workNode cmdNode).1 := by
  cases hFree : s.freeSlot with
  | none =>
    simp only [queueDefferedWork, hFree]
    exact { h with once := by simpa [accepted, executed] using h.once }
  | some n =>
    obtain ⟨rfl, rfl, hRun⟩ := hMeets (by simp [hFree])
    obtain ⟨hRange, hClear⟩ := freeSlot_some hFree
    have hNotMem : n ∉ s.unfinished.map DeffWork.id := by
      rw [← h.ongoing, hClear]
      decide
    simp only [queueDefferedWork, hFree, sendCmd, if_true]
    have hUnfinished : running s.worker ++ (s.mCmdQueue ++ [⟨cmd, n⟩]) = s.unfinished ++ [⟨cmd, n⟩] :=
      (List.append_assoc _ _ _).symm
    have hMember : ∀ dw ∈ running s.worker ++ (s.mCmdQueue ++ [⟨cmd, n⟩]),
        dw ∈ s.unfinished ∨ dw = ⟨cmd, n⟩ := by
      intro dw hMem
      rw [hUnfinished, List.mem_append, List.mem_singleton] at hMem
      exact hMem
    constructor
    · show accepted (os ++ _) =
        executed (os ++ _) ++ (running s.worker ++ (s.mCmdQueue ++ [(⟨cmd, n⟩ : DeffWork)]))
      rw [hUnfinished, accepted_append, executed_append, h.once]
      simp [accepted, executed]
    · show ((running s.worker ++ (s.mCmdQueue ++ [(⟨cmd, n⟩ : DeffWork)])).map DeffWork.id).Nodup
      rw [hUnfinished, List.map_append, List.nodup_append]
      simp only [List.map_cons, List.map_nil, List.mem_singleton]
      refine ⟨h.ids, List.nodup_singleton n, ?_⟩
      rintro i hi _ rfl rfl
      exact hNotMem hi
    · intro i
      show (if i = n then true else s.mDeffOngoingJobs i) = true ↔
        i ∈ (running s.worker ++ (s.mCmdQueue ++ [(⟨cmd, n⟩ : DeffWork)])).map DeffWork.id
      rw [hUnfinished, List.map_append, List.mem_append, ← h.ongoing]
      split <;> simp_all
    · intro dw hMem
      rcases hMember dw hMem with hOld | hNew
      · exact h.range dw hOld
      · rwa [hNew]
    · intro dw hMem
      rcases hMember dw hMem with hOld | hNew
      · exact h.runnable dw hOld
      · rwa [hNew]
    · simp [setOngoing, h.sem]
    · simp [setOngoing, h.jobs]
    · intro c hMem
      rcases List.mem_append.mp hMem with hOld | hNew
      · exact h.cmds c hOld
      · exact Or.inr (List.mem_singleton.mp hNew)
    · exact h.worker
    · exact h.single
    · intro w hw
      have hOld := h.blocked w hw
      simp only [setOngoing, hOld, ite_self]

theorem Sound.setCond (h : Sound os s) {mDeffCond : Lib.Condition (τ × Nat)}
    {e : List (DeffEvent τ)}
    (hAccepted : accepted e = []) (hExecuted : executed e = []) (hSingle : mDeffCond.Single)
    (hBlocked : ∀ w ∈ mDeffCond.waiting, s.mDeffOngoingJobs w.2 = true) :
    Sound (os ++ e) { s with mDeffCond } :=
  { h with
    once := by
      rw [accepted_append, executed_append, hAccepted, hExecuted, List.append_nil, List.append_nil]
      exact h.once
    single := hSingle
    blocked := hBlocked }

theorem sound_waitLoop (h : Sound os s) {t : τ} (hOut : ¬ s.mDeffCond.Inside (t, n)) :
    Sound (os ++ [(s.waitLoop t n).2]) (s.waitLoop t n).1 := by
  rw [waitLoop]
  split
  · rename_i hOngoing
    apply h.setCond rfl rfl (h.single.wait hOut)
    intro w hw
    rcases List.mem_cons.mp hw with rfl | hw
    · exact hOngoing
    · exact h.blocked w hw
  · exact h.setCond rfl rfl h.single h.blocked

theorem sound_wait (h : Sound os s) {t : τ} (hFree : s.Free t) (jobId : Int) :
    Sound (os ++ [(s.waitDefferedWork t jobId).2]) (s.waitDefferedWork t jobId).1 := by
  rw [waitDefferedWork]
  split
  · exact h.setCond rfl rfl h.single h.blocked
  · exact sound_waitLoop h fun hIn => hFree _ hIn rfl

theorem startWork_of_runnable (h : dw.cmd.Runnable s.asserts) :
    s.startWork dw = ({ s with worker := .executing dw }, []) := by
  rw [startWork]
  cases hCmd : dw.cmd with
  | allocateBuff ch type =>
    rw [hCmd] at h
    exact if_neg h
  | pprocStart ch =>
    rw [hCmd] at h
    apply if_neg
    simpa [DefferedWorkCmd.Runnable] using h
  | max =>
    rw [hCmd] at h
    exact h.elim

/-- The worker gets `START_DATA_PROC` or a job, and then works on it. -/
theorem nextCmd_cases (h : Sound os s) (hNext : s.nextCmd = some (s', o)) :
    o = [] ∧ s.worker = .waiting ∧ ∃ cmd cmdQueue, s.cmdQueue = cmd :: cmdQueue ∧
      ((cmd = .startDataProc ∧
          s' = { s with cmdSem := cmdQueue.length, cmdQueue, isActive := true }) ∨
        ∃ dw mCmdQueue, cmd = .doNextJob ∧ s.mCmdQueue = dw :: mCmdQueue ∧
          s' = { s with cmdSem := cmdQueue.length, cmdQueue, mCmdQueue, worker := .executing dw }) := by
  have hSem := h.sem
  rw [nextCmd] at hNext
  split at hNext
  · rename_i hWorker hCount
    cases hQueue : s.cmdQueue with
    | nil => simp [hQueue, hCount] at hSem
    | cons cmd cmdQueue =>
      rw [hQueue, hCount, List.length_cons, Nat.succ_eq_add_one, Nat.add_right_cancel_iff] at hSem
      subst hSem
      simp only [hQueue, Option.some.injEq] at hNext
      obtain rfl | rfl := h.cmds cmd (hQueue ▸ List.mem_cons_self)
      · cases hNext
        exact ⟨rfl, hWorker, _, _, rfl, Or.inl ⟨rfl, rfl⟩⟩
      · cases hJobs : s.mCmdQueue with
        | nil =>
          have hJob := h.jobs
          simp [hQueue, hJobs] at hJob
        | cons dw mCmdQueue =>
          have hMem : dw ∈ s.unfinished := List.mem_append_right _ (hJobs ▸ List.mem_cons_self)
          have hRun : dw.cmd.Runnable ({ s with
            cmdSem := cmdQueue.length, cmdQueue, mCmdQueue } : DeffState τ).asserts :=
              h.runnable dw hMem
          simp only [runCmd, hJobs] at hNext
          rw [startWork_of_runnable hRun] at hNext
          cases hNext
          exact ⟨rfl, hWorker, _, _, rfl, Or.inr ⟨dw, mCmdQueue, rfl, rfl, rfl⟩⟩
  · cases hNext

theorem Sound.moves (h : Sound os s) (hUnfinished : s'.unfinished = s.unfinished)
    (hOngoing : s'.mDeffOngoingJobs = s.mDeffOngoingJobs) (hAsserts : s'.asserts = s.asserts)
    (hCond : s'.mDeffCond = s.mDeffCond) (hSem : s'.cmdSem = s'.cmdQueue.length)
    (hJobs : s'.cmdQueue.count .doNextJob = s'.mCmdQueue.length)
    (hCmds : ∀ cmd ∈ s'.cmdQueue, cmd ∈ s.cmdQueue)
    (hWorker : s'.worker = .waiting ∨ ∃ dw, s'.worker = .executing dw) : Sound os s' := by
  constructor
  · rw [hUnfinished]
    exact h.once
  · rw [hUnfinished]
    exact h.ids
  · rw [hUnfinished, hOngoing]
    exact h.ongoing
  · rw [hUnfinished]
    exact h.range
  · rw [hUnfinished, hAsserts]
    exact h.runnable
  · exact hSem
  · exact hJobs
  · exact fun cmd hMem => h.cmds cmd (hCmds cmd hMem)
  · exact hWorker
  · rw [hCond]
    exact h.single
  · rw [hCond, hOngoing]
    exact h.blocked

theorem sound_nextCmd (h : Sound os s) (hNext : s.nextCmd = some (s', o)) : Sound (os ++ o) s' := by
  obtain ⟨rfl, hWorker, cmd, cmdQueue, hQueue, hTo⟩ := nextCmd_cases h hNext
  have hJobs := h.jobs
  have hLater : ∀ c ∈ cmdQueue, c ∈ s.cmdQueue := fun c hMem => hQueue ▸ List.mem_cons_of_mem cmd hMem
  rw [hQueue] at hJobs
  rw [List.append_nil]
  rcases hTo with ⟨rfl, rfl⟩ | ⟨dw, mCmdQueue, rfl, hWork, rfl⟩
  · have hCount : cmdQueue.count .doNextJob = s.mCmdQueue.length := by
      simpa using hJobs
    exact h.moves rfl rfl rfl rfl rfl hCount hLater h.worker
  · have hSame : running (.executing dw) ++ mCmdQueue = s.unfinished := by
      simp [unfinished, running, hWorker, hWork]
    have hCount : cmdQueue.count .doNextJob = mCmdQueue.length := by
      simpa [hWork] using hJobs
    exact h.moves hSame rfl rfl rfl rfl hCount hLater (Or.inr ⟨dw, rfl⟩)

theorem waitLoop_returned (h : Sound os s) {t t' : τ} {jobId : Int}
    (hReturned : .returned t' jobId ∈ [(s.waitLoop t n).2]) :
    ∀ dw ∈ s.unfinished, (dw.id : Int) ≠ jobId := by
  intro dw hMem hId
  rw [waitLoop] at hReturned
  split at hReturned
  · simp at hReturned
  · rename_i hClear
    simp only [List.mem_singleton, DeffEvent.returned.injEq] at hReturned
    obtain ⟨-, rfl⟩ := hReturned
    have hOngoing := (h.ongoing dw.id).mpr (List.mem_map_of_mem hMem)
    rw [Int.natCast_inj.mp hId] at hOngoing
    exact hClear hOngoing

theorem waitDefferedWork_returned (h : Sound os s) {t t' : τ} {job jobId : Int}
    (hReturned : .returned t' jobId ∈ [(s.waitDefferedWork t job).2]) :
    ∀ dw ∈ s.unfinished, (dw.id : Int) ≠ jobId := by
  rw [waitDefferedWork] at hReturned
  split at hReturned
  · rename_i hOut
    simp only [List.mem_singleton, DeffEvent.returned.injEq] at hReturned
    obtain ⟨-, rfl⟩ := hReturned
    intro dw hMem hId
    have hRange := h.range dw hMem
    omega
  · exact waitLoop_returned h hReturned

variable [DecidableEq τ]

theorem Sound.resume (h : Sound os s) (w : τ × Nat) :
    Sound os { s with mDeffCond := s.mDeffCond.resume w } := by
  have hSet := h.setCond (e := []) rfl rfl (h.single.resume w) h.blocked
  rwa [List.append_nil] at hSet

theorem sound_resume (h : Sound os s) {w : τ × Nat} (hw : w ∈ s.mDeffCond.woken) :
    Sound (os ++ [(({ s with mDeffCond := s.mDeffCond.resume w } : DeffState τ).waitLoop w.1 w.2).2])
      (({ s with mDeffCond := s.mDeffCond.resume w } : DeffState τ).waitLoop w.1 w.2).1 :=
  sound_waitLoop (h.resume w) (h.single.not_inside_resume hw)

theorem sound_spurious (h : Sound os s) {w : τ × Nat} (hw : w ∈ s.mDeffCond.waiting) :
    Sound (os ++ []) { s with mDeffCond := s.mDeffCond.wake w } :=
  h.setCond rfl rfl (h.single.wake hw) fun v hv => h.blocked v (h.single.mem_wake.mp hv).2

theorem finish_cases (h : Sound os s) {pick : Option (τ × Nat)} {started : Bool}
    (hMeets : s.Meets (.finish pick started)) (hFinish : s.finish pick started = some (s', o)) :
    ∃ dw mDeffCond, s.worker = .executing dw ∧
      (o = [.executed dw] ∨ o = [.errorNotified, .executed dw]) ∧
      s' = { s.setOngoing dw.id false with worker := .waiting, mDeffCond } ∧ mDeffCond.Single ∧
      ∀ w ∈ mDeffCond.waiting, w ∈ s.mDeffCond.waiting ∧ w.2 ≠ dw.id := by
  obtain hWorker | ⟨dw, hWorker⟩ := h.worker
  · simp [finish, hWorker] at hFinish
  · cases hCmd : dw.cmd with
    | allocateBuff ch type =>
      simp only [finish, hWorker, hCmd] at hFinish
      obtain ⟨mDeffCond, hSignal, hEq⟩ := Option.map_eq_some_iff.mp hFinish
      cases hEq
      obtain ⟨hSingle, hMem⟩ := h.single.signal hSignal
      refine ⟨dw, mDeffCond, hWorker, Or.inl rfl, rfl, hSingle, ?_⟩
      intro w hw
      obtain ⟨hPick, hOld⟩ := (hMem w).mp hw
      have hAllocation : dw.cmd.IsAllocation := by simp [hCmd, DefferedWorkCmd.IsAllocation]
      exact ⟨hOld, fun hId => hPick (hMeets dw hWorker hAllocation w hOld hId)⟩
    | pprocStart ch =>
      simp only [finish, hWorker, hCmd, Option.some.injEq] at hFinish
      cases hFinish
      refine ⟨dw, _, hWorker, ?_, rfl, h.single.broadcast, ?_⟩
      · cases started
        · exact Or.inr rfl
        · exact Or.inl rfl
      · exact fun w hw => absurd hw List.not_mem_nil
    | max => simp [finish, hWorker, hCmd] at hFinish

theorem sound_finish (h : Sound os s) {pick : Option (τ × Nat)} {started : Bool}
    (hMeets : s.Meets (.finish pick started)) (hFinish : s.finish pick started = some (s', o)) :
    Sound (os ++ o) s' := by
  obtain ⟨dw, mDeffCond, hWorker, hEvents, rfl, hSingle, hBlocked⟩ := finish_cases h hMeets hFinish
  have hAccepted : accepted o = [] := by
    rcases hEvents with rfl | rfl <;> rfl
  have hExecuted : executed o = [dw] := by
    rcases hEvents with rfl | rfl <;> rfl
  have hUnfinished : s.unfinished = dw :: s.mCmdQueue := by
    rw [unfinished, hWorker]
    rfl
  have hIds := h.ids
  rw [hUnfinished, List.map_cons, List.nodup_cons] at hIds
  have hLater : ∀ job ∈ s.mCmdQueue, job ∈ s.unfinished :=
    fun job hMem => hUnfinished ▸ List.mem_cons_of_mem dw hMem
  constructor
  · rw [accepted_append, executed_append, hAccepted, hExecuted, h.once, hUnfinished]
    simp [unfinished, running, setOngoing]
  · exact hIds.2
  · intro i
    show (if i = dw.id then false else s.mDeffOngoingJobs i) = true ↔ i ∈ s.mCmdQueue.map DeffWork.id
    split
    · rename_i hId
      simp [hId, hIds.1]
    · rename_i hNe
      rw [h.ongoing, hUnfinished, List.map_cons, List.mem_cons, or_iff_right hNe]
  · exact fun job hMem => h.range job (hLater job hMem)
  · exact fun job hMem => h.runnable job (hLater job hMem)
  · exact h.sem
  · exact h.jobs
  · exact h.cmds
  · exact Or.inl rfl
  · exact hSingle
  · intro w hw
    obtain ⟨hOld, hNe⟩ := hBlocked w hw
    show (if w.2 = dw.id then false else s.mDeffOngoingJobs w.2) = true
    rw [if_neg hNe]
    exact h.blocked w hOld

theorem sound_next (h : Sound os s) (hMeets : s.Meets i) (hNext : Next s i o s') :
    Sound (os ++ o) s' := by
  cases hNext with
  | queue cmd workNode cmdNode => exact sound_queue h cmd hMeets
  | wait t jobId ready => exact sound_wait h ready _
  | resume w ready hResumed =>
    subst hResumed
    exact sound_resume h ready
  | spurious ready => exact sound_spurious h ready
  | nextCmd hCmd => exact sound_nextCmd h hCmd
  | finish hFinish => exact sound_finish h hMeets hFinish

/-- The runs whose steps all meet the condition. -/
abbrev MeetingRun (asserts : Bool) (is : List (DeffInput τ)) (os : List (DeffEvent τ))
    (s : DeffState τ) : Prop :=
  Lib.Steps Next (fun _ _ s i _ => s.Meets i) (init asserts) is os s

theorem sound_of_run {asserts : Bool} {is : List (DeffInput τ)} (run : MeetingRun asserts is os s) :
    Sound os s := by
  apply run.history (I := fun _ os s => Sound os s) (sound_init asserts)
  intro is os s i o s' hMeets h hNext
  exact sound_next h hMeets hNext

theorem worker_next (h : Sound os s) (hLeft : accepted os ≠ executed os) :
    ∃ i o s', ByWorker i ∧ Next s i o s' := by
  obtain hWorker | ⟨dw, hWorker⟩ := h.worker
  · cases hQueue : s.cmdQueue with
    | nil =>
      have hJobs := h.jobs
      have hOnce := h.once
      rw [hQueue, List.count_nil] at hJobs
      rw [unfinished, hWorker, List.eq_nil_of_length_eq_zero hJobs.symm] at hOnce
      exact absurd (hOnce.trans (List.append_nil _)) hLeft
    | cons cmd cmdQueue =>
      have hSome : ∃ r, s.nextCmd = some r := by
        simp only [nextCmd, hWorker, h.sem, hQueue, List.length_cons]
        exact ⟨_, rfl⟩
      obtain ⟨⟨s', o⟩, hCmd⟩ := hSome
      exact ⟨.nextCmd, o, s', trivial, .nextCmd hCmd⟩
  · have hRun := h.runnable dw (by rw [unfinished, hWorker]; exact List.mem_cons_self)
    cases hCmd : dw.cmd with
    | allocateBuff ch type =>
      obtain ⟨pick, mDeffCond, hSignal⟩ := s.mDeffCond.exists_signal
      have hSome : ∃ r, s.finish pick true = some r := by
        simp only [finish, hWorker, hCmd, hSignal, Option.map_some]
        exact ⟨_, rfl⟩
      obtain ⟨⟨s', o⟩, hFinish⟩ := hSome
      exact ⟨.finish pick true, o, s', trivial, .finish hFinish⟩
    | pprocStart ch =>
      have hSome : ∃ r, s.finish none true = some r := by
        simp only [finish, hWorker, hCmd]
        exact ⟨_, rfl⟩
      obtain ⟨⟨s', o⟩, hFinish⟩ := hSome
      exact ⟨.finish none true, o, s', trivial, .finish hFinish⟩
    | max =>
      rw [hCmd] at hRun
      exact hRun.elim

theorem work_lt (h : Sound os s) (hMeets : s.Meets i) (hWorker : ByWorker i)
    (hNext : Next s i o s') :
    s'.work < s.work := by
  cases hNext with
  | nextCmd hCmd =>
    obtain ⟨-, hWaiting, cmd, cmdQueue, hQueue, hTo⟩ := nextCmd_cases h hCmd
    rcases hTo with ⟨-, rfl⟩ | ⟨dw, mCmdQueue, -, -, rfl⟩
    · simp [work, running, hWaiting, hQueue]
    · simp only [work, running, hWaiting, hQueue, List.length_cons, List.length_nil]
      omega
  | finish hFinish =>
    obtain ⟨dw, mDeffCond, hExecuting, -, rfl, -, -⟩ := finish_cases h hMeets hFinish
    simp [work, running, hExecuting, setOngoing]
  | _ => cases hWorker

theorem next_returned (h : Sound os s) (hMeets : s.Meets i) (hNext : Next s i o s') {t : τ}
    {jobId : Int}
    (hReturned : .returned t jobId ∈ o) : ∀ dw ∈ s.unfinished, (dw.id : Int) ≠ jobId := by
  cases hNext with
  | queue cmd workNode cmdNode =>
    rw [queueDefferedWork] at hReturned
    split at hReturned <;> simp at hReturned
  | wait t jobId ready => exact waitDefferedWork_returned h hReturned
  | resume w ready hResumed =>
    subst hResumed
    exact waitLoop_returned (h.resume w) hReturned
  | spurious ready => exact absurd hReturned List.not_mem_nil
  | nextCmd hCmd =>
    obtain ⟨rfl, -⟩ := nextCmd_cases h hCmd
    exact absurd hReturned List.not_mem_nil
  | finish hFinish =>
    obtain ⟨dw, -, -, hEvents, -⟩ := finish_cases h hMeets hFinish
    rcases hEvents with rfl | rfl <;> simp at hReturned

theorem released_of_done (h : Sound os s) (hDone : accepted os = executed os) :
    s.mDeffCond.waiting = [] ∧
      ∀ w o s', Next s (.resume w) o s' → o = [.returned w.1 w.2] := by
  have hNone : s.unfinished = [] := by
    have hOnce := h.once
    rw [hDone] at hOnce
    exact List.self_eq_append_right.mp hOnce
  have hClear : ∀ i, s.mDeffOngoingJobs i = false := by
    intro i
    have hOngoing := h.ongoing i
    rw [hNone] at hOngoing
    simpa using hOngoing
  constructor
  · apply List.eq_nil_iff_forall_not_mem.mpr
    intro w hw
    have hBlocked := h.blocked w hw
    rw [hClear] at hBlocked
    cases hBlocked
  · intro w o s' hNext
    cases hNext with
    | resume _ ready hResumed =>
      subst hResumed
      simp [waitLoop, hClear]

theorem MeetingRun.next {asserts : Bool} {is : List (DeffInput τ)}
    (run : MeetingRun asserts is os s)
    (i : DeffInput τ) (hMeets : s.Meets i) (h : Next s i o s') :
    MeetingRun asserts (is ++ [i]) (os ++ o) s' :=
  run.step hMeets h

theorem oneJob_run : ∃ (is : List (DeffInput Nat)) (os : List (DeffEvent Nat)) (s : DeffState Nat),
    MeetingRun true is os s ∧ accepted os = [⟨.allocateBuff (some 1) 0, 0⟩] ∧
      accepted os = executed os ∧ s.mDeffCond.woken = [(0, 0)] := by
  have run₀ : MeetingRun true [] [] (init true : DeffState Nat) := .start
  have run₁ := run₀.next (.queue (.allocateBuff (some 1) 0) true true)
    (fun _ => ⟨rfl, rfl, by simp [DefferedWorkCmd.Runnable]⟩) (.queue _ _ _)
  have run₂ := run₁.next (.wait 0 0) trivial (.wait 0 0 (by
    rintro w (hIn | hIn) <;> exact absurd hIn List.not_mem_nil))
  have run₃ := run₂.next .nextCmd trivial (.nextCmd rfl)
  have run₄ := run₃.next .nextCmd trivial (.nextCmd rfl)
  have run₅ := run₄.next (.finish (some (0, 0)) true)
    (fun _ _ _ w hw _ => congrArg some (List.mem_singleton.mp hw).symm) (.finish rfl)
  exact ⟨_, _, _, run₅, rfl, rfl, rfl⟩

theorem next_any {is : List (DeffInput τ)} (run : Lib.Steps Next Lib.anyStep (init true) is os s)
    (i : DeffInput τ) (h : Next s i o s') :
    Lib.Steps Next Lib.anyStep (init true) (is ++ [i]) (os ++ o) s' :=
  run.step trivial h

end DeffState

end KiwiDevice.Hal

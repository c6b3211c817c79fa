import KiwiDevice.Gps.TimerTracks

/-!
# Timers that do not fire early

A pending expiry has an expired head to pop as long as the head is not taken away before its message
is processed. The loop of the message then goes by the seconds only.
-/

namespace KiwiDevice.Gps

open Lib

namespace TimerService

/-- An fd goes off only for a container that holds a timer and has no expiry under way; the head is
not removed while an expiry is to be processed; no head that the loop compares with `now` is later
in the second of `now`; and a client that the loop stops has not started another timer since the
popped one was looked at. -/
def inTime (s : TimerService) : TimerInput → Bool
  | .epollWait fds =>
    fds.all fun b => s.expiries b == 0 && (s.containers b).heap.peek.isSome
  | .msgTask =>
    match s.task with
    | .idle =>
      match s.msgs with
      | .remove timer :: _ =>
        s.owed timer.wakeOnExpire == 0 ||
          (s.containers timer.wakeOnExpire).heap.peek != some timer
      | _ => true
    | .popped .. => true
    | .stopping _ _ timer client => (s.mTimer client).all fun t => t == timer
    | .next b now =>
      (s.containers b).heap.peek.all fun top =>
        top.mFutureTime.tvSec != now.tvSec || top.mFutureTime.tvNsec ≤ now.tvNsec
  | _ => true

/-- What a step does to the `MsgTask` thread, and the callbacks of it. -/
inductive TaskStep (s : TimerService) (i : TimerInput) (s' : TimerService) :
    List TimeOut → Prop where
  | same (hTask : s'.task = s.task) : TaskStep s i s' []
  | expire (b : Bool) (msgs : List TimerMsg) (hMsgs : s.msgs = .expire b :: msgs)
      (hLoop : Looped b s.clock (s.containers b).pop s') : TaskStep s i s' []
  | stopped (b : Bool) (now : Timespec) (hTask : s'.task = .next b now) : TaskStep s i s' []
  | reads (b : Bool) (now : Timespec) (timer : LocTimerDelegate) (client : Nat)
      (hFrom : s.task = .popped b now timer) (hTask : s'.task = .stopping b now timer client) :
      TaskStep s i s' []
  | stops (b : Bool) (now : Timespec) (timer : LocTimerDelegate) (client : Nat)
      (hInput : i = .msgTask) (hFrom : s.task = .stopping b now timer client)
      (hTask : s'.task = .next b now) :
      TaskStep s i s' ((s.mTimer client).toList.map fun t => ⟨t, now⟩)
  | next (b : Bool) (now : Timespec) (hInput : i = .msgTask) (hFrom : s.task = .next b now)
      (hLoop : Looped b now ((s.containers b).popIfOutRanks now) s') : TaskStep s i s' []

variable {s s' : TimerService} {b : Bool} {i : TimerInput} {o : List TimeOut}

theorem runTask_task (h : s.runTask = some (s', o)) : TaskStep s .msgTask s' o := by
  simp only [runTask] at h
  split at h
  · split at h
    · cases h
    · cases h
      exact .same rfl
    · cases h
      exact .same rfl
    · rename_i wakeOnExpire msgs hMsgs
      cases h
      exact .expire wakeOnExpire msgs hMsgs (loop_looped _ _ _ _)
  · rename_i wakeOnExpire now timer hTask
    split at h <;> cases h
    · exact .stopped wakeOnExpire now rfl
    · rename_i client _
      exact .reads wakeOnExpire now timer client hTask rfl
  · rename_i wakeOnExpire now timer client hTask
    cases h
    exact .stops wakeOnExpire now timer client rfl hTask rfl
  · rename_i wakeOnExpire now hTask
    cases h
    exact .next wakeOnExpire now rfl hTask (loop_looped _ _ _ _)

theorem step_task (h : s.step i = some (s', o)) : TaskStep s i s' o := by
  cases i with
  | tick now =>
    rw [step] at h
    split at h <;> cases h
    exact .same rfl
  | start client timeOutInMs wakeOnExpire =>
    obtain ⟨t, hStart, hEq⟩ := Option.map_eq_some_iff.mp h
    cases hEq
    rw [start] at hStart
    split at hStart
    · cases hStart
      exact .same rfl
    · obtain ⟨futureTime, _, hTo⟩ := Option.map_eq_some_iff.mp hStart
      cases hTo
      exact .same rfl
  | stop client =>
    cases h
    exact .same (stop_task s client)
  | msgTask => exact runTask_task h
  | epollWait fds =>
    rw [step] at h
    split at h <;> cases h
    exact .same rfl
  | pollTask =>
    obtain ⟨t, hPoll, hEq⟩ := Option.map_eq_some_iff.mp h
    cases hEq
    simp only [runPoll] at hPoll
    split at hPoll
    · cases hPoll
    · split at hPoll <;> cases hPoll <;> exact .same rfl

theorem loop_clock (s : TimerService) (b : Bool) (now : Timespec)
    (popped : LocTimerContainer × Option LocTimerDelegate) :
    (s.loop b now popped).clock = s.clock := by
  obtain ⟨c, timer⟩ := popped
  cases timer <;> rfl

theorem runTask_clock (h : s.runTask = some (s', o)) : s'.clock = s.clock := by
  simp only [runTask] at h
  split at h
  · split at h
    · cases h
    · cases h
      rfl
    · cases h
      rfl
    · cases h
      exact loop_clock _ _ _ _
  · split at h <;> cases h <;> rfl
  · cases h
    exact stop_clock s _
  · cases h
    exact loop_clock _ _ _ _

theorem step_clock (h : s.step i = some (s', o)) : s.clock ≤ s'.clock := by
  have hSame : s'.clock = s.clock → s.clock ≤ s'.clock := by
    intro hEq
    rw [hEq]
    exact Nat.le_refl _
  cases i with
  | tick now =>
    rw [step] at h
    split at h <;> cases h
    assumption
  | start client timeOutInMs wakeOnExpire =>
    obtain ⟨t, hStart, hEq⟩ := Option.map_eq_some_iff.mp h
    cases hEq
    rw [start] at hStart
    split at hStart
    · cases hStart
      exact hSame rfl
    · obtain ⟨futureTime, _, hTo⟩ := Option.map_eq_some_iff.mp hStart
      cases hTo
      exact hSame rfl
  | stop client =>
    cases h
    exact hSame (stop_clock s client)
  | msgTask => exact hSame (runTask_clock h)
  | epollWait fds =>
    rw [step] at h
    split at h <;> cases h
    exact hSame rfl
  | pollTask =>
    obtain ⟨t, hPoll, hEq⟩ := Option.map_eq_some_iff.mp h
    cases hEq
    simp only [runPoll] at hPoll
    split at hPoll
    · cases hPoll
    · split at hPoll <;> cases hPoll <;> exact hSame rfl

/-- The timer that the loop handles is due. -/
def TaskDue (s : TimerService) : Prop :=
  match s.task with
  | .popped _ now timer | .stopping _ now timer _ => timer.mFutureTime ≤ now
  | .idle | .next .. => True

structure FireInv (s : TimerService) (b : Bool) : Prop where
  heap : (s.containers b).heap.IsHeap LocTimerDelegate.ranks
  single : s.expiries b ≤ 1
  armed : s.expiries b = 0 → ∀ top v, (s.containers b).heap.peek = some top →
    (s.containers b).itValue = some v → v = top.mFutureTime
  due : 0 < s.owed b → ∃ top, (s.containers b).heap.peek = some top ∧ top.mFutureTime ≤ s.clock

/-- The one expiry of a container is processed: its loop goes on or ends. -/
theorem FireInv.looped {now : Timespec}
    {popped : LocTimerContainer × Option LocTimerDelegate} (hOwed : s'.owed b = 0)
    (hLoop : Looped b now popped s')
    (hHeap : popped.1.heap.IsHeap LocTimerDelegate.ranks) : s'.FireInv b := by
  have hNotDue : ¬0 < s'.owed b := by omega
  obtain ⟨timer, _, hTask, hContainer⟩ | ⟨_, hTask, hContainer⟩ := hLoop
  · have hHandles : s'.task.handles b = true := by
      rw [hTask]
      exact beq_self_eq_true b
    refine ⟨hContainer ▸ hHeap, ?_, fun hQuiet => ?_, fun hDue => absurd hDue hNotDue⟩
    · rw [expiries, hOwed, hHandles]
      exact Nat.le_refl 1
    · exact absurd hQuiet (expiries_pos_of_handles hHandles)
  · refine ⟨?_, ?_, fun _ => ?_, fun hDue => absurd hDue hNotDue⟩
    · rw [hContainer, LocTimerContainer.updateSoonestTime_heap]
      exact hHeap
    · rw [expiries, hOwed, hTask]
      exact Nat.zero_le 1
    · rw [hContainer]
      obtain ⟨hPeek, hEq⟩ | ⟨top, hPeek, hEq⟩ := popped.1.updateSoonestTime_none
      · rw [hEq, hPeek]
        intro t v hTop
        cases hTop
      · rw [hEq]
        intro t v hTop hValue
        cases hPeek.symm.trans hTop
        cases hValue
        rfl

theorem FireInv.push (h : s.FireInv b) {timer : LocTimerDelegate}
    (hContainer : s'.containers b = (s.containers b).procPush timer)
    (hOwed : s'.owed b = s.owed b) (hExpiries : s'.expiries b = s.expiries b)
    (hClock : s.clock ≤ s'.clock) : s'.FireInv b := by
  have hHeap : (s'.containers b).heap.IsHeap LocTimerDelegate.ranks := by
    rw [hContainer, LocTimerContainer.procPush_heap]
    exact LocHeapNode.IsHeap.push LocTimerDelegate.totalPreorder h.heap
  refine ⟨hHeap, by rw [hExpiries]; exact h.single, fun hQuiet => ?_, fun hDue => ?_⟩
  · rw [hContainer]
    obtain ⟨top, hTop, _, hPeek, hEq⟩ | ⟨_, hPeek, hEq⟩ := (s.containers b).procPush_cases timer
    · rw [hEq]
      intro t v hNew hValue
      cases hPeek.symm.trans hNew
      exact h.armed (hExpiries ▸ hQuiet) _ v hTop hValue
    · rw [hEq]
      intro t v hNew hValue
      cases hPeek.symm.trans hNew
      cases hValue
      rfl
  · obtain ⟨old, hOld, hOldDue⟩ := h.due (hOwed ▸ hDue)
    rw [hContainer]
    obtain ⟨top, hTop, _, hPeek, hEq⟩ | ⟨hOut, hPeek, hEq⟩ :=
      (s.containers b).procPush_cases timer
    · cases hTop.symm.trans hOld
      rw [hEq]
      exact ⟨old, hPeek, Nat.le_trans hOldDue hClock⟩
    · -- a timer that becomes the head is in an earlier second than the head that is due
      rw [hEq]
      have hEarlier : timer.mFutureTime ≤ old.mFutureTime :=
        Timespec.le_of_outRanks (hOut old hOld)
      exact ⟨timer, hPeek, Nat.le_trans (Nat.le_trans hEarlier hOldDue) hClock⟩

theorem FireInv.remove (h : s.FireInv b) {timer : LocTimerDelegate}
    (hContainer : s'.containers b = (s.containers b).procRemove timer)
    (hOwed : s'.owed b = s.owed b) (hExpiries : s'.expiries b = s.expiries b)
    (hClock : s.clock ≤ s'.clock)
    (hKeeps : 0 < s.owed b → (s.containers b).heap.peek ≠ some timer) : s'.FireInv b := by
  have hHeap : (s'.containers b).heap.IsHeap LocTimerDelegate.ranks := by
    rw [hContainer, LocTimerContainer.procRemove_heap h.heap]
    exact (LocHeap.apply_refines LocTimerDelegate.totalPreorder h.heap (.remove timer)).1
  refine ⟨hHeap, by rw [hExpiries]; exact h.single, fun hQuiet => ?_, fun hDue => ?_⟩
  · rw [hContainer]
    obtain ⟨_, hEq⟩ | ⟨top, hTop, _, hPeek, hEq⟩ | ⟨hTop, hEq⟩ :=
      LocTimerContainer.procRemove_cases timer h.heap
    · rw [hEq]
      exact h.armed (hExpiries ▸ hQuiet)
    · rw [hEq]
      intro t v hNew hValue
      cases hPeek.symm.trans hNew
      exact h.armed (hExpiries ▸ hQuiet) _ v hTop hValue
    · rw [hEq]
      obtain ⟨hPeek, hEnd⟩ | ⟨top, hPeek, hEnd⟩ := LocTimerContainer.updateSoonestTime_none
        { s.containers b with
          heap := ((s.containers b).heap.remove LocTimerDelegate.ranks timer).1 }
      · rw [hEnd, hPeek]
        intro t v hTop
        cases hTop
      · rw [hEnd]
        intro t v hNew hValue
        cases hPeek.symm.trans hNew
        cases hValue
        rfl
  · have hOwes : 0 < s.owed b := hOwed ▸ hDue
    obtain ⟨old, hOld, hOldDue⟩ := h.due hOwes
    rw [hContainer]
    obtain ⟨hPeek, _⟩ | ⟨top, hTop, _, hPeek, hEq⟩ | ⟨hTop, _⟩ :=
      LocTimerContainer.procRemove_cases timer h.heap
    · cases hPeek.symm.trans hOld
    · cases hTop.symm.trans hOld
      rw [hEq]
      exact ⟨old, hPeek, Nat.le_trans hOldDue hClock⟩
    · exact absurd hTop (hKeeps hOwes)

theorem FireInv.step (h : s.FireInv b) (hOk : s.inTime i = true)
    (hStep : s.step i = some (s', o)) : s'.FireInv b := by
  have hClock := step_clock hStep
  cases step_container hStep b with
  | other hContainer hOwed hHandles =>
    have hExpiries := expiries_congr hOwed hHandles
    refine ⟨hContainer ▸ h.heap, hExpiries ▸ h.single, ?_, fun hDue => ?_⟩
    · rw [hExpiries, hContainer]
      exact h.armed
    · obtain ⟨top, hTop, hTopDue⟩ := h.due (hOwed ▸ hDue)
      exact ⟨top, hContainer ▸ hTop, Nat.le_trans hTopDue hClock⟩
  | push timer msgs hInput hIdle hMsgs hFor hContainer hOwed hTask =>
    exact h.push hContainer hOwed (expiries_congr hOwed (by rw [hTask, hIdle])) hClock
  | remove timer msgs hInput hIdle hMsgs hFor hContainer hOwed hTask =>
    subst hFor
    refine h.remove hContainer hOwed (expiries_congr hOwed (by rw [hTask, hIdle])) hClock ?_
    intro hOwes hHead
    rw [hInput, inTime, hIdle] at hOk
    simp only [hMsgs, hHead, bne_self_eq_false, Bool.or_false, beq_iff_eq] at hOk
    omega
  | expire msgs hInput hIdle hMsgs hOwed hLoop =>
    have hSingle := h.single
    rw [expiries] at hSingle
    exact FireInv.looped (by omega) hLoop
      (LocHeap.apply_refines LocTimerDelegate.totalPreorder h.heap .pop).1
  | next now hInput hTask hOwed hLoop =>
    have hSingle := h.single
    rw [expiries, hTask, MsgTask.handles, beq_self_eq_true, if_pos rfl] at hSingle
    refine FireInv.looped (by omega) hLoop ?_
    obtain ⟨_, hEq⟩ | ⟨_, _, hEq⟩ | ⟨_, _, _, hEq⟩ := (s.containers b).popIfOutRanks_cases now
    · rw [hEq]
      exact h.heap
    · rw [hEq]
      exact h.heap
    · rw [hEq]
      exact (LocHeap.apply_refines LocTimerDelegate.totalPreorder h.heap .pop).1
  | goesOff fds hInput hMem hGone hContainer hOwed hTask =>
    rw [hInput, inTime] at hOk
    have hFirst := List.all_eq_true.mp hOk b hMem
    rw [Bool.and_eq_true, beq_iff_eq, Option.isSome_iff_exists] at hFirst
    obtain ⟨hQuiet, top, hTop⟩ := hFirst
    have hExpiries : s'.expiries b = 1 := by
      rw [expiries] at hQuiet ⊢
      rw [hTask, hOwed]
      omega
    refine ⟨hContainer ▸ h.heap, Nat.le_of_eq hExpiries, fun hNone => ?_, fun _ => ?_⟩
    · omega
    · rw [goneOff, Bool.and_eq_true, Option.any_eq_true] at hGone
      obtain ⟨_, v, hValue, hPassed⟩ := hGone
      rw [h.armed hQuiet top v hTop hValue] at hPassed
      exact ⟨top, hContainer ▸ hTop, Nat.le_trans (of_decide_eq_true hPassed) hClock⟩
  | disarm hOwes hContainer hOwed hTask =>
    have hExpiries : s'.expiries b = s.expiries b := expiries_congr hOwed (by rw [hTask])
    refine ⟨hContainer ▸ h.heap, hExpiries ▸ h.single, fun hQuiet => ?_, fun _ => ?_⟩
    · exact absurd hQuiet (expiries_pos_of_owed (by omega))
    · obtain ⟨top, hTop, hTopDue⟩ := h.due hOwes
      exact ⟨top, hContainer ▸ hTop, Nat.le_trans hTopDue hClock⟩
  | unpoll hOwes hContainer hOwed hTask =>
    have hExpiries : s'.expiries b = s.expiries b := expiries_congr hOwed (by rw [hTask])
    refine ⟨hContainer ▸ h.heap, hExpiries ▸ h.single, fun hQuiet => ?_, fun _ => ?_⟩
    · exact absurd hQuiet (expiries_pos_of_owed (by omega))
    · obtain ⟨top, hTop, hTopDue⟩ := h.due hOwes
      exact ⟨top, hContainer ▸ hTop, Nat.le_trans hTopDue hClock⟩

/-- The loop pops only timers that are due, and a callback is for the timer that it popped. -/
theorem TaskDue.step (h : s.TaskDue) (hInv : ∀ b, s.FireInv b) (hOk : s.inTime i = true)
    (hStep : s.step i = some (s', o)) :
    s'.TaskDue ∧ ∀ e ∈ o, e.timer.mFutureTime ≤ e.now := by
  have hLooped : ∀ {b : Bool} {now : Timespec}
      {popped : LocTimerContainer × Option LocTimerDelegate}, Looped b now popped s' →
      (∀ timer, popped.2 = some timer → timer.mFutureTime ≤ now) → s'.TaskDue := by
    intro b now popped hLoop hDue
    obtain ⟨timer, hTimer, hTask, _⟩ | ⟨_, hTask, _⟩ := hLoop
    · rw [TaskDue, hTask]
      exact hDue timer hTimer
    · rw [TaskDue, hTask]
      trivial
  cases step_task hStep with
  | same hTask =>
    refine ⟨?_, nofun⟩
    rw [TaskDue, hTask]
    exact h
  | expire b msgs hMsgs hLoop =>
    refine ⟨hLooped hLoop ?_, nofun⟩
    intro timer hTimer
    have hOwes : 0 < s.owed b := by
      rw [owed, hMsgs, List.count_cons_self]
      omega
    obtain ⟨top, hTop, hDue⟩ := (hInv b).due hOwes
    obtain ⟨hNone, _⟩ | ⟨head, hHead, hPop⟩ := (s.containers b).pop_cases
    · cases hNone.symm.trans hTop
    · cases hHead.symm.trans hTop
      rw [hPop] at hTimer
      cases hTimer
      exact hDue
  | stopped b now hTask =>
    refine ⟨?_, nofun⟩
    rw [TaskDue, hTask]
    trivial
  | reads b now timer client hFrom hTask =>
    refine ⟨?_, nofun⟩
    rw [TaskDue, hFrom] at h
    rw [TaskDue, hTask]
    exact h
  | stops b now timer client hInput hFrom hTask =>
    rw [TaskDue, hFrom] at h
    rw [hInput, inTime, hFrom] at hOk
    constructor
    · rw [TaskDue, hTask]
      trivial
    · intro e he
      obtain ⟨t, ht, rfl⟩ := List.mem_map.mp he
      simp only [Option.mem_toList.mp ht, Option.all_some, beq_iff_eq] at hOk
      rw [hOk]
      exact h
  | next b now hInput hFrom hLoop =>
    refine ⟨hLooped hLoop ?_, nofun⟩
    intro timer hTimer
    obtain ⟨_, hEq⟩ | ⟨_, _, hEq⟩ | ⟨top, hTop, hSec, hEq⟩ :=
      (s.containers b).popIfOutRanks_cases now
    · rw [hEq] at hTimer
      cases hTimer
    · rw [hEq] at hTimer
      cases hTimer
    · rw [hEq] at hTimer
      cases hTimer
      rw [hInput, inTime, hFrom] at hOk
      simp only [hTop, Option.all_some, Bool.or_eq_true, bne_iff_ne, decide_eq_true_eq] at hOk
      have hNsec := timer.mFutureTime.tvNsec_lt
      rw [Timespec.le_iff, Timespec.nanos, Timespec.nanos]
      omega

theorem initial_fireInv (clock : Timespec) (b : Bool) : (initial clock).FireInv b where
  heap := .null
  single := Nat.zero_le 1
  armed _ := nofun
  due := nofun

end TimerService

/-- In every run whose steps are in time no callback comes before the deadline of its timer. -/
theorem timeOut_not_early {clock : Timespec} {is : List TimerInput} {os : List TimeOut}
    {s : TimerService}
    (run : Steps TimerService.Next (fun _ _ s i _ => s.inTime i = true)
      (TimerService.initial clock) is os s) :
    ∀ e ∈ os, e.timer.mFutureTime ≤ e.now := by
  have hAll := run.history (I := fun _ os s => (∀ b, s.FireInv b) ∧ s.TaskDue ∧
    ∀ e ∈ os, e.timer.mFutureTime ≤ e.now)
    ⟨TimerService.initial_fireInv clock, trivial, nofun⟩ ?_
  · exact hAll.2.2
  · intro is os s i o s' hOk ⟨hInv, hDue, hPast⟩ hNext
    obtain ⟨hDue', hNow⟩ := hDue.step hInv hOk hNext
    refine ⟨fun b => (hInv b).step hOk hNext, hDue', ?_⟩
    intro e he
    obtain he | he := List.mem_append.mp he
    · exact hPast e he
    · exact hNow e he

def Timespec.seconds (tvSec : Nat) (h : tvSec < 2147483648) : Timespec :=
  { bootTime with tvSec, tvSec_lt := h }

/-- A timer of one second is started, goes off and is called back. -/
def fireOnTime : List TimerInput :=
  [.start 1 1000 false, .msgTask, .tick (.seconds 1 (by decide)), .epollWait [false],
    .pollTask, .pollTask, .pollTask, .msgTask, .msgTask, .msgTask, .msgTask]

theorem timeOut_not_early_fireOnTime :
    ∃ os s, Steps TimerService.Next (fun _ _ s i _ => s.inTime i = true)
        (TimerService.initial bootTime) fireOnTime os s ∧
      os.map (fun e => (e.timer.client, e.now.tvSec)) = [(1, 1)] ∧
      ∀ e ∈ os, e.timer.mFutureTime ≤ e.now := by
  obtain ⟨⟨s, os⟩, hRun, hEnd⟩ := Option.map_eq_some_iff.mp (show
    (Lib.exec (fun _ _ s i => if s.inTime i then TimerService.step s i else none) [] []
      (TimerService.initial bootTime) fireOnTime).map
        (fun r => r.2.map fun e => (e.timer.client, e.now.tvSec)) = some [(1, 1)] by decide +kernel)
  have run := Steps.of_exec TimerService.Next (fun _ _ s i _ => s.inTime i = true)
    (fun i _ _ _ s s' o h => by
      rw [Option.ite_none_right_eq_some] at h
      exact ⟨h.2, h.1⟩) hRun
  exact ⟨os, s, run, hEnd, timeOut_not_early run⟩

/-- Of timers of ten and of a hundred seconds, the first goes off while it is being stopped: its
removal is queued before the expiry message. -/
def stopAtExpiry : List TimerInput :=
  [.start 1 10000 false, .start 2 100000 false, .msgTask, .msgTask, .tick (.seconds 10 (by decide)),
    .stop 1, .epollWait [false], .msgTask, .pollTask, .pollTask, .pollTask, .msgTask, .msgTask,
    .msgTask]

/-- The second timer is called back ninety seconds early. -/
theorem stopAtExpiry_fires_early :
    ∃ os s, Steps TimerService.Next anyStep (TimerService.initial bootTime) stopAtExpiry os s ∧
      ∃ e ∈ os, e.timer.client = 2 ∧ e.timer.mFutureTime.tvSec = 100 ∧ e.now.tvSec = 10 ∧
        ¬e.timer.mFutureTime ≤ e.now := by
  obtain ⟨⟨s, os⟩, hRun, hEnd⟩ := Option.map_eq_some_iff.mp (show
    (Lib.exec (fun _ _ s i => TimerService.step s i) [] [] (TimerService.initial bootTime)
      stopAtExpiry).map Prod.snd = some [⟨⟨1, 2, .seconds 100 (by decide), false⟩,
        .seconds 10 (by decide)⟩] by decide +kernel)
  have run := Steps.of_exec TimerService.Next anyStep (fun i _ _ _ s s' o h => ⟨h, trivial⟩) hRun
  subst hEnd
  exact ⟨_, s, run, _, List.mem_singleton_self _, rfl, rfl, rfl, by decide⟩

end KiwiDevice.Gps

import KiwiDevice.Gps.TimerContainer
import KiwiDevice.Lib.Steps

/-!
# What a step does to a container

Of all the steps of the service, only the messages for a container, the expiry of its own timer and
the poll thread that handles it change the container or the expiries that are under way.
-/

namespace KiwiDevice.Gps

open Lib

@[simp] theorem Timespec.le_iff {a b : Timespec} : a ≤ b ↔ a.nanos ≤ b.nanos := Iff.rfl

theorem Timespec.le_of_outRanks {a b : Timespec} (h : outRanks Timespec.ranks a b = true) :
    a ≤ b := by
  have hSec : 0 < a.ranks b := of_decide_eq_true h
  have hNsec := a.tvNsec_lt
  rw [Timespec.ranks] at hSec
  rw [Timespec.le_iff, Timespec.nanos, Timespec.nanos]
  omega

namespace TimerService

variable {s s' : TimerService} {b b' : Bool} {i : TimerInput} {o : List TimeOut}

@[simp] theorem setContainer_self (s : TimerService) (b : Bool) (c : LocTimerContainer) :
    (s.setContainer b c).containers b = c := by
  simp only [setContainer, Function.update_self]

theorem setContainer_of_ne (s : TimerService) (c : LocTimerContainer) (h : b ≠ b') :
    (s.setContainer b' c).containers b = s.containers b := by
  simp only [setContainer, Function.update_of_ne h]

theorem owed_sendMsg (s : TimerService) {msg : TimerMsg} (h : msg ≠ .expire b) :
    (s.sendMsg msg).owed b = s.owed b := by
  change s.expiring.count b + (s.msgs ++ [msg]).count (.expire b) = s.owed b
  rw [List.count_append, List.count_singleton, beq_eq_false_iff_ne.mpr h]
  rfl

/-- The loop of an expiry message after the pop `popped`. -/
def Looped (b : Bool) (now : Timespec) (popped : LocTimerContainer × Option LocTimerDelegate)
    (s' : TimerService) : Prop :=
  (∃ timer, popped.2 = some timer ∧ s'.task = .popped b now timer ∧ s'.containers b = popped.1) ∨
    popped.2 = none ∧ s'.task = .idle ∧ s'.containers b = popped.1.updateSoonestTime none

inductive ContainerStep (b : Bool) (s : TimerService) (i : TimerInput) (s' : TimerService) :
    Prop where
  | other (hContainer : s'.containers b = s.containers b) (hOwed : s'.owed b = s.owed b)
      (hHandles : s'.task.handles b = s.task.handles b)
  | push (timer : LocTimerDelegate) (msgs : List TimerMsg) (hInput : i = .msgTask)
      (hIdle : s.task = .idle) (hMsgs : s.msgs = .push timer :: msgs)
      (hFor : timer.wakeOnExpire = b)
      (hContainer : s'.containers b = (s.containers b).procPush timer)
      (hOwed : s'.owed b = s.owed b) (hTask : s'.task = .idle)
  | remove (timer : LocTimerDelegate) (msgs : List TimerMsg) (hInput : i = .msgTask)
      (hIdle : s.task = .idle) (hMsgs : s.msgs = .remove timer :: msgs)
      (hFor : timer.wakeOnExpire = b)
      (hContainer : s'.containers b = (s.containers b).procRemove timer)
      (hOwed : s'.owed b = s.owed b) (hTask : s'.task = .idle)
  | expire (msgs : List TimerMsg) (hInput : i = .msgTask) (hIdle : s.task = .idle)
      (hMsgs : s.msgs = .expire b :: msgs) (hOwed : s.owed b = s'.owed b + 1)
      (hLoop : Looped b s.clock (s.containers b).pop s')
  | next (now : Timespec) (hInput : i = .msgTask) (hTask : s.task = .next b now)
      (hOwed : s'.owed b = s.owed b)
      (hLoop : Looped b now ((s.containers b).popIfOutRanks now) s')
  | goesOff (fds : List Bool) (hInput : i = .epollWait fds) (hMem : b ∈ fds)
      (hGone : s.goneOff b = true) (hContainer : s'.containers b = s.containers b)
      (hOwed : s'.owed b = s.owed b + 1) (hTask : s'.task = s.task)
  | disarm (hOwes : 0 < s.owed b)
      (hContainer : s'.containers b = { s.containers b with itValue := none })
      (hOwed : s'.owed b = s.owed b) (hTask : s'.task = s.task)
  | unpoll (hOwes : 0 < s.owed b)
      (hContainer : s'.containers b = { s.containers b with polled := false })
      (hOwed : s'.owed b = s.owed b) (hTask : s'.task = s.task)

theorem loop_looped (s : TimerService) (b : Bool) (now : Timespec)
    (popped : LocTimerContainer × Option LocTimerDelegate) :
    Looped b now popped (s.loop b now popped) := by
  obtain ⟨c, timer⟩ := popped
  cases timer with
  | none => exact .inr ⟨rfl, rfl, setContainer_self _ b _⟩
  | some timer => exact .inl ⟨timer, rfl, rfl, setContainer_self _ b _⟩

theorem loop_other (s : TimerService) {b b' : Bool} (h : b ≠ b') (now : Timespec)
    (popped : LocTimerContainer × Option LocTimerDelegate) :
    (s.loop b' now popped).containers b = s.containers b ∧
      (s.loop b' now popped).task.handles b = false := by
  obtain ⟨c, timer⟩ := popped
  cases timer with
  | none => exact ⟨setContainer_of_ne _ _ h, rfl⟩
  | some timer => exact ⟨setContainer_of_ne _ _ h, beq_eq_false_iff_ne.mpr h.symm⟩

theorem loop_owed (s : TimerService) (b b' : Bool) (now : Timespec)
    (popped : LocTimerContainer × Option LocTimerDelegate) :
    (s.loop b' now popped).owed b = s.owed b := by
  obtain ⟨c, timer⟩ := popped
  cases timer <;> rfl

theorem stop_containers (s : TimerService) (client : Nat) :
    (s.stop client).1.containers = s.containers := by
  rw [stop]
  split <;> rfl

theorem stop_owed (s : TimerService) (client : Nat) : (s.stop client).1.owed b = s.owed b := by
  rw [stop]
  split
  · rfl
  · exact owed_sendMsg _ nofun

theorem stop_task (s : TimerService) (client : Nat) : (s.stop client).1.task = s.task := by
  rw [stop]
  split <;> rfl

theorem stop_clock (s : TimerService) (client : Nat) : (s.stop client).1.clock = s.clock := by
  rw [stop]
  split <;> rfl

theorem runTask_container (h : s.runTask = some (s', o)) (b : Bool) :
    ContainerStep b s .msgTask s' := by
  simp only [runTask] at h
  split at h
  · rename_i hIdle
    split at h
    · cases h
    · rename_i timer msgs hMsgs
      have hNe : TimerMsg.push timer ≠ .expire b := nofun
      have hCount : msgs.count (.expire b) = s.msgs.count (.expire b) := by
        rw [hMsgs, List.count_cons_of_ne hNe]
      cases h
      by_cases hFor : timer.wakeOnExpire = b
      · subst hFor
        exact .push timer msgs rfl hIdle hMsgs rfl (setContainer_self _ _ _)
          (congrArg (s.expiring.count timer.wakeOnExpire + ·) hCount) hIdle
      · exact .other (setContainer_of_ne _ _ (Ne.symm hFor))
          (congrArg (s.expiring.count b + ·) hCount) rfl
    · rename_i timer msgs hMsgs
      have hNe : TimerMsg.remove timer ≠ .expire b := nofun
      have hCount : msgs.count (.expire b) = s.msgs.count (.expire b) := by
        rw [hMsgs, List.count_cons_of_ne hNe]
      cases h
      by_cases hFor : timer.wakeOnExpire = b
      · subst hFor
        exact .remove timer msgs rfl hIdle hMsgs rfl (setContainer_self _ _ _)
          (congrArg (s.expiring.count timer.wakeOnExpire + ·) hCount) hIdle
      · exact .other (setContainer_of_ne _ _ (Ne.symm hFor))
          (congrArg (s.expiring.count b + ·) hCount) rfl
    · rename_i wakeOnExpire msgs hMsgs
      cases h
      by_cases hFor : wakeOnExpire = b
      · subst hFor
        refine .expire msgs rfl hIdle hMsgs ?_ (loop_looped _ _ _ _)
        rw [loop_owed, owed, owed, hMsgs, List.count_cons_self]
        rfl
      · obtain ⟨hContainer, hHandles⟩ := loop_other { s with msgs } (Ne.symm hFor) s.clock
          (s.containers wakeOnExpire).pop
        refine .other hContainer ?_ ?_
        · rw [loop_owed, owed, owed, hMsgs, List.count_cons_of_ne (by rintro ⟨⟩; exact hFor rfl)]
        · rw [hHandles, hIdle]
          rfl
  · rename_i wakeOnExpire now timer hTask
    split at h <;> cases h <;> exact .other rfl rfl (by rw [hTask]; rfl)
  · rename_i wakeOnExpire now timer client hTask
    cases h
    refine .other (congrFun (stop_containers s client) b) ?_ ?_
    · exact stop_owed s client
    · rw [hTask]
      rfl
  · rename_i wakeOnExpire now hTask
    cases h
    by_cases hFor : wakeOnExpire = b
    · subst hFor
      exact .next now rfl hTask (loop_owed _ _ _ _ _) (loop_looped _ _ _ _)
    · obtain ⟨hContainer, hHandles⟩ := loop_other s (Ne.symm hFor) now
        ((s.containers wakeOnExpire).popIfOutRanks now)
      refine .other hContainer (loop_owed _ _ _ _ _) ?_
      rw [hHandles, hTask]
      exact (beq_eq_false_iff_ne.mpr hFor).symm

theorem runPoll_container (h : s.runPoll = some s') (b : Bool) :
    ContainerStep b s .pollTask s' := by
  simp only [runPoll] at h
  split at h
  · cases h
  · rename_i wakeOnExpire rest hExpiring
    have hOwes : wakeOnExpire = b → 0 < s.owed b := by
      rintro rfl
      rw [owed, hExpiring, List.count_cons_self]
      omega
    split at h <;> cases h
    · by_cases hFor : wakeOnExpire = b
      · subst hFor
        exact .disarm (hOwes rfl) (setContainer_self _ _ _) rfl rfl
      · exact .other (setContainer_of_ne _ _ (Ne.symm hFor)) rfl rfl
    · by_cases hFor : wakeOnExpire = b
      · subst hFor
        exact .unpoll (hOwes rfl) (setContainer_self _ _ _) rfl rfl
      · exact .other (setContainer_of_ne _ _ (Ne.symm hFor)) rfl rfl
    · refine .other rfl ?_ rfl
      change rest.count b + (s.msgs ++ [TimerMsg.expire wakeOnExpire]).count (TimerMsg.expire b) =
        s.expiring.count b + s.msgs.count (TimerMsg.expire b)
      rw [hExpiring, List.count_append, List.count_singleton, List.count_cons]
      by_cases hFor : wakeOnExpire = b
      · subst hFor
        rw [beq_self_eq_true, beq_self_eq_true]
        omega
      · rw [beq_eq_false_iff_ne.mpr hFor, beq_eq_false_iff_ne.mpr (by rintro ⟨⟩; exact hFor rfl)]
        rfl

theorem step_container (h : s.step i = some (s', o)) (b : Bool) : ContainerStep b s i s' := by
  cases i with
  | tick now =>
    rw [step] at h
    split at h <;> cases h
    exact .other rfl rfl rfl
  | start client timeOutInMs wakeOnExpire =>
    obtain ⟨t, hStart, hEq⟩ := Option.map_eq_some_iff.mp h
    cases hEq
    rw [start] at hStart
    split at hStart
    · cases hStart
      exact .other rfl rfl rfl
    · obtain ⟨futureTime, _, hTo⟩ := Option.map_eq_some_iff.mp hStart
      cases hTo
      exact .other rfl (owed_sendMsg _ nofun) rfl
  | stop client =>
    cases h
    refine .other (congrFun (stop_containers s client) b) (stop_owed s client) ?_
    rw [stop_task]
  | msgTask => exact runTask_container h b
  | epollWait fds =>
    rw [step] at h
    split at h
    · rename_i hReady
      obtain ⟨hWaiting, _, hNodup, hGone⟩ := hReady
      cases h
      by_cases hMem : b ∈ fds
      · refine .goesOff fds rfl hMem (List.all_eq_true.mp hGone b hMem) rfl ?_ rfl
        change fds.count b + s.msgs.count (.expire b) =
          s.expiring.count b + s.msgs.count (.expire b) + 1
        rw [List.count_eq_one_of_mem hNodup hMem, hWaiting, List.count_nil]
        omega
      · refine .other rfl ?_ rfl
        change fds.count b + s.msgs.count (.expire b) =
          s.expiring.count b + s.msgs.count (.expire b)
        rw [List.count_eq_zero_of_not_mem hMem, hWaiting, List.count_nil]
    · cases h
  | pollTask =>
    obtain ⟨t, hPoll, hEq⟩ := Option.map_eq_some_iff.mp h
    cases hEq
    exact runPoll_container hPoll b

end TimerService

end KiwiDevice.Gps

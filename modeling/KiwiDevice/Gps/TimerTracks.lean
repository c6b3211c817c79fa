import KiwiDevice.Gps.TimerSteps

/-!
# The kernel timer and the head of the heap

Between expiries the timer fd is armed for the head of the heap, as long as the last timer of a
container is not removed. The head is the earliest timer when no two timers share a second.
-/

namespace KiwiDevice.Gps

open Lib

namespace LocTimerContainer

/-- The fd is armed for the earliest deadline and polled while there are timers, and disarmed and
not polled when there are none. -/
structure Tracks (c : LocTimerContainer) : Prop where
  empty : c.heap.stored = 0 → c.itValue = none ∧ c.polled = false
  holds : c.heap.stored ≠ 0 → c.polled = true ∧ ∃ first ∈ c.heap.stored,
    c.itValue = some first.mFutureTime ∧ ∀ t ∈ c.heap.stored, first.mFutureTime ≤ t.mFutureTime

/-- Two timers of one second have one deadline. -/
def SecondsDiffer (c : LocTimerContainer) : Prop :=
  ∀ x ∈ c.heap.stored, ∀ y ∈ c.heap.stored,
    x.mFutureTime.tvSec = y.mFutureTime.tvSec → x.mFutureTime.tvNsec = y.mFutureTime.tvNsec

/-- The fd is armed for the head. -/
structure HeadArmed (c : LocTimerContainer) : Prop where
  empty : c.heap.peek = none → c.itValue = none ∧ c.polled = false
  head : ∀ top, c.heap.peek = some top → c.itValue = some top.mFutureTime ∧ c.polled = true

variable {c : LocTimerContainer} {timer top : LocTimerDelegate}

theorem SecondsDiffer.mono {c' : LocTimerContainer} (h : c.SecondsDiffer)
    (hSub : c'.heap.stored ⊆ c.heap.stored) : c'.SecondsDiffer :=
  fun x hx y hy => h x (hSub hx) y (hSub hy)

theorem armed_headArmed {heap : LocHeap LocTimerDelegate} (hPeek : heap.peek = some top) :
    (armed heap top).HeadArmed where
  empty hNone := by
    change heap.peek = none at hNone
    rw [hPeek] at hNone
    cases hNone
  head t hTop := by
    change heap.peek = some t at hTop
    rw [hPeek] at hTop
    cases hTop
    exact ⟨rfl, rfl⟩

theorem HeadArmed.sameHead (h : c.HeadArmed) {heap : LocHeap LocTimerDelegate}
    (hTop : c.heap.peek = some top) (hPeek : heap.peek = some top) :
    ({ c with heap } : LocTimerContainer).HeadArmed where
  empty hNone := by
    change heap.peek = none at hNone
    rw [hPeek] at hNone
    cases hNone
  head t hSome := by
    change heap.peek = some t at hSome
    exact h.head t (hTop.trans (hPeek.symm.trans hSome))

theorem HeadArmed.tracks (h : c.HeadArmed) (hHeap : c.heap.IsHeap LocTimerDelegate.ranks)
    (hSeconds : c.SecondsDiffer) : c.Tracks where
  empty hNone := h.empty (LocHeap.peek_eq_none_iff.mpr hNone)
  holds hSome := by
    cases hPeek : c.heap.peek with
    | none => exact absurd (LocHeap.peek_eq_none_iff.mp hPeek) hSome
    | some first =>
      obtain ⟨hValue, hPolled⟩ := h.head first hPeek
      have hMem := LocHeap.mem_of_peek hPeek
      refine ⟨hPolled, first, hMem, hValue, ?_⟩
      intro t ht
      have hRanks := outRanks_eq_false.mp
        (hHeap.tops_peek LocTimerDelegate.totalPreorder hPeek t ht)
      have hSame := hSeconds first hMem t ht
      have hNsec := first.mFutureTime.tvNsec_lt
      rw [LocTimerDelegate.ranks, Timespec.ranks] at hRanks
      rw [Timespec.le_iff, Timespec.nanos, Timespec.nanos]
      omega

theorem HeadArmed.procPush (h : c.HeadArmed) (timer : LocTimerDelegate) :
    (c.procPush timer).HeadArmed := by
  obtain ⟨top, hTop, _, hPeek, hEq⟩ | ⟨_, hPeek, hEq⟩ := c.procPush_cases timer
  · rw [hEq]
    exact h.sameHead hTop hPeek
  · rw [hEq]
    exact armed_headArmed hPeek

theorem HeadArmed.procRemove (h : c.HeadArmed) (hHeap : c.heap.IsHeap LocTimerDelegate.ranks)
    (hLast : c.heap.stored ≠ {timer}) : (c.procRemove timer).HeadArmed := by
  obtain ⟨_, hEq⟩ | ⟨top, hTop, _, hPeek, hEq⟩ | ⟨hTop, hEq⟩ := procRemove_cases timer hHeap
  · rw [hEq]
    exact h
  · rw [hEq]
    exact h.sameHead hTop hPeek
  · rw [hEq]
    obtain ⟨hNone, _⟩ | ⟨top, hPeek, hForce⟩ := updateSoonestTime_none
      { c with heap := (c.heap.remove LocTimerDelegate.ranks timer).1 }
    · exfalso
      apply hLast
      have hMem := LocHeap.mem_of_peek hTop
      have hErase : (c.heap.remove LocTimerDelegate.ranks timer).1.stored =
          c.heap.stored.erase timer :=
        (LocHeapNode.IsHeap.remove LocTimerDelegate.totalPreorder hHeap hMem).2.1
      rw [← Multiset.cons_erase hMem, ← hErase, LocHeap.peek_eq_none_iff.mp hNone]
      rfl
    · rw [hForce]
      exact armed_headArmed hPeek

end LocTimerContainer

namespace TimerService

/-- A pushed timer shares its second with no timer of the container that has another deadline; the
last timer of a container is not removed while no expiry is under way; and an expiry message that
finds or leaves the container empty finds the fd as the poll thread left it. -/
structure KeepsTrack (s : TimerService) (i : TimerInput) : Prop where
  pushes : i = .msgTask → s.task = .idle → ∀ timer msgs, s.msgs = .push timer :: msgs →
    ∀ t ∈ (s.containers timer.wakeOnExpire).heap.stored,
      t.mFutureTime.tvSec = timer.mFutureTime.tvSec → t.mFutureTime.tvNsec = timer.mFutureTime.tvNsec
  removes : i = .msgTask → s.task = .idle → ∀ timer msgs, s.msgs = .remove timer :: msgs →
    s.expiries timer.wakeOnExpire = 0 → (s.containers timer.wakeOnExpire).heap.stored ≠ {timer}
  ends : i = .msgTask → ∀ b, (s.task = .idle ∧ (∃ msgs, s.msgs = .expire b :: msgs) ∨
      ∃ now, s.task = .next b now) →
    s.expiries b = 1 → (s.containers b).heap.stored = 0 →
      (s.containers b).itValue = none ∧ (s.containers b).polled = false

def keepsTrack (_ : List TimerInput) (_ : List TimeOut) (s : TimerService) (i : TimerInput)
    (_ : List TimeOut) : Prop := s.KeepsTrack i

structure TrackInv (s : TimerService) (b : Bool) : Prop where
  heap : (s.containers b).heap.IsHeap LocTimerDelegate.ranks
  seconds : (s.containers b).SecondsDiffer
  armed : s.expiries b = 0 → (s.containers b).HeadArmed

variable {s s' : TimerService} {b : Bool} {i : TimerInput} {o : List TimeOut}

theorem expiries_congr (hOwed : s'.owed b = s.owed b)
    (hHandles : s'.task.handles b = s.task.handles b) : s'.expiries b = s.expiries b := by
  rw [expiries, expiries, hOwed, hHandles]

theorem expiries_pos_of_owed (h : 0 < s.owed b) : s.expiries b ≠ 0 := by
  rw [expiries]
  omega

theorem expiries_pos_of_handles (h : s.task.handles b = true) : s.expiries b ≠ 0 := by
  rw [expiries, h, if_pos rfl]
  omega

theorem pop_heap_facts {heap : LocHeap LocTimerDelegate}
    (h : heap.IsHeap LocTimerDelegate.ranks) :
    (heap.pop LocTimerDelegate.ranks).1.IsHeap LocTimerDelegate.ranks ∧
      (heap.pop LocTimerDelegate.ranks).1.stored ⊆ heap.stored := by
  obtain ⟨hHeap, hStep⟩ := LocHeap.apply_refines LocTimerDelegate.totalPreorder h .pop
  exact ⟨hHeap, Multiset.subset_of_le (hStep.le rfl)⟩

theorem TrackInv.looped {now : Timespec}
    {popped : LocTimerContainer × Option LocTimerDelegate} (h : s.TrackInv b)
    (hLoop : Looped b now popped s')
    (hPopped : popped = (s.containers b, none) ∧
        ((s.containers b).heap.peek = none → s'.expiries b = 0 →
          (s.containers b).itValue = none ∧ (s.containers b).polled = false) ∨
      ∃ top, popped = ({ s.containers b with
        heap := ((s.containers b).heap.pop LocTimerDelegate.ranks).1 }, some top)) :
    s'.TrackInv b := by
  obtain ⟨hHeap, hSub⟩ := pop_heap_facts h.heap
  obtain ⟨timer, hTimer, hTask, hContainer⟩ | ⟨hNone, hTask, hContainer⟩ := hLoop
  · obtain ⟨rfl, _⟩ | ⟨top, rfl⟩ := hPopped
    · cases hTimer
    · refine ⟨hContainer ▸ hHeap, hContainer ▸ h.seconds.mono hSub, fun hQuiet => ?_⟩
      refine absurd hQuiet (expiries_pos_of_handles ?_)
      rw [hTask]
      exact beq_self_eq_true b
  · obtain ⟨rfl, hEmpty⟩ | ⟨top, rfl⟩ := hPopped
    · have hSame := (s.containers b).updateSoonestTime_heap
      refine ⟨?_, ?_, fun hQuiet => ?_⟩
      · rw [hContainer, hSame]
        exact h.heap
      · rw [hContainer]
        exact h.seconds.mono (by rw [hSame]; exact Multiset.Subset.refl _)
      · rw [hContainer]
        obtain ⟨hPeek, hEq⟩ | ⟨top, hPeek, hEq⟩ := (s.containers b).updateSoonestTime_none
        · rw [hEq]
          refine ⟨fun _ => hEmpty hPeek hQuiet, ?_⟩
          rintro top hTop
          rw [hPeek] at hTop
          cases hTop
        · rw [hEq]
          exact LocTimerContainer.armed_headArmed hPeek
    · cases hNone

theorem TrackInv.step (h : s.TrackInv b) (hOk : s.KeepsTrack i)
    (hStep : s.step i = some (s', o)) : s'.TrackInv b := by
  cases step_container hStep b with
  | other hContainer hOwed hHandles =>
    refine ⟨hContainer ▸ h.heap, hContainer ▸ h.seconds, fun hQuiet => hContainer ▸ h.armed ?_⟩
    rwa [← expiries_congr hOwed hHandles]
  | push timer msgs hInput hIdle hMsgs hFor hContainer hOwed hTask =>
    subst hFor
    have hStored : (s'.containers timer.wakeOnExpire).heap.stored =
        timer ::ₘ (s.containers timer.wakeOnExpire).heap.stored := by
      rw [hContainer, LocTimerContainer.procPush_heap]
      exact LocHeapNode.stored_push timer _
    have hNew := hOk.pushes hInput hIdle timer msgs hMsgs
    refine ⟨?_, ?_, fun hQuiet => ?_⟩
    · rw [hContainer, LocTimerContainer.procPush_heap]
      exact LocHeapNode.IsHeap.push LocTimerDelegate.totalPreorder h.heap
    · intro x hx y hy hSec
      rw [hStored] at hx hy
      obtain rfl | hx := Multiset.mem_cons.mp hx <;> obtain rfl | hy := Multiset.mem_cons.mp hy
      · rfl
      · exact (hNew y hy hSec.symm).symm
      · exact hNew x hx hSec
      · exact h.seconds x hx y hy hSec
    · rw [hContainer]
      refine (h.armed ?_).procPush timer
      rwa [← expiries_congr hOwed (by rw [hTask, hIdle])]
  | remove timer msgs hInput hIdle hMsgs hFor hContainer hOwed hTask =>
    subst hFor
    obtain ⟨hHeap, hPq⟩ := LocHeap.apply_refines LocTimerDelegate.totalPreorder h.heap
      (.remove timer)
    refine ⟨?_, h.seconds.mono ?_, fun hQuiet => ?_⟩
    · rw [hContainer, LocTimerContainer.procRemove_heap h.heap]
      exact hHeap
    · rw [hContainer, LocTimerContainer.procRemove_heap h.heap]
      exact Multiset.subset_of_le (hPq.le rfl)
    · rw [expiries_congr hOwed (by rw [hTask, hIdle])] at hQuiet
      rw [hContainer]
      exact (h.armed hQuiet).procRemove h.heap
        (hOk.removes hInput hIdle timer msgs hMsgs hQuiet)
  | expire msgs hInput hIdle hMsgs hOwed hLoop =>
    refine h.looped hLoop ?_
    obtain ⟨hPeek, hEq⟩ | ⟨top, hPeek, hEq⟩ := (s.containers b).pop_cases
    · refine .inl ⟨hEq, fun _ hQuiet => ?_⟩
      refine hOk.ends hInput b (.inl ⟨hIdle, msgs, hMsgs⟩) ?_ (LocHeap.peek_eq_none_iff.mp hPeek)
      rw [expiries] at hQuiet ⊢
      rw [hOwed, hIdle, show s'.owed b = 0 by omega]
      rfl
    · exact .inr ⟨top, hEq⟩
  | next now hInput hTask hOwed hLoop =>
    refine h.looped hLoop ?_
    have hEnds : (s.containers b).heap.peek = none → s'.expiries b = 0 →
        (s.containers b).itValue = none ∧ (s.containers b).polled = false := by
      intro hPeek hQuiet
      refine hOk.ends hInput b (.inr ⟨now, hTask⟩) ?_ (LocHeap.peek_eq_none_iff.mp hPeek)
      rw [expiries] at hQuiet ⊢
      rw [hTask, ← hOwed, show s'.owed b = 0 by omega, MsgTask.handles, beq_self_eq_true]
      rfl
    obtain ⟨_, hEq⟩ | ⟨_, _, hEq⟩ | ⟨top, _, _, hEq⟩ := (s.containers b).popIfOutRanks_cases now
    · exact .inl ⟨hEq, hEnds⟩
    · exact .inl ⟨hEq, hEnds⟩
    · exact .inr ⟨top, hEq⟩
  | goesOff fds hInput hMem hGone hContainer hOwed hTask =>
    refine ⟨hContainer ▸ h.heap, hContainer ▸ h.seconds, fun hQuiet => ?_⟩
    exact absurd hQuiet (expiries_pos_of_owed (by omega))
  | disarm hOwes hContainer hOwed hTask =>
    refine ⟨hContainer ▸ h.heap, hContainer ▸ h.seconds, fun hQuiet => ?_⟩
    exact absurd hQuiet (expiries_pos_of_owed (by omega))
  | unpoll hOwes hContainer hOwed hTask =>
    refine ⟨hContainer ▸ h.heap, hContainer ▸ h.seconds, fun hQuiet => ?_⟩
    exact absurd hQuiet (expiries_pos_of_owed (by omega))

theorem initial_trackInv (clock : Timespec) (b : Bool) : (initial clock).TrackInv b where
  heap := .null
  seconds := fun x hx => absurd hx (Multiset.notMem_zero x)
  armed _ := ⟨fun _ => ⟨rfl, rfl⟩, nofun⟩

end TimerService

/-- In every run whose steps keep track, a container with no expiry under way has its fd armed for
its earliest timer and polled, or disarmed and not polled when it is empty. -/
theorem kernelTimer_tracks {clock : Timespec} {is : List TimerInput} {os : List TimeOut}
    {s : TimerService}
    (run : Steps TimerService.Next TimerService.keepsTrack (TimerService.initial clock) is os s)
    (b : Bool) (hQuiet : s.expiries b = 0) : (s.containers b).Tracks := by
  have hInv : s.TrackInv b := by
    refine run.invariant (I := fun s => s.TrackInv b) (TimerService.initial_trackInv clock b) ?_
    intro is os s i o s' hOk hInv hNext
    exact hInv.step hOk hNext
  exact (hInv.armed hQuiet).tracks hInv.heap hInv.seconds

def bootTime : Timespec := ⟨0, 0, by decide, by decide⟩

/-- A timer of one second is pushed into an empty container. -/
theorem kernelTimer_tracks_onePush :
    ∃ s : TimerService, s.expiries false = 0 ∧ (s.containers false).heap.stored ≠ 0 ∧
      (s.containers false).Tracks := by
  let s₁ := (((TimerService.initial bootTime).step (.start 1 1000 false)).get (by decide)).1
  let s₂ := ((s₁.step .msgTask).get (by decide)).1
  have hStart : (TimerService.initial bootTime).KeepsTrack (.start 1 1000 false) :=
    ⟨nofun, nofun, nofun⟩
  have hPush : s₁.KeepsTrack .msgTask := by
    refine ⟨?_, ?_, ?_⟩
    · intro _ _ timer msgs _ t ht
      exact absurd ht (Multiset.notMem_zero t)
    · intro _ _ timer msgs hMsgs
      cases hMsgs
    · rintro _ b (⟨_, msgs, hMsgs⟩ | ⟨now, hTask⟩)
      · cases hMsgs
      · cases hTask
  have run : Steps TimerService.Next TimerService.keepsTrack (TimerService.initial bootTime)
      ([] ++ [.start 1 1000 false] ++ [.msgTask]) ([] ++ [] ++ []) s₂ :=
    .step (.step .start hStart rfl) hPush rfl
  exact ⟨s₂, rfl, by decide, kernelTimer_tracks run false rfl⟩

/-- The only timer of a container is started and stopped again. -/
def startStop : List TimerInput := [.start 1 1000 false, .msgTask, .stop 1, .msgTask]

/-- Its removal leaves the fd armed and polled. -/
theorem startStop_leaves_armed :
    ∃ os s, Steps TimerService.Next anyStep (TimerService.initial bootTime) startStop os s ∧
      s.msgs = [] ∧ s.expiries false = 0 ∧ ¬(s.containers false).Tracks := by
  obtain ⟨⟨s, os⟩, hRun, hEnd⟩ := Option.map_eq_some_iff.mp (show
    (Lib.exec (fun _ _ s i => TimerService.step s i) [] [] (TimerService.initial bootTime)
      startStop).map (fun r => (r.1.msgs, r.1.expiries false, (r.1.containers false).heap,
        (r.1.containers false).polled)) = some ([], 0, LocHeap.empty, true) by decide +kernel)
  simp only [Prod.mk.injEq] at hEnd
  obtain ⟨hMsgs, hQuiet, hHeap, hPolled⟩ := hEnd
  have run := Steps.of_exec TimerService.Next anyStep (fun i _ _ _ s s' o h => ⟨h, trivial⟩) hRun
  refine ⟨os, s, run, hMsgs, hQuiet, fun hTracks => ?_⟩
  have hEmpty : (s.containers false).heap.stored = 0 := by
    rw [hHeap]
    rfl
  rw [(hTracks.empty hEmpty).2] at hPolled
  cases hPolled

end KiwiDevice.Gps

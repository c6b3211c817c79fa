import KiwiDevice.Hal.StreamBufferRuns

/-!
# Release of acquired buffers

The allocation thread maps no buffer above the count and comes to its end, and the caller that waits
for it then unmaps all.
-/

namespace KiwiDevice.Hal

open QCameraStream

variable {i : Nat} {es events : List StreamEvent} {s s' : QCameraStream} {a : AllocAnswers}
  {x x' : AllocThread} {t t' : StreamSession} {r : Release}

namespace QCameraStream

/-- How far the thread is from its end. -/
def left (s : QCameraStream) : AllocThread → Nat
  | .condWait => s.numBufs + 3
  | .allocating => s.numBufs + 2
  | .mapping i => s.numBufs - i + 1
  | .ended => 0

/-- What a step of the thread keeps. -/
structure ThreadStep (s : QCameraStream) (x : AllocThread) (s' : QCameraStream)
    (events : List StreamEvent) (x' : AllocThread) : Prop where
  numBufs : s'.numBufs = s.numBufs
  streamBufs : s'.streamBufs.isSome = s.streamBufs.isSome
  bufDefs : s'.bufDefs = s.bufDefs
  bufAllocPid : s'.bufAllocPid = s.bufAllocPid
  waitForCond : s'.waitForCond = s.waitForCond
  inside : ∀ i, .mapped i ∈ events → i < s.numBufs
  left : s'.left x' < s.left x

theorem bufAllocRoutine_spec (h : s.bufAllocRoutine a x = some (s', events, x')) :
    ThreadStep s x s' events x' := by
  cases x with
  | condWait =>
    rw [bufAllocRoutine] at h
    split at h
    · cases h
    · cases h
      exact ⟨rfl, rfl, rfl, rfl, rfl, by simp, Nat.lt_succ_self _⟩
  | allocating =>
    rw [bufAllocRoutine] at h
    split at h
    · split at h
      · cases h
      · rename_i m hMem
        dsimp only at h
        split at h
        · cases h
          refine ⟨rfl, by rw [hMem]; rfl, rfl, rfl, rfl, by simp, ?_⟩
          simp only [QCameraStream.left]
          omega
        · cases h
          refine ⟨rfl, by rw [hMem]; rfl, rfl, rfl, rfl, by simp, ?_⟩
          simp only [QCameraStream.left]
          omega
    · cases h
      refine ⟨rfl, rfl, rfl, rfl, rfl, by simp, ?_⟩
      simp only [QCameraStream.left]
      omega
  | mapping i =>
    rw [bufAllocRoutine] at h
    split at h
    · rename_i hLt
      have hLeft : s.left (.mapping (i + 1)) < s.left (.mapping i) := by
        simp only [QCameraStream.left]
        omega
      split at h
      · cases h
      · split at h
        · cases h
          exact ⟨rfl, rfl, rfl, rfl, rfl, by simp, hLeft⟩
        · cases h
          refine ⟨rfl, rfl, rfl, rfl, rfl, fun j hj => ?_, hLeft⟩
          rcases List.mem_append.mp hj with hj | hj
          · split at hj
            · cases hj
            · cases List.mem_singleton.mp hj
              exact hLt
          · split at hj
            · cases List.mem_singleton.mp hj
            · cases hj
    · cases h
      refine ⟨rfl, rfl, rfl, rfl, rfl, by simp, ?_⟩
      simp only [QCameraStream.left]
      omega
  | ended => cases h

theorem bufAllocRoutine_none (hWait : s.waitForCond = false) (hMem : s.streamBufs.isSome)
    (h : s.bufAllocRoutine a x = none) : x = .ended := by
  obtain ⟨m, hMem⟩ := Option.isSome_iff_exists.mp hMem
  cases x with
  | condWait =>
    rw [bufAllocRoutine, hWait] at h
    cases h
  | allocating =>
    rw [bufAllocRoutine, hMem] at h
    dsimp only at h
    split at h
    · split at h
      · cases h
      · cases h
    · cases h
  | mapping i =>
    rw [bufAllocRoutine, hMem] at h
    dsimp only at h
    split at h
    · split at h
      · cases h
      · cases h
    · cases h
  | ended => rfl

theorem finish_spec (hMem : s.streamBufs.isSome) (hDefs : s.bufDefs = true) (r : Release) :
    ∃ s' later rc, s.finish r = some (s', unmapAll s.numBufs ++ later, rc) ∧
      ∀ i, .mapped i ∉ later := by
  have hNil : ∀ i, StreamEvent.mapped i ∉ [] := by simp
  have hDealloc : ∀ i, StreamEvent.mapped i ∉ [.deallocated] := by simp
  have hApp : unmapAll s.numBufs = unmapAll s.numBufs ++ [] := (List.append_nil _).symm
  cases r with
  | putBufs unmap =>
    rw [finish, if_pos hMem]
    dsimp only
    split
    · exact ⟨_, [], _, congrArg (fun es => some (_, es, _)) hApp, hNil⟩
    · exact ⟨_, [.deallocated], _, rfl, hDealloc⟩
  | releaseBuffs unmap =>
    rw [finish, if_pos hDefs, if_pos hDefs]
    dsimp only
    split
    · exact ⟨_, [.deallocated], _, rfl, hDealloc⟩
    · exact ⟨_, [], _, congrArg (fun es => some (_, es, _)) hApp, hNil⟩

end QCameraStream

namespace StreamSession

/-- The session while its buffers are there. -/
structure Open (es : List StreamEvent) (t : StreamSession) : Prop where
  acquired : Acquired es t.stream
  thread : t.thread.isSome = t.stream.bufAllocPid
  waiting : t.releasing.isSome → t.stream.bufAllocPid = true ∧ t.stream.waitForCond = false

/-- The invariant of a session. -/
def Sound (es : List StreamEvent) (t : StreamSession) : Prop :=
  (t.released = false → Open es t) ∧ (t.released = true → t.releasing = none ∧ Returned es t)

theorem Open.finish (h : Open es t) (hEnded : ∀ x ∈ t.thread, x = .ended) (r : Release) :
    ∃ t' events, t.finish r = some (t', events) ∧ t'.released = true ∧ t'.releasing = none ∧
      Returned (es ++ events) t' := by
  obtain ⟨s', later, rc, hFinish, hLater⟩ := finish_spec h.acquired.streamBufs h.acquired.bufDefs r
  refine ⟨⟨s', t.thread, none, true⟩, unmapAll t.stream.numBufs ++ later, ?_, rfl, rfl, ?_, hEnded⟩
  · rw [StreamSession.finish, hFinish]
    rfl
  · intro i hi
    rw [← List.append_assoc] at hi
    have hBefore := (stillMapped_append hi).resolve_right (hLater i)
    obtain ⟨hLe, hMapped⟩ := stillMapped_unmapAll hBefore
    exact absurd (h.acquired.inside i hMapped) (Nat.not_lt_of_le hLe)

theorem Open.keep (h : Open es t) (hNum : s'.numBufs = t.stream.numBufs)
    (hMem : s'.streamBufs.isSome = t.stream.streamBufs.isSome)
    (hDefs : s'.bufDefs = t.stream.bufDefs)
    (hPid : s'.bufAllocPid = t.stream.bufAllocPid)
    (hInside : ∀ i, .mapped i ∈ events → i < t.stream.numBufs) {x : Option AllocThread}
    (hThread : x.isSome = t.thread.isSome) {releasing : Option Release}
    (hWaiting : releasing.isSome → s'.bufAllocPid = true ∧ s'.waitForCond = false) :
    Open (es ++ events) ⟨s', x, releasing, t.released⟩ := by
  refine ⟨⟨hMem.trans h.acquired.streamBufs, hDefs.trans h.acquired.bufDefs, fun i hi => ?_⟩,
    hThread.trans (h.thread.trans hPid.symm), hWaiting⟩
  rw [hNum]
  rcases stillMapped_append hi with hBefore | hMem
  · exact h.acquired.inside i hBefore
  · exact hInside i hMem

theorem Open.thread_step (h : Open es t) (hStep : t.step (.thread a) = some (t', events)) :
    Open (es ++ events) t' ∧ t'.releasing = t.releasing ∧ t'.released = t.released ∧
      ∃ x x', t.thread = some x ∧ t'.thread = some x' ∧ t'.stream.left x' < t.stream.left x := by
  obtain ⟨x, hThread, hRest⟩ := Option.bind_eq_some_iff.mp hStep
  obtain ⟨⟨s', events', x'⟩, hRoutine, hEnd⟩ := Option.map_eq_some_iff.mp hRest
  cases hEnd
  have hKeeps := bufAllocRoutine_spec hRoutine
  refine ⟨h.keep hKeeps.numBufs hKeeps.streamBufs hKeeps.bufDefs hKeeps.bufAllocPid hKeeps.inside
    (by rw [hThread]; rfl) fun hReleasing => ?_, rfl, rfl, x, x', hThread, rfl, hKeeps.left⟩
  have hWaits := h.waiting hReleasing
  exact ⟨hKeeps.bufAllocPid.trans hWaits.1, hKeeps.waitForCond.trans hWaits.2⟩

theorem condSignal_keeps (s : QCameraStream) (forceExit : Bool) :
    (s.condSignal forceExit).numBufs = s.numBufs ∧
      (s.condSignal forceExit).streamBufs = s.streamBufs ∧
      (s.condSignal forceExit).bufDefs = s.bufDefs ∧
      (s.condSignal forceExit).bufAllocPid = s.bufAllocPid ∧
      (s.condSignal forceExit).waitForCond = false := by
  rw [condSignal]
  split
  · exact ⟨rfl, rfl, rfl, rfl, rfl⟩
  · rename_i hWait
    exact ⟨rfl, rfl, rfl, rfl, Bool.eq_false_iff.mpr hWait⟩

theorem Open.signal (h : Open es t) (forceExit : Bool) {releasing : Option Release}
    (hPid : releasing.isSome → t.stream.bufAllocPid = true) :
    Open es ⟨t.stream.condSignal forceExit, t.thread, releasing, t.released⟩ := by
  obtain ⟨hNum, hMem, hDefs, hSame, hWait⟩ := condSignal_keeps t.stream forceExit
  have hNo : ∀ i, StreamEvent.mapped i ∈ [] → i < t.stream.numBufs := by simp
  have hKept := h.keep hNum (congrArg Option.isSome hMem) hDefs hSame hNo rfl
    fun hReleasing => ⟨hSame.trans (hPid hReleasing), hWait⟩
  rwa [List.append_nil] at hKept

theorem Open.join (h : Open es t) (hStep : t.step .join = some (t', events)) :
    t'.released = true ∧ t'.releasing = none ∧ Returned (es ++ events) t' := by
  rw [step] at hStep
  split at hStep
  · rename_i hEnded
    obtain ⟨r, -, hFinish⟩ := Option.bind_eq_some_iff.mp hStep
    obtain ⟨t'', events', hSame, hReleased⟩ := h.finish (by
      rw [hEnded]
      rintro x ⟨⟩
      rfl) r
    cases hSame.symm.trans hFinish
    exact hReleased
  · cases hStep

theorem sound_of_open (h : Open es t) (hReleased : t.released = false) : Sound es t := by
  refine ⟨fun _ => h, fun hTrue => ?_⟩
  rw [hReleased] at hTrue
  cases hTrue

theorem sound_of_returned (h : Returned es t) (hReleasing : t.releasing = none)
    (hReleased : t.released = true) : Sound es t := by
  refine ⟨fun hFalse => ?_, fun _ => ⟨hReleasing, h⟩⟩
  rw [hReleased] at hFalse
  cases hFalse

theorem Open.release {r : Release} (h : Open es t) (hReleased : t.released = false)
    (hNone : t.releasing = none) :
    ∃ t' events, t.step (.release r) = some (t', events) ∧ Sound (es ++ events) t' := by
  rw [step, hReleased, hNone]
  cases hPid : t.stream.bufAllocPid with
  | true =>
    refine ⟨_, [], rfl, ?_⟩
    rw [List.append_nil, ← hReleased]
    exact sound_of_open (h.signal true fun _ => hPid) hReleased
  | false =>
    have hThread : t.thread = none := by
      rw [← Option.not_isSome_iff_eq_none, h.thread, hPid]
      exact Bool.false_ne_true
    obtain ⟨t', events, hFinish, hDone, hNot, hReturned⟩ := h.finish (by
      rw [hThread]
      rintro x ⟨⟩) r
    exact ⟨t', events, hFinish, sound_of_returned hReturned hNot hDone⟩

theorem Open.sound_step {c : SessionStep} (h : Open es t) (hReleased : t.released = false)
    (hStep : t.step c = some (t', events)) : Sound (es ++ events) t' := by
  cases c with
  | condSignal =>
    cases hStep
    rw [List.append_nil]
    exact sound_of_open (h.signal false fun hReleasing => (h.waiting hReleasing).1) hReleased
  | acquireStreamBufs =>
    cases hStep
    rw [List.append_nil]
    have hAcquired := h.acquired
    exact sound_of_open ⟨⟨hAcquired.streamBufs, hAcquired.bufDefs, hAcquired.inside⟩, h.thread,
      h.waiting⟩ hReleased
  | thread a =>
    obtain ⟨hOpen, -, hSame, -⟩ := h.thread_step hStep
    exact sound_of_open hOpen (hSame.trans hReleased)
  | release r =>
    cases hReleasing : t.releasing with
    | none =>
      obtain ⟨t'', events', hSame, hSound⟩ := h.release (r := r) hReleased hReleasing
      cases hSame.symm.trans hStep
      exact hSound
    | some r' =>
      rw [step, hReleasing] at hStep
      cases hStep
  | join =>
    obtain ⟨hDone, hNot, hReturned⟩ := h.join hStep
    exact sound_of_returned hReturned hNot hDone

theorem Sound.step {c : SessionStep} (h : Sound es t) (hStep : t.step c = some (t', events)) :
    Sound (es ++ events) t' := by
  cases hReleased : t.released with
  | false => exact (h.1 hReleased).sound_step hReleased hStep
  | true =>
    obtain ⟨hNone, hReturned⟩ := h.2 hReleased
    cases c with
    | condSignal =>
      cases hStep
      rw [List.append_nil]
      exact sound_of_returned hReturned hNone hReleased
    | acquireStreamBufs =>
      cases hStep
      rw [List.append_nil]
      exact sound_of_returned hReturned hNone hReleased
    | thread a =>
      obtain ⟨x, hThread, hRest⟩ := Option.bind_eq_some_iff.mp hStep
      cases hReturned.2 x hThread
      cases hRest
    | release r =>
      rw [StreamSession.step, hNone, hReleased] at hStep
      cases hStep
    | join =>
      rw [StreamSession.step, hNone] at hStep
      split at hStep
      · cases hStep
      · cases hStep

theorem Open.ends (h : Open es t) (hReleasing : t.releasing.isSome) : t.Ends := by
  intro a
  have hPass : ∀ t t', (∃ es, Open es t ∧ t.releasing.isSome) →
      ((StreamSession.step t (.thread a)).map Prod.fst = some t') →
      (∃ es, Open es t' ∧ t'.releasing.isSome) ∧
        (t'.thread.elim 0 t'.stream.left < t.thread.elim 0 t.stream.left) := by
    rintro t t' ⟨es, hOpen, hWaits⟩ hStep
    obtain ⟨⟨t'', events⟩, hNext, rfl⟩ := Option.map_eq_some_iff.mp hStep
    obtain ⟨hOpen', hSame, -, x, x', hx, hx', hLess⟩ := hOpen.thread_step hNext
    refine ⟨⟨es ++ events, hOpen', by rwa [hSame]⟩, ?_⟩
    rw [hx, hx']
    exact hLess
  obtain ⟨t', hExec⟩ := Lib.Loop.exec_isSome _ (fun t => t.thread.elim 0 t.stream.left)
    (fun t => ∃ es, Open es t ∧ t.releasing.isSome) (fun t t' hI hStep => (hPass t t' hI hStep).1)
    (fun t t' hI hStep => (hPass t t' hI hStep).2) ⟨es, h, hReleasing⟩ (Nat.lt_succ_self _)
  have hExits := Lib.Loop.exec_exits hExec
  refine ⟨t', hExits, ?_⟩
  obtain ⟨es', hOpen, hWaits⟩ := hExits.invariant (fun t => ∃ es, Open es t ∧ t.releasing.isSome)
    (fun t t' hI hStep => (hPass t t' hI hStep).1) ⟨es, h, hReleasing⟩
  obtain ⟨hPid, hWait⟩ := hOpen.waiting hWaits
  have hThread := hOpen.thread
  rw [hPid] at hThread
  obtain ⟨x, hx⟩ := Option.isSome_iff_exists.mp hThread
  have hStuck : t'.stream.bufAllocRoutine a x = none := by
    have hGuard := Option.map_eq_none_iff.mp hExits.guard
    rw [StreamSession.step, hx] at hGuard
    exact Option.map_eq_none_iff.mp hGuard
  have hEnded := bufAllocRoutine_none hWait hOpen.acquired.streamBufs hStuck
  rw [hEnded] at hx
  obtain ⟨r, hr⟩ := Option.isSome_iff_exists.mp hWaits
  obtain ⟨t'', events, hFinish, -⟩ := hOpen.finish (by
    rw [hx]
    rintro x ⟨⟩
    rfl) r
  rw [StreamSession.step, if_pos hx, hr, Option.bind_some, hFinish]
  rfl

end StreamSession

namespace QCameraStream

variable {c : Acquire} {steps : List SessionStep}

theorem open_of_acquired (h : Acquired es s) : StreamSession.Open es s.opened := by
  refine ⟨h, ?_, fun hReleasing => ?_⟩
  · cases hPid : s.bufAllocPid <;> simp [opened, hPid]
  · cases hReleasing

theorem sound_of_run (h : Acquired es s)
    (run : Lib.Steps StreamSession.Next Lib.anyStep s.opened steps events t) :
    StreamSession.Sound (es ++ events) t := by
  refine run.history (I := fun _ events t => StreamSession.Sound (es ++ events) t) ?_ ?_
  · rw [List.append_nil]
    exact StreamSession.sound_of_open (open_of_acquired h) rfl
  · rintro steps events t c later t' - hSound hNext
    rw [← List.append_assoc]
    exact hSound.step hNext

theorem returned_of_run (h : Acquired es s)
    (run : Lib.Steps StreamSession.Next Lib.anyStep s.opened steps events t) :
    (t.released = false → t.releasing = none → ∀ r, (t.step (.release r)).isSome) ∧
      (t.releasing.isSome → t.Ends) ∧ (t.released = true → Returned (es ++ events) t) := by
  have hSound := sound_of_run h run
  refine ⟨fun hReleased hNone r => ?_, fun hReleasing => ?_, fun hReleased => (hSound.2 hReleased).2⟩
  · obtain ⟨t', later, hStep, -⟩ := (hSound.1 hReleased).release hReleased hNone
    rw [hStep]
    rfl
  · refine (hSound.1 ?_).ends hReleasing
    refine Bool.eq_false_iff.mpr fun hReleased => ?_
    rw [(hSound.2 hReleased).1] at hReleasing
    cases hReleasing

theorem acquire_spec (hIdle : s.Idle) (c : Acquire) :
    ((s.acquire c).2.2 < 0 ∧
      (RolledBack (s.acquire c).2.1 (s.acquire c).1 ↔ s.Spared c)) ∨
    ((s.acquire c).2.2 = 0 ∧ Acquired (s.acquire c).2.1 (s.acquire c).1 ∧ s.Spared c) := by
  cases c with
  | getBufs opsTbl a =>
    rcases getBufs_spec hIdle opsTbl a with ⟨hLess, hBack⟩ | ⟨hOk, hAcquired⟩
    · exact .inl ⟨hLess, fun _ => trivial, fun _ => hBack⟩
    · exact .inr ⟨hOk, hAcquired, trivial⟩
  | allocateBuffers a => exact allocateBuffers_spec hIdle a

theorem all_or_nothing_iff (hIdle : s.Idle) (c : Acquire) : s.AllOrNothing c ↔ s.Spared c := by
  rcases acquire_spec hIdle c with ⟨hLess, hBack⟩ | ⟨hOk, hAcquired, hSpared⟩
  · constructor
    · exact fun h => hBack.mp (h.1 hLess.ne)
    · exact fun hSpared => ⟨fun _ => hBack.mpr hSpared, fun hOk => absurd hOk hLess.ne⟩
  · constructor
    · exact fun _ => hSpared
    · exact fun _ => ⟨fun hFail => absurd hOk hFail, fun _ steps events t run =>
        returned_of_run hAcquired run⟩

/-- The server maps all but the buffer `failing`. -/
def mapsBut (failing : Nat) : AcquireAnswers where
  allocate := some 4096
  map := fun i => if i = failing then -1 else 0
  regFlags := true
  bufDefs := true
  getRegFlags := 0
  createThread := true

/-- Five buffers, two of them mapped by the thread while the caller waits. -/
def twoLater : List SessionStep :=
  let thread : SessionStep := .thread ⟨(0, 5), fun _ => 0⟩
  [.condSignal, thread, thread, .release (.putBufs fun _ => 0), thread, thread, thread, .join]

theorem all_or_nothing_two_later :
    let s : QCameraStream := { numBufs := 5, dynBufAlloc := true }
    s.AllOrNothing (.getBufs true (mapsBut 5)) ∧ ∃ events t,
      Lib.Steps StreamSession.Next Lib.anyStep (s.acquire (.getBufs true (mapsBut 5))).1.opened
        twoLater events t ∧ .mapped 4 ∈ events ∧ t.released = true := by
  refine ⟨(all_or_nothing_iff ⟨by decide, rfl, rfl, rfl⟩ _).mpr trivial, ?_⟩
  have hRun : (Lib.exec (fun _ _ t c => t.step c) [] []
      (QCameraStream.acquire { numBufs := 5, dynBufAlloc := true }
        (.getBufs true (mapsBut 5))).1.opened twoLater).map
          (fun r => (decide (.mapped 4 ∈ r.2), r.1.released)) = some (true, true) := by
    decide +kernel
  obtain ⟨r, hExec, hEnd⟩ := Option.map_eq_some_iff.mp hRun
  obtain ⟨hMapped, hReleased⟩ := Prod.mk.inj hEnd
  exact ⟨_, _, Lib.Steps.of_exec StreamSession.Next Lib.anyStep
    (fun _ _ _ _ _ _ _ h => ⟨h, trivial⟩) hExec, of_decide_eq_true hMapped, hReleased⟩

/-- The second of two buffers cannot be mapped: the cleanup unmaps it, and not the first. -/
theorem first_buffer_left : ¬ ∀ (s : QCameraStream) (c : Acquire), s.Idle → s.AllOrNothing c := by
  intro hClaim
  have hBack := (hClaim { numBufs := 2 } (.allocateBuffers (mapsBut 1))
    ⟨by decide, rfl, rfl, rfl⟩).1 (by decide)
  obtain ⟨e, hMem, hGive⟩ := hBack.1.given (e := .mapped 0) (by decide) rfl
  have hEvents : ∀ e ∈ (QCameraStream.acquire { numBufs := 2 }
      (.allocateBuffers (mapsBut 1))).2.1, e.effect ≠ .give (.mapping 0) := by
    decide
  exact hEvents e hMem hGive

end QCameraStream

end KiwiDevice.Hal

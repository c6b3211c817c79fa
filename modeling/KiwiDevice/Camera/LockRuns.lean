import KiwiDevice.Camera.LockOrder

/-!
# Runs of the camera interface

The steps keep the order of the waits. Without the condition on the waits a stop, a call for the
same channel and a buffer return end in a deadlock.
-/

namespace KiwiDevice.Camera

namespace LockWorld

variable {w w' : LockWorld} {a b : Agent} {ch : Nat} {x : LockStage}

theorem busy_of_append_exit {c : LockChannel} {rest : Worker ChannelCmd} {n : Nat}
    (h : Busy { c with
      cmd := rest, syncSem := n, cb := { c.cb with queue := c.cb.queue ++ [.exit] } }) : Busy c := by
  rcases h with hCallback | hIn
  · exact .inl hCallback
  · rcases List.mem_append.mp hIn with hIn | hIn
    · exact .inr hIn
    · cases List.mem_singleton.mp hIn

theorem Sound.outside {y : LockStage} (h : w.Sound) (hStage : w.stages a = y)
    (hStages : w'.stages = Function.update w.stages a x) (hChannels : w'.channels = w.channels)
    (hIntf : ∀ b, w'.intfLock = some b →
      w.intfLock = some b ∧ (y.holdsIntf = true → x.holdsIntf = true) ∨ b = a ∧ x.holdsIntf = true)
    (hCam : ∀ b, w'.camLock = some b →
      w.camLock = some b ∧ (y.holdsCam = true → x.holdsCam = true) ∨ b = a ∧ x.holdsCam = true)
    (hChannel : x.channel = y.channel)
    (hAgent : y ≠ .idle ∧ (y.isQbuf = true → x = .idle ∨ x.isQbuf = true))
    (hJoin : ∀ ch after, x ≠ .joinCb ch after)
    (hWait : ∀ ch call, x = .chWait ch call → Busy (w.channels ch) →
      ∀ b after, w.stages b ≠ .joinCb ch after) : w'.Sound := by
  subst hStage
  refine h.stay hStages hChannels ?_ ?_ hChannel hAgent hJoin hWait
  · intro b hLock
    rcases hIntf b hLock with ⟨hBefore, hHolds⟩ | ⟨rfl, hHolds⟩
    · exact h.keepIntf hHolds b hBefore
    · rw [Function.update_self]
      exact hHolds
  · intro b hLock
    rcases hCam b hLock with ⟨hBefore, hHolds⟩ | ⟨rfl, hHolds⟩
    · exact h.keepCam hHolds b hBefore
    · rw [Function.update_self]
      exact hHolds

theorem Sound.camBody {call : CameraCall} (h : w.Sound) (hStage : w.stages a = .camBody call)
    (hSpared : w.Spared (.run a)) (hStep : w.advance a = some w') : w'.Sound := by
  rw [advance, hStage] at hStep
  cases call with
  | camera =>
    cases hStep
    exact h.outside hStage (x := .idle) rfl rfl (fun _ hLock => .inl ⟨hLock, nofun⟩) nofun rfl
      ⟨nofun, fun _ => .inl rfl⟩ nofun nofun
  | qbuf =>
    cases hStep
    exact h.outside hStage (x := .tail) rfl rfl (fun _ hLock => .inl ⟨hLock, nofun⟩) nofun rfl
      ⟨nofun, fun _ => .inr rfl⟩ nofun nofun
  | channel target call =>
    cases target with
    | none =>
      cases hStep
      exact h.outside hStage (x := .idle) rfl rfl (fun _ hLock => .inl ⟨hLock, nofun⟩) nofun rfl
        ⟨nofun, fun _ => .inl rfl⟩ nofun nofun
    | some ch =>
      cases hStep
      refine h.outside hStage (x := .chWait ch call) rfl rfl (fun _ hLock => .inl ⟨hLock, nofun⟩)
        (fun _ hLock => .inl ⟨hLock, fun _ => rfl⟩) rfl ⟨nofun, nofun⟩ nofun ?_
      rintro ch' call' hEq hBusy b after
      cases hEq
      exact hSpared.1 ch call hStage hBusy b after

theorem Sound.join {after : AfterFlush} (h : w.Sound)
    (hStage : w.stages a = .joinCmd ch after ∨ w.stages a = .joinCb ch after)
    (hSpared : w.Spared (.run a)) (hStep : w.advance a = some w') : w'.Sound := by
  rcases hStage with hStage | hStage
  · rw [advance, hStage] at hStep
    simp only at hStep
    split at hStep
    · cases hStep
    · rename_i hEnded
      cases hStep
      refine h.change hStage ⟨rfl, rfl, rfl⟩ rfl rfl rfl fun after' hEq => ⟨rfl, fun hBusy => ?_⟩
      exact hSpared.2 ch after hStage ((Bool.not_eq_true _).mp hEnded)
        (busy_of_append_exit hBusy)
  · rw [advance, hStage] at hStep
    simp only at hStep
    split at hStep
    · cases hStep
    · cases hStep
      cases after with
      | done | stopped | failed => exact h.change hStage ⟨rfl, rfl, rfl⟩ rfl rfl rfl nofun

theorem Sound.flushing {flushes : Nat} {after : AfterFlush} (h : w.Sound)
    (hStage : w.stages a = .flushing ch flushes after) (hStep : w.advance a = some w') :
    w'.Sound := by
  rw [advance, hStage] at hStep
  cases flushes with
  | succ flushes =>
    cases hStep
    exact h.change hStage ⟨rfl, rfl, rfl⟩ rfl rfl rfl nofun
  | zero =>
    cases after with
    | done =>
      cases hStep
      exact h.keep hStage ⟨rfl, rfl, rfl⟩ rfl nofun
    | stopped | failed =>
      cases hStep
      exact h.change hStage ⟨rfl, rfl, rfl⟩ rfl rfl rfl nofun

theorem Sound.starting {failed : Option Nat} (h : w.Sound)
    (hStage : w.stages a = .starting ch failed) (hStep : w.advance a = some w') : w'.Sound := by
  rw [advance, hStage] at hStep
  cases failed with
  | none =>
    cases hStep
    exact h.change hStage ⟨rfl, rfl, rfl⟩ rfl rfl rfl nofun
  | some linked =>
    simp only at hStep
    split at hStep
    · cases hStep
      exact h.keep hStage ⟨rfl, rfl, rfl⟩ rfl nofun
    · cases hStep
      exact h.keep hStage ⟨rfl, rfl, rfl⟩ rfl nofun

theorem Sound.advance (h : w.Sound) (hSpared : w.Spared (.run a)) (hStep : w.advance a = some w') :
    w'.Sound := by
  cases hStage : w.stages a with
  | idle =>
    rw [LockWorld.advance, hStage] at hStep
    cases hStep
  | intfWait call =>
    rw [LockWorld.advance, hStage] at hStep
    simp only at hStep
    split at hStep
    · cases hStep
      refine h.outside hStage (x := .camWait call) rfl rfl (fun b hLock => ?_)
        (fun _ hLock => .inl ⟨hLock, nofun⟩) rfl ⟨nofun, fun hQbuf => ?_⟩ nofun nofun
      · exact .inr ⟨(Option.some.inj hLock).symm, rfl⟩
      · cases call with
        | qbuf => exact .inr rfl
        | camera | channel => cases hQbuf
    · cases hStep
  | camWait call =>
    rw [LockWorld.advance, hStage] at hStep
    simp only at hStep
    split at hStep
    · cases hStep
      refine h.outside hStage (x := .camHeld call) rfl rfl
        (fun _ hLock => .inl ⟨hLock, fun _ => rfl⟩) (fun b hLock => ?_) rfl
        ⟨nofun, fun hQbuf => ?_⟩ nofun nofun
      · exact .inr ⟨(Option.some.inj hLock).symm, rfl⟩
      · cases call with
        | qbuf => exact .inr rfl
        | camera | channel => cases hQbuf
    · cases hStep
  | camHeld call =>
    rw [LockWorld.advance, hStage] at hStep
    cases hStep
    refine h.outside hStage (x := .camBody call) rfl rfl nofun
      (fun _ hLock => .inl ⟨hLock, fun _ => rfl⟩) rfl ⟨nofun, fun hQbuf => ?_⟩ nofun nofun
    cases call with
    | qbuf => exact .inr rfl
    | camera | channel => cases hQbuf
  | camBody call => exact h.camBody hStage hSpared hStep
  | chWait ch call =>
    rw [LockWorld.advance, hStage] at hStep
    simp only at hStep
    split at hStep
    · rename_i hFree
      cases hStep
      exact h.lockChannel hStage hFree
    · cases hStep
  | chHeld ch call =>
    rw [LockWorld.advance, hStage] at hStep
    cases hStep
    refine h.outside hStage (x := .chBody ch call) rfl rfl (fun _ hLock => .inl ⟨hLock, nofun⟩) nofun
      rfl ⟨nofun, nofun⟩ nofun nofun
  | chBody ch call =>
    rw [LockWorld.advance, hStage] at hStep
    cases hStep
    exact h.dispatch hStage
  | starting ch failed => exact h.starting hStage hStep
  | flushing ch flushes after => exact h.flushing hStage hStep
  | syncing ch flushes after =>
    rw [LockWorld.advance, hStage] at hStep
    simp only at hStep
    split at hStep
    · cases hStep
      exact h.change hStage ⟨rfl, rfl, rfl⟩ rfl rfl rfl nofun
    · cases hStep
  | joinCmd ch after => exact h.join (.inl hStage) hSpared hStep
  | joinCb ch after => exact h.join (.inr hStage) hSpared hStep
  | leaving ch =>
    rw [LockWorld.advance, hStage] at hStep
    cases hStep
    exact h.unlockChannel hStage
  | tail =>
    rw [LockWorld.advance, hStage] at hStep
    cases hStep
    exact h.outside hStage (x := .idle) rfl rfl (fun _ hLock => .inl ⟨hLock, nofun⟩)
      (fun _ hLock => .inl ⟨hLock, nofun⟩) rfl ⟨nofun, fun _ => .inl rfl⟩ nofun nofun

/-- A thread begins an operation; a callback thread only a `qbuf`, in a callback. -/
theorem Sound.enter {call : CameraCall} (h : w.Sound) (hIdle : w.stages a = .idle)
    (hCmd : ∀ ch, a ≠ .cmd ch)
    (hCb : ∀ ch, a = .cb ch → (w.channels ch).inCallback = true ∧ call = .qbuf) :
    (w.setStage a (.intfWait call)).Sound := by
  have hSame : (w.setStage a (.intfWait call)).stages a = .intfWait call := Function.update_self ..
  have hOther : ∀ b, b ≠ a → (w.setStage a (.intfWait call)).stages b = w.stages b :=
    fun b hNe => Function.update_of_ne hNe ..
  refine ⟨h.keepIntf ?_, h.keepCam ?_, h.keepLock ?_, ?_, ?_, ?_, ?_⟩
  · rw [hIdle]
    nofun
  · rw [hIdle]
    nofun
  · rw [hIdle]
    rfl
  · intro ch
    rw [hOther (.cmd ch) (hCmd ch).symm]
    exact h.cmd ch
  · intro ch hIn
    rcases eq_or_ne (.cb ch) a with rfl | hNe
    · obtain ⟨hCallback, rfl⟩ := hCb ch rfl
      rw [hSame]
      exact ⟨hCallback, rfl⟩
    · rw [hOther _ hNe] at hIn ⊢
      exact h.cb ch hIn
  · intro b ch after hStage
    rcases eq_or_ne b a with rfl | hNe
    · cases hSame.symm.trans hStage
    · rw [hOther b hNe] at hStage
      exact h.ended b ch after hStage
  · intro b ch after hStage hBusy b' call' hWaiting
    rcases eq_or_ne b a with rfl | hNe
    · cases hSame.symm.trans hStage
    · rcases eq_or_ne b' a with rfl | hNe'
      · cases hSame.symm.trans hWaiting
      · rw [hOther b hNe] at hStage
        rw [hOther b' hNe'] at hWaiting
        exact h.spared b ch after hStage hBusy b' call' hWaiting

theorem Sound.work {c : LockChannel} (h : w.Sound) (hLock : c.chLock = (w.channels ch).chLock)
    (hCb : w.stages (.cb ch) ≠ .idle → c.inCallback = true)
    (hEnded : (w.channels ch).cmd.alive = false →
      c.cmd.alive = false ∧ (Busy c → Busy (w.channels ch))) : (w.setChannel ch c).Sound := by
  have hSame : (w.setChannel ch c).channels ch = c := Function.update_self ..
  have hOther : ∀ ch', ch' ≠ ch → (w.setChannel ch c).channels ch' = w.channels ch' :=
    fun ch' hNe => Function.update_of_ne hNe ..
  refine ⟨h.intf, h.cam, ?_, h.cmd, ?_, ?_, ?_⟩
  · intro ch' b
    rcases eq_or_ne ch' ch with rfl | hNe
    · rw [hSame, hLock]
      exact h.lock ch' b
    · rw [hOther ch' hNe]
      exact h.lock ch' b
  · intro ch' hIn
    rcases eq_or_ne ch' ch with rfl | hNe
    · rw [hSame]
      exact ⟨hCb hIn, (h.cb ch' hIn).2⟩
    · rw [hOther ch' hNe]
      exact h.cb ch' hIn
  · intro b ch' after hStage
    rcases eq_or_ne ch' ch with rfl | hNe
    · rw [hSame]
      exact (hEnded (h.ended b ch' after hStage)).1
    · rw [hOther ch' hNe]
      exact h.ended b ch' after hStage
  · intro b ch' after hStage hBusy
    rcases eq_or_ne ch' ch with rfl | hNe
    · rw [hSame] at hBusy
      exact h.spared b ch' after hStage ((hEnded (h.ended b ch' after hStage)).2 hBusy)
    · rw [hOther ch' hNe] at hBusy
      exact h.spared b ch' after hStage hBusy

theorem Sound.workCmd {c : LockChannel} (h : w.Sound) (hAlive : (w.channels ch).cmd.alive = true)
    (hLock : c.chLock = (w.channels ch).chLock)
    (hCallback : c.inCallback = (w.channels ch).inCallback) : (w.setChannel ch c).Sound := by
  refine h.work hLock (fun hIn => ?_) (fun hEnded => ?_)
  · rw [hCallback]
    exact (h.cb ch hIn).1
  · rw [hAlive] at hEnded
    cases hEnded

theorem Sound.cmdRun {dispatched : Nat} (h : w.Sound)
    (hStep : w.step (.cmdRun ch dispatched) = some w') : w'.Sound := by
  rw [step] at hStep
  simp only at hStep
  split at hStep
  · rename_i hAlive _
    cases hStep
    exact h.workCmd hAlive rfl rfl
  · rename_i hAlive _
    cases hStep
    exact h.workCmd hAlive rfl rfl
  · rename_i hAlive _
    cases hStep
    exact h.workCmd hAlive rfl rfl
  · cases hStep

theorem Sound.cbRun (h : w.Sound) (hStep : w.step (.cbRun ch) = some w') : w'.Sound := by
  rw [step] at hStep
  simp only at hStep
  split at hStep
  · rename_i rest _ _ hQueue
    cases hStep
    refine h.work rfl (fun _ => rfl) fun hEnded => ⟨hEnded, fun _ => .inr ?_⟩
    rw [hQueue]
    exact List.mem_cons_self
  · rename_i rest _ hOut hQueue
    cases hStep
    refine h.work rfl (fun hIn => (h.cb ch hIn).1) fun hEnded => ⟨hEnded, fun hBusy => ?_⟩
    refine hBusy.imp_right fun hIn => ?_
    rw [hQueue]
    exact List.mem_cons_of_mem _ hIn
  · cases hStep

theorem Sound.cbReturn (h : w.Sound) (hStep : w.step (.cbReturn ch) = some w') : w'.Sound := by
  rw [step] at hStep
  split at hStep
  · rename_i hCond
    cases hStep
    refine h.work rfl (fun hIn => absurd hCond.2 hIn) fun hEnded => ⟨hEnded, fun _ => .inl hCond.1⟩
  · cases hStep

theorem Sound.step {i : Input} (h : w.Sound) (hSpared : w.Spared i) (hStep : w.step i = some w') :
    w'.Sound := by
  cases i with
  | call t call =>
    rw [LockWorld.step] at hStep
    split at hStep
    · rename_i hIdle
      cases hStep
      exact h.enter hIdle nofun nofun
    · cases hStep
  | qbuf ch =>
    rw [LockWorld.step] at hStep
    split at hStep
    · rename_i hCond
      cases hStep
      refine h.enter hCond.2 nofun fun ch' hEq => ?_
      cases hEq
      exact ⟨hCond.1, rfl⟩
    · cases hStep
  | run a => exact h.advance hSpared hStep
  | data ch =>
    rw [LockWorld.step] at hStep
    simp only at hStep
    split at hStep
    · rename_i hAlive
      cases hStep
      exact h.workCmd hAlive rfl rfl
    · cases hStep
  | cmdRun ch dispatched => exact h.cmdRun hStep
  | cmdEnd ch =>
    rw [LockWorld.step] at hStep
    simp only at hStep
    split at hStep
    · rename_i hCond
      cases hStep
      exact h.workCmd hCond.1 rfl rfl
    · cases hStep
  | cbRun ch => exact h.cbRun hStep
  | cbReturn ch => exact h.cbReturn hStep
  | cbEnd ch =>
    rw [LockWorld.step] at hStep
    simp only at hStep
    split at hStep
    · cases hStep
      exact h.work rfl (fun hIn => (h.cb ch hIn).1) fun hEnded => ⟨hEnded, fun hBusy => hBusy⟩
    · cases hStep

theorem sound_start (hasCb : Nat → Bool) : (start hasCb).Sound where
  intf := nofun
  cam := nofun
  lock _ _ := iff_of_false nofun nofun
  cmd _ := rfl
  cb _ hIn := absurd rfl hIn
  ended := nofun
  spared := nofun

/-- In a run in which nobody waits on a stop for a busy callback thread there is no deadlock. -/
theorem not_deadlock_of_spared {hasCb : Nat → Bool} {inputs : List Input} {outputs : List Unit}
    (run : Lib.Steps Next (fun _ _ w i _ => w.Spared i) (start hasCb) inputs outputs w) :
    ¬ Lib.Deadlock w.Waits := by
  refine Sound.not_deadlock ?_
  refine run.invariant (I := fun w => w.Sound) (sound_start hasCb) ?_
  intro _ _ w₁ i out w₂ hSpared hSound hNext
  exact hSound.step hSpared hNext

/-- A thread that goes for the lock of a channel, or for the end of its threads, finds its callback
thread done. -/
def idleCallback (w : LockWorld) : Input → Bool
  | .run a =>
    match w.stages a with
    | .camBody (.channel (some ch) _) | .joinCmd ch _ => decide (¬ Busy (w.channels ch))
    | _ => true
  | _ => true

theorem spared_of_idleCallback {i : Input} (h : w.idleCallback i = true) : w.Spared i := by
  cases i with
  | run a =>
    rw [idleCallback] at h
    refine ⟨fun ch call hStage hBusy => ?_, fun ch after hStage _ hBusy => ?_⟩
    · rw [hStage] at h
      exact absurd hBusy (of_decide_eq_true h)
    · rw [hStage] at h
      exact absurd hBusy (of_decide_eq_true h)
  | _ => trivial

/-- A step of a run in which every thread finds the callback threads done. -/
def quietStep (_ : List Input) (_ : List Unit) (w : LockWorld) (i : Input) :
    Option (LockWorld × List Unit) :=
  if w.idleCallback i then (w.step i).map fun w' => (w', []) else none

theorem quietStep_sound {inputs : List Input} {outputs o : List Unit} {i : Input}
    (h : quietStep inputs outputs w i = some (w', o)) : Next w i o w' ∧ w.Spared i := by
  rw [quietStep] at h
  split at h
  · rename_i hIdle
    obtain ⟨w'', hStep, hEq⟩ := Option.map_eq_some_iff.mp h
    cases hEq
    exact ⟨hStep, spared_of_idleCallback hIdle⟩
  · cases h

/-- The steps of a client that starts an operation. -/
def steps (t : Nat) (call : CameraCall) (n : Nat) : List Input :=
  .call t call :: List.replicate n (.run (.client t))

/-- A buffer return and a stop wait behind a call for the channel while a callback runs. -/
theorem not_deadlock_of_spared_callback : ∃ inputs w,
    Lib.Steps Next (fun _ _ w i _ => w.Spared i) (start fun _ => true) inputs [] w ∧
      ([.client 0, .client 1, .cb 0].map w.stages =
          [.chWait 0 .direct, .intfWait (.channel (some 0) (.stop 0)), .camWait .qbuf] ∧
        [w.intfLock, w.camLock] = [some (.cb 0), some (.client 0)]) ∧
      ¬ Lib.Deadlock w.Waits := by
  let inputs := steps 0 (.channel (some 0) (.start none)) 9 ++
    steps 0 (.channel (some 0) .direct) 4 ++ [.data 0, .cmdRun 0 1, .cbRun 0, .qbuf 0,
      .run (.cb 0), .call 1 (.channel (some 0) (.stop 0))]
  have hRun : (Lib.exec quietStep [] [] (start fun _ => true) inputs).map (fun r =>
      (r.2, [.client 0, .client 1, .cb 0].map r.1.stages, [r.1.intfLock, r.1.camLock])) =
      some ([], [.chWait 0 .direct, .intfWait (.channel (some 0) (.stop 0)), .camWait .qbuf],
        [some (.cb 0), some (.client 0)]) := by
    decide +kernel
  obtain ⟨r, hExec, hEq⟩ := Option.map_eq_some_iff.mp hRun
  obtain ⟨hOut, hEnd⟩ := Prod.mk.inj hEq
  have run := Lib.Steps.of_exec Next (fun _ _ w i _ => w.Spared i)
    (fun _ _ _ _ _ _ _ hStep => quietStep_sound hStep) hExec
  rw [hOut] at run
  exact ⟨inputs, r.1, run, Prod.mk.inj hEnd, not_deadlock_of_spared run⟩

/-- A stop waits for a callback thread, a second client has `cam_lock` and waits for the lock of the
channel, and the callback waits for `cam_lock`. -/
theorem deadlock_reachable : ∃ inputs w,
    Lib.Steps Next Lib.anyStep (start fun _ => true) inputs [] w ∧ Lib.Deadlock w.Waits := by
  let inputs := steps 0 (.channel (some 0) (.start none)) 9 ++ [.data 0, .cmdRun 0 1, .cbRun 0] ++
    steps 0 (.channel (some 0) (.stop 0)) 8 ++ [.cmdRun 0 0, .cmdEnd 0, .run (.client 0)] ++
    steps 1 (.channel (some 0) .direct) 4 ++ [.qbuf 0, .run (.cb 0)]
  have hRun : (List.foldlM step (start fun _ => true) inputs).map
      (fun w => ([.client 0, .client 1, .cb 0].map w.stages, [w.camLock, (w.channels 0).chLock],
        (w.channels 0).cb.alive)) =
      some ([.joinCb 0 .stopped, .chWait 0 .direct, .camWait .qbuf],
        [some (.client 1), some (.client 0)], true) := by
    decide +kernel
  obtain ⟨w, hExec, hEq⟩ := Option.map_eq_some_iff.mp hRun
  obtain ⟨hStages, hLocks, hAlive⟩ : _ ∧ _ ∧ _ := by simpa only [Prod.mk.injEq] using hEq
  obtain ⟨hStop, hSecond, hCallback⟩ : _ ∧ _ ∧ _ := by
    simpa only [List.map_cons, List.map_nil, List.cons.injEq, and_true] using hStages
  obtain ⟨hCam, hLock⟩ : _ ∧ _ := by simpa only [List.cons.injEq, and_true] using hLocks
  refine ⟨inputs, w, Lib.Steps.of_silent (fun _ _ _ => id) hExec,
    fun a => a = .client 0 ∨ a = .client 1 ∨ a = .cb 0, ⟨.client 0, .inl rfl⟩, ?_⟩
  rintro a (rfl | rfl | rfl)
  · refine ⟨.cb 0, .inr (.inr rfl), by decide, ?_⟩
    rw [Waits, hStop]
    exact ⟨rfl, hAlive⟩
  · refine ⟨.client 0, .inl rfl, by decide, ?_⟩
    rw [Waits, hSecond]
    exact hLock
  · refine ⟨.client 1, .inr (.inl rfl), by decide, ?_⟩
    rw [Waits, hCallback]
    exact hCam

end LockWorld

end KiwiDevice.Camera

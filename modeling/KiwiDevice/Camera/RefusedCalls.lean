import KiwiDevice.Camera.ChannelTable

/-!
# Refused channel operations

An operation that the state of a channel does not carry out should be answered with a failure and
leave everything as it is. Exactly which operations do so in a state that a run reaches.
-/

namespace KiwiDevice.Camera

namespace ChannelWorld

variable {w w' : ChannelWorld} {r : ChannelResults} {k : Nat}

theorem streamEvent_state (w : ChannelWorld) (r : ChannelResults) (evt : StreamEvt) (k : Nat) :
    (w.streamEvent r evt k).1.ch.state = w.ch.state := by
  rw [streamEvent]
  split <;> rfl

theorem qbuf_state (w : ChannelWorld) (r : ChannelResults) (buf : BufDef) :
    (w.qbuf r buf).ch.state = w.ch.state := by
  rw [qbuf]
  split
  · rfl
  · split
    · rfl
    · split
      · exact w.streamEvent_state r _ _
      · split <;> rfl

theorem perform_state (r : ChannelResults) (es : List Event) (w : ChannelWorld) :
    (perform r es w).ch.state = w.ch.state := by
  induction es generalizing w with
  | nil => rfl
  | cons e es ih =>
    cases e with
    | qbuf buf =>
      cases buf with
      | none => exact ih w
      | some buf => rw [perform, ih, qbuf_state]
    | dispatch | matched | dequeued | flush | startZslSnapshot | stopZslSnapshot => exact ih w

theorem unlinkStream_state {s : MmStream} {streamType : CamStreamType}
    (h : w.unlinkStream r k s streamType = .ok w') : w'.ch.state = w.ch.state := by
  rw [unlinkStream] at h
  split at h
  · cases h
  · cases h
    simp only [setStream, flushSuperBufQueue]
    split
    · split
      · rw [perform_state]
        rfl
      · rfl
    · rfl

theorem forStreams_state {own : ChannelWorld → Nat → ChannelWorld}
    {flushType : MmStream → Option CamStreamType}
    (hOwn : ∀ w k, (own w k).ch.state = w.ch.state) {ks : List Nat}
    (h : forStreams own flushType r ks w = .ok w') : w'.ch.state = w.ch.state := by
  induction ks generalizing w with
  | nil =>
    cases h
    rfl
  | cons k rest ih =>
    rw [forStreams] at h
    split at h
    · cases h
    · split at h
      · rw [ih h, hOwn w k]
      · split at h
        · cases h
        · split at h
          · cases h
          · rename_i hUnlink
            rw [ih h, unlinkStream_state hUnlink]

theorem startStreams_state {ks : List Nat} {i : Nat} {n : Option Nat}
    (h : startStreams r ks i w = .ok (w', n)) : w'.ch.state = w.ch.state := by
  induction ks generalizing w i with
  | nil =>
    cases h
    rfl
  | cons k rest ih =>
    rw [startStreams] at h
    split at h
    · cases h
    · split at h
      · split at h
        · cases h
          rfl
        · simp only at h
          split at h
          · rw [ih h]
            rfl
          · cases h
            rfl
      · split at h
        · cases h
        · rw [ih h]
          rfl

theorem startErrorHandling_state {sObjs : List Nat} {i : Nat}
    (h : w.startErrorHandling r sObjs i = .ok w') : w'.ch.state = w.ch.state := by
  rw [startErrorHandling] at h
  split at h
  · cases h
  · rename_i w₁ hLoop
    cases h
    have hOwn : ∀ w k, (putOwn r (stopOwn r w k) k).ch.state = w.ch.state := fun w k => by
      rw [putOwn, stopOwn, streamEvent_state, streamEvent_state, streamEvent_state]
    rw [← forStreams_state hOwn hLoop, MmChannel.clearBundle]
    split <;> rfl

theorem fsmStoppedStart_state {ok : Bool} (hStopped : w.ch.state = .stopped)
    (h : w.fsmStoppedStart r = .ok (w', ok)) : w'.ch.state = .stopped ∨ w'.ch.state = .active := by
  rw [fsmStoppedStart] at h
  split at h
  · cases h
  · rename_i w₁ hStart
    cases h
    left
    rw [start] at hStart
    split at hStart
    · cases hStart
    · rename_i sObjs _
      have hBundle : (w.ch.startBundle sObjs).state = w.ch.state := by
        rw [MmChannel.startBundle]
        split <;> rfl
      split at hStart
      · cases hStart
      · cases hStart
      · rename_i hStreams
        split at hStart
        · cases hStart
        · rename_i hUndone
          cases hStart
          rw [startErrorHandling_state hUndone, startStreams_state hStreams]
          exact hBundle.trans hStopped
  · cases h
    exact .inr rfl

end ChannelWorld

/-- The state machine has a case for the event in this state. -/
def ChannelState.carries : ChannelState → ChannelEvt → Bool
  | .stopped, .stop => false
  | .stopped, _ => true
  | .active, .stop => true
  | .active, .mapStreamBuf payload | .active, .unmapStreamBuf payload =>
    payload.bufType = .offlineInputBuf ∨ payload.bufType = .offlineMetaBuf
  | _, _ => false

namespace CameraTable

variable {w w' : CameraTable} {i : Fin channelMax} {r : OpResults} {evt : ChannelEvt}

/-- The handle stands for a channel that carries the event out. -/
def Carries (w : CameraTable) (chId : Nat) (evt : ChannelEvt) : Prop :=
  ∃ i, w.utilGetChannelByHandler chId = some i ∧ (w.ch i).channel.state.carries evt = true

/-- The handle stands for a channel in this state. -/
def InState (w : CameraTable) (chId : Nat) (state : ChannelState) : Prop :=
  ∃ i, w.utilGetChannelByHandler chId = some i ∧ (w.ch i).channel.state = state

/-- No channel carries the operation out; the start of an active channel and the stop of a stopped
one are set apart. -/
def Refused (w : CameraTable) : ChannelOp → Prop
  | .addChannel _ => w.freeSlot = none
  | .delChannel chId => ¬ w.Carries chId .delete
  | .startChannel chId => ¬ w.Carries chId .start ∧ ¬ w.InState chId .active
  | .stopChannel chId => ¬ w.Carries chId .stop ∧ ¬ w.InState chId .stopped
  | .addStream chId => ¬ w.Carries chId .addStream
  | .linkStream chId streamId linkedChId =>
    ¬ ∃ owner, w.utilGetChannelByHandler chId = some owner ∧
      w.Carries linkedChId (.linkStream owner streamId)
  | .configStream chId streamId config => ¬ w.Carries chId (.configStream streamId config)
  | .delStream chId streamId => ¬ w.Carries chId (.delStream streamId)
  | .mapStreamBuf chId payload => ¬ w.Carries chId (.mapStreamBuf payload)
  | .unmapStreamBuf chId payload => ¬ w.Carries chId (.unmapStreamBuf payload)

/-- No stop with an unknown handle, no event without a case for an active channel, and no deletion
of a slot to which something was written. -/
def Reported (w : CameraTable) : ChannelOp → Prop
  | .delChannel chId =>
    ¬ w.InState chId .active ∧
      ∀ i, w.utilGetChannelByHandler chId = some i → (w.ch i).memset = w.ch i
  | .stopChannel chId => w.utilGetChannelByHandler chId ≠ none
  | .configStream chId _ _ | .delStream chId _ | .mapStreamBuf chId _ | .unmapStreamBuf chId _ =>
    ¬ w.InState chId .active
  | _ => True

/-- Between two operations no lock is held, and no channel is ever paused. -/
structure Sound (w : CameraTable) : Prop where
  camLock : w.camLock = false
  chLock : ∀ i, (w.ch i).chLock = false
  state : ∀ i, (w.ch i).channel.state ≠ .paused

/-- The locks stay, and no channel gets paused. -/
structure Frame (w w' : CameraTable) : Prop where
  camLock : w'.camLock = w.camLock
  chLock : ∀ i, (w'.ch i).chLock = (w.ch i).chLock
  state : ∀ i, (w.ch i).channel.state ≠ .paused → (w'.ch i).channel.state ≠ .paused

theorem Frame.refl (w : CameraTable) : Frame w w := ⟨rfl, fun _ => rfl, fun _ h => h⟩

theorem Frame.trans {w'' : CameraTable} (h : Frame w w') (h' : Frame w' w'') : Frame w w'' where
  camLock := h'.camLock.trans h.camLock
  chLock i := (h'.chLock i).trans (h.chLock i)
  state i hNot := h'.state i (h.state i hNot)

theorem setSlot_frame {s : TableSlot} (hLock : s.chLock = (w.ch i).chLock)
    (hState : (w.ch i).channel.state ≠ .paused → s.channel.state ≠ .paused) :
    Frame w (w.setSlot i s) where
  camLock := rfl
  chLock j := by
    rcases eq_or_ne j i with rfl | hNe
    · rw [setSlot_same, hLock]
    · rw [w.setSlot_of_ne hNe]
  state j hNot := by
    rcases eq_or_ne j i with rfl | hNe
    · rw [setSlot_same]
      exact hState hNot
    · rw [w.setSlot_of_ne hNe]
      exact hNot

theorem setStream_frame (w : CameraTable) (i : Fin channelMax) (k : Nat) (s : MmStream) :
    Frame w (w.setStream i k s) := setSlot_frame rfl fun hNot => hNot

theorem update_frame {cw : ChannelWorld} (hState : cw.ch.state ≠ .paused) :
    Frame w (w.update i cw) where
  camLock := rfl
  chLock j := by
    simp only [update]
    split
    · rename_i hEq
      rw [hEq]
    · rfl
  state j hNot := by
    simp only [update]
    split
    · exact hState
    · exact hNot

theorem channelAddStream_frame (w : CameraTable) (i : Fin channelMax) (r : OpResults) :
    Frame w (w.channelAddStream i r).1 := by
  rw [channelAddStream]
  split
  · exact .refl w
  · simp only
    have hCount : Frame w { w with historyCount := Jpeg.nextHistoryCount w.historyCount } :=
      ⟨rfl, fun _ => rfl, fun _ hNot => hNot⟩
    split
    · exact hCount.trans (setStream_frame _ i _ _)
    · exact hCount.trans (setStream_frame _ i _ _)

theorem channelLinkStream_frame (w : CameraTable) (i owner : Fin channelMax) (streamId : Nat) :
    Frame w (w.channelLinkStream i owner streamId).1 := by
  rw [channelLinkStream]
  split
  · exact .refl w
  · split
    · exact w.setStream_frame i _ _
    · exact .refl w

theorem channelDelStream_frame {streamId : Nat} {rc : Int}
    (h : w.channelDelStream i streamId = some (w', rc)) : Frame w w' := by
  rw [channelDelStream] at h
  simp only at h
  split at h
  · cases h
    exact .refl w
  · split at h
    · cases h
      exact .refl w
    · split at h
      · cases h
        exact w.setStream_frame i _ _
      · split at h
        · cases h
        · cases h
          exact (w.setStream_frame _ _ _).trans (setStream_frame _ i _ _)

theorem channelConfigStream_frame (w : CameraTable) (i : Fin channelMax) (streamId : Nat)
    (config : StreamConfig) (r : OpResults) :
    Frame w (w.channelConfigStream i streamId config r).1 := by
  rw [channelConfigStream]
  simp only
  split
  · exact .refl w
  · split
    · exact .refl w
    · split
      · exact w.setStream_frame i _ _
      · exact .refl w

theorem channelFsmFnStopped_frame {out : Int × Nat} (hStopped : (w.ch i).channel.state = .stopped)
    (h : w.channelFsmFnStopped i r evt = some (w', out)) : Frame w w' := by
  cases evt with
  | addStream =>
    cases h
    exact w.channelAddStream_frame i r
  | linkStream owner streamId =>
    cases h
    exact w.channelLinkStream_frame i owner streamId
  | delStream streamId =>
    obtain ⟨deleted, hDeleted, hEq⟩ := Option.map_eq_some_iff.mp h
    cases hEq
    exact channelDelStream_frame hDeleted
  | configStream streamId config =>
    cases h
    exact w.channelConfigStream_frame i streamId config r
  | start =>
    rw [channelFsmFnStopped] at h
    split at h
    · cases h
    · rename_i started hStart
      cases h
      refine update_frame ?_
      rcases ChannelWorld.fsmStoppedStart_state hStopped hStart with hState | hState
      · rw [hState]
        decide
      · rw [hState]
        decide
  | delete =>
    cases h
    exact setSlot_frame rfl fun _ => nofun
  | stop | mapStreamBuf | unmapStreamBuf =>
    cases h
    exact .refl w

theorem channelFsmFnActive_frame {out : Int × Nat}
    (h : w.channelFsmFnActive i r evt = some (w', out)) : Frame w w' := by
  cases evt with
  | stop =>
    rw [channelFsmFnActive] at h
    split at h
    · cases h
    · cases h
      exact update_frame nofun
  | addStream | linkStream | delStream | configStream | start | delete | mapStreamBuf
  | unmapStreamBuf =>
    cases h
    exact .refl w

theorem channelFsm_frame {out : Int × Nat} (h : w.channelFsm i evt r = some (w', out)) :
    Frame w w' := by
  rw [channelFsm] at h
  split at h
  · cases h
    exact .refl w
  · rename_i hStopped
    exact channelFsmFnStopped_frame hStopped h
  · exact channelFsmFnActive_frame h
  · cases h
    exact .refl w

theorem relock_channel (w : CameraTable) (i j : Fin channelMax) (held : Bool) :
    ((w.setSlot i { w.ch i with chLock := held }).ch j).channel = (w.ch j).channel := by
  rcases eq_or_ne j i with rfl | hNe
  · rw [setSlot_same]
  · rw [w.setSlot_of_ne hNe]

theorem handOver_channel (w : CameraTable) (i j : Fin channelMax) :
    ((w.handOver i).ch j).channel = (w.ch j).channel := w.relock_channel i j true

/-- Only `cam_lock` may be held. -/
structure Entered (w : CameraTable) : Prop where
  chLock : ∀ i, (w.ch i).chLock = false
  state : ∀ i, (w.ch i).channel.state ≠ .paused

theorem Entered.leave (h : w.Entered) :
    { w with camLock := false }.Sound := ⟨rfl, h.chLock, h.state⟩

theorem Entered.channelFsmFn {out : Int × Nat} (h : w.Entered)
    (hStep : w.channelFsmFn i evt r = some (w', out)) : w'.Sound := by
  rw [CameraTable.channelFsmFn] at hStep
  split at hStep
  · cases hStep
  · obtain ⟨⟨w₁, out₁⟩, hFsm, hEq⟩ := Option.map_eq_some_iff.mp hStep
    cases hEq
    have hFrame := channelFsm_frame hFsm
    refine ⟨hFrame.camLock, fun j => ?_, fun j => ?_⟩
    · rcases eq_or_ne j i with rfl | hNe
      · exact congrArg TableSlot.chLock (w₁.setSlot_same j _)
      · rw [unlockChannel, w₁.setSlot_of_ne hNe, hFrame.chLock]
        exact (congrArg TableSlot.chLock (w.setSlot_of_ne hNe _)).trans (h.chLock j)
    · rw [unlockChannel, relock_channel]
      refine hFrame.state j ?_
      rw [handOver_channel]
      exact h.state j

theorem Entered.addChannel (h : w.Entered) (p : ChannelParams) (r : OpResults) :
    (w.addChannel p r).1.Sound := by
  rw [CameraTable.addChannel]
  split
  · exact h.leave
  · rename_i i _
    simp only
    have hFrame : Frame w (w.setSlot i { (w.ch i).memset with
        channel := { (ChannelSlot.init (utilGenerateHandler (Jpeg.nextHistoryCount w.historyCount) i)
          p).channel with streams := MmChannel.zeroed.streams }
        pollThread := r.pollThread }) := setSlot_frame (h.chLock i).symm fun _ => nofun
    exact ⟨rfl, fun j => (hFrame.chLock j).trans (h.chLock j), fun j => hFrame.state j (h.state j)⟩

theorem Entered.delChannel {chId : Nat} {answer : Answer} (h : w.Entered)
    (hStep : w.delChannel chId r = some (w', answer)) : w'.Sound := by
  rw [CameraTable.delChannel] at hStep
  split at hStep
  · cases hStep
    exact h.leave
  · rename_i i _
    obtain ⟨⟨w₁, out⟩, hFsm, hEq⟩ := Option.map_eq_some_iff.mp hStep
    cases hEq
    have hSound := h.channelFsmFn hFsm
    have hFrame : Frame w₁ (w₁.setSlot i (w₁.ch i).memset) :=
      setSlot_frame (hSound.chLock i).symm fun _ => nofun
    exact ⟨hFrame.camLock.trans hSound.camLock, fun j => (hFrame.chLock j).trans (hSound.chLock j),
      fun j => hFrame.state j (hSound.state j)⟩

theorem Entered.statusOp {chId : Nat} {rc : Int} {answer : Answer} (h : w.Entered)
    (hStep : w.statusOp chId rc evt r = some (w', answer)) : w'.Sound := by
  rw [CameraTable.statusOp] at hStep
  split at hStep
  · cases hStep
    exact h.leave
  · obtain ⟨done, hFsm, hEq⟩ := Option.map_eq_some_iff.mp hStep
    cases hEq
    exact h.channelFsmFn hFsm

theorem Entered.run {op : ChannelOp} {answer : Answer} (h : w.Entered)
    (hStep : w.run r op = some (w', answer)) : w'.Sound := by
  cases op with
  | addChannel p =>
    have hDone : w.addChannel p r = (w', answer) := Option.some.inj hStep
    have hSound := h.addChannel p r
    rw [hDone] at hSound
    exact hSound
  | delChannel chId => exact h.delChannel hStep
  | startChannel | stopChannel | configStream | delStream | mapStreamBuf | unmapStreamBuf =>
    exact h.statusOp hStep
  | addStream chId =>
    rw [CameraTable.run, addStream] at hStep
    split at hStep
    · cases hStep
      exact h.leave
    · obtain ⟨done, hFsm, hEq⟩ := Option.map_eq_some_iff.mp hStep
      cases hEq
      exact h.channelFsmFn hFsm
  | linkStream chId streamId linkedChId =>
    rw [CameraTable.run, linkStream] at hStep
    split at hStep
    · obtain ⟨done, hFsm, hEq⟩ := Option.map_eq_some_iff.mp hStep
      cases hEq
      exact h.channelFsmFn hFsm
    · cases hStep
      exact h.leave

theorem Sound.entered (h : w.Sound) : { w with camLock := true }.Entered := ⟨h.chLock, h.state⟩

theorem Sound.step {input : Input} {answers : List Answer} (h : w.Sound)
    (hStep : w.step input = some (w', answers)) : w'.Sound := by
  cases input with
  | op op r =>
    obtain ⟨done, hCall, hEq⟩ := Option.map_eq_some_iff.mp hStep
    cases hEq
    rw [call] at hCall
    split at hCall
    · cases hCall
    · exact h.entered.run hCall
  | threads i c =>
    rw [CameraTable.step] at hStep
    split at hStep
    · cases hStep
      have hFrame : Frame w (w.setChannel i { c with
        state := .active, myHdl := (w.ch i).channel.myHdl }) := setSlot_frame rfl fun _ => nofun
      exact ⟨hFrame.camLock.trans h.camLock, fun j => (hFrame.chLock j).trans (h.chLock j),
        fun j => hFrame.state j (h.state j)⟩
    · cases hStep

theorem sound_of_run {inputs : List Input} {answers : List Answer}
    (run : Lib.Steps Next Lib.anyStep {} inputs answers w) : w.Sound :=
  run.invariant (I := Sound)
    ⟨rfl, fun _ => rfl, fun _ (hPaused : ChannelState.notused = .paused) => by cases hPaused⟩
    fun _ _ _ _ _ _ _ hSound hNext => hSound.step hNext

/-- What the state machine answers to an event that it does not carry out. -/
def refusal : ChannelState → Int
  | .notused => -1
  | _ => 0

theorem channelFsm_refused (hNot : (w.ch i).channel.state.carries evt = false) (r : OpResults) :
    w.channelFsm i evt r = some (w, refusal (w.ch i).channel.state, 0) := by
  rw [channelFsm]
  cases hState : (w.ch i).channel.state with
  | notused | paused => rfl
  | stopped =>
    rw [hState] at hNot
    cases evt with
    | stop => rfl
    | _ => cases hNot
  | active =>
    rw [hState] at hNot
    cases evt with
    | stop => cases hNot
    | mapStreamBuf payload | unmapStreamBuf payload =>
      have hType := of_decide_eq_false hNot
      simp only [channelFsmFnActive, activeMap]
      split
      · rename_i hOffline
        exact absurd (.inl hOffline) hType
      · rename_i hOffline
        exact absurd (.inr hOffline) hType
      · rfl
    | addStream | linkStream | delStream | configStream | start | delete => rfl

theorem Entered.channelFsmFn_refused (h : w.Entered)
    (hNot : (w.ch i).channel.state.carries evt = false) (r : OpResults) :
    w.channelFsmFn i evt r =
      some ({ w with camLock := false }, refusal (w.ch i).channel.state, 0) := by
  have hChannel := w.handOver_channel i i
  have hFsm : (w.handOver i).channelFsm i evt r =
      some (w.handOver i, refusal (w.ch i).channel.state, 0) := by
    rw [← hChannel] at hNot ⊢
    exact channelFsm_refused hNot r
  have hBack : (w.handOver i).unlockChannel i = { w with camLock := false } := by
    have hSlot : { (w.handOver i).ch i with chLock := false } = w.ch i := by
      have hLocked : (w.handOver i).ch i = { w.ch i with chLock := true } := w.setSlot_same i _
      rw [hLocked, ← h.chLock i]
    have hSlots : Function.update (w.handOver i).ch i (w.ch i) = w.ch :=
      (Function.update_idem ..).trans (Function.update_eq_self i w.ch)
    rw [unlockChannel, hSlot, setSlot, hSlots]
    rfl
  rw [CameraTable.channelFsmFn, if_neg (by rw [h.chLock i]; exact Bool.false_ne_true), hFsm,
    Option.map_some, hBack]

/-- The status of a refused operation, `rc` for an unknown handle. -/
def refusedRc (w : CameraTable) (chId : Nat) (rc : Int) : Int :=
  (w.utilGetChannelByHandler chId).elim rc fun i => refusal (w.ch i).channel.state

theorem Entered.statusOp_refused {chId : Nat} (h : w.Entered) (hNot : ¬ w.Carries chId evt)
    (rc : Int) (r : OpResults) :
    w.statusOp chId rc evt r = some ({ w with camLock := false }, .status (w.refusedRc chId rc)) := by
  rw [CameraTable.statusOp, refusedRc]
  cases hFound : w.utilGetChannelByHandler chId with
  | none => rfl
  | some i =>
    have hCarries := Bool.eq_false_iff.mpr fun hCarries => hNot ⟨i, hFound, hCarries⟩
    simp only [h.channelFsmFn_refused hCarries r, Option.map_some, Option.elim_some]

theorem Sound.refusedRc_neg (h : w.Sound) (chId : Nat) (rc : Int) :
    w.refusedRc chId rc < 0 ↔ (w.utilGetChannelByHandler chId = none → rc < 0) ∧
      ¬ w.InState chId .active ∧ ¬ w.InState chId .stopped := by
  rw [refusedRc]
  cases hFound : w.utilGetChannelByHandler chId with
  | none =>
    refine ⟨fun hNeg => ⟨fun _ => hNeg, ?_, ?_⟩, fun hAll => hAll.1 rfl⟩
    · rintro ⟨i, hOther, -⟩
      cases hFound.symm.trans hOther
    · rintro ⟨i, hOther, -⟩
      cases hFound.symm.trans hOther
  | some i =>
    rw [Option.elim_some]
    constructor
    · intro hNeg
      refine ⟨nofun, ?_, ?_⟩
      · rintro ⟨j, hOther, hState⟩
        cases hFound.symm.trans hOther
        rw [hState] at hNeg
        exact absurd hNeg (lt_irrefl 0)
      · rintro ⟨j, hOther, hState⟩
        cases hFound.symm.trans hOther
        rw [hState] at hNeg
        exact absurd hNeg (lt_irrefl 0)
    · rintro ⟨-, hActive, hStopped⟩
      cases hState : (w.ch i).channel.state with
      | notused => exact Int.negSucc_lt_zero 0
      | stopped => exact absurd ⟨i, hFound, hState⟩ hStopped
      | active => exact absurd ⟨i, hFound, hState⟩ hActive
      | paused => exact absurd hState (h.state i)

theorem not_stopped_of_not_carries {chId : Nat} (hStop : evt ≠ .stop)
    (hNot : ¬ w.Carries chId evt) : ¬ w.InState chId .stopped := by
  rintro ⟨i, hFound, hState⟩
  refine hNot ⟨i, hFound, ?_⟩
  rw [hState]
  cases evt with
  | stop => exact absurd rfl hStop
  | addStream | linkStream | delStream | configStream | start | delete | mapStreamBuf
  | unmapStreamBuf => rfl

theorem Sound.unlocked (h : w.Sound) : { w with camLock := false } = w := by
  rw [← h.camLock]

theorem Sound.step_of_run {op : ChannelOp} {answer : Answer} (h : w.Sound)
    (hRun : { w with camLock := true }.run r op = some (w', answer)) :
    w.step (.op op r) = some (w', [answer]) := by
  rw [CameraTable.step, call, if_neg (by rw [h.camLock]; exact Bool.false_ne_true), hRun]
  rfl

theorem Sound.status_refused {chId : Nat} {rc : Int} (h : w.Sound) (op : ChannelOp)
    (hOp : { w with camLock := true }.run r op = { w with camLock := true }.statusOp chId rc evt r)
    (hNot : ¬ w.Carries chId evt) :
    w.step (.op op r) = some (w, [.status (w.refusedRc chId rc)]) := by
  refine h.step_of_run ?_
  rw [hOp, h.entered.statusOp_refused hNot rc r]
  exact congrArg (fun w' => some (w', Answer.status (w.refusedRc chId rc))) h.unlocked

theorem Sound.status_reported {chId : Nat} (h : w.Sound) (op : ChannelOp) (hStop : evt ≠ .stop)
    (hOp : { w with camLock := true }.run r op =
      { w with camLock := true }.statusOp chId (-1) evt r)
    (hNot : ¬ w.Carries chId evt) :
    ∃ w' answer, w.step (.op op r) = some (w', [answer]) ∧
      (answer.Failure ∧ w' = w ↔ ¬ w.InState chId .active) := by
  refine ⟨w, _, h.status_refused op hOp hNot, ?_⟩
  rw [Answer.Failure, h.refusedRc_neg]
  constructor
  · rintro ⟨⟨-, hActive, -⟩, -⟩
    exact hActive
  · exact fun hActive =>
      ⟨⟨fun _ => Int.negSucc_lt_zero 0, hActive, not_stopped_of_not_carries hStop hNot⟩, rfl⟩

theorem Entered.delChannel_refused {chId : Nat} (h : w.Entered)
    (hFound : w.utilGetChannelByHandler chId = some i) (hNot : ¬ w.Carries chId .delete)
    (r : OpResults) : w.delChannel chId r =
      some ({ w with camLock := false }.setSlot i (w.ch i).memset,
        .status (refusal (w.ch i).channel.state)) := by
  have hCarries := Bool.eq_false_iff.mpr fun hCarries => hNot ⟨i, hFound, hCarries⟩
  rw [CameraTable.delChannel, hFound]
  simp only [h.channelFsmFn_refused hCarries r, Option.map_some]

theorem Sound.delChannel_reported {chId : Nat} (h : w.Sound) (hNot : ¬ w.Carries chId .delete)
    (r : OpResults) :
    ∃ w' answer, w.step (.op (.delChannel chId) r) = some (w', [answer]) ∧
      (answer.Failure ∧ w' = w ↔ w.Reported (.delChannel chId)) := by
  have hRc := h.refusedRc_neg chId (-1)
  have hStopped := not_stopped_of_not_carries ChannelEvt.noConfusion hNot
  rw [refusedRc] at hRc
  cases hFound : w.utilGetChannelByHandler chId with
  | none =>
    have hFound' : ({ w with camLock := true } : CameraTable).utilGetChannelByHandler chId = none :=
      hFound
    have hRun : { w with camLock := true }.run r (.delChannel chId) = some (w, .status (-1)) := by
      rw [run, delChannel, hFound']
      exact congrArg (fun w' => some (w', Answer.status (-1))) h.unlocked
    refine ⟨w, _, h.step_of_run hRun, iff_of_true ⟨Int.negSucc_lt_zero 0, rfl⟩ ⟨?_, ?_⟩⟩
    · rintro ⟨i, hOther, -⟩
      cases hFound.symm.trans hOther
    · intro i hOther
      cases hFound.symm.trans hOther
  | some i =>
    have hRun := h.entered.delChannel_refused hFound hNot r
    refine ⟨_, _, h.step_of_run hRun, ?_⟩
    rw [hFound, Option.elim_some] at hRc
    rw [Answer.Failure, Reported]
    have hSlots : ({ w with camLock := false }.setSlot i (w.ch i).memset = w) ↔
        (w.ch i).memset = w.ch i := by
      rw [h.unlocked]
      constructor
      · intro hSame
        have hSlot := congrArg (fun w : CameraTable => w.ch i) hSame
        exact (w.setSlot_same i _).symm.trans hSlot
      · intro hZero
        rw [hZero, setSlot, Function.update_eq_self]
    constructor
    · rintro ⟨hNeg, hSame⟩
      refine ⟨(hRc.mp hNeg).2.1, fun j hOther => ?_⟩
      cases hFound.symm.trans hOther
      exact hSlots.mp hSame
    · rintro ⟨hActive, hZero⟩
      exact ⟨hRc.mpr ⟨nofun, hActive, hStopped⟩, hSlots.mpr (hZero i hFound)⟩

theorem Entered.addStream_refused {chId : Nat} (h : w.Entered) (hNot : ¬ w.Carries chId .addStream)
    (r : OpResults) : w.addStream chId r = some ({ w with camLock := false }, .handle 0) := by
  rw [CameraTable.addStream]
  cases hFound : w.utilGetChannelByHandler chId with
  | none => rfl
  | some i =>
    have hCarries := Bool.eq_false_iff.mpr fun hCarries => hNot ⟨i, hFound, hCarries⟩
    simp only [h.channelFsmFn_refused hCarries r, Option.map_some]

theorem Entered.linkStream_refused {chId streamId linkedChId : Nat} (h : w.Entered)
    (hNot : w.Refused (.linkStream chId streamId linkedChId)) (r : OpResults) :
    w.linkStream chId streamId linkedChId r = some ({ w with camLock := false }, .handle 0) := by
  rw [CameraTable.linkStream]
  split
  · rename_i i owner hFound hOwner
    have hCarries := Bool.eq_false_iff.mpr fun hCarries =>
      hNot ⟨owner, hOwner, i, hFound, hCarries⟩
    simp only [h.channelFsmFn_refused hCarries r, Option.map_some]
  · rfl

/-- In every state that a run reaches, a refused operation is answered with a failure and changes
nothing exactly under the condition `Reported`. -/
theorem refused_reported_iff {inputs : List Input} {answers : List Answer}
    (run : Lib.Steps Next Lib.anyStep {} inputs answers w) (op : ChannelOp)
    (hRefused : w.Refused op) (r : OpResults) :
    ∃ w' answer, w.step (.op op r) = some (w', [answer]) ∧
      (answer.Failure ∧ w' = w ↔ w.Reported op) := by
  have h := sound_of_run run
  cases op with
  | addChannel p =>
    have hFree : ({ w with camLock := true } : CameraTable).freeSlot = none := hRefused
    have hRun : { w with camLock := true }.run r (.addChannel p) = some (w, .handle 0) := by
      rw [CameraTable.run, addChannel, hFree]
      exact congrArg (fun w' => some (w', Answer.handle 0)) h.unlocked
    exact ⟨w, _, h.step_of_run hRun, iff_of_true ⟨rfl, rfl⟩ trivial⟩
  | delChannel chId => exact h.delChannel_reported hRefused r
  | startChannel chId =>
    obtain ⟨w', answer, hStep, hIff⟩ :=
      h.status_reported (.startChannel chId) ChannelEvt.noConfusion rfl hRefused.1
    exact ⟨w', answer, hStep, hIff.trans (iff_of_true hRefused.2 trivial)⟩
  | stopChannel chId =>
    refine ⟨w, _, h.status_refused (.stopChannel chId) rfl hRefused.1, ?_⟩
    rw [Answer.Failure, h.refusedRc_neg, Reported]
    constructor
    · rintro ⟨⟨hFound, -⟩, -⟩ hNone
      exact lt_irrefl 0 (hFound hNone)
    · intro hFound
      refine ⟨⟨fun hNone => absurd hNone hFound, ?_, hRefused.2⟩, rfl⟩
      rintro ⟨i, hSlot, hActive⟩
      exact hRefused.1 ⟨i, hSlot, by rw [hActive]; rfl⟩
  | addStream chId =>
    have hRun : { w with camLock := true }.run r (.addStream chId) = some (w, .handle 0) :=
      (h.entered.addStream_refused hRefused r).trans
        (congrArg (fun w' => some (w', Answer.handle 0)) h.unlocked)
    exact ⟨w, _, h.step_of_run hRun, iff_of_true ⟨rfl, rfl⟩ trivial⟩
  | linkStream chId streamId linkedChId =>
    have hRun : { w with camLock := true }.run r (.linkStream chId streamId linkedChId) =
        some (w, .handle 0) :=
      (h.entered.linkStream_refused hRefused r).trans
        (congrArg (fun w' => some (w', Answer.handle 0)) h.unlocked)
    exact ⟨w, _, h.step_of_run hRun, iff_of_true ⟨rfl, rfl⟩ trivial⟩
  | configStream chId streamId config =>
    exact h.status_reported (.configStream chId streamId config) ChannelEvt.noConfusion rfl
      hRefused
  | delStream chId streamId =>
    exact h.status_reported (.delStream chId streamId) ChannelEvt.noConfusion rfl hRefused
  | mapStreamBuf chId payload =>
    exact h.status_reported (.mapStreamBuf chId payload) ChannelEvt.noConfusion rfl hRefused
  | unmapStreamBuf chId payload =>
    exact h.status_reported (.unmapStreamBuf chId payload) ChannelEvt.noConfusion rfl hRefused

/-- Everything that the outside is asked for goes well, with one buffer for a stream. -/
def accepting : OpResults where
  channel :=
    let r : StreamResults := ⟨some [true], true, true, fun _ => .queued, true⟩
    ⟨fun _ => r, fun _ => r, fun _ => true⟩

/-- A channel with a configured stream is started. -/
def activeChannel : List Input :=
  [.op (.addChannel {}) accepting, .op (.addStream 256) accepting,
    .op (.configStream 256 512 { streamInfo := { streamType := .preview } }) accepting,
    .op (.startChannel 256) accepting]

theorem activeChannel_run : ∃ answers w, Lib.Steps Next Lib.anyStep {} activeChannel answers w ∧
    w.utilGetChannelByHandler 256 = some 0 ∧ (w.ch 0).channel.state = .active := by
  have hRun : (Lib.exec (fun _ _ => step) [] [] {} activeChannel).map (fun r =>
      (r.1.utilGetChannelByHandler 256, (r.1.ch 0).channel.state)) = some (some 0, .active) := by
    decide +kernel
  obtain ⟨r, hExec, hEq⟩ := Option.map_eq_some_iff.mp hRun
  obtain ⟨hFound, hState⟩ := Prod.mk.inj hEq
  exact ⟨r.2, r.1, Lib.Steps.of_exec Next Lib.anyStep (fun _ _ _ _ _ _ _ h => ⟨h, trivial⟩) hExec,
    hFound, hState⟩

theorem not_carries_of_active {chId : Nat} (hFound : w.utilGetChannelByHandler chId = some i)
    (hActive : (w.ch i).channel.state = .active)
    (hNot : ChannelState.carries .active evt = false) : ¬ w.Carries chId evt := by
  rintro ⟨j, hOther, hCarries⟩
  cases hFound.symm.trans hOther
  rw [hActive, hNot] at hCarries
  cases hCarries

/-- No stream is added to an active channel, and the caller gets no handle. -/
theorem refused_reported_iff_addStream : ∃ answers w w' answer,
    Lib.Steps Next Lib.anyStep {} activeChannel answers w ∧
      w.step (.op (.addStream 256) accepting) = some (w', [answer]) ∧ answer.Failure ∧ w' = w := by
  obtain ⟨answers, w, run, hFound, hActive⟩ := activeChannel_run
  obtain ⟨w', answer, hStep, hIff⟩ := refused_reported_iff run (.addStream 256)
    (not_carries_of_active hFound hActive rfl) accepting
  exact ⟨answers, w, w', answer, run, hStep, hIff.mpr trivial⟩

/-- The deletion of an active channel is answered with success, and the channel is lost. -/
theorem delChannel_wipes_active : ∃ answers w w',
    Lib.Steps Next Lib.anyStep {} activeChannel answers w ∧ w.Refused (.delChannel 256) ∧
      w.step (.op (.delChannel 256) accepting) = some (w', [.status 0]) ∧
      (w.utilGetChannelByHandler 256).isSome = true ∧ w'.utilGetChannelByHandler 256 = none := by
  have hRun : (Lib.exec (fun _ _ => step) [] [] {} activeChannel).map (fun r =>
      (r.1.utilGetChannelByHandler 256, (r.1.ch 0).channel.state,
        (r.1.step (.op (.delChannel 256) accepting)).map fun done =>
          (done.2, done.1.utilGetChannelByHandler 256))) =
      some (some 0, .active, some ([.status 0], none)) := by
    decide +kernel
  obtain ⟨r, hExec, hEq⟩ := Option.map_eq_some_iff.mp hRun
  obtain ⟨hFound, hActive, hDeleted⟩ : _ ∧ _ ∧ _ := by simpa only [Prod.mk.injEq] using hEq
  obtain ⟨done, hStep, hEnd⟩ := Option.map_eq_some_iff.mp hDeleted
  obtain ⟨hAnswer, hLost⟩ := Prod.mk.inj hEnd
  have run := Lib.Steps.of_exec Next Lib.anyStep
    (fun _ _ _ _ _ _ _ (h : step _ _ = _) => ⟨h, trivial⟩) hExec
  refine ⟨r.2, r.1, done.1, run, not_carries_of_active hFound hActive rfl, ?_, ?_, hLost⟩
  · rw [hStep, ← hAnswer]
  · rw [hFound]
    rfl

end CameraTable

end KiwiDevice.Camera

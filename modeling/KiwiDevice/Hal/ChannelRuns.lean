import KiwiDevice.Hal.Channels

/-!
# The channels in a run of the state machine
-/

namespace KiwiDevice.Hal

variable {σ ρ : Type}

/-- What the operations without a use for the channels keep. -/
structure Parent.KeepsPlain (h : Parent σ ρ) (Q : σ → Prop) : Prop where
  plain : ∀ op p r s, op ≠ .release → Q s → Q (h.plain op p r s).1

/-- What the operations that go with every state keep. -/
structure Parent.KeepsAside (h : Parent σ ρ) (Q : σ → Prop) : Prop extends h.KeepsPlain Q where
  getParameters : ∀ r s, Q s → Q (h.getParameters r s).1
  registerFaceImage : ∀ p r s, Q s → Q (h.registerFaceImage p r s).1
  updateParameters : ∀ p r s, Q s → Q (h.updateParameters p r s).1
  sendCommand : ∀ state cmd r s, Q s → Q (h.sendCommand state cmd r s).1

/-- What every operation but those of a recording and of its snapshots keeps. -/
structure Parent.Keeps (h : Parent σ ρ) (Q : σ → Prop) : Prop extends h.KeepsAside Q where
  release : ∀ p r s, Q s → Q (h.plain .release p r s).1
  clearMemoryPool : ∀ s, Q s → Q (h.clearMemoryPool s)
  preparePreview : ∀ state r s, Q s → Q (h.preparePreview state r s).1
  unpreparePreview : ∀ s, Q s → Q (h.unpreparePreview s)
  startPreview : ∀ r s, Q s → Q (h.startPreview r s).1
  stopPreview : ∀ s, Q s → Q (h.stopPreview s).1
  prepareHardwareForSnapshot : ∀ r s, Q s → Q (h.prepareHardwareForSnapshot r s).1
  takePicture : ∀ r s, Q s → Q (h.takePicture r s).1
  cancelPicture : ∀ s, Q s → Q (h.cancelPicture s).1
  cancelLiveSnapshot : ∀ s, Q s → Q (h.cancelLiveSnapshot s).1
  longShot : ∀ r s, Q s → Q (h.longShot r s).1
  stopChannel : ∀ ch s, Q s → Q (h.stopChannel ch s)
  stopCaptureChannel : ∀ destroy s, Q s → Q (h.stopCaptureChannel destroy s).1
  updateRecordingHintValue : ∀ v r s, Q s → Q (h.updateRecordingHintValue v r s)
  setPreviewStarted : ∀ s, Q s → Q (h.setPreviewStarted s)

namespace Parent

variable {h : Parent σ ρ} {Q : σ → Prop} {r : ρ} {p : SmPayload} {s : σ} {state : SmState}
  {evt : SmEvt}

theorem KeepsPlain.procInternal (hK : h.KeepsPlain Q) (hs : Q s) (faces reset : Bool) :
    Q (h.procInternal r p s state faces reset).hal := by
  rw [Parent.procInternal]
  split <;> try split
  all_goals first | exact hs | exact hK.plain _ _ _ _ (by decide) hs

theorem KeepsPlain.procServerEvt (hK : h.KeepsPlain Q) (hs : Q s) :
    Q (h.procServerEvt r p s state).hal := by
  rw [Parent.procServerEvt]
  split
  · exact hK.plain _ _ _ _ (by decide) hs
  · exact hs

theorem KeepsPlain.procCaptureEvt (hK : h.KeepsPlain Q) (hs : Q s) (shutter : Bool) :
    Q (h.procCaptureEvt r p s state shutter).hal := by
  have hStaged := hK.plain .setMultipleStages p r s (by decide) hs
  rw [Parent.procCaptureEvt]
  split
  · split
    · dsimp only
      split
      · exact hK.plain _ _ _ _ (by decide) hStaged
      · exact hStaged
    · exact hs
  · exact hK.plain _ _ _ _ (by decide) hs
  · exact hs

/-- The restart counts only for parameters that were taken. -/
theorem KeepsAside.setParams (hK : h.KeepsAside Q) (hs : Q s)
    {restart : σ → SmState × σ × Int} (hRestart : ∀ s, Q s → Q (restart s).2.1) :
    Q (h.setParams r p s state evt restart).hal := by
  have hUpdated := hK.updateParameters p r s hs
  rw [Parent.setParams]
  dsimp only [reply]
  split
  · split
    · exact hRestart _ hUpdated
    · exact hK.plain _ _ _ _ (by decide) hUpdated
  · exact hUpdated

theorem Keeps.prepareAndStart (hK : h.Keeps Q) (hs : Q s) :
    Q (h.prepareAndStart r s state).1 := by
  have hPrepared := hK.preparePreview state r s hs
  have hStarted := hK.startPreview r _ hPrepared
  rw [Parent.prepareAndStart]
  dsimp only
  split
  · split
    · exact hStarted
    · exact hK.unpreparePreview _ hStarted
  · exact hPrepared

theorem Keeps.restartPreview (hK : h.Keeps Q) (hs : Q s) :
    Q (h.restartPreview r p state s).1 :=
  hK.prepareAndStart (hK.plain _ _ _ _ (by decide) (hK.clearMemoryPool _ (hK.stopPreview _ hs)))

theorem Keeps.cancelAnyPicture (hK : h.Keeps Q) (hs : Q s) : Q (h.cancelAnyPicture s).1 := by
  rw [Parent.cancelAnyPicture]
  split
  · exact hK.cancelPicture s hs
  · exact hK.cancelLiveSnapshot s hs

theorem Keeps.procEvtPreviewStoppedState (hK : h.Keeps Q) (hs : Q s) :
    Q (h.procEvtPreviewStoppedState r p s evt).hal := by
  cases evt with
  | startPreview =>
    rw [Parent.procEvtPreviewStoppedState]
    split
    · exact hK.prepareAndStart hs
    · exact hK.preparePreview _ _ _ hs
  | startNodisplayPreview => exact hK.prepareAndStart hs
  | setParams =>
    have hUpdated := hK.updateParameters p r s hs
    have hCleared : Q (if (h.updateParameters p r s).2.2 then
        h.clearMemoryPool (h.updateParameters p r s).1 else (h.updateParameters p r s).1) := by
      split
      · exact hK.clearMemoryPool _ hUpdated
      · exact hUpdated
    simp only [Parent.procEvtPreviewStoppedState, reply]
    split
    · exact hK.plain _ _ _ _ (by decide) hCleared
    · exact hCleared
  | getParams => exact hK.getParameters _ _ hs
  | regFaceImage => exact hK.registerFaceImage _ _ _ hs
  | sendCommand => exact hK.sendCommand _ _ _ _ hs
  | evtNotify => exact hK.procServerEvt hs
  | release => exact hK.release _ _ _ hs
  | _ => first | exact hs | exact hK.plain _ _ _ _ (by decide) hs

theorem Keeps.procEvtPreviewReadyState (hK : h.Keeps Q) (hs : Q s) :
    Q (h.procEvtPreviewReadyState r p s evt).hal := by
  cases evt with
  | setPreviewWindow =>
    have hSet := hK.plain .setPreviewWindow p r s (by decide) hs
    have hStarted := hK.startPreview r _ hSet
    simp only [Parent.procEvtPreviewReadyState]
    split
    · split
      · exact hStarted
      · exact hK.unpreparePreview _ hStarted
    · exact hSet
  | setParams =>
    exact hK.setParams hs fun s hs => hK.preparePreview _ _ _
      (hK.plain _ _ _ _ (by decide) (hK.clearMemoryPool _ (hK.unpreparePreview _ hs)))
  | stopPreview => exact hK.unpreparePreview _ hs
  | getParams => exact hK.getParameters _ _ hs
  | regFaceImage => exact hK.registerFaceImage _ _ _ hs
  | sendCommand => exact hK.sendCommand _ _ _ _ hs
  | evtNotify => exact hK.procServerEvt hs
  | _ => first | exact hs | exact hK.plain _ _ _ _ (by decide) hs

theorem Keeps.procEvtPreviewingState (hK : h.Keeps Q) (hs : Q s) (hEvt : evt ≠ .startRecording) :
    Q (h.procEvtPreviewingState r p s evt).hal := by
  cases evt with
  | startRecording => exact absurd rfl hEvt
  | setParams => exact hK.setParams hs fun s hs => hK.restartPreview hs
  | stopPreview => exact hK.stopPreview _ hs
  | prepareSnapshot =>
    have hPrepared := hK.prepareHardwareForSnapshot r s hs
    simp only [Parent.procEvtPreviewingState]
    split <;> exact hPrepared
  | takePicture =>
    have hRestarted : Q (if h.recordingHint s then
        (h.prepareAndStart r (h.updateRecordingHintValue false r (h.stopPreview s).1)
          .previewing).1 else s) := by
      split
      · exact hK.prepareAndStart (hK.updateRecordingHintValue _ _ _ (hK.stopPreview _ hs))
      · exact hs
    generalize hHal : (if h.recordingHint s then
      (h.prepareAndStart r (h.updateRecordingHintValue false r (h.stopPreview s).1)
        .previewing).1 else s) = hal at hRestarted
    simp only [Parent.procEvtPreviewingState, hHal]
    split <;> exact hK.takePicture _ _ hRestarted
  | sendCommand =>
    have hSent := hK.sendCommand .previewing p.cmd r s hs
    simp only [Parent.procEvtPreviewingState, reply]
    split
    · exact hK.prepareAndStart (hK.clearMemoryPool _ (hK.stopPreview _ hSent))
    · exact hSent
  | getParams => exact hK.getParameters _ _ hs
  | regFaceImage => exact hK.registerFaceImage _ _ _ hs
  | evtInternal => exact hK.procInternal hs _ _
  | evtNotify => exact hK.procServerEvt hs
  | _ => first | exact hs | exact hK.plain _ _ _ _ (by decide) hs

theorem Keeps.procEvtPrepareSnapshotState (hK : h.Keeps Q) (hs : Q s) :
    Q (h.procEvtPrepareSnapshotState r p s evt).hal := by
  cases evt with
  | evtInternal =>
    simp only [Parent.procEvtPrepareSnapshotState]
    split
    · exact hK.plain _ _ _ _ (by decide) hs
    · exact hK.procInternal hs _ _
  | evtNotify => exact hK.procServerEvt hs
  | _ => first | exact hs | exact hK.plain _ _ _ _ (by decide) hs

theorem Keeps.procEvtPicTakingState (hK : h.Keeps Q) (hs : Q s) :
    Q (h.procEvtPicTakingState r p s evt).hal := by
  cases evt with
  | setParams => exact hK.setParams hs fun s hs => hK.plain _ _ _ _ (by decide) hs
  | stopPreview | cancelPicture | snapshotDone => exact hK.cancelPicture _ hs
  | takePicture =>
    simp only [Parent.procEvtPicTakingState, reply]
    split
    · exact hK.longShot _ _ hs
    · exact hs
  | stopCaptureChannel =>
    have hStopped := hK.stopCaptureChannel (h.isPreviewRestartEnabled r) s hs
    have hPrepared := hK.preparePreview .picTaking r _ hStopped
    simp only [Parent.procEvtPicTakingState]
    split
    · split
      · exact hK.startPreview _ _ (hK.setPreviewStarted _ hPrepared)
      · exact hPrepared
    · exact hStopped
  | getParams => exact hK.getParameters _ _ hs
  | regFaceImage => exact hK.registerFaceImage _ _ _ hs
  | sendCommand => exact hK.sendCommand _ _ _ _ hs
  | evtInternal => exact hK.procInternal hs _ _
  | evtNotify => exact hK.procCaptureEvt hs _
  | _ => first | exact hs | exact hK.plain _ _ _ _ (by decide) hs

theorem Keeps.procEvtPreviewPicTakingState (hK : h.Keeps Q) (hs : Q s)
    (hEvt : evt ≠ .startRecording) : Q (h.procEvtPreviewPicTakingState r p s evt).hal := by
  cases evt with
  | startRecording => exact absurd rfl hEvt
  | setParams => exact hK.setParams hs fun s hs => hK.restartPreview hs
  | cancelPicture | snapshotDone => exact hK.cancelAnyPicture hs
  | stopPreview =>
    have hCancelled := hK.cancelAnyPicture hs
    refine hK.unpreparePreview _ ?_
    split
    · exact hK.stopChannel _ _ hCancelled
    · split
      · exact hCancelled
      · exact hK.stopChannel _ _ hCancelled
  | takePicture =>
    simp only [Parent.procEvtPreviewPicTakingState, reply]
    split
    · exact hK.longShot _ _ hs
    · exact hs
  | getParams => exact hK.getParameters _ _ hs
  | regFaceImage => exact hK.registerFaceImage _ _ _ hs
  | sendCommand => exact hK.sendCommand _ _ _ _ hs
  | evtInternal => exact hK.procInternal hs _ _
  | evtNotify => exact hK.procCaptureEvt hs _
  | _ => first | exact hs | exact hK.plain _ _ _ _ (by decide) hs

/-- The events that a recording only answers. -/
def endsRecording : SmEvt → Bool
  | .takePicture | .stopRecording | .stopPreview => true
  | _ => false

theorem KeepsAside.procEvtRecordingState (hK : h.KeepsAside Q) (hs : Q s)
    (hEvt : endsRecording evt = false) : Q (h.procEvtRecordingState r p s evt).hal ∧
      (h.procEvtRecordingState r p s evt).state = .recording := by
  cases evt with
  | takePicture | stopRecording | stopPreview => cases hEvt
  | setParams =>
    refine ⟨hK.setParams hs fun _ hs => hs, ?_⟩
    simp only [Parent.procEvtRecordingState, Parent.setParams, reply]
    split <;> try split
    all_goals rfl
  | getParams => exact ⟨hK.getParameters _ _ hs, rfl⟩
  | regFaceImage => exact ⟨hK.registerFaceImage _ _ _ hs, rfl⟩
  | sendCommand => exact ⟨hK.sendCommand _ _ _ _ hs, rfl⟩
  | evtInternal =>
    refine ⟨hK.procInternal hs _ _, ?_⟩
    simp only [Parent.procEvtRecordingState, Parent.procInternal]
    split <;> rfl
  | evtNotify =>
    refine ⟨hK.procServerEvt hs, ?_⟩
    simp only [Parent.procEvtRecordingState, Parent.procServerEvt]
    split <;> rfl
  | _ => first | exact ⟨hs, rfl⟩ | exact ⟨hK.plain _ _ _ _ (by decide) hs, rfl⟩

/-- The events that end a live snapshot. -/
def endsLiveSnapshot : SmEvt → Bool
  | .cancelPicture | .snapshotDone | .stopRecording | .stopPreview => true
  | _ => false

theorem KeepsAside.procEvtVideoPicTakingState (hK : h.KeepsAside Q) (hs : Q s)
    (hEvt : endsLiveSnapshot evt = false) : Q (h.procEvtVideoPicTakingState r p s evt).hal ∧
      (h.procEvtVideoPicTakingState r p s evt).state = .videoPicTaking := by
  cases evt with
  | cancelPicture | snapshotDone | stopRecording | stopPreview => cases hEvt
  | setParams =>
    refine ⟨hK.setParams hs fun _ hs => hs, ?_⟩
    simp only [Parent.procEvtVideoPicTakingState, Parent.setParams, reply]
    split <;> try split
    all_goals rfl
  | getParams => exact ⟨hK.getParameters _ _ hs, rfl⟩
  | regFaceImage => exact ⟨hK.registerFaceImage _ _ _ hs, rfl⟩
  | sendCommand => exact ⟨hK.sendCommand _ _ _ _ hs, rfl⟩
  | evtInternal =>
    refine ⟨hK.procInternal hs _ _, ?_⟩
    simp only [Parent.procEvtVideoPicTakingState, Parent.procInternal]
    split <;> rfl
  | evtNotify =>
    refine ⟨hK.procServerEvt hs, ?_⟩
    simp only [Parent.procEvtVideoPicTakingState, Parent.procServerEvt]
    split <;> rfl
  | _ => first | exact ⟨hs, rfl⟩ | exact ⟨hK.plain _ _ _ _ (by decide) hs, rfl⟩

end Parent

/-- The states in which the HAL records. -/
def SmState.records : SmState → Bool
  | .recording | .videoPicTaking => true
  | _ => false

namespace Parent

variable (h : Parent σ ρ) (r : ρ) (p : SmPayload) (s : σ) {state : SmState} {evt : SmEvt}

theorem records_ite {c : Prop} [Decidable c] {m m' : SmState} (hThen : m.records = false)
    (hElse : m'.records = false) : (if c then m else m').records = false := by
  split
  · exact hThen
  · exact hElse

theorem processed_ite {c : Prop} [Decidable c] {q q' : Processed σ}
    (hThen : q.state.records = false) (hElse : q'.state.records = false) :
    (if c then q else q').state.records = false := by
  split
  · exact hThen
  · exact hElse

theorem setParams_records {restart : σ → SmState × σ × Int} (hState : state.records = false)
    (hRestart : ∀ s, (restart s).1.records = false) :
    (h.setParams r p s state evt restart).state.records = false := by
  simp only [setParams, reply]
  split
  · split
    · exact hRestart _
    · exact hState
  · exact hState

theorem procInternal_state (faces reset : Bool) :
    (h.procInternal r p s state faces reset).state = state := by
  rw [procInternal]
  split <;> try split
  all_goals rfl

theorem procServerEvt_state : (h.procServerEvt r p s state).state = state := by
  rw [procServerEvt]
  split <;> rfl

theorem procCaptureEvt_state (shutter : Bool) :
    (h.procCaptureEvt r p s state shutter).state = state := by
  rw [procCaptureEvt]
  split <;> try split
  all_goals rfl

/-- Nothing but `startRecording` leads into a recording. -/
theorem stateMachine_records (hState : state.records = false) (hEvt : evt ≠ .startRecording) :
    (h.stateMachine r p s state evt).state.records = false := by
  cases state with
  | recording | videoPicTaking => cases hState
  | previewStopped =>
    cases evt with
    | startPreview => exact processed_ite (records_ite rfl rfl) (records_ite rfl rfl)
    | startNodisplayPreview => exact records_ite rfl rfl
    | evtNotify => exact (procServerEvt_state h r p s).symm ▸ rfl
    | _ => rfl
  | previewReady =>
    cases evt with
    | setPreviewWindow =>
      simp only [stateMachine, procEvtPreviewReadyState]
      split <;> try split
      all_goals rfl
    | setParams => exact setParams_records h r p s rfl fun _ => records_ite rfl rfl
    | evtNotify => exact (procServerEvt_state h r p s).symm ▸ rfl
    | _ => rfl
  | previewing =>
    cases evt with
    | startRecording => exact absurd rfl hEvt
    | setParams => exact setParams_records h r p s rfl fun _ => records_ite rfl rfl
    | prepareSnapshot =>
      simp only [stateMachine, procEvtPreviewingState]
      split <;> rfl
    | takePicture => exact processed_ite (records_ite rfl rfl) (records_ite rfl rfl)
    | evtInternal => exact (procInternal_state h r p s true false).symm ▸ rfl
    | evtNotify => exact (procServerEvt_state h r p s).symm ▸ rfl
    | _ => rfl
  | prepareSnapshot =>
    cases evt with
    | evtInternal =>
      simp only [stateMachine, procEvtPrepareSnapshotState]
      split
      · rfl
      · exact (procInternal_state h r p s true false).symm ▸ rfl
    | evtNotify => exact (procServerEvt_state h r p s).symm ▸ rfl
    | _ => rfl
  | picTaking =>
    cases evt with
    | setParams => exact setParams_records h r p s rfl fun _ => rfl
    | sendCommand => exact records_ite rfl rfl
    | snapshotDone => exact records_ite rfl rfl
    | stopCaptureChannel =>
      simp only [stateMachine, procEvtPicTakingState]
      split <;> try split
      all_goals rfl
    | evtInternal => exact (procInternal_state h r p s false false).symm ▸ rfl
    | evtNotify => exact (procCaptureEvt_state h r p s true).symm ▸ rfl
    | _ => rfl
  | previewPicTaking =>
    cases evt with
    | startRecording => exact absurd rfl hEvt
    | setParams => exact setParams_records h r p s rfl fun _ => records_ite rfl rfl
    | sendCommand => exact records_ite rfl rfl
    | evtInternal => exact (procInternal_state h r p s true true).symm ▸ rfl
    | evtNotify => exact (procCaptureEvt_state h r p s _).symm ▸ rfl
    | _ => rfl

variable {h} {r} {p} {s} in
/-- Where the HAL does not record, nothing but `startRecording` can break what is kept. -/
theorem Keeps.stateMachine {Q : σ → Prop} (hK : h.Keeps Q) (hs : Q s)
    (hState : state.records = false) (hEvt : evt ≠ .startRecording) :
    Q (h.stateMachine r p s state evt).hal := by
  cases state with
  | recording | videoPicTaking => cases hState
  | previewStopped => exact hK.procEvtPreviewStoppedState hs
  | previewReady => exact hK.procEvtPreviewReadyState hs
  | previewing => exact hK.procEvtPreviewingState hs hEvt
  | prepareSnapshot => exact hK.procEvtPrepareSnapshotState hs
  | picTaking => exact hK.procEvtPicTakingState hs
  | previewPicTaking => exact hK.procEvtPreviewPicTakingState hs hEvt

end Parent

namespace HardwareInterface

variable {r : HalAnswers} {s s' s'' : HardwareInterface} {ch : ChType}

/-- `m_bIsActive` of a channel that exists. -/
def isActive (s : HardwareInterface) (ch : ChType) : Bool := (s.channels ch).any ChannelObject.active

@[simp] theorem isActive_setChannel (ch' : ChType) (c : Option ChannelObject) :
    (s.setChannel ch c).isActive ch' = if ch' = ch then c.any ChannelObject.active
      else s.isActive ch' := by
  by_cases hEq : ch' = ch
  · subst hEq
    simp [isActive, setChannel]
  · simp [isActive, setChannel, hEq]

@[simp] theorem isActive_commit (site : CommitSite) :
    (s.commit r site).isActive ch = s.isActive ch := rfl

/-- At most the channels of pictures change. -/
structure Aside (s s' : HardwareInterface) : Prop where
  isActive : ∀ ch, ch ≠ .capture → ch ≠ .raw → s'.isActive ch = s.isActive ch
  liveSnapshot : s'.liveSnapshot = s.liveSnapshot

theorem Aside.refl : Aside s s := ⟨fun _ _ _ => rfl, rfl⟩

theorem Aside.trans (h : Aside s s') (h' : Aside s' s'') : Aside s s'' where
  isActive ch hCapture hRaw := (h'.isActive ch hCapture hRaw).trans (h.isActive ch hCapture hRaw)
  liveSnapshot := h'.liveSnapshot.trans h.liveSnapshot

theorem Aside.of_channels (hChannels : s'.channels = s.channels)
    (hLive : s'.liveSnapshot = s.liveSnapshot) : Aside s s' where
  isActive ch _ _ := by rw [HardwareInterface.isActive, hChannels]; rfl
  liveSnapshot := hLive

theorem Aside.commit (site : CommitSite) : Aside s (s.commit r site) := .of_channels rfl rfl

theorem Aside.setChannel {c : Option ChannelObject} (hCh : ch = .capture ∨ ch = .raw) :
    Aside s (s.setChannel ch c) where
  isActive ch' hCapture hRaw := by
    have hNe : ch' ≠ ch := by rintro rfl; exact hCh.elim hCapture hRaw
    rw [isActive_setChannel, if_neg hNe]
  liveSnapshot := rfl

theorem Aside.stopDel (hCh : ch = .capture ∨ ch = .raw) :
    Aside s ((s.stopChannel ch).1.delChannel ch true) := by
  have hStop : Aside s (s.stopChannel ch).1 := by
    rw [stopChannel]
    split
    · exact .refl
    · exact .setChannel hCh
  refine hStop.trans ?_
  rw [delChannel]
  split
  · exact .refl
  · exact .setChannel hCh

theorem Aside.cancelPicture : Aside s s.cancelPicture.1 := by
  have hCommit : Aside s (s.commit s.outside .endOfAdvancedCapture) := .commit _
  rw [HardwareInterface.cancelPicture]
  split
  · exact hCommit.trans (.commit _)
  · split
    · exact hCommit.trans (.stopDel (.inl rfl))
    · exact hCommit.trans (.stopDel (.inr rfl))

theorem Aside.longshotOff (state : SmState) : Aside s (s.longshotOff r state).1 := by
  rw [HardwareInterface.longshotOff]
  dsimp only
  split
  · exact Aside.cancelPicture.trans (.of_channels rfl rfl)
  · exact .of_channels rfl rfl

theorem Aside.sendCommand (state : SmState) (cmd : CameraCmd) :
    Aside s (s.sendCommand r state cmd).1 := by
  cases cmd with
  | longshotOn =>
    rw [HardwareInterface.sendCommand, longshotOn]
    split
    · exact .refl
    · exact .of_channels rfl rfl
  | longshotOff => exact .longshotOff state
  | other => exact .commit _

theorem Aside.plain (op : PlainOp) (p : SmPayload) (hOp : op ≠ .release) :
    Aside s (s.plain r op p).1 := by
  cases op with
  | release => exact absurd rfl hOp
  | _ => exact .of_channels rfl rfl

theorem keepsAside_of {Q : HardwareInterface → Prop} (hQ : ∀ s s', Aside s s' → Q s → Q s') :
    parent.KeepsAside Q where
  plain op p _ _ hOp := hQ _ _ (.plain op p hOp)
  getParameters _ _ := hQ _ _ .refl
  registerFaceImage _ _ _ := hQ _ _ .refl
  updateParameters _ _ _ := hQ _ _ (.of_channels rfl rfl)
  sendCommand state cmd _ _ := hQ _ _ (.sendCommand state cmd)

/-- Neither the recording nor a live snapshot runs. -/
structure Quiet (s : HardwareInterface) : Prop where
  video : s.isActive .video = false
  snapshot : s.isActive .snapshot = false
  liveSnapshot : s.liveSnapshot = none

/-- The recording runs, and no live snapshot. -/
structure Recording (s : HardwareInterface) : Prop where
  video : s.isActive .video = true
  snapshot : s.isActive .snapshot = false
  liveSnapshot : s.liveSnapshot = none

theorem Quiet.aside (h : Aside s s') (hs : Quiet s) : Quiet s' where
  video := (h.isActive .video (by decide) (by decide)).trans hs.video
  snapshot := (h.isActive .snapshot (by decide) (by decide)).trans hs.snapshot
  liveSnapshot := h.liveSnapshot.trans hs.liveSnapshot

theorem Recording.aside (h : Aside s s') (hs : Recording s) : Recording s' where
  video := (h.isActive .video (by decide) (by decide)).trans hs.video
  snapshot := (h.isActive .snapshot (by decide) (by decide)).trans hs.snapshot
  liveSnapshot := h.liveSnapshot.trans hs.liveSnapshot

namespace Quiet

theorem of_channels (hs : Quiet s) (hChannels : s'.channels = s.channels)
    (hLive : s'.liveSnapshot = s.liveSnapshot) : Quiet s' := hs.aside (.of_channels hChannels hLive)

theorem setChannel (hs : Quiet s) {c : Option ChannelObject}
    (hc : ch = .video ∨ ch = .snapshot → c.any ChannelObject.active = false) :
    Quiet (s.setChannel ch c) where
  video := by
    rw [isActive_setChannel]
    split
    · exact hc (.inl (by simp_all))
    · exact hs.video
  snapshot := by
    rw [isActive_setChannel]
    split
    · exact hc (.inr (by simp_all))
    · exact hs.snapshot
  liveSnapshot := hs.liveSnapshot

theorem addChannel (hs : Quiet s) : Quiet (s.addChannel r ch).1 := by
  have hFirst : Quiet (if ch = .zsl then s.setChannel .preview none else s) := by
    split
    · exact hs.setChannel fun _ => rfl
    · exact hs
  rw [HardwareInterface.addChannel]
  split
  · exact hFirst.setChannel fun _ => rfl
  · exact hFirst.setChannel fun _ => rfl

theorem delChannel (hs : Quiet s) (destroy : Bool) : Quiet (s.delChannel ch destroy) := by
  rw [HardwareInterface.delChannel]
  split
  · exact hs
  · refine hs.setChannel fun _ => ?_
    cases destroy <;> rfl

theorem stopChannel (hs : Quiet s) : Quiet (s.stopChannel ch).1 := by
  rw [HardwareInterface.stopChannel]
  split
  · exact hs
  · exact hs.setChannel fun _ => rfl

theorem startChannel (hs : Quiet s) (hVideo : ch ≠ .video) (hSnapshot : ch ≠ .snapshot) :
    Quiet (s.startChannel r ch).1 := by
  rw [HardwareInterface.startChannel]
  split
  · exact hs
  · split
    · rw [startChannelObject]
      dsimp only
      split
      · exact hs.setChannel fun hCh => (hCh.elim hVideo hSnapshot).elim
      · exact hs
    · exact hs

theorem commit (hs : Quiet s) (site : CommitSite) : Quiet (s.commit r site) :=
  hs.of_channels rfl rfl

theorem unpreparePreview (hs : Quiet s) : Quiet s.unpreparePreview :=
  (((hs.delChannel _).delChannel _).delChannel _).delChannel _

theorem stopPreview (hs : Quiet s) : Quiet s.stopPreview.1 :=
  hs.stopChannel.stopChannel.unpreparePreview

theorem startPreview (hs : Quiet s) : Quiet (s.startPreview r).1 := by
  rw [HardwareInterface.startPreview]
  split
  · exact (hs.commit _).startChannel (by decide) (by decide)
  · exact (hs.commit _).startChannel (by decide) (by decide)

theorem leaveCameraMode (hs : Quiet s) (state : SmState) : Quiet (s.leaveCameraMode r state) := by
  have hLongshot : Quiet (if s.mLongshotEnabled then (s.longshotOff r state).1 else s) := by
    split
    · exact hs.aside (.longshotOff state)
    · exact hs
  rw [HardwareInterface.leaveCameraMode]
  split <;> split
  · exact (hLongshot.commit _).commit _
  · exact hLongshot.commit _
  · exact hLongshot.commit _
  · exact hLongshot

theorem addRecordingChannels (hs : Quiet s) : Quiet (s.addRecordingChannels r).1 := by
  have hSnapshot : Quiet (if r.is4k2kResolution then (s, noError)
      else s.addChannel r .snapshot).1 := by
    split
    · exact hs
    · exact hs.addChannel
  rw [HardwareInterface.addRecordingChannels]
  generalize (if r.is4k2kResolution then (s, noError) else s.addChannel r .snapshot) = snapshot
    at hSnapshot ⊢
  split
  · dsimp only
    split
    · exact hSnapshot.addChannel
    · exact hSnapshot.addChannel.delChannel _
  · exact hSnapshot

theorem preparePreview (hs : Quiet s) (state : SmState) :
    Quiet (s.preparePreview r state).1 := by
  have hRecording := (hs.leaveCameraMode (r := r) state).addRecordingChannels (r := r)
  rw [HardwareInterface.preparePreview]
  dsimp only
  split
  · exact hs.addChannel
  · split
    · split
      · split
        · exact hRecording.addChannel
        · exact (hRecording.addChannel.delChannel _).delChannel _
      · exact hRecording
    · exact hs.addChannel

theorem dropPreview (hs : Quiet s) : Quiet s.dropPreview := hs.stopChannel.delChannel _

theorem takeZslPicture (hs : Quiet s) : Quiet (s.takeZslPicture r).1 := by
  rw [HardwareInterface.takeZslPicture]
  split <;> exact hs.commit _

theorem addCapture (hs : Quiet s) : Quiet (s.addCapture r).1 := by
  rw [HardwareInterface.addCapture]
  split
  · exact hs.dropPreview.addChannel
  · exact hs.addChannel.dropPreview

theorem longShot (hs : Quiet s) : Quiet (s.longShot r).1 := by
  rw [HardwareInterface.longShot]
  split <;> exact hs

theorem startCapture (hs : Quiet s) : Quiet (s.startCapture r).1 := by
  have hStarted : Quiet (s.startChannel r .capture).1 :=
    hs.startChannel (by decide) (by decide)
  rw [HardwareInterface.startCapture]
  dsimp only
  split
  · split
    · exact hStarted
    · split
      · split
        · exact hStarted.longShot
        · exact hStarted.longShot.delChannel _
      · exact hStarted
  · exact hStarted.delChannel _

theorem takeRawPicture (hs : Quiet s) : Quiet (s.takeRawPicture r).1 := by
  have hAdded : Quiet (s.dropPreview.addChannel r .raw).1 := hs.dropPreview.addChannel
  have hStarted : Quiet ((s.dropPreview.addChannel r .raw).1.startChannel r .raw).1 :=
    hAdded.startChannel (by decide) (by decide)
  rw [HardwareInterface.takeRawPicture]
  dsimp only
  split
  · split
    · split
      · exact hStarted
      · exact hStarted.delChannel _
    · exact hAdded.delChannel _
  · exact hAdded

theorem takePicture (hs : Quiet s) : Quiet (s.takePicture r).1 := by
  have hFirst : Quiet (if r.isAdvancedCapture then s.commit r .advancedCapture else s) := by
    split
    · exact hs.commit _
    · exact hs
  rw [HardwareInterface.takePicture]
  generalize (if r.isAdvancedCapture then s.commit r .advancedCapture else s) = s' at hFirst ⊢
  split
  · exact hFirst.takeZslPicture
  · split
    · dsimp only
      split
      · exact hFirst.addCapture.startCapture
      · exact hFirst.addCapture
    · exact hFirst.takeRawPicture

theorem stopCaptureChannel (hs : Quiet s) (destroy : Bool) :
    Quiet (s.stopCaptureChannel destroy).1 := by
  rw [HardwareInterface.stopCaptureChannel]
  dsimp only
  split
  · split
    · exact hs.stopChannel.delChannel _
    · exact hs.stopChannel
  · exact hs

theorem release (hs : Quiet s) : Quiet s.release.1 := ⟨rfl, rfl, hs.liveSnapshot⟩

end Quiet

theorem takeLiveSnapshotInternal_of_none (hLive : s.liveSnapshot = none) :
    s.takeLiveSnapshotInternal = s := by
  simp only [takeLiveSnapshotInternal, hLive]

theorem Quiet.cancelLiveSnapshot (hs : Quiet s) : Quiet s.cancelLiveSnapshot.1 := by
  rw [HardwareInterface.cancelLiveSnapshot, takeLiveSnapshotInternal_of_none hs.liveSnapshot]
  exact hs.stopChannel

theorem quiet_keeps : parent.Keeps Quiet where
  toKeepsAside := keepsAside_of fun _ _ h hs => hs.aside h
  release _ _ _ hs := hs.release
  clearMemoryPool _ hs := hs
  preparePreview state _ _ hs := hs.preparePreview state
  unpreparePreview _ hs := hs.unpreparePreview
  startPreview _ _ hs := hs.startPreview
  stopPreview _ hs := hs.stopPreview
  prepareHardwareForSnapshot _ _ hs := hs
  takePicture _ _ hs := hs.takePicture
  cancelPicture _ hs := hs.aside .cancelPicture
  cancelLiveSnapshot _ hs := hs.cancelLiveSnapshot
  longShot _ _ hs := hs.longShot
  stopChannel _ _ hs := hs.stopChannel
  stopCaptureChannel destroy _ hs := hs.stopCaptureChannel destroy
  updateRecordingHintValue _ _ _ hs := hs.of_channels rfl rfl
  setPreviewStarted _ hs := hs.of_channels rfl rfl

theorem startChannel_cases (ch : ChType) :
    (s.startChannel r ch).2 ≠ noError ∧ (s.startChannel r ch).1 = s ∨
      (s.startChannel r ch).2 = noError ∧
        ∃ c, s.channels ch = some c ∧
          (s.startChannel r ch).1 = s.setChannel ch (some { c with active := true }) := by
  rw [startChannel]
  split
  · exact .inl ⟨show unknownError ≠ noError by decide, rfl⟩
  · split
    · by_cases hStart : r.start ch = noError
      · simp_all [startChannelObject]
      · simp_all [startChannelObject]
    · exact .inl ⟨‹_›, rfl⟩

theorem Quiet.startVideo (hs : Quiet s) :
    (s.startChannel r .video).2 ≠ noError ∧ Quiet (s.startChannel r .video).1 ∨
      (s.startChannel r .video).2 = noError ∧ Recording (s.startChannel r .video).1 := by
  obtain ⟨hFailed, hSame⟩ | ⟨hStarted, c, -, hSet⟩ := startChannel_cases (r := r) (s := s) .video
  · exact .inl ⟨hFailed, hSame.symm ▸ hs⟩
  · refine .inr ⟨hStarted, ?_⟩
    rw [hSet]
    exact ⟨by simp, by simp [hs.snapshot], hs.liveSnapshot⟩

theorem Quiet.startRecording (hs : Quiet s) (state : SmState) :
    (s.startRecording r state).2 ≠ noError ∧ Quiet (s.startRecording r state).1 ∨
      (s.startRecording r state).2 = noError ∧ Recording (s.startRecording r state).1 := by
  rw [HardwareInterface.startRecording]
  generalize hPrepared : (if s.modes.recordingHint then (s, noError)
    else
      let s := s.stopPreview.1
      let prepared :=
        { s with modes := s.modes.updateRecordingHintValue true r }.preparePreview r state
      if prepared.2 = noError then prepared.1.startChannel r .preview else prepared) = prepared
  have hQuiet : Quiet prepared.1 := by
    have hHint : Quiet { s.stopPreview.1 with
        modes := s.stopPreview.1.modes.updateRecordingHintValue true r } :=
      hs.stopPreview.of_channels rfl rfl
    have hPreview := hHint.preparePreview (r := r) state
    rw [← hPrepared]
    split
    · exact hs
    · dsimp only
      split
      · exact hPreview.startChannel (by decide) (by decide)
      · exact hPreview
  split
  · exact hQuiet.startVideo
  · exact .inl ⟨‹_›, hQuiet⟩

theorem Recording.stopRecording (hs : Recording s) : Quiet s.stopRecording.1 := by
  rw [HardwareInterface.stopRecording, stopChannel]
  split
  · rename_i hNone
    have hActive := hs.video
    rw [isActive, hNone] at hActive
    exact absurd hActive (by decide)
  · exact ⟨by simp, by simp [hs.snapshot], hs.liveSnapshot⟩

/-- The thread is joined and its channel stopped, whatever the thread came to. -/
theorem cancelLiveSnapshot_recording (hVideo : s.isActive .video = true) :
    Recording s.cancelLiveSnapshot.1 := by
  have hJoined : s.takeLiveSnapshotInternal.isActive .video = true ∧
      s.takeLiveSnapshotInternal.liveSnapshot = none := by
    rw [takeLiveSnapshotInternal]
    split
    · exact ⟨hVideo, ‹_›⟩
    · dsimp only
      split
      · exact ⟨hVideo, rfl⟩
      · rw [startChannelObject]
        dsimp only
        split
        · exact ⟨by rw [isActive_setChannel]; exact hVideo, rfl⟩
        · exact ⟨hVideo, rfl⟩
  rw [cancelLiveSnapshot, stopChannel]
  split
  · rename_i hNone
    exact ⟨hJoined.1, by rw [isActive, hNone]; rfl, hJoined.2⟩
  · exact ⟨by simp [hJoined.1], by simp, hJoined.2⟩

theorem takeLiveSnapshotInternal_video :
    s.takeLiveSnapshotInternal.isActive .video = s.isActive .video := by
  rw [takeLiveSnapshotInternal]
  split
  · rfl
  · dsimp only
    split
    · rfl
    · rw [startChannelObject]
      dsimp only
      split
      · rw [isActive_setChannel]
        rfl
      · rfl

theorem Recording.takeLiveSnapshotInternal (hs : Recording s) :
    Recording s.takeLiveSnapshotInternal :=
  (takeLiveSnapshotInternal_of_none hs.liveSnapshot).symm ▸ hs

theorem Quiet.takeLiveSnapshotInternal (hs : Quiet s) : Quiet s.takeLiveSnapshotInternal :=
  (takeLiveSnapshotInternal_of_none hs.liveSnapshot).symm ▸ hs

end HardwareInterface

namespace HalSystem

open HardwareInterface

variable {w : HalSystem}

/-- What the state of the state machine says of the recording. -/
def Agrees (w : HalSystem) : Prop :=
  match w.state with
  | .recording => Recording w.hal
  | .videoPicTaking => w.hal.isActive .video = true
  | _ => Quiet w.hal

theorem agrees_of_quiet (hs : Quiet w.hal) (hState : w.state.records = false) : Agrees w := by
  obtain ⟨hal, state⟩ := w
  cases state with
  | recording | videoPicTaking => cases hState
  | _ => exact hs

theorem Agrees.quiet (h : Agrees w) (hState : w.state.records = false) : Quiet w.hal := by
  obtain ⟨hal, state⟩ := w
  cases state with
  | recording | videoPicTaking => cases hState
  | _ => exact h

theorem agrees_startRecording {hal : HardwareInterface} (hs : Quiet hal) (r : HalAnswers)
    (state : SmState) {failed started : SmState} (hFailed : failed.records = false)
    (hStarted : started.records = true) :
    Agrees ⟨(hal.startRecording r state).1,
      if (hal.startRecording r state).2 = noError then started else failed⟩ := by
  obtain ⟨hNo, hQuiet⟩ | ⟨hYes, hRecording⟩ := hs.startRecording (r := r) state
  · rw [if_neg hNo]
    exact agrees_of_quiet hQuiet hFailed
  · rw [if_pos hYes]
    cases started with
    | recording => exact hRecording
    | videoPicTaking => exact hRecording.video
    | _ => cases hStarted

theorem Agrees.recording {hal : HardwareInterface} (hs : Recording hal) (evt : SmEvt)
    (p : SmPayload) (r : HalAnswers) : Agrees (step ⟨hal, .recording⟩ (.event evt p r)) := by
  have hOutside : Recording { hal with outside := r } := ⟨hs.video, hs.snapshot, hs.liveSnapshot⟩
  by_cases hEvt : Parent.endsRecording evt = false
  · obtain ⟨hHal, hState⟩ := (keepsAside_of fun _ _ h hs => Recording.aside h hs)
      |>.procEvtRecordingState (r := r) (p := p) hOutside hEvt
    simp only [step, Parent.stateMachine, Agrees, hState]
    exact hHal
  · cases evt with
    | takePicture =>
      simp only [step, Parent.stateMachine, Parent.procEvtRecordingState, reply, parent,
        takeLiveSnapshot]
      split
      · exact hOutside.video
      · exact hOutside
    | stopRecording => exact hOutside.stopRecording
    | stopPreview => exact hOutside.stopRecording.stopPreview
    | _ => exact absurd rfl hEvt

theorem Agrees.videoPicTaking {hal : HardwareInterface} (hs : hal.isActive .video = true)
    (evt : SmEvt) (p : SmPayload) (r : HalAnswers) :
    Agrees (step ⟨hal, .videoPicTaking⟩ (.event evt p r)) := by
  have hOutside : { hal with outside := r }.isActive .video = true := hs
  have hCancelled := cancelLiveSnapshot_recording hOutside
  by_cases hEvt : Parent.endsLiveSnapshot evt = false
  · obtain ⟨hHal, hState⟩ := (keepsAside_of (Q := fun s => s.isActive .video = true)
      fun _ _ h hs => (h.isActive .video (by decide) (by decide)).trans hs)
      |>.procEvtVideoPicTakingState (r := r) (p := p) hOutside hEvt
    simp only [step, Parent.stateMachine, Agrees, hState]
    exact hHal
  · cases evt with
    | cancelPicture | snapshotDone => exact hCancelled
    | stopRecording => exact hCancelled.stopRecording
    | stopPreview => exact hCancelled.stopRecording.stopPreview
    | _ => exact absurd rfl hEvt

/-- One input, for each kind of state the recording can be in. -/
theorem Agrees.step (h : Agrees w) (i : HalInput) : Agrees (w.step i) := by
  obtain ⟨hal, state⟩ := w
  cases i with
  | liveSnapshot =>
    cases state with
    | recording => exact Recording.takeLiveSnapshotInternal h
    | videoPicTaking => exact takeLiveSnapshotInternal_video.trans h
    | _ => exact Quiet.takeLiveSnapshotInternal h
  | event evt p r =>
    cases hState : state.records with
    | true =>
      cases state with
      | recording => exact Agrees.recording h evt p r
      | videoPicTaking => exact Agrees.videoPicTaking h evt p r
      | _ => cases hState
    | false =>
      obtain ⟨hVideo, hSnapshot, hLive⟩ := h.quiet hState
      have hQuiet : Quiet { hal with outside := r } := ⟨hVideo, hSnapshot, hLive⟩
      by_cases hEvt : evt = .startRecording
      · subst hEvt
        cases state with
        | recording | videoPicTaking => cases hState
        | previewing => exact agrees_startRecording hQuiet r .previewing rfl rfl
        | previewPicTaking =>
          simp only [HalSystem.step, Parent.stateMachine, Parent.procEvtPreviewPicTakingState]
          split
          · exact hQuiet
          · exact agrees_startRecording hQuiet r .previewPicTaking rfl rfl
        | _ => exact hQuiet
      · exact agrees_of_quiet (quiet_keeps.stateMachine hQuiet hState hEvt)
          (Parent.stateMachine_records _ r p _ hState hEvt)

theorem Agrees.run (h : Agrees w) (inputs : List HalInput) : Agrees (w.run inputs) := by
  induction inputs generalizing w with
  | nil => exact h
  | cons i inputs ih => exact ih (h.step i)

/-- Whatever the camera answers and the application asks for, the channel of the video runs in the
two states of a recording and in no other, and the thread and the channel of a live snapshot only
while one is taken. -/
theorem channels_of_recording (modes : Modes) (inputs : List HalInput) :
    (((start modes).run inputs).hal.isActive .video = true ↔
      ((start modes).run inputs).state = .recording ∨
        ((start modes).run inputs).state = .videoPicTaking) ∧
    (((start modes).run inputs).hal.isActive .snapshot = true ∨
        ((start modes).run inputs).hal.liveSnapshot ≠ none →
      ((start modes).run inputs).state = .videoPicTaking) := by
  have hAgrees : Agrees ((start modes).run inputs) :=
    Agrees.run (w := start modes) ⟨rfl, rfl, rfl⟩ inputs
  revert hAgrees
  generalize (start modes).run inputs = w
  obtain ⟨hal, state⟩ := w
  intro hAgrees
  cases state with
  | recording =>
    refine ⟨⟨fun _ => .inl rfl, fun _ => hAgrees.video⟩, fun hLive => ?_⟩
    obtain hActive | hThread := hLive
    · exact absurd (hAgrees.snapshot.symm.trans hActive) (by decide)
    · exact absurd hAgrees.liveSnapshot hThread
  | videoPicTaking => exact ⟨⟨fun _ => .inr rfl, fun _ => hAgrees⟩, fun _ => rfl⟩
  | _ =>
    have hQuiet : Quiet hal := hAgrees
    refine ⟨⟨fun h => absurd (hQuiet.video.symm.trans h) (by decide), fun h => by simp at h⟩,
      fun hLive => ?_⟩
    obtain hActive | hThread := hLive
    · exact absurd (hQuiet.snapshot.symm.trans hActive) (by decide)
    · exact absurd hQuiet.liveSnapshot hThread

end HalSystem

end KiwiDevice.Hal

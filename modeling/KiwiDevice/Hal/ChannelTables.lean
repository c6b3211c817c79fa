import KiwiDevice.Hal.ChannelRuns

/-!
# What channels there are in each state

When the parameters are accepted and a restart inside another event succeeds, the state of the state
machine says which channels exist and which of them run.
-/

namespace KiwiDevice.Hal

namespace Modes

variable {r : HalAnswers} {m m' m'' : Modes}

/-- No mode waits for a commit. -/
structure Settled (m : Modes) : Prop where
  zslMode : m.zslModeNew = m.zslMode
  recordingHint : m.recordingHintNew = m.recordingHint

/-- The modes that select channels. -/
structure Same (m m' : Modes) : Prop where
  zslMode : m'.zslMode = m.zslMode
  recordingHint : m'.recordingHint = m.recordingHint
  pictureFormat : m'.pictureFormat = m.pictureFormat

theorem Same.refl : Same m m := ⟨rfl, rfl, rfl⟩

theorem Same.trans (h : Same m m') (h' : Same m' m'') : Same m m'' where
  zslMode := h'.zslMode.trans h.zslMode
  recordingHint := h'.recordingHint.trans h.recordingHint
  pictureFormat := h'.pictureFormat.trans h.pictureFormat

theorem Same.takesCapture (h : Same m m') : m'.takesCapture = m.takesCapture := by
  rw [Modes.takesCapture, h.pictureFormat]
  rfl

theorem commitParamChanges_settled (m : Modes) : m.commitParamChanges.Settled := ⟨rfl, rfl⟩

theorem Settled.commitParamChanges (h : m.Settled) : Same m m.commitParamChanges :=
  ⟨h.zslMode, h.recordingHint, rfl⟩

theorem Settled.commitSetBatch (h : m.Settled) (site : CommitSite) :
    (m.commitSetBatch r site).Settled ∧ Same m (m.commitSetBatch r site) := by
  rw [Modes.commitSetBatch]
  split
  · exact ⟨m.commitParamChanges_settled, h.commitParamChanges⟩
  · exact ⟨h, .refl⟩

theorem setRecordingHintValue_spec (value : Bool) :
    Same m (m.setRecordingHintValue value).1 ∧
      (m.setRecordingHintValue value).1.recordingHintNew = value ∧
      (m.setRecordingHintValue value).1.zslModeNew = m.zslModeNew ∧
      ((m.setRecordingHintValue value).2 = false → m.recordingHint = value) := by
  rw [setRecordingHintValue]
  split
  · exact ⟨⟨rfl, rfl, rfl⟩, ‹_›, rfl, fun _ => ‹_›⟩
  · exact ⟨⟨rfl, rfl, rfl⟩, rfl, rfl, fun h => by cases h⟩

theorem setZslMode_spec : Same m (m.setZslMode r).1 ∧
    (m.setZslMode r).1.recordingHintNew = m.recordingHintNew ∧
    ((m.setZslMode r).2.2 = false → (m.setZslMode r).1.zslModeNew = m.zslModeNew) := by
  rw [setZslMode]
  split
  · exact ⟨.refl, rfl, fun _ => rfl⟩
  · exact ⟨.refl, rfl, fun _ => rfl⟩
  · split
    · exact ⟨.refl, rfl, fun _ => rfl⟩
    · exact ⟨⟨rfl, rfl, rfl⟩, rfl, fun h => by cases h⟩

theorem setRecordingHint_spec (h : m.recordingHintNew = m.recordingHint) :
    Same m (m.setRecordingHint r).1 ∧ (m.setRecordingHint r).1.zslModeNew = m.zslModeNew ∧
      ((m.setRecordingHint r).2.2 = false →
        (m.setRecordingHint r).1.recordingHintNew = m.recordingHint) := by
  rw [setRecordingHint]
  split
  · exact ⟨.refl, rfl, fun _ => h⟩
  · exact ⟨.refl, rfl, fun _ => h⟩
  · split
    · exact ⟨.refl, rfl, fun _ => h⟩
    · rename_i value _ _
      obtain ⟨hSame, hNew, hZsl, hValue⟩ :=
        setRecordingHintValue_spec (m := { m with hintTemp := some value }) value
      exact ⟨⟨hSame.zslMode, hSame.recordingHint, hSame.pictureFormat⟩, hZsl,
        fun hNo => hNew.trans (hValue hNo).symm⟩

/-- What an update leaves of the modes before it is committed: nothing that selects a channel of the
preview has changed, and nothing waits unless a restart is needed. -/
theorem updateParameters_spec (h : m.Settled) :
    (m.updateParameters r).1.zslMode = m.zslMode ∧
      (m.updateParameters r).1.recordingHint = m.recordingHint ∧
      ((m.updateParameters r).2.2 = false → (m.updateParameters r).1.Settled) := by
  rw [updateParameters]
  split
  · have hFormat : (m.setPictureFormat r).1.zslMode = m.zslMode ∧
        (m.setPictureFormat r).1.recordingHint = m.recordingHint ∧
        (m.setPictureFormat r).1.Settled := by
      rw [setPictureFormat]
      split <;> exact ⟨rfl, rfl, h.zslMode, h.recordingHint⟩
    obtain ⟨hZslMode, hHint, hSettled⟩ := hFormat
    obtain ⟨hZslSame, hZslHint, hZslNew⟩ :=
      setZslMode_spec (r := r) (m := (m.setPictureFormat r).1)
    obtain ⟨hHintSame, hHintZsl, hHintNew⟩ :=
      setRecordingHint_spec (r := r) (m := ((m.setPictureFormat r).1.setZslMode r).1)
        (by rw [hZslHint, hZslSame.recordingHint, hSettled.recordingHint])
    refine ⟨by rw [hHintSame.zslMode, hZslSame.zslMode, hZslMode],
      by rw [hHintSame.recordingHint, hZslSame.recordingHint, hHint], fun hRestart => ?_⟩
    simp only [Bool.or_eq_false_iff] at hRestart
    obtain ⟨⟨hZslRestart, hHintRestart⟩, -⟩ := hRestart
    exact ⟨by rw [hHintZsl, hZslNew hZslRestart, hHintSame.zslMode, hZslSame.zslMode,
        hSettled.zslMode],
      by rw [hHintNew hHintRestart, hHintSame.recordingHint]⟩
  · exact ⟨rfl, rfl, fun _ => h⟩

theorem updateRecordingHintValue_spec (h : m.Settled) (value : Bool)
    (hBatch : r.initBatchUpdate = true) (hEntry : r.addHintEntry = noError)
    (hCommit : r.commit .recordingHint = noError) :
    (m.updateRecordingHintValue value r).Settled ∧
      (m.updateRecordingHintValue value r).zslMode = m.zslMode ∧
      (m.updateRecordingHintValue value r).recordingHint = value ∧
      (m.updateRecordingHintValue value r).pictureFormat = m.pictureFormat := by
  obtain ⟨hSame, hNew, hZsl, -⟩ := setRecordingHintValue_spec (m := m) value
  rw [updateRecordingHintValue, if_pos hBatch]
  simp only [if_pos hEntry, commitSetBatch, if_pos hCommit]
  exact ⟨commitParamChanges_settled _, hZsl.trans h.zslMode, hNew, hSame.pictureFormat⟩

end Modes

/-- The camera adds, configures and starts every channel. -/
structure HalAnswers.Succeeds (r : HalAnswers) : Prop where
  addChannel : ∀ ch, r.addChannel ch = noError
  config : ∀ ch, r.config ch = noError
  start : ∀ ch, r.start ch = noError

namespace HardwareInterface

variable {r : HalAnswers} {s s' : HardwareInterface} {ch : ChType}

@[simp] theorem channels_setChannel (ch' : ChType) (c : Option ChannelObject) :
    (s.setChannel ch c).channels ch' = if ch' = ch then c else s.channels ch' := by
  by_cases hEq : ch' = ch
  · subst hEq
    simp [setChannel]
  · simp [setChannel, hEq]

@[simp] theorem modes_setChannel (c : Option ChannelObject) :
    (s.setChannel ch c).modes = s.modes := rfl

@[simp] theorem longshot_setChannel (c : Option ChannelObject) :
    (s.setChannel ch c).mLongshotEnabled = s.mLongshotEnabled := rfl

@[simp] theorem channels_commit (site : CommitSite) : (s.commit r site).channels = s.channels := rfl

theorem setChannel_self (hEq : s.channels ch = none) : s.setChannel ch none = s := by
  rw [← hEq, setChannel, Function.update_eq_self]

@[simp] theorem delChannel_true : s.delChannel ch true = s.setChannel ch none := by
  rw [delChannel]
  split
  · exact (setChannel_self ‹_›).symm
  · rfl

@[simp] theorem stopChannel_fst : (s.stopChannel ch).1 =
    s.setChannel ch ((s.channels ch).map fun c => { c with active := false }) := by
  rw [stopChannel]
  cases hCh : s.channels ch with
  | none => exact (setChannel_self hCh).symm
  | some c => rfl

/-- No channel exists. -/
def Empty (s : HardwareInterface) : Prop := ∀ ch, s.channels ch = none

/-- The channels of the preview, with those of the recording when it is hinted at. -/
structure Prepared (s : HardwareInterface) (running films : Bool) : Prop where
  zsl : s.channels .zsl = if s.previewsZsl then some { active := running } else none
  preview : s.channels .preview = if s.previewsZsl then none else some { active := running }
  video : s.channels .video = if s.modes.recordingHint then some { active := films } else none
  snapshot : s.modes.recordingHint = false → s.channels .snapshot = none
  capture : s.channels .capture = none
  raw : s.channels .raw = none
  metadata : s.channels .metadata = none

/-- The channel of a picture that is not taken from the preview. -/
structure Pictured (s : HardwareInterface) : Prop where
  zslMode : s.modes.zslMode = false
  longshot : s.mLongshotEnabled = false
  capture : (s.channels .capture).isSome = s.modes.takesCapture
  raw : (s.channels .raw).isSome = !s.modes.takesCapture
  zsl : s.channels .zsl = none
  preview : s.channels .preview = none
  video : s.channels .video = none
  snapshot : s.channels .snapshot = none
  metadata : s.channels .metadata = none

theorem Prepared.stopPreview {running films : Bool} (h : Prepared s running films) :
    Empty s.stopPreview.1 := by
  intro ch
  cases ch <;> simp [HardwareInterface.stopPreview, unpreparePreview, h.capture, h.raw, h.metadata]

theorem empty_unpreparePreview (hCapture : s.channels .capture = none)
    (hRaw : s.channels .raw = none) (hMetadata : s.channels .metadata = none) :
    Empty s.unpreparePreview := by
  intro ch
  cases ch <;> simp [HardwareInterface.unpreparePreview, hCapture, hRaw, hMetadata]

@[simp] theorem unpreparePreview_modes : s.unpreparePreview.modes = s.modes := by
  simp [HardwareInterface.unpreparePreview]

@[simp] theorem stopPreview_modes : s.stopPreview.1.modes = s.modes := by
  simp [HardwareInterface.stopPreview]

@[simp] theorem stopPreview_longshot :
    s.stopPreview.1.mLongshotEnabled = s.mLongshotEnabled := by
  simp [HardwareInterface.stopPreview, HardwareInterface.unpreparePreview]

/-- No channel changes, and settled modes stay. -/
structure Unmoved (s s' : HardwareInterface) : Prop where
  channels : s'.channels = s.channels
  settled : s.modes.Settled → s'.modes.Settled
  same : s.modes.Settled → s.modes.Same s'.modes

theorem Unmoved.refl : Unmoved s s := ⟨rfl, id, fun _ => .refl⟩

theorem Unmoved.trans {s'' : HardwareInterface} (h : Unmoved s s') (h' : Unmoved s' s'') :
    Unmoved s s'' where
  channels := h'.channels.trans h.channels
  settled hSettled := h'.settled (h.settled hSettled)
  same hSettled := (h.same hSettled).trans (h'.same (h.settled hSettled))

theorem Unmoved.of_eq (hChannels : s'.channels = s.channels) (hModes : s'.modes = s.modes) :
    Unmoved s s' := ⟨hChannels, fun h => hModes ▸ h, fun _ => hModes ▸ .refl⟩

theorem Unmoved.commit (site : CommitSite) : Unmoved s (s.commit r site) where
  channels := rfl
  settled h := (h.commitSetBatch site).1
  same h := (h.commitSetBatch site).2

theorem Unmoved.setLongshot (on : Bool) (site : CommitSite) :
    Unmoved s ({ s with mLongshotEnabled := on }.commit r site) where
  channels := rfl
  settled h := (h.commitSetBatch site).1
  same h := (h.commitSetBatch site).2

theorem Unmoved.cancelPicture (hCapture : s.channels .capture = none)
    (hRaw : s.channels .raw = none) : Unmoved s s.cancelPicture.1 := by
  have hCommit : Unmoved s (s.commit s.outside .endOfAdvancedCapture) := .commit _
  rw [HardwareInterface.cancelPicture]
  split
  · exact hCommit.trans (.commit _)
  · split
    · refine hCommit.trans (.of_eq ?_ ?_) <;> simp [hCapture, setChannel_self]
    · refine hCommit.trans (.of_eq ?_ ?_) <;> simp [hRaw, setChannel_self]

theorem Unmoved.longshotOff (hCapture : s.channels .capture = none)
    (hRaw : s.channels .raw = none) (state : SmState) :
    Unmoved s (s.longshotOff r state).1 := by
  rw [HardwareInterface.longshotOff]
  dsimp only
  split
  · exact (Unmoved.cancelPicture hCapture hRaw).trans (.setLongshot _ _)
  · exact .setLongshot _ _

theorem Unmoved.sendCommand (hCapture : s.channels .capture = none)
    (hRaw : s.channels .raw = none) (state : SmState) (cmd : CameraCmd) :
    Unmoved s (s.sendCommand r state cmd).1 := by
  cases cmd with
  | longshotOn =>
    rw [HardwareInterface.sendCommand, longshotOn]
    split
    · exact .refl
    · exact .setLongshot _ _
  | longshotOff => exact .longshotOff hCapture hRaw state
  | other => exact .commit _

theorem Unmoved.plain (op : PlainOp) (p : SmPayload) (hOp : op ≠ .release) :
    Unmoved s (s.plain r op p).1 := by
  cases op with
  | release => exact absurd rfl hOp
  | setPreviewWindow => exact .of_eq rfl rfl
  | putParameters => exact .refl
  | _ => exact .commit _

theorem Unmoved.leaveCameraMode (hCapture : s.channels .capture = none)
    (hRaw : s.channels .raw = none) (state : SmState) :
    Unmoved s (s.leaveCameraMode r state) := by
  have hLongshot : Unmoved s (if s.mLongshotEnabled then (s.longshotOff r state).1 else s) := by
    split
    · exact .longshotOff hCapture hRaw state
    · exact .refl
  rw [HardwareInterface.leaveCameraMode]
  split <;> split
  · exact (hLongshot.trans (.commit _)).trans (.commit _)
  · exact hLongshot.trans (.commit _)
  · exact hLongshot.trans (.commit _)
  · exact hLongshot

theorem Empty.unmoved (h : Unmoved s s') (hs : Empty s) : Empty s' := by
  intro ch
  rw [h.channels]
  exact hs ch

theorem Prepared.of_eq {running films : Bool} (hs : Prepared s running films)
    (hChannels : s'.channels = s.channels) (hZsl : s'.modes.zslMode = s.modes.zslMode)
    (hHint : s'.modes.recordingHint = s.modes.recordingHint) : Prepared s' running films := by
  obtain ⟨h₁, h₂, h₃, h₄, h₅, h₆, h₇⟩ := hs
  rw [previewsZsl, ← hZsl, ← hHint, ← previewsZsl, ← hChannels] at h₁ h₂
  rw [← hHint, ← hChannels] at h₃ h₄
  rw [← hChannels] at h₅ h₆ h₇
  exact ⟨h₁, h₂, h₃, h₄, h₅, h₆, h₇⟩

theorem Prepared.unmoved {running films : Bool} (h : Unmoved s s') (hSettled : s.modes.Settled)
    (hs : Prepared s running films) : Prepared s' running films :=
  hs.of_eq h.channels (h.same hSettled).zslMode (h.same hSettled).recordingHint

@[simp] theorem addChannel_snd : (s.addChannel r ch).2 = r.addChannel ch := by
  rw [addChannel]
  split
  · exact Eq.symm ‹_›
  · rfl

@[simp] theorem addChannel_modes : (s.addChannel r ch).1.modes = s.modes := by
  rw [addChannel]
  split <;> split <;> rfl

@[simp] theorem addChannel_longshot :
    (s.addChannel r ch).1.mLongshotEnabled = s.mLongshotEnabled := by
  rw [addChannel]
  split <;> split <;> rfl

theorem addChannel_channels (ch' : ChType) : (s.addChannel r ch).1.channels ch' =
    if ch' = ch then if r.addChannel ch = noError then some {} else none
    else if ch = .zsl ∧ ch' = .preview then none else s.channels ch' := by
  rw [addChannel]
  split <;> split <;> by_cases hEq : ch' = ch <;> simp_all

/-- The channels that a preparation has added, or none. -/
structure Outcome (s : HardwareInterface) (q : HardwareInterface × Int) (running : Bool) :
    Prop where
  settled : q.1.modes.Settled
  same : s.modes.Same q.1.modes
  channels : q.2 = noError ∧ Prepared q.1 running false ∨ q.2 ≠ noError ∧ Empty q.1

theorem addRecordingChannels_spec (hs : Empty s) :
    (s.addRecordingChannels r).1.modes = s.modes ∧
      ((s.addRecordingChannels r).2 = noError ∧
          (s.addRecordingChannels r).1.channels .video = some {} ∧
          (∀ ch, ch ≠ .video → ch ≠ .snapshot →
            (s.addRecordingChannels r).1.channels ch = none) ∨
        (s.addRecordingChannels r).2 ≠ noError ∧ Empty (s.addRecordingChannels r).1) := by
  rw [addRecordingChannels]
  have hSnapshot : ∃ snapshot : HardwareInterface × Int,
      (if r.is4k2kResolution then (s, noError) else s.addChannel r .snapshot) = snapshot ∧
        snapshot.1.modes = s.modes ∧
        (∀ ch, ch ≠ .snapshot → snapshot.1.channels ch = none) ∧
        (snapshot.2 ≠ noError → snapshot.1.channels .snapshot = none) := by
    split
    · exact ⟨_, rfl, rfl, fun ch _ => hs ch, fun _ => hs _⟩
    · refine ⟨_, rfl, addChannel_modes, fun ch hCh => ?_, fun hFailed => ?_⟩
      · simp [addChannel_channels, hCh, hs ch]
      · simp only [addChannel_snd] at hFailed
        simp [addChannel_channels, hFailed]
  obtain ⟨snapshot, hEq, hModes, hOther, hFailed⟩ := hSnapshot
  rw [hEq]
  dsimp only
  split
  · by_cases hVideo : r.addChannel .video = noError
    · simp only [addChannel_snd, if_pos hVideo, addChannel_modes, addChannel_channels]
      refine ⟨hModes, .inl ⟨hVideo, rfl, fun ch hCh hNe => ?_⟩⟩
      simp [hCh, hOther ch hNe]
    · simp only [addChannel_snd, if_neg hVideo, delChannel_true, modes_setChannel,
        addChannel_modes]
      refine ⟨hModes, .inr ⟨hVideo, fun ch => ?_⟩⟩
      by_cases hCh : ch = .snapshot
      · simp [hCh]
      · simp [hCh, addChannel_channels, hVideo, hOther ch hCh]
  · rename_i hNo
    refine ⟨hModes, .inr ⟨hNo, fun ch => ?_⟩⟩
    by_cases hCh : ch = .snapshot
    · exact hCh ▸ hFailed hNo
    · exact hOther ch hCh

theorem preparePreview_spec (hs : Empty s) (hSettled : s.modes.Settled) (state : SmState) :
    Outcome s (s.preparePreview r state) false := by
  rw [preparePreview]
  by_cases hZsl : s.previewsZsl = true
  · rw [if_pos hZsl]
    have hHint : s.modes.recordingHint = false := by simp_all [previewsZsl]
    refine ⟨by simpa using hSettled, by simpa using .refl, ?_⟩
    by_cases hAdd : r.addChannel .zsl = noError
    · refine .inl ⟨by simpa using hAdd, ?_⟩
      constructor <;> simp [addChannel_channels, previewsZsl, hAdd, hs _, hHint]
      all_goals simp_all [previewsZsl]
    · refine .inr ⟨by simpa using hAdd, fun ch => ?_⟩
      simp [addChannel_channels, hAdd, hs ch]
  · rw [if_neg hZsl]
    by_cases hHint : s.modes.recordingHint = true
    · rw [if_pos hHint]
      have hLeft : Unmoved s (s.leaveCameraMode r state) := .leaveCameraMode (hs _) (hs _) state
      have hLeftHint := (hLeft.same hSettled).recordingHint.trans hHint
      obtain ⟨hModes, hAdded⟩ := addRecordingChannels_spec (r := r) (hs.unmoved hLeft)
      dsimp only
      generalize (s.leaveCameraMode r state).addRecordingChannels r = recording at hModes hAdded ⊢
      obtain ⟨hOk, hVideo, hOther⟩ | ⟨hFailed, hEmpty⟩ := hAdded
      · rw [if_pos hOk]
        by_cases hAdd : r.addChannel .preview = noError
        · simp only [addChannel_snd, if_pos hAdd]
          refine ⟨by simpa [hModes] using hLeft.settled hSettled,
            by simpa [hModes] using hLeft.same hSettled, .inl ⟨by simpa using hAdd, ?_⟩⟩
          constructor <;> simp [addChannel_channels, previewsZsl, hAdd, hModes, hLeftHint, hVideo,
            hOther]
        · simp only [addChannel_snd, if_neg hAdd, delChannel_true]
          refine ⟨by simpa [hModes] using hLeft.settled hSettled,
            by simpa [hModes] using hLeft.same hSettled, .inr ⟨hAdd, fun ch => ?_⟩⟩
          cases ch <;> simp [addChannel_channels, hAdd, hOther]
      · rw [if_neg hFailed]
        exact ⟨by simpa [hModes] using hLeft.settled hSettled,
          by simpa [hModes] using hLeft.same hSettled, .inr ⟨hFailed, hEmpty⟩⟩
    · rw [if_neg hHint]
      refine ⟨by simpa using hSettled, by simpa using .refl, ?_⟩
      by_cases hAdd : r.addChannel .preview = noError
      · refine .inl ⟨by simpa using hAdd, ?_⟩
        constructor <;> simp [addChannel_channels, previewsZsl, hAdd, hs _, hHint]
        all_goals simp_all [previewsZsl]
      · refine .inr ⟨by simpa using hAdd, fun ch => ?_⟩
        simp [addChannel_channels, hAdd, hs ch]

@[simp] theorem startChannel_modes : (s.startChannel r ch).1.modes = s.modes := by
  obtain ⟨-, hSame⟩ | ⟨-, c, -, hSet⟩ := startChannel_cases (r := r) (s := s) ch
  · rw [hSame]
  · rw [hSet, modes_setChannel]

/-- The channel of the preview is started; when that fails, the table is what it was. -/
theorem startPreview_spec (hs : Prepared s false false) (hSettled : s.modes.Settled) :
    (s.startPreview r).1.modes.Settled ∧ s.modes.Same (s.startPreview r).1.modes ∧
      ((s.startPreview r).2 = noError ∧ Prepared (s.startPreview r).1 true false ∨
        (s.startPreview r).2 ≠ noError ∧ Prepared (s.startPreview r).1 false false) := by
  have hThermal : Unmoved s (s.commit r .thermal) := .commit _
  have hPrepared := hs.unmoved hThermal hSettled
  rw [startPreview]
  generalize s.commit r .thermal = s' at hThermal hPrepared ⊢
  have hStart : ∀ ch, s'.channels ch = some {} →
      (∀ q, q = s'.setChannel ch (some { active := true }) → Prepared q true false) →
      (s'.startChannel r ch).1.modes.Settled ∧ s.modes.Same (s'.startChannel r ch).1.modes ∧
        ((s'.startChannel r ch).2 = noError ∧ Prepared (s'.startChannel r ch).1 true false ∨
          (s'.startChannel r ch).2 ≠ noError ∧
            Prepared (s'.startChannel r ch).1 false false) := by
    intro ch hCh hGoes
    rw [startChannel_modes]
    refine ⟨hThermal.settled hSettled, hThermal.same hSettled, ?_⟩
    obtain ⟨hFailed, hSame⟩ | ⟨hOk, c, hc, hSet⟩ := startChannel_cases (r := r) (s := s') ch
    · exact .inr ⟨hFailed, hSame.symm ▸ hPrepared⟩
    · obtain rfl : {} = c := Option.some.inj (hCh.symm.trans hc)
      exact .inl ⟨hOk, hGoes _ hSet⟩
  obtain ⟨hZsl, hPreview, hVideo, hSnapshot, hCapture, hRaw, hMetadata⟩ := hPrepared
  by_cases hMode : s'.previewsZsl = true
  · rw [if_pos hMode] at hZsl hPreview ⊢
    refine hStart .zsl hZsl ?_
    rintro _ rfl
    have hMode' : (s'.setChannel .zsl (some { active := true })).previewsZsl = true := hMode
    exact ⟨by simp [hMode'], by simp [hMode', hPreview],
      (channels_setChannel .video _).trans hVideo,
      by simpa using hSnapshot, by simpa using hCapture, by simpa using hRaw,
      by simpa using hMetadata⟩
  · rw [if_neg hMode] at hZsl hPreview ⊢
    refine hStart .preview hPreview ?_
    rintro _ rfl
    have hMode' : ¬ (s'.setChannel .preview (some { active := true })).previewsZsl = true := hMode
    exact ⟨by simp [hMode', hZsl], by simp [hMode'],
      (channels_setChannel .video _).trans hVideo,
      by simpa using hSnapshot, by simpa using hCapture, by simpa using hRaw,
      by simpa using hMetadata⟩

theorem prepareAndStart_spec (hs : Empty s) (hSettled : s.modes.Settled) (state : SmState) :
    Outcome s (parent.prepareAndStart r s state) true := by
  obtain ⟨hSettled', hSame, hPrepared⟩ := preparePreview_spec (r := r) hs hSettled state
  have hParent : parent.preparePreview state r s = s.preparePreview r state := rfl
  rw [Parent.prepareAndStart, hParent]
  generalize s.preparePreview r state = prepared at hSettled' hSame hPrepared ⊢
  obtain ⟨hOk, hPrepared⟩ | ⟨hFailed, hEmpty⟩ := hPrepared
  · obtain ⟨hSettled'', hSame', hStarted⟩ := startPreview_spec (r := r) hPrepared hSettled'
    simp only [if_pos hOk]
    obtain ⟨hStart, hGoes⟩ | ⟨hStart, hRests⟩ := hStarted
    · rw [if_pos (show (parent.startPreview r prepared.1).2 = noError from hStart)]
      exact ⟨hSettled'', hSame.trans hSame', .inl ⟨hStart, hGoes⟩⟩
    · rw [if_neg (show ¬ (parent.startPreview r prepared.1).2 = noError from hStart)]
      refine ⟨?_, ?_,
        .inr ⟨hStart, empty_unpreparePreview hRests.capture hRests.raw hRests.metadata⟩⟩
      · simpa [parent, HardwareInterface.unpreparePreview] using hSettled''
      · simpa [parent, HardwareInterface.unpreparePreview] using hSame.trans hSame'
  · simp only [if_neg hFailed]
    exact ⟨hSettled', hSame, .inr ⟨hFailed, hEmpty⟩⟩

theorem startChannel_succeeds (hr : r.Succeeds) {c : ChannelObject} (hCh : s.channels ch = some c) :
    s.startChannel r ch = (s.setChannel ch (some { c with active := true }), noError) := by
  simp only [startChannel, hCh, hr.config, hr.start, startChannelObject, ↓reduceIte]

theorem preparePreview_succeeds (hr : r.Succeeds) (state : SmState) :
    (s.preparePreview r state).2 = noError := by
  have hRecording : ∀ s : HardwareInterface, (s.addRecordingChannels r).2 = noError := by
    intro s
    rw [addRecordingChannels]
    split <;> simp [hr.addChannel]
  rw [preparePreview]
  split
  · simp [hr.addChannel]
  · split
    · simp [hRecording, hr.addChannel]
    · simp [hr.addChannel]

theorem startPreview_succeeds (hr : r.Succeeds) (hs : Prepared s false false)
    (hSettled : s.modes.Settled) : (s.startPreview r).2 = noError := by
  obtain ⟨hZsl, hPreview, -⟩ := hs.unmoved (Unmoved.commit (r := r) .thermal) hSettled
  rw [startPreview]
  by_cases hMode : (s.commit r .thermal).previewsZsl = true
  · rw [if_pos hMode] at hZsl ⊢
    rw [startChannel_succeeds hr hZsl]
  · rw [if_neg hMode] at hPreview ⊢
    rw [startChannel_succeeds hr hPreview]

theorem prepareAndStart_succeeds (hr : r.Succeeds) (hs : Empty s) (hSettled : s.modes.Settled)
    (state : SmState) : (parent.prepareAndStart r s state).2 = noError := by
  have hOk : (parent.preparePreview state r s).2 = noError := preparePreview_succeeds hr state
  obtain ⟨hSettled', -, hPrepared⟩ := preparePreview_spec (r := r) hs hSettled state
  have hStart : (parent.startPreview r (parent.preparePreview state r s).1).2 = noError := by
    obtain ⟨-, hPrepared⟩ | ⟨hFailed, -⟩ := hPrepared
    · exact startPreview_succeeds hr hPrepared hSettled'
    · exact absurd hOk hFailed
  rw [Parent.prepareAndStart]
  simp only [if_pos hOk, if_pos hStart]
  exact hStart

theorem Prepared.startVideo (hr : r.Succeeds) (hs : Prepared s true false)
    (hHint : s.modes.recordingHint = true) : (s.startChannel r .video).2 = noError ∧
      Prepared (s.startChannel r .video).1 true true := by
  have hVideo := hs.video
  rw [if_pos hHint] at hVideo
  obtain ⟨hZsl, hPreview, -, hSnapshot, hCapture, hRaw, hMetadata⟩ := hs
  rw [startChannel_succeeds hr hVideo]
  refine ⟨rfl, ?_⟩
  constructor <;> simp_all [previewsZsl]

theorem Prepared.startRecording (hr : r.Succeeds) (hBatch : r.initBatchUpdate = true)
    (hEntry : r.addHintEntry = noError) (hCommit : r.commit .recordingHint = noError)
    (hs : Prepared s true false) (hSettled : s.modes.Settled) (state : SmState) :
    (s.startRecording r state).2 = noError ∧ Prepared (s.startRecording r state).1 true true ∧
      (s.startRecording r state).1.modes.Settled ∧
      (s.startRecording r state).1.modes.recordingHint = true := by
  rw [HardwareInterface.startRecording]
  by_cases hHint : s.modes.recordingHint = true
  · obtain ⟨hOk, hGoes⟩ := hs.startVideo hr hHint
    simp only [if_pos hHint, ↓reduceIte, startChannel_modes]
    exact ⟨hOk, hGoes, hSettled, hHint⟩
  · have hStopped : s.stopPreview.1.modes.Settled := by
      simpa [HardwareInterface.stopPreview, HardwareInterface.unpreparePreview] using hSettled
    obtain ⟨hHintSettled, -, hHinted, -⟩ :=
      Modes.updateRecordingHintValue_spec hStopped true hBatch hEntry hCommit
    have hEmpty : Empty { s.stopPreview.1 with
        modes := s.stopPreview.1.modes.updateRecordingHintValue true r } := hs.stopPreview
    obtain ⟨hSettled', hSame, hPrepared⟩ := preparePreview_spec (r := r) hEmpty hHintSettled state
    have hOk := preparePreview_succeeds (s := { s.stopPreview.1 with
      modes := s.stopPreview.1.modes.updateRecordingHintValue true r }) hr state
    simp only [if_neg hHint, if_pos hOk]
    generalize preparePreview r { s.stopPreview.1 with
      modes := s.stopPreview.1.modes.updateRecordingHintValue true r } state = prepared
      at hSettled' hSame hPrepared hOk ⊢
    have hPreviewHint : prepared.1.modes.recordingHint = true := hSame.recordingHint.trans hHinted
    obtain ⟨-, hPrepared⟩ | ⟨hFailed, -⟩ := hPrepared
    · have hPreview := hPrepared.preview
      rw [if_neg (by simp [previewsZsl, hPreviewHint])] at hPreview
      have hGoes : Prepared (prepared.1.startChannel r .preview).1 true false := by
        rw [startChannel_succeeds hr hPreview]
        obtain ⟨hZsl, -, hVideo, hSnapshot, hCapture, hRaw, hMetadata⟩ := hPrepared
        constructor <;> simp_all [previewsZsl]
      have hStarted : (prepared.1.startChannel r .preview).2 = noError := by
        rw [startChannel_succeeds hr hPreview]
      obtain ⟨hVideoOk, hFilms⟩ := hGoes.startVideo hr (by simpa using hPreviewHint)
      simp only [if_pos hStarted, startChannel_modes]
      exact ⟨hVideoOk, hFilms, hSettled', hPreviewHint⟩
    · exact absurd hOk hFailed

theorem dropPreview_eq : s.dropPreview = (s.setChannel .preview
    ((s.channels .preview).map fun c => { c with active := false })).setChannel .preview none := by
  rw [dropPreview, stopChannel_fst, delChannel_true]

@[simp] theorem dropPreview_channels : s.dropPreview.channels ch =
    if ch = .preview then none else s.channels ch := by
  rw [dropPreview_eq]
  simp only [channels_setChannel]
  split <;> simp_all

@[simp] theorem dropPreview_modes : s.dropPreview.modes = s.modes := by
  rw [dropPreview_eq]
  rfl

@[simp] theorem dropPreview_longshot : s.dropPreview.mLongshotEnabled = s.mLongshotEnabled := by
  rw [dropPreview_eq]
  rfl

/-- A picture from the channel of the preview changes no channel. -/
theorem Unmoved.takeZslPicture (hSettled : s.modes.Settled) (hZsl : s.modes.zslMode = true) :
    Unmoved s (s.takePicture r).1 := by
  have hFirst : ∃ s', (if r.isAdvancedCapture then s.commit r .advancedCapture else s) = s' ∧
      Unmoved s s' := by
    split
    · exact ⟨_, rfl, .commit _⟩
    · exact ⟨_, rfl, .refl⟩
  obtain ⟨s', hEq, hUnmoved⟩ := hFirst
  rw [HardwareInterface.takePicture]
  simp only [hEq, if_pos ((hUnmoved.same hSettled).zslMode.trans hZsl)]
  rw [HardwareInterface.takeZslPicture]
  split <;> exact hUnmoved.trans (.commit _)

@[simp] theorem startChannel_longshot :
    (s.startChannel r ch).1.mLongshotEnabled = s.mLongshotEnabled := by
  obtain ⟨-, hSame⟩ | ⟨-, c, -, hSet⟩ := startChannel_cases (r := r) (s := s) ch
  · rw [hSame]
  · rw [hSet, longshot_setChannel]

/-- What is left of the channels once the one of a picture has been asked for. -/
structure PictureOutcome (s : HardwareInterface) (q : HardwareInterface × Int) : Prop where
  modes : q.1.modes = s.modes
  longshot : q.1.mLongshotEnabled = s.mLongshotEnabled
  channels : q.2 = noError ∧ Pictured q.1 ∨ q.2 ≠ noError ∧ Empty q.1

/-- A channel is added where no other is, and started. -/
theorem startCapture_spec (hZsl : s.modes.zslMode = false) (hLongshot : s.mLongshotEnabled = false)
    (hTakes : s.modes.takesCapture = true)
    (hOther : ∀ ch, ch ≠ .capture → s.channels ch = none)
    (hBracket : r.isBracketedCapture = true → r.startAdvancedCapture = noError) :
    PictureOutcome s (s.startCapture r) := by
  rw [startCapture]
  obtain ⟨hFailed, hSame⟩ | ⟨hOk, c, -, hSet⟩ := startChannel_cases (r := r) (s := s)
    .capture
  · simp only [if_neg hFailed, hSame, delChannel_true]
    refine ⟨rfl, rfl, .inr ⟨hFailed, fun ch => ?_⟩⟩
    by_cases hCh : ch = .capture
    · simp [hCh]
    · simp [hCh, hOther ch hCh]
  · have hAdvanced :
        ¬ (r.isBracketedCapture && decide (r.startAdvancedCapture ≠ noError)) = true := by
      intro h
      simp only [Bool.and_eq_true, decide_eq_true_eq] at h
      exact h.2 (hBracket h.1)
    simp only [if_pos hOk, if_neg hAdvanced, startChannel_longshot, hLongshot,
      Bool.false_eq_true, ↓reduceIte]
    refine ⟨startChannel_modes, startChannel_longshot.trans rfl, .inl ⟨hOk, ?_⟩⟩
    rw [hSet]
    constructor <;> simp_all

theorem takeRawPicture_spec (hZsl : s.modes.zslMode = false)
    (hLongshot : s.mLongshotEnabled = false) (hTakes : s.modes.takesCapture = false)
    (hOther : ∀ ch, ch ≠ .preview → s.channels ch = none) :
    PictureOutcome s (s.takeRawPicture r) := by
  have hDropped : ∀ ch, s.dropPreview.channels ch = none := by
    intro ch
    by_cases hCh : ch = .preview
    · simp [hCh]
    · simp [hCh, hOther ch hCh]
  rw [takeRawPicture]
  by_cases hAdd : r.addChannel .raw = noError
  · simp only [addChannel_snd, if_pos hAdd]
    split
    · obtain ⟨hFailed, hSame⟩ | ⟨hOk, c, -, hSet⟩ := startChannel_cases (r := r)
        (s := (s.dropPreview.addChannel r .raw).1) .raw
      · simp only [if_neg hFailed, hSame, delChannel_true]
        refine ⟨by simp, by simp, .inr ⟨hFailed, fun ch => ?_⟩⟩
        by_cases hCh : ch = .raw
        · simp [hCh]
        · simpa [hCh, addChannel_channels] using hOther ch
      · simp only [if_pos hOk]
        refine ⟨by simp, by simp, .inl ⟨hOk, ?_⟩⟩
        rw [hSet]
        constructor <;> simp_all [addChannel_channels]
    · rename_i hPostprocessor
      simp only [delChannel_true]
      refine ⟨by simp, by simp, .inr ⟨hPostprocessor, fun ch => ?_⟩⟩
      by_cases hCh : ch = .raw
      · simp [hCh]
      · simpa [hCh, addChannel_channels] using hOther ch
  · simp only [addChannel_snd, if_neg hAdd]
    refine ⟨by simp, by simp, .inr ⟨by simpa using hAdd, fun ch => ?_⟩⟩
    by_cases hCh : ch = .raw
    · simp [hCh, addChannel_channels, hAdd]
    · simpa [hCh, addChannel_channels] using hOther ch

/-- A picture that is not taken from the channel of the preview has that channel make room. -/
theorem takePicture_spec (hs : Prepared s true false) (hSettled : s.modes.Settled)
    (hZsl : s.modes.zslMode = false) (hHint : s.modes.recordingHint = false)
    (hLongshot : s.mLongshotEnabled = false) (hPostview : r.isPostviewQueued = true)
    (hBracket : r.isBracketedCapture = true → r.startAdvancedCapture = noError) :
    (s.takePicture r).1.modes.Settled ∧ (s.takePicture r).1.modes.zslMode = false ∧
      (s.takePicture r).1.mLongshotEnabled = false ∧
      ((s.takePicture r).2 = noError ∧ Pictured (s.takePicture r).1 ∨
        (s.takePicture r).2 ≠ noError ∧ Empty (s.takePicture r).1) := by
  have hFirst : ∃ s', (if r.isAdvancedCapture then s.commit r .advancedCapture else s) = s' ∧
      Unmoved s s' ∧ s'.mLongshotEnabled = s.mLongshotEnabled := by
    split
    · exact ⟨_, rfl, .commit _, rfl⟩
    · exact ⟨_, rfl, .refl, rfl⟩
  obtain ⟨s', hEq, hUnmoved, hLongshot'⟩ := hFirst
  have hZsl' := (hUnmoved.same hSettled).zslMode.trans hZsl
  have hOther : ∀ ch, ch ≠ .preview → s'.channels ch = none := by
    obtain ⟨h₁, -, h₃, h₄, h₅, h₆, h₇⟩ := hs
    rw [hUnmoved.channels]
    intro ch hCh
    cases ch <;> simp_all [previewsZsl]
  rw [HardwareInterface.takePicture]
  simp only [hEq, if_neg (show ¬ s'.modes.zslMode = true by simp [hZsl'])]
  by_cases hTakes : s'.modes.takesCapture = true
  · have hLong := hLongshot'.trans hLongshot
    rw [if_pos hTakes]
    simp only [addCapture, if_neg (show ¬ s'.mLongshotEnabled = true by simp [hLong]),
      addChannel_snd]
    by_cases hAdd : r.addChannel .capture = noError
    · simp only [if_pos hAdd, if_pos hPostview, ↓reduceIte]
      obtain ⟨hModes, hLong', hChannels⟩ := startCapture_spec (r := r)
        (s := (s'.addChannel r .capture).1.dropPreview) (by simpa using hZsl')
        (by simpa using hLong) (by simpa using hTakes) (fun ch hCh => by
          simpa [hCh, addChannel_channels] using hOther ch) hBracket
      simp only [dropPreview_modes, addChannel_modes, dropPreview_longshot,
        addChannel_longshot] at hModes hLong'
      exact ⟨hModes ▸ hUnmoved.settled hSettled, hModes ▸ hZsl', hLong'.trans hLong, hChannels⟩
    · simp only [if_neg hAdd]
      refine ⟨by simpa using hUnmoved.settled hSettled, by simpa using hZsl', by simpa using hLong,
        .inr ⟨hAdd, fun ch => ?_⟩⟩
      by_cases hCh : ch = .capture
      · simp [hCh, addChannel_channels, hAdd]
      · simpa [hCh, addChannel_channels] using hOther ch
  · rw [if_neg hTakes]
    obtain ⟨hModes, hLong, hChannels⟩ := takeRawPicture_spec (r := r) hZsl'
      (hLongshot'.trans hLongshot) (by simpa using hTakes) hOther
    exact ⟨hModes ▸ hUnmoved.settled hSettled, hModes ▸ hZsl',
      hLong.trans (hLongshot'.trans hLongshot), hChannels⟩

theorem Pictured.cancelPicture (hs : Pictured s) (hSettled : s.modes.Settled) :
    Empty s.cancelPicture.1 ∧ s.cancelPicture.1.modes.Settled := by
  have hCommit : Unmoved s (s.commit s.outside .endOfAdvancedCapture) := .commit _
  have hSame := hCommit.same hSettled
  have hZsl := hSame.zslMode.trans hs.zslMode
  have hTakes := hSame.takesCapture
  rw [HardwareInterface.cancelPicture]
  generalize s.commit s.outside .endOfAdvancedCapture = s' at hCommit hZsl hTakes ⊢
  obtain ⟨-, -, hCapture, hRaw, h₁, h₂, h₃, h₄, h₅⟩ := hs
  rw [← hCommit.channels, ← hTakes] at hCapture hRaw
  rw [← hCommit.channels] at h₁ h₂ h₃ h₄ h₅
  simp only [if_neg (show ¬ s'.modes.zslMode = true by simp [hZsl])]
  split
  · rename_i hTakes
    simp only [stopChannel_fst, delChannel_true]
    refine ⟨fun ch => ?_, hCommit.settled hSettled⟩
    cases ch <;> simp_all
  · rename_i hTakes
    simp only [stopChannel_fst, delChannel_true]
    refine ⟨fun ch => ?_, hCommit.settled hSettled⟩
    cases ch <;> simp_all

theorem Pictured.unmoved (h : Unmoved s s') (hSettled : s.modes.Settled)
    (hLongshot : s'.mLongshotEnabled = s.mLongshotEnabled) (hs : Pictured s) : Pictured s' := by
  have hSame := h.same hSettled
  obtain ⟨hZsl, hLong, hCapture, hRaw, h₁, h₂, h₃, h₄, h₅⟩ := hs
  rw [← h.channels, ← hSame.takesCapture] at hCapture hRaw
  rw [← h.channels] at h₁ h₂ h₃ h₄ h₅
  exact ⟨hSame.zslMode.trans hZsl, hLongshot.trans hLong, hCapture, hRaw, h₁, h₂, h₃, h₄, h₅⟩

theorem Pictured.stopCaptureChannel (hs : Pictured s) :
    Pictured (s.stopCaptureChannel false).1 := by
  obtain ⟨hZsl, hLong, hCapture, hRaw, h₁, h₂, h₃, h₄, h₅⟩ := hs
  rw [HardwareInterface.stopCaptureChannel]
  dsimp only
  split
  · simp only [Bool.false_eq_true, ↓reduceIte, stopChannel_fst]
    constructor <;> simp_all
  · exact ⟨hZsl, hLong, hCapture, hRaw, h₁, h₂, h₃, h₄, h₅⟩

theorem Prepared.setSnapshot {running films : Bool} (hs : Prepared s running films)
    {c : Option ChannelObject} (hc : s.modes.recordingHint = false → c = none) :
    Prepared (s.setChannel .snapshot c) running films := by
  obtain ⟨hZsl, hPreview, hVideo, -, hCapture, hRaw, hMetadata⟩ := hs
  exact ⟨(channels_setChannel .zsl _).trans hZsl, (channels_setChannel .preview _).trans hPreview,
    (channels_setChannel .video _).trans hVideo,
    fun hHint => (channels_setChannel .snapshot _).trans (hc hHint),
    (channels_setChannel .capture _).trans hCapture,
    (channels_setChannel .raw _).trans hRaw, (channels_setChannel .metadata _).trans hMetadata⟩

theorem Prepared.stopSnapshot {running films : Bool} (hs : Prepared s running films) :
    Prepared (s.stopChannel .snapshot).1 running films := by
  rw [stopChannel_fst]
  exact hs.setSnapshot fun hHint => by rw [hs.snapshot hHint]; rfl

theorem Prepared.stopVideo {running films : Bool} (hs : Prepared s running films) :
    Prepared s.stopRecording.1 running false := by
  obtain ⟨hZsl, hPreview, hVideo, hSnapshot, hCapture, hRaw, hMetadata⟩ := hs
  rw [HardwareInterface.stopRecording, stopChannel_fst]
  refine ⟨(channels_setChannel .zsl _).trans hZsl, (channels_setChannel .preview _).trans hPreview,
    ?_, fun hHint => (channels_setChannel .snapshot _).trans (hSnapshot hHint),
    (channels_setChannel .capture _).trans hCapture, (channels_setChannel .raw _).trans hRaw,
    (channels_setChannel .metadata _).trans hMetadata⟩
  rw [channels_setChannel, if_pos rfl, modes_setChannel, hVideo]
  split <;> rfl

/-- What a thread of a live snapshot can still do to the channels. -/
theorem Prepared.takeLiveSnapshotInternal {running films : Bool} (hs : Prepared s running films)
    (hHint : s.modes.recordingHint = true) :
    Prepared s.takeLiveSnapshotInternal running films ∧
      s.takeLiveSnapshotInternal.modes = s.modes := by
  rw [HardwareInterface.takeLiveSnapshotInternal]
  have hLive : Prepared { s with liveSnapshot := none } running films := hs.of_eq rfl rfl rfl
  split
  · exact ⟨hs, rfl⟩
  · dsimp only
    split
    · exact ⟨hLive, rfl⟩
    · rw [startChannelObject]
      dsimp only
      split
      · exact ⟨hLive.setSnapshot fun hNo => by simp [hHint] at hNo, rfl⟩
      · exact ⟨hLive, rfl⟩

/-- Without the hint nothing turns longshot off. -/
theorem prepareAndStart_longshot (hHint : s.modes.recordingHint = false) (state : SmState) :
    (parent.prepareAndStart r s state).1.mLongshotEnabled = s.mLongshotEnabled := by
  have hPrepared : (parent.preparePreview state r s).1.mLongshotEnabled = s.mLongshotEnabled := by
    simp only [parent, preparePreview, hHint, Bool.false_eq_true, ↓reduceIte]
    split <;> simp
  have hStarted : (parent.startPreview r (parent.preparePreview state r s).1).1.mLongshotEnabled =
      (parent.preparePreview state r s).1.mLongshotEnabled := by
    simp only [parent, startPreview]
    split <;> exact startChannel_longshot
  rw [Parent.prepareAndStart]
  dsimp only
  split
  · split
    · exact hStarted.trans hPrepared
    · refine Eq.trans ?_ (hStarted.trans hPrepared)
      simp [parent, HardwareInterface.unpreparePreview]
  · exact hPrepared

end HardwareInterface

namespace HalSystem

open HardwareInterface

/-- The events in which the preview is stopped and started again on the way. -/
def restartsInside : SmState → SmEvt → Bool
  | .previewing, .startRecording | .previewing, .takePicture | .previewing, .sendCommand
  | .previewPicTaking, .startRecording | .previewPicTaking, .setParams => true
  | _, _ => false

/-- The parameters are taken. A recording goes on with them, and a picture is still cancelled in the
way in which it was taken. -/
structure Accepted (w : HalSystem) (r : HalAnswers) : Prop where
  status : (w.hal.modes.updateParameters r).2.1 = noError
  recording : w.state.records = true → (w.hal.modes.updateParameters r).2.2 = false
  picture : w.state = .picTaking →
    ((w.hal.modes.updateParameters r).1.commitSetBatch r .params).zslMode = w.hal.modes.zslMode ∧
      (w.hal.modes.updateParameters r).1.takesCapture = w.hal.modes.takesCapture

/-- A picture is asked for where the HAL can take it back: with longshot only from the channel of
the preview, and what the capture needs besides its channel is there. -/
structure Takes (w : HalSystem) (r : HalAnswers) : Prop where
  longshot : w.hal.modes.zslMode = true ∨ w.hal.mLongshotEnabled = false
  postview : r.isPostviewQueued = true
  bracket : r.isBracketedCapture = true → r.startAdvancedCapture = noError

/-- What is asked of an event and of its answers. -/
structure Steady (w : HalSystem) (evt : SmEvt) (p : SmPayload) (r : HalAnswers) : Prop where
  restart : restartsInside w.state evt = true → r.Succeeds
  initBatchUpdate : r.initBatchUpdate = true
  addHintEntry : r.addHintEntry = noError
  commitHint : r.commit .recordingHint = noError
  commitParams : r.commit .params = noError
  notEarly : r.earlyRestart = false
  setParams : evt = .setParams → w.Accepted r
  takePicture : evt = .takePicture → w.state = .previewing → w.Takes r
  longshotOff : w.state = .picTaking → ¬ (evt = .sendCommand ∧ p.cmd = .longshotOff)

def SteadyInput (w : HalSystem) : HalInput → Prop
  | .event evt p r => w.Steady evt p r
  | .liveSnapshot => True

/-- Every input of a run is steady where it comes. -/
def SteadyRun : HalSystem → List HalInput → Prop
  | _, [] => True
  | w, i :: inputs => w.SteadyInput i ∧ (w.step i).SteadyRun inputs

/-- The channels that there are in a state, with whether those of the preview and of the video
run. -/
def Table (w : HalSystem) : Prop :=
  match w.state with
  | .previewStopped => Empty w.hal
  | .previewReady => Prepared w.hal false false
  | .previewing | .prepareSnapshot | .previewPicTaking => Prepared w.hal true false
  | .recording | .videoPicTaking =>
    Prepared w.hal true true ∧ w.hal.modes.recordingHint = true
  | .picTaking => Pictured w.hal

/-- The table of the state, with no mode waiting for a commit. -/
structure Sound (w : HalSystem) : Prop where
  settled : w.hal.modes.Settled
  table : w.Table

variable {r : HalAnswers} {p : SmPayload} {s s' : HardwareInterface} {state : SmState}
  {evt : SmEvt}

theorem Table.capture (h : Table ⟨s, state⟩) (hState : state ≠ .picTaking) :
    s.channels .capture = none ∧ s.channels .raw = none := by
  cases state with
  | picTaking => exact absurd rfl hState
  | previewStopped => exact ⟨h _, h _⟩
  | recording | videoPicTaking => exact ⟨h.1.capture, h.1.raw⟩
  | _ => exact ⟨Prepared.capture h, Prepared.raw h⟩

/-- A table of the preview does not depend on the other modes. -/
theorem Table.of_eq (h : Table ⟨s, state⟩) (hState : state ≠ .picTaking)
    (hChannels : s'.channels = s.channels) (hZsl : s'.modes.zslMode = s.modes.zslMode)
    (hHint : s'.modes.recordingHint = s.modes.recordingHint) : Table ⟨s', state⟩ := by
  cases state with
  | picTaking => exact absurd rfl hState
  | previewStopped =>
    intro ch
    rw [hChannels]
    exact h ch
  | recording | videoPicTaking => exact ⟨h.1.of_eq hChannels hZsl hHint, hHint.trans h.2⟩
  | _ => exact Prepared.of_eq h hChannels hZsl hHint

theorem Sound.unmoved (h : Unmoved s s')
    (hLongshot : state = .picTaking → s'.mLongshotEnabled = s.mLongshotEnabled)
    (hs : Sound ⟨s, state⟩) : Sound ⟨s', state⟩ := by
  refine ⟨h.settled hs.settled, ?_⟩
  have hSame := h.same hs.settled
  by_cases hState : state = .picTaking
  · subst hState
    exact Pictured.unmoved h hs.settled (hLongshot rfl) hs.table
  · exact hs.table.of_eq hState h.channels hSame.zslMode hSame.recordingHint

theorem keepsPlain_sound : parent.KeepsPlain fun s => Sound ⟨s, state⟩ where
  plain op p r s hOp hs := by
    refine hs.unmoved (.plain op p hOp) fun _ => ?_
    cases op with
    | release => exact absurd rfl hOp
    | _ => rfl

theorem Sound.sendCommand (hs : Sound ⟨s, state⟩)
    (hOff : state = .picTaking → p.cmd ≠ .longshotOff) :
    Sound ⟨(s.sendCommand r state p.cmd).1, state⟩ := by
  by_cases hState : state = .picTaking
  · subst hState
    cases hCmd : p.cmd with
    | longshotOn => exact hs
    | longshotOff => exact absurd hCmd (hOff rfl)
    | other => exact hs.unmoved (.commit _) fun _ => rfl
  · obtain ⟨hCapture, hRaw⟩ := hs.table.capture hState
    exact hs.unmoved (.sendCommand hCapture hRaw _ _) fun h => absurd h hState

theorem sound_outcome {running : Bool} {q : HardwareInterface × Int}
    (h : Outcome s q running) {ok : SmState}
    (hOk : Prepared q.1 running false → Table ⟨q.1, ok⟩) :
    Sound ⟨q.1, if q.2 = noError then ok else .previewStopped⟩ := by
  refine ⟨h.settled, ?_⟩
  obtain ⟨hYes, hPrepared⟩ | ⟨hNo, hEmpty⟩ := h.channels
  · rw [if_pos hYes]
    exact hOk hPrepared
  · rw [if_neg hNo]
    exact hEmpty

/-- Parameters that are taken: without a restart they are committed, with one it is up to the
restart. -/
theorem Sound.setParams (hs : Sound ⟨s, state⟩) {restart : HardwareInterface → SmState × _ × Int}
    (hStatus : (s.modes.updateParameters r).2.1 = noError)
    (hPicture : state = .picTaking →
      (s.modes.updateParameters r).1.takesCapture = s.modes.takesCapture)
    (hRestart : ∀ s', s'.channels = s.channels → s'.modes.zslMode = s.modes.zslMode →
      s'.modes.recordingHint = s.modes.recordingHint → s' = (s.updateParameters r).1 →
      (s.modes.updateParameters r).2.2 = true → Sound ⟨(restart s').2.1, (restart s').1⟩) :
    Sound ⟨(parent.setParams r p s state evt restart).hal,
      (parent.setParams r p s state evt restart).state⟩ := by
  obtain ⟨hZsl, hHint, hSettled⟩ := Modes.updateParameters_spec (r := r) hs.settled
  have hOk : (parent.updateParameters p r s).2.1 = noError := hStatus
  simp only [Parent.setParams, reply, if_pos hOk]
  by_cases hFlag : (s.modes.updateParameters r).2.2 = true
  · rw [if_pos (show (parent.updateParameters p r s).2.2 = true from hFlag)]
    exact hRestart _ rfl hZsl hHint rfl hFlag
  · rw [if_neg (show ¬ (parent.updateParameters p r s).2.2 = true from hFlag)]
    have hUpdated : Sound ⟨(s.updateParameters r).1, state⟩ := by
      refine ⟨hSettled (by simpa using hFlag), ?_⟩
      by_cases hState : state = .picTaking
      · subst hState
        obtain ⟨hZslMode, hLong, hCapture, hRaw, h₁, h₂, h₃, h₄, h₅⟩ := hs.table
        rw [← hPicture rfl] at hCapture hRaw
        exact ⟨hZsl.trans hZslMode, hLong, hCapture, hRaw, h₁, h₂, h₃, h₄, h₅⟩
      · exact hs.table.of_eq hState rfl hZsl hHint
    exact keepsPlain_sound.plain .commitParameterChanges p r _ (by decide) hUpdated

/-- The parameters that were set are committed. -/
theorem settled_commit (hCommit : r.commit .params = noError) :
    (parent.plain .commitParameterChanges p r s).1.modes.Settled := by
  simp only [parent, HardwareInterface.plain, HardwareInterface.commit, Modes.commitSetBatch,
    if_pos hCommit]
  exact Modes.commitParamChanges_settled _

theorem Outcome.restartPreview {running films : Bool} (state : SmState)
    (hs : Prepared s running films) (hCommit : r.commit .params = noError) :
    ∃ s', Outcome s' (parent.restartPreview r p state s) true := by
  have hEmpty : Empty (parent.plain .commitParameterChanges p r s.stopPreview.1).1 := hs.stopPreview
  exact ⟨_, prepareAndStart_spec hEmpty (settled_commit hCommit) state⟩

theorem sound_previewStopped (hs : Sound ⟨s, .previewStopped⟩)
    (hSteady : Steady ⟨s, .previewStopped⟩ evt p r) :
    Sound ⟨(parent.procEvtPreviewStoppedState r p s evt).hal,
      (parent.procEvtPreviewStoppedState r p s evt).state⟩ := by
  have hEmpty : Empty s := hs.table
  cases evt with
  | setParams =>
    obtain ⟨hStatus, -, -⟩ := hSteady.setParams rfl
    have hOk : (parent.updateParameters p r s).2.1 = noError := hStatus
    simp only [Parent.procEvtPreviewStoppedState, reply, if_pos hOk]
    refine ⟨settled_commit (p := p) hSteady.commitParams, ?_⟩
    split <;> exact hEmpty
  | startPreview =>
    simp only [Parent.procEvtPreviewStoppedState]
    split
    · exact sound_outcome (prepareAndStart_spec hEmpty hs.settled _) id
    · exact sound_outcome (preparePreview_spec hEmpty hs.settled _) id
  | startNodisplayPreview => exact sound_outcome (prepareAndStart_spec hEmpty hs.settled _) id
  | release => exact ⟨hs.settled, fun _ => rfl⟩
  | sendCommand => exact hs.sendCommand fun h => by cases h
  | evtNotify =>
    simp only [Parent.procEvtPreviewStoppedState, Parent.procServerEvt_state]
    exact keepsPlain_sound.procServerEvt hs
  | _ => first | exact hs | exact keepsPlain_sound.plain _ _ _ _ (by decide) hs

theorem sound_previewReady (hs : Sound ⟨s, .previewReady⟩)
    (hSteady : Steady ⟨s, .previewReady⟩ evt p r) :
    Sound ⟨(parent.procEvtPreviewReadyState r p s evt).hal,
      (parent.procEvtPreviewReadyState r p s evt).state⟩ := by
  have hPrepared : Prepared s false false := hs.table
  cases evt with
  | setPreviewWindow =>
    have hSet : Prepared (parent.plain .setPreviewWindow p r s).1 false false :=
      hPrepared.of_eq rfl rfl rfl
    obtain ⟨hSettled, -, hStarted⟩ := startPreview_spec (r := r) hSet hs.settled
    simp only [Parent.procEvtPreviewReadyState]
    split
    · obtain ⟨hOk, hGoes⟩ | ⟨hFailed, hRests⟩ := hStarted
      · rw [if_pos (show (parent.startPreview r _).2 = noError from hOk)]
        exact ⟨hSettled, hGoes⟩
      · rw [if_neg (show ¬ (parent.startPreview r _).2 = noError from hFailed)]
        exact ⟨by simpa [reply, parent] using hSettled,
          empty_unpreparePreview hRests.capture hRests.raw hRests.metadata⟩
    · exact ⟨hs.settled, hSet⟩
  | setParams =>
    obtain ⟨hStatus, -, -⟩ := hSteady.setParams rfl
    refine hs.setParams hStatus (fun h => by cases h) fun s' hChannels hZsl hHint _ _ => ?_
    have hRests : Prepared s' false false := hPrepared.of_eq hChannels hZsl hHint
    have hEmpty : Empty (parent.plain .commitParameterChanges p r s'.unpreparePreview).1 :=
      empty_unpreparePreview hRests.capture hRests.raw hRests.metadata
    exact sound_outcome (preparePreview_spec hEmpty (settled_commit hSteady.commitParams) _) id
  | stopPreview =>
    exact ⟨by simpa [Parent.procEvtPreviewReadyState, reply, parent] using hs.settled,
      empty_unpreparePreview hPrepared.capture hPrepared.raw hPrepared.metadata⟩
  | sendCommand => exact hs.sendCommand fun h => by cases h
  | evtNotify =>
    simp only [Parent.procEvtPreviewReadyState, Parent.procServerEvt_state]
    exact keepsPlain_sound.procServerEvt hs
  | _ => first | exact hs | exact keepsPlain_sound.plain _ _ _ _ (by decide) hs

/-- The preview is started again for a picture when the recording was hinted at. -/
theorem restart_for_picture (hs : Sound ⟨s, .previewing⟩)
    (hSteady : Steady ⟨s, .previewing⟩ .takePicture p r) :
    ∃ s', (if parent.recordingHint s then
        (parent.prepareAndStart r (parent.updateRecordingHintValue false r (parent.stopPreview s).1)
          .previewing).1 else s) = s' ∧
      Prepared s' true false ∧ s'.modes.Settled ∧ s'.modes.recordingHint = false ∧
      s'.modes.zslMode = s.modes.zslMode ∧ s'.mLongshotEnabled = s.mLongshotEnabled := by
  have hPrepared : Prepared s true false := hs.table
  by_cases hHint : parent.recordingHint s = true
  · rw [if_pos hHint]
    have hStopped : s.stopPreview.1.modes.Settled := by simpa using hs.settled
    obtain ⟨hSettled, hZsl, hNew, -⟩ := Modes.updateRecordingHintValue_spec hStopped false
      hSteady.initBatchUpdate hSteady.addHintEntry hSteady.commitHint
    have hEmpty : Empty (parent.updateRecordingHintValue false r (parent.stopPreview s).1) :=
      hPrepared.stopPreview
    obtain ⟨hAfter, hSame, hChannels⟩ := prepareAndStart_spec (r := r) hEmpty hSettled .previewing
    have hOk := prepareAndStart_succeeds (hSteady.restart rfl) hEmpty hSettled .previewing
    refine ⟨_, rfl, ?_, hAfter, hSame.recordingHint.trans hNew, ?_, ?_⟩
    · obtain ⟨-, hGoes⟩ | ⟨hFailed, -⟩ := hChannels
      · exact hGoes
      · exact absurd hOk hFailed
    · exact (hSame.zslMode.trans hZsl).trans (by simp)
    · exact (prepareAndStart_longshot hNew .previewing).trans stopPreview_longshot
  · rw [if_neg hHint]
    exact ⟨s, rfl, hPrepared, hs.settled, by simpa [parent] using hHint, rfl, rfl⟩

theorem sound_takePicture (hs : Sound ⟨s, .previewing⟩)
    (hSteady : Steady ⟨s, .previewing⟩ .takePicture p r) :
    Sound ⟨(parent.procEvtPreviewingState r p s .takePicture).hal,
      (parent.procEvtPreviewingState r p s .takePicture).state⟩ := by
  obtain ⟨hLongshot, hPostview, hBracket⟩ := hSteady.takePicture rfl rfl
  obtain ⟨s', hEq, hPrepared, hSettled, hHint, hZsl, hLong⟩ := restart_for_picture hs hSteady
  simp only [Parent.procEvtPreviewingState, hEq]
  by_cases hMode : s'.modes.zslMode = true
  · have hTaken : Unmoved s' (parent.takePicture r s').1 := .takeZslPicture hSettled hMode
    have hAfter : Prepared (parent.takePicture r s').1 true false :=
      hPrepared.unmoved hTaken hSettled
    have hZslMode : parent.isZSLMode s' = true := hMode
    simp only [hZslMode, Bool.true_or, ↓reduceIte, reply]
    refine ⟨hTaken.settled hSettled, ?_⟩
    split <;> exact hAfter
  · have hOff : s'.mLongshotEnabled = false :=
      hLong.trans (hLongshot.resolve_left fun h => hMode (hZsl.trans h))
    obtain ⟨hAfter, -, -, hChannels⟩ := takePicture_spec (r := r) hPrepared hSettled
      (by simpa using hMode) hHint hOff hPostview hBracket
    have hNeither : ¬ (parent.isZSLMode s' || parent.isLongshotEnabled s') = true := by
      simp [parent, hMode, hOff]
    simp only [if_neg hNeither, reply]
    refine ⟨hAfter, ?_⟩
    obtain ⟨hOk, hPictured⟩ | ⟨hFailed, hEmpty⟩ := hChannels
    · rw [if_pos (show (parent.takePicture r s').2 = noError from hOk)]
      exact hPictured
    · rw [if_neg (show ¬ (parent.takePicture r s').2 = noError from hFailed)]
      exact hEmpty

theorem sound_previewing (hs : Sound ⟨s, .previewing⟩)
    (hSteady : Steady ⟨s, .previewing⟩ evt p r) :
    Sound ⟨(parent.procEvtPreviewingState r p s evt).hal,
      (parent.procEvtPreviewingState r p s evt).state⟩ := by
  have hPrepared : Prepared s true false := hs.table
  cases evt with
  | setParams =>
    obtain ⟨hStatus, -, -⟩ := hSteady.setParams rfl
    refine hs.setParams hStatus (fun h => by cases h) fun s' hChannels hZsl hHint _ _ => ?_
    obtain ⟨_, hOutcome⟩ := Outcome.restartPreview (p := p) .previewing
      (hPrepared.of_eq hChannels hZsl hHint) hSteady.commitParams
    exact sound_outcome hOutcome id
  | stopPreview =>
    exact ⟨by simpa [Parent.procEvtPreviewingState, reply, parent] using hs.settled,
      hPrepared.stopPreview⟩
  | startRecording =>
    obtain ⟨hOk, hFilms, hSettled, hHint⟩ := hPrepared.startRecording (hSteady.restart rfl)
      hSteady.initBatchUpdate hSteady.addHintEntry hSteady.commitHint hs.settled .previewing
    simp only [Parent.procEvtPreviewingState, reply,
      if_pos (show (parent.startRecording .previewing r s).2 = noError from hOk)]
    exact ⟨hSettled, hFilms, hHint⟩
  | prepareSnapshot =>
    simp only [Parent.procEvtPreviewingState]
    split <;> exact ⟨hs.settled, hPrepared⟩
  | takePicture => exact sound_takePicture hs hSteady
  | sendCommand =>
    have hSent : Sound ⟨(s.sendCommand r .previewing p.cmd).1, .previewing⟩ :=
      hs.sendCommand fun h => by cases h
    simp only [Parent.procEvtPreviewingState, reply]
    split
    · have hTable : Prepared (s.sendCommand r .previewing p.cmd).1 true false := hSent.table
      have hEmpty : Empty (parent.clearMemoryPool (parent.stopPreview
          (parent.sendCommand .previewing p.cmd r s).1).1) := hTable.stopPreview
      have hSettled : (parent.clearMemoryPool (parent.stopPreview
          (parent.sendCommand .previewing p.cmd r s).1).1).modes.Settled := by
        simpa [parent] using hSent.settled
      obtain ⟨hAfter, -, hChannels⟩ := prepareAndStart_spec (r := r) hEmpty hSettled .previewing
      have hOk := prepareAndStart_succeeds (hSteady.restart rfl) hEmpty hSettled .previewing
      obtain ⟨-, hGoes⟩ | ⟨hFailed, -⟩ := hChannels
      · exact ⟨hAfter, hGoes⟩
      · exact absurd hOk hFailed
    · exact hSent
  | evtInternal =>
    simp only [Parent.procEvtPreviewingState, Parent.procInternal_state]
    exact keepsPlain_sound.procInternal hs _ _
  | evtNotify =>
    simp only [Parent.procEvtPreviewingState, Parent.procServerEvt_state]
    exact keepsPlain_sound.procServerEvt hs
  | _ => first | exact hs | exact keepsPlain_sound.plain _ _ _ _ (by decide) hs

theorem sound_prepareSnapshot (hs : Sound ⟨s, .prepareSnapshot⟩) :
    Sound ⟨(parent.procEvtPrepareSnapshotState r p s evt).hal,
      (parent.procEvtPrepareSnapshotState r p s evt).state⟩ := by
  cases evt with
  | evtInternal =>
    simp only [Parent.procEvtPrepareSnapshotState]
    split
    · have hPrepared : Sound ⟨s, .previewing⟩ := ⟨hs.settled, hs.table⟩
      exact keepsPlain_sound.plain .processPrepSnapshotDoneEvent p r s (by decide) hPrepared
    · rw [Parent.procInternal_state]
      exact keepsPlain_sound.procInternal hs _ _
  | evtNotify =>
    simp only [Parent.procEvtPrepareSnapshotState, Parent.procServerEvt_state]
    exact keepsPlain_sound.procServerEvt hs
  | _ => first | exact hs | exact keepsPlain_sound.plain _ _ _ _ (by decide) hs

theorem sound_picTaking (hs : Sound ⟨s, .picTaking⟩) (hSteady : Steady ⟨s, .picTaking⟩ evt p r) :
    Sound ⟨(parent.procEvtPicTakingState r p s evt).hal,
      (parent.procEvtPicTakingState r p s evt).state⟩ := by
  have hPictured : Pictured s := hs.table
  obtain ⟨hCancelled, hSettled⟩ := hPictured.cancelPicture hs.settled
  cases evt with
  | setParams =>
    obtain ⟨hStatus, -, hPicture⟩ := hSteady.setParams rfl
    obtain ⟨hZsl, hTakes⟩ := hPicture rfl
    refine hs.setParams hStatus (fun _ => hTakes) fun s' hChannels _ _ hEq _ => ?_
    subst hEq
    refine ⟨settled_commit (p := p) hSteady.commitParams, ?_⟩
    obtain ⟨hZslMode, hLong, hCapture, hRaw, h₁, h₂, h₃, h₄, h₅⟩ := hPictured
    have hCommitted : (parent.plain .commitParameterChanges p r (s.updateParameters r).1).1.modes =
        (s.modes.updateParameters r).1.commitSetBatch r .params := rfl
    have hFormat : ((s.modes.updateParameters r).1.commitSetBatch r .params).takesCapture =
        s.modes.takesCapture := by
      rw [← hTakes, Modes.commitSetBatch]
      split <;> rfl
    exact ⟨hCommitted ▸ hZsl.trans hZslMode, hLong, hCapture.trans (hCommitted ▸ hFormat.symm),
      hRaw.trans (by rw [hCommitted, hFormat]), h₁, h₂, h₃, h₄, h₅⟩
  | stopPreview | cancelPicture => exact ⟨hSettled, hCancelled⟩
  | snapshotDone =>
    have hEarly : ¬ parent.isPreviewRestartEnabled r = true := by
      simp [parent, hSteady.notEarly]
    simp only [Parent.procEvtPicTakingState, notifyEvt, if_neg hEarly]
    exact ⟨hSettled, hCancelled⟩
  | stopCaptureChannel =>
    have hEarly : parent.isPreviewRestartEnabled r = false := hSteady.notEarly
    simp only [Parent.procEvtPicTakingState, hEarly, Bool.false_eq_true, false_and, ↓reduceIte]
    refine ⟨?_, hPictured.stopCaptureChannel⟩
    simp only [parent, HardwareInterface.stopCaptureChannel]
    split
    · simpa using hs.settled
    · exact hs.settled
  | takePicture =>
    have hOff : ¬ parent.isLongshotEnabled s = true := by simp [parent, hPictured.longshot]
    simp only [Parent.procEvtPicTakingState, if_neg hOff]
    exact hs
  | sendCommand =>
    have hOff : p.cmd ≠ .longshotOff := fun h => hSteady.longshotOff rfl ⟨rfl, h⟩
    simp only [Parent.procEvtPicTakingState, reply, if_neg hOff]
    exact hs.sendCommand fun _ => hOff
  | evtInternal =>
    simp only [Parent.procEvtPicTakingState, Parent.procInternal_state]
    exact keepsPlain_sound.procInternal hs _ _
  | evtNotify =>
    simp only [Parent.procEvtPicTakingState, Parent.procCaptureEvt_state]
    exact keepsPlain_sound.procCaptureEvt hs _
  | _ => first | exact hs | exact keepsPlain_sound.plain _ _ _ _ (by decide) hs

theorem Sound.setParamsRecording (hs : Sound ⟨s, state⟩) (hState : state.records = true)
    (hSteady : Steady ⟨s, state⟩ .setParams p r) {restart : HardwareInterface → SmState × _ × Int} :
    Sound ⟨(parent.setParams r p s state evt restart).hal,
      (parent.setParams r p s state evt restart).state⟩ := by
  obtain ⟨hStatus, hRecording, -⟩ := hSteady.setParams rfl
  refine hs.setParams hStatus (fun h => by subst h; cases hState) fun _ _ _ _ _ hFlag => ?_
  exact absurd ((hRecording hState).symm.trans hFlag) (by decide)

theorem sound_recording (hs : Sound ⟨s, .recording⟩) (hSteady : Steady ⟨s, .recording⟩ evt p r) :
    Sound ⟨(parent.procEvtRecordingState r p s evt).hal,
      (parent.procEvtRecordingState r p s evt).state⟩ := by
  obtain ⟨hFilms, hHint⟩ := hs.table
  have hStopped : s.stopRecording.1.modes.Settled := by
    simpa [HardwareInterface.stopRecording] using hs.settled
  cases evt with
  | setParams => exact hs.setParamsRecording rfl hSteady
  | takePicture =>
    have hTaken : Sound ⟨(parent.takeLiveSnapshot r s).1, .recording⟩ := by
      simp only [parent, takeLiveSnapshot]
      split <;> exact ⟨hs.settled, hFilms.of_eq rfl rfl rfl, hHint⟩
    simp only [Parent.procEvtRecordingState, reply]
    split <;> exact ⟨hTaken.settled, hTaken.table⟩
  | stopRecording => exact ⟨hStopped, hFilms.stopVideo⟩
  | stopPreview =>
    exact ⟨by simpa [Parent.procEvtRecordingState, reply, parent] using hStopped,
      hFilms.stopVideo.stopPreview⟩
  | sendCommand => exact hs.sendCommand fun h => by cases h
  | evtInternal =>
    simp only [Parent.procEvtRecordingState, Parent.procInternal_state]
    exact keepsPlain_sound.procInternal hs _ _
  | evtNotify =>
    simp only [Parent.procEvtRecordingState, Parent.procServerEvt_state]
    exact keepsPlain_sound.procServerEvt hs
  | _ => first | exact hs | exact keepsPlain_sound.plain _ _ _ _ (by decide) hs

theorem sound_videoPicTaking (hs : Sound ⟨s, .videoPicTaking⟩)
    (hSteady : Steady ⟨s, .videoPicTaking⟩ evt p r) :
    Sound ⟨(parent.procEvtVideoPicTakingState r p s evt).hal,
      (parent.procEvtVideoPicTakingState r p s evt).state⟩ := by
  obtain ⟨hFilms, hHint⟩ := hs.table
  obtain ⟨hJoined, hModes⟩ := hFilms.takeLiveSnapshotInternal hHint
  have hCancelled : Prepared s.cancelLiveSnapshot.1 true true := hJoined.stopSnapshot
  have hStill : s.cancelLiveSnapshot.1.modes = s.modes := by
    rw [cancelLiveSnapshot, stopChannel_fst, modes_setChannel, hModes]
  have hStopped : s.cancelLiveSnapshot.1.stopRecording.1.modes.Settled := by
    simpa [HardwareInterface.stopRecording, hStill] using hs.settled
  cases evt with
  | setParams => exact hs.setParamsRecording rfl hSteady
  | cancelPicture | snapshotDone =>
    exact ⟨hStill.symm ▸ hs.settled, hCancelled, hStill.symm ▸ hHint⟩
  | stopRecording => exact ⟨hStopped, hCancelled.stopVideo⟩
  | stopPreview =>
    exact ⟨by simpa [Parent.procEvtVideoPicTakingState, reply, parent] using hStopped,
      hCancelled.stopVideo.stopPreview⟩
  | sendCommand => exact hs.sendCommand fun h => by cases h
  | evtInternal =>
    simp only [Parent.procEvtVideoPicTakingState, Parent.procInternal_state]
    exact keepsPlain_sound.procInternal hs _ _
  | evtNotify =>
    simp only [Parent.procEvtVideoPicTakingState, Parent.procServerEvt_state]
    exact keepsPlain_sound.procServerEvt hs
  | _ => first | exact hs | exact keepsPlain_sound.plain _ _ _ _ (by decide) hs

/-- A picture from the channel of the preview is cancelled without a change to the channels. -/
theorem Sound.cancelAnyPicture (hs : Sound ⟨s, .previewPicTaking⟩)
    (hLive : s.liveSnapshot = none) :
    Sound ⟨(parent.cancelAnyPicture s).1, .previewPicTaking⟩ := by
  have hPrepared : Prepared s true false := hs.table
  rw [Parent.cancelAnyPicture]
  split
  · exact hs.unmoved (.cancelPicture hPrepared.capture hPrepared.raw) fun h => by cases h
  · simp only [parent, cancelLiveSnapshot, takeLiveSnapshotInternal_of_none hLive]
    exact ⟨by simpa using hs.settled, hPrepared.stopSnapshot⟩

theorem sound_previewPicTaking (hs : Sound ⟨s, .previewPicTaking⟩) (hLive : s.liveSnapshot = none)
    (hSteady : Steady ⟨s, .previewPicTaking⟩ evt p r) :
    Sound ⟨(parent.procEvtPreviewPicTakingState r p s evt).hal,
      (parent.procEvtPreviewPicTakingState r p s evt).state⟩ := by
  have hPrepared : Prepared s true false := hs.table
  have hCancelled := hs.cancelAnyPicture hLive
  have hAfter : Prepared (parent.cancelAnyPicture s).1 true false := hCancelled.table
  cases evt with
  | setParams =>
    obtain ⟨hStatus, -, -⟩ := hSteady.setParams rfl
    refine hs.setParams hStatus (fun h => by cases h) fun s' hChannels hZsl hHint _ _ => ?_
    have hGoes : Prepared s' true false := hPrepared.of_eq hChannels hZsl hHint
    have hEmpty : Empty (parent.plain .commitParameterChanges p r s'.stopPreview.1).1 :=
      hGoes.stopPreview
    have hSettled := settled_commit (p := p) (s := s'.stopPreview.1) hSteady.commitParams
    obtain ⟨hStarted, -, hChannels⟩ := prepareAndStart_spec (r := r) hEmpty hSettled
      .previewPicTaking
    have hOk : (parent.restartPreview r p .previewPicTaking s').2 = noError :=
      prepareAndStart_succeeds (hSteady.restart rfl) hEmpty hSettled .previewPicTaking
    simp only [if_pos hOk]
    obtain ⟨-, hGoes⟩ | ⟨hFailed, -⟩ := hChannels
    · exact ⟨hStarted, hGoes⟩
    · exact absurd hOk hFailed
  | cancelPicture | snapshotDone => exact ⟨hCancelled.settled, hAfter⟩
  | stopPreview =>
    have hStop : ∀ ch, ch ≠ .capture → ch ≠ .raw → ch ≠ .metadata → Sound
        ⟨((parent.cancelAnyPicture s).1.stopChannel ch).1.unpreparePreview, .previewStopped⟩ := by
      intro ch hCapture hRaw hMetadata
      refine ⟨by simpa using hCancelled.settled, ?_⟩
      apply empty_unpreparePreview
      · simpa [hCapture.symm] using hAfter.capture
      · simpa [hRaw.symm] using hAfter.raw
      · simpa [hMetadata.symm] using hAfter.metadata
    simp only [Parent.procEvtPreviewPicTakingState, reply]
    split
    · exact hStop .zsl (by decide) (by decide) (by decide)
    · split
      · exact ⟨by simpa [parent] using hCancelled.settled,
          empty_unpreparePreview hAfter.capture hAfter.raw hAfter.metadata⟩
      · exact hStop .preview (by decide) (by decide) (by decide)
  | startRecording =>
    simp only [Parent.procEvtPreviewPicTakingState, reply]
    split
    · exact hs
    · obtain ⟨hOk, hFilms, hSettled, hHint⟩ := hPrepared.startRecording (hSteady.restart rfl)
        hSteady.initBatchUpdate hSteady.addHintEntry hSteady.commitHint hs.settled
        .previewPicTaking
      rw [if_pos (show (parent.startRecording .previewPicTaking r s).2 = noError from hOk)]
      exact ⟨hSettled, hFilms, hHint⟩
  | takePicture =>
    have hSame : (parent.longShot r s).1 = s := by
      simp only [parent, longShot]
      split <;> rfl
    simp only [Parent.procEvtPreviewPicTakingState, reply]
    split
    · exact hSame.symm ▸ hs
    · exact hs
  | sendCommand =>
    have hSent : Sound ⟨(s.sendCommand r .previewPicTaking p.cmd).1, .previewPicTaking⟩ :=
      hs.sendCommand fun h => by cases h
    simp only [Parent.procEvtPreviewPicTakingState, reply]
    split <;> exact ⟨hSent.settled, hSent.table⟩
  | evtInternal =>
    simp only [Parent.procEvtPreviewPicTakingState, Parent.procInternal_state]
    exact keepsPlain_sound.procInternal hs _ _
  | evtNotify =>
    simp only [Parent.procEvtPreviewPicTakingState, Parent.procCaptureEvt_state]
    exact keepsPlain_sound.procCaptureEvt hs _
  | _ => first | exact hs | exact keepsPlain_sound.plain _ _ _ _ (by decide) hs

variable {w : HalSystem}

theorem Sound.event (h : Sound w) (hAgrees : Agrees w) (hSteady : w.Steady evt p r) :
    Sound (w.step (.event evt p r)) := by
  obtain ⟨hal, state⟩ := w
  have hs : Sound ⟨{ hal with outside := r }, state⟩ :=
    Sound.unmoved (s := hal) (.of_eq rfl rfl) (fun _ => rfl) h
  have hNow : Steady ⟨{ hal with outside := r }, state⟩ evt p r := by
    obtain ⟨h₁, h₂, h₃, h₄, h₅, h₆, h₇, h₈, h₉⟩ := hSteady
    exact ⟨h₁, h₂, h₃, h₄, h₅, h₆, fun hEvt => ⟨(h₇ hEvt).1, (h₇ hEvt).2, (h₇ hEvt).3⟩,
      fun hEvt hState => ⟨(h₈ hEvt hState).1, (h₈ hEvt hState).2, (h₈ hEvt hState).3⟩, h₉⟩
  cases state with
  | previewStopped => exact sound_previewStopped hs hNow
  | previewReady => exact sound_previewReady hs hNow
  | previewing => exact sound_previewing hs hNow
  | prepareSnapshot => exact sound_prepareSnapshot hs
  | picTaking => exact sound_picTaking hs hNow
  | recording => exact sound_recording hs hNow
  | videoPicTaking => exact sound_videoPicTaking hs hNow
  | previewPicTaking => exact sound_previewPicTaking hs (Agrees.quiet hAgrees rfl).liveSnapshot hNow

theorem Sound.live (h : Sound w) (hAgrees : Agrees w) : Sound (w.step .liveSnapshot) := by
  obtain ⟨hal, state⟩ := w
  by_cases hState : state = .videoPicTaking
  · subst hState
    obtain ⟨hFilms, hHint⟩ := h.table
    obtain ⟨hJoined, hModes⟩ := hFilms.takeLiveSnapshotInternal hHint
    have hStill : hal.takeLiveSnapshotInternal.modes = hal.modes := hModes
    exact ⟨show hal.takeLiveSnapshotInternal.modes.Settled from hStill ▸ h.settled, hJoined,
      show hal.takeLiveSnapshotInternal.modes.recordingHint = true from hStill ▸ hHint⟩
  · have hLive : hal.liveSnapshot = none := by
      cases state with
      | videoPicTaking => exact absurd rfl hState
      | recording => exact Recording.liveSnapshot hAgrees
      | _ => exact Quiet.liveSnapshot hAgrees
    simp only [step, takeLiveSnapshotInternal_of_none hLive]
    exact h

theorem Sound.run {inputs : List HalInput} (hSound : Sound w) (hAgrees : Agrees w)
    (hSteady : w.SteadyRun inputs) : Sound (w.run inputs) := by
  induction inputs generalizing w with
  | nil => exact hSound
  | cons i inputs ih =>
    obtain ⟨hInput, hRest⟩ := hSteady
    refine ih ?_ (hAgrees.step i) hRest
    cases i with
    | liveSnapshot => exact hSound.live hAgrees
    | event evt p r => exact hSound.event hAgrees hInput

/-- In a run whose parameters are taken and whose restarts succeed, every state has its table of
channels: none once the preview is stopped, the channel of the picture alone while one is taken, and
otherwise those of the preview, with that of the video running exactly in a recording. -/
theorem channels_of_state {modes : Modes} (hModes : modes.Settled) {inputs : List HalInput}
    (hSteady : (start modes).SteadyRun inputs) : Table ((start modes).run inputs) :=
  have hEmpty : Table (start modes) := show Empty _ from fun _ => rfl
  (Sound.run ⟨hModes, hEmpty⟩ (show Agrees (start modes) from ⟨rfl, rfl, rfl⟩) hSteady).table

/-- A preview, a recording with a live snapshot, and a picture after it. -/
def pictureAfterRecording : List HalInput :=
  [.event .setPreviewWindow { window := true } {}, .event .startPreview {} {},
    .event .startRecording {} {}, .event .takePicture {} {}, .liveSnapshot,
    .event .stopRecording {} {}, .event .takePicture {} {}]

theorem pictureAfterRecording_steady : (start {}).SteadyRun pictureAfterRecording := by
  have hSucceeds : HalAnswers.Succeeds {} := ⟨fun _ => rfl, fun _ => rfl, fun _ => rfl⟩
  have hSteady : ∀ (w : HalSystem) (evt : SmEvt) (p : SmPayload), evt ≠ .setParams →
      evt ≠ .sendCommand → w.hal.mLongshotEnabled = false → w.Steady evt p {} := by
    intro w evt p hParams hCommand hLongshot
    exact ⟨fun _ => hSucceeds, rfl, rfl, rfl, rfl, rfl, fun h => absurd h hParams,
      fun _ _ => ⟨.inr hLongshot, rfl, fun h => by cases h⟩, fun _ h => hCommand h.1⟩
  refine ⟨hSteady _ _ _ ?_ ?_ ?_, hSteady _ _ _ ?_ ?_ ?_, hSteady _ _ _ ?_ ?_ ?_,
    hSteady _ _ _ ?_ ?_ ?_, trivial, hSteady _ _ _ ?_ ?_ ?_, hSteady _ _ _ ?_ ?_ ?_, trivial⟩
  all_goals decide

theorem channels_of_state_picture :
    ((start {}).run pictureAfterRecording).state = .picTaking ∧
      Table ((start {}).run pictureAfterRecording) := by
  have hSettled : Modes.Settled {} := ⟨rfl, rfl⟩
  exact ⟨by decide +kernel, channels_of_state hSettled pictureAfterRecording_steady⟩

end HalSystem

end KiwiDevice.Hal

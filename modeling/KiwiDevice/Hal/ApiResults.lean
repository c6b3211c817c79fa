import KiwiDevice.Hal.ApiCalls

/-!
# Every API call gets its own answer
-/

namespace KiwiDevice.Hal

variable {σ ρ : Type}

/-- The API event that a result is signalled for. -/
def Processed.answers (q : Processed σ) : Option SmEvt :=
  match q.signal with
  | some (.api result) => some result.requestApi
  | _ => none

/-- The event is answered, and no snapshot is prepared afterwards. -/
structure Processed.Settles (q : Processed σ) (evt : SmEvt) : Prop where
  answers : q.answers = some evt
  state : q.state ≠ .prepareSnapshot

/-- Nothing is answered, and the state stays. -/
structure Processed.Kept (q : Processed σ) (state : SmState) : Prop where
  answers : q.answers = none
  state : q.state = state

namespace Parent

variable (h : Parent σ ρ) (r : ρ) (p : SmPayload) (s : σ) {evt : SmEvt} {state : SmState}

theorem reply_settles (hState : state ≠ .prepareSnapshot) (done : σ × Int) :
    (reply state evt done).Settles evt := ⟨rfl, hState⟩

theorem setParams_settles {restart : σ → SmState × σ × Int} (hState : state ≠ .prepareSnapshot)
    (hRestart : ∀ s, (restart s).1 ≠ .prepareSnapshot) :
    (h.setParams r p s state evt restart).Settles evt := by
  refine reply_settles ?_ _
  split
  · split
    · exact hRestart _
    · exact hState
  · exact hState

theorem ite_ne_prepareSnapshot {c : Prop} [Decidable c] {m m' : SmState}
    (hThen : m ≠ .prepareSnapshot) (hElse : m' ≠ .prepareSnapshot) :
    (if c then m else m') ≠ .prepareSnapshot := by
  split
  · exact hThen
  · exact hElse

theorem settles_ite {c : Prop} [Decidable c] {q q' : Processed σ} (hThen : q.Settles evt)
    (hElse : q'.Settles evt) : (if c then q else q').Settles evt := by
  split
  · exact hThen
  · exact hElse

theorem procEvtPreviewStoppedState_settles (hApi : evt.isApi = true) :
    (h.procEvtPreviewStoppedState r p s evt).Settles evt := by
  cases evt with
  | startPreview =>
    rw [procEvtPreviewStoppedState]
    split <;> exact ⟨rfl, ite_ne_prepareSnapshot (by decide) (by decide)⟩
  | startNodisplayPreview => exact ⟨rfl, ite_ne_prepareSnapshot (by decide) (by decide)⟩
  | evtInternal | evtNotify | jpegEvtNotify | snapshotDone | stopCaptureChannel | restartPreview =>
    cases hApi
  | _ => exact ⟨rfl, nofun⟩

theorem procEvtPreviewReadyState_settles (hApi : evt.isApi = true) :
    (h.procEvtPreviewReadyState r p s evt).Settles evt := by
  cases evt with
  | setPreviewWindow =>
    simp only [procEvtPreviewReadyState]
    split
    · split <;> exact ⟨rfl, nofun⟩
    · exact ⟨rfl, nofun⟩
  | setParams =>
    rw [procEvtPreviewReadyState]
    refine h.setParams_settles r p s ?_ fun _ => ite_ne_prepareSnapshot ?_ ?_ <;> exact nofun
  | evtInternal | evtNotify | jpegEvtNotify | snapshotDone | stopCaptureChannel | restartPreview =>
    cases hApi
  | _ => exact ⟨rfl, nofun⟩

theorem procEvtPreviewingState_settles (hApi : evt.isApi = true) :
    (h.procEvtPreviewingState r p s evt).Settles evt ∨
      evt = .prepareSnapshot ∧ (h.procEvtPreviewingState r p s evt).answers = none ∧
        (h.procEvtPreviewingState r p s evt).state = .prepareSnapshot := by
  cases evt with
  | prepareSnapshot =>
    rw [procEvtPreviewingState]
    by_cases hPrepared : (h.prepareHardwareForSnapshot r s).2 = noError
    · simp only [if_pos hPrepared]
      exact .inr ⟨trivial, rfl, trivial⟩
    · simp only [if_neg hPrepared]
      exact .inl ⟨rfl, nofun⟩
  | setParams =>
    rw [procEvtPreviewingState]
    refine .inl (h.setParams_settles r p s ?_ fun _ => ite_ne_prepareSnapshot ?_ ?_) <;>
      exact nofun
  | startRecording => exact .inl ⟨rfl, ite_ne_prepareSnapshot (by decide) (by decide)⟩
  | takePicture =>
    exact .inl (settles_ite ⟨rfl, ite_ne_prepareSnapshot (by decide) (by decide)⟩
      ⟨rfl, ite_ne_prepareSnapshot (by decide) (by decide)⟩)
  | evtInternal | evtNotify | jpegEvtNotify | snapshotDone | stopCaptureChannel | restartPreview =>
    cases hApi
  | _ => exact .inl ⟨rfl, nofun⟩

theorem procEvtPicTakingState_settles (hApi : evt.isApi = true) :
    (h.procEvtPicTakingState r p s evt).Settles evt := by
  cases evt with
  | setParams =>
    rw [procEvtPicTakingState]
    refine h.setParams_settles r p s ?_ fun _ => ?_ <;> exact nofun
  | sendCommand => exact ⟨rfl, ite_ne_prepareSnapshot (by decide) (by decide)⟩
  | evtInternal | evtNotify | jpegEvtNotify | snapshotDone | stopCaptureChannel | restartPreview =>
    cases hApi
  | _ => exact ⟨rfl, nofun⟩

theorem procEvtRecordingState_settles (hApi : evt.isApi = true) :
    (h.procEvtRecordingState r p s evt).Settles evt := by
  cases evt with
  | setParams =>
    rw [procEvtRecordingState]
    refine h.setParams_settles r p s ?_ fun _ => ?_ <;> exact nofun
  | takePicture => exact ⟨rfl, ite_ne_prepareSnapshot (by decide) (by decide)⟩
  | evtInternal | evtNotify | jpegEvtNotify | snapshotDone | stopCaptureChannel | restartPreview =>
    cases hApi
  | _ => exact ⟨rfl, nofun⟩

theorem procEvtVideoPicTakingState_settles (hApi : evt.isApi = true) :
    (h.procEvtVideoPicTakingState r p s evt).Settles evt := by
  cases evt with
  | setParams =>
    rw [procEvtVideoPicTakingState]
    refine h.setParams_settles r p s ?_ fun _ => ?_ <;> exact nofun
  | evtInternal | evtNotify | jpegEvtNotify | snapshotDone | stopCaptureChannel | restartPreview =>
    cases hApi
  | _ => exact ⟨rfl, nofun⟩

theorem procEvtPreviewPicTakingState_settles (hApi : evt.isApi = true) :
    (h.procEvtPreviewPicTakingState r p s evt).Settles evt := by
  cases evt with
  | setParams =>
    rw [procEvtPreviewPicTakingState]
    refine h.setParams_settles r p s ?_ fun _ => ite_ne_prepareSnapshot ?_ ?_ <;> exact nofun
  | sendCommand => exact ⟨rfl, ite_ne_prepareSnapshot (by decide) (by decide)⟩
  | startRecording =>
    simp only [procEvtPreviewPicTakingState]
    split
    · exact ⟨rfl, nofun⟩
    · exact ⟨rfl, ite_ne_prepareSnapshot (by decide) (by decide)⟩
  | evtInternal | evtNotify | jpegEvtNotify | snapshotDone | stopCaptureChannel | restartPreview =>
    cases hApi
  | _ => exact ⟨rfl, nofun⟩

/-- What becomes of an API request: it is answered, or a snapshot is prepared for it, or nobody
handles it. -/
theorem stateMachine_api (hApi : evt.isApi = true) :
    ((h.stateMachine r p s state evt).answers = some evt ∧
      ((h.stateMachine r p s state evt).state = .prepareSnapshot ↔ state = .prepareSnapshot)) ∨
    (evt = .prepareSnapshot ∧ state ≠ .prepareSnapshot ∧
      (h.stateMachine r p s state evt).answers = none ∧
      (h.stateMachine r p s state evt).state = .prepareSnapshot) ∨
    (evt = .regFaceImage ∧ state = .prepareSnapshot) := by
  have hSettled : ∀ {q : Processed σ} {state : SmState}, state ≠ .prepareSnapshot →
      q.Settles evt →
        q.answers = some evt ∧ (q.state = .prepareSnapshot ↔ state = .prepareSnapshot) :=
    fun hState hq => ⟨hq.answers, iff_of_false hq.state hState⟩
  cases state with
  | previewStopped =>
    exact .inl (hSettled nofun (h.procEvtPreviewStoppedState_settles r p s hApi))
  | previewReady => exact .inl (hSettled nofun (h.procEvtPreviewReadyState_settles r p s hApi))
  | previewing =>
    rcases h.procEvtPreviewingState_settles r p s hApi with hDone | ⟨hEvt, hNone, hState⟩
    · exact .inl (hSettled nofun hDone)
    · exact .inr (.inl ⟨hEvt, nofun, hNone, hState⟩)
  | prepareSnapshot =>
    cases evt with
    | regFaceImage => exact .inr (.inr ⟨rfl, rfl⟩)
    | evtInternal | evtNotify | jpegEvtNotify | snapshotDone | stopCaptureChannel
    | restartPreview => cases hApi
    | _ => exact .inl ⟨rfl, iff_of_true rfl rfl⟩
  | picTaking => exact .inl (hSettled nofun (h.procEvtPicTakingState_settles r p s hApi))
  | recording => exact .inl (hSettled nofun (h.procEvtRecordingState_settles r p s hApi))
  | videoPicTaking =>
    exact .inl (hSettled nofun (h.procEvtVideoPicTakingState_settles r p s hApi))
  | previewPicTaking =>
    exact .inl (hSettled nofun (h.procEvtPreviewPicTakingState_settles r p s hApi))

theorem procInternal_kept (faces reset : Bool) :
    (h.procInternal r p s state faces reset).Kept state := by
  rw [procInternal]
  split
  case h_3 | h_4 | h_10 => split <;> exact ⟨rfl, rfl⟩
  all_goals exact ⟨rfl, rfl⟩

theorem procServerEvt_kept : (h.procServerEvt r p s state).Kept state := by
  rw [procServerEvt]
  split <;> exact ⟨rfl, rfl⟩

theorem procCaptureEvt_kept (shutter : Bool) :
    (h.procCaptureEvt r p s state shutter).Kept state := by
  rw [procCaptureEvt]
  split
  · split <;> exact ⟨rfl, rfl⟩
  · exact ⟨rfl, rfl⟩
  · exact ⟨rfl, rfl⟩

/-- An event of the backend answers nobody but the request that a snapshot is prepared for. -/
theorem stateMachine_backend (hBackend : evt.isBackend = true) :
    ((h.stateMachine r p s state evt).answers = none ∧
      ((h.stateMachine r p s state evt).state = .prepareSnapshot ↔ state = .prepareSnapshot)) ∨
    (state = .prepareSnapshot ∧
      (h.stateMachine r p s state evt).answers = some .prepareSnapshot ∧
      (h.stateMachine r p s state evt).state ≠ .prepareSnapshot) := by
  have hKept : ∀ {q : Processed σ}, q.Kept state →
      q.answers = none ∧ (q.state = .prepareSnapshot ↔ state = .prepareSnapshot) :=
    fun hq => ⟨hq.answers, by rw [hq.state]⟩
  cases evt with
  | evtInternal =>
    cases state with
    | prepareSnapshot =>
      by_cases hDone : p.internal = .prepSnapshotDone
      · refine .inr ⟨rfl, ?_⟩
        simp only [stateMachine, procEvtPrepareSnapshotState, if_pos hDone]
        exact ⟨rfl, nofun⟩
      · refine .inl ?_
        simpa only [stateMachine, procEvtPrepareSnapshotState, if_neg hDone] using
          hKept (h.procInternal_kept r p s true false)
    | previewStopped | previewReady => exact .inl ⟨rfl, Iff.rfl⟩
    | picTaking => exact .inl (hKept (h.procInternal_kept r p s false false))
    | previewPicTaking => exact .inl (hKept (h.procInternal_kept r p s true true))
    | previewing | recording | videoPicTaking =>
      exact .inl (hKept (h.procInternal_kept r p s true false))
  | evtNotify =>
    cases state with
    | picTaking => exact .inl (hKept (h.procCaptureEvt_kept r p s true))
    | previewPicTaking => exact .inl (hKept (h.procCaptureEvt_kept r p s _))
    | _ => exact .inl (hKept (h.procServerEvt_kept r p s))
  | jpegEvtNotify => cases state <;> exact .inl ⟨rfl, Iff.rfl⟩
  | snapshotDone =>
    cases state with
    | picTaking =>
      refine .inl ⟨rfl, iff_of_false ?_ nofun⟩
      exact ite_ne_prepareSnapshot (by decide) (by decide)
    | videoPicTaking | previewPicTaking => exact .inl ⟨rfl, iff_of_false nofun nofun⟩
    | _ => exact .inl ⟨rfl, Iff.rfl⟩
  | _ => cases hBackend

end Parent

end KiwiDevice.Hal

import KiwiDevice.Gps.MuteSession
import KiwiDevice.Lib.Since
import Mathlib.Data.List.Induction

/-!
# What an application sees of a muted session

The requests, begins and ends that the engine has processed tell when a session is to be muted; the
mute state is compared with them, and so is every callback.
-/

namespace KiwiDevice.Gps

inductive MuteMark where
  | override
  | begins
  | ends
  deriving DecidableEq, Repr

namespace MuteMark

/-- No begin since the last override. -/
def Waiting : List MuteMark → Prop :=
  Lib.Since (fun _ m => m = override) fun m => m ≠ override ∧ m ≠ begins

/-- The first begin after the last override has been, and no end since. -/
def InWindow : List MuteMark → Prop :=
  Lib.Since (fun before m => m = begins ∧ Waiting before) fun m => m ≠ override ∧ m ≠ ends

/-- The window of a state that changes by the marks. -/
def next : LocMuteSession → MuteMark → LocMuteSession
  | _, override => .wait
  | .wait, begins => .inSession
  | s, begins => s
  | .inSession, ends => .none
  | s, ends => s

def muteAfter (marks : List MuteMark) : LocMuteSession := marks.foldl next .none

variable {marks : List MuteMark}

theorem muteAfter_snoc (m : MuteMark) : muteAfter (marks ++ [m]) = next (muteAfter marks) m := by
  rw [muteAfter, List.foldl_append]
  rfl

theorem waiting_snoc (m : MuteMark) :
    Waiting (marks ++ [m]) ↔ m = override ∨ m = ends ∧ Waiting marks := by
  rw [Waiting, Lib.since_snoc]
  cases m <;> simp

theorem inWindow_snoc (m : MuteMark) :
    InWindow (marks ++ [m]) ↔ m = begins ∧ (Waiting marks ∨ InWindow marks) := by
  rw [InWindow, Lib.since_snoc]
  cases m <;> simp

theorem muteAfter_iff (marks : List MuteMark) :
    (muteAfter marks = .wait ↔ Waiting marks) ∧
    (muteAfter marks = .inSession ↔ InWindow marks) := by
  induction marks using List.reverseRecOn with
  | nil =>
    exact ⟨iff_of_false nofun Lib.not_since_nil, iff_of_false nofun Lib.not_since_nil⟩
  | append_singleton marks m ih =>
    rw [muteAfter_snoc, waiting_snoc, inWindow_snoc, ← ih.1, ← ih.2]
    cases muteAfter marks <;> cases m <;> decide

end MuteMark

namespace LocEngData

variable (e : LocEngData)

/-- An ignored request is no override; an engine that goes down ends the session. -/
def markOf : LocMsg → Option MuteMark
  | .requestNi emergency notifyFlags _ =>
    if notifyFlags = gpsNiPrivacyOverride ∧ e.takesRequest emergency then some .override else none
  | .reportStatus .sessionBegin | .reportStatus .engineOn => some .begins
  | .reportStatus .sessionEnd | .reportStatus .engineOff | .engineDown => some .ends
  | _ => none

/-- What one message did, for an observer. -/
structure Effect where
  mark : Option MuteMark
  callbacks : List AppCallback

def Next (e : LocEngData) (msg : LocMsg) (effects : List Effect) (e' : LocEngData) : Prop :=
  e' = (e.proc msg).1 ∧ effects = [⟨e.markOf msg, (e.proc msg).2⟩]

def marks (effects : List Effect) : List MuteMark := effects.filterMap Effect.mark

/-- The message begins the window, is inside it or ends it. -/
def Covered (effects : List Effect) (msg : LocMsg) : Prop :=
  MuteMark.InWindow (marks effects) ∨ MuteMark.InWindow (marks effects ++ (e.markOf msg).toList)

def Silent (msg : LocMsg) : Prop := ∀ c ∈ (e.proc msg).2, c.isReport = false

/-- No NMEA report of the modem, and no end of the session of which the provider is informed. -/
def Hides : LocMsg → Prop
  | .reportNmea => e.callbacks.nmea = false
  | .reportStatus .engineOff | .engineDown => e.callbacks.status = false
  | .reportStatus .sessionEnd => e.callbacks.status = false ∨ e.adapter.isInSession = true
  | _ => True

variable {e : LocEngData} {msg : LocMsg}

theorem switchMute_eq (status : GpsStatusValue) :
    e.switchMute status = match e.markOf (.reportStatus status) with
      | some m => MuteMark.next e.muteSession m
      | none => e.muteSession := by
  rw [switchMute]
  generalize e.muteSession = mute
  cases status <;> cases mute <;> rfl

theorem updateAidingDataForDeletion_muteSession (e : LocEngData) :
    e.updateAidingDataForDeletion.muteSession = e.muteSession := by
  rw [updateAidingDataForDeletion]
  split <;> rfl

theorem niResetOnEngineRestart_muteSession (e : LocEngData) :
    e.niResetOnEngineRestart.muteSession = e.muteSession := by
  rw [niResetOnEngineRestart]
  split <;> rfl

theorem niRequestHandler_muteSession (emergency : Bool) (notifyFlags : Nat) (payload : Bool) :
    (e.niRequestHandler emergency notifyFlags payload).1.muteSession =
      if notifyFlags = gpsNiPrivacyOverride ∧ e.takesRequest emergency then .wait
      else e.muteSession := by
  rw [niRequestHandler]
  cases e.takesRequest emergency with
  | false => simp
  | true =>
    by_cases hFlags : notifyFlags = gpsNiPrivacyOverride
    · simp [hFlags, muteOneSession]
    · cases emergency <;> simp [hFlags]

theorem reportPosition_muteSession (r : PositionReport) :
    (e.reportPosition r).1.muteSession = e.muteSession := by
  rw [reportPosition]
  split
  · rfl
  · dsimp only
    split <;> rfl

theorem proc_muteSession (e : LocEngData) (msg : LocMsg) :
    (e.proc msg).1.muteSession = match e.markOf msg with
      | some m => MuteMark.next e.muteSession m
      | none => e.muteSession := by
  cases msg with
  | requestNi emergency notifyFlags payload =>
    rw [proc, niRequestHandler_muteSession, markOf]
    split <;> rfl
  | reportStatus status =>
    exact (updateAidingDataForDeletion_muteSession _).trans (switchMute_eq status)
  | reportPosition r => exact reportPosition_muteSession r
  | engineDown =>
    have hSwitch := switchMute_eq (e := e.niResetOnEngineRestart) .engineOff
    rw [niResetOnEngineRestart_muteSession] at hSwitch
    exact hSwitch
  | engineUp =>
    rw [proc, handleEngineUp]
    split <;> rfl
  | niDone emergency => cases emergency <;> rfl
  | _ => rfl

theorem proc_muteSession_eq_muteAfter {ms : List MuteMark}
    (h : e.muteSession = MuteMark.muteAfter ms)
    (msg : LocMsg) :
    (e.proc msg).1.muteSession = MuteMark.muteAfter (ms ++ (e.markOf msg).toList) := by
  rw [proc_muteSession, h]
  cases e.markOf msg with
  | none => rw [Option.toList_none, List.append_nil]
  | some m => rw [Option.toList_some, MuteMark.muteAfter_snoc]

theorem marks_append (effects : List Effect) (c : List AppCallback) (m : Option MuteMark) :
    marks (effects ++ [⟨m, c⟩]) = marks effects ++ m.toList := by
  rw [marks, List.filterMap_append]
  cases m <;> rfl

theorem muteSession_of_run {e₀ : LocEngData} {msgs : List LocMsg} {effects : List Effect}
    (run : Lib.Steps Next Lib.anyStep { e₀ with muteSession := .none } msgs effects e) :
    e.muteSession = MuteMark.muteAfter (marks effects) := by
  refine run.history (I := fun _ effects e => e.muteSession = MuteMark.muteAfter (marks effects))
    rfl ?_
  rintro _ effects e msg _ e' - ih ⟨rfl, rfl⟩
  rw [marks_append]
  exact proc_muteSession_eq_muteAfter ih msg

theorem silent_informGpsStatus_iff (status : GpsStatusValue) :
    (∀ c ∈ e.informGpsStatus status, c.isReport = false) ↔ e.callbacks.status = false := by
  rw [informGpsStatus]
  cases e.callbacks.status with
  | false => exact iff_of_true nofun rfl
  | true => exact iff_of_false (fun hAll => absurd (hAll _ List.mem_cons_self) nofun) nofun

theorem reportStatus_of_muted {status : GpsStatusValue} (h : e.switchMute status = .inSession) :
    (e.reportStatus status).2 = [] := if_neg fun hShown => hShown.2 h

/-- The end of the window has left the mute state before it is decided whether to report it. -/
theorem silent_end_iff {status : GpsStatusValue} (hMuted : e.muteSession = .inSession)
    (hEnd : status = .sessionEnd ∨ status = .engineOff) :
    (∀ c ∈ (e.reportStatus status).2, c.isReport = false) ↔
      (e.wantsStatus status = true → e.callbacks.status = false) := by
  have hSwitch : e.switchMute status = .none := by
    rw [switchMute_eq, hMuted]
    rcases hEnd with rfl | rfl <;> rfl
  rw [reportStatus, hSwitch]
  cases e.wantsStatus status with
  | false => exact iff_of_true nofun nofun
  | true => exact (silent_informGpsStatus_iff status).trans ⟨fun h _ => h, fun h => h rfl⟩

theorem silent_reportStatus_iff {status : GpsStatusValue}
    (h : e.muteSession = .inSession ∨ e.switchMute status = .inSession) :
    (∀ c ∈ (e.reportStatus status).2, c.isReport = false) ↔ e.Hides (.reportStatus status) := by
  have hNot (hKeep : e.muteSession = .inSession → e.switchMute status = .inSession) :
      ∀ c ∈ (e.reportStatus status).2, c.isReport = false := by
    rw [reportStatus_of_muted (h.elim hKeep fun h => h)]
    nofun
  have hMuted (hLeave : e.switchMute status ≠ .inSession) : e.muteSession = .inSession :=
    h.resolve_right hLeave
  have hLeave (hEnd : e.markOf (.reportStatus status) = some .ends) :
      e.switchMute status ≠ .inSession := by
    rw [switchMute_eq, hEnd]
    cases e.muteSession <;> decide
  cases status with
  | sessionEnd =>
    refine (silent_end_iff (hMuted (hLeave rfl)) (.inl rfl)).trans ?_
    rw [wantsStatus, Hides]
    cases e.adapter.isInSession <;> simp
  | engineOff =>
    refine (silent_end_iff (hMuted (hLeave rfl)) (.inr rfl)).trans ?_
    simp [wantsStatus, Hides]
  | none | sessionBegin | engineOn =>
    refine iff_of_true (hNot fun hIn => ?_) trivial
    rw [switchMute_eq, hIn]
    rfl

/-- While the mute state holds, before or after the message, only these reports come through. -/
theorem silent_iff_hides
    (h : e.muteSession = .inSession ∨ (e.proc msg).1.muteSession = .inSession) :
    e.Silent msg ↔ e.Hides msg := by
  have hMuted (hMark : e.markOf msg = none) : e.muteSession = .inSession := by
    rw [proc_muteSession, hMark] at h
    exact h.elim (fun h => h) fun h => h
  cases msg with
  | requestNi emergency notifyFlags payload =>
    refine iff_of_true ?_ trivial
    rw [Silent, proc, niRequestHandler]
    split
    · exact List.forall_mem_singleton.mpr rfl
    · nofun
  | reportStatus status =>
    rw [proc_muteSession, ← switchMute_eq] at h
    exact silent_reportStatus_iff h
  | reportPosition r =>
    rw [Silent, proc, reportPosition, if_pos (hMuted rfl)]
    exact iff_of_true nofun trivial
  | reportSv sentences =>
    rw [Silent, proc, reportSv, if_pos (hMuted rfl)]
    exact iff_of_true nofun trivial
  | reportGpsMeasurement =>
    rw [Silent, proc, reportGpsMeasurement, if_pos (hMuted rfl)]
    exact iff_of_true nofun trivial
  | reportNmea =>
    rw [Silent, proc, reportNmea, Hides]
    cases e.callbacks.nmea with
    | false => exact iff_of_true nofun rfl
    | true => exact iff_of_false (fun hAll => absurd (hAll _ List.mem_cons_self) (by decide)) (by decide)
  | engineDown =>
    have hIn : e.niResetOnEngineRestart.muteSession = .inSession := by
      rw [niResetOnEngineRestart_muteSession]
      have hMark : e.markOf .engineDown = some .ends := rfl
      rw [proc_muteSession, hMark] at h
      refine h.resolve_right ?_
      cases e.muteSession <;> decide
    refine (silent_end_iff hIn (.inr rfl)).trans ?_
    have hCallbacks : e.niResetOnEngineRestart.callbacks = e.callbacks := by
      rw [niResetOnEngineRestart]
      split <;> rfl
    simp [wantsStatus, Hides, hCallbacks]
  | startFix _ | stopFix | positionMode _ | engineUp | niDone _ => exact iff_of_true nofun trivial

theorem covered_iff {effects : List Effect} (h : e.muteSession = MuteMark.muteAfter (marks effects))
    (msg : LocMsg) : e.Covered effects msg ↔
      e.muteSession = .inSession ∨ (e.proc msg).1.muteSession = .inSession := by
  rw [Covered, proc_muteSession_eq_muteAfter h, h, (MuteMark.muteAfter_iff _).2,
    (MuteMark.muteAfter_iff _).2]

/-- The mute state is the one of the requests, begins and ends, and a message of the window is
silent exactly if it is no NMEA report and no end that the provider is informed of. -/
theorem privacy_iff_hides {e₀ : LocEngData} {msgs : List LocMsg} {effects : List Effect}
    (run : Lib.Steps Next Lib.anyStep { e₀ with muteSession := .none } msgs effects e)
    (msg : LocMsg) :
    (e.muteSession = .inSession ↔ MuteMark.InWindow (marks effects)) ∧
      (e.Covered effects msg → (e.Silent msg ↔ e.Hides msg)) := by
  have hMute := muteSession_of_run run
  refine ⟨?_, fun hCovered => silent_iff_hides ((covered_iff hMute msg).mp hCovered)⟩
  rw [hMute]
  exact (MuteMark.muteAfter_iff _).2

/-- The engine with all callbacks after a privacy-override request and the engine's start. -/
def mutedEngine : LocEngData :=
  { session := true, muteSession := .inSession, engineStatus := .engineOn }

def mutedEffects : List Effect := [⟨some .override, [.niNotify]⟩, ⟨some .begins, []⟩]

theorem run_proc {e₀ : LocEngData} {msgs : List LocMsg} {effects : List Effect}
    (run : Lib.Steps Next Lib.anyStep e₀ msgs effects e) (msg : LocMsg) :
    Lib.Steps Next Lib.anyStep e₀ (msgs ++ [msg]) (effects ++ [⟨e.markOf msg, (e.proc msg).2⟩])
      (e.proc msg).1 := run.step trivial ⟨rfl, rfl⟩

theorem mutedEngine_run :
    Lib.Steps Next Lib.anyStep { ({} : LocEngData) with muteSession := .none }
      [.requestNi false gpsNiPrivacyOverride true, .reportStatus .engineOn] mutedEffects
      mutedEngine :=
  run_proc (run_proc .start (.requestNi false gpsNiPrivacyOverride true)) (.reportStatus .engineOn)

theorem mutedEngine_covered (msg : LocMsg) : mutedEngine.Covered mutedEffects msg :=
  .inl ((MuteMark.muteAfter_iff _).2.mp rfl)

/-- The final fix of the muted session is not seen. -/
theorem privacy_iff_hides_fix :
    mutedEngine.Silent (.reportPosition ⟨.success, 1, none, fun _ => 4⟩) :=
  ((privacy_iff_hides mutedEngine_run _).2 (mutedEngine_covered _)).mpr trivial

/-- A sentence of the modem comes through in the muted session, and its end is reported. -/
theorem muted_session_seen : ∃ msgs effects e,
    Lib.Steps Next Lib.anyStep { ({} : LocEngData) with muteSession := .none } msgs effects e ∧
      (e.Covered effects .reportNmea ∧ ¬ e.Silent .reportNmea) ∧
      (e.Covered effects (.reportStatus .engineOff) ∧ ¬ e.Silent (.reportStatus .engineOff)) := by
  refine ⟨_, _, _, mutedEngine_run, ⟨mutedEngine_covered _, fun hSilent => ?_⟩,
    ⟨mutedEngine_covered _, fun hSilent => ?_⟩⟩
  · exact absurd (hSilent .nmea List.mem_cons_self) (by decide)
  · exact absurd (hSilent (.status .engineOff) List.mem_cons_self) (by decide)

end LocEngData

end KiwiDevice.Gps

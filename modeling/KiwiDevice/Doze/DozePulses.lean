import KiwiDevice.Doze.DozeCallbacks
import KiwiDevice.Lib.Since
import KiwiDevice.Lib.Steps

/-!
# Pulses of the doze service

Over any run a pulse is launched only with the screen off, far from an object, for a gesture that
was enabled when it was armed, and not too soon after the one before.
-/

namespace KiwiDevice.Doze

namespace DozeInput

/-- A sample that says that something is near. -/
def SaysNear (mMaxRange : ℚ) : DozeInput → Prop
  | .proximity value _ => value < mMaxRange
  | _ => False

def isProximity : DozeInput → Bool
  | .proximity _ _ => true
  | _ => false

def isPickUp : DozeInput → Bool
  | .pickUp _ _ _ _ _ => true
  | _ => false

def isBroadcast : DozeInput → Bool
  | .screenOn => true
  | .screenOff => true
  | _ => false

end DozeInput

structure DozeEntry where
  before : DozeSystem
  input : DozeInput
  after : DozeSystem

namespace DozeSystem

variable {mMaxRange : ℚ} {s s' : DozeSystem} {i : DozeInput} {is : List DozeInput} {log o : List DozeEntry}
  {e : DozeEntry} {gesture : Gesture}

def Next (mMaxRange : ℚ) (s : DozeSystem) (i : DozeInput) (o : List DozeEntry) (s' : DozeSystem) :
    Prop :=
  s.step mMaxRange i = some s' ∧ o = [⟨s, i, s'⟩]

/-- The last proximity sample said near. -/
def LastNear (mMaxRange : ℚ) (log : List DozeEntry) : Prop :=
  Lib.Since (fun _ e => e.input.SaysNear mMaxRange) (fun e => e.input.isProximity = false) log

/-- A pulse was launched at the time, and the screen has not been switched since. -/
def PulsedAt (time : Int) (log : List DozeEntry) : Prop :=
  Lib.Since (fun _ e => ∃ gesture, (gesture, time) ∈ e.after.service.pulses)
    (fun e => e.input.isBroadcast = false) log

/-- The sensor, which was near, passes on that it is not any more. -/
def Release (mMaxRange : ℚ) (e : DozeEntry) : Prop :=
  e.input.isProximity = true ∧ ¬ e.input.SaysNear mMaxRange ∧
    e.before.service.proximity.mReady = true ∧ e.before.service.proximity.mState = true

/-- A release with the gesture enabled has armed it, and it is armed since. -/
def ArmedAtRelease (mMaxRange : ℚ) (gesture : Gesture) (log : List DozeEntry) : Prop :=
  Lib.Since (fun _ e => Release mMaxRange e ∧ e.before.settings.enabled gesture = true ∧
      e.after.service.flag gesture = true)
    (fun e => e.after.service.flag gesture = true) log

/-- The event itself is one of the pick-up sensor, and picking up is enabled. -/
def ArmedNow (gesture : Gesture) (e : DozeEntry) : Prop :=
  e.input.isPickUp = true ∧ gesture = .pickUp ∧ e.before.settings.enabled .pickUp = true

/-- What holds of the pulses of an event, after the earlier ones. -/
structure MayPulse (mMaxRange : ℚ) (log : List DozeEntry) (e : DozeEntry) : Prop where
  once : e.after.service.pulses.length ≤ 1
  screen : e.after.service.pulses ≠ [] → e.before.screenOn = false
  far : e.after.service.pulses ≠ [] → ¬ LastNear mMaxRange log
  interval : ∀ gesture time, (gesture, time) ∈ e.after.service.pulses →
    ∀ earlier, PulsedAt earlier log → earlier + DozeService.pulseMinInterval ≤ time
  armed : ∀ gesture time, (gesture, time) ∈ e.after.service.pulses →
    ArmedAtRelease mMaxRange gesture log ∨ ArmedNow gesture e

structure Inv (mMaxRange : ℚ) (log : List DozeEntry) (s : DozeSystem) : Prop where
  exclusive : s.service.Exclusive
  screen : s.screenOn = true → s.service.Off ∧ s.service.proximity.mEnabled = false
  told : s.service.proximity.mReady = false ∨ s.service.proximity.mState = true → s.service.Off
  near : LastNear mMaxRange log → s.service.Off
  clock : 0 < s.clock
  pulsed : ∀ time, PulsedAt time log → 0 < time ∧ time ≤ s.service.mLastPulseTimestamp
  armed : ∀ gesture, s.service.flag gesture = true → ArmedAtRelease mMaxRange gesture log

theorem create_inv {clock : Int} (interactive : Bool) (settings : Gestures) (h : 0 < clock) :
    Inv mMaxRange [] (create interactive settings clock) := by
  have hOff : (create interactive settings clock).service.Off := by
    cases interactive with
    | true => exact ⟨rfl, rfl⟩
    | false =>
      obtain ⟨-, -, hCases⟩ := DozeService.onDisplayOff_cases settings .start
      cases hCases with
      | inl hReset => exact hReset.1
      | inr hSame =>
        rw [create, if_neg Bool.false_ne_true, hSame]
        exact ⟨rfl, rfl⟩
  constructor
  · exact hOff.exclusive
  · intro hScreen
    cases interactive with
    | true => exact ⟨hOff, rfl⟩
    | false => cases hScreen
  · exact fun _ => hOff
  · exact fun _ => hOff
  · exact h
  · exact fun time hPulsed => absurd hPulsed Lib.not_since_nil
  · intro gesture hFlag
    cases interactive with
    | true => cases gesture <;> cases hFlag
    | false =>
      obtain ⟨-, -, hCases⟩ := DozeService.onDisplayOff_cases settings .start
      rw [create, if_neg Bool.false_ne_true] at hFlag
      cases hCases with
      | inl hReset => simp [hReset.2] at hFlag
      | inr hSame =>
        rw [hSame] at hFlag
        cases gesture <;> cases hFlag

theorem MayPulse.of_none (h : e.after.service.pulses = []) : MayPulse mMaxRange log e where
  once := by simp [h]
  screen hPulse := absurd h hPulse
  far hPulse := absurd h hPulse
  interval := by simp [h]
  armed := by simp [h]

theorem armed_snoc (h : ArmedAtRelease mMaxRange gesture log)
    (hFlag : e.after.service.flag gesture = true) :
    ArmedAtRelease mMaxRange gesture (log ++ [e]) :=
  Lib.since_snoc.mpr (.inr ⟨hFlag, h⟩)

theorem near_snoc (h : LastNear mMaxRange (log ++ [e])) (hInput : e.input.isProximity = false) :
    LastNear mMaxRange log := by
  cases Lib.since_snoc.mp h with
  | inl hNow =>
    cases hi : e.input with
    | proximity value timestamp => simp [hi, DozeInput.isProximity] at hInput
    | _ => simp [hi, DozeInput.SaysNear] at hNow
  | inr hBefore => exact hBefore.2

theorem not_pulsed_of_broadcast {time : Int} (hInput : e.input.isBroadcast = true)
    (hNone : e.after.service.pulses = []) : ¬ PulsedAt time (log ++ [e]) := by
  rw [PulsedAt, Lib.since_snoc, hInput]
  simp [hNone]

/-- The same fields with the effects of the last callback dropped. -/
def begun (s : DozeSystem) : DozeService := { s.service with effects := [] }

theorem begun_pulses (s : DozeSystem) : s.begun.pulses = [] := rfl

theorem begun_flag (s : DozeSystem) : s.begun.flag gesture = s.service.flag gesture := by
  cases gesture <;> rfl

theorem Inv.screenOn (h : Inv mMaxRange log s) (hStep : s.step mMaxRange .screenOn = some s') :
    Inv mMaxRange (log ++ [⟨s, .screenOn, s'⟩]) s' ∧ MayPulse mMaxRange log ⟨s, .screenOn, s'⟩ := by
  cases hStep
  obtain ⟨hOff, hProximity, hPulses, hFlag⟩ := DozeService.onDisplayOn_off s.begun
  constructor
  · constructor
    · exact hOff.exclusive
    · exact fun _ => ⟨hOff, hProximity⟩
    · exact fun _ => hOff
    · exact fun _ => hOff
    · exact h.clock
    · exact fun time hPulsed => absurd hPulsed (not_pulsed_of_broadcast rfl hPulses)
    · intro gesture hArmed
      have hBefore := (hFlag gesture).symm.trans hArmed
      rw [begun_flag] at hBefore
      exact armed_snoc (h.armed gesture hBefore) hArmed
  · exact .of_none hPulses

theorem Inv.screenOff (h : Inv mMaxRange log s) (hStep : s.step mMaxRange .screenOff = some s') :
    Inv mMaxRange (log ++ [⟨s, .screenOff, s'⟩]) s' ∧
    MayPulse mMaxRange log ⟨s, .screenOff, s'⟩ := by
  cases hStep
  obtain ⟨-, hPulses, hCases⟩ := DozeService.onDisplayOff_cases s.settings s.begun
  refine ⟨?_, .of_none hPulses⟩
  cases hCases with
  | inl hReset =>
    constructor
    · exact hReset.1.exclusive
    · nofun
    · exact fun _ => hReset.1
    · exact fun _ => hReset.1
    · exact h.clock
    · exact fun time hPulsed => absurd hPulsed (not_pulsed_of_broadcast rfl hPulses)
    · intro gesture hArmed
      have hNot := hReset.2 gesture
      exact absurd (hNot.symm.trans hArmed) Bool.false_ne_true
  | inr hSame =>
    have hService : ({ s with service := s.begun.onDisplayOff s.settings, screenOn := false } :
        DozeSystem).service = { s.begun with mLastPulseTimestamp := 0 } := hSame
    constructor
    · exact hService ▸ h.exclusive
    · nofun
    · exact hService ▸ h.told
    · exact fun hNear => hService ▸ h.near (near_snoc hNear rfl)
    · exact h.clock
    · exact fun time hPulsed => absurd hPulsed (not_pulsed_of_broadcast rfl hPulses)
    · intro gesture hArmed
      have hFlag : (s.begun.onDisplayOff s.settings).flag gesture = s.service.flag gesture := by
        rw [hSame]
        cases gesture <;> rfl
      exact armed_snoc (h.armed gesture (hFlag.symm.trans hArmed)) hArmed

theorem pulsed_snoc {time : Int} (h : PulsedAt time (log ++ [e]))
    (hNone : e.after.service.pulses = []) :
    PulsedAt time log := by
  rw [PulsedAt, Lib.since_snoc, hNone] at h
  exact h.elim (fun hNow => nomatch hNow.choose_spec) (fun hBefore => hBefore.2)

theorem Inv.settings {settings : Gestures} (h : Inv mMaxRange log s)
    (hStep : s.step mMaxRange (.settings settings) = some s') :
    Inv mMaxRange (log ++ [⟨s, .settings settings, s'⟩]) s' ∧
      MayPulse mMaxRange log ⟨s, .settings settings, s'⟩ := by
  cases hStep
  refine ⟨?_, .of_none s.begun_pulses⟩
  constructor
  · exact h.exclusive
  · exact h.screen
  · exact h.told
  · exact fun hNear => h.near (near_snoc hNear rfl)
  · exact h.clock
  · exact fun time hPulsed => h.pulsed time (pulsed_snoc hPulsed s.begun_pulses)
  · intro gesture hArmed
    exact armed_snoc (h.armed gesture (s.begun_flag.symm.trans hArmed)) hArmed

theorem Inv.proximity {value : ℚ} {timestamp : Int} (h : Inv mMaxRange log s)
    (hStep : s.step mMaxRange (.proximity value timestamp) = some s') :
    Inv mMaxRange (log ++ [⟨s, .proximity value timestamp, s'⟩]) s' ∧
      MayPulse mMaxRange log ⟨s, .proximity value timestamp, s'⟩ := by
  rw [step] at hStep
  split at hStep
  · rename_i hEnabled
    cases hStep
    have hTold := DozeService.proximityChanged_told (s := s.begun) ⟨s.settings, s.clock, s.clock⟩
      (decide (value < mMaxRange)) timestamp h.told
    refine ⟨?_, .of_none hTold.pulses⟩
    constructor
    · exact hTold.exclusive h.exclusive
    · intro hScreen
      have hDisabled := (h.screen hScreen).2
      simp [hDisabled] at hEnabled
    · intro hNear
      refine hTold.off (hTold.mState.symm.trans ?_)
      exact hNear.resolve_left fun hNot => Bool.false_ne_true (hNot.symm.trans hTold.mReady)
    · intro hNear
      cases Lib.since_snoc.mp hNear with
      | inl hNow => exact hTold.off (decide_eq_true hNow)
      | inr hBefore => cases hBefore.1
    · exact h.clock
    · intro time hPulsed
      have hBefore := h.pulsed time (pulsed_snoc hPulsed hTold.pulses)
      exact ⟨hBefore.1, hBefore.2.trans_eq hTold.last.symm⟩
    · intro gesture hArmed
      cases hTold.flag gesture hArmed with
      | inl hBefore => exact armed_snoc (h.armed gesture (s.begun_flag.symm.trans hBefore)) hArmed
      | inr hNow =>
        obtain ⟨hReady, hState, hFar, hGesture⟩ := hNow
        have hValue : ¬ value < mMaxRange := of_decide_eq_false hFar
        exact Lib.since_snoc.mpr (.inl ⟨⟨rfl, hValue, hReady, hState⟩, hGesture, hArmed⟩)
  · cases hStep

theorem Inv.settled {may : Gesture → Prop} {now later : Int}
    {f : DozeContext → DozeService → DozeService}
    (h : Inv mMaxRange log s) (hOn : ¬ s.service.Off) (hNow : s.clock ≤ now) (hLater : now ≤ later)
    (hInput : i.isProximity = false)
    (hSettled : DozeService.Settled ⟨s.settings, now, later⟩ may s.begun (f ⟨s.settings, now, later⟩ s.begun))
    (hMay : ∀ gesture, may gesture → s.service.flag gesture = true ∨
      ArmedNow gesture ⟨s, i, s.callback now later f⟩) :
    Inv mMaxRange (log ++ [⟨s, i, s.callback now later f⟩]) (s.callback now later f) ∧
      MayPulse mMaxRange log ⟨s, i, s.callback now later f⟩ := by
  have hFar : ¬ LastNear mMaxRange log := fun hNear => hOn (h.near hNear)
  have hDark : s.screenOn = false := by
    cases hScreen : s.screenOn with
    | false => rfl
    | true => exact absurd (h.screen hScreen).1 hOn
  have hKeeps : ∀ gesture, (s.callback now later f).service.flag gesture = true →
      ArmedAtRelease mMaxRange gesture (log ++ [⟨s, i, s.callback now later f⟩]) := by
    intro gesture hArmed
    have hBefore := s.begun_flag.symm.trans (hSettled.flag gesture hArmed)
    exact armed_snoc (h.armed gesture hBefore) hArmed
  have hTold : (s.callback now later f).service.proximity = s.service.proximity := hSettled.proximity
  have hInterval : (s.service.mLastPulseTimestamp ≠ 0 →
        s.service.mLastPulseTimestamp + DozeService.pulseMinInterval ≤ now) →
      ∀ earlier, PulsedAt earlier log → earlier + DozeService.pulseMinInterval ≤ later := by
    intro hLate earlier hEarlier
    obtain ⟨hPos, hLe⟩ := h.pulsed earlier hEarlier
    have hSpaced := hLate (by omega)
    omega
  constructor
  · constructor
    · exact hSettled.exclusive h.exclusive
    · intro hScreen
      exact absurd (hDark.symm.trans hScreen) Bool.false_ne_true
    · intro hReset
      rw [hTold] at hReset
      exact absurd (h.told hReset) hOn
    · intro hNear
      exact absurd (near_snoc hNear hInput) hFar
    · exact h.clock.trans_le (hNow.trans hLater)
    · intro time hPulsed
      cases hSettled.launches with
      | inl hNone =>
        have hBefore := h.pulsed time (pulsed_snoc hPulsed hNone.1)
        exact ⟨hBefore.1, hBefore.2.trans_eq hNone.2.symm⟩
      | inr hPulse =>
        obtain ⟨gesture, -, hLate, hPulses, hLast⟩ := hPulse
        have hOne : (s.callback now later f).service.pulses = [(gesture, later)] := hPulses
        rw [PulsedAt, Lib.since_snoc, hOne] at hPulsed
        have hTime : 0 < time ∧ time ≤ later := by
          cases hPulsed with
          | inl hThis =>
            obtain ⟨gesture', hMem⟩ := hThis
            cases List.mem_singleton.mp hMem
            exact ⟨h.clock.trans_le (hNow.trans hLater), le_refl later⟩
          | inr hBefore =>
            have hSpaced := hInterval hLate time hBefore.2
            rw [DozeService.pulseMinInterval] at hSpaced
            exact ⟨(h.pulsed time hBefore.2).1, by omega⟩
        exact ⟨hTime.1, hTime.2.trans_eq hLast.symm⟩
    · exact hKeeps
  · cases hSettled.launches with
    | inl hNone => exact .of_none hNone.1
    | inr hPulse =>
      obtain ⟨gesture, hGesture, hLate, hPulses, hLast⟩ := hPulse
      have hOne : (s.callback now later f).service.pulses = [(gesture, later)] := hPulses
      constructor
      · rw [hOne]
        exact Nat.le_refl 1
      · exact fun _ => hDark
      · exact fun _ => hFar
      · intro gesture' time hMem earlier hEarlier
        rw [hOne] at hMem
        cases List.mem_singleton.mp hMem
        exact hInterval hLate earlier hEarlier
      · intro gesture' time hMem
        rw [hOne] at hMem
        cases List.mem_singleton.mp hMem
        exact (hMay gesture hGesture).imp (h.armed gesture) id

theorem Inv.step (h : Inv mMaxRange log s) (hStep : s.step mMaxRange i = some s') :
    Inv mMaxRange (log ++ [⟨s, i, s'⟩]) s' ∧ MayPulse mMaxRange log ⟨s, i, s'⟩ := by
  cases i with
  | screenOn => exact h.screenOn hStep
  | screenOff => exact h.screenOff hStep
  | settings settings => exact h.settings hStep
  | proximity value timestamp => exact h.proximity hStep
  | pickUp x y z now later =>
    rw [DozeSystem.step] at hStep
    split at hStep
    · rename_i hEnabled
      cases hStep
      refine h.settled ?_ hEnabled.2.1 hEnabled.2.2 rfl (DozeService.pickUpChanged_settled _ x y s.begun) ?_
      · intro hOff
        simp [hOff.2] at hEnabled
      · intro gesture hMay
        rw [DozeService.PickUpMay, begun_flag] at hMay
        exact hMay.imp id fun hPickUp => ⟨rfl, hPickUp⟩
    · cases hStep
  | orientation accelerometer orientation now later =>
    rw [DozeSystem.step] at hStep
    split at hStep
    · rename_i hEnabled
      cases hStep
      refine h.settled ?_ hEnabled.2.1 hEnabled.2.2 rfl
        (DozeService.orientationChanged_settled _ accelerometer orientation s.begun) ?_
      · intro hOff
        simp [hOff.1] at hEnabled
      · intro gesture hMay
        rw [begun_flag] at hMay
        exact .inl hMay
    · cases hStep

theorem run_input {start : DozeSystem} (run : Lib.Steps (Next mMaxRange) Lib.anyStep start is log s)
    (i : DozeInput) (h : s.step mMaxRange i = some s') :
    Lib.Steps (Next mMaxRange) Lib.anyStep start (is ++ [i]) (log ++ [⟨s, i, s'⟩]) s' :=
  run.step trivial ⟨h, rfl⟩

/-- The settings with waving alone, the screen on. -/
def waving : DozeSystem := create true ⟨true, false, false⟩ 1000

end DozeSystem

end KiwiDevice.Doze

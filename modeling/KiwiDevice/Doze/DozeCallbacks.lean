import KiwiDevice.Doze.DozeService
import Mathlib.Data.List.Basic

/-!
# What the callbacks of the doze service keep

One lemma for each callback: which sensors it leaves enabled, which gestures it leaves armed, and
when it launches a pulse.
-/

namespace KiwiDevice.Doze

@[simp] theorem OrientationSensor.setEnabled_mEnabled (enabled : Bool) (s : OrientationSensor) :
    (s.setEnabled enabled).mEnabled = enabled := by
  rw [setEnabled]
  split
  · rename_i h
    exact h.symm
  · rfl

@[simp] theorem PickUpSensor.setEnabled_mEnabled (enabled : Bool) (s : PickUpSensor) :
    (s.setEnabled enabled).mEnabled = enabled := by
  rw [setEnabled]
  split
  · rename_i h
    exact h.symm
  · rfl

@[simp] theorem ProximitySensor.setEnabled_mEnabled (enabled : Bool) (s : ProximitySensor) :
    (s.setEnabled enabled).mEnabled = enabled := by
  rw [setEnabled]
  split
  · rename_i h
    exact h.symm
  · rfl

namespace DozeService

variable {s s' : DozeService} {c : DozeContext} {gesture : Gesture}

/-- The gesture is armed. -/
def flag (s : DozeService) : Gesture → Bool
  | .handwave => s.mHandwaveDoze
  | .pickUp => s.mPickUpDoze
  | .pocket => s.mPocketDoze

/-- The pulses of a callback. -/
def pulses (s : DozeService) : List (Gesture × Int) :=
  s.effects.filterMap fun
    | .pulse gesture time => some (gesture, time)
    | .wakeLock => none

/-- Neither the orientation nor the pick-up sensor is enabled. -/
def Off (s : DozeService) : Prop := s.orientation.mEnabled = false ∧ s.pickUp.mEnabled = false

/-- Not both of them are. -/
def Exclusive (s : DozeService) :
    Prop := ¬ (s.orientation.mEnabled = true ∧ s.pickUp.mEnabled = true)

theorem Off.exclusive (h : s.Off) : s.Exclusive := fun hBoth => by simp [h.1] at hBoth

/-- What enabling and disabling a sensor leaves as it is. -/
structure Kept (s s' : DozeService) : Prop where
  proximity : s'.proximity = s.proximity
  flag : ∀ gesture, s'.flag gesture = s.flag gesture
  pulses : s'.pulses = s.pulses
  last : s'.mLastPulseTimestamp = s.mLastPulseTimestamp

theorem Kept.refl (s : DozeService) : Kept s s := ⟨rfl, fun _ => rfl, rfl, rfl⟩

theorem Kept.trans {s'' : DozeService} (h : Kept s s') (h' : Kept s' s'') : Kept s s'' where
  proximity := h'.proximity.trans h.proximity
  flag gesture := (h'.flag gesture).trans (h.flag gesture)
  pulses := h'.pulses.trans h.pulses
  last := h'.last.trans h.last

theorem launchWakeLock_kept (s : DozeService) : Kept s s.launchWakeLock where
  proximity := rfl
  flag gesture := by cases gesture <;> rfl
  pulses := by simp [pulses, launchWakeLock]
  last := rfl

theorem setOrientationSensor_kept (enabled : Bool) (s : DozeService) :
    Kept s (s.setOrientationSensor enabled) := by
  cases enabled with
  | false => exact ⟨rfl, fun gesture => by cases gesture <;> rfl, rfl, rfl⟩
  | true => 
    exact ⟨rfl, fun gesture => by cases gesture <;> rfl, (launchWakeLock_kept s).pulses, rfl⟩

theorem setPickUpSensor_kept (enabled : Bool) (s : DozeService) :
    Kept s (s.setPickUpSensor enabled) := by
  cases enabled with
  | false => exact ⟨rfl, fun gesture => by cases gesture <;> rfl, rfl, rfl⟩
  | true => exact ⟨rfl, fun gesture => by cases gesture <;> rfl, rfl, rfl⟩

theorem setOrientationSensor_exclusive (s : DozeService) (enabled : Bool) :
    (s.setOrientationSensor enabled).Exclusive := by
  cases enabled with
  | false => simp [Exclusive, setOrientationSensor]
  | true => simp [Exclusive, setOrientationSensor, launchWakeLock]

theorem setPickUpSensor_exclusive (s : DozeService) (enabled : Bool) :
    (s.setPickUpSensor enabled).Exclusive := by
  cases enabled with
  | false => simp [Exclusive, setPickUpSensor]
  | true => simp [Exclusive, setPickUpSensor, setOrientationSensor]

theorem disabled_off (s : DozeService) :
    ((s.setOrientationSensor false).setPickUpSensor false).Off := by
  simp [Off, setPickUpSensor, setOrientationSensor]

/-- A pulse is launched, for a gesture and at a time, or none is. -/
def Launches (c : DozeContext) (may : Gesture → Prop) (s s' : DozeService) : Prop :=
  s'.pulses = s.pulses ∧ s'.mLastPulseTimestamp = s.mLastPulseTimestamp ∨
    ∃ gesture, may gesture ∧
      (s.mLastPulseTimestamp ≠ 0 → s.mLastPulseTimestamp + pulseMinInterval ≤ c.now) ∧
      s'.pulses = s.pulses ++ [(gesture, c.later)] ∧ s'.mLastPulseTimestamp = c.later

/-- At most a pulse changes, and the sensors stay as they are. -/
structure Pulsed (c : DozeContext) (may : Gesture → Prop) (s s' : DozeService) : Prop where
  proximity : s'.proximity = s.proximity
  orientation : s'.orientation = s.orientation
  pickUp : s'.pickUp = s.pickUp
  launches : Launches c may s s'

theorem launchDozePulse_pulsed {may : Gesture → Prop} (c : DozeContext) (s : DozeService)
    (h : may gesture) :
    Pulsed c may s (s.launchDozePulse c gesture) := by
  rw [launchDozePulse]
  generalize hDelta : (if s.mLastPulseTimestamp ≠ 0 then _ else _) = delta
  split
  · rename_i hLate
    refine ⟨rfl, rfl, rfl, .inr ⟨gesture, h, ?_, ?_, rfl⟩⟩
    · intro hLast
      rw [if_pos hLast] at hDelta
      omega
    · simp [pulses, launchWakeLock]
  · exact ⟨rfl, rfl, rfl, .inl ⟨rfl, rfl⟩⟩

/-- What a callback of the orientation or the pick-up sensor leaves. -/
structure Settled (c : DozeContext) (may : Gesture → Prop) (s s' : DozeService) : Prop where
  proximity : s'.proximity = s.proximity
  exclusive : s.Exclusive → s'.Exclusive
  flag : ∀ gesture, s'.flag gesture = true → s.flag gesture = true
  launches : Launches c may s s'

theorem Kept.settled {may : Gesture → Prop} (h : Kept s s')
    (hExclusive : s.Exclusive → s'.Exclusive) :
    Settled c may s s' where
  proximity := h.proximity
  exclusive := hExclusive
  flag gesture hFlag := (h.flag gesture).symm.trans hFlag
  launches := .inl ⟨h.pulses, h.last⟩

theorem Settled.after {may : Gesture → Prop} {t : DozeService} (h : Settled c may t s')
    (hKept : Kept s t)
    (hExclusive : s.Exclusive → t.Exclusive) : Settled c may s s' where
  proximity := h.proximity.trans hKept.proximity
  exclusive hs := h.exclusive (hExclusive hs)
  flag gesture hFlag := (hKept.flag gesture).symm.trans (h.flag gesture hFlag)
  launches := by
    have hLaunches := h.launches
    rwa [Launches, hKept.pulses, hKept.last] at hLaunches

theorem Launches.mono {may may' : Gesture → Prop} (h : Launches c may s s')
    (hMay : ∀ gesture, may gesture → may' gesture) : Launches c may' s s' := by
  cases h with
  | inl hNone => exact .inl hNone
  | inr hPulse =>
    obtain ⟨gesture, hGesture, hRest⟩ := hPulse
    exact .inr ⟨gesture, hMay gesture hGesture, hRest⟩

theorem analyseDoze_flag (c : DozeContext) (s : DozeService) (gesture : Gesture) :
    (s.analyseDoze c).flag gesture = false := by
  cases gesture <;> rfl

theorem analyseDoze_settled (c : DozeContext) (s : DozeService) :
    Settled c (fun gesture => s.flag gesture = true) s (s.analyseDoze c) := by
  rw [analyseDoze]
  generalize hLaunched : (if s.mHandwaveDoze && _ then _ else _) = t
  have hPulsed : Pulsed c (fun gesture => s.flag gesture = true) s t := by
    rw [← hLaunched]
    split
    · rename_i h
      exact launchDozePulse_pulsed c s (Bool.and_eq_true_iff.mp h).1
    · split
      · rename_i h
        exact launchDozePulse_pulsed c s (Bool.and_eq_true_iff.mp h).1
      · split
        · rename_i h
          exact launchDozePulse_pulsed c s (Bool.and_eq_true_iff.mp h).1
        · exact ⟨rfl, rfl, rfl, .inl ⟨rfl, rfl⟩⟩
  have hNone : ∀ (u : DozeService) gesture, u.resetValues.flag gesture ≠ true := by
    intro u gesture
    cases gesture <;> nofun
  split
  · have hKept := setPickUpSensor_kept true t
    constructor
    · exact hKept.proximity.trans hPulsed.proximity
    · exact fun _ => setPickUpSensor_exclusive t true
    · exact fun gesture hFlag => absurd hFlag (hNone _ gesture)
    · have hLaunches := hPulsed.launches
      rwa [Launches, ← hKept.pulses, ← hKept.last] at hLaunches
  · constructor
    · exact hPulsed.proximity
    · intro hs
      rw [Exclusive, ← hPulsed.orientation, ← hPulsed.pickUp] at hs
      exact hs
    · exact fun gesture hFlag => absurd hFlag (hNone _ gesture)
    · exact hPulsed.launches

theorem orientationOnEvent_settled (c : DozeContext) (s : DozeService) :
    Settled c (fun gesture => s.flag gesture = true) s (s.orientationOnEvent c) := by
  have hKept := setOrientationSensor_kept false s
  rw [orientationOnEvent, handleOrientation]
  split
  · have hSettled := (analyseDoze_settled c (s.setOrientationSensor false)).after hKept
      fun _ => setOrientationSensor_exclusive s false
    simp only [hKept.flag] at hSettled
    exact hSettled
  · exact hKept.settled fun _ => setOrientationSensor_exclusive s false

theorem orientationChanged_settled (c : DozeContext) (accelerometer : Bool)
    (orientation : Option (ℚ × ℚ))
    (s : DozeService) :
    Settled c (fun gesture => s.flag gesture = true) s (s.orientationChanged c accelerometer orientation) := by
  have hSensor : ∀ sensor : OrientationSensor, sensor.mEnabled = s.orientation.mEnabled →
      Kept s { s with orientation := sensor } ∧ (s.Exclusive → Exclusive { s with orientation := sensor }) := by
    intro sensor hEnabled
    refine ⟨⟨rfl, fun gesture => by cases gesture <;> rfl, rfl, rfl⟩, ?_⟩
    intro hs
    rwa [Exclusive, hEnabled]
  rw [orientationChanged.eq_def]
  generalize hStored : (if accelerometer then { s.orientation with mGravity := true }
    else { s.orientation with mMagnetic := true }) = sensor
  have hEnabled : sensor.mEnabled = s.orientation.mEnabled := by
    rw [← hStored]
    cases accelerometer <;> rfl
  simp only
  split
  · split
    · exact (hSensor sensor hEnabled).1.settled (hSensor sensor hEnabled).2
    · rename_i pitch roll
      have hKept := hSensor { sensor with mState := OrientationSensor.stateOf pitch roll, mReady := true } hEnabled
      have hSettled := (orientationOnEvent_settled c _).after hKept.1 hKept.2
      simp only [hKept.1.flag] at hSettled
      exact hSettled
  · exact (hSensor sensor hEnabled).1.settled (hSensor sensor hEnabled).2

theorem Settled.before {may : Gesture → Prop} {t : DozeService} (h : Settled c may s t)
    (hKept : Kept t s')
    (hExclusive : t.Exclusive → s'.Exclusive) : Settled c may s s' where
  proximity := hKept.proximity.trans h.proximity
  exclusive hs := hExclusive (h.exclusive hs)
  flag gesture hFlag := h.flag gesture ((hKept.flag gesture).symm.trans hFlag)
  launches := by
    rw [Launches, hKept.pulses, hKept.last]
    exact h.launches

/-- The gestures for which a sample of the pick-up sensor may launch a pulse: those that are armed,
and picking up where it is enabled. -/
def PickUpMay (c : DozeContext) (s : DozeService) (gesture : Gesture) : Prop :=
  s.flag gesture = true ∨ gesture = .pickUp ∧ c.settings.pickUp = true

theorem handlePickUp_settled (c : DozeContext) (s : DozeService) :
    Settled c (PickUpMay c s) s (s.handlePickUp c) := by
  rw [handlePickUp]
  split
  · rename_i h
    have hEnabled := (Bool.and_eq_true_iff.mp h).2
    have hKept := launchWakeLock_kept { s with mPickUpDoze := true }
    have hSettled := analyseDoze_settled c { s with mPickUpDoze := true }.launchWakeLock
    constructor
    · exact hSettled.proximity
    · exact hSettled.exclusive
    · intro gesture hFlag
      rw [analyseDoze_flag] at hFlag
      cases hFlag
    · have hLaunches := hSettled.launches.mono (?_ : ∀ gesture, _ → PickUpMay c s gesture)
      · rwa [Launches, hKept.pulses, hKept.last] at hLaunches
      · intro gesture hFlag
        cases gesture with
        | handwave => exact .inl hFlag
        | pickUp => exact .inr ⟨rfl, hEnabled⟩
        | pocket => exact .inl hFlag
  · constructor
    · rfl
    · exact id
    · intro gesture hFlag
      cases gesture with
      | handwave => exact hFlag
      | pickUp => cases hFlag
      | pocket => exact hFlag
    · exact .inl ⟨rfl, rfl⟩

theorem Settled.mono {may may' : Gesture → Prop} (h : Settled c may s s')
    (hMay : ∀ gesture, may gesture → may' gesture) : Settled c may' s s' :=
  ⟨h.proximity, h.exclusive, h.flag, h.launches.mono hMay⟩

theorem setPickUpState_settled (c : DozeContext) (state : PickUpState) (s : DozeService) :
    Settled c (PickUpMay c s) s (s.setPickUpState c state) := by
  have hFlag : ∀ (pickUp : PickUpSensor) (mPickUpState : Bool) gesture,
      flag { s with pickUp := pickUp, mPickUpState := mPickUpState } gesture = s.flag gesture := by
    intro pickUp mPickUpState gesture
    cases gesture <;> rfl
  rw [setPickUpState]
  split
  · simp only
    split
    · refine ((handlePickUp_settled c _).mono ?_).after ⟨rfl, hFlag _ _, rfl, rfl⟩ id
      intro gesture hMay
      rwa [PickUpMay, hFlag] at hMay
    · exact ⟨rfl, id, fun gesture h => (hFlag _ _ gesture).symm.trans h, .inl ⟨rfl, rfl⟩⟩
  · exact (Kept.refl s).settled id

theorem pickUpChanged_settled (c : DozeContext) (x y : ℚ) (s : DozeService) :
    Settled c (PickUpMay c s) s (s.pickUpChanged c x y) := by
  rw [pickUpChanged]
  generalize hTold : (if PickUpSensor.isPickUpAbove x y PickUpSensor.pickUpSafezone then _ else _) = t
  have hSettled : Settled c (PickUpMay c s) s t := by
    rw [← hTold]
    split
    · split
      · exact setPickUpState_settled c _ s
      · exact (Kept.refl s).settled id
    · exact setPickUpState_settled c _ s
  split
  · exact hSettled.before ⟨rfl, fun gesture => by cases gesture <;> rfl, rfl, rfl⟩ id
  · exact hSettled

/-- What the service makes of a release: a gesture is armed only where it is enabled. -/
structure Released (c : DozeContext) (s s' : DozeService) : Prop where
  proximity : s'.proximity = s.proximity
  exclusive : s.Exclusive → s'.Exclusive
  pulses : s'.pulses = s.pulses
  last : s'.mLastPulseTimestamp = s.mLastPulseTimestamp
  flag : ∀ gesture, s'.flag gesture = true → c.settings.enabled gesture = true

theorem released_of_armed {handwave pickUp pocket : Bool}
    (hHandwave : handwave = true → c.settings.handwave = true)
    (hPickUp : pickUp = true → c.settings.pickUp = true)
    (hPocket : pocket = true → c.settings.pocket = true) :
    Released c s
      ({ s with mHandwaveDoze := handwave, mPickUpDoze := pickUp, mPocketDoze := pocket }
        |>.setOrientationSensor true) := by
  have hKept := setOrientationSensor_kept true
    { s with mHandwaveDoze := handwave, mPickUpDoze := pickUp, mPocketDoze := pocket }
  refine ⟨hKept.proximity, fun _ => setOrientationSensor_exclusive _ true, hKept.pulses, hKept.last, ?_⟩
  intro gesture hFlag
  rw [hKept.flag] at hFlag
  cases gesture with
  | handwave => exact hHandwave hFlag
  | pickUp => exact hPickUp hFlag
  | pocket => exact hPocket hFlag

theorem handleProximity_released (timestamp : Int) (h : s.mProximityNear = false) :
    Released c s (s.handleProximity c timestamp) := by
  rw [handleProximity]
  generalize decide (timestamp - s.mLastStowedTimestamp < handwaveDelta) = quickWave
  simp only [h, Bool.not_false, if_true]
  split
  · rename_i hAll
    rw [Bool.and_eq_true_iff, Bool.and_eq_true_iff] at hAll
    exact released_of_armed (fun _ => hAll.1.1) (fun _ => hAll.1.2) (fun _ => hAll.2)
  · split
    · rename_i hWave
      exact released_of_armed (fun _ => (Bool.and_eq_true_iff.mp hWave).1) nofun nofun
    · split
      · exact released_of_armed nofun id id
      · have hNone : ∀ gesture, s.resetValues.flag gesture ≠ true := by
          intro gesture
          cases gesture <;> nofun
        split
        · have hKept := setPickUpSensor_kept true s.resetValues
          refine ⟨hKept.proximity, fun _ => setPickUpSensor_exclusive _ true, hKept.pulses, hKept.last, ?_⟩
          intro gesture hFlag
          rw [hKept.flag] at hFlag
          exact absurd hFlag (hNone gesture)
        · exact ⟨rfl, id, rfl, rfl, fun gesture hFlag => absurd hFlag (hNone gesture)⟩

theorem handleProximity_near (timestamp : Int) (h : s.mProximityNear = true) :
    Kept s (s.handleProximity c timestamp) ∧ (s.handleProximity c timestamp).Off := by
  rw [handleProximity]
  simp only [h, Bool.not_true, Bool.false_eq_true, if_false]
  refine ⟨?_, disabled_off _⟩
  refine Kept.trans ?_ ((setOrientationSensor_kept false _).trans (setPickUpSensor_kept false _))
  exact ⟨rfl, fun gesture => by cases gesture <;> rfl, rfl, rfl⟩

/-- What a sample of the proximity sensor leaves: after a near one both other sensors are disabled,
and a gesture is armed only at a release, where it is enabled. -/
structure ProximityTold (c : DozeContext) (isNear : Bool) (s s' : DozeService) : Prop where
  mEnabled : s'.proximity.mEnabled = s.proximity.mEnabled
  mReady : s'.proximity.mReady = true
  mState : s'.proximity.mState = isNear
  off : isNear = true → s'.Off
  exclusive : s.Exclusive → s'.Exclusive
  pulses : s'.pulses = s.pulses
  last : s'.mLastPulseTimestamp = s.mLastPulseTimestamp
  flag : ∀ gesture, s'.flag gesture = true → s.flag gesture = true ∨
    s.proximity.mReady = true ∧ s.proximity.mState = true ∧ isNear = false ∧ c.settings.enabled gesture = true

theorem proximityOnInit_kept (isNear : Bool) (timestamp : Int) (s : DozeService) :
    Kept s (s.proximityOnInit c isNear timestamp) ∧
      (s.Exclusive → (s.proximityOnInit c isNear timestamp).Exclusive) ∧
        (isNear = true → s.Off → (s.proximityOnInit c isNear timestamp).Off) := by
  have hStowed : Kept s { s with mLastStowedTimestamp := timestamp, mProximityNear := isNear } :=
    ⟨rfl, fun gesture => by cases gesture <;> rfl, rfl, rfl⟩
  rw [proximityOnInit]
  split
  · rename_i hInit
    refine ⟨hStowed.trans (setPickUpSensor_kept true _), fun _ => setPickUpSensor_exclusive _ true, ?_⟩
    intro hNear
    simp [hNear] at hInit
  · exact ⟨hStowed, id, fun _ => id⟩

/-- The state of the proximity sensor is stored. -/
def sensed (isNear : Bool) (s : DozeService) : DozeService :=
  { s with proximity := { s.proximity with mState := isNear } }

theorem sensed_self (s : DozeService) : s.sensed s.proximity.mState = s := rfl

theorem proximityOnEvent_told {isNear : Bool} (timestamp : Int) (hReady : s.proximity.mReady = true)
    (hState : s.proximity.mState ≠ isNear) :
    ProximityTold c isNear s ((s.sensed isNear).proximityOnEvent c isNear timestamp) := by
  rw [proximityOnEvent]
  cases isNear with
  | false =>
    have hReleased := handleProximity_released (c := c)
      (s := { s.sensed false with mProximityNear := false }) timestamp rfl
    refine ⟨(congrArg ProximitySensor.mEnabled hReleased.proximity :),
      (congrArg ProximitySensor.mReady hReleased.proximity :).trans hReady,
      (congrArg ProximitySensor.mState hReleased.proximity :), nofun, hReleased.exclusive, hReleased.pulses, hReleased.last, ?_⟩
    intro gesture hFlag
    exact .inr ⟨hReady, by simpa using hState, rfl, hReleased.flag gesture hFlag⟩
  | true =>
    obtain ⟨hKept, hOff⟩ := handleProximity_near (c := c)
      (s := { s.sensed true with mProximityNear := true }) timestamp rfl
    refine ⟨(congrArg ProximitySensor.mEnabled hKept.proximity :),
      (congrArg ProximitySensor.mReady hKept.proximity :).trans hReady,
      (congrArg ProximitySensor.mState hKept.proximity :), fun _ => hOff, fun _ => hOff.exclusive, hKept.pulses, hKept.last, ?_⟩
    intro gesture hFlag
    rw [hKept.flag] at hFlag
    cases gesture <;> exact .inl hFlag

theorem proximityChanged_told (c : DozeContext) (isNear : Bool) (timestamp : Int)
    (hOff : s.proximity.mReady = false ∨ s.proximity.mState = true → s.Off) :
    ProximityTold c isNear s (s.proximityChanged c isNear timestamp) := by
  cases hReady : s.proximity.mReady with
  | false =>
    have hFirst : s.proximityChanged c isNear timestamp =
        { (s.sensed isNear).proximityOnInit c isNear timestamp with
          proximity :=
            { ((s.sensed isNear).proximityOnInit c isNear timestamp).proximity with mReady := true } } := by
      by_cases hState : s.proximity.mState = isNear
      · rw [← hState, sensed_self]
        simp [proximityChanged, hReady]
      · simp [proximityChanged, hReady, hState, sensed]
    obtain ⟨hKept, hExclusive, hNear⟩ := proximityOnInit_kept (c := c) isNear timestamp (s.sensed isNear)
    rw [hFirst]
    generalize (s.sensed isNear).proximityOnInit c isNear timestamp = t at *
    constructor
    · exact (congrArg ProximitySensor.mEnabled hKept.proximity :)
    · rfl
    · exact (congrArg ProximitySensor.mState hKept.proximity :)
    · exact fun hIsNear => hNear hIsNear (hOff (.inl hReady))
    · exact hExclusive
    · exact hKept.pulses
    · exact hKept.last
    · intro gesture hFlag
      have hBefore := hKept.flag gesture
      cases gesture <;> exact .inl (hBefore.symm.trans hFlag)
  | true =>
    by_cases hState : s.proximity.mState = isNear
    · have hSame : s.proximityChanged c isNear timestamp = s := by
        simp [proximityChanged, hState, hReady]
      rw [hSame]
      exact ⟨rfl, hReady, hState, fun hNear => hOff (.inr (hState.trans hNear)), id, rfl, rfl, fun _ h => .inl h⟩
    · have hTold := proximityOnEvent_told (c := c) timestamp hReady hState
      have hEvent : s.proximityChanged c isNear timestamp =
          (s.sensed isNear).proximityOnEvent c isNear timestamp := by
        have hStays := hTold.mReady
        simp only [sensed, hReady] at hStays ⊢
        simp [proximityChanged, hState, hReady, hStays]
      rwa [hEvent]

/-- The display on: nothing is enabled. -/
theorem onDisplayOn_off (s : DozeService) :
    s.onDisplayOn.Off ∧ s.onDisplayOn.proximity.mEnabled = false ∧ s.onDisplayOn.pulses = s.pulses ∧
      ∀ gesture, s.onDisplayOn.flag gesture = s.flag gesture := by
  refine ⟨?_, ?_, rfl, fun gesture => by cases gesture <;> rfl⟩
  · simp [onDisplayOn, Off, setProximitySensor, setPickUpSensor, setOrientationSensor]
  · simp [onDisplayOn, setProximitySensor]

/-- The display off: the other two sensors are disabled, or nothing changes but the time of the
last pulse. -/
theorem onDisplayOff_cases (settings : Gestures) (s : DozeService) :
    (s.onDisplayOff settings).mLastPulseTimestamp = 0 ∧
    (s.onDisplayOff settings).pulses = s.pulses ∧
      ((s.onDisplayOff settings).Off ∧ (∀ gesture, (s.onDisplayOff settings).flag gesture = false) ∨
        s.onDisplayOff settings = { s with mLastPulseTimestamp := 0 }) := by
  rw [onDisplayOff]
  split
  · refine ⟨rfl, rfl, .inl ⟨?_, fun gesture => by cases gesture <;> rfl⟩⟩
    simp [Off, setProximitySensor, setPickUpSensor, setOrientationSensor]
  · exact ⟨rfl, rfl, .inr rfl⟩

end DozeService

end KiwiDevice.Doze

import Mathlib.Algebra.Order.Field.Rat

/-!
# The doze service

`SensorsDozeService` and its three sensors as one machine on the main thread. Enabling a sensor
takes effect at once, and a disabled sensor delivers nothing. The samples carry exact numbers; what
`getRotationMatrix` and `getOrientation` give is part of a sample.
-/

namespace KiwiDevice.Doze

/-- The gestures that are enabled in the settings. -/
structure Gestures where
  handwave : Bool
  pickUp : Bool
  pocket : Bool
  deriving DecidableEq, Repr

inductive Gesture where
  | handwave
  | pickUp
  | pocket
  deriving DecidableEq, Repr

def Gestures.enabled (g : Gestures) : Gesture → Bool
  | .handwave => g.handwave
  | .pickUp => g.pickUp
  | .pocket => g.pocket

def Gestures.sensorsEnabled (g : Gestures) : Bool := g.pickUp || g.handwave || g.pocket

structure ProximitySensor where
  mEnabled : Bool
  mReady : Bool
  mState : Bool
  deriving DecidableEq, Repr

inductive PickUpState where
  | unknown
  | putDown
  | pickedUp
  deriving DecidableEq, Repr

structure PickUpSensor where
  mEnabled : Bool
  mReady : Bool
  mState : PickUpState
  deriving DecidableEq, Repr

inductive OrientationState where
  | unknown
  | faceDown
  | faceUp
  | vertical
  deriving DecidableEq, Repr

/-- Of `mGravity` and `mMagnetic` whether they are there. -/
structure OrientationSensor where
  mEnabled : Bool
  mReady : Bool
  mState : OrientationState
  mGravity : Bool
  mMagnetic : Bool
  deriving DecidableEq, Repr

namespace ProximitySensor

def start : ProximitySensor := ⟨false, false, false⟩

def reset (s : ProximitySensor) : ProximitySensor := { s with mReady := false, mState := false }

def setEnabled (enabled : Bool) (s : ProximitySensor) : ProximitySensor :=
  if enabled = s.mEnabled then s else { s.reset with mEnabled := enabled }

end ProximitySensor

namespace PickUpSensor

def start : PickUpSensor := ⟨false, false, .unknown⟩

def reset (s : PickUpSensor) : PickUpSensor := { s with mReady := false, mState := .unknown }

def setEnabled (enabled : Bool) (s : PickUpSensor) : PickUpSensor :=
  if enabled = s.mEnabled then s else { s.reset with mEnabled := enabled }

def isPickedUp (s : PickUpSensor) : Bool := s.mReady && decide (s.mState = .pickedUp)

def isPickUpAbove (x y threshold : ℚ) :
    Bool := decide (x < -threshold ∨ x > threshold ∨ y > threshold)

def pickUpSafezone : ℚ := 5

def pickUpThreshold : ℚ := 6

end PickUpSensor

namespace OrientationSensor

def start : OrientationSensor := ⟨false, false, .unknown, false, false⟩

def reset (s : OrientationSensor) : OrientationSensor :=
  { s with mGravity := false, mMagnetic := false, mReady := false, mState := .unknown }

def setEnabled (enabled : Bool) (s : OrientationSensor) : OrientationSensor :=
  if enabled = s.mEnabled then s else { s.reset with mEnabled := enabled }

def isFaceDown (s : OrientationSensor) : Bool := s.mReady && decide (s.mState = .faceDown)

def isVertical (s : OrientationSensor) : Bool := s.mReady && decide (s.mState = .vertical)

def pi14 : ℚ := 785398 / 1000000

def pi34 : ℚ := 235619 / 100000

/-- The state for the second and third value of `getOrientation`. -/
def stateOf (pitch roll : ℚ) : OrientationState :=
  if pitch < -pi14 ∨ pitch > pi14 ∨ (roll > pi14 ∧ roll < pi34) ∨ (roll > -pi34 ∧ roll < -pi14) then .vertical
  else if pitch > -pi14 ∧ pitch < pi14 then
    if roll > -pi14 ∧ roll < pi14 then .faceUp
    else if roll < -pi34 ∨ roll > pi34 then .faceDown
    else .unknown
  else .unknown

end OrientationSensor

/-- `pulse` names the gesture whose branch of `analyseDoze` launches it. -/
inductive DozeEffect where
  | wakeLock
  | pulse (gesture : Gesture) (time : Int)
  deriving DecidableEq, Repr

/-- The fields of the service, and what it has done in the callback so far. -/
structure DozeService where
  orientation : OrientationSensor
  pickUp : PickUpSensor
  proximity : ProximitySensor
  mHandwaveDoze : Bool
  mPickUpDoze : Bool
  mPickUpState : Bool
  mPocketDoze : Bool
  mProximityNear : Bool
  mLastPulseTimestamp : Int
  mLastStowedTimestamp : Int
  effects : List DozeEffect
  deriving DecidableEq, Repr

/-- The settings, and two readings of the clock, which a callback takes one after the other. -/
structure DozeContext where
  settings : Gestures
  now : Int
  later : Int

namespace DozeService

def handwaveDelta : Int := 1000 * 1000 * 1000

def pulseMinInterval : Int := 5000

def start : DozeService where
  orientation := .start
  pickUp := .start
  proximity := .start
  mHandwaveDoze := false
  mPickUpDoze := false
  mPickUpState := false
  mPocketDoze := false
  mProximityNear := false
  mLastPulseTimestamp := 0
  mLastStowedTimestamp := 0
  effects := []

def isEventPending (s : DozeService) : Bool := s.mHandwaveDoze || s.mPickUpDoze || s.mPocketDoze

def launchWakeLock (s : DozeService) : DozeService := { s with effects := s.effects ++ [.wakeLock] }

def resetValues (s : DozeService) : DozeService :=
  { s with mHandwaveDoze := false, mPickUpDoze := false, mPocketDoze := false }

/-- The call of `setPickUpSensor` in it only disables that sensor. -/
def setOrientationSensor (enabled : Bool) (s : DozeService) : DozeService :=
  let s := if enabled then launchWakeLock { s with pickUp := s.pickUp.setEnabled false } else s
  { s with orientation := s.orientation.setEnabled enabled }

def setPickUpSensor (enabled : Bool) (s : DozeService) : DozeService :=
  let s := if enabled then s.setOrientationSensor false else s
  { s with pickUp := s.pickUp.setEnabled enabled }

def setProximitySensor (enabled : Bool) (s : DozeService) : DozeService :=
  { s with proximity := s.proximity.setEnabled enabled }

def resetSensors (s : DozeService) : DozeService :=
  { s with orientation := s.orientation.reset, pickUp := s.pickUp.reset, proximity := s.proximity.reset }

def launchDozePulse (c : DozeContext) (gesture : Gesture) (s : DozeService) : DozeService :=
  let delta := if s.mLastPulseTimestamp ≠ 0 then c.now - s.mLastPulseTimestamp else pulseMinInterval
  if delta ≥ pulseMinInterval then
    let s := s.launchWakeLock
    { s with mLastPulseTimestamp := c.later, effects := s.effects ++ [.pulse gesture c.later] }
  else s

def analyseDoze (c : DozeContext) (s : DozeService) : DozeService :=
  let s :=
    if s.mHandwaveDoze && !s.orientation.isFaceDown then s.launchDozePulse c .handwave
    else if s.mPickUpDoze && ((s.mPickUpState && !s.mProximityNear) ||
        (!s.mPickUpState && s.orientation.isFaceDown)) then s.launchDozePulse c .pickUp
    else if s.mPocketDoze && s.orientation.isVertical then s.launchDozePulse c .pocket
    else s
  let s := if !s.mProximityNear && c.settings.pickUp then s.setPickUpSensor true else s
  s.resetValues

def handleProximity (c : DozeContext) (timestamp : Int) (s : DozeService) : DozeService :=
  let quickWave := decide (timestamp - s.mLastStowedTimestamp < handwaveDelta)
  if !s.mProximityNear then
    let s := s.resetValues
    if c.settings.handwave && c.settings.pickUp && c.settings.pocket then
      { s with mHandwaveDoze := quickWave, mPickUpDoze := !quickWave, mPocketDoze := !quickWave }
        |>.setOrientationSensor true
    else if c.settings.handwave && quickWave then
      { s with mHandwaveDoze := true } |>.setOrientationSensor true
    else if (c.settings.pickUp || c.settings.pocket) && !quickWave then
      { s with mPickUpDoze := c.settings.pickUp, mPocketDoze := c.settings.pocket }
        |>.setOrientationSensor true
    else if c.settings.pickUp then s.setPickUpSensor true
    else s
  else
    { s with mLastStowedTimestamp := timestamp } |>.setOrientationSensor false |>.setPickUpSensor false

def handleOrientation (c : DozeContext) (s : DozeService) : DozeService :=
  if !s.mProximityNear then s.analyseDoze c else s

def handlePickUp (c : DozeContext) (s : DozeService) : DozeService :=
  if s.mPickUpState && c.settings.pickUp then
    { s with mPickUpDoze := true } |>.launchWakeLock |>.analyseDoze c
  else { s with mPickUpDoze := false }

def orientationOnEvent (c : DozeContext) (s : DozeService) : DozeService :=
  s.setOrientationSensor false |>.handleOrientation c

def pickUpOnEvent (c : DozeContext) (s : DozeService) : DozeService :=
  { s with mPickUpState := s.pickUp.isPickedUp } |>.handlePickUp c

def pickUpOnInit (s : DozeService) : DozeService := { s with mPickUpState := s.pickUp.isPickedUp }

def proximityOnEvent (c : DozeContext) (isNear : Bool) (timestamp : Int) (s : DozeService) :
    DozeService :=
  { s with mProximityNear := isNear } |>.handleProximity c timestamp

def proximityOnInit (c : DozeContext) (isNear : Bool) (timestamp : Int) (s : DozeService) :
    DozeService :=
  let s := { s with mLastStowedTimestamp := timestamp, mProximityNear := isNear }
  if !s.isEventPending && !isNear && c.settings.pickUp then s.setPickUpSensor true else s

/-- `ProximitySensor.onSensorChanged`, where the sample says whether the value is below
the maximum. -/
def proximityChanged (c : DozeContext) (isNear : Bool) (timestamp : Int) (s : DozeService) :
    DozeService :=
  let s :=
    if s.proximity.mState ≠ isNear then
      let s := { s with proximity := { s.proximity with mState := isNear } }
      if s.proximity.mReady then s.proximityOnEvent c s.proximity.mState timestamp else s
    else s
  if !s.proximity.mReady then
    let s := s.proximityOnInit c s.proximity.mState timestamp
    { s with proximity := { s.proximity with mReady := true } }
  else s

def setPickUpState (c : DozeContext) (state : PickUpState) (s : DozeService) : DozeService :=
  if s.pickUp.mState ≠ state then
    let s := { s with pickUp := { s.pickUp with mState := state } }
    if s.pickUp.mReady then s.pickUpOnEvent c else s
  else s

/-- `PickUpSensor.onSensorChanged`. -/
def pickUpChanged (c : DozeContext) (x y : ℚ) (s : DozeService) : DozeService :=
  let s :=
    if PickUpSensor.isPickUpAbove x y PickUpSensor.pickUpSafezone then
      if PickUpSensor.isPickUpAbove x y PickUpSensor.pickUpThreshold then s.setPickUpState c .pickedUp else s
    else s.setPickUpState c .putDown
  if !s.pickUp.mReady then
    { s with pickUp := { s.pickUp with mReady := true } } |>.pickUpOnInit
  else s

/-- `OrientationSensor.onSensorChanged` for a sample of the accelerometer or of the magnetic field;
`orientation` is there where there is a rotation matrix. -/
def orientationChanged (c : DozeContext) (accelerometer : Bool) (orientation : Option (ℚ × ℚ))
    (s : DozeService) : DozeService :=
  let sensor :=
    if accelerometer then { s.orientation with mGravity := true } else { s.orientation with mMagnetic := true }
  if sensor.mGravity && sensor.mMagnetic then
    match orientation with
    | none => { s with orientation := sensor }
    | some (pitch, roll) =>
      { s with orientation := { sensor with mState := OrientationSensor.stateOf pitch roll, mReady := true } }
        |>.orientationOnEvent c
  else { s with orientation := sensor }

def onDisplayOn (s : DozeService) : DozeService :=
  s.resetSensors |>.setOrientationSensor false |>.setPickUpSensor false |>.setProximitySensor false

def onDisplayOff (settings : Gestures) (s : DozeService) : DozeService :=
  let s := { s with mLastPulseTimestamp := 0 }
  if settings.sensorsEnabled then
    s.resetValues.resetSensors |>.setOrientationSensor false |>.setPickUpSensor false
      |>.setProximitySensor true
  else s

end DozeService

/-- What reaches the service. The proximity sample has its value; the clock is read where a pulse
may be launched. -/
inductive DozeInput where
  | screenOn
  | screenOff
  | settings (settings : Gestures)
  | proximity (value : ℚ) (timestamp : Int)
  | pickUp (x y z : ℚ) (now later : Int)
  | orientation (accelerometer : Bool) (orientation : Option (ℚ × ℚ)) (now later : Int)
  deriving DecidableEq

structure DozeSystem where
  service : DozeService
  settings : Gestures
  screenOn : Bool
  clock : Int

namespace DozeSystem

/-- `onCreate`, with the screen on or off. -/
def create (interactive : Bool) (settings : Gestures) (clock : Int) : DozeSystem where
  service := if interactive then .start else DozeService.start.onDisplayOff settings
  settings := settings
  screenOn := interactive
  clock := clock

/-- A callback with the settings as they are. -/
def callback (now later : Int) (f : DozeContext → DozeService → DozeService) (s : DozeSystem) :
    DozeSystem :=
  { s with service := f ⟨s.settings, now, later⟩ { s.service with effects := [] }, clock := later }

/-- The clock does not go back, and a disabled sensor delivers nothing. -/
def step (mMaxRange : ℚ) (s : DozeSystem) : DozeInput → Option DozeSystem
  | .screenOn =>
    some { s with service := { s.service with effects := [] }.onDisplayOn, screenOn := true }
  | .screenOff =>
    some { s with service := { s.service with effects := [] }.onDisplayOff s.settings, screenOn := false }
  | .settings settings => some { s with settings := settings, service := { s.service with effects := [] } }
  | .proximity value timestamp =>
    if s.service.proximity.mEnabled then
      some (s.callback s.clock s.clock fun c => .proximityChanged c (decide (value < mMaxRange)) timestamp)
    else none
  | .pickUp x y _ now later =>
    if s.service.pickUp.mEnabled ∧ s.clock ≤ now ∧ now ≤ later then
      some (s.callback now later fun c => .pickUpChanged c x y)
    else none
  | .orientation accelerometer orientation now later =>
    if s.service.orientation.mEnabled ∧ s.clock ≤ now ∧ now ≤ later then
      some (s.callback now later fun c => .orientationChanged c accelerometer orientation)
    else none

end DozeSystem

end KiwiDevice.Doze

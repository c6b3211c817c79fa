import KiwiDevice.Lib.Since
import KiwiDevice.Lib.Steps
import Mathlib.Logic.Function.Basic

/-!
# Enabling a doze sensor

`setEnabled` of the three sensors of the doze service compares its argument with `mEnabled` and
submits a runnable to a single-thread executor, which registers or unregisters the listener and only
then stores `mEnabled`. The steps of the main thread and of the executor are interleaved. What
`reset` clears is read for samples only and left out here.
-/

namespace KiwiDevice.Doze

inductive HardwareSensor where
  | proximity
  | accelerometer
  | magneticField
  deriving DecidableEq, Repr

inductive DozeSensor where
  | proximity
  | pickUp
  | orientation
  deriving DecidableEq, Repr

/-- The sensors on which the runnable registers the listener, in this order. -/
def DozeSensor.hardware : DozeSensor → List HardwareSensor
  | proximity => [.proximity]
  | pickUp => [.accelerometer]
  | orientation => [.accelerometer, .magneticField]

/-- `running` is the argument of the runnable that the executor is in, with the sensors still to
come; `queue` are the arguments of those it has not begun. `call` is that of a `setEnabled` which is
past its check and has not submitted. -/
structure SensorJobs where
  mEnabled : Bool
  registered : HardwareSensor → Bool
  running : Option (Bool × List HardwareSensor)
  queue : List Bool
  call : Option Bool

inductive SensorAction where
  | setEnabled (enabled : Bool)
  | submit
  | begin
  | register
  | finish
  deriving DecidableEq, Repr

namespace SensorJobs

def start : SensorJobs := ⟨false, fun _ => false, none, [], none⟩

/-- One step of the main thread or of the executor, where it can be taken. -/
def step (sensor : DozeSensor) (s : SensorJobs) : SensorAction → Option SensorJobs
  | .setEnabled enabled =>
    if s.call ≠ none then none
    else if enabled = s.mEnabled then some s
    else some { s with call := some enabled }
  | .submit =>
    match s.call with
    | none => none
    | some enabled => some { s with queue := s.queue ++ [enabled], call := none }
  | .begin =>
    match s.running, s.queue with
    | none, enabled :: queue => some { s with running := some (enabled, sensor.hardware), queue := queue }
    | _, _ => none
  | .register =>
    match s.running with
    | some (enabled, h :: rest) =>
      some { s with registered := Function.update s.registered h enabled, running := some (enabled, rest) }
    | _ => none
  | .finish =>
    match s.running with
    | some (enabled, []) => some { s with mEnabled := enabled, running := none }
    | _ => none

/-- A step and the state it was taken in. -/
abbrev Entry := SensorJobs × SensorAction

def Next (sensor : DozeSensor) (s : SensorJobs) (i : SensorAction) (o : List Entry)
    (s' : SensorJobs) : Prop :=
  s.step sensor i = some s' ∧ o = [(s, i)]

/-- The runnables that are not finished, the running one first. -/
def pending (s : SensorJobs) : List Bool := (s.running.map Prod.fst).toList ++ s.queue

/-- No call, no runnable and nothing queued. -/
structure Idle (s : SensorJobs) : Prop where
  call : s.call = none
  running : s.running = none
  queue : s.queue = []

/-- The last call of `setEnabled` had the argument. -/
def LastCall (os : List Entry) (enabled : Bool) : Prop :=
  Lib.Since (fun _ e => e.2 = .setEnabled enabled) (fun e => ∀ b, e.2 ≠ .setEnabled b) os

/-- A call that changes nothing for `mEnabled` finds no last runnable for the other value. -/
def InTime (s : SensorJobs) (enabled : Bool) : Prop :=
  enabled = s.mEnabled → ∀ b, s.pending.getLast? = some b → b = enabled

/-- The last call of `setEnabled` had the argument and was in time. -/
def LastCallInTime (os : List Entry) (enabled : Bool) : Prop :=
  Lib.Since (fun _ e => e.2 = .setEnabled enabled ∧ e.1.InTime enabled)
    (fun e => ∀ b, e.2 ≠ .setEnabled b) os

variable {sensor : DozeSensor} {s s' : SensorJobs} {i : SensorAction} {is : List SensorAction}
  {os o : List Entry} {enabled : Bool}

/-- What the sensor will be when all that is submitted is done. -/
def wanted (s : SensorJobs) : Bool := (s.pending ++ s.call.toList).getLast?.getD s.mEnabled

/-- The sensors that the running job has passed, or all without one, are as the job or
`mEnabled` says. -/
def Registers (sensor : DozeSensor) (s : SensorJobs) : Prop :=
  match s.running with
  | none => ∀ h ∈ sensor.hardware, s.registered h = s.mEnabled
  | some (enabled, rest) => ∃ passed, sensor.hardware = passed ++ rest ∧ ∀ h ∈ passed, s.registered h = enabled

theorem wanted_setEnabled (h : s.step sensor (.setEnabled enabled) = some s') :
    s'.wanted = enabled ↔ s.InTime enabled := by
  rw [step] at h
  split at h
  · cases h
  · rename_i hCall
    rw [ne_eq, not_not] at hCall
    split at h
    · rename_i hSame
      cases h
      subst hSame
      rw [wanted, hCall, InTime]
      simp only [Option.toList_none, List.append_nil, forall_const]
      cases s.pending.getLast? with
      | none => simp
      | some b => simp
    · rename_i hOther
      cases h
      refine iff_of_true ?_ fun hSame => absurd hSame hOther
      simp [wanted]

theorem wanted_of_not_call (h : s.step sensor i = some s') (hi : ∀ b, i ≠ .setEnabled b) :
    s'.wanted = s.wanted := by
  cases i with
  | setEnabled b => exact absurd rfl (hi b)
  | submit =>
    rw [step] at h
    split at h
    · cases h
    · rename_i enabled hCall
      cases h
      simp [wanted, pending, hCall]
  | begin =>
    rw [step] at h
    split at h
    · rename_i enabled queue hRunning hQueue
      cases h
      simp [wanted, pending, hRunning, hQueue]
    · cases h
  | register =>
    rw [step] at h
    split at h
    · rename_i enabled hw rest hRunning
      cases h
      simp [wanted, pending, hRunning]
    · cases h
  | finish =>
    rw [step] at h
    split at h
    · rename_i enabled hRunning
      cases h
      simp [wanted, pending, hRunning, List.getLast?_cons]
    · cases h

theorem registers_step (h : s.step sensor i = some s') (hs : Registers sensor s) :
    Registers sensor s' := by
  cases i with
  | setEnabled b =>
    rw [step] at h
    split at h
    · cases h
    · split at h
      · cases h
        exact hs
      · cases h
        exact hs
  | submit =>
    rw [step] at h
    split at h
    · cases h
    · cases h
      exact hs
  | begin =>
    rw [step] at h
    split at h
    · cases h
      exact ⟨[], rfl, nofun⟩
    · cases h
  | register =>
    rw [step] at h
    split at h
    · rename_i b hw rest hRunning
      cases h
      rw [Registers, hRunning] at hs
      obtain ⟨passed, hHardware, hPassed⟩ := hs
      refine ⟨passed ++ [hw], by rw [hHardware, List.append_assoc]; rfl, ?_⟩
      intro hw' hMem
      by_cases hSame : hw' = hw
      · subst hSame
        exact Function.update_self hw' b s.registered
      · refine (Function.update_of_ne hSame b s.registered).trans (hPassed hw' ?_)
        simpa [hSame] using hMem
    · cases h
  | finish =>
    rw [step] at h
    split at h
    · rename_i b hRunning
      cases h
      rw [Registers, hRunning] at hs
      obtain ⟨passed, hHardware, hPassed⟩ := hs
      rw [List.append_nil] at hHardware
      rw [Registers, hHardware]
      exact hPassed
    · cases h

/-- Whenever nothing is left to do, the listener is registered as the last call asked exactly if
that call was in time. -/
theorem registered_iff_inTime (enabled : Bool)
    (run : Lib.Steps (Next sensor) Lib.anyStep start is os s) (hIdle : s.Idle)
    (hLast : LastCall os enabled) :
    (∀ h ∈ sensor.hardware, s.registered h = enabled) ↔ LastCallInTime os enabled := by
  have hRun : Registers sensor s ∧
      ∀ b, LastCall os b → (s.wanted = b ↔ LastCallInTime os b) := by
    apply run.history
      (I := fun _ os s => Registers sensor s ∧ ∀ b, LastCall os b → (s.wanted = b ↔ LastCallInTime os b))
    · exact ⟨fun _ _ => rfl, fun b h => absurd h Lib.not_since_nil⟩
    · rintro is os s i o s' - ⟨hRegisters, hWanted⟩ ⟨hStep, rfl⟩
      refine ⟨registers_step hStep hRegisters, ?_⟩
      intro b hCall
      rw [LastCall, Lib.since_snoc] at hCall
      rw [LastCallInTime, Lib.since_snoc]
      rcases hCall with hNow | ⟨hOther, hBefore⟩
      · cases hNow
        simp [wanted_setEnabled hStep]
      · have hNot : i ≠ .setEnabled b := hOther b
        rw [wanted_of_not_call hStep hOther, hWanted b hBefore]
        simp [hNot, hOther, LastCallInTime]
  obtain ⟨hRegisters, hWanted⟩ := hRun
  rw [← hWanted enabled hLast]
  have hNow : s.wanted = s.mEnabled := by simp [wanted, pending, hIdle.call, hIdle.running, hIdle.queue]
  rw [Registers, hIdle.running] at hRegisters
  rw [hNow]
  constructor
  · intro hAll
    cases sensor with
    | proximity => exact (hRegisters _ List.mem_cons_self).symm.trans (hAll _ List.mem_cons_self)
    | pickUp => exact (hRegisters _ List.mem_cons_self).symm.trans (hAll _ List.mem_cons_self)
    | orientation => exact (hRegisters _ List.mem_cons_self).symm.trans (hAll _ List.mem_cons_self)
  · intro hEnabled h hMem
    rw [← hEnabled]
    exact hRegisters h hMem

theorem run_action (run : Lib.Steps (Next sensor) Lib.anyStep start is os s) (i : SensorAction)
    (h : s.step sensor i = some s') :
    Lib.Steps (Next sensor) Lib.anyStep start (is ++ [i]) (os ++ [(s, i)]) s' :=
  run.step trivial ⟨h, rfl⟩

/-- The proximity sensor is registered by the one call. -/
theorem registered_after_call :
    ∃ is os s, Lib.Steps (Next .proximity) Lib.anyStep start is os s ∧
    s.registered .proximity = true ∧
      LastCallInTime os true := by
  have hCall := run_action (.start : Lib.Steps (Next .proximity) Lib.anyStep start [] [] start)
    (.setEnabled true) rfl
  have hDone := run_action (run_action (run_action (run_action hCall .submit rfl) .begin rfl) .register rfl)
    .finish rfl
  have hIff := registered_iff_inTime true hDone ⟨rfl, rfl, rfl⟩ (by simp only [LastCall, Lib.since_snoc]; simp)
  exact ⟨_, _, _, hDone, rfl, hIff.mp (by decide)⟩

/-- The display goes off and on again before the executor runs: the second call finds `mEnabled`
still false, and the proximity sensor stays registered. -/
theorem registered_after_toggle : ¬ ∀ sensor is os s enabled,
    Lib.Steps (Next sensor) Lib.anyStep start is os s → s.Idle → LastCall os enabled →
      ∀ h ∈ sensor.hardware, s.registered h = enabled := by
  intro h
  have hOff := run_action (run_action (.start : Lib.Steps (Next .proximity) Lib.anyStep start [] [] start)
    (.setEnabled true) rfl) .submit rfl
  have hOn := run_action hOff (.setEnabled false) rfl
  have hDone := run_action (run_action (run_action hOn .begin rfl) .register rfl) .finish rfl
  have hUnregistered := h _ _ _ _ false hDone ⟨rfl, rfl, rfl⟩
    (by simp only [LastCall, Lib.since_snoc]; simp)
  cases hUnregistered .proximity List.mem_cons_self

end SensorJobs

end KiwiDevice.Doze

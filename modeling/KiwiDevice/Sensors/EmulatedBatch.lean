import KiwiDevice.Sensors.MultihalRuns

/-!
# The emulation of batch

On a device without `batch`, the multihal sets the delay of the sensor: with the handle it was
given, and with the limits of whichever sensor stands at the index of the module.
-/

namespace KiwiDevice.Sensors

open SensorsPollContext

namespace Multihal

variable {modules : List SubModule} {s : Multihal} {g l : Int} {m : Nat}

/-- The sensor that the handle denotes. -/
def denoted (list : List SensorT) (g : Int) : Option SensorT :=
  list.find? fun sensor => sensor.handle = g

theorem HandedOut.denoted (hHanded : HandedOut modules s g m l) {list : List SensorT}
    (hList : s.globalSensorsList = some list) : ∃ sensor, denoted list g = some sensor := by
  obtain ⟨list', k, hSame, hHandle, -⟩ := hHanded
  cases hList.symm.trans hSame
  obtain ⟨sensor, hAt, hHandle⟩ := Option.map_eq_some_iff.mp hHandle
  apply Option.isSome_iff_exists.mp
  rw [Multihal.denoted, List.find?_isSome]
  exact ⟨sensor, List.mem_of_getElem? hAt, decide_eq_true hHandle⟩

/-- The emulation of `batch` is a `setDelay` with the clamped period iff both refuse, or the local
handle is the global one and the sensor at the index of the module clamps the period alike. -/
theorem batch_eq_setDelay_iff {is : List Input} {os : List Unit}
    (run : Lib.Steps (Next modules) Lib.anyStep init is os s)
    (hHanded : HandedOut modules s g m l) {list : List SensorT}
    (hList : s.globalSensorsList = some list) {ctx : SensorsPollContext} {d : SubDevice}
    (hDevice : ctx.subHwDevices[m]? = some d) (hOld : d.version < sensorsDeviceApiVersion 1)
    (hal : SubCall → Int) (flags : Int) {periodNs timeout : Int} (hPeriod : 0 ≤ periodNs)
    (hTimeout : 0 ≤ timeout) :
    ctx.batch s.tables hal list g flags periodNs timeout
        = (denoted list g).map (fun sensor =>
          ctx.setDelay s.tables hal g (clampPeriod sensor periodNs)) ↔
      l < 0 ∨ g = l ∧ ∃ other sensor, list[m]? = some other ∧ denoted list g = some sensor ∧
        clampPeriod other periodNs = clampPeriod sensor periodNs := by
  have hg := ((invariant_of_run run).handedOut_iff hList).mp hHanded
  have hLacks : compliant (sensorsDeviceApiVersion 1) d.version = false := by
    simp only [compliant, ge_iff_le, decide_eq_false_iff_not, not_and, not_le]
    exact fun _ => hOld
  obtain ⟨sensor, hSensor⟩ := hHanded.denoted hList
  rw [hSensor, Option.map_some, setDelay_eq hg]
  rcases lt_or_ge l 0 with hl | hl
  · have hNative : ∀ d, ctx.subHwDevices[m]? = some d → 0 ≤ l →
        compliant (sensorsDeviceApiVersion 1) d.version = true := fun _ _ hNonneg => by omega
    have hRefuses {method : SubMethod} :
        forwarded ctx hal m l (fun _ => true) method = refused :=
      forwarded_eq_refused_iff.mpr (.inl hl)
    rw [batch_native hg hNative, hRefuses, hRefuses]
    exact ⟨fun _ => .inl hl, fun _ => rfl⟩
  · have hMade : forwarded ctx hal m l (fun _ => true) (.setDelay (clampPeriod sensor periodNs))
        = made hal ⟨d, .sub d, l, .setDelay (clampPeriod sensor periodNs)⟩ := by
      rw [forwarded, hDevice]
      exact if_pos ⟨hl, rfl⟩
    rw [batch_emulated hg hDevice hl hLacks list flags hPeriod hTimeout, hMade,
      Option.map_eq_some_iff]
    constructor
    · rintro ⟨other, hOther, hSame⟩
      have hCall := made_inj hSame
      right
      refine ⟨congrArg SubCall.handle hCall, other, sensor, hOther, rfl, ?_⟩
      exact SubMethod.setDelay.inj (congrArg SubCall.method hCall)
    · rintro (hNeg | ⟨rfl, other, sensor', hOther, hDenoted, hSame⟩)
      · exact absurd hNeg (not_lt.mpr hl)
      · cases hDenoted
        exact ⟨other, hOther, by rw [hSame]⟩

/-- A sensor whose global handle is its local one, in the first module. -/
def oneModule : List SubModule := [⟨1, [accelerometer 1]⟩]

theorem batch_eq_setDelay_sameHandle : ∃ (s : Multihal) (ctx : SensorsPollContext),
    ctx.batch s.tables (fun _ => 0) [accelerometer 1] 1 0 10000 0
      = (denoted [accelerometer 1] 1).map fun sensor =>
        ctx.setDelay s.tables (fun _ => 0) 1 (clampPeriod sensor 10000) := by
  have opens : Lib.Steps (Next oneModule) Lib.anyStep init _ _ _ :=
    .step .start trivial (i := Input.openSensors oldDevices) (o := []) rfl
  have run : Lib.Steps (Next oneModule) Lib.anyStep init _ _ _ :=
    opens.step trivial (i := Input.getSensorsList) (o := []) rfl
  exact ⟨_, ⟨[⟨0, sensorsDeviceApiVersion 0⟩]⟩, (batch_eq_setDelay_iff run
    ⟨_, 0, rfl, rfl, rfl⟩ rfl rfl (by decide) (fun _ => 0) 0 (by decide) (by decide)).mpr
    (.inr ⟨rfl, _, _, rfl, rfl, rfl⟩)⟩

/-- The sensor with the local handle `5` has its delay set under its global handle `1`. -/
theorem batch_ne_setDelay : ∃ (s : Multihal) (ctx : SensorsPollContext) (is : List Input)
    (list : List SensorT), Lib.Steps (Next threeModules) Lib.anyStep init is [] s ∧
      (oldDevices, ctx) ∈ s.contexts ∧ s.globalSensorsList = some list ∧
      ctx.batch s.tables (fun _ => 0) list 1 0 10000 0
        ≠ (denoted list 1).map fun sensor =>
          ctx.setDelay s.tables (fun _ => 0) 1 (clampPeriod sensor 10000) := by
  have opens : Lib.Steps (Next threeModules) Lib.anyStep init _ _ _ :=
    .step .start trivial (i := Input.openSensors oldDevices) (o := []) rfl
  have run : Lib.Steps (Next threeModules) Lib.anyStep init _ _ _ :=
    opens.step trivial (i := Input.getSensorsList) (o := []) rfl
  refine ⟨_, _, _, _, run, List.mem_cons_self, rfl, ?_⟩
  decide

end Multihal

end KiwiDevice.Sensors

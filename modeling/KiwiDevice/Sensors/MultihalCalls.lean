import KiwiDevice.Sensors.MultihalRouting

/-!
# Which calls reach the right device

Each operation is compared with what a call on a handle of the module `m` and the local handle `l`
should do, given what the modules answered when the context was opened.
-/

namespace KiwiDevice.Sensors

open SensorsPollContext

/-- Whether a version has what came with `level`; every device has `activate` and `setDelay`. -/
def compliant (level version : Int) : Bool := version ≠ -1 ∧ version ≥ level

/-- One call on the device that `m` opened, with the local handle, or a refusal where the module
did not open or its device lacks the operation. -/
def expected (hal : SubCall → Int) (opened : Option Int) (m : Nat) (l : Int)
    (supports : Int → Bool) (method : SubMethod) : Outcome :=
  match opened with
  | some version =>
    if supports version = true then made hal ⟨⟨m, version⟩, .sub ⟨m, version⟩, l, method⟩
    else refused
  | none => refused

def batchMethod (opened : Option Int) (flags periodNs timeout emulatedNs : Int) : SubMethod :=
  if opened.any (compliant (sensorsDeviceApiVersion 1)) = true then .batch flags periodNs timeout
  else .setDelay emulatedNs

/-- The call is refused: the local handle is not one, or the device at `m`, if any, lacks the
operation. -/
def Refuses (ctx : SensorsPollContext) (m : Nat) (l : Int) (supports : Int → Bool) : Prop :=
  l < 0 ∨ ∀ d, ctx.subHwDevices[m]? = some d → supports d.version = false

/-- All modules up to `m` opened. -/
def AllOpened (opened : Nat → Option Int) (m : Nat) : Prop := ∀ j ≤ m, (opened j).isSome = true

/-- A call that has to be made finds its device in place and a local handle, and any other call is
refused. -/
def Answers (ctx : SensorsPollContext) (opened : Nat → Option Int) (m : Nat) (l : Int)
    (supports : Int → Bool) : Prop :=
  ((opened m).any supports = true → 0 ≤ l ∧ AllOpened opened m) ∧
    ((opened m).any supports = false → Refuses ctx m l supports)

/-- The emulation in addition passes the right handle only when it is the global one, and reads a
sensor at the index of the module. -/
def BatchAnswers (ctx : SensorsPollContext) (opened : Nat → Option Int)
    (globalSensorsList : List SensorT) (g : Int) (m : Nat) (l : Int) : Prop :=
  Answers ctx opened m l (fun _ => true) ∧
    ((opened m).any (fun v => !compliant (sensorsDeviceApiVersion 1) v) = true →
      g = l ∧ m < globalSensorsList.length)

section

variable {ctx : SensorsPollContext} {t : HandleTables} {hal : SubCall → Int} {g l : Int} {m : Nat}
  {opened : Nat → Option Int} {supports : Int → Bool} {method : SubMethod}

theorem made_ne_refused (c : SubCall) : made hal c ≠ refused := by
  intro h
  cases congrArg Prod.fst h

theorem made_inj {c c' : SubCall} (h : made hal c = made hal c') : c = c' :=
  List.head_eq_of_cons_eq (congrArg Prod.fst h)

theorem getLocalHandle_of_known (hg : t.globalToFull g = some ⟨m, l⟩) :
    t.getLocalHandle g = l := by
  rw [HandleTables.getLocalHandle, hg]
  rfl

theorem getModuleIndex_of_known (hg : t.globalToFull g = some ⟨m, l⟩) :
    t.getModuleIndex g = m := by
  rw [HandleTables.getModuleIndex, hg]
  rfl

theorem getV0DeviceByHandle_of_known (hg : t.globalToFull g = some ⟨m, l⟩) :
    ctx.getV0DeviceByHandle t g = ctx.subHwDevices[m]? := by
  rw [getV0DeviceByHandle, getModuleIndex_of_known hg]
  simp only [Int.toNat_natCast]
  split
  · rename_i h
    rw [List.getElem?_eq_none]
    omega
  · rfl

theorem getV1DeviceByHandle_of_known (hg : t.globalToFull g = some ⟨m, l⟩) :
    ctx.getV1DeviceByHandle t g = ctx.subHwDevices[m]? :=
  getV0DeviceByHandle_of_known hg

theorem halIsAPILevelCompliant_of_known (hg : t.globalToFull g = some ⟨m, l⟩) {d : SubDevice}
    (hEntry : ctx.subHwDevices[m]? = some d) (level : Int) :
    ctx.halIsAPILevelCompliant t g level = compliant level d.version := by
  rw [halIsAPILevelCompliant, getDeviceVersionByHandle, getV0DeviceByHandle_of_known hg, hEntry]
  rfl

/-- What every operation but the emulation does: one call on the device at `m`, or a refusal. -/
def forwarded (ctx : SensorsPollContext) (hal : SubCall → Int) (m : Nat) (l : Int)
    (supports : Int → Bool) (method : SubMethod) : Outcome :=
  match ctx.subHwDevices[m]? with
  | some d => if 0 ≤ l ∧ supports d.version = true then made hal ⟨d, .sub d, l, method⟩ else refused
  | none => refused

theorem forwarded_eq_refused_iff :
    forwarded ctx hal m l supports method = refused ↔ Refuses ctx m l supports := by
  rw [forwarded, Refuses]
  split
  · rename_i d hEntry
    constructor
    · intro h
      split at h
      · exact absurd h (made_ne_refused _)
      · rename_i hNot
        rcases lt_or_ge l 0 with hl | hl
        · exact .inl hl
        · right
          rintro _ hSame
          cases hEntry.symm.trans hSame
          rw [← Bool.not_eq_true]
          exact fun hSupports => hNot ⟨hl, hSupports⟩
    · intro h
      rw [if_neg]
      rintro ⟨hl, hSupports⟩
      rcases h with h | h
      · omega
      · rw [h d hEntry] at hSupports
        cases hSupports
  · rename_i hEntry
    constructor
    · intro _
      right
      intro d hd
      rw [hEntry] at hd
      cases hd
    · intro _
      rfl

theorem forwarded_eq_made_iff {version : Int} (hSupports : supports version = true) :
    forwarded ctx hal m l supports method
        = made hal ⟨⟨m, version⟩, .sub ⟨m, version⟩, l, method⟩ ↔
      0 ≤ l ∧ ctx.subHwDevices[m]? = some ⟨m, version⟩ := by
  rw [forwarded]
  constructor
  · intro h
    split at h
    · rename_i d hEntry
      split at h
      · rename_i hMade
        cases congrArg SubCall.callee (made_inj h)
        exact ⟨hMade.1, hEntry⟩
      · exact absurd h.symm (made_ne_refused _)
    · exact absurd h.symm (made_ne_refused _)
  · rintro ⟨hl, hEntry⟩
    rw [hEntry]
    exact if_pos ⟨hl, hSupports⟩

theorem forwarded_iff {modules : List SubModule}
    (hCtx : ctx.subHwDevices = (Multihal.openModules opened modules 0).1)
    (hm : m < modules.length) :
    forwarded ctx hal m l supports method = expected hal (opened m) m l supports method ↔
      Answers ctx opened m l supports := by
  rw [Answers]
  cases hOpened : opened m with
  | none =>
    simp only [expected, Option.any_none]
    rw [forwarded_eq_refused_iff]
    simp
  | some version =>
    simp only [expected, Option.any_some]
    cases hSupports : supports version with
    | false =>
      rw [if_neg Bool.false_ne_true, forwarded_eq_refused_iff]
      simp
    | true =>
      rw [if_pos rfl, forwarded_eq_made_iff hSupports, hCtx,
        Multihal.openModules_own_iff hm hOpened]
      simp [AllOpened]

theorem activate_eq (hg : t.globalToFull g = some ⟨m, l⟩) (enabled : Int) :
    ctx.activate t hal g enabled
      = forwarded ctx hal m l (fun _ => true) (.activate enabled) := by
  rw [activate, forwarded, getV0DeviceByHandle_of_known hg, getLocalHandle_of_known hg]
  cases ctx.subHwDevices[m]? with
  | none => rfl
  | some d => simp

theorem setDelay_eq (hg : t.globalToFull g = some ⟨m, l⟩) (ns : Int) :
    ctx.setDelay t hal g ns = forwarded ctx hal m l (fun _ => true) (.setDelay ns) := by
  rw [setDelay, forwarded, getV0DeviceByHandle_of_known hg, getLocalHandle_of_known hg]
  cases ctx.subHwDevices[m]? with
  | none => rfl
  | some d => simp

theorem flush_eq (hg : t.globalToFull g = some ⟨m, l⟩) :
    ctx.flush t hal g
      = forwarded ctx hal m l (compliant (sensorsDeviceApiVersion 1)) .flush := by
  rw [flush, forwarded, getV1DeviceByHandle_of_known hg, getLocalHandle_of_known hg]
  cases hEntry : ctx.subHwDevices[m]? with
  | none => rfl
  | some d =>
    simp only [halIsAPILevelCompliant_of_known hg hEntry]

theorem injectSensorData_eq_refused_iff (hg : t.globalToFull g = some ⟨m, l⟩)
    {data : SensorsEvent} (hData : data.sensor = g) (dev : DevicePtr) :
    ctx.injectSensorData t hal dev data = refused ↔
      Refuses ctx m l (compliant (sensorsDeviceApiVersion 4)) := by
  have hForwarded : forwarded ctx hal m l (compliant (sensorsDeviceApiVersion 4))
      .injectSensorData = refused ↔ _ := forwarded_eq_refused_iff
  rw [← hForwarded, injectSensorData, forwarded, hData, getV1DeviceByHandle_of_known hg,
    getLocalHandle_of_known hg]
  cases hEntry : ctx.subHwDevices[m]? with
  | none => rfl
  | some d =>
    simp only [halIsAPILevelCompliant_of_known hg hEntry, ge_iff_le, and_comm]
    split
    · simp only [made_ne_refused]
    · rfl

theorem deviceInjectSensorData_ne {data : SensorsEvent} {d : SubDevice} :
    ctx.deviceInjectSensorData t hal data ≠ made hal ⟨d, .sub d, l, .injectSensorData⟩ := by
  intro h
  rw [deviceInjectSensorData, injectSensorData] at h
  split at h
  · split at h
    · cases congrArg SubCall.dev (made_inj h)
    · exact made_ne_refused _ h.symm
  · exact made_ne_refused _ h.symm

theorem deviceInjectSensorData_iff (hg : t.globalToFull g = some ⟨m, l⟩) {data : SensorsEvent}
    (hData : data.sensor = g) :
    ctx.deviceInjectSensorData t hal data
        = expected hal (opened m) m l (compliant (sensorsDeviceApiVersion 4)) .injectSensorData ↔
      (opened m).any (compliant (sensorsDeviceApiVersion 4)) = false ∧
        Refuses ctx m l (compliant (sensorsDeviceApiVersion 4)) := by
  cases hOpened : opened m with
  | none =>
    rw [expected.eq_def, deviceInjectSensorData, injectSensorData_eq_refused_iff hg hData]
    simp
  | some version =>
    rw [Option.any_some]
    simp only [expected]
    cases hSupports : compliant (sensorsDeviceApiVersion 4) version with
    | false =>
      rw [if_neg Bool.false_ne_true, deviceInjectSensorData,
        injectSensorData_eq_refused_iff hg hData]
      simp
    | true =>
      rw [if_pos rfl]
      constructor
      · intro h
        exact absurd h deviceInjectSensorData_ne
      · rintro ⟨h, _⟩
        cases h

/-- The emulation of `batch` on the device at `m`. -/
theorem batch_emulated (hg : t.globalToFull g = some ⟨m, l⟩) {d : SubDevice}
    (hEntry : ctx.subHwDevices[m]? = some d) (hl : 0 ≤ l)
    (hOld : compliant (sensorsDeviceApiVersion 1) d.version = false)
    (globalSensorsList : List SensorT) (flags : Int) {periodNs timeout : Int}
    (hPeriod : 0 ≤ periodNs) (hTimeout : 0 ≤ timeout) :
    ctx.batch t hal globalSensorsList g flags periodNs timeout
      = globalSensorsList[m]?.map fun sensor =>
          made hal ⟨d, .sub d, g, .setDelay (clampPeriod sensor periodNs)⟩ := by
  rw [batch, getV1DeviceByHandle_of_known hg, getLocalHandle_of_known hg, hEntry]
  simp only
  rw [if_pos hl, halIsAPILevelCompliant_of_known hg hEntry, hOld, if_neg Bool.false_ne_true,
    if_neg (by omega), getModuleIndex_of_known hg, Int.toNat_natCast]

theorem batch_native (hg : t.globalToFull g = some ⟨m, l⟩)
    (hNew : ∀ d, ctx.subHwDevices[m]? = some d → 0 ≤ l →
      compliant (sensorsDeviceApiVersion 1) d.version = true)
    (globalSensorsList : List SensorT) (flags periodNs timeout : Int) :
    ctx.batch t hal globalSensorsList g flags periodNs timeout
      = some (forwarded ctx hal m l (fun _ => true) (.batch flags periodNs timeout)) := by
  rw [batch, forwarded, getV1DeviceByHandle_of_known hg, getLocalHandle_of_known hg]
  cases hEntry : ctx.subHwDevices[m]? with
  | none => rfl
  | some d =>
    simp only
    split
    · rename_i hl
      rw [halIsAPILevelCompliant_of_known hg hEntry, hNew d hEntry hl, if_pos rfl,
        if_pos ⟨hl, trivial⟩]
    · rename_i hl
      rw [if_neg fun h => hl h.1]

theorem forwarded_method {c : SubCall} {method' : SubMethod}
    (h : forwarded ctx hal m l supports method = made hal c) (hMethod : c.method = method') :
    method = method' := by
  rw [forwarded] at h
  split at h
  · split at h
    · rw [← made_inj h] at hMethod
      exact hMethod
    · exact absurd h.symm (made_ne_refused _)
  · exact absurd h.symm (made_ne_refused _)

/-- A device without `batch`, with a local handle: the emulation. -/
theorem batch_emulated_iff {modules : List SubModule} (hg : t.globalToFull g = some ⟨m, l⟩)
    (hCtx : ctx.subHwDevices = (Multihal.openModules opened modules 0).1)
    (hm : m < modules.length) {d : SubDevice} (hEntry : ctx.subHwDevices[m]? = some d) (hl : 0 ≤ l)
    (hOld : compliant (sensorsDeviceApiVersion 1) d.version = false)
    (globalSensorsList : List SensorT) (flags : Int) {periodNs timeout : Int}
    (hPeriod : 0 ≤ periodNs) (hTimeout : 0 ≤ timeout) :
    (∃ emulatedNs, ctx.batch t hal globalSensorsList g flags periodNs timeout
      = some (expected hal (opened m) m l (fun _ => true)
          (batchMethod (opened m) flags periodNs timeout emulatedNs))) ↔
      BatchAnswers ctx opened globalSensorsList g m l := by
  rw [batch_emulated hg hEntry hl hOld globalSensorsList flags hPeriod hTimeout]
  constructor
  · rintro ⟨emulatedNs, h⟩
    obtain ⟨sensor, hSensor, hMade⟩ := Option.map_eq_some_iff.mp h
    obtain ⟨hLength, _⟩ := List.getElem?_eq_some_iff.mp hSensor
    cases hOpened : opened m with
    | none =>
      rw [hOpened] at hMade
      exact absurd hMade (made_ne_refused _)
    | some version =>
      rw [hOpened] at hMade
      have hCall := made_inj hMade
      cases congrArg SubCall.callee hCall
      have hAll := (Multihal.openModules_own_iff hm hOpened).mp (hCtx ▸ hEntry)
      refine ⟨⟨fun _ => ⟨hl, hAll⟩, fun hNone => ?_⟩, fun _ => ⟨?_, hLength⟩⟩
      · rw [hOpened] at hNone
        cases hNone
      · exact congrArg SubCall.handle hCall
  · rintro ⟨⟨hAnswer, hRefuse⟩, hSame⟩
    cases hOpened : opened m with
    | none =>
      rw [hOpened] at hRefuse
      rcases hRefuse rfl with h | h
      · omega
      · cases h d hEntry
    | some version =>
      rw [hOpened] at hAnswer hSame
      have hOwn := (Multihal.openModules_own_iff hm hOpened).mpr (hAnswer rfl).2
      rw [← hCtx, hEntry] at hOwn
      cases hOwn
      obtain ⟨rfl, hLength⟩ := hSame (by rw [Option.any_some, hOld]; rfl)
      refine ⟨clampPeriod (globalSensorsList.get ⟨m, hLength⟩) periodNs, ?_⟩
      rw [batchMethod, Option.any_some, hOld, List.getElem?_eq_getElem hLength]
      rfl

theorem batch_native_iff {modules : List SubModule} (hg : t.globalToFull g = some ⟨m, l⟩)
    (hCtx : ctx.subHwDevices = (Multihal.openModules opened modules 0).1)
    (hm : m < modules.length)
    (hNew : ∀ d, ctx.subHwDevices[m]? = some d → 0 ≤ l →
      compliant (sensorsDeviceApiVersion 1) d.version = true)
    (globalSensorsList : List SensorT) (flags periodNs timeout : Int) :
    (∃ emulatedNs, ctx.batch t hal globalSensorsList g flags periodNs timeout
      = some (expected hal (opened m) m l (fun _ => true)
          (batchMethod (opened m) flags periodNs timeout emulatedNs))) ↔
      BatchAnswers ctx opened globalSensorsList g m l := by
  rw [batch_native hg hNew]
  have hForwarded : forwarded ctx hal m l (fun _ => true) (.batch flags periodNs timeout)
      = expected hal (opened m) m l (fun _ => true) (.batch flags periodNs timeout) ↔
      Answers ctx opened m l (fun _ => true) := forwarded_iff hCtx hm
  rw [BatchAnswers, ← hForwarded]
  cases hOpened : opened m with
  | none => simp [expected]
  | some version =>
    rw [Option.any_some]
    cases hCompliant : compliant (sensorsDeviceApiVersion 1) version with
    | true => simp [batchMethod, hCompliant]
    | false =>
      constructor
      · rintro ⟨emulatedNs, h⟩
        have hMethod := forwarded_method (Option.some.inj h) rfl
        rw [batchMethod, Option.any_some, hCompliant] at hMethod
        cases hMethod
      · rintro ⟨h, _⟩
        have hEvery : (fun _ : Int => true) version = true := rfl
        obtain ⟨hl, hEntry⟩ := (forwarded_eq_made_iff hEvery).mp h
        have hTrue := hNew _ hEntry hl
        rw [hCompliant] at hTrue
        cases hTrue

theorem batch_iff {modules : List SubModule} (hg : t.globalToFull g = some ⟨m, l⟩)
    (hCtx : ctx.subHwDevices = (Multihal.openModules opened modules 0).1)
    (hm : m < modules.length) (globalSensorsList : List SensorT) (flags : Int)
    {periodNs timeout : Int} (hPeriod : 0 ≤ periodNs) (hTimeout : 0 ≤ timeout) :
    (∃ emulatedNs, ctx.batch t hal globalSensorsList g flags periodNs timeout
      = some (expected hal (opened m) m l (fun _ => true)
          (batchMethod (opened m) flags periodNs timeout emulatedNs))) ↔
      BatchAnswers ctx opened globalSensorsList g m l := by
  cases hEntry : ctx.subHwDevices[m]? with
  | none =>
    refine batch_native_iff hg hCtx hm ?_ globalSensorsList flags periodNs timeout
    intro d hd
    rw [hEntry] at hd
    cases hd
  | some d =>
    rcases lt_or_ge l 0 with hl | hl
    · refine batch_native_iff hg hCtx hm ?_ globalSensorsList flags periodNs timeout
      intro _ _ hNonneg
      omega
    · cases hCompliant : compliant (sensorsDeviceApiVersion 1) d.version with
      | true =>
        refine batch_native_iff hg hCtx hm ?_ globalSensorsList flags periodNs timeout
        intro _ hSame _
        cases hEntry.symm.trans hSame
        exact hCompliant
      | false =>
        exact batch_emulated_iff hg hCtx hm hEntry hl hCompliant globalSensorsList flags hPeriod
          hTimeout

end

end KiwiDevice.Sensors

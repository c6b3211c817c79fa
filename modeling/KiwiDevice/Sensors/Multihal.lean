import KiwiDevice.Lib.Steps
import Mathlib.Data.List.Basic

/-!
# The multihal and its sub-HALs

Global handles are assigned by the index of a module in `sub_hw_modules`; the devices of a context
are the modules that opened, in order. The answers of the sub-HALs are a parameter. A call that
reads outside an array has no result.
-/

namespace KiwiDevice.Sensors

def EINVAL : Int := 22

/-- `SENSORS_DEVICE_API_VERSION_1_x` is `HARDWARE_DEVICE_API_VERSION_2(1, x, 1)`. -/
def sensorsDeviceApiVersion (minor : Nat) : Int := 0x01000001 + minor * 0x10000

def sensorTypeMetaData : Int := 0
def sensorTypeProximity : Int := 8
def sensorTypeTiltDetector : Int := 22

/-- `SENSOR_FLAG_WAKE_UP | SENSOR_FLAG_ON_CHANGE_MODE`. -/
def wakeUpOnChange : Int := 3

structure SensorT where
  handle : Int
  type : Int
  flags : Int
  minDelay : Int
  maxDelay : Int
deriving DecidableEq

/-- `ptr` identifies the `hw_module_t`, `sensors` is what its `get_sensors_list` returns. -/
structure SubModule where
  ptr : Nat
  sensors : List SensorT
deriving DecidableEq

structure FullHandle where
  moduleIndex : Nat
  localHandle : Int
deriving DecidableEq

structure HandleTables where
  globalToFull : Int → Option FullHandle
  fullToGlobal : FullHandle → Option Int
  nextGlobalHandle : Int

namespace HandleTables

def empty : HandleTables where
  globalToFull := fun _ => none
  fullToGlobal := fun _ => none
  nextGlobalHandle := 1

def assignGlobalHandle (t : HandleTables) (moduleIndex : Nat) (localHandle : Int) :
    Int × HandleTables :=
  let fullHandle : FullHandle := ⟨moduleIndex, localHandle⟩
  (t.nextGlobalHandle,
    { fullToGlobal := fun f => if f = fullHandle then some t.nextGlobalHandle else t.fullToGlobal f
      globalToFull := fun g => if g = t.nextGlobalHandle then some fullHandle else t.globalToFull g
      nextGlobalHandle := t.nextGlobalHandle + 1 })

def getLocalHandle (t : HandleTables) (globalHandle : Int) : Int :=
  (t.globalToFull globalHandle).elim (-1) FullHandle.localHandle

def getModuleIndex (t : HandleTables) (globalHandle : Int) : Int :=
  (t.globalToFull globalHandle).elim (-1) fun f => f.moduleIndex

def getGlobalHandle (t : HandleTables) (fullHandle : FullHandle) : Int :=
  (t.fullToGlobal fullHandle).getD (-1)

end HandleTables

/-- A device of a sub-HAL, identified by the index of the module that opened it. -/
structure SubDevice where
  openedFrom : Nat
  version : Int
deriving DecidableEq

/-- What a function of a device can be given as its device. -/
inductive DevicePtr where
  | proxy
  | sub (d : SubDevice)
deriving DecidableEq

inductive SubMethod where
  | activate (enabled : Int)
  | setDelay (ns : Int)
  | batch (flags periodNs timeout : Int)
  | flush
  | injectSensorData
deriving DecidableEq

/-- A call of a function of `callee`. -/
structure SubCall where
  callee : SubDevice
  dev : DevicePtr
  handle : Int
  method : SubMethod
deriving DecidableEq

structure SensorsEvent where
  sensor : Int
  type : Int
  metaDataSensor : Int
deriving DecidableEq

structure SensorsPollContext where
  subHwDevices : List SubDevice

namespace SensorsPollContext

variable (ctx : SensorsPollContext) (t : HandleTables) (hal : SubCall → Int)

def getV0DeviceByHandle (globalHandle : Int) : Option SubDevice :=
  let subIndex := t.getModuleIndex globalHandle
  if subIndex < 0 ∨ subIndex ≥ ctx.subHwDevices.length then none
  else ctx.subHwDevices[subIndex.toNat]?

def getV1DeviceByHandle (globalHandle : Int) : Option SubDevice :=
  let subIndex := t.getModuleIndex globalHandle
  if subIndex < 0 ∨ subIndex ≥ ctx.subHwDevices.length then none
  else ctx.subHwDevices[subIndex.toNat]?

def getDeviceVersionByHandle (handle : Int) : Int :=
  (ctx.getV0DeviceByHandle t handle).elim (-1) SubDevice.version

def halIsAPILevelCompliant (handle level : Int) : Bool :=
  let version := ctx.getDeviceVersionByHandle t handle
  version ≠ -1 ∧ version ≥ level

/-- The calls made, in order, and the value returned. -/
abbrev Outcome := List SubCall × Int

def refused : Outcome := ([], -EINVAL)

def made (c : SubCall) : Outcome := ([c], hal c)

def activate (handle enabled : Int) : Outcome :=
  let localHandle := t.getLocalHandle handle
  match ctx.getV0DeviceByHandle t handle with
  | some v0 =>
    if localHandle ≥ 0 then made hal ⟨v0, .sub v0, localHandle, .activate enabled⟩ else refused
  | none => refused

def setDelay (handle ns : Int) : Outcome :=
  let localHandle := t.getLocalHandle handle
  match ctx.getV0DeviceByHandle t handle with
  | some v0 =>
    if localHandle ≥ 0 then made hal ⟨v0, .sub v0, localHandle, .setDelay ns⟩ else refused
  | none => refused

def clampPeriod (sensor : SensorT) (periodNs : Int) : Int :=
  if periodNs < sensor.minDelay then sensor.minDelay
  else if periodNs > sensor.maxDelay then sensor.maxDelay
  else periodNs

/-- The emulation passes `handle` on and takes the delays of the sensor at `sub_index`. -/
def batch (globalSensorsList : List SensorT) (handle flags periodNs timeout : Int) :
    Option Outcome :=
  let localHandle := t.getLocalHandle handle
  match ctx.getV1DeviceByHandle t handle with
  | some v1 =>
    if localHandle ≥ 0 then
      if ctx.halIsAPILevelCompliant t handle (sensorsDeviceApiVersion 1) then
        some (made hal ⟨v1, .sub v1, localHandle, .batch flags periodNs timeout⟩)
      else if periodNs < 0 ∨ timeout < 0 then some refused
      else
        globalSensorsList[(t.getModuleIndex handle).toNat]?.map fun sensor =>
          made hal ⟨v1, .sub v1, handle, .setDelay (clampPeriod sensor periodNs)⟩
    else some refused
  | none => some refused

def flush (handle : Int) : Outcome :=
  let localHandle := t.getLocalHandle handle
  match ctx.getV1DeviceByHandle t handle with
  | some v1 =>
    if localHandle ≥ 0 ∧ ctx.halIsAPILevelCompliant t handle (sensorsDeviceApiVersion 1) then
      made hal ⟨v1, .sub v1, localHandle, .flush⟩
    else refused
  | none => refused

/-- `dev` and `data` are passed on as they come. -/
def injectSensorData (dev : DevicePtr) (data : SensorsEvent) : Outcome :=
  let localHandle := t.getLocalHandle data.sensor
  match ctx.getV1DeviceByHandle t data.sensor with
  | some v1 =>
    if ctx.halIsAPILevelCompliant t data.sensor (sensorsDeviceApiVersion 4) ∧ localHandle ≥ 0 then
      made hal ⟨v1, dev, data.sensor, .injectSensorData⟩
    else refused
  | none => refused

/-- The framework calls through the proxy device. -/
def deviceInjectSensorData (data : SensorsEvent) : Outcome :=
  ctx.injectSensorData t hal .proxy data

end SensorsPollContext

namespace SensorsEvent

/-- The field that names the sensor. -/
def source (e : SensorsEvent) : Int :=
  if e.type = sensorTypeMetaData then e.metaDataSensor else e.sensor

def setSource (e : SensorsEvent) (handle : Int) : SensorsEvent :=
  if e.type = sensorTypeMetaData then { e with metaDataSensor := handle }
  else { e with sensor := handle }

def copyEventRemapHandle (t : HandleTables) (src : SensorsEvent) (subIndex : Nat) : SensorsEvent :=
  src.setSource (t.getGlobalHandle ⟨subIndex, src.source⟩)

/-- What `poll` makes of an event of the queue at `subIndex`. -/
def delivered (t : HandleTables) (src : SensorsEvent) (subIndex : Nat) : Option SensorsEvent :=
  let data := src.copyEventRemapHandle t subIndex
  if data.sensor = -1 then none else some data

end SensorsEvent

/-- A call of `poll`: the queues of the devices, and the events taken from them with their queue. -/
structure PollState where
  queues : List (List SensorsEvent)
  nextReadIndex : Nat
  empties : Nat
  eventsRead : Nat
  taken : List (Nat × SensorsEvent)

inductive PollInput where
  /-- One round of the inner loop. -/
  | read
  /-- The queues are empty and the caller waits. -/
  | wait
  /-- The writer of a device marks an event as written. -/
  | arrives (queue : Nat) (e : SensorsEvent)

namespace PollState

def step (t : HandleTables) (maxReads : Nat) (s : PollState) :
    PollInput → Option (PollState × List SensorsEvent)
  | .read =>
    if s.empties < s.queues.length ∧ s.eventsRead < maxReads then
      let next := (s.nextReadIndex + 1) % s.queues.length
      match s.queues[s.nextReadIndex]? with
      | none => none
      | some [] => some ({ s with empties := s.empties + 1, nextReadIndex := next }, [])
      | some (e :: rest) =>
        let data := (e.delivered t s.nextReadIndex).toList
        some ({
          queues := s.queues.set s.nextReadIndex rest
          nextReadIndex := next
          empties := 0
          eventsRead := s.eventsRead + data.length
          taken := s.taken ++ [(s.nextReadIndex, e)] }, data)
    else none
  | .wait =>
    if s.eventsRead = 0 ∧ ¬ (s.empties < s.queues.length ∧ s.eventsRead < maxReads) then
      some ({ s with empties := 0 }, [])
    else none
  | .arrives queue e =>
    s.queues[queue]?.map fun events =>
      ({ s with queues := s.queues.set queue (events ++ [e]) }, [])

end PollState

/-- `subHwVersions` and `globalSensorsList` are `NULL` until they are made. `contexts` are the
devices opened so far, each with what the modules answered. -/
structure Multihal where
  tables : HandleTables
  subHwVersions : Option (List (Nat × Int))
  globalSensorsList : Option (List SensorT)
  contexts : List ((Nat → Option Int) × SensorsPollContext)

namespace Multihal

def init : Multihal where
  tables := .empty
  subHwVersions := none
  globalSensorsList := none
  contexts := []

def fixSensorFlags (version : Int) (sensor : SensorT) : SensorT :=
  if version < sensorsDeviceApiVersion 3 ∧
      (sensor.type = sensorTypeProximity ∨ sensor.type = sensorTypeTiltDetector) then
    { sensor with flags := wakeUpOnChange }
  else sensor

/-- `sub_hw_versions->at` throws when the module did not open. -/
def initSensor (subHwVersions : Option (List (Nat × Int))) (module : SubModule)
    (moduleIndex : Nat) (r : HandleTables × List SensorT) (localSensor : SensorT) :
    Option (HandleTables × List SensorT) :=
  let assigned := r.1.assignGlobalHandle moduleIndex localSensor.handle
  let sensor := { localSensor with handle := assigned.1 }
  (subHwVersions.bind fun versions => versions.lookup module.ptr).map fun version =>
    (assigned.2, r.2 ++ [fixSensorFlags version sensor])

def initModules (subHwVersions : Option (List (Nat × Int))) :
    List SubModule → Nat → HandleTables × List SensorT → Option (HandleTables × List SensorT)
  | [], _, r => some r
  | module :: rest, moduleIndex, r =>
    (module.sensors.foldlM (initSensor subHwVersions module moduleIndex) r).bind
      (initModules subHwVersions rest (moduleIndex + 1))

def lazyInitSensorsList (subHwModules : List SubModule) (s : Multihal) : Option Multihal :=
  match s.globalSensorsList with
  | some _ => some s
  | none =>
    (initModules s.subHwVersions subHwModules 0 (s.tables, [])).map fun r =>
      { s with tables := r.1, globalSensorsList := some r.2, subHwVersions := none }

/-- The loop of `open_sensors`, with the version each module reports, if it opens. -/
def openModules (opened : Nat → Option Int) :
    List SubModule → Nat → List SubDevice × List (Nat × Int)
  | [], _ => ([], [])
  | module :: rest, moduleIndex =>
    let r := openModules opened rest (moduleIndex + 1)
    match opened moduleIndex with
    | some version => (⟨moduleIndex, version⟩ :: r.1, (module.ptr, version) :: r.2)
    | none => r

def openSensors (subHwModules : List SubModule) (opened : Nat → Option Int) (s : Multihal) :
    Multihal :=
  let r := openModules opened subHwModules 0
  { s with
    subHwVersions := some r.2
    contexts := s.contexts ++ [(opened, ⟨r.1⟩)] }

inductive Input where
  | openSensors (opened : Nat → Option Int)
  | getSensorsList

def step (subHwModules : List SubModule) (s : Multihal) : Input → Option Multihal
  | .openSensors opened => some (s.openSensors subHwModules opened)
  | .getSensorsList => s.lazyInitSensorsList subHwModules

def Next (subHwModules : List SubModule) (s : Multihal) (i : Input) (_ : List Unit)
    (s' : Multihal) : Prop :=
  s.step subHwModules i = some s'

end Multihal

end KiwiDevice.Sensors

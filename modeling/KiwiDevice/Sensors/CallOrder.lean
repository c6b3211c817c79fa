import KiwiDevice.Sensors.MultihalRuns
import Mathlib.Data.List.Induction

/-!
# The order of the calls of the multihal

The sensor list is made by the first `get_sensors_list`, from the versions that the `open_sensors`
before it has left. Whatever the order and repetition of the calls and whichever modules fail to
open: when the calls return, and that they hand out one list.
-/

namespace KiwiDevice.Sensors

namespace Multihal

/-- What the last `open_sensors` of the calls found. -/
def lastOpened (is : List Input) : Option (Nat → Option Int) :=
  is.foldl (fun last i =>
    match i with
    | .openSensors opened => some opened
    | .getSensorsList => last) none

/-- A module with this pointer opened. -/
def Opens (modules : List SubModule) (opened : Nat → Option Int) (ptr : Nat) : Prop :=
  ∃ j module, modules[j]? = some module ∧ module.ptr = ptr ∧ (opened j).isSome = true

/-- Every module that lists a sensor was opened by the last `open_sensors`. -/
def Ready (modules : List SubModule) (is : List Input) : Prop :=
  ∀ module ∈ modules, module.sensors ≠ [] →
    ∃ opened, lastOpened is = some opened ∧ Opens modules opened module.ptr

/-- The first `get_sensors_list` comes when the modules are open. -/
def OpensFirst (modules : List SubModule) (is : List Input) : Prop :=
  ∀ before after, is = before ++ .getSensorsList :: after → .getSensorsList ∉ before →
    Ready modules before

/-- A device has the version of its module, whenever it is opened. -/
def Input.Reports (version : Nat → Int) (modules : List SubModule) : Input → Prop
  | .openSensors opened => ∀ j module v, modules[j]? = some module → opened j = some v →
    v = version module.ptr
  | .getSensorsList => True

/-- The sensors of all modules, numbered from one. -/
def sensorList (version : Nat → Int) (modules : List SubModule) : List SensorT :=
  (modules.flatMap fun module => module.sensors.map fun sensor => (module.ptr, sensor)).mapIdx
    fun k p => fixSensorFlags (version p.1) { p.2 with handle := (k : Int) + 1 }

section List

variable {modules : List SubModule} {versions : List (Nat × Int)} {version : Nat → Int}
  {opened : Nat → Option Int} {ptr : Nat} {r r' : HandleTables × List SensorT}

/-- The tables and the list after the sensors `ps`, each with the pointer of its module. -/
structure Numbers (version : Nat → Int) (r : HandleTables × List SensorT)
    (ps : List (Nat × SensorT)) : Prop where
  next : r.1.nextGlobalHandle = ps.length + 1
  list : r.2 = ps.mapIdx fun k p =>
    fixSensorFlags (version p.1) { p.2 with handle := (k : Int) + 1 }

theorem Numbers.foldlM {module : SubModule} {moduleIndex : Nat} {found : Option (List (Nat × Int))}
    (sensors : List SensorT) {ps : List (Nat × SensorT)} (h : Numbers version r ps)
    (hFound : ∀ v, (found.bind fun versions => versions.lookup module.ptr) = some v →
      v = version module.ptr)
    (hInit : sensors.foldlM (initSensor found module moduleIndex) r = some r') :
    Numbers version r' (ps ++ sensors.map fun sensor => (module.ptr, sensor)) := by
  induction sensors generalizing r ps with
  | nil =>
    cases hInit
    rwa [List.map_nil, List.append_nil]
  | cons sensor sensors ih =>
    rw [List.foldlM_cons] at hInit
    obtain ⟨r₁, hFirst, hRest⟩ := Option.bind_eq_some_iff.mp hInit
    rw [initSensor, Option.map_eq_some_iff] at hFirst
    obtain ⟨v, hLookup, rfl⟩ := hFirst
    rw [hFound v hLookup] at hRest
    have hDone := ih (show Numbers version _ (ps ++ [(module.ptr, sensor)]) from ?_) hRest
    · rwa [List.append_assoc] at hDone
    · constructor
      · rw [List.length_append, List.length_singleton]
        exact congrArg (· + 1) h.next
      · rw [List.mapIdx_append, h.list]
        simp only [List.mapIdx_cons, List.mapIdx_nil, Nat.zero_add,
          HandleTables.assignGlobalHandle, h.next]

theorem Numbers.initModules {found : Option (List (Nat × Int))} (modules : List SubModule)
    {moduleIndex : Nat} {ps : List (Nat × SensorT)} (h : Numbers version r ps)
    (hFound : ∀ module ∈ modules, ∀ v,
      (found.bind fun versions => versions.lookup module.ptr) = some v → v = version module.ptr)
    (hInit : initModules found modules moduleIndex r = some r') :
    Numbers version r' (ps ++ modules.flatMap fun module =>
      module.sensors.map fun sensor => (module.ptr, sensor)) := by
  induction modules generalizing r moduleIndex ps with
  | nil =>
    cases hInit
    rwa [List.flatMap_nil, List.append_nil]
  | cons module rest ih =>
    rw [Multihal.initModules, Option.bind_eq_some_iff] at hInit
    obtain ⟨r₁, hFirst, hRest⟩ := hInit
    have hModule := h.foldlM module.sensors (hFound module List.mem_cons_self) hFirst
    have hDone := ih hModule (fun other hMem => hFound other (List.mem_cons_of_mem _ hMem)) hRest
    rwa [List.append_assoc] at hDone

/-- The list can be made iff each module with a sensor is among the versions. -/
theorem initModules_isSome_iff (found : Option (List (Nat × Int))) (modules : List SubModule)
    (moduleIndex : Nat) (r : HandleTables × List SensorT) :
    (∃ r', initModules found modules moduleIndex r = some r') ↔
      ∀ module ∈ modules, module.sensors ≠ [] →
        ∃ v, (found.bind fun versions => versions.lookup module.ptr) = some v := by
  have hSensors (module : SubModule) (i : Nat) (sensors : List SensorT)
      (r : HandleTables × List SensorT) :
      (∃ r', sensors.foldlM (initSensor found module i) r = some r') ↔
        (sensors ≠ [] → ∃ v, (found.bind fun versions => versions.lookup module.ptr) = some v) := by
    induction sensors generalizing r with
    | nil => simp
    | cons sensor sensors ih =>
      rw [List.foldlM_cons]
      cases hLookup : found.bind fun versions => versions.lookup module.ptr with
      | none => simp [initSensor, hLookup]
      | some v => simpa [initSensor, hLookup] using ih _
  induction modules generalizing moduleIndex r with
  | nil => simp [initModules]
  | cons module rest ih =>
    simp only [initModules, List.forall_mem_cons]
    rw [← hSensors module moduleIndex module.sensors r]
    constructor
    · rintro ⟨r', hInit⟩
      obtain ⟨r₁, hFirst, hRest⟩ := Option.bind_eq_some_iff.mp hInit
      exact ⟨⟨r₁, hFirst⟩, (ih (moduleIndex + 1) r₁).mp ⟨r', hRest⟩⟩
    · rintro ⟨⟨r₁, hFirst⟩, hRest⟩
      obtain ⟨r', hInit⟩ := (ih (moduleIndex + 1) r₁).mpr hRest
      exact ⟨r', by rw [hFirst]; exact hInit⟩

theorem mem_openModules {i : Nat} {v : Int} : (ptr, v) ∈ (openModules opened modules i).2 ↔
    ∃ j module, modules[j]? = some module ∧ module.ptr = ptr ∧ opened (i + j) = some v := by
  induction modules generalizing i with
  | nil => simp [openModules]
  | cons first rest ih =>
    have hRest : (∃ j module, (first :: rest)[j]? = some module ∧ module.ptr = ptr ∧
        opened (i + j) = some v) ↔
        first.ptr = ptr ∧ opened i = some v ∨ ∃ j module, rest[j]? = some module ∧
          module.ptr = ptr ∧ opened (i + 1 + j) = some v := by
      constructor
      · rintro ⟨_ | j, module, hAt, hPtr, hOpened⟩
        · cases hAt
          exact .inl ⟨hPtr, hOpened⟩
        · exact .inr ⟨j, module, hAt, hPtr, by rwa [Nat.add_assoc, Nat.add_comm 1 j]⟩
      · rintro (⟨hPtr, hOpened⟩ | ⟨j, module, hAt, hPtr, hOpened⟩)
        · exact ⟨0, first, rfl, hPtr, hOpened⟩
        · exact ⟨j + 1, module, hAt, hPtr, by rwa [Nat.add_assoc, Nat.add_comm 1 j] at hOpened⟩
    rw [hRest, ← ih, openModules]
    cases hFirst : opened i with
    | none => simp
    | some w => simp [eq_comm]

theorem mem_of_lookup {v : Int} (h : versions.lookup ptr = some v) : (ptr, v) ∈ versions := by
  obtain ⟨before, after, rfl, -⟩ := List.lookup_eq_some_iff.mp h
  exact List.mem_append_right _ List.mem_cons_self

theorem lookup_openModules (hReports : (Input.openSensors opened).Reports version modules) {v : Int}
    (h : (openModules opened modules 0).2.lookup ptr = some v) : v = version ptr := by
  obtain ⟨j, module, hAt, rfl, hOpened⟩ := mem_openModules.mp (mem_of_lookup h)
  exact hReports j module v hAt (by rwa [Nat.zero_add] at hOpened)

theorem opens_iff_lookup :
    Opens modules opened ptr ↔ ∃ v, (openModules opened modules 0).2.lookup ptr = some v := by
  constructor
  · rintro ⟨j, module, hAt, hPtr, hSome⟩
    obtain ⟨v, hOpened⟩ := Option.isSome_iff_exists.mp hSome
    have hMem := mem_openModules.mpr ⟨j, module, hAt, hPtr, by rwa [Nat.zero_add]⟩
    apply Option.isSome_iff_exists.mp
    rw [List.lookup_isSome_iff]
    exact ⟨_, hMem, beq_self_eq_true ptr⟩
  · rintro ⟨v, hLookup⟩
    obtain ⟨j, module, hAt, hPtr, hOpened⟩ := mem_openModules.mp (mem_of_lookup hLookup)
    rw [Nat.zero_add] at hOpened
    exact ⟨j, module, hAt, hPtr, by rw [hOpened]; rfl⟩

end List

section Runs

variable {modules : List SubModule} {version : Nat → Int} {s s' : Multihal} {is : List Input}
  {os : List Unit} {i : Input}

theorem lastOpened_openSensors (is : List Input) (opened : Nat → Option Int) :
    lastOpened (is ++ [.openSensors opened]) = some opened := by
  simp [lastOpened]

theorem lastOpened_getSensorsList (is : List Input) :
    lastOpened (is ++ [.getSensorsList]) = lastOpened is := by
  simp [lastOpened]

theorem mem_of_lastOpened {opened : Nat → Option Int} (h : lastOpened is = some opened) :
    .openSensors opened ∈ is := by
  induction is using List.reverseRecOn with
  | nil => cases h
  | append_singleton is i ih =>
    cases i with
    | openSensors opened' =>
      rw [lastOpened_openSensors] at h
      cases h
      exact List.mem_append_right _ List.mem_cons_self
    | getSensorsList =>
      rw [lastOpened_getSensorsList] at h
      exact List.mem_append_left _ (ih h)

/-- The state after the calls: what the sensor list is made of, and the list. -/
structure Follows (modules : List SubModule) (version : Nat → Int) (is : List Input)
    (s : Multihal) : Prop where
  unread : .getSensorsList ∉ is → s.globalSensorsList = none ∧ s.tables = .empty ∧
    s.subHwVersions = (lastOpened is).map fun opened => (openModules opened modules 0).2
  read : .getSensorsList ∈ is → s.globalSensorsList = some (sensorList version modules)

theorem follows_init : Follows modules version [] init where
  unread := fun _ => ⟨rfl, rfl, rfl⟩
  read := fun h => by cases h

theorem Follows.found (h : Follows modules version is s) (hUnread : .getSensorsList ∉ is)
    (hReports : ∀ i ∈ is, i.Reports version modules) {ptr : Nat} {v : Int}
    (hLookup : (s.subHwVersions.bind fun versions => versions.lookup ptr) = some v) :
    v = version ptr := by
  rw [(h.unread hUnread).2.2] at hLookup
  obtain ⟨found, hFound, hLookup⟩ := Option.bind_eq_some_iff.mp hLookup
  obtain ⟨opened, hLast, rfl⟩ := Option.map_eq_some_iff.mp hFound
  exact lookup_openModules (hReports (.openSensors opened) (mem_of_lastOpened hLast)) hLookup

theorem Follows.next (h : Follows modules version is s)
    (hReports : ∀ i ∈ is, i.Reports version modules) {o : List Unit}
    (hNext : Next modules s i o s') : Follows modules version (is ++ [i]) s' := by
  cases i with
  | openSensors opened =>
    cases hNext
    constructor
    · intro hUnread
      obtain ⟨hList, hTables, -⟩ := h.unread fun hMem => hUnread (List.mem_append_left _ hMem)
      exact ⟨hList, hTables, by rw [lastOpened_openSensors]; rfl⟩
    · intro hRead
      exact h.read (by simpa using hRead)
  | getSensorsList =>
    refine ⟨fun hUnread => absurd (List.mem_append_right _ List.mem_cons_self) hUnread, ?_⟩
    intro _
    rw [Next, step, lazyInitSensorsList] at hNext
    by_cases hRead : .getSensorsList ∈ is
    · rw [h.read hRead] at hNext
      cases hNext
      exact h.read hRead
    · obtain ⟨hList, hTables, -⟩ := h.unread hRead
      rw [hList, hTables] at hNext
      obtain ⟨r, hInit, rfl⟩ := Option.map_eq_some_iff.mp hNext
      have hEmpty : Numbers version (.empty, []) [] := ⟨rfl, rfl⟩
      have hDone := hEmpty.initModules modules (fun _ _ v => h.found hRead hReports) hInit
      exact congrArg some hDone.list

theorem follows_of_run (hReports : ∀ i ∈ is, i.Reports version modules)
    (run : Lib.Steps (Next modules) Lib.anyStep init is os s) : Follows modules version is s := by
  refine run.history (I := fun is _ s => (∀ i ∈ is, i.Reports version modules) →
    Follows modules version is s) (fun _ => follows_init) ?_ hReports
  intro is os s i o s' _ h hNext hAll
  have hBefore : ∀ i ∈ is, i.Reports version modules := fun j hMem =>
    hAll j (List.mem_append_left _ hMem)
  exact (h hBefore).next hBefore hNext

theorem Follows.ready_iff (h : Follows modules version is s) (hUnread : .getSensorsList ∉ is) :
    (∃ s', s.lazyInitSensorsList modules = some s') ↔ Ready modules is := by
  obtain ⟨hList, -, hFound⟩ := h.unread hUnread
  have hMade : (∃ s', s.lazyInitSensorsList modules = some s') ↔
      ∃ r, initModules s.subHwVersions modules 0 (s.tables, []) = some r := by
    rw [lazyInitSensorsList, hList]
    simp only [Option.map_eq_some_iff]
    constructor
    · rintro ⟨s', r, hInit, -⟩
      exact ⟨r, hInit⟩
    · rintro ⟨r, hInit⟩
      exact ⟨_, r, hInit, rfl⟩
  rw [hMade, initModules_isSome_iff, hFound]
  apply forall₂_congr
  intro module _
  apply imp_congr_right
  intro _
  cases lastOpened is with
  | none => simp
  | some opened => simp [opens_iff_lookup]

theorem Follows.next_isSome (h : Follows modules version is s)
    (hFirst : .getSensorsList ∉ is → i = .getSensorsList → Ready modules is) :
    ∃ s', Next modules s i [] s' := by
  cases i with
  | openSensors opened => exact ⟨_, rfl⟩
  | getSensorsList =>
    by_cases hRead : .getSensorsList ∈ is
    · refine ⟨s, ?_⟩
      rw [Next, step, lazyInitSensorsList, h.read hRead]
    · exact (h.ready_iff hRead).mpr (hFirst hRead rfl)

/-- All calls return, and hand out the one list, iff the modules are open when the list is first
asked for. -/
theorem calls_return_iff (modules : List SubModule) (version : Nat → Int) {is : List Input}
    (hReports : ∀ i ∈ is, i.Reports version modules) :
    (∀ before, before <+: is → ∃ s, Lib.Steps (Next modules) Lib.anyStep init before [] s ∧
      ∀ list, s.globalSensorsList = some list → list = sensorList version modules) ↔
      OpensFirst modules is := by
  constructor
  · rintro h before after rfl hUnread
    have hPrefix : before ++ [.getSensorsList] <+: before ++ .getSensorsList :: after :=
      ⟨after, by rw [List.append_assoc]; rfl⟩
    obtain ⟨s', run, -⟩ := h _ hPrefix
    obtain ⟨os, s, o, hBefore, hNext⟩ := run.unsnoc before
    have hFollows := follows_of_run
      (fun j hMem => hReports j (List.mem_append_left _ hMem)) hBefore
    exact (hFollows.ready_iff hUnread).mp ⟨s', hNext⟩
  · intro h before
    induction before using List.reverseRecOn with
    | nil =>
      intro _
      exact ⟨init, .start, fun list hList => by cases hList⟩
    | append_singleton before i ih =>
      rintro ⟨after, rfl⟩
      obtain ⟨s, run, -⟩ := ih ⟨i :: after, by rw [List.append_assoc]; rfl⟩
      have hBefore : ∀ j ∈ before, j.Reports version modules := fun j hMem =>
        hReports j (List.mem_append_left _ (List.mem_append_left _ hMem))
      have hFollows := follows_of_run hBefore run
      obtain ⟨s', hNext⟩ := hFollows.next_isSome (i := i) (by
        rintro hUnread rfl
        exact h before after (by rw [List.append_assoc]; rfl) hUnread)
      refine ⟨s', run.step trivial hNext, ?_⟩
      intro list hList
      have hAfter := hFollows.next hBefore hNext
      by_cases hRead : .getSensorsList ∈ before ++ [i]
      · rw [hAfter.read hRead] at hList
        exact (Option.some.inj hList).symm
      · rw [(hAfter.unread hRead).1] at hList
        cases hList

/-- Devices are opened, the list is fetched, and both again. -/
def opensThenReads : List Input :=
  [.openSensors oldDevices, .getSensorsList, .openSensors oldDevices, .getSensorsList]

theorem opensThenReads_opensFirst : OpensFirst threeModules opensThenReads := by
  intro before after hSplit hUnread module hMem hSensors
  match before with
  | [] => cases hSplit
  | [i] =>
    cases hSplit
    refine ⟨oldDevices, rfl, ?_⟩
    obtain ⟨j, hAt⟩ := List.mem_iff_getElem?.mp hMem
    exact ⟨j, module, hAt, rfl, rfl⟩
  | _ :: second :: before =>
    have hSecond : Input.getSensorsList = second :=
      Option.some.inj (congrArg (fun l : List Input => l[1]?) hSplit)
    subst hSecond
    exact absurd (List.mem_cons_of_mem _ List.mem_cons_self) hUnread

theorem calls_return_opened :
    OpensFirst threeModules opensThenReads ∧
      ∀ before, before <+: opensThenReads → ∃ s,
        Lib.Steps (Next threeModules) Lib.anyStep init before [] s ∧
          ∀ list, s.globalSensorsList = some list →
            list = sensorList (fun _ => sensorsDeviceApiVersion 0) threeModules := by
  refine ⟨opensThenReads_opensFirst,
    (calls_return_iff threeModules (fun _ => sensorsDeviceApiVersion 0) ?_).mpr
      opensThenReads_opensFirst⟩
  simp [opensThenReads, Input.Reports, oldDevices]

/-- The list is asked for before any device is opened, and after a module with a sensor has failed
to open. -/
theorem getSensorsList_fails :
    (¬ ∃ os s, Lib.Steps (Next threeModules) Lib.anyStep init [.getSensorsList] os s) ∧
    ¬ ∃ os s, Lib.Steps (Next threeModules) Lib.anyStep init
      [.openSensors fun j => if j = 1 then none else oldDevices j, .getSensorsList] os s := by
  constructor
  · rintro ⟨os, s, run⟩
    obtain ⟨_, s₀, _, hStart, hNext⟩ := run.unsnoc []
    rw [hStart.eq_of_nil] at hNext
    have hThrows : (none : Option Multihal) = some s := hNext
    cases hThrows
  · rintro ⟨os, s, run⟩
    obtain ⟨_, s₁, _, hOpens, hNext⟩ := run.unsnoc [_]
    obtain ⟨_, s₀, _, hStart, hOpened⟩ := hOpens.unsnoc []
    rw [hStart.eq_of_nil] at hOpened
    cases hOpened
    have hThrows : (none : Option Multihal) = some s := hNext
    cases hThrows

end Runs

end Multihal

end KiwiDevice.Sensors

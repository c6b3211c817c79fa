import KiwiDevice.Sensors.Multihal
import Mathlib.Algebra.Order.Group.Unbundled.Int

/-!
# Where the calls of the multihal go

The handle tables follow the sensor lists of the modules in order. A call goes to the device at the
index of the module, which is the device of that module as long as no module before it failed to
open.
-/

namespace KiwiDevice.Sensors

/-- The sensors of the modules in the order of the global list, the first module having the index
`moduleIndex`. -/
def sensorsInOrder : List SubModule → Nat → List FullHandle
  | [], _ => []
  | module :: rest, moduleIndex =>
    module.sensors.map (fun sensor => ⟨moduleIndex, sensor.handle⟩) ++
      sensorsInOrder rest (moduleIndex + 1)

theorem sensorsInOrder_index {l : List SubModule} {i : Nat} {f : FullHandle}
    (h : f ∈ sensorsInOrder l i) : i ≤ f.moduleIndex ∧ f.moduleIndex < i + l.length := by
  induction l generalizing i with
  | nil => cases h
  | cons module rest ih =>
    rw [sensorsInOrder, List.mem_append] at h
    rw [List.length_cons]
    rcases h with h | h
    · obtain ⟨_, _, rfl⟩ := List.mem_map.mp h
      constructor
      · exact le_rfl
      · show i < _
        omega
    · obtain ⟨hGe, hLt⟩ := ih h
      constructor <;> omega

namespace HandleTables

/-- The tables know exactly the sensors of `l`, by their place in it. -/
structure Lists (t : HandleTables) (l : List FullHandle) : Prop where
  next_eq : t.nextGlobalHandle = l.length + 1
  full_eq : ∀ g, t.globalToFull g = if 1 ≤ g then l[(g - 1).toNat]? else none
  global_iff : ∀ f g, t.fullToGlobal f = some g ↔
    t.globalToFull g = some f ∧ ∀ g', t.globalToFull g' = some f → g' ≤ g

variable {t : HandleTables} {l : List FullHandle} {g : Int} {f : FullHandle}

theorem lists_empty : Lists empty [] := by
  refine ⟨rfl, ?_, ?_⟩
  · intro g
    split <;> rfl
  · intro f g
    constructor
    · intro h
      cases h
    · rintro ⟨h, _⟩
      cases h

theorem Lists.known_lt (h : t.Lists l) (hg : t.globalToFull g = some f) :
    1 ≤ g ∧ g < t.nextGlobalHandle := by
  rw [h.full_eq] at hg
  split at hg
  · rename_i hPos
    obtain ⟨hLt, _⟩ := List.getElem?_eq_some_iff.mp hg
    rw [h.next_eq]
    exact ⟨hPos, by omega⟩
  · cases hg

theorem Lists.assign (h : t.Lists l) (moduleIndex : Nat) (localHandle : Int) :
    Lists (t.assignGlobalHandle moduleIndex localHandle).2 (l ++ [⟨moduleIndex, localHandle⟩]) := by
  have hNext := h.next_eq
  refine ⟨?_, ?_, ?_⟩
  · show t.nextGlobalHandle + 1 = _
    rw [List.length_append, hNext]
    rfl
  · intro g
    show (if g = t.nextGlobalHandle then _ else t.globalToFull g) = _
    split
    · rename_i hNew
      have hPlace : (g - 1).toNat = l.length := by omega
      rw [if_pos (by omega), hPlace, List.getElem?_concat_length]
    · rename_i hOld
      rw [h.full_eq]
      split
      · rename_i hPos
        rcases lt_or_ge (g - 1).toNat l.length with hLt | hGe
        · rw [List.getElem?_append_left hLt]
        · rw [List.getElem?_eq_none hGe, List.getElem?_eq_none]
          rw [List.length_append, List.length_singleton]
          omega
      · rfl
  · intro f g
    show (if f = _ then _ else t.fullToGlobal f) = some g ↔
      (if g = t.nextGlobalHandle then _ else t.globalToFull g) = some f ∧
        ∀ g', (if g' = t.nextGlobalHandle then _ else t.globalToFull g') = some f → g' ≤ g
    constructor
    · intro hg
      split at hg
      · rename_i hSame
        cases hg
        rw [if_pos rfl]
        refine ⟨congrArg some hSame.symm, ?_⟩
        intro g' hg'
        split at hg'
        · omega
        · exact (h.known_lt hg').2.le
      · rename_i hOther
        obtain ⟨hFull, hLast⟩ := (h.global_iff f g).mp hg
        have hLt := (h.known_lt hFull).2
        rw [if_neg (by omega)]
        refine ⟨hFull, ?_⟩
        intro g' hg'
        split at hg'
        · exact absurd (Option.some.inj hg').symm hOther
        · exact hLast g' hg'
    · rintro ⟨hFull, hLast⟩
      split
      · rename_i hSame
        have hGe := hLast t.nextGlobalHandle (by rw [if_pos rfl, hSame])
        split at hFull
        · rename_i hNew
          rw [hNew]
        · have hLt := (h.known_lt hFull).2
          omega
      · rename_i hOther
        split at hFull
        · exact absurd (Option.some.inj hFull).symm hOther
        · refine (h.global_iff f g).mpr ⟨hFull, ?_⟩
          intro g' hg'
          have hLt := (h.known_lt hg').2
          refine hLast g' ?_
          rw [if_neg (by omega), hg']

theorem Lists.getGlobalHandle_iff (h : t.Lists l) (hg : 1 ≤ g) :
    t.getGlobalHandle f = g ↔
      t.globalToFull g = some f ∧ ∀ g', t.globalToFull g' = some f → g' ≤ g := by
  rw [← h.global_iff, getGlobalHandle]
  constructor
  · intro hGet
    cases hFull : t.fullToGlobal f with
    | none =>
      rw [hFull] at hGet
      change (-1 : Int) = g at hGet
      omega
    | some g' =>
      rw [hFull] at hGet
      exact congrArg some hGet
  · intro hFull
    rw [hFull]
    rfl

end HandleTables

namespace Multihal

variable {versions : Option (List (Nat × Int))} {r r' : HandleTables × List SensorT}
  {l : List FullHandle} {modules : List SubModule} {opened : Nat → Option Int}

theorem fixSensorFlags_handle (version : Int) (sensor : SensorT) :
    (fixSensorFlags version sensor).handle = sensor.handle := by
  rw [fixSensorFlags]
  split <;> rfl

/-- The tables and the global list after the sensors `l`. -/
structure Built (r : HandleTables × List SensorT) (l : List FullHandle) : Prop where
  tables : r.1.Lists l
  handles : r.2.map SensorT.handle = (List.range l.length).map fun k : Nat => (k : Int) + 1

theorem Built.initSensor {module : SubModule} {moduleIndex : Nat} {sensor : SensorT}
    (h : Built r l) (hInit : initSensor versions module moduleIndex r sensor = some r') :
    Built r' (l ++ [⟨moduleIndex, sensor.handle⟩]) := by
  rw [Multihal.initSensor, Option.map_eq_some_iff] at hInit
  obtain ⟨version, _, rfl⟩ := hInit
  constructor
  · exact h.tables.assign moduleIndex sensor.handle
  · show (r.2 ++ [_]).map SensorT.handle = _
    rw [List.map_append, h.handles, List.map_singleton, fixSensorFlags_handle,
      List.length_append, List.length_singleton, List.range_succ, List.map_append]
    exact congrArg (_ ++ [·]) h.tables.next_eq

theorem Built.foldlM {module : SubModule} {moduleIndex : Nat} (sensors : List SensorT)
    (h : Built r l)
    (hInit : sensors.foldlM (Multihal.initSensor versions module moduleIndex) r = some r') :
    Built r' (l ++ sensors.map fun sensor => ⟨moduleIndex, sensor.handle⟩) := by
  induction sensors generalizing r l with
  | nil =>
    cases hInit
    rwa [List.map_nil, List.append_nil]
  | cons sensor sensors ih =>
    rw [List.foldlM_cons] at hInit
    obtain ⟨r₁, hFirst, hRest⟩ := Option.bind_eq_some_iff.mp hInit
    have hDone := ih (h.initSensor hFirst) hRest
    rwa [List.append_assoc] at hDone

theorem Built.initModules (modules : List SubModule) {moduleIndex : Nat} (h : Built r l)
    (hInit : initModules versions modules moduleIndex r = some r') :
    Built r' (l ++ sensorsInOrder modules moduleIndex) := by
  induction modules generalizing r l moduleIndex with
  | nil =>
    cases hInit
    rwa [sensorsInOrder, List.append_nil]
  | cons module rest ih =>
    rw [Multihal.initModules, Option.bind_eq_some_iff] at hInit
    obtain ⟨r₁, hFirst, hRest⟩ := hInit
    have hDone := ih (h.foldlM module.sensors hFirst) hRest
    rwa [List.append_assoc] at hDone

/-- An entry of the devices comes from a module at its index or behind, and from the module at
its index only when all the modules before have opened too. -/
theorem openModules_entry {i k : Nat} {d : SubDevice}
    (h : (openModules opened modules i).1[k]? = some d) :
    i + k ≤ d.openedFrom ∧ opened d.openedFrom = some d.version ∧
      (d.openedFrom = i + k → ∀ j, i ≤ j → j ≤ i + k → (opened j).isSome = true) := by
  induction modules generalizing i k with
  | nil => cases h
  | cons module rest ih =>
    rw [openModules] at h
    split at h
    · rename_i version hOpened
      cases k with
      | zero =>
        cases h
        refine ⟨le_rfl, hOpened, ?_⟩
        intro _ j hGe hLe
        rw [show j = i by omega, hOpened]
        rfl
      | succ k =>
        obtain ⟨hGe, hFrom, hAll⟩ := ih h
        refine ⟨by omega, hFrom, ?_⟩
        intro hIndex j hLow hHigh
        rcases eq_or_lt_of_le hLow with rfl | hLow
        · rw [hOpened]
          rfl
        · exact hAll (by omega) j hLow (by omega)
    · obtain ⟨hGe, hFrom, _⟩ := ih h
      refine ⟨by omega, hFrom, ?_⟩
      intro hIndex
      omega

theorem openModules_of_all {i k : Nat} {version : Int} (hLt : k < modules.length)
    (hAll : ∀ j, i ≤ j → j ≤ i + k → (opened j).isSome = true)
    (hOpened : opened (i + k) = some version) :
    (openModules opened modules i).1[k]? = some ⟨i + k, version⟩ := by
  induction modules generalizing i k with
  | nil => exact absurd hLt (Nat.not_lt_zero k)
  | cons module rest ih =>
    rw [openModules]
    cases k with
    | zero =>
      rw [Nat.add_zero] at hOpened ⊢
      rw [hOpened]
      rfl
    | succ k =>
      obtain ⟨first, hFirst⟩ := Option.isSome_iff_exists.mp (hAll i le_rfl (by omega))
      have hRest := ih (i := i + 1) (k := k) (by simpa using hLt)
        (fun j hLow hHigh => hAll j (by omega) (by omega)) (by rw [← hOpened]; congr 1; omega)
      rw [hFirst]
      show (openModules opened rest (i + 1)).1[k]? = _
      rw [hRest]
      congr 2
      omega

/-- The device at the index of a module is that of the module iff all modules up to it opened. -/
theorem openModules_own_iff {m : Nat} {version : Int} (hLt : m < modules.length)
    (hOpened : opened m = some version) :
    (openModules opened modules 0).1[m]? = some ⟨m, version⟩ ↔
      ∀ j ≤ m, (opened j).isSome = true := by
  constructor
  · intro h j hj
    obtain ⟨_, _, hAll⟩ := openModules_entry h
    exact hAll (Nat.zero_add m).symm j (Nat.zero_le j) (by omega)
  · intro hAll
    have h := openModules_of_all (i := 0) hLt (fun j _ hj => hAll j (by omega))
      (by rw [Nat.zero_add, hOpened])
    rwa [Nat.zero_add] at h

end Multihal

end KiwiDevice.Sensors

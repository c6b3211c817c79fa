import KiwiDevice.Sensors.MultihalCalls

/-!
# Handles of the multihal over all runs

Whatever modules there are, in whatever order contexts are opened and the sensor list is fetched,
and whichever modules fail to open: the exact conditions under which the calls on a handle, and the
events of its sensor, find their way.
-/

namespace KiwiDevice.Sensors

namespace SensorsEvent

variable {t : HandleTables} {e : SensorsEvent} {g l : Int} {i : Nat}

theorem setSource_inj (e : SensorsEvent) (g g' : Int) :
    e.setSource g = e.setSource g' ↔ g = g' := by
  rw [setSource, setSource]
  split <;> simp

/-- An event comes back with `g` iff that is the handle of its queue and local handle, and the
sensor field of a meta-data event is not taken for an unknown sensor. -/
theorem delivered_iff (hSource : e.source = l) (hg : 1 ≤ g) :
    e.delivered t i = some (e.setSource g) ↔
      t.getGlobalHandle ⟨i, l⟩ = g ∧ (e.type = sensorTypeMetaData → e.sensor ≠ -1) := by
  rw [delivered, copyEventRemapHandle, hSource]
  constructor
  · intro h
    split at h
    · cases h
    · rename_i hSensor
      have hSame := (setSource_inj e _ _).mp (Option.some.inj h)
      refine ⟨hSame, ?_⟩
      intro hMeta
      rwa [setSource, if_pos hMeta] at hSensor
  · rintro ⟨hSame, hMeta⟩
    rw [hSame, if_neg]
    rw [setSource]
    split
    · rename_i hType
      exact hMeta hType
    · show g ≠ -1
      omega

end SensorsEvent

namespace PollState

def start (queues : List (List SensorsEvent)) (nextReadIndex : Nat) : PollState where
  queues := queues
  nextReadIndex := nextReadIndex
  empties := 0
  eventsRead := 0
  taken := []

def Next (t : HandleTables) (maxReads : Nat) (s : PollState) (i : PollInput)
    (o : List SensorsEvent) (s' : PollState) : Prop :=
  s.step t maxReads i = some (s', o)

def takenFrom (s : PollState) (queue : Nat) : List SensorsEvent :=
  s.taken.filterMap fun p => if p.1 = queue then some p.2 else none

def arrived (is : List PollInput) (queue : Nat) : List SensorsEvent :=
  is.filterMap fun i =>
    match i with
    | .arrives k e => if k = queue then some e else none
    | _ => none

def queueAt (s : PollState) (queue : Nat) : List SensorsEvent := s.queues[queue]?.getD []

/-- A call of `poll` takes the events of each queue in order and returns what `delivered` makes of
them. -/
structure Polls (t : HandleTables) (s₀ : PollState) (is : List PollInput)
    (os : List SensorsEvent) (s : PollState) : Prop where
  returned : os = s.taken.filterMap fun p => p.2.delivered t p.1
  in_order : ∀ queue, s₀.queueAt queue ++ arrived is queue = s.takenFrom queue ++ s.queueAt queue

variable {t : HandleTables} {maxReads : Nat} {s s' : PollState} {is : List PollInput}
  {os o : List SensorsEvent} {i : PollInput}

theorem queueAt_set {queues : List (List SensorsEvent)} {k : Nat} {old : List SensorsEvent}
    (hOld : queues[k]? = some old) (events : List SensorsEvent) (queue : Nat) :
    ((queues.set k events)[queue]?).getD []
      = if k = queue then events else (queues[queue]?).getD [] := by
  obtain ⟨hLt, _⟩ := List.getElem?_eq_some_iff.mp hOld
  rw [List.getElem?_set]
  split <;> rfl

theorem Polls.next {s₀ : PollState} (h : Polls t s₀ is os s) (hNext : Next t maxReads s i o s') :
    Polls t s₀ (is ++ [i]) (os ++ o) s' := by
  cases i with
  | read =>
    have hSame : ∀ queue, arrived (is ++ [.read]) queue = arrived is queue := by
      intro queue
      rw [arrived, List.filterMap_append]
      exact List.append_nil _
    rw [Next, step] at hNext
    split at hNext
    · split at hNext
      · cases hNext
      · cases hNext
        rw [List.append_nil]
        exact ⟨h.returned, fun queue => (hSame queue).symm ▸ h.in_order queue⟩
      · rename_i e rest hHead
        cases hNext
        constructor
        · show _ = (s.taken ++ [(s.nextReadIndex, e)]).filterMap _
          rw [List.filterMap_append, ← h.returned]
          refine congrArg (os ++ ·) ?_
          cases hData : e.delivered t s.nextReadIndex <;> simp [hData]
        · intro queue
          have hBefore := h.in_order queue
          rw [hSame, hBefore]
          show _ = (s.taken ++ [(s.nextReadIndex, e)]).filterMap _ ++
            ((s.queues.set s.nextReadIndex rest)[queue]?).getD []
          rw [queueAt_set hHead, List.filterMap_append, List.append_assoc]
          refine congrArg (s.takenFrom queue ++ ·) ?_
          show (s.queues[queue]?).getD [] = _
          split
          · rename_i hQueue
            rw [← hQueue, hHead]
            simp
          · rename_i hQueue
            simp [hQueue]
    · cases hNext
  | wait =>
    rw [Next, step] at hNext
    split at hNext
    · cases hNext
      rw [List.append_nil]
      refine ⟨h.returned, fun queue => ?_⟩
      rw [arrived, List.filterMap_append]
      exact (congrArg (s₀.queueAt queue ++ ·) (List.append_nil _)).trans (h.in_order queue)
    · cases hNext
  | arrives k e =>
    rw [Next, step, Option.map_eq_some_iff] at hNext
    obtain ⟨events, hEvents, hEq⟩ := hNext
    cases hEq
    rw [List.append_nil]
    refine ⟨h.returned, fun queue => ?_⟩
    have hBefore := h.in_order queue
    show _ = s.takenFrom queue ++ ((s.queues.set k (events ++ [e]))[queue]?).getD []
    rw [queueAt_set hEvents, arrived, List.filterMap_append, ← List.append_assoc]
    change s₀.queueAt queue ++ arrived is queue ++ _ = _
    rw [hBefore, queueAt]
    split
    · rename_i hQueue
      rw [← hQueue, hEvents]
      simp
    · rename_i hQueue
      simp [hQueue]

theorem polls_of_run {queues : List (List SensorsEvent)} {nextReadIndex : Nat}
    (run : Lib.Steps (Next t maxReads) Lib.anyStep (start queues nextReadIndex) is os s) :
    Polls t (start queues nextReadIndex) is os s := by
  refine run.history (I := fun is os s => Polls t (start queues nextReadIndex) is os s) ?_ ?_
  · exact Polls.mk rfl fun queue => List.append_nil _
  · intro _ _ _ _ _ _ _ h hNext
    exact h.next hNext

end PollState

namespace Multihal

/-- The sensor list handed out has `g` at the place of the sensor `l` of the module `m`. -/
def HandedOut (modules : List SubModule) (s : Multihal) (g : Int) (m : Nat) (l : Int) : Prop :=
  ∃ (list : List SensorT) (k : Nat), s.globalSensorsList = some list ∧
    (list[k]?).map SensorT.handle = some g ∧
    (sensorsInOrder modules 0)[k]? = some ⟨m, l⟩

structure Invariant (modules : List SubModule) (s : Multihal) : Prop where
  unread : s.globalSensorsList = none → s.tables.Lists []
  read : ∀ list, s.globalSensorsList = some list →
    Built (s.tables, list) (sensorsInOrder modules 0)
  contexts : ∀ opened ctx, (opened, ctx) ∈ s.contexts →
    ctx.subHwDevices = (openModules opened modules 0).1

variable {modules : List SubModule} {s s' : Multihal} {g l : Int} {m : Nat}

theorem invariant_init (modules : List SubModule) : Invariant modules init where
  unread _ := HandleTables.lists_empty
  read _ h := by cases h
  contexts _ _ h := by cases h

theorem Invariant.next (h : Invariant modules s) {i : Input} {o : List Unit}
    (hNext : Next modules s i o s') : Invariant modules s' := by
  cases i with
  | openSensors opened =>
    cases hNext
    refine ⟨h.unread, h.read, ?_⟩
    intro opened' ctx hCtx
    rcases List.mem_append.mp hCtx with hCtx | hCtx
    · exact h.contexts opened' ctx hCtx
    · cases List.mem_singleton.mp hCtx
      rfl
  | getSensorsList =>
    rw [Next, step, lazyInitSensorsList] at hNext
    split at hNext
    · cases hNext
      exact h
    · rename_i hNone
      obtain ⟨r, hInit, rfl⟩ := Option.map_eq_some_iff.mp hNext
      refine ⟨?_, ?_, h.contexts⟩
      · intro hSome
        cases hSome
      · intro list hList
        cases hList
        have hEmpty : Built (s.tables, []) [] := ⟨h.unread hNone, rfl⟩
        exact hEmpty.initModules modules hInit

theorem invariant_of_run {is : List Input} {os : List Unit}
    (run : Lib.Steps (Next modules) Lib.anyStep init is os s) : Invariant modules s := by
  refine run.invariant (I := Invariant modules) (invariant_init modules) ?_
  intro _ _ _ _ _ _ _ h hNext
  exact h.next hNext

theorem Invariant.handedOut_iff (h : Invariant modules s) {list : List SensorT}
    (hList : s.globalSensorsList = some list) :
    HandedOut modules s g m l ↔ s.tables.globalToFull g = some ⟨m, l⟩ := by
  have hBuilt := h.read list hList
  rw [hBuilt.tables.full_eq]
  constructor
  · rintro ⟨list', k, hSame, hHandle, hPlace⟩
    cases hList.symm.trans hSame
    rw [← List.getElem?_map, hBuilt.handles, List.getElem?_map, Option.map_eq_some_iff] at hHandle
    obtain ⟨k', hk', rfl⟩ := hHandle
    obtain ⟨_, hRange⟩ := List.getElem?_eq_some_iff.mp hk'
    rw [List.getElem_range] at hRange
    rw [if_pos (by omega), show ((k' : Int) + 1 - 1).toNat = k by omega, hPlace]
  · intro hPlace
    split at hPlace
    · rename_i hPos
      obtain ⟨hLt, _⟩ := List.getElem?_eq_some_iff.mp hPlace
      refine ⟨list, (g - 1).toNat, hList, ?_, hPlace⟩
      rw [← List.getElem?_map, hBuilt.handles, List.getElem?_map, List.getElem?_range hLt]
      show some (((g - 1).toNat : Int) + 1) = some g
      rw [Int.toNat_of_nonneg (by omega), Int.sub_add_cancel]
    · cases hPlace

/-- What becomes of the calls on the handle `g` of the sensor `l` of the module `m`, and of its
events, in a context opened with the answers `opened`. -/
structure Routing (modules : List SubModule) (s : Multihal) (opened : Nat → Option Int)
    (ctx : SensorsPollContext) (g : Int) (m : Nat) (l : Int) : Prop where
  activate_iff : ∀ hal enabled, ctx.activate s.tables hal g enabled
      = expected hal (opened m) m l (fun _ => true) (.activate enabled) ↔
    Answers ctx opened m l fun _ => true
  setDelay_iff : ∀ hal ns, ctx.setDelay s.tables hal g ns
      = expected hal (opened m) m l (fun _ => true) (.setDelay ns) ↔
    Answers ctx opened m l fun _ => true
  batch_iff : ∀ list, s.globalSensorsList = some list → ∀ hal flags periodNs timeout,
    0 ≤ periodNs → 0 ≤ timeout →
    ((∃ emulatedNs, ctx.batch s.tables hal list g flags periodNs timeout
      = some (expected hal (opened m) m l (fun _ => true)
          (batchMethod (opened m) flags periodNs timeout emulatedNs))) ↔
      BatchAnswers ctx opened list g m l)
  flush_iff : ∀ hal, ctx.flush s.tables hal g
      = expected hal (opened m) m l (compliant (sensorsDeviceApiVersion 1)) .flush ↔
    Answers ctx opened m l (compliant (sensorsDeviceApiVersion 1))
  inject_iff : ∀ hal data, data.sensor = g → (ctx.deviceInjectSensorData s.tables hal data
      = expected hal (opened m) m l (compliant (sensorsDeviceApiVersion 4)) .injectSensorData ↔
    (opened m).any (compliant (sensorsDeviceApiVersion 4)) = false ∧
      Refuses ctx m l (compliant (sensorsDeviceApiVersion 4)))
  poll_iff : ∀ (i : Nat) (d : SubDevice) (e : SensorsEvent), ctx.subHwDevices[i]? = some d →
    d.openedFrom = m → e.source = l →
    (e.delivered s.tables i = some (e.setSource g) ↔
      AllOpened opened m ∧ (∀ g', HandedOut modules s g' m l → g' ≤ g) ∧
        (e.type = sensorTypeMetaData → e.sensor ≠ -1))
  polls : ∀ maxReads queues nextReadIndex is os p,
    Lib.Steps (PollState.Next s.tables maxReads) Lib.anyStep
      (PollState.start queues nextReadIndex) is os p →
    PollState.Polls s.tables (PollState.start queues nextReadIndex) is os p

/-- The queue of the module `m` has its index iff no module before it failed to open. -/
theorem Invariant.queue_own_iff (h : Invariant modules s) {opened : Nat → Option Int}
    {ctx : SensorsPollContext} (hCtx : (opened, ctx) ∈ s.contexts) {i : Nat} {d : SubDevice}
    (hEntry : ctx.subHwDevices[i]? = some d) (hm : d.openedFrom < modules.length) :
    i = d.openedFrom ↔ AllOpened opened d.openedFrom := by
  rw [h.contexts opened ctx hCtx] at hEntry
  obtain ⟨hLe, hOpened, hAll⟩ := openModules_entry hEntry
  constructor
  · intro hSame j hj
    exact hAll (by omega) j (Nat.zero_le j) (by omega)
  · intro hOwn
    have hAt := (openModules_own_iff hm hOpened).mpr hOwn
    rcases Nat.lt_trichotomy i d.openedFrom with hLt | hEq | hGt
    · -- the entry at a smaller index would be that of an earlier module
      have hBefore := Option.isSome_iff_exists.mp (hOwn i hLt.le)
      obtain ⟨version, hVersion⟩ := hBefore
      have hThere := (openModules_own_iff (hLt.trans hm) hVersion).mpr
        fun j hj => hOwn j (by omega)
      rw [hEntry] at hThere
      cases hThere
      rfl
    · exact hEq
    · omega

theorem routing_of_run {is : List Input} {os : List Unit}
    (run : Lib.Steps (Next modules) Lib.anyStep init is os s) {opened : Nat → Option Int}
    {ctx : SensorsPollContext} (hCtx : (opened, ctx) ∈ s.contexts)
    (hHanded : HandedOut modules s g m l) : Routing modules s opened ctx g m l := by
  have h := invariant_of_run run
  have hDevices := h.contexts opened ctx hCtx
  obtain ⟨list, k, hList, _, hPlace⟩ := id hHanded
  have hg := (h.handedOut_iff hList).mp hHanded
  have hm : m < modules.length := by
    have hIndex := (sensorsInOrder_index (List.mem_of_getElem? hPlace)).2
    rwa [Nat.zero_add] at hIndex
  constructor
  · intro hal enabled
    rw [activate_eq hg]
    exact forwarded_iff hDevices hm
  · intro hal ns
    rw [setDelay_eq hg]
    exact forwarded_iff hDevices hm
  · intro list' _ hal flags periodNs timeout hPeriod hTimeout
    exact KiwiDevice.Sensors.batch_iff hg hDevices hm list' flags hPeriod hTimeout
  · intro hal
    rw [flush_eq hg]
    exact forwarded_iff hDevices hm
  · intro hal data hData
    exact deviceInjectSensorData_iff hg hData
  · rintro i d e hEntry rfl hSource
    have hBuilt := h.read list hList
    have hPos := (hBuilt.tables.known_lt hg).1
    rw [SensorsEvent.delivered_iff hSource hPos, hBuilt.tables.getGlobalHandle_iff hPos,
      ← h.queue_own_iff hCtx hEntry hm, ← and_assoc]
    refine and_congr_left fun _ => ?_
    simp only [h.handedOut_iff hList]
    constructor
    · rintro ⟨hKnown, hLast⟩
      cases hg.symm.trans hKnown
      exact ⟨rfl, hLast⟩
    · rintro ⟨rfl, hLast⟩
      exact ⟨hg, hLast⟩
  · intro maxReads queues nextReadIndex is os p hRun
    exact PollState.polls_of_run hRun

def accelerometer (handle : Int) : SensorT where
  handle := handle
  type := 1
  flags := 0
  minDelay := 5000
  maxDelay := 200000

/-- The first module lists no sensor. -/
def threeModules : List SubModule :=
  [⟨1, []⟩, ⟨2, [accelerometer 5]⟩, ⟨3, [accelerometer 7]⟩]

def firstFails : Nat → Option Int
  | 0 => none
  | _ => some (sensorsDeviceApiVersion 3)

def oldDevices : Nat → Option Int
  | _ => some (sensorsDeviceApiVersion 0)

theorem routing_of_run_oldDevices : ∃ s ctx, HandedOut threeModules s 2 2 7 ∧
    Routing threeModules s oldDevices ctx 2 2 7 := by
  have opens : Lib.Steps (Next threeModules) Lib.anyStep init _ _ _ :=
    .step .start trivial (i := Input.openSensors oldDevices) (o := []) rfl
  have run : Lib.Steps (Next threeModules) Lib.anyStep init _ _ _ :=
    opens.step trivial (i := Input.getSensorsList) (o := []) rfl
  refine ⟨_, _, ?_, routing_of_run run List.mem_cons_self ?_⟩ <;> exact ⟨_, 1, rfl, rfl, rfl⟩

/-- With the first module failing, the sensor `5` of the second is activated on the device of the
third; with old devices, its delay is set under its global handle. -/
theorem calls_misrouted :
    (∃ s ctx is os, Lib.Steps (Next threeModules) Lib.anyStep init is os s ∧
      (firstFails, ctx) ∈ s.contexts ∧ HandedOut threeModules s 1 1 5 ∧
      ctx.activate s.tables (fun _ => 0) 1 1 = SensorsPollContext.made (fun _ => 0)
        ⟨⟨2, sensorsDeviceApiVersion 3⟩, .sub ⟨2, sensorsDeviceApiVersion 3⟩, 5, .activate 1⟩) ∧
    ∃ s ctx is os list, Lib.Steps (Next threeModules) Lib.anyStep init is os s ∧
      (oldDevices, ctx) ∈ s.contexts ∧ HandedOut threeModules s 1 1 5 ∧
      s.globalSensorsList = some list ∧
      ctx.batch s.tables (fun _ => 0) list 1 0 10000 0
        = some (SensorsPollContext.made (fun _ => 0) ⟨⟨1, sensorsDeviceApiVersion 0⟩,
            .sub ⟨1, sensorsDeviceApiVersion 0⟩, 1, .setDelay 10000⟩) := by
  constructor
  · have opens : Lib.Steps (Next threeModules) Lib.anyStep init _ _ _ :=
      .step .start trivial (i := Input.openSensors firstFails) (o := []) rfl
    have run : Lib.Steps (Next threeModules) Lib.anyStep init _ _ _ :=
      opens.step trivial (i := Input.getSensorsList) (o := []) rfl
    exact ⟨_, _, _, _, run, List.mem_cons_self, ⟨_, 0, rfl, rfl, rfl⟩, rfl⟩
  · have opens : Lib.Steps (Next threeModules) Lib.anyStep init _ _ _ :=
      .step .start trivial (i := Input.openSensors oldDevices) (o := []) rfl
    have run : Lib.Steps (Next threeModules) Lib.anyStep init _ _ _ :=
      opens.step trivial (i := Input.getSensorsList) (o := []) rfl
    exact ⟨_, _, _, _, _, run, List.mem_cons_self, ⟨_, 0, rfl, rfl, rfl⟩, rfl, rfl⟩

end Multihal

end KiwiDevice.Sensors

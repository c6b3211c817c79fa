import KiwiDevice.Camera.Discovery

/-!
# What camera enumeration leaves behind

The descriptors, the lock and the tables after every sequence of answers, and the order of the
cameras after the sort.
-/

namespace KiwiDevice.Camera

/-- The devices that a scan opens: it ends with a descriptor 0 or a device without information. -/
def reached : List MediaDevice → List MediaDevice
  | [] => []
  | d :: ds => d :: if d.fd = 0 ∨ d.info = none then [] else reached ds

/-- The devices of this model whose entities a scan enumerates. -/
def enumerated (model : String) (devices : List MediaDevice) : List MediaDevice :=
  (reached devices).filter fun d => d.fd ≠ 0 ∧ d.info = some model

def zeroFds (devices : List MediaDevice) : List Nat :=
  ((reached devices).filter fun d => d.fd = 0).map MediaDevice.fd

def scanFails (devices : List MediaDevice) : Bool :=
  (reached devices).any fun d => d.fd ≠ 0 ∧ d.info = none

def isFacing (facing : Nat) (r : CameraRow) : Bool := r.info.facing = facing

/-- A call that has written within the tables, and leaves the descriptors as they were and the lock
released. -/
def Released (w : Enumeration) (r : Option Enumeration) : Prop :=
  ∃ w', r = some w' ∧ w'.fds = w.fds ∧ w'.locked = false

namespace KernelHeaders

variable (k : KernelHeaders)

/-- The name of the subdevice that `get_num_of_cameras` opens. -/
def subdevName : List MediaDevice → String → String
  | [], name => name
  | d :: ds, name =>
    match d.info with
    | none => name
    | some model =>
      if model ≠ "msm_config" then subdevName ds name
      else
        match d.entities.find? k.isSensorInit with
        | none => subdevName ds name
        | some e => subdevName ds (String.ofList (("/dev/" ++ e.name).toList.take 31))

/-- Each camera with a video node has a row in the tables, when the first one gets the
row `first`. -/
def NamesFit (cameras : List MediaDevice) (first : Int) : Prop :=
  ∀ (i : Nat) (d : MediaDevice), cameras[i]? = some d →
    (d.entities.find? k.isVideoNode).isSome = true →
      0 ≤ int8 (first + i) ∧ int8 (first + i) < k.maxNumSensors

def sensors (devices : List MediaDevice) : List MediaEntity :=
  (enumerated k.configurationName devices).flatMap fun d => d.entities.filter k.isSensor

/-- The number of cameras that the second scan finds. -/
def cameraCount (devices : List MediaDevice) : Int :=
  if scanFails devices then 0 else int8 (enumerated k.cameraName devices).length

/-- The rows of cameras that all face back or front are sorted, those that face back first. -/
def SortsStably (w : Enumeration) (n : Nat) : Prop :=
  (∀ r ∈ w.tables.rows n, r.info.facing = facingBack ∨ r.info.facing = facingFront) →
    ∃ w', k.sortCameraInfo n w = some w' ∧
      w'.tables.rows n = (w.tables.rows n).filter (isFacing facingBack) ++
        (w.tables.rows n).filter (isFacing facingFront)

/-- The sensors of `get_sensor_info` have rows, and no device has the descriptor 0. -/
def SensorsFit (devices : List MediaDevice) : Prop :=
  (k.sensors devices).length ≤ k.maxNumSensors ∧ zeroFds devices = []

/-- The sensor-init subdevice can be opened, the cameras and sensors have rows in the tables, and no
device of the scans for them has the descriptor 0. -/
def AnswersFit (a : ProbeAnswers) : Prop :=
  a.decrypt = 1 ∨
    (a.openSubdev (k.subdevName a.initScan a.unsetName)).isSome = true ∧
    k.NamesFit (enumerated k.cameraName a.cameraScan) 0 ∧
    k.cameraCount a.cameraScan ≤ k.maxNumSensors ∧ zeroFds a.cameraScan = [] ∧
    k.SensorsFit a.sensorScan

end KernelHeaders

variable {k : KernelHeaders} {d : MediaDevice} {ds : List MediaDevice} {w w' : Enumeration}
  {model name : String} {e : MediaEntity} {es : List MediaEntity} {x : Int} {n : Nat}
  {t : CameraTables}

theorem int8_zero : int8 0 = 0 := rfl

theorem int8_succ (x : Int) : int8 (int8 x + 1) = int8 (x + 1) := by
  rw [int8, int8, int8]
  omega

namespace Enumeration

theorem open_close (w : Enumeration) (fd : Nat) : (w.openFd fd).closeFd fd = w := by
  rw [openFd, closeFd]
  simp

theorem open_write_close (w : Enumeration) (fd : Nat) (t : CameraTables) :
    closeFd { w.openFd fd with tables := t } fd = { w with tables := t } :=
  open_close { w with tables := t } fd

end Enumeration

theorem reached_zero (h : d.fd = 0) : reached (d :: ds) = [d] := by
  rw [reached, if_pos (.inl h)]

theorem reached_failed (h : d.info = none) : reached (d :: ds) = [d] := by
  rw [reached, if_pos (.inr h)]

theorem reached_next (hFd : d.fd ≠ 0) (hInfo : d.info = some model) :
    reached (d :: ds) = d :: reached ds := by
  rw [reached, if_neg]
  rintro (h | h)
  · exact hFd h
  · rw [hInfo] at h
    cases h

theorem zeroFds_next (hFd : d.fd ≠ 0) (hInfo : d.info = some model) :
    zeroFds (d :: ds) = zeroFds ds := by
  simp [zeroFds, reached_next hFd hInfo, hFd]

theorem scanFails_next (hFd : d.fd ≠ 0) (hInfo : d.info = some model) :
    scanFails (d :: ds) = scanFails ds := by
  simp [scanFails, reached_next hFd hInfo, hInfo]

theorem enumerated_same (hFd : d.fd ≠ 0) (hInfo : d.info = some model) :
    enumerated model (d :: ds) = d :: enumerated model ds := by
  simp [enumerated, reached_next hFd hInfo, hFd, hInfo]

theorem enumerated_other (hFd : d.fd ≠ 0) (hInfo : d.info = some name) (hOther : name ≠ model) :
    enumerated model (d :: ds) = enumerated model ds := by
  simp [enumerated, reached_next hFd hInfo, hFd, hInfo, hOther]

namespace KernelHeaders

theorem namesFit_cons {cameras : List MediaDevice} :
    k.NamesFit (d :: cameras) x ↔
      ((d.entities.find? k.isVideoNode).isSome = true → 0 ≤ int8 x ∧ int8 x < k.maxNumSensors) ∧
        k.NamesFit cameras (x + 1) := by
  constructor
  · intro h
    refine ⟨fun hNode => ?_, fun i d' hAt hNode => ?_⟩
    · have hFirst := h 0 d rfl hNode
      rwa [Int.natCast_zero, Int.add_zero] at hFirst
    · have hNext := h (i + 1) d' hAt hNode
      rwa [Int.natCast_succ, Int.add_comm (i : Int), ← Int.add_assoc] at hNext
  · rintro ⟨hFirst, hRest⟩ i d' hAt hNode
    cases i with
    | zero =>
      cases hAt
      rw [Int.natCast_zero, Int.add_zero]
      exact hFirst hNode
    | succ i =>
      have hNext := hRest i d' hAt hNode
      rwa [Int.natCast_succ, Int.add_comm (i : Int), ← Int.add_assoc]

theorem scanSensorInit_eq (ds : List MediaDevice) (name : String) (w : Enumeration) :
    k.scanSensorInit ds name w = (k.subdevName ds name, w) := by
  induction ds generalizing name with
  | nil => rfl
  | cons d ds ih =>
    rw [scanSensorInit, subdevName, w.open_close]
    cases hInfo : d.info with
    | none => rfl
    | some model =>
      dsimp only
      rcases eq_or_ne model "msm_config" with rfl | hOther
      · rw [if_neg (not_not_intro rfl), if_neg (not_not_intro rfl)]
        cases d.entities.find? k.isSensorInit with
        | none => exact ih name
        | some e => exact ih _
      · rw [if_pos hOther, if_pos hOther]
        exact ih name

/-- What the second scan leaves behind, when the first camera gets the row `int8 x`. -/
theorem scanCameras_spec (ds : List MediaDevice) (x : Int) (w : Enumeration) :
    (k.NamesFit (enumerated k.cameraName ds) x → ∃ t,
      k.scanCameras ds (int8 x) w = some
        (if scanFails ds then 0 else int8 (x + (enumerated k.cameraName ds).length),
          { w with tables := t, fds := zeroFds ds ++ w.fds })) ∧
    (¬ k.NamesFit (enumerated k.cameraName ds) x → k.scanCameras ds (int8 x) w = none) := by
  induction ds generalizing x w with
  | nil =>
    have hFit : k.NamesFit (enumerated k.cameraName []) x := nofun
    refine ⟨fun _ => ⟨w.tables, ?_⟩, fun h => absurd hFit h⟩
    simp [scanCameras, enumerated, reached, scanFails, zeroFds]
  | cons d ds ih =>
    rw [scanCameras]
    dsimp only
    split
    · rename_i hZero
      have hNone : enumerated k.cameraName (d :: ds) = [] := by
        simp [enumerated, reached_zero hZero, hZero]
      have hFails : scanFails (d :: ds) = false := by simp [scanFails, reached_zero hZero, hZero]
      have hFds : zeroFds (d :: ds) = [d.fd] := by simp [zeroFds, reached_zero hZero, hZero]
      rw [hNone, hFails, hFds]
      have hFit : k.NamesFit [] x := nofun
      refine ⟨fun _ => ⟨w.tables, ?_⟩, fun h => absurd hFit h⟩
      simp [Enumeration.openFd]
    · rename_i hFd
      split
      · rename_i hInfo
        have hNone : enumerated k.cameraName (d :: ds) = [] := by
          simp [enumerated, reached_failed hInfo, hInfo]
        have hFails : scanFails (d :: ds) = true := by
          simp [scanFails, reached_failed hInfo, hInfo, hFd]
        have hFds : zeroFds (d :: ds) = [] := by simp [zeroFds, reached_failed hInfo, hFd]
        rw [hNone, hFails, hFds, w.open_close]
        have hFit : k.NamesFit [] x := nofun
        refine ⟨fun _ => ⟨w.tables, ?_⟩, fun h => absurd hFit h⟩
        simp
      · rename_i model hInfo
        rw [scanFails_next hFd hInfo, zeroFds_next hFd hInfo, w.open_close]
        split
        · rename_i hOther
          rw [enumerated_other hFd hInfo hOther]
          exact ih x w
        · rename_i hSame
          obtain rfl := Classical.not_not.mp hSame
          rw [enumerated_same hFd hInfo, namesFit_cons, List.length_cons, int8_succ]
          have hCount : x + ((enumerated k.cameraName ds).length + 1 : Nat) =
              x + 1 + (enumerated k.cameraName ds).length := by omega
          rw [hCount]
          cases hNode : d.entities.find? k.isVideoNode with
          | none =>
            have hRest := ih (x + 1) w
            simpa using hRest
          | some e =>
            dsimp only
            split
            · rename_i hRoom
              have hRest := ih (x + 1)
                { w with tables := (w.openFd d.fd).tables.setName (int8 x).toNat e.name }
              rw [Enumeration.open_write_close]
              simpa [hRoom] using hRest
            · rename_i hFull
              simp [hFull]

theorem enumSensors_spec (es : List MediaEntity) (n : Nat) (t : CameraTables)
    (hn : n ≤ k.maxNumSensors) :
    (n + (es.filter k.isSensor).length ≤ k.maxNumSensors → ∃ t',
      k.enumSensors es n t = some (n + (es.filter k.isSensor).length, t')) ∧
    (k.maxNumSensors < n + (es.filter k.isSensor).length → k.enumSensors es n t = none) := by
  induction es generalizing n t with
  | nil => exact ⟨fun _ => ⟨t, rfl⟩, fun h => absurd hn (Nat.not_le_of_gt h)⟩
  | cons e es ih =>
    rw [enumSensors]
    split
    · rename_i hSensor
      rw [List.filter_cons_of_pos hSensor, List.length_cons, ← Nat.add_assoc,
        Nat.add_right_comm]
      split
      · rename_i hRoom
        exact ih (n + 1) _ hRoom
      · rename_i hFull
        exact ⟨fun h => absurd h (by omega), fun _ => rfl⟩
    · rename_i hOther
      rw [List.filter_cons_of_neg hOther]
      exact ih n t hn

/-- What `get_sensor_info` leaves behind, when it has found `n` sensors already. -/
theorem scanSensors_spec (ds : List MediaDevice) (n : Nat) (w : Enumeration)
    (hn : n ≤ k.maxNumSensors) :
    (n + (k.sensors ds).length ≤ k.maxNumSensors → ∃ t,
      k.scanSensors ds n w = some { w with tables := t, fds := zeroFds ds ++ w.fds }) ∧
    (k.maxNumSensors < n + (k.sensors ds).length → k.scanSensors ds n w = none) := by
  induction ds generalizing n w with
  | nil =>
    exact ⟨fun _ => ⟨w.tables, rfl⟩, fun h => absurd hn (Nat.not_le_of_gt h)⟩
  | cons d ds ih =>
    rw [scanSensors]
    split
    · rename_i hZero
      have hNone : k.sensors (d :: ds) = [] := by
        simp [sensors, enumerated, reached_zero hZero, hZero]
      have hFds : zeroFds (d :: ds) = [d.fd] := by simp [zeroFds, reached_zero hZero, hZero]
      rw [hNone, hFds]
      exact ⟨fun _ => ⟨w.tables, rfl⟩, fun h => absurd hn (Nat.not_le_of_gt h)⟩
    · rename_i hFd
      split
      · rename_i hInfo
        have hNone : k.sensors (d :: ds) = [] := by
          simp [sensors, enumerated, reached_failed hInfo, hInfo]
        have hFds : zeroFds (d :: ds) = [] := by simp [zeroFds, reached_failed hInfo, hFd]
        rw [hNone, hFds, w.open_close]
        exact ⟨fun _ => ⟨w.tables, rfl⟩, fun h => absurd hn (Nat.not_le_of_gt h)⟩
      · rename_i model hInfo
        rw [zeroFds_next hFd hInfo, w.open_close]
        split
        · rename_i hOther
          have hSensors : k.sensors (d :: ds) = k.sensors ds := by
            rw [sensors, enumerated_other hFd hInfo hOther, sensors]
          rw [hSensors]
          exact ih n w hn
        · rename_i hSame
          obtain rfl := Classical.not_not.mp hSame
          have hSensors :
              k.sensors (d :: ds) = d.entities.filter k.isSensor ++ k.sensors ds := by
            rw [sensors, enumerated_same hFd hInfo, List.flatMap_cons, sensors]
          rw [hSensors, List.length_append, ← Nat.add_assoc]
          have hFound := k.enumSensors_spec d.entities n w.tables hn
          rcases Nat.lt_or_ge k.maxNumSensors (n + (d.entities.filter k.isSensor).length)
            with hFull | hRoom
          · have hOverrun : k.enumSensors d.entities n (w.openFd d.fd).tables = none :=
              hFound.2 hFull
            rw [hOverrun]
            exact ⟨fun h => absurd h (by omega), fun _ => rfl⟩
          · obtain ⟨t, hSome⟩ := hFound.1 hRoom
            have hEnum : k.enumSensors d.entities n (w.openFd d.fd).tables = some (_, t) := hSome
            rw [hEnum, Option.bind_some, Enumeration.open_write_close]
            exact ih _ { w with tables := t } hRoom

/-- The first `idx` rows of the temporary tables. -/
def Saved (temp : SortTemp) (l : List CameraRow) : Prop :=
  temp.idx = l.length ∧ temp.tables.rows temp.idx = l

theorem row_put (t : CameraTables) (i j : Nat) (r : CameraRow) :
    (t.put i r).row j = if j = i then r else t.row j := by
  by_cases h : j = i
  · subst h
    simp [CameraTables.row, CameraTables.put]
  · simp [CameraTables.row, CameraTables.put, h]

theorem rows_put (t : CameraTables) (i : Nat) (r : CameraRow) :
    (t.put i r).rows (i + 1) = t.rows i ++ [r] := by
  rw [CameraTables.rows, List.range_succ, List.map_append, List.map_singleton, row_put, if_pos rfl,
    CameraTables.rows]
  congr 1
  apply List.map_congr_left
  intro j hj
  have hLt := List.mem_range.mp hj
  rw [row_put, if_neg (by omega)]

/-- The rows with this facing among those of `n` cameras from `i` on. -/
def facingRows (t : CameraTables) (facing i n : Nat) : List CameraRow :=
  ((List.range' i n).map t.row).filter fun r => r.info.facing = facing

theorem facingRows_succ (t : CameraTables) (facing i n : Nat) :
    facingRows t facing i (n + 1) =
      if (t.info i).facing = facing then t.row i :: facingRows t facing (i + 1) n
      else facingRows t facing (i + 1) n := by
  rw [facingRows, List.range'_succ, List.map_cons, List.filter_cons]
  exact if_congr decide_eq_true_iff rfl rfl

theorem saveFacing_spec (t : CameraTables) (facing n i : Nat) {temp : SortTemp}
    {l : List CameraRow} (hSaved : Saved temp l) (hn : i + n ≤ k.maxNumSensors)
    (hRoom : l.length + (facingRows t facing i n).length ≤ k.maxNumSensors) :
    ∃ temp', k.saveFacing t facing n i temp = some temp' ∧
      Saved temp' (l ++ facingRows t facing i n) := by
  induction n generalizing i temp l with
  | zero => exact ⟨temp, rfl, by rwa [facingRows, List.range'_zero, List.map_nil, List.filter_nil,
      List.append_nil]⟩
  | succ n ih =>
    rw [saveFacing, if_pos (by omega)]
    rw [facingRows_succ] at hRoom ⊢
    split
    · rename_i hFacing
      rw [if_pos hFacing, List.length_cons] at hRoom
      rw [if_pos (by rw [hSaved.1]; omega)]
      have hNext : Saved ⟨temp.tables.put temp.idx (t.row i), temp.idx + 1⟩ (l ++ [t.row i]) := by
        refine ⟨?_, ?_⟩
        · rw [List.length_append, List.length_singleton, hSaved.1]
        · rw [rows_put, hSaved.2]
      obtain ⟨temp', hRun, hEnd⟩ := ih (i + 1) hNext (by omega)
        (by rw [List.length_append, List.length_singleton]; omega)
      refine ⟨temp', hRun, ?_⟩
      rwa [List.append_assoc, List.singleton_append] at hEnd
    · rename_i hOther
      rw [if_neg hOther] at hRoom
      exact ih (i + 1) hSaved (by omega) hRoom

theorem saveFacing_overrun (t : CameraTables) (facing n i : Nat) (temp : SortTemp)
    (hi : i ≤ k.maxNumSensors) (hn : k.maxNumSensors < i + n) :
    k.saveFacing t facing n i temp = none := by
  induction n generalizing i temp with
  | zero => exact absurd hi (Nat.not_le_of_gt hn)
  | succ n ih =>
    rw [saveFacing]
    split
    · rename_i hInside
      split
      · split
        · exact ih (i + 1) _ hInside (by omega)
        · rfl
      · exact ih (i + 1) _ hInside (by omega)
    · rfl

theorem facing_length_le (rows : List CameraRow) :
    (rows.filter (isFacing facingBack)).length + (rows.filter (isFacing facingFront)).length ≤
      rows.length := by
  rw [← List.countP_eq_length_filter, ← List.countP_eq_length_filter,
    List.length_eq_countP_add_countP (isFacing facingBack)]
  refine Nat.add_le_add_left (List.countP_mono_left ?_) _
  intro r _ hFront
  have hFacing := of_decide_eq_true hFront
  simp [isFacing, hFacing, facingBack, facingFront]

theorem facing_length_eq {rows : List CameraRow}
    (h : ∀ r ∈ rows, r.info.facing = facingBack ∨ r.info.facing = facingFront) :
    (rows.filter (isFacing facingBack)).length + (rows.filter (isFacing facingFront)).length =
      rows.length := by
  rw [← List.countP_eq_length_filter, ← List.countP_eq_length_filter,
    List.length_eq_countP_add_countP (isFacing facingBack)]
  congr 1
  refine List.countP_congr ?_
  intro r hr
  rcases h r hr with hFacing | hFacing <;>
    simp [isFacing, hFacing, facingBack, facingFront]

theorem facingRows_zero (t : CameraTables) (facing n : Nat) :
    facingRows t facing 0 n = (t.rows n).filter (isFacing facing) := by
  rw [facingRows, CameraTables.rows, List.range_eq_range']
  rfl

theorem sortCameraInfo_spec (w : Enumeration) (numCam : Int) (hn : numCam ≤ k.maxNumSensors) :
    ∃ t, k.sortCameraInfo numCam w = some { w with tables := t } ∧
      ((∀ r ∈ w.tables.rows numCam.toNat,
          r.info.facing = facingBack ∨ r.info.facing = facingFront) → 0 ≤ numCam →
        t.rows numCam.toNat = (w.tables.rows numCam.toNat).filter (isFacing facingBack) ++
          (w.tables.rows numCam.toNat).filter (isFacing facingFront)) := by
  have hNone : Saved {} [] := ⟨rfl, rfl⟩
  have hTotal := facing_length_le (w.tables.rows numCam.toNat)
  have hLength : (w.tables.rows numCam.toNat).length = numCam.toNat := by
    simp [CameraTables.rows]
  obtain ⟨back, hBack, hBackSaved⟩ := k.saveFacing_spec w.tables facingBack numCam.toNat 0 hNone
    (by omega) (by rw [facingRows_zero, List.length_nil]; omega)
  obtain ⟨sorted, hSorted, hSaved⟩ := k.saveFacing_spec w.tables facingFront numCam.toNat 0
    hBackSaved (by omega) (by rw [facingRows_zero, facingRows_zero, List.nil_append]; omega)
  rw [facingRows_zero, facingRows_zero, List.nil_append] at hSaved
  have hCount : (sorted.idx : Int) = numCam ↔ sorted.idx = numCam.toNat ∧ 0 ≤ numCam := by omega
  rw [sortCameraInfo, hBack, Option.bind_eq_bind, Option.bind_some, hSorted, Option.bind_some]
  split
  · rename_i hAll
    refine ⟨sorted.tables, rfl, fun _ _ => ?_⟩
    have hRows := hSaved.2
    rwa [(hCount.mp hAll).1] at hRows
  · rename_i hSome
    refine ⟨w.tables, rfl, fun hFacing hPos => absurd (hCount.mpr ⟨?_, hPos⟩) hSome⟩
    rw [hSaved.1, List.length_append, facing_length_eq hFacing, hLength]

theorem sortCameraInfo_overrun (w : Enumeration) (numCam : Int)
    (hn : (k.maxNumSensors : Int) < numCam) : k.sortCameraInfo numCam w = none := by
  rw [sortCameraInfo, k.saveFacing_overrun w.tables facingBack numCam.toNat 0 _ (Nat.zero_le _)
    (by omega)]
  rfl

theorem getSensorInfo_released_iff (k : KernelHeaders) (devices : List MediaDevice)
    (w : Enumeration) (hFree : w.locked = false) :
    Released w (k.getSensorInfo devices w) ↔ k.SensorsFit devices := by
  have hSpec := k.scanSensors_spec devices 0 w (Nat.zero_le _)
  rw [Nat.zero_add] at hSpec
  rw [getSensorInfo]
  constructor
  · rintro ⟨w', hRun, hFds, -⟩
    rcases Nat.lt_or_ge k.maxNumSensors (k.sensors devices).length with hFull | hRoom
    · rw [hSpec.2 hFull] at hRun
      cases hRun
    · obtain ⟨t, hSome⟩ := hSpec.1 hRoom
      rw [hSome] at hRun
      cases hRun
      exact ⟨hRoom, List.append_left_eq_self.mp hFds⟩
  · rintro ⟨hRoom, hZero⟩
    obtain ⟨t, hSome⟩ := hSpec.1 hRoom
    rw [hZero, List.nil_append] at hSome
    exact ⟨_, hSome, rfl, hFree⟩

/-- The end of `get_num_of_cameras`, after its own scans. -/
def countSensors (k : KernelHeaders) (devices : List MediaDevice) (w : Enumeration) :
    Option (Int × Enumeration) := do
  let w ← k.getSensorInfo devices w
  let w ← k.sortCameraInfo w.numCam w
  some (w.numCam % 256, { w with locked := false })

theorem countSensors_spec (devices : List MediaDevice) (w : Enumeration) :
    ((k.sensors devices).length ≤ k.maxNumSensors ∧ w.numCam ≤ k.maxNumSensors →
      ∃ n w', k.countSensors devices w = some (n, w') ∧ w'.fds = zeroFds devices ++ w.fds ∧
        w'.locked = false) ∧
    (¬ ((k.sensors devices).length ≤ k.maxNumSensors ∧ w.numCam ≤ k.maxNumSensors) →
      k.countSensors devices w = none) := by
  have hSpec := k.scanSensors_spec devices 0 w (Nat.zero_le _)
  rw [Nat.zero_add] at hSpec
  rw [countSensors, getSensorInfo]
  rcases Nat.lt_or_ge k.maxNumSensors (k.sensors devices).length with hFull | hRoom
  · rw [hSpec.2 hFull]
    exact ⟨fun h => absurd h.1 (Nat.not_le_of_gt hFull), fun _ => rfl⟩
  · obtain ⟨t, hSome⟩ := hSpec.1 hRoom
    rw [hSome, Option.bind_eq_bind, Option.bind_some]
    rcases Int.lt_or_le k.maxNumSensors w.numCam with hMany | hFew
    · rw [k.sortCameraInfo_overrun _ _ hMany]
      exact ⟨fun h => absurd h.2 (by omega), fun _ => rfl⟩
    · obtain ⟨t', hSorted, -⟩ := k.sortCameraInfo_spec
        { w with tables := t, fds := zeroFds devices ++ w.fds } w.numCam hFew
      rw [hSorted]
      exact ⟨fun _ => ⟨_, _, rfl, rfl, rfl⟩, fun h => absurd ⟨hRoom, hFew⟩ h⟩

theorem getNumOfCameras_released_iff (k : KernelHeaders) (a : ProbeAnswers) (w : Enumeration)
    (hFree : w.locked = false) :
    Released w ((k.getNumOfCameras a w).map Prod.snd) ↔ k.AnswersFit a := by
  rw [getNumOfCameras, AnswersFit]
  split
  · rename_i hDecrypt
    exact ⟨fun _ => .inl hDecrypt, fun _ => ⟨w, rfl, rfl, hFree⟩⟩
  · rename_i hDecrypt
    rw [or_iff_right hDecrypt, scanSensorInit_eq]
    dsimp only
    cases hOpen : a.openSubdev (k.subdevName a.initScan a.unsetName) with
    | none =>
      constructor
      · rintro ⟨w', hRun, -, hLocked⟩
        cases hRun
        cases hLocked
      · rintro ⟨hSome, -⟩
        cases hSome
    | some sd =>
      dsimp only
      rw [Enumeration.open_close, Option.bind_eq_bind]
      have hScan := k.scanCameras_spec a.cameraScan 0 { w with locked := true }
      rw [int8_zero, Int.zero_add, ← cameraCount] at hScan
      by_cases hNames : k.NamesFit (enumerated k.cameraName a.cameraScan) 0
      · obtain ⟨t, hFound⟩ := hScan.1 hNames
        rw [hFound, Option.bind_some]
        dsimp only
        rw [← countSensors]
        have hEnd := k.countSensors_spec a.sensorScan
          ⟨k.cameraCount a.cameraScan, t, zeroFds a.cameraScan ++ w.fds, true⟩
        constructor
        · rintro ⟨w', hRun, hFds, -⟩
          by_cases hFit : (k.sensors a.sensorScan).length ≤ k.maxNumSensors ∧
              k.cameraCount a.cameraScan ≤ k.maxNumSensors
          · obtain ⟨n, w'', hSome, hLeft, -⟩ := hEnd.1 hFit
            rw [hSome] at hRun
            cases hRun
            rw [hLeft, ← List.append_assoc] at hFds
            have hNil := List.append_eq_nil_iff.mp (List.append_left_eq_self.mp hFds)
            exact ⟨rfl, hNames, hFit.2, hNil.2, hFit.1, hNil.1⟩
          · rw [hEnd.2 hFit] at hRun
            cases hRun
        · rintro ⟨-, -, hCount, hZero, hSensors, hZero'⟩
          obtain ⟨n, w'', hSome, hLeft, hUnlocked⟩ := hEnd.1 ⟨hSensors, hCount⟩
          rw [hZero, hZero'] at hLeft
          exact ⟨w'', by rw [hSome]; rfl, hLeft, hUnlocked⟩
      · rw [hScan.2 hNames]
        constructor
        · rintro ⟨w', hRun, -⟩
          cases hRun
        · rintro ⟨-, hFit, -⟩
          exact absurd hFit hNames

/-- The enumeration releases what it takes and stays within the tables, and the sort keeps the
cameras together. -/
def Consistent (k : KernelHeaders) (a : ProbeAnswers) (devices : List MediaDevice)
    (w : Enumeration) : Prop :=
  Released w ((k.getNumOfCameras a w).map Prod.snd) ∧ Released w (k.getSensorInfo devices w) ∧
    ∀ n ≤ k.maxNumSensors, k.SortsStably w n

theorem sorts_stably (w : Enumeration) (n : Nat) (hn : n ≤ k.maxNumSensors) :
    k.SortsStably w n := by
  intro hFacing
  obtain ⟨t, hSorted, hRows⟩ := k.sortCameraInfo_spec w n (by omega)
  exact ⟨_, hSorted, hRows hFacing (Int.natCast_nonneg n)⟩

theorem enumeration_consistent_iff (k : KernelHeaders) (a : ProbeAnswers)
    (devices : List MediaDevice) (numCam : Int) (tables : CameraTables) (fds : List Nat) :
    k.Consistent a devices ⟨numCam, tables, fds, false⟩ ↔
      k.AnswersFit a ∧ k.SensorsFit devices := by
  rw [Consistent, k.getNumOfCameras_released_iff a _ rfl, k.getSensorInfo_released_iff devices _ rfl]
  constructor
  · rintro ⟨hAnswers, hSensors, -⟩
    exact ⟨hAnswers, hSensors⟩
  · rintro ⟨hAnswers, hSensors⟩
    exact ⟨hAnswers, hSensors, k.sorts_stably _⟩

/-- No media device answers, and the sensor-init subdevice cannot be opened. -/
theorem lock_held_without_subdevice :
    ¬ ∀ (k : KernelHeaders) (a : ProbeAnswers) (devices : List MediaDevice) (numCam : Int)
      (tables : CameraTables) (fds : List Nat),
      k.Consistent a devices ⟨numCam, tables, fds, false⟩ := by
  intro hClaim
  obtain ⟨⟨w, hRun, -, hLocked⟩, -⟩ := hClaim
    { maxNumSensors := 5, configurationName := "msm_config", cameraName := "msm_camera"
      subdevType := 0x20000, devnodeType := 0x10001, sensorGroup := 3, sensorInitGroup := 14
      vnodeGroup := 2, formatMask := 0x1000000 }
    { decrypt := 0, initScan := [], unsetName := "", openSubdev := fun _ => none, cameraScan := []
      sensorScan := [] } [] 0 {} []
  cases hRun
  cases hLocked

end KernelHeaders

end KiwiDevice.Camera

import Mathlib.Logic.Function.Basic

/-!
# Camera enumeration

`get_num_of_cameras`, `get_sensor_info` and `sort_camera_info`. The answers to a scan are a list:
the devices whose `open` succeeds, each with the entities that can be enumerated; after the last one
the next call fails. A write or read beyond the tables of `g_cam_ctrl` has no result.
-/

namespace KiwiDevice.Camera

structure MediaEntity where
  type : Nat
  groupId : Nat
  flags : UInt32
  name : String
  deriving DecidableEq, Repr

structure MediaDevice where
  fd : Nat
  /-- The model, or `none` if `MEDIA_IOC_DEVICE_INFO` fails. -/
  info : Option String
  entities : List MediaEntity
  deriving DecidableEq, Repr

/-- What the source takes from the headers of the kernel. -/
structure KernelHeaders where
  maxNumSensors : Nat
  configurationName : String
  cameraName : String
  subdevType : Nat
  devnodeType : Nat
  sensorGroup : Nat
  sensorInitGroup : Nat
  vnodeGroup : Nat
  formatMask : UInt32

structure CameraInfo where
  facing : Nat := 0
  orientation : Nat := 0
  deriving DecidableEq, Repr

/-- What the three tables hold for one camera. -/
structure CameraRow where
  info : CameraInfo := {}
  isYuv : Bool := false
  videoDevName : String := ""
  deriving DecidableEq, Repr

structure CameraTables where
  info : Nat → CameraInfo := fun _ => {}
  isYuv : Nat → Bool := fun _ => false
  videoDevName : Nat → String := fun _ => ""

/-- `g_cam_ctrl` without the camera objects, the open descriptors and `g_intf_lock`. -/
structure Enumeration where
  numCam : Int
  tables : CameraTables
  fds : List Nat
  locked : Bool

structure ProbeAnswers where
  /-- `vold.decrypt` -/
  decrypt : Int
  initScan : List MediaDevice
  /-- What `subdev_name` holds before it is written. -/
  unsetName : String
  openSubdev : String → Option Nat
  cameraScan : List MediaDevice
  sensorScan : List MediaDevice

def facingBack : Nat := 0

def facingFront : Nat := 1

def int8 (n : Int) : Int := (n + 128) % 256 - 128

namespace CameraTables

def row (t : CameraTables) (i : Nat) : CameraRow := ⟨t.info i, t.isYuv i, t.videoDevName i⟩

def rows (t : CameraTables) (n : Nat) : List CameraRow := (List.range n).map t.row

def put (t : CameraTables) (i : Nat) (r : CameraRow) : CameraTables where
  info := Function.update t.info i r.info
  isYuv := Function.update t.isYuv i r.isYuv
  videoDevName := Function.update t.videoDevName i r.videoDevName

def setSensor (t : CameraTables) (i : Nat) (info : CameraInfo) (isYuv : Bool) : CameraTables :=
  { t with info := Function.update t.info i info, isYuv := Function.update t.isYuv i isYuv }

def setName (t : CameraTables) (i : Nat) (name : String) : CameraTables :=
  { t with videoDevName := Function.update t.videoDevName i name }

end CameraTables

namespace Enumeration

variable (w : Enumeration)

def openFd (fd : Nat) : Enumeration := { w with fds := fd :: w.fds }

def closeFd (fd : Nat) : Enumeration := { w with fds := w.fds.erase fd }

end Enumeration

namespace KernelHeaders

variable (k : KernelHeaders)

def isSensorInit (e : MediaEntity) : Bool := e.type = k.subdevType ∧ e.groupId = k.sensorInitGroup

def isVideoNode (e : MediaEntity) : Bool := e.type = k.devnodeType ∧ e.groupId = k.vnodeGroup

def isSensor (e : MediaEntity) : Bool := e.type = k.subdevType ∧ e.groupId = k.sensorGroup

/-- The first scan of `get_num_of_cameras`, for the name of the sensor-init subdevice. -/
def scanSensorInit : List MediaDevice → String → Enumeration → String × Enumeration
  | [], name, w => (name, w)
  | d :: ds, name, w =>
    let w := w.openFd d.fd
    match d.info with
    | none => (name, w.closeFd d.fd)
    | some model =>
      if model ≠ "msm_config" then scanSensorInit ds name (w.closeFd d.fd)
      else
        match d.entities.find? k.isSensorInit with
        | none => scanSensorInit ds name (w.closeFd d.fd)
        | some e =>
          scanSensorInit ds (String.ofList (("/dev/" ++ e.name).toList.take 31)) (w.closeFd d.fd)

/-- The second scan of `get_num_of_cameras`. -/
def scanCameras : List MediaDevice → Int → Enumeration → Option (Int × Enumeration)
  | [], numCameras, w => some (numCameras, w)
  | d :: ds, numCameras, w =>
    let w := w.openFd d.fd
    -- a descriptor 0 ends the scan as a failed open does
    if d.fd = 0 then some (numCameras, w)
    else
      match d.info with
      | none => some (0, w.closeFd d.fd)
      | some model =>
        if model ≠ k.cameraName then scanCameras ds numCameras (w.closeFd d.fd)
        else
          match d.entities.find? k.isVideoNode with
          | none => scanCameras ds (int8 (numCameras + 1)) (w.closeFd d.fd)
          | some e =>
            if 0 ≤ numCameras ∧ numCameras < k.maxNumSensors then
              let w := { w with tables := w.tables.setName numCameras.toNat e.name }
              scanCameras ds (int8 (numCameras + 1)) (w.closeFd d.fd)
            else none

/-- The entity loop of `get_sensor_info`. -/
def enumSensors : List MediaEntity → Nat → CameraTables → Option (Nat × CameraTables)
  | [], numCameras, t => some (numCameras, t)
  | e :: es, numCameras, t =>
    if k.isSensor e then
      if numCameras < k.maxNumSensors then
        let temp := e.flags >>> 8
        let info : CameraInfo :=
          { facing := ((temp &&& 0xFF00) >>> 8).toNat
            orientation := ((temp &&& 0xFF) * 90).toNat }
        enumSensors es (numCameras + 1)
          (t.setSensor numCameras info (e.flags &&& k.formatMask != 0))
      else none
    else enumSensors es numCameras t

def scanSensors : List MediaDevice → Nat → Enumeration → Option Enumeration
  | [], _, w => some w
  | d :: ds, numCameras, w =>
    let w := w.openFd d.fd
    if d.fd = 0 then some w
    else
      match d.info with
      | none => some (w.closeFd d.fd)
      | some model =>
        if model ≠ k.configurationName then scanSensors ds numCameras (w.closeFd d.fd)
        else
          (k.enumSensors d.entities numCameras w.tables).bind fun found =>
            scanSensors ds found.1 ({ w with tables := found.2 }.closeFd d.fd)

def getSensorInfo (devices : List MediaDevice) (w : Enumeration) : Option Enumeration :=
  k.scanSensors devices 0 w

/-- The temporary tables of `sort_camera_info` and the number of rows in them. -/
structure SortTemp where
  tables : CameraTables := {}
  idx : Nat := 0

/-- One of the two loops of `sort_camera_info`, over `n` cameras from `i` on. -/
def saveFacing (t : CameraTables) (facing : Nat) : Nat → Nat → SortTemp → Option SortTemp
  | 0, _, temp => some temp
  | n + 1, i, temp =>
    if i < k.maxNumSensors then
      if (t.info i).facing = facing then
        if temp.idx < k.maxNumSensors then
          saveFacing t facing n (i + 1) ⟨temp.tables.put temp.idx (t.row i), temp.idx + 1⟩
        else none
      else saveFacing t facing n (i + 1) temp
    else none

def sortCameraInfo (numCam : Int) (w : Enumeration) : Option Enumeration := do
  let back ← k.saveFacing w.tables facingBack numCam.toNat 0 {}
  let sorted ← k.saveFacing w.tables facingFront numCam.toNat 0 back
  if sorted.idx = numCam then some { w with tables := sorted.tables } else some w

def getNumOfCameras (a : ProbeAnswers) (w : Enumeration) : Option (Int × Enumeration) :=
  if a.decrypt = 1 then some (0, w)
  else
    let scanned := k.scanSensorInit a.initScan a.unsetName { w with locked := true }
    match a.openSubdev scanned.1 with
    | none => some (0, scanned.2)
    | some sd => do
      let w := (scanned.2.openFd sd).closeFd sd
      let found ← k.scanCameras a.cameraScan 0 w
      let w ← k.getSensorInfo a.sensorScan { found.2 with numCam := found.1 }
      let w ← k.sortCameraInfo w.numCam w
      some (w.numCam % 256, { w with locked := false })

end KernelHeaders

end KiwiDevice.Camera

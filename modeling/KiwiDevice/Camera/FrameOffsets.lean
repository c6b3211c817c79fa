import KiwiDevice.Camera.Types
import Mathlib.Logic.Function.Basic

/-!
# Plane layouts

`mm_stream_calc_offset` and what it calls for each type of stream. An `int` has 32 bits and wraps
around.
-/

namespace KiwiDevice.Camera

abbrev Word := BitVec 32

/-- `PAD_TO_SIZE` -/
def padToSize (size padding : Word) : Word := (size + (padding - 1)) &&& ~~~(padding - 1)

inductive BayerKind where
  | qcom8 | qcom10 | qcom12 | qcom14 | mipi8 | mipi10 | mipi12 | mipi14
  | idealQcom8 | idealQcom10 | idealQcom12 | idealQcom14
  | idealMipi8 | idealMipi10 | idealMipi12 | idealMipi14
  | idealPlain8 | idealPlain16Of8 | idealPlain16Of10 | idealPlain16Of12 | idealPlain16Of14
  deriving DecidableEq, Repr

inductive BayerPattern where
  | gbrg | grbg | rggb | bggr
  deriving DecidableEq, Repr

inductive YuvOrder where
  | yuyv | yvyu | uyvy | vyuy
  deriving DecidableEq, Repr

/-- `cam_format_t` -/
inductive CamFormat where
  | jpeg
  | yuv420Nv12
  | yuv420Nv21
  | yuv420Nv21Adreno
  | yuv420Yv12
  | yuv422Nv16
  | yuv422Nv61
  | yuv420Nv12Venus
  | yuvRaw8Bit (order : YuvOrder)
  | bayer (kind : BayerKind) (pattern : BayerPattern)
  | jpegRaw8Bit
  | metaRaw8Bit
  | metaRaw10Bit
  | max
  deriving DecidableEq, Repr

structure CamDimension where
  width : Word
  height : Word
  deriving DecidableEq, Repr

structure PaddingInfo where
  widthPadding : Word
  heightPadding : Word
  planePadding : Word

/-- `cam_mp_len_offset_t` -/
structure MpLenOffset where
  len : Word
  offset : Word := 0
  offsetX : Word := 0
  offsetY : Word := 0
  stride : Word
  scanline : Word
  width : Word
  height : Word
  deriving DecidableEq, Repr

/-- `cam_frame_len_offset_t`, with `VIDEO_MAX_PLANES` planes. -/
structure FrameLenOffset where
  numPlanes : Nat
  few : numPlanes ≤ 8
  mp : Nat → MpLenOffset
  frameLen : Word

/-- The macros of the Venus hardware for NV12. -/
structure Venus where
  yStride : Word → Word
  yScanlines : Word → Word
  uvStride : Word → Word
  uvScanlines : Word → Word
  bufferSize : Word → Word → Word

/-- How the library was built: `USE_A_FAMILY` and `VENUS_PRESENT`. -/
structure BuildFlags where
  isAFamily : Bool
  venus : Option Venus

def featureRotation : Word := 1 <<< 3
def featureTrueportrait : Word := 1 <<< 17

/-- The source of a reprocess stream. -/
inductive ReprocessSource where
  | online (inputStreamType : CamStreamType)
  | offline (inputType : CamStreamType) (inputBufPlanes : FrameLenOffset)

/-- `cam_stream_info_t`, as far as the layouts read it. -/
structure LayoutInfo where
  streamType : CamStreamType
  fmt : CamFormat
  dim : CamDimension
  featureMask : Word
  /-- `ROTATE_90` or `ROTATE_270` -/
  turned : Bool
  reprocess : ReprocessSource
  ppFeatureMask : Word
  tpMetaMaxSize : Word
  bufPlanes : FrameLenOffset

namespace FrameLenOffset

variable (o : FrameLenOffset)

/-- The planes that a layout writes; the entries of the others stay as they are. -/
def onePlane (p₀ : MpLenOffset) (frameLen : Word) : FrameLenOffset where
  numPlanes := 1
  few := by decide
  mp := Function.update o.mp 0 p₀
  frameLen := frameLen

def twoPlanes (p₀ p₁ : MpLenOffset) (frameLen : Word) : FrameLenOffset where
  numPlanes := 2
  few := by decide
  mp := Function.update (Function.update o.mp 0 p₀) 1 p₁
  frameLen := frameLen

def threePlanes (p₀ p₁ p₂ : MpLenOffset) (frameLen : Word) : FrameLenOffset where
  numPlanes := 3
  few := by decide
  mp := Function.update (Function.update (Function.update o.mp 0 p₀) 1 p₁) 2 p₂
  frameLen := frameLen

end FrameLenOffset

def planeOf (stride scanline width height : Word) : MpLenOffset :=
  { len := stride * scanline, stride, scanline, width, height }

variable (b : BuildFlags) (s : LayoutInfo) (dim : CamDimension) (padding : PaddingInfo)
  (o : FrameLenOffset)

/-! ## Preview and postview -/

def nv12Layout (widthPadding heightPadding : Word) : FrameLenOffset :=
  let stride := padToSize dim.width widthPadding
  let p₀ := planeOf stride (padToSize dim.height heightPadding) dim.width dim.height
  let p₁ := planeOf stride (padToSize (dim.height.sdiv 2) heightPadding) dim.width (dim.height.sdiv 2)
  o.twoPlanes p₀ p₁ (padToSize (p₀.len + p₁.len) 4096)

def adrenoLayout : FrameLenOffset :=
  let q₀ := planeOf (padToSize dim.width 32) (padToSize dim.height 32) dim.width dim.height
  let q₁ := planeOf (padToSize (dim.width.sdiv 2) 32 * 2) (padToSize (dim.height.sdiv 2) 32) dim.width
    (dim.height.sdiv 2)
  let p₀ := { q₀ with len := padToSize q₀.len 4096 }
  let p₁ := { q₁ with len := padToSize q₁.len 4096 }
  o.twoPlanes p₀ p₁ (padToSize (p₀.len + p₁.len) 4096)

def yv12Layout : FrameLenOffset :=
  let stride := padToSize dim.width 16
  let scanline := padToSize dim.height 2
  let p₀ := planeOf stride scanline dim.width dim.height
  let p₁ := planeOf (padToSize (stride.sdiv 2) 16) (scanline.sdiv 2) (dim.width.sdiv 2) (dim.height.sdiv 2)
  o.threePlanes p₀ p₁ p₁ (padToSize (p₀.len + p₁.len + p₁.len) 4096)

def nv16Layout : FrameLenOffset :=
  let p := planeOf (padToSize dim.width 16) dim.height dim.width dim.height
  o.twoPlanes p p (padToSize (p.len + p.len) 4096)

/-- The second plane is what the first one leaves of the frame. -/
def venusLayout (v : Venus) : FrameLenOffset :=
  let frameLen := v.bufferSize dim.width dim.height
  let p₀ := planeOf (v.yStride dim.width) (v.yScanlines dim.height) dim.width dim.height
  let q₁ := planeOf (v.uvStride dim.width) (v.uvScanlines dim.height) dim.width dim.height
  o.twoPlanes p₀ { q₁ with len := frameLen - p₀.len } frameLen

def calcOffsetPreview : Int × FrameLenOffset :=
  match s.fmt with
  | .yuv420Nv12 | .yuv420Nv21 =>
    if s.streamType ≠ .offlineProc then (0, nv12Layout dim o 32 2)
    else (0, nv12Layout dim o padding.widthPadding padding.heightPadding)
  | .yuv420Nv21Adreno => (0, adrenoLayout dim o)
  | .yuv420Yv12 => (0, yv12Layout dim o)
  | .yuv422Nv16 | .yuv422Nv61 => (0, nv16Layout dim o)
  | .yuv420Nv12Venus =>
    match b.venus with
    | some v => (0, venusLayout dim o v)
    | none => (-1, o)
  | _ => (-1, o)

def calcOffsetPostView : Int × FrameLenOffset :=
  match s.fmt with
  | .yuv420Nv12 | .yuv420Nv21 => (0, nv12Layout dim o 64 64)
  | .yuv420Nv21Adreno => (0, adrenoLayout dim o)
  | .yuv420Yv12 => (0, yv12Layout dim o)
  | .yuv422Nv16 | .yuv422Nv61 => (0, nv16Layout dim o)
  | .yuv420Nv12Venus =>
    match b.venus with
    | some v => (0, venusLayout dim o v)
    | none => (-1, o)
  | _ => (-1, o)

/-! ## Snapshot -/

/-- A plane whose length and offset are padded. -/
def snapshotPlane (offsetX offsetY stride scanline width height : Word) : MpLenOffset where
  len := padToSize (stride * scanline) padding.planePadding
  offset := padToSize (offsetX + stride * offsetY) padding.planePadding
  offsetX := offsetX
  offsetY := offsetY
  stride := stride
  scanline := scanline
  width := width
  height := height

/-- The memory that the backend asks for with a picture of this feature. -/
def truePortraitExtra :
    Word := if s.ppFeatureMask &&& featureTrueportrait ≠ 0 then s.tpMetaMaxSize else 0

def calcOffsetSnapshot : Int × FrameLenOffset :=
  let offsetX := 0
  let padded := padToSize dim.height 16
  let offsetY := if b.isAFamily then padded - dim.height else 0
  let stride := if b.isAFamily then dim.width else padToSize dim.width padding.widthPadding
  let scanline :=
    if b.isAFamily then padded + offsetY else padToSize dim.height padding.heightPadding
  let p₀ := snapshotPlane padding offsetX offsetY stride scanline dim.width dim.height
  match s.fmt with
  | .yuv420Nv12 | .yuv420Nv21 =>
    let p₁ := snapshotPlane padding offsetX offsetY stride (scanline.sdiv 2) dim.width (dim.height.sdiv 2)
    (0, o.twoPlanes p₀ p₁ (padToSize (p₀.len + p₁.len + truePortraitExtra s) 4096))
  | .yuv420Yv12 =>
    let p₁ := snapshotPlane padding offsetX offsetY (padToSize (stride.sdiv 2) 16) (scanline.sdiv 2)
      (dim.width.sdiv 2) (dim.height.sdiv 2)
    (0, o.threePlanes p₀ p₁ p₁ (padToSize (p₀.len + p₁.len + p₁.len) 4096))
  | .yuv422Nv16 | .yuv422Nv61 => (0, o.twoPlanes p₀ p₀ (padToSize (p₀.len + p₀.len) 4096))
  | _ => (-1, o)

/-! ## Raw, video and metadata -/

/-- The stride and the bytes of a raw frame, before the padding. -/
def rawSize : Option (Word × Word) :=
  let scanline := dim.height
  match s.fmt with
  | .yuvRaw8Bit _ | .jpegRaw8Bit | .metaRaw8Bit =>
    let stride := padToSize dim.width 16
    some (stride, stride * scanline * 2)
  | .bayer .qcom8 _ | .bayer .mipi8 _ | .bayer .idealQcom8 _ | .bayer .idealMipi8 _
  | .bayer .idealPlain8 _ =>
    let stride := padToSize dim.width 16
    some (stride, stride * scanline)
  | .bayer .qcom10 _ | .bayer .idealQcom10 _ =>
    let stride := (dim.width + 11).sdiv 12 * 12
    some (stride, (stride * scanline * 8).sdiv 6)
  | .bayer .qcom12 _ | .bayer .idealQcom12 _ =>
    let stride := (dim.width + 9).sdiv 10 * 10
    some (stride, (stride * scanline * 8).sdiv 5)
  | .bayer .mipi10 _ | .bayer .idealMipi10 _ =>
    let stride := padToSize ((dim.width * 5).sdiv 4) 8
    some (stride, stride * scanline)
  | .bayer .mipi12 _ | .bayer .idealMipi12 _ =>
    let stride := padToSize dim.width 32
    some (stride, (stride * scanline * 3).sdiv 2)
  | .bayer .idealPlain16Of8 _ | .bayer .idealPlain16Of10 _ | .bayer .idealPlain16Of12 _ =>
    let stride := padToSize dim.width 8
    some (stride, stride * scanline * 2)
  | _ => none

def calcOffsetRaw : Int × FrameLenOffset :=
  match rawSize s dim with
  | some (stride, size) =>
    let len := padToSize size padding.planePadding
    let p := { len, stride, scanline := dim.height, width := len, height := 1 }
    (0, o.onePlane p (padToSize len 4096))
  | none => (-1, o)

/-- Without Venus the size of the second plane is written over that of the first. -/
def calcOffsetVideo : Int × FrameLenOffset :=
  match b.venus with
  | some v => (0, venusLayout dim o v)
  | none =>
    let q₀ := planeOf dim.width dim.height dim.width (dim.height.sdiv 2)
    let q₁ := planeOf dim.width (dim.height.sdiv 2) (o.mp 1).width (o.mp 1).height
    let p₀ := { q₀ with len := padToSize q₀.len 2048 }
    let p₁ := { q₁ with len := padToSize q₁.len 2048 }
    (0, o.twoPlanes p₀ p₁ (padToSize (p₀.len + p₁.len) 4096))

def calcOffsetMetadata : Int × FrameLenOffset :=
  let p := planeOf dim.width dim.height dim.width dim.height
  let len := padToSize p.len padding.planePadding
  (0, o.onePlane { p with len } len)

/-! ## Reprocessing, and all of them -/

/-- The layout of a stream by its type, or by that of the source of a reprocess stream. -/
def calcOffsetByType (type : CamStreamType) : Option (Int × FrameLenOffset) :=
  match type with
  | .preview => some (calcOffsetPreview b s dim padding o)
  | .postview => some (calcOffsetPostView b s dim o)
  | .snapshot => some (calcOffsetSnapshot b s dim padding o)
  | .video => some (calcOffsetVideo b dim o)
  | .raw => some (calcOffsetRaw s dim padding o)
  | .metadata => some (calcOffsetMetadata dim padding o)
  | _ => none

def calcOffsetPostproc : Int × FrameLenOffset :=
  match s.reprocess with
  | .offline .default inputBufPlanes => (0, if o.frameLen = 0 then inputBufPlanes else o)
  | .offline type _ => (calcOffsetByType b s s.dim padding o type).getD (-1, o)
  | .online type => (calcOffsetByType b s s.dim padding o type).getD (-1, o)

def calcOffset : Int × FrameLenOffset :=
  let dim :=
    if s.featureMask &&& featureRotation ≠ 0 ∧ s.streamType ≠ .video ∧ s.turned then
      { width := s.dim.height, height := s.dim.width }
    else s.dim
  match s.streamType with
  | .offlineProc => calcOffsetPostproc b s padding s.bufPlanes
  | type => (calcOffsetByType b s dim padding s.bufPlanes type).getD (-1, s.bufPlanes)

end KiwiDevice.Camera

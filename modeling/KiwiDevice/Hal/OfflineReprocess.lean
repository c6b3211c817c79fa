import KiwiDevice.Lib.Since

/-!
# Offline reprocessing

`QCameraReprocessChannel::doReprocessOffline` and `stop`. A stream is named by its place in
`mStreams`; each call to the backend has its answer as a parameter.
-/

namespace KiwiDevice.Hal

structure CamRect where
  left : Int
  top : Int
  width : Int
  height : Int
  deriving DecidableEq, Repr

/-- `cam_stream_crop_info_t` -/
structure StreamCropInfo where
  streamId : Nat
  crop : CamRect
  deriving DecidableEq, Repr

/-- `mm_camera_buf_def_t`. `buffer` is the crop information behind the pointer of a
metadata buffer. -/
structure OfflineFrameBuf where
  streamId : Nat
  fd : Int
  frameLen : Nat
  frameIdx : Nat
  isUvSubsampled : Nat
  buffer : Option (List StreamCropInfo)
  deriving DecidableEq, Repr

structure SourceStream where
  handle : Nat
  isMetadata : Bool
  serverID : Nat
  deriving DecidableEq, Repr

structure ReprocessStream where
  channelHandle : Nat
  isMetadata : Bool
  deriving DecidableEq, Repr

inductive OfflineBufType where
  | metaBuf | inputBuf
  deriving DecidableEq, Repr

/-- `OfflineBuffer` -/
structure OfflineBuffer where
  stream : Nat
  type : OfflineBufType
  index : Nat
  deriving DecidableEq, Repr

/-- `cam_reprocess_param` -/
structure ReprocessParam where
  bufIndex : Nat
  frameIdx : Nat
  uvUpsample : Nat
  metaPresent : Bool
  metaBufIndex : Nat
  inputCrop : Option CamRect
  deriving DecidableEq, Repr

/-- A call to the backend, with what it returns. -/
inductive OfflineEvent where
  | mapBuf (buf : OfflineBuffer) (fd : Int) (size : Nat) (rc : Int)
  | setParameter (stream : Nat) (param : ReprocessParam) (rc : Int)
  | unmapBuf (buf : OfflineBuffer)
  deriving DecidableEq, Repr

/-- What the backend returns for the buffer of this number in the frame. -/
structure OfflineAnswers where
  metaMap : Nat → Int
  inputMap : Nat → Int
  setParameter : Nat → Int

/-- `mOfflineBuffers` is passed on from call to call. -/
structure QCameraReprocessChannel where
  handle : Nat
  mStreams : List ReprocessStream
  mSrcStreamHandles : Nat → Nat
  pSrcChannel : Option (List SourceStream)

def maxNumStreams : Nat := 8

def getStreamByHandle (src : List SourceStream) (streamHandle : Nat) : Option SourceStream :=
  src.find? (·.handle == streamHandle)

/-- The first buffer of a metadata stream. -/
def findMetaBuf (src : List SourceStream) (bufs : List OfflineFrameBuf) : Option OfflineFrameBuf :=
  bufs.find? fun b => (getStreamByHandle src b.streamId).any (·.isMetadata)

/-- The crop region that the metadata has for the source stream of the buffer. -/
def inputCrop (src : List SourceStream) (metaBuf b : OfflineFrameBuf) : Option CamRect := do
  let info ← metaBuf.buffer
  let srcStream ← getStreamByHandle src b.streamId
  let found ← (info.take maxNumStreams).find? (·.streamId == srcStream.serverID)
  return found.crop

namespace QCameraReprocessChannel

variable (ch : QCameraReprocessChannel)

def badValue : Int := -22

def getStreamBySrouceHandle (srcHandle : Nat) : Option Nat :=
  (List.range ch.mStreams.length).find? fun i => ch.mSrcStreamHandles i == srcHandle

/-- The stream that the buffer is for, unless the loop goes on without it. -/
def streamFor (b : OfflineFrameBuf) : Option Nat :=
  (ch.getStreamBySrouceHandle b.streamId).filter fun i =>
    ch.mStreams[i]?.any fun s => ch.handle == s.channelHandle && !s.isMetadata

/-- One turn of the loop: what is put on `mOfflineBuffers`, the calls and `rc`. -/
def reprocessBuf (src : List SourceStream) (metaBuf : Option OfflineFrameBuf) (r : OfflineAnswers)
    (i : Nat)
    (b : OfflineFrameBuf) (stream : Nat) : List OfflineBuffer × List OfflineEvent × Int :=
  let metaMapping : OfflineBuffer := ⟨stream, .metaBuf, 0⟩
  let inputMapping : OfflineBuffer := ⟨stream, .inputBuf, 1⟩
  let metaEvents := metaBuf.toList.map fun m => .mapBuf metaMapping m.fd m.frameLen (r.metaMap i)
  if metaBuf.isSome ∧ r.metaMap i ≠ 0 then ([], metaEvents, r.metaMap i)
  else
    -- the metadata is put on the list whether it was mapped or not
    let inputEvent := .mapBuf inputMapping b.fd b.frameLen (r.inputMap i)
    if r.inputMap i ≠ 0 then ([metaMapping], metaEvents ++ [inputEvent], r.inputMap i)
    else
      let param : ReprocessParam :=
        { bufIndex := 1
          frameIdx := b.frameIdx
          uvUpsample := b.isUvSubsampled
          metaPresent := metaBuf.isSome
          metaBufIndex := 0
          inputCrop := metaBuf.bind fun m => inputCrop src m b }
      ([metaMapping, inputMapping],
        metaEvents ++ [inputEvent, .setParameter stream param (r.setParameter i)], r.setParameter i)

/-- The loop over the buffers of the frame, from the buffer `i` on. -/
def reprocessLoop (src : List SourceStream) (metaBuf : Option OfflineFrameBuf)
    (r : OfflineAnswers) :
    List OfflineFrameBuf → Nat → Int → List OfflineBuffer →
    List OfflineBuffer × List OfflineEvent × Int
  | [], _, rc, buffers => (buffers, [], rc)
  | b :: rest, i, rc, buffers =>
    match ch.streamFor b with
    | none => reprocessLoop src metaBuf r rest (i + 1) rc buffers
    | some stream =>
      let one := reprocessBuf src metaBuf r i b stream
      if one.2.2 ≠ 0 then (buffers ++ one.1, one.2.1, one.2.2)
      else
        let others := reprocessLoop src metaBuf r rest (i + 1) one.2.2 (buffers ++ one.1)
        (others.1, one.2.1 ++ others.2.1, others.2.2)

def doReprocessOffline (frame : Option (List OfflineFrameBuf)) (r : OfflineAnswers)
    (buffers : List OfflineBuffer) : List OfflineBuffer × List OfflineEvent × Int :=
  if ch.mStreams.length < 1 then (buffers, [], -1)
  else
    match ch.pSrcChannel, frame with
    | none, _ => (buffers, [], -1)
    | some _, none => (buffers, [], badValue)
    | some src, some bufs => ch.reprocessLoop src (findMetaBuf src bufs) r bufs 0 0 buffers

/-- What `stop` does after `QCameraChannel::stop`; the list is cleared. -/
def stop (buffers : List OfflineBuffer) : List OfflineBuffer × List OfflineEvent :=
  ([], buffers.map .unmapBuf)

/-- The calls, and `stop` at the end. -/
def session :
    List (Option (List OfflineFrameBuf) × OfflineAnswers) → List OfflineBuffer → List OfflineEvent
  | [], buffers => (stop buffers).2
  | (frame, r) :: rest, buffers =>
    (ch.doReprocessOffline frame r buffers).2.1 ++
      session rest (ch.doReprocessOffline frame r buffers).1

end QCameraReprocessChannel

/-! ## Mappings that balance -/

/-- The mapping that is made. -/
def OfflineEvent.made : OfflineEvent → Option OfflineBuffer
  | .mapBuf buf _ _ rc => if rc = 0 then some buf else none
  | _ => none

namespace QCameraReprocessChannel

/-- The mapping was made, and no call to unmap it has been made since. -/
def StillMapped (buf : OfflineBuffer) : List OfflineEvent → Prop :=
  Lib.Since (fun _ e => e.made = some buf) (· ≠ .unmapBuf buf)

structure MappingsBalance (es : List OfflineEvent) : Prop where
  balanced : ∀ buf, es.countP (· = .unmapBuf buf) = es.countP (·.made = some buf)
  fresh : Lib.Each (fun before e => ∀ buf, e.made = some buf → ¬ StillMapped buf before) es

end QCameraReprocessChannel

/-! ## The buffers that are reached -/

/-- A buffer of a frame for one of the streams: whether metadata comes with it, and what the backend
returns. -/
structure ReachedBuf where
  stream : Nat
  hasMeta : Bool
  metaRc : Int
  inputRc : Int
  paramRc : Int
  deriving DecidableEq, Repr

def ReachedBuf.failed (v : ReachedBuf) : Bool :=
  v.hasMeta && v.metaRc != 0 || v.inputRc != 0 || v.paramRc != 0

namespace QCameraReprocessChannel

variable (ch : QCameraReprocessChannel)

/-- The buffers for streams of the channel, up to the first one that fails. -/
def reachedFrom (hasMeta : Bool) (r : OfflineAnswers) : List OfflineFrameBuf → Nat → List ReachedBuf
  | [], _ => []
  | b :: rest, i =>
    match ch.streamFor b with
    | none => reachedFrom hasMeta r rest (i + 1)
    | some stream =>
      let v : ReachedBuf := ⟨stream, hasMeta, r.metaMap i, r.inputMap i, r.setParameter i⟩
      if v.failed then [v] else v :: reachedFrom hasMeta r rest (i + 1)

def reachedIn (frame : Option (List OfflineFrameBuf)) (r : OfflineAnswers) : List ReachedBuf :=
  match ch.pSrcChannel, frame with
  | some src, some bufs => ch.reachedFrom (findMetaBuf src bufs).isSome r bufs 0
  | _, _ => []

def reached (calls : List (Option (List OfflineFrameBuf) × OfflineAnswers)) : List ReachedBuf :=
  calls.flatMap fun call => ch.reachedIn call.1 call.2

end QCameraReprocessChannel

end KiwiDevice.Hal

import KiwiDevice.Camera.ChannelSlots
import KiwiDevice.Camera.ChannelStart

/-!
# The channels of a camera object

The channel operations of `mm_camera_ops`, one at a time: the lookup of the handle, the state
machine of the channel, and what the caller does with its answer. A stream is named by its place,
the slot of its channel and its index there.
-/

namespace KiwiDevice.Camera

instance : NeZero channelMax := ⟨by decide⟩

/-- `mm_channel_t` set to zero. -/
def MmChannel.zeroed : MmChannel where
  streams := List.replicate Driver.maxPollEntries {}

/-- A channel with the driver of its streams, whether `ch_lock` is held and whether the poll thread
runs. -/
structure TableSlot where
  channel : MmChannel := .zeroed
  driver : Driver := ⟨fun _ => 0, fun _ => 0⟩
  chLock : Bool := false
  pollThread : Bool := false

/-- `memset` of a channel; what the kernel was asked for is not in it. -/
def TableSlot.memset (s : TableSlot) : TableSlot where
  driver := ⟨s.driver.requested, fun _ => 0⟩

/-- `mm_camera_stream_config_t`. -/
structure StreamConfig where
  streamInfo : StreamInfo
  streamCb : Option Nat := none

/-- `cam_mapping_buf_type`; `regular` is any type that a channel maps only when it is stopped. -/
inductive MappingBufType where
  | regular (type : Nat)
  | offlineInputBuf
  | offlineMetaBuf
  deriving DecidableEq, Repr

/-- The payload of `MAP_STREAM_BUF` and of `UNMAP_STREAM_BUF`. -/
structure MapPayload where
  streamId : Nat
  bufType : MappingBufType
  bufIdx : Nat := 0
  planeIdx : Int := -1
  fd : Int := 0
  size : Nat := 0

/-- `mm_channel_evt_type_t`, with the payloads; a link names the slot of the owner. -/
inductive ChannelEvt where
  | addStream
  | linkStream (owner : Fin channelMax) (streamId : Nat)
  | delStream (streamId : Nat)
  | configStream (streamId : Nat) (config : StreamConfig)
  | start
  | stop
  | delete
  | mapStreamBuf (payload : MapPayload)
  | unmapStreamBuf (payload : MapPayload)

/-- The channel operations of `mm_camera_ops`, by handles. -/
inductive ChannelOp where
  | addChannel (p : ChannelParams)
  | delChannel (chId : Nat)
  | startChannel (chId : Nat)
  | stopChannel (chId : Nat)
  | addStream (chId : Nat)
  | linkStream (chId streamId linkedChId : Nat)
  | configStream (chId streamId : Nat) (config : StreamConfig)
  | delStream (chId streamId : Nat)
  | mapStreamBuf (chId : Nat) (payload : MapPayload)
  | unmapStreamBuf (chId : Nat) (payload : MapPayload)

inductive Answer where
  | status (rc : Int)
  | handle (hdl : Nat)
  deriving DecidableEq, Repr

/-- A negative status, or no handle. -/
def Answer.Failure : Answer → Prop
  | .status rc => rc < 0
  | .handle hdl => hdl = 0

/-- The answers of the outside to one operation. `acquired` is the stream id of the server, when the
device opens, `configRc` the status of the synchronisation and of the format, `sendRc` that of a map
or unmap message. -/
structure OpResults where
  pollThread : Bool := true
  acquired : Option Nat := some 0
  configRc : Int := 0
  sendRc : Int := 0
  channel : ChannelResults

namespace MmStream

/-- `SET_FMT` of `mm_stream_fsm_fn`, with `mm_stream_config`. -/
def setFmt (s : MmStream) (config : StreamConfig) (rc : Int) : MmStream × Int :=
  match s.state with
  | .acquired | .cfg =>
    ({ s with
        streamInfo := some config.streamInfo
        bufNum := config.streamInfo.numBufs % 256
        bufCb := config.streamCb.map (⟨·, -1⟩) :: s.bufCb.tail
        state := .cfg }, rc)
  | .notused => (s, -1)
  | _ => (s, 0)

/-- `RELEASE` of `mm_stream_fsm_fn`. -/
def release (s : MmStream) : MmStream × Int :=
  match s.state with
  | .acquired | .cfg => ({}, 0)
  | .notused => (s, -1)
  | _ => (s, 0)

end MmStream

/-- `ch` are the channels of the camera object; the history count of the handles is shared with the
other objects. -/
structure CameraTable where
  camLock : Bool := false
  ch : Fin channelMax → TableSlot := fun _ => {}
  historyCount : Nat := 0

namespace CameraTable

variable (w : CameraTable)

def setSlot (i : Fin channelMax) (s : TableSlot) : CameraTable :=
  { w with ch := Function.update w.ch i s }

@[simp] theorem setSlot_same (i : Fin channelMax) (s : TableSlot) : (w.setSlot i s).ch i = s :=
  Function.update_self ..

theorem setSlot_of_ne {i j : Fin channelMax} (h : j ≠ i) (s : TableSlot) :
    (w.setSlot i s).ch j = w.ch j := Function.update_of_ne h ..

def setChannel (i : Fin channelMax) (c : MmChannel) : CameraTable :=
  w.setSlot i { w.ch i with channel := c }

def setStream (i : Fin channelMax) (k : Nat) (s : MmStream) : CameraTable :=
  w.setChannel i { (w.ch i).channel with streams := (w.ch i).channel.streams.set k s }

/-- The place of a stream. -/
def place (i : Fin channelMax) (k : Nat) : Nat := i * Driver.maxPollEntries + k

def placeSlot (p : Nat) : Fin channelMax := Fin.ofNat channelMax (p / Driver.maxPollEntries)

def placeIdx (p : Nat) : Nat := p % Driver.maxPollEntries

def freeSlot : Option (Fin channelMax) :=
  (List.finRange channelMax).find? fun i => (w.ch i).channel.state = .notused

/-- `mm_camera_util_get_channel_by_handler`. -/
def utilGetChannelByHandler (handler : Nat) : Option (Fin channelMax) :=
  (List.finRange channelMax).find? fun i => handler = (w.ch i).channel.myHdl

/-- The channel with the streams of the others, as its start and its stop see them. -/
def view (i : Fin channelMax) : ChannelWorld where
  ch := (w.ch i).channel
  driver := (w.ch i).driver
  linked p :=
    let s := w.ch (placeSlot p)
    ((s.channel.streams[placeIdx p]?).getD {}, s.driver)

/-- The other channel `j` after a start or a stop: a stream may be linked or fed, and its entry of
the poll thread is the one of its index. -/
def borrowed (j : Fin channelMax) (cw : ChannelWorld) : TableSlot :=
  let s := w.ch j
  { s with
    channel := { s.channel with
      streams := s.channel.streams.mapIdx fun k _ => (cw.linked (place j k)).1 }
    driver := { s.driver with
      pollEntries := fun k =>
        if k < Driver.maxPollEntries then (cw.linked (place j k)).2.pollEntries k
        else s.driver.pollEntries k } }

/-- The channels after a start or a stop of one of them. -/
def update (i : Fin channelMax) (cw : ChannelWorld) : CameraTable :=
  { w with ch := fun j =>
      if j = i then { w.ch i with channel := cw.ch, driver := cw.driver } else w.borrowed j cw }

/-- `mm_channel_add_stream`. -/
def channelAddStream (i : Fin channelMax) (r : OpResults) : CameraTable × Nat :=
  match (w.ch i).channel.streams.findIdx? fun s => s.state = .notused with
  | none => (w, 0)
  | some k =>
    let count := Jpeg.nextHistoryCount w.historyCount
    let hdl := utilGenerateHandler count k
    let w := { w with historyCount := count }
    match r.acquired with
    | none => (w.setStream i k {}, 0)
    | some serverStreamId =>
      (w.setStream i k {
        myHdl := hdl
        chObj := some (w.ch i).channel.myHdl
        serverStreamId
        state := .acquired }, hdl)

/-- `mm_channel_link_stream`. -/
def channelLinkStream (i owner : Fin channelMax) (streamId : Nat) : CameraTable × Nat :=
  let own := (w.ch owner).channel
  match own.utilGetStreamSlot streamId with
  | none => (w, 0)
  | some k =>
    match own.streams[k]?, (w.ch i).channel.streams.findIdx? fun s => s.state = .notused with
    | some stream, some free =>
      (w.setStream i free { stream with linkedStream := some (place owner k) }, stream.myHdl)
    | _, _ => (w, 0)

/-- `mm_channel_del_stream`; a borrowed stream is only unlinked. -/
def channelDelStream (i : Fin channelMax) (streamId : Nat) : Option (CameraTable × Int) :=
  let c := (w.ch i).channel
  match c.utilGetStreamSlot streamId with
  | none => some (w, -1)
  | some k =>
    match c.streams[k]? with
    | none => some (w, -1)
    | some s =>
      if c.isOwn s then some (w.setStream i k s.release.1, s.release.2)
      else
        match s.linkedStream with
        | none => none
        | some p =>
          let linked := ((w.ch (placeSlot p)).channel.streams[placeIdx p]?).getD {}
          let unlinked := { linked with isLinked := false, linkedObj := none }
          some ((w.setStream (placeSlot p) (placeIdx p) unlinked).setStream i k {}, 0)

/-- `mm_channel_config_stream`. -/
def channelConfigStream (i : Fin channelMax) (streamId : Nat) (config : StreamConfig)
    (r : OpResults) : CameraTable × Int :=
  let c := (w.ch i).channel
  match c.utilGetStreamSlot streamId with
  | none => (w, -1)
  | some k =>
    match c.streams[k]? with
    | none => (w, -1)
    | some s =>
      if c.isOwn s then
        let done := s.setFmt config r.configRc
        (w.setStream i k done.1, done.2)
      else (w, 0)

/-- `mm_channel_map_stream_buf`, and `mm_channel_unmap_stream_buf`: a message to the server. -/
def channelMapStreamBuf (i : Fin channelMax) (payload : MapPayload) (r : OpResults) : Int :=
  let c := (w.ch i).channel
  match c.utilGetStreamByHandler payload.streamId with
  | none => -1
  | some s => if c.isOwn s then r.sendRc else 0

/-- `mm_channel_release`. -/
def channelRelease (i : Fin channelMax) : CameraTable :=
  w.setSlot i { w.ch i with
    pollThread := false
    channel := { (w.ch i).channel with state := .notused } }

/-- `mm_channel_fsm_fn_stopped`; the last number is what is written to `out_val`. -/
def channelFsmFnStopped (i : Fin channelMax) (r : OpResults) :
    ChannelEvt → Option (CameraTable × Int × Nat)
  | .addStream =>
    let added := w.channelAddStream i r
    some (added.1, 0, added.2)
  | .linkStream owner streamId =>
    let linked := w.channelLinkStream i owner streamId
    some (linked.1, 0, linked.2)
  | .delStream streamId => (w.channelDelStream i streamId).map fun deleted => (deleted.1, deleted.2, 0)
  | .start =>
    match (w.view i).fsmStoppedStart r.channel with
    | .error _ => none
    | .ok started => some (w.update i started.1, if started.2 then 0 else -1, 0)
  | .configStream streamId config =>
    let configured := w.channelConfigStream i streamId config r
    some (configured.1, configured.2, 0)
  | .delete => some (w.channelRelease i, 0, 0)
  | .mapStreamBuf payload | .unmapStreamBuf payload =>
    some (w, w.channelMapStreamBuf i payload r, 0)
  | .stop => some (w, 0, 0)

/-- The `MAP_STREAM_BUF` and `UNMAP_STREAM_BUF` cases of `mm_channel_fsm_fn_active`. -/
def activeMap (i : Fin channelMax) (payload : MapPayload) (r : OpResults) : Int :=
  match payload.bufType with
  | .offlineInputBuf | .offlineMetaBuf => w.channelMapStreamBuf i payload r
  | .regular _ => 0

/-- `mm_channel_fsm_fn_active`: an event without a case is answered with the preset 0. -/
def channelFsmFnActive (i : Fin channelMax) (r : OpResults) :
    ChannelEvt → Option (CameraTable × Int × Nat)
  | .stop =>
    match (w.view i).stop r.channel with
    | .error _ => none
    | .ok stopped =>
      some (w.update i { stopped with ch := { stopped.ch with state := .stopped } }, 0, 0)
  | .mapStreamBuf payload | .unmapStreamBuf payload => some (w, w.activeMap i payload r, 0)
  | _ => some (w, 0, 0)

/-- `mm_channel_fsm_fn` up to the release of `ch_lock`. -/
def channelFsm (i : Fin channelMax) (evt : ChannelEvt) (r : OpResults) :
    Option (CameraTable × Int × Nat) :=
  match (w.ch i).channel.state with
  | .notused => some (w, -1, 0)
  | .stopped => w.channelFsmFnStopped i r evt
  | .active => w.channelFsmFnActive i r evt
  | .paused => some (w, 0, 0)

/-- `ch_lock` is taken and `cam_lock` given back. -/
def handOver (i : Fin channelMax) : CameraTable :=
  { w.setSlot i { w.ch i with chLock := true } with camLock := false }

def unlockChannel (i : Fin channelMax) : CameraTable := w.setSlot i { w.ch i with chLock := false }

/-- `mm_channel_fsm_fn` for a caller that has `cam_lock`; `none` when it does not return. -/
def channelFsmFn (i : Fin channelMax) (evt : ChannelEvt) (r : OpResults) :
    Option (CameraTable × Int × Nat) :=
  if (w.ch i).chLock then none
  else ((w.handOver i).channelFsm i evt r).map fun done => (done.1.unlockChannel i, done.2)

/-- An operation that gives the status of the state machine, and `rc` for an unknown handle. -/
def statusOp (chId : Nat) (rc : Int) (evt : ChannelEvt) (r : OpResults) :
    Option (CameraTable × Answer) :=
  match w.utilGetChannelByHandler chId with
  | none => some ({ w with camLock := false }, .status rc)
  | some i => (w.channelFsmFn i evt r).map fun done => (done.1, .status done.2.1)

def addChannel (p : ChannelParams) (r : OpResults) : CameraTable × Answer :=
  match w.freeSlot with
  | none => ({ w with camLock := false }, .handle 0)
  | some i =>
    let count := Jpeg.nextHistoryCount w.historyCount
    let hdl := utilGenerateHandler count i
    let slot := (w.ch i).memset
    ({ w.setSlot i { slot with
        channel := { (ChannelSlot.init hdl p).channel with streams := MmChannel.zeroed.streams }
        pollThread := r.pollThread } with
      historyCount := count
      camLock := false }, .handle hdl)

/-- The channel is set to zero, whatever the state machine answers. -/
def delChannel (chId : Nat) (r : OpResults) : Option (CameraTable × Answer) :=
  match w.utilGetChannelByHandler chId with
  | none => some ({ w with camLock := false }, .status (-1))
  | some i =>
    (w.channelFsmFn i .delete r).map fun done =>
      (done.1.setSlot i (done.1.ch i).memset, .status done.2.1)

def addStream (chId : Nat) (r : OpResults) : Option (CameraTable × Answer) :=
  match w.utilGetChannelByHandler chId with
  | none => some ({ w with camLock := false }, .handle 0)
  | some i => (w.channelFsmFn i .addStream r).map fun done => (done.1, .handle done.2.2)

def linkStream (chId streamId linkedChId : Nat) (r : OpResults) : Option (CameraTable × Answer) :=
  match w.utilGetChannelByHandler linkedChId, w.utilGetChannelByHandler chId with
  | some i, some owner =>
    (w.channelFsmFn i (.linkStream owner streamId) r).map fun done => (done.1, .handle done.2.2)
  | _, _ => some ({ w with camLock := false }, .handle 0)

/-- An operation with `cam_lock` held. -/
def run (r : OpResults) : ChannelOp → Option (CameraTable × Answer)
  | .addChannel p => some (w.addChannel p r)
  | .delChannel chId => w.delChannel chId r
  | .startChannel chId => w.statusOp chId (-1) .start r
  | .stopChannel chId => w.statusOp chId 0 .stop r
  | .addStream chId => w.addStream chId r
  | .linkStream chId streamId linkedChId => w.linkStream chId streamId linkedChId r
  | .configStream chId streamId config => w.statusOp chId (-1) (.configStream streamId config) r
  | .delStream chId streamId => w.statusOp chId (-1) (.delStream streamId) r
  | .mapStreamBuf chId payload => w.statusOp chId (-1) (.mapStreamBuf payload) r
  | .unmapStreamBuf chId payload => w.statusOp chId (-1) (.unmapStreamBuf payload) r

/-- `mm_camera_intf_*`: the operation of a client that gets `cam_lock`. -/
def call (op : ChannelOp) (r : OpResults) : Option (CameraTable × Answer) :=
  if w.camLock then none else { w with camLock := true }.run r op

/-- An operation, or work of the threads of an active channel, which leave its state and
its handle. -/
inductive Input where
  | op (op : ChannelOp) (r : OpResults)
  | threads (i : Fin channelMax) (c : MmChannel)

def step (w : CameraTable) : Input → Option (CameraTable × List Answer)
  | .op op r => (w.call op r).map fun done => (done.1, [done.2])
  | .threads i c =>
    if (w.ch i).channel.state = .active then
      some (w.setChannel i { c with state := .active, myHdl := (w.ch i).channel.myHdl }, [])
    else none

def Next (w : CameraTable) (i : Input) (answers : List Answer) (w' : CameraTable) : Prop :=
  w.step i = some (w', answers)

end CameraTable

end KiwiDevice.Camera

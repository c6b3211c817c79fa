import KiwiDevice.Camera.ProcessStreamBuf

/-!
# The bundle of a channel at start and stop

Which streams `mm_channel_start` and `mm_channel_stop` go through and in which order, and what they
do to the bundle. A stream object is named by its slot in the channel.
-/

namespace KiwiDevice.Camera

namespace ChannelQueue

/-- `mm_channel_superbuf_queue_init`. -/
def superbufQueueInit (q : ChannelQueue) : ChannelQueue := { q with nodes := [], size := 0 }

/-- `mm_channel_superbuf_queue_deinit`: the nodes are freed with whatever they hold. -/
def superbufQueueDeinit (q : ChannelQueue) : ChannelQueue := { q with nodes := [], size := 0 }

end ChannelQueue

namespace MmChannel

/-- The slot that `mm_channel_util_get_stream_by_handler` finds. -/
def utilGetStreamSlot (ch : MmChannel) (handler : Nat) : Option Nat :=
  ch.streams.findIdx? fun s => s.state ≠ .notused ∧ handler = s.myHdl

/-- The stream objects collected from these slots on. -/
def collectStreams (ch : MmChannel) : List MmStream → Except Fault (List Nat)
  | [] => .ok []
  | s :: rest =>
    if s.myHdl > 0 then
      match ch.utilGetStreamSlot s.myHdl with
      | none => collectStreams ch rest
      | some k =>
        match (ch.streams[k]?).bind MmStream.streamInfo with
        | none => .error .nullDereference
        | some _ =>
          match collectStreams ch rest with
          | .error fault => .error fault
          | .ok sObjs => .ok (k :: sObjs)
    else collectStreams ch rest

/-- A stream of the channel itself, not one linked to it. -/
def isOwn (ch : MmChannel) (s : MmStream) : Bool := s.chObj == some ch.myHdl

/-- The stream object is the channel's own metadata stream. -/
def isOwnMetadata (ch : MmChannel) (k : Nat) : Bool :=
  match ch.streams[k]? with
  | none => false
  | some s => ch.isOwn s && s.streamInfo.any fun info => info.streamType == .metadata

/-- `meta_stream_idx`: the position of the last own metadata stream, else 0. -/
def metaStreamIdx (ch : MmChannel) (sObjs : List Nat) : Nat :=
  (sObjs.zipIdx.filter fun p => ch.isOwnMetadata p.1).getLast?.elim 0 Prod.snd

/-- The switch of two stream objects. -/
def switch (sObjs : List Nat) (i j : Nat) : List Nat :=
  match sObjs[i]?, sObjs[j]? with
  | some a, some b => (sObjs.set i b).set j a
  | _, _ => sObjs

/-- The start order: the metadata stream first. -/
def startOrder (ch : MmChannel) : Except Fault (List Nat) :=
  match ch.collectStreams ch.streams with
  | .error fault => .error fault
  | .ok sObjs =>
    let metaStreamIdx := ch.metaStreamIdx sObjs
    .ok (if metaStreamIdx > 0 then switch sObjs 0 metaStreamIdx else sObjs)

/-- The stop order: the metadata stream last, the first stream when there is none. -/
def stopOrder (ch : MmChannel) : Except Fault (List Nat) :=
  match ch.collectStreams ch.streams with
  | .error fault => .error fault
  | .ok sObjs =>
    let metaStreamIdx := ch.metaStreamIdx sObjs
    .ok (if metaStreamIdx < sObjs.length - 1 then switch sObjs (sObjs.length - 1) metaStreamIdx
      else sObjs)

/-- Own streams of the start order are marked as bundled. -/
def markBundled (ch : MmChannel) (sObjs : List Nat) : List MmStream :=
  ch.streams.mapIdx fun k s => if k ∈ sObjs ∧ ch.isOwn s then { s with isBundled := true } else s

/-- `mm_channel_start` up to the launch of the threads: with a superbuf callback the queue is
initialised for the streams and the bundle becomes active. -/
def startBundle (ch : MmChannel) (sObjs : List Nat) : MmChannel :=
  if ch.bundle.superBufNotifyCb ≠ none then
    { ch with
      streams := ch.markBundled sObjs
      bundle := { ch.bundle with
        isActive := true
        superbufQueue := { ch.queue.superbufQueueInit with
          bundledStreams := sObjs.filterMap fun k => (ch.streams[k]?).map MmStream.myHdl
          expectedFrameId := 0
          expectedFrameIdWithoutLed := 0 } } }
  else ch

/-- The end of `mm_channel_stop` for an active bundle: the threads are released and the queue is
deinitialised. -/
def releaseBundle (ch : MmChannel) : MmChannel :=
  if ch.bundle.isActive then ch.setQueue ch.queue.superbufQueueDeinit else ch

/-- The end of the error handling in `mm_channel_start`: after the same release the bundle is
cleared. -/
def clearBundle (ch : MmChannel) : MmChannel :=
  if ch.bundle.isActive then { ch with bundle := {} } else ch

end MmChannel

end KiwiDevice.Camera

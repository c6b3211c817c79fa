import KiwiDevice.Camera.SuperbufQueue

/-!
# Frame matching

`mm_channel_handle_metadata` and `mm_channel_superbuf_comp_and_enqueue`: a received buffer is put
into the superbuf of its frame, a superbuf with all buffers releases the older unmatched ones, and
metadata moves the expected frame id. A pointer into the list is the number of nodes before it.
-/

namespace KiwiDevice.Camera

namespace MmChannel

def setExpected (ch : MmChannel) (frameIdx : Nat) : MmChannel :=
  ch.setQueue { ch.queue with expectedFrameId := frameIdx }

/-- `mm_channel_superbuf_flush` on the channel's own queue. -/
def superbufFlush (ch : MmChannel) (camType : CamStreamType) : MmChannel × List Event :=
  let r := ch.queue.superbufFlush camType
  (ch.setQueue r.1, r.2)

/-- `mm_channel_superbuf_flush_matched` on the channel's own queue. -/
def superbufFlushMatched (ch : MmChannel) : MmChannel × List Event :=
  let r := ch.queue.superbufFlushMatched
  (ch.setQueue r.1, r.2)

end MmChannel

/-- `max_future_frame_offset`. -/
def maxFutureFrameOffset : Nat := 100

/-- The search for the snapshot stream; a slot without stream info is dereferenced all the same. -/
def findSnapshot : List MmStream → Except Fault Nat
  | [] => .ok 0
  | s :: rest =>
    match s.streamInfo with
    | none => .error .nullDereference
    | some info => if info.streamType = .snapshot then .ok s.serverStreamId else findSnapshot rest

namespace MetadataInfo

def isCrop1xFound (metadata : MetadataInfo) (snapshotStreamId : Nat) : Bool :=
  metadata.isCropValid &&
    metadata.cropInfo.any fun c => snapshotStreamId == c.streamId && c.left == 0 && c.top == 0

end MetadataInfo

namespace MmChannel

/-- The flush on `is_frame_id_reset`. -/
def resetFrameId (ch : MmChannel) (metadata : MetadataInfo) : MmChannel × List Event :=
  if metadata.isFrameIdReset then
    let r := ch.superbufFlush .default
    (r.1.setExpected 1, r.2)
  else (ch, [])

/-- The branch on `isZoom1xFrameRequested`. -/
def awaitZoom1x (ch : MmChannel) (bufInfo : BufInfo) (isCrop1xFound : Bool) :
    MmChannel × List Event :=
  if isCrop1xFound then
    (({ ch with isZoom1xFrameRequested := false } : MmChannel).setExpected
      (add32 bufInfo.frameIdx 1), [])
  else
    (ch.setExpected (add32 ch.queue.expectedFrameId maxFutureFrameOffset)).superbufFlushMatched

/-- The first chain of tests on the snapshot state and the good frame range. -/
def adjustForSnapshot (ch : MmChannel) (metadata : MetadataInfo) : MmChannel × List Event :=
  if metadata.isPrepSnapshotDoneValid then
    if metadata.prepSnapshotDoneState = .needFutureFrame then
      let r := (ch.setExpected
        (add32 ch.queue.expectedFrameId maxFutureFrameOffset)).superbufFlush .default
      ({ r.1 with needLEDFlash := true }, r.2)
    else ({ ch with needLEDFlash := false }, [])
  else if metadata.isGoodFrameIdxRangeValid then (ch.setExpected metadata.minFrameIdx, [])
  else if ch.bracketingState = .waitGoodFrameIdx then
    let r := ch.superbufFlushMatched
    (r.1.setExpected (add32 r.1.queue.expectedFrameId maxFutureFrameOffset), r.2)
  else (ch, [])

/-- The second chain, on flash bracketing and the good frame range. -/
def adjustForRange (ch : MmChannel) (metadata : MetadataInfo) : MmChannel :=
  if ch.isFlashBracketingEnabled ∧ metadata.isGoodFrameIdxRangeValid then
    ch.setQueue { ch.queue with
      expectedFrameId := metadata.minFrameIdx
      expectedFrameIdWithoutLed := metadata.maxFrameIdx }
  else if metadata.isGoodFrameIdxRangeValid then
    { ch.setExpected metadata.minFrameIdx with bracketingState := .active }
  else ch

/-- `mm_channel_handle_metadata`. -/
def handleMetadata (ch : MmChannel) (bufInfo : BufInfo) :
    Except Fault (Int × MmChannel × List Event) :=
  match ch.utilGetStreamByHandler bufInfo.streamId with
  | none => .ok (-1, ch, [])
  | some streamObj =>
    match streamObj.streamInfo with
    | none => .ok (-1, ch, [])
    | some info =>
      if info.streamType ≠ .metadata then .ok (0, ch, [])
      else
        match bufInfo.buf.buffer with
        | none => .ok (-1, ch, [])
        | some metadata =>
          let reset := ch.resetFrameId metadata
          if metadata.isMetaInvalid then .ok (-1, reset.1, reset.2)
          else if streamObj.chObj ≠ some ch.myHdl then .ok (0, reset.1, reset.2)
          else
            match findSnapshot ch.streams with
            | .error fault => .error fault
            | .ok snapshotStreamId =>
              if metadata.isPrepSnapshotDoneValid ∧ metadata.isGoodFrameIdxRangeValid then
                .ok (-1, reset.1, reset.2)
              else if ch.isZoom1xFrameRequested then
                let r := reset.1.awaitZoom1x bufInfo (metadata.isCrop1xFound snapshotStreamId)
                .ok (0, r.1, reset.2 ++ r.2)
              else
                let r := reset.1.adjustForSnapshot metadata
                .ok (0, r.1.adjustForRange metadata, reset.2 ++ r.2)

/-- A relation that each part of the metadata handling respects, and their sequence, holds from
before to after it. -/
theorem handleMetadata_rel {R : MmChannel → List Event → MmChannel → Prop} {bufInfo : BufInfo}
    (refl : ∀ ch, R ch [] ch)
    (trans : ∀ {ch ch' ch'' : MmChannel} {es es' : List Event}, R ch es ch' → R ch' es' ch'' →
      R ch (es ++ es') ch'')
    (reset : ∀ ch metadata, R ch (resetFrameId ch metadata).2 (resetFrameId ch metadata).1)
    (zoom : ∀ ch found, R ch (awaitZoom1x ch bufInfo found).2 (awaitZoom1x ch bufInfo found).1)
    (snapshot : ∀ ch metadata,
      R ch (adjustForSnapshot ch metadata).2 (adjustForSnapshot ch metadata).1)
    (range : ∀ ch metadata, R ch [] (adjustForRange ch metadata))
    {ch ch' : MmChannel} {rc : Int} {es : List Event}
    (h : ch.handleMetadata bufInfo = .ok (rc, ch', es)) : R ch es ch' := by
  unfold handleMetadata at h
  split at h
  · cases h
    exact refl ch
  · split at h
    · cases h
      exact refl ch
    · split at h
      · cases h
        exact refl ch
      · split at h
        · cases h
          exact refl ch
        · rename_i metadata _
          have hReset := reset ch metadata
          dsimp only at h
          split at h
          · cases h
            exact hReset
          · split at h
            · cases h
              exact hReset
            · split at h
              · cases h
              · split at h
                · cases h
                  exact hReset
                · split at h
                  · cases h
                    exact trans hReset (zoom _ _)
                  · cases h
                    have hAdjusted := trans (snapshot (ch.resetFrameId metadata).1 metadata)
                      (range _ metadata)
                    rw [List.append_nil] at hAdjusted
                    exact trans hReset hAdjusted

end MmChannel

/-- `mm_channel_util_seq_comp_w_rollover`. -/
def utilSeqCompWRollover (v1 v2 : Nat) : Int :=
  if v1 > v2 then 1 else if v1 < v2 then -1 else 0

/-- The locals of the search loop. `foundSuperBuf` also carries the superbuf that was found. -/
structure Search where
  foundSuperBuf : Option (Nat × QueueNode) := none
  unmatchedBundles : Nat := 0
  lastBuf : Option Nat := none
  insertBeforeBuf : Option Nat := none
  deriving DecidableEq, Repr

/-- The search loop from the node at `pos` on. -/
def Search.from (frameIdx : Nat) : Nat → Search → List QueueNode → Search
  | _, st, [] => st
  | pos, st, superBuf :: rest =>
    if superBuf.matched then Search.from frameIdx (pos + 1) st rest
    else if frameIdx = superBuf.frameIdx then { st with foundSuperBuf := some (pos, superBuf) }
    else
      Search.from frameIdx (pos + 1)
        { st with
          unmatchedBundles := (st.unmatchedBundles + 1) % 2 ^ 8
          lastBuf :=
            if st.lastBuf = none ∧ superBuf.frameIdx < frameIdx then some pos else st.lastBuf
          insertBeforeBuf :=
            if st.insertBeforeBuf = none ∧ superBuf.frameIdx > frameIdx then some pos
            else st.insertBeforeBuf }
        rest

namespace QueueNode

/-- The buffer is stored into its entry and `matched` is set anew. -/
def store (node : QueueNode) (bufSIdx : Nat) (bufInfo : BufInfo) : QueueNode :=
  let superBuf := node.superBuf.set bufSIdx (some bufInfo)
  { node with superBuf, matched := superBuf.all fun s => s.frameIdx != 0 }

/-- A zeroed node with the buffer in its entry. -/
def ofBuf (numOfBufs bufSIdx : Nat) (bufInfo : BufInfo) : QueueNode where
  superBuf := (List.replicate numOfBufs none).set bufSIdx (some bufInfo)
  matched := false
  frameIdx := bufInfo.frameIdx

end QueueNode

namespace ChannelQueue

/-- The `n` nodes from `pos` on are taken out, their filled entries given back. -/
def releaseNodes (q : ChannelQueue) (pos n : Nat) : ChannelQueue × List Event :=
  let gone := (q.nodes.drop pos).take n
  ({ q with
      nodes := q.nodes.take pos ++ q.nodes.drop (pos + n)
      size := sub32 q.size gone.length },
    gone.flatMap QueueNode.releaseFilled)

/-- With more unmatched superbufs than allowed the oldest one is released; the place to insert
before is then one node further to the front. -/
def releaseOldest (q : ChannelQueue) (search : Search) : ChannelQueue × Option Nat × List Event :=
  match search.lastBuf with
  | some last =>
    if q.attr.maxUnmatchedFrames.toNat < search.unmatchedBundles then
      let r := q.releaseNodes last 1
      (r.1, search.insertBeforeBuf.map fun pos => if last < pos then pos - 1 else pos, r.2)
    else (q, search.insertBeforeBuf, [])
  | none => (q, search.insertBeforeBuf, [])

/-- The new node goes before `insertBeforeBuf` or to the tail. With a single stream it is matched
at once. -/
def insertNew (q : ChannelQueue) (insertBeforeBuf : Option Nat) (bufSIdx : Nat)
    (bufInfo : BufInfo) : ChannelQueue × List Event :=
  let newBuf := QueueNode.ofBuf q.numStreams bufSIdx bufInfo
  let newBuf := if q.numStreams = 1 then { newBuf with matched := true } else newBuf
  let pos := insertBeforeBuf.getD q.nodes.length
  let q := { q with
    nodes := q.nodes.take pos ++ newBuf :: q.nodes.drop pos
    size := add32 q.size 1 }
  if q.numStreams = 1 then
    ({ q with
        expectedFrameId := add32 bufInfo.frameIdx q.attr.postFrameSkip.toNat
        matchCnt := add32 q.matchCnt 1 },
      [.matched bufInfo.frameIdx])
  else (q, [])

end ChannelQueue

namespace MmChannel

/-- The superbuf of the frame is queued: the buffer joins it. -/
def joinSuperbuf (ch : MmChannel) (search : Search) (pos : Nat) (superBuf : QueueNode)
    (bufSIdx : Nat) (bufInfo : BufInfo) : MmChannel × List Event :=
  let superBuf := superBuf.store bufSIdx bufInfo
  let q := { ch.queue with nodes := ch.queue.nodes.set pos superBuf }
  if superBuf.matched then
    let q := { q with
      expectedFrameId :=
        if ch.isFlashBracketingEnabled then q.expectedFrameIdWithoutLed
        else add32 bufInfo.frameIdx q.attr.postFrameSkip.toNat
      matchCnt := add32 q.matchCnt 1 }
    let r :=
      match search.lastBuf with
      | none => (q, [])
      | some last => q.releaseNodes last (pos - last)
    ({ ch with isFlashBracketingEnabled := false }.setQueue r.1,
      .matched superBuf.frameIdx :: r.2)
  else (ch.setQueue q, [])

/-- The new node is allocated and inserted, or the buffer is given back without memory for it. -/
def enqueueNew (ch : MmChannel) (nodeAlloc : Bool) (q : ChannelQueue)
    (insertBeforeBuf : Option Nat) (bufSIdx : Nat) (bufInfo : BufInfo) : MmChannel × List Event :=
  if nodeAlloc then
    let r := q.insertNew insertBeforeBuf bufSIdx bufInfo
    (ch.setQueue r.1, r.2)
  else (ch.setQueue q, [.qbuf (some bufInfo.buf)])

/-- The superbuf of the frame is not queued: the oldest unmatched one makes room, and a new node is
put at its place in the order. -/
def startSuperbuf (ch : MmChannel) (nodeAlloc : Bool) (search : Search) (bufSIdx : Nat)
    (bufInfo : BufInfo) : MmChannel × List Event :=
  if ch.queue.attr.maxUnmatchedFrames.toNat < search.unmatchedBundles ∧ search.lastBuf = none then
    (ch, [.qbuf (some bufInfo.buf)])
  else
    let room := ch.queue.releaseOldest search
    let r := ch.enqueueNew nodeAlloc room.1 room.2.1 bufSIdx bufInfo
    (r.1, room.2.2 ++ r.2)

/-- The part of `mm_channel_superbuf_comp_and_enqueue` under the queue lock. -/
def compSuperbuf (ch : MmChannel) (nodeAlloc : Bool) (bufSIdx : Nat) (bufInfo : BufInfo) :
    MmChannel × List Event :=
  let search := Search.from bufInfo.frameIdx 0 {} ch.queue.nodes
  match search.foundSuperBuf with
  | some (pos, superBuf) => ch.joinSuperbuf search pos superBuf bufSIdx bufInfo
  | none => ch.startSuperbuf nodeAlloc search bufSIdx bufInfo

/-- `mm_channel_superbuf_comp_and_enqueue`. -/
def superbufCompAndEnqueue (ch : MmChannel) (nodeAlloc : Bool) (bufInfo : BufInfo) :
    Except Fault (MmChannel × List Event) :=
  match ch.queue.bundledStreams.findIdx? (· = bufInfo.streamId) with
  | none => .ok (ch, [])
  | some bufSIdx =>
    match ch.handleMetadata bufInfo with
    | .error fault => .error fault
    | .ok (rc, ch, es) =>
      if rc < 0 then .ok (ch, es ++ [.qbuf (some bufInfo.buf)])
      else if utilSeqCompWRollover bufInfo.frameIdx ch.queue.expectedFrameId < 0 then
        .ok (ch, es ++ [.qbuf (some bufInfo.buf)])
      else
        let r := ch.compSuperbuf nodeAlloc bufSIdx bufInfo
        .ok (r.1, es ++ r.2)

end MmChannel

end KiwiDevice.Camera

import KiwiDevice.Camera.ChannelBundle
import KiwiDevice.Camera.StreamFsm

/-!
# Stopping a channel and undoing a start

`mm_channel_stop` and the error handling of `mm_channel_start` stop the streams of a channel and
unlink the streams that it borrows. A flush of the superbuf queue is waited for, so it is over
before the slot of the borrowed stream is cleared.

While a channel stops, its slots keep their streams or are cleared one by one. A buffer is given
back to a borrowed stream through the slot with its handle, so it finds its way as long as that slot
is not cleared.
-/

namespace KiwiDevice.Camera

/-- A channel, the driver of its own streams, and the streams of other channels that it borrows,
each with its driver. -/
structure ChannelWorld where
  ch : MmChannel
  driver : Driver
  linked : Nat → MmStream × Driver

/-- The answers of the outside to one call on a channel: for the own streams by slot, for the
borrowed streams, and for the allocation of the flush command of each slot. -/
structure ChannelResults where
  streams : Nat → StreamResults
  linked : Nat → StreamResults
  flushAlloc : Nat → Bool

namespace ChannelWorld

def setStream (w : ChannelWorld) (k : Nat) (s : MmStream) : ChannelWorld :=
  { w with ch := { w.ch with streams := w.ch.streams.set k s } }

def setLinked (w : ChannelWorld) (p : Nat) (s : MmStream × Driver) : ChannelWorld :=
  { w with linked := Function.update w.linked p s }

/-- `mm_stream_fsm_fn` on the stream in a slot. -/
def streamEvent (w : ChannelWorld) (r : ChannelResults) (evt : StreamEvt) (k : Nat) :
    ChannelWorld × Bool :=
  match w.ch.streams[k]? with
  | none => (w, false)
  | some s =>
    let done := s.fsmFn w.driver evt (r.streams k)
    ({ w.setStream k done.1 with driver := done.2.1 }, done.2.2)

/-- `mm_stream_fsm_fn` on a borrowed stream. -/
def linkedEvent (w : ChannelWorld) (r : ChannelResults) (evt : StreamEvt) (p : Nat) :
    ChannelWorld :=
  let done := (w.linked p).1.fsmFn (w.linked p).2 evt (r.linked p)
  w.setLinked p (done.1, done.2.1)

/-- `mm_channel_qbuf`. -/
def qbuf (w : ChannelWorld) (r : ChannelResults) (buf : BufDef) : ChannelWorld :=
  match w.ch.utilGetStreamSlot buf.streamId with
  | none => w
  | some k =>
    match w.ch.streams[k]? with
    | none => w
    | some s =>
      if w.ch.isOwn s then (w.streamEvent r (.qbuf buf) k).1
      else
        match s.linkedStream with
        | none => w
        | some p => w.linkedEvent r (.qbuf buf) p

/-- The calls of `mm_channel_qbuf` among the events. -/
def perform (r : ChannelResults) : List Event → ChannelWorld → ChannelWorld
  | [], w => w
  | .qbuf (some buf) :: es, w => perform r es (w.qbuf r buf)
  | _ :: es, w => perform r es w

/-- `mm_channel_flush_super_buf_queue` with frame index 0, and the command thread on it. -/
def flushSuperBufQueue (w : ChannelWorld) (r : ChannelResults) (alloc : Bool)
    (streamType : CamStreamType) : ChannelWorld :=
  if alloc then
    let flushed := (w.ch.setExpected 0).superbufFlush streamType
    perform r flushed.2 { w with ch := flushed.1 }
  else w

/-- What happens to a borrowed stream in the slot `k`: it is unlinked, the queue is flushed for the
type, and the slot is cleared. -/
def unlinkStream (w : ChannelWorld) (r : ChannelResults) (k : Nat) (s : MmStream)
    (streamType : CamStreamType) : Except Fault ChannelWorld :=
  match s.linkedStream with
  | none => .error .nullDereference
  | some p =>
    let unlinked := w.setLinked p
      ({ (w.linked p).1 with isLinked := false, linkedObj := none }, (w.linked p).2)
    let flushed :=
      if unlinked.ch.bundle.isActive then
        unlinked.flushSuperBufQueue r (r.flushAlloc k) streamType
      else unlinked
    .ok (flushed.setStream k {})

/-- The loop over stream objects: borrowed streams are unlinked with a flush of `flushType`, own
ones are handled by `own`. -/
def forStreams (own : ChannelWorld → Nat → ChannelWorld)
    (flushType : MmStream → Option CamStreamType)
    (r : ChannelResults) : List Nat → ChannelWorld → Except Fault ChannelWorld
  | [], w => .ok w
  | k :: rest, w =>
    match w.ch.streams[k]? with
    | none => .error .nullDereference
    | some s =>
      if w.ch.isOwn s then forStreams own flushType r rest (own w k)
      else
        match flushType s with
        | none => .error .nullDereference
        | some streamType =>
          match w.unlinkStream r k s streamType with
          | .error fault => .error fault
          | .ok w' => forStreams own flushType r rest w'

/-- `STOP` and `UNREG_BUF` of an own stream. -/
def stopOwn (r : ChannelResults) (w : ChannelWorld) (k : Nat) : ChannelWorld :=
  ((w.streamEvent r .stop k).1.streamEvent r .unregBuf k).1

/-- `PUT_BUF` of an own stream. -/
def putOwn (r : ChannelResults) (w : ChannelWorld) (k : Nat) : ChannelWorld :=
  (w.streamEvent r .putBuf k).1

/-- The last loop of `mm_channel_stop`: the buffers of the own streams are put back. -/
def putOwns (r : ChannelResults) : List Nat → ChannelWorld → ChannelWorld
  | [], w => w
  | k :: rest, w =>
    putOwns r rest (if (w.ch.streams[k]?).any w.ch.isOwn then putOwn r w k else w)

/-- `mm_channel_stop`. -/
def stop (w : ChannelWorld) (r : ChannelResults) : Except Fault ChannelWorld :=
  match w.ch.stopOrder with
  | .error fault => .error fault
  | .ok sObjs =>
    match forStreams (stopOwn r) (fun s => s.streamInfo.map StreamInfo.streamType) r sObjs w with
    | .error fault => .error fault
    | .ok w' => .ok (putOwns r sObjs { w' with ch := w'.ch.releaseBundle })

/-- The type of the stream object at which a start failed. -/
def failedType (w : ChannelWorld) (sObjs : List Nat) (i : Nat) : Option CamStreamType :=
  (sObjs[i]?).bind fun k => (w.ch.streams[k]?).bind fun s => s.streamInfo.map StreamInfo.streamType

/-- The error handling of `mm_channel_start` for a failure at the stream object `i`. -/
def startErrorHandling (w : ChannelWorld) (r : ChannelResults) (sObjs : List Nat) (i : Nat) :
    Except Fault ChannelWorld :=
  match forStreams (fun w k => putOwn r (stopOwn r w k) k) (fun _ => w.failedType sObjs i) r
      (sObjs.take (i + 1)) w with
  | .error fault => .error fault
  | .ok w' => .ok { w' with ch := w'.ch.clearBundle }

end ChannelWorld

/-! ## Slots that stay and slots that are cleared -/

namespace MmChannel

/-- The buffers in the superbuf queue, in the order of a flush. -/
def heldBufs (ch : MmChannel) : List BufDef :=
  ch.queue.nodes.flatMap fun n => n.superBuf.filterMap Slot.buf

/-- The borrowed stream to which `mm_channel_qbuf` redirects a buffer. -/
def route (ch : MmChannel) (buf : BufDef) : Option Nat :=
  (ch.utilGetStreamSlot buf.streamId).bind fun k =>
    (ch.streams[k]?).bind fun s => if ch.isOwn s then none else s.linkedStream

/-- No two streams in use have one handle. -/
def DistinctHandles (ch : MmChannel) : Prop :=
  ∀ (i j : Nat) (s t : MmStream), ch.streams[i]? = some s → ch.streams[j]? = some t →
    s.state ≠ .notused → t.state ≠ .notused → s.myHdl = t.myHdl → i = j

theorem DistinctHandles.slot_iff {ch : MmChannel} (h : ch.DistinctHandles) {handler k : Nat} :
    ch.utilGetStreamSlot handler = some k ↔
      ∃ s, ch.streams[k]? = some s ∧ s.state ≠ .notused ∧ handler = s.myHdl := by
  rw [utilGetStreamSlot, List.findIdx?_eq_some_iff_getElem]
  constructor
  · rintro ⟨hk, hFound, _⟩
    exact ⟨ch.streams[k], List.getElem?_eq_getElem hk, of_decide_eq_true hFound⟩
  · rintro ⟨s, hs, hUsed, hHandler⟩
    obtain ⟨hk, hEq⟩ := List.getElem?_eq_some_iff.mp hs
    refine ⟨hk, decide_eq_true (hEq.symm ▸ ⟨hUsed, hHandler⟩), ?_⟩
    intro j hj hOther
    obtain ⟨hUsed', hHandler'⟩ := of_decide_eq_true hOther
    have hSame := h j k _ s (List.getElem?_eq_getElem (Nat.lt_trans hj hk)) hs hUsed' hUsed
      (hHandler'.symm.trans hHandler)
    omega

/-- Slots of `ch₀` that are cleared in `ch`; the others have the same streams. -/
structure Unlinked (ch₀ ch : MmChannel) (cleared : List Nat) : Prop where
  myHdl : ch.myHdl = ch₀.myHdl
  length : ch.streams.length = ch₀.streams.length
  gone : ∀ (k : Nat) (s : MmStream), k ∈ cleared → ch.streams[k]? = some s →
    MmStream.SameStream {} s
  stays : ∀ (k : Nat) (s₀ s : MmStream), k ∉ cleared → ch₀.streams[k]? = some s₀ →
    ch.streams[k]? = some s → MmStream.SameStream s₀ s

namespace Unlinked

variable {ch₀ ch ch' : MmChannel} {cleared : List Nat}

theorem refl (ch : MmChannel) : Unlinked ch ch [] where
  myHdl := rfl
  length := rfl
  gone := by
    intro k s hk
    cases hk
  stays := by
    intro k s₀ s _ h h'
    cases h.symm.trans h'
    exact .refl s₀

theorem to_slot (h : Unlinked ch₀ ch cleared) {k : Nat} {s₀ : MmStream}
    (hs : ch₀.streams[k]? = some s₀) : ∃ s, ch.streams[k]? = some s := by
  obtain ⟨hk, _⟩ := List.getElem?_eq_some_iff.mp hs
  rw [← h.length] at hk
  exact ⟨_, List.getElem?_eq_getElem hk⟩

theorem of_slot (h : Unlinked ch₀ ch cleared) {k : Nat} {s : MmStream}
    (hs : ch.streams[k]? = some s) : ∃ s₀, ch₀.streams[k]? = some s₀ := by
  obtain ⟨hk, _⟩ := List.getElem?_eq_some_iff.mp hs
  rw [h.length] at hk
  exact ⟨_, List.getElem?_eq_getElem hk⟩

theorem trans_same (h : Unlinked ch₀ ch cleared) (h' : Unlinked ch ch' []) :
    Unlinked ch₀ ch' cleared where
  myHdl := h'.myHdl.trans h.myHdl
  length := h'.length.trans h.length
  gone := by
    intro k s' hk hs'
    obtain ⟨s, hs⟩ := h'.of_slot hs'
    exact (h.gone k s hk hs).trans (h'.stays k s s' List.not_mem_nil hs hs')
  stays := by
    intro k s₀ s' hk hs₀ hs'
    obtain ⟨s, hs⟩ := h.to_slot hs₀
    exact (h.stays k s₀ s hk hs₀ hs).trans (h'.stays k s s' List.not_mem_nil hs hs')

theorem trans {cleared' : List Nat} (h : Unlinked ch₀ ch cleared) (h' : Unlinked ch ch' cleared') :
    Unlinked ch₀ ch' (cleared ++ cleared') where
  myHdl := h'.myHdl.trans h.myHdl
  length := h'.length.trans h.length
  gone := by
    intro k s' hk hs'
    obtain ⟨s, hs⟩ := h'.of_slot hs'
    by_cases hLater : k ∈ cleared'
    · exact h'.gone k s' hLater hs'
    · have hFirst := (List.mem_append.mp hk).resolve_right hLater
      exact (h.gone k s hFirst hs).trans (h'.stays k s s' hLater hs hs')
  stays := by
    intro k s₀ s' hk hs₀ hs'
    rw [List.mem_append, not_or] at hk
    obtain ⟨s, hs⟩ := h.to_slot hs₀
    exact (h.stays k s₀ s hk.1 hs₀ hs).trans (h'.stays k s s' hk.2 hs hs')

theorem clear (h : Unlinked ch₀ ch cleared) (k : Nat) :
    Unlinked ch₀ { ch with streams := ch.streams.set k {} } (k :: cleared) where
  myHdl := h.myHdl
  length := by rw [List.length_set, h.length]
  gone := by
    intro j s hj hs
    rw [List.getElem?_set] at hs
    split at hs
    · split at hs
      · cases hs
        exact .refl _
      · cases hs
    · rename_i hNe
      obtain rfl | hj := List.mem_cons.mp hj
      · exact absurd rfl hNe
      · exact h.gone j s hj hs
  stays := by
    intro j s₀ s hj hs₀ hs
    rw [List.mem_cons, not_or] at hj
    rw [List.getElem?_set_ne (Ne.symm hj.1)] at hs
    exact h.stays j s₀ s hj.2 hs₀ hs

theorem setSame (ch : MmChannel) {k : Nat} {s s' : MmStream} (hs : ch.streams[k]? = some s)
    (hSame : MmStream.SameStream s s') :
    Unlinked ch { ch with streams := ch.streams.set k s' } [] where
  myHdl := rfl
  length := List.length_set
  gone := by
    intro j t hj
    cases hj
  stays := by
    intro j t₀ t _ ht₀ ht
    rw [List.getElem?_set] at ht
    split at ht
    · rename_i hEq
      subst hEq
      split at ht
      · cases ht
        cases hs.symm.trans ht₀
        exact hSame
      · cases ht
    · cases ht₀.symm.trans ht
      exact .refl t₀

theorem isOwn_eq (h : Unlinked ch₀ ch cleared) {s₀ s : MmStream}
    (hSame : MmStream.SameStream s₀ s) : ch.isOwn s = ch₀.isOwn s₀ := by
  rw [isOwn, isOwn, hSame.chObj, h.myHdl]

theorem distinct (h : Unlinked ch₀ ch cleared) (hDistinct : ch₀.DistinctHandles) :
    ch.DistinctHandles := by
  have hUsed : ∀ (k : Nat) (s : MmStream), ch.streams[k]? = some s → s.state ≠ .notused →
      ∃ s₀, ch₀.streams[k]? = some s₀ ∧ MmStream.SameStream s₀ s := by
    intro k s hs hState
    obtain ⟨s₀, hs₀⟩ := h.of_slot hs
    by_cases hk : k ∈ cleared
    · exact absurd ((h.gone k s hk hs).notused.mpr rfl) hState
    · exact ⟨s₀, hs₀, h.stays k s₀ s hk hs₀ hs⟩
  intro i j s t hs ht hStateS hStateT hHandle
  obtain ⟨s₀, hs₀, hSameS⟩ := hUsed i s hs hStateS
  obtain ⟨t₀, ht₀, hSameT⟩ := hUsed j t ht hStateT
  refine hDistinct i j s₀ t₀ hs₀ ht₀ (fun h => hStateS (hSameS.notused.mpr h))
    (fun h => hStateT (hSameT.notused.mpr h)) ?_
  rw [← hSameS.myHdl, ← hSameT.myHdl, hHandle]

theorem slot_iff (h : Unlinked ch₀ ch cleared) (hDistinct : ch₀.DistinctHandles)
    {handler k : Nat} : ch.utilGetStreamSlot handler = some k ↔
      k ∉ cleared ∧ ch₀.utilGetStreamSlot handler = some k := by
  rw [(h.distinct hDistinct).slot_iff, hDistinct.slot_iff]
  constructor
  · rintro ⟨s, hs, hState, hHandler⟩
    obtain ⟨s₀, hs₀⟩ := h.of_slot hs
    have hk : k ∉ cleared := fun hk => hState ((h.gone k s hk hs).notused.mpr rfl)
    have hSame := h.stays k s₀ s hk hs₀ hs
    exact ⟨hk, s₀, hs₀, fun h => hState (hSame.notused.mpr h), hHandler.trans hSame.myHdl⟩
  · rintro ⟨hk, s₀, hs₀, hState, hHandler⟩
    obtain ⟨s, hs⟩ := h.to_slot hs₀
    have hSame := h.stays k s₀ s hk hs₀ hs
    exact ⟨s, hs, fun h => hState (hSame.notused.mp h), hHandler.trans hSame.myHdl.symm⟩

theorem route_iff (h : Unlinked ch₀ ch cleared) (hDistinct : ch₀.DistinctHandles) {buf : BufDef}
    {p : Nat} : ch.route buf = some p ↔ ch₀.route buf = some p ∧
      ∀ k ∈ cleared, ch₀.utilGetStreamSlot buf.streamId ≠ some k := by
  have hAt : ∀ (k : Nat), k ∉ cleared →
      ((ch.streams[k]?).bind fun s => if ch.isOwn s then none else s.linkedStream) =
        (ch₀.streams[k]?).bind fun s => if ch₀.isOwn s then none else s.linkedStream := by
    intro k hk
    cases hs₀ : ch₀.streams[k]? with
    | none =>
      cases hs : ch.streams[k]? with
      | none => rfl
      | some s =>
        obtain ⟨s₀, hSome⟩ := h.of_slot hs
        cases hs₀.symm.trans hSome
    | some s₀ =>
      obtain ⟨s, hs⟩ := h.to_slot hs₀
      have hSame := h.stays k s₀ s hk hs₀ hs
      rw [hs, Option.bind_some, Option.bind_some, h.isOwn_eq hSame, hSame.linkedStream]
  rw [route, route, Option.bind_eq_some_iff, Option.bind_eq_some_iff]
  constructor
  · rintro ⟨k, hSlot, hTo⟩
    obtain ⟨hk, hSlot₀⟩ := (h.slot_iff hDistinct).mp hSlot
    refine ⟨⟨k, hSlot₀, (hAt k hk).symm.trans hTo⟩, ?_⟩
    intro j hj hOther
    cases hSlot₀.symm.trans hOther
    exact hk hj
  · rintro ⟨⟨k, hSlot₀, hTo⟩, hKept⟩
    have hk : k ∉ cleared := fun hk => hKept k hk hSlot₀
    exact ⟨k, (h.slot_iff hDistinct).mpr ⟨hk, hSlot₀⟩, (hAt k hk).trans hTo⟩

theorem route_eq (h : Unlinked ch₀ ch []) (hDistinct : ch₀.DistinctHandles) (buf : BufDef) :
    ch.route buf = ch₀.route buf := by
  ext p
  rw [h.route_iff hDistinct]
  exact ⟨fun hTo => hTo.1, fun hTo => ⟨hTo, fun k hk => absurd hk List.not_mem_nil⟩⟩

end Unlinked

theorem heldBufs_of_bundle {ch ch' : MmChannel} (h : ch'.bundle = ch.bundle) :
    ch'.heldBufs = ch.heldBufs := by
  rw [heldBufs, queue, h]
  rfl

end MmChannel

namespace ChannelWorld

variable {w w' w'' : ChannelWorld}

/-- What an event of an own stream leaves alone. -/
structure OwnFrame (w w' : ChannelWorld) : Prop where
  linked : w'.linked = w.linked
  bundle : w'.ch.bundle = w.ch.bundle
  slots : MmChannel.Unlinked w.ch w'.ch []

namespace OwnFrame

theorem refl (w : ChannelWorld) : OwnFrame w w := ⟨rfl, rfl, .refl w.ch⟩

theorem trans (h : OwnFrame w w') (h' : OwnFrame w' w'') : OwnFrame w w'' where
  linked := h'.linked.trans h.linked
  bundle := h'.bundle.trans h.bundle
  slots := h.slots.trans_same h'.slots

end OwnFrame

theorem streamEvent_frame (w : ChannelWorld) (r : ChannelResults) (evt : StreamEvt) (k : Nat) :
    OwnFrame w (w.streamEvent r evt k).1 := by
  rw [streamEvent]
  split
  · exact .refl w
  · rename_i s hs
    exact ⟨rfl, rfl, .setSame w.ch hs (s.fsmFn_same w.driver evt (r.streams k))⟩

theorem stopOwn_frame (r : ChannelResults) (w : ChannelWorld) (k : Nat) :
    OwnFrame w (stopOwn r w k) :=
  (w.streamEvent_frame r .stop k).trans (streamEvent_frame _ r .unregBuf k)

theorem putOwn_frame (r : ChannelResults) (w : ChannelWorld) (k : Nat) :
    OwnFrame w (putOwn r w k) := w.streamEvent_frame r .putBuf k

theorem putOwns_frame (r : ChannelResults) (ks : List Nat) (w : ChannelWorld) :
    OwnFrame w (putOwns r ks w) := by
  induction ks generalizing w with
  | nil => exact .refl w
  | cons k rest ih =>
    rw [putOwns]
    split
    · exact (putOwn_frame r w k).trans (ih _)
    · exact ih w

end ChannelWorld

end KiwiDevice.Camera

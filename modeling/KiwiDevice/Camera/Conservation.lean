import Mathlib.Algebra.Order.Group.Multiset
import Mathlib.Tactic.Abel
import KiwiDevice.Camera.QueueRuns

/-!
# Buffer conservation

Every buffer that enters the superbuf queue is held there, has been given back by `mm_channel_qbuf`,
or has been dispatched. The account is kept by moves of the queue and by storing a buffer into an
empty entry; along a run an entry is empty because no key of a stream and a frame is delivered twice
between two flushes.
-/

namespace KiwiDevice.Camera

open Lib

/-- The buffers in the filled entries. -/
def heldIn (slots : List Slot) : Multiset (Option BufDef) :=
  ((slots.filter Option.isSome).map Slot.buf : List (Option BufDef))

def QueueNode.held (n : QueueNode) : Multiset (Option BufDef) := heldIn n.superBuf

def ChannelQueue.held (q : ChannelQueue) : Multiset (Option BufDef) :=
  (q.nodes.map QueueNode.held).sum

namespace Event

/-- The buffer passed to `mm_channel_qbuf`. -/
def returned : Event → List (Option BufDef)
  | .qbuf buf => [buf]
  | _ => []

/-- The buffers of a dispatched superbuf. -/
def dispatched : Event → List (Option BufDef)
  | .dispatch bufs => bufs
  | _ => []

end Event

def returnedBufs (es : List Event) : Multiset (Option BufDef) := es.flatMap Event.returned

def dispatchedBufs (es : List Event) : Multiset (Option BufDef) := es.flatMap Event.dispatched

@[simp] theorem returnedBufs_nil : returnedBufs [] = 0 := rfl

@[simp] theorem dispatchedBufs_nil : dispatchedBufs [] = 0 := rfl

@[simp] theorem returnedBufs_append (es es' : List Event) :
    returnedBufs (es ++ es') = returnedBufs es + returnedBufs es' := by
  simp [returnedBufs]

@[simp] theorem dispatchedBufs_append (es es' : List Event) :
    dispatchedBufs (es ++ es') = dispatchedBufs es + dispatchedBufs es' := by
  simp [dispatchedBufs]

@[simp] theorem returnedBufs_cons (e : Event) (es : List Event) :
    returnedBufs (e :: es) = e.returned + returnedBufs es := by
  simp [returnedBufs]

@[simp] theorem dispatchedBufs_cons (e : Event) (es : List Event) :
    dispatchedBufs (e :: es) = e.dispatched + dispatchedBufs es := by
  simp [dispatchedBufs]

/-- `es` accounts for the difference between the buffers held before and after. -/
def Accounts (before after : Multiset (Option BufDef)) (es : List Event) : Prop :=
  before = after + returnedBufs es + dispatchedBufs es

namespace Accounts

variable {s s' s'' t : Multiset (Option BufDef)} {es es' : List Event}

theorem refl (s : Multiset (Option BufDef)) : Accounts s s [] := by
  simp [Accounts]

theorem trans (h : Accounts s s' es) (h' : Accounts s' s'' es') : Accounts s s'' (es ++ es') := by
  unfold Accounts at *
  rw [h, h', returnedBufs_append, dispatchedBufs_append]
  abel

theorem add (h : Accounts s s' es) (t : Multiset (Option BufDef)) :
    Accounts (s + t) (s' + t) es := by
  unfold Accounts at *
  rw [h]
  abel

end Accounts

theorem marks_accounts {es : List Event} (h : ∀ e ∈ es, e = .stopZslSnapshot) :
    returnedBufs es = 0 ∧ dispatchedBufs es = 0 := by
  induction es with
  | nil => exact ⟨rfl, rfl⟩
  | cons e es ih =>
    obtain ⟨hReturned, hDispatched⟩ := ih fun e' he' => h e' (List.mem_cons_of_mem _ he')
    rw [h e List.mem_cons_self]
    simp [hReturned, hDispatched, Event.returned, Event.dispatched]

theorem qbufs_accounts (slots : List Slot) :
    Accounts (slots.map Slot.buf : List (Option BufDef)) 0 (slots.map fun s => .qbuf s.buf) := by
  unfold Accounts
  induction slots with
  | nil => simp
  | cons s slots ih =>
    simp only [List.map_cons, returnedBufs_cons, dispatchedBufs_cons, Event.returned,
      Event.dispatched]
    rw [← Multiset.cons_coe, ih]
    simp only [Multiset.coe_nil, Multiset.coe_singleton, ← Multiset.singleton_add]
    abel

namespace QueueNode

theorem releaseBufs_accounts (n : QueueNode) : Accounts n.held 0 n.releaseBufs := by
  have hEq : n.releaseBufs = (n.superBuf.filter Option.isSome).map fun s : Slot => .qbuf s.buf := by
    unfold releaseBufs
    induction n.superBuf with
    | nil => rfl
    | cons s slots ih => cases s <;> simpa [Slot.buf] using ih
  rw [hEq]
  exact qbufs_accounts _

/-- The release that tests `frame_idx` gives back what the one that tests `buf` does. -/
theorem releaseFilled_accounts {numStreams : Nat} {n : QueueNode} (h : n.WellFilled numStreams) :
    Accounts n.held 0 n.releaseFilled := by
  have hEq : n.superBuf.filter (fun s => s.frameIdx ≠ 0) = n.superBuf.filter Option.isSome := by
    apply List.filter_congr
    intro s hs
    cases s with
    | none => rfl
    | some info => simpa [Slot.frameIdx, h.frame info hs] using h.nonZero
  unfold releaseFilled
  rw [hEq]
  exact qbufs_accounts _

theorem held_of_matched {numStreams : Nat} {n : QueueNode} (h : n.WellFilled numStreams)
    (hM : n.matched = true) : (n.superBuf.map Slot.buf : List (Option BufDef)) = n.held := by
  have hNone := h.matched_iff.mp hM
  rw [held, heldIn, List.filter_eq_self.mpr]
  intro s hs
  cases s with
  | none => exact absurd hs hNone
  | some info => rfl

end QueueNode

/-- A superbuf that leaves the queue while allocation succeeds is given back or dispatched. -/
theorem Leaves.accounts {n : QueueNode} {numStreams : Nat} {es : List Event}
    (h : Leaves .default .succeeds n es) (hn : n.WellFilled numStreams) : Accounts n.held 0 es := by
  cases h with
  | released => exact n.releaseBufs_accounts
  | flushed =>
    rw [n.releaseType_default]
    exact n.releaseBufs_accounts
  | dispatched hM zsl hz =>
    obtain ⟨hReturned, hDispatched⟩ := marks_accounts hz
    simp [Accounts, hReturned, hDispatched, Event.returned, Event.dispatched,
      QueueNode.held_of_matched hn hM]
  | returned hM zsl hz =>
    obtain ⟨hReturned, hDispatched⟩ := marks_accounts hz
    have hQbufs := qbufs_accounts n.superBuf
    rw [QueueNode.held_of_matched hn hM] at hQbufs
    unfold Accounts at hQbufs ⊢
    simpa [hReturned, hDispatched, Event.returned, Event.dispatched] using hQbufs
  | lost hM zsl hz pass hEnq => cases hEnq

theorem ChannelQueue.held_cons {q : ChannelQueue} {n : QueueNode} {rest : List QueueNode}
    (h : q.nodes = n :: rest) : q.held = n.held + (q.removeHead n rest).held := by
  simp [ChannelQueue.held, h]

theorem Moves.accounts {q q' : ChannelQueue} {es : List Event} {numStreams : Nat}
    (h : Moves .default .succeeds q es q') (hFilled : ∀ n ∈ q.nodes, n.WellFilled numStreams) :
    Accounts q.held q'.held es := by
  induction h with
  | retarget h =>
    rw [ChannelQueue.held, ← h.nodes]
    exact .refl _
  | @mark q e h =>
    unfold Accounts
    cases e <;> simp [Event.isMark, Event.returned, Event.dispatched] at h ⊢
  | flushed h => simp [Accounts, Event.returned, Event.dispatched]
  | @leave q n rest es h hl =>
    have hLeft := (hl.accounts (hFilled n (h ▸ List.mem_cons_self))).add (q.removeHead n rest).held
    rwa [← ChannelQueue.held_cons h, zero_add] at hLeft
  | @trans q q' q'' es es' h h' ih ih' =>
    exact (ih hFilled).trans (ih' fun n hn => hFilled n (h.suffix.subset hn))

namespace QueueNode

variable {n : QueueNode} {bufSIdx : Nat} {b : BufInfo}

theorem heldIn_set {slots : List Slot} (h : slots[bufSIdx]? = some none) :
    heldIn (slots.set bufSIdx (some b)) = heldIn slots + {some b.buf} := by
  obtain ⟨hLt, hGet⟩ := List.getElem?_eq_some_iff.mp h
  have hSplit : slots = slots.take bufSIdx ++ none :: slots.drop (bufSIdx + 1) := by
    rw [← hGet, List.cons_getElem_drop_succ, List.take_append_drop]
  have hOld : heldIn slots = heldIn (slots.take bufSIdx) + heldIn (slots.drop (bufSIdx + 1)) := by
    conv_lhs => rw [hSplit]
    simp [heldIn]
  rw [hOld, List.set_eq_take_append_cons_drop, if_pos hLt]
  simp only [heldIn, List.filter_append, List.map_append, Option.isSome_some,
    List.filter_cons_of_pos, List.map_cons, Slot.buf, ← Multiset.coe_add, ← Multiset.cons_coe,
    ← Multiset.singleton_add]
  abel

theorem held_store (h : n.superBuf[bufSIdx]? = some none) :
    (n.store bufSIdx b).held = n.held + {some b.buf} :=
  heldIn_set h

theorem held_ofBuf {numStreams : Nat} (hIdx : bufSIdx < numStreams) :
    (QueueNode.ofBuf numStreams bufSIdx b).held = {some b.buf} := by
  have hNone : heldIn (List.replicate numStreams none) = 0 := by
    simp [heldIn]
  rw [QueueNode.held, QueueNode.ofBuf, heldIn_set (by simp [hIdx]), hNone, zero_add]

end QueueNode

theorem releaseFilled_accounts {numStreams : Nat} (nodes : List QueueNode)
    (h : ∀ n ∈ nodes, n.WellFilled numStreams) :
    Accounts (nodes.map QueueNode.held).sum 0 (nodes.flatMap QueueNode.releaseFilled) := by
  induction nodes with
  | nil => exact .refl _
  | cons n nodes ih =>
    have hHead := (QueueNode.releaseFilled_accounts (h n List.mem_cons_self)).add
      (nodes.map QueueNode.held).sum
    rw [zero_add] at hHead
    exact hHead.trans (ih fun m hm => h m (List.mem_cons_of_mem _ hm))

/-- Storing a buffer accounts for it and for every buffer released to make room, provided that the
superbuf of its frame has the entry free. -/
theorem Enqueue.accounts {ch ch' : MmChannel} {nodeAlloc : Bool} {bufSIdx : Nat} {b : BufInfo}
    {es : List Event} (h : Enqueue ch nodeAlloc bufSIdx b ch' es)
    (hIdx : bufSIdx < ch.queue.numStreams)
    (hFilled : ∀ n ∈ ch.queue.nodes, n.WellFilled ch.queue.numStreams)
    (hFree : ∀ n ∈ ch.queue.nodes, n.frameIdx = b.frameIdx → n.superBuf[bufSIdx]? = some none) :
    Accounts (ch.queue.held + {some b.buf}) ch'.queue.held es := by
  cases h with
  | @completes ms lo rest n hNodes _ _ _ hFrame _ =>
    rw [hNodes] at hFilled hFree
    have hReleased := releaseFilled_accounts lo fun m hm => hFilled m (by simp [hm])
    have hStored := QueueNode.held_store (b := b) (hFree n (by simp) hFrame)
    unfold Accounts at hReleased ⊢
    rw [zero_add] at hReleased
    simp only [ChannelQueue.held, hNodes, MmChannel.setQueue_queue, List.map_append, List.map_cons,
      List.sum_append, List.sum_cons, returnedBufs_cons, dispatchedBufs_cons, Event.returned,
      Event.dispatched, hReleased, hStored, Multiset.coe_nil]
    abel
  | @joins ms rest n hNodes _ hFrame _ =>
    have hStored := QueueNode.held_store (b := b) (hFree n (by simp [hNodes]) hFrame)
    unfold Accounts
    simp only [ChannelQueue.held, hNodes, MmChannel.setQueue_queue, List.map_append, List.map_cons,
      List.sum_append, List.sum_cons, returnedBufs_nil, dispatchedBufs_nil, hStored]
    abel
  | refuses => simp [Accounts, Event.returned, Event.dispatched]
  | @starts ms gone lo hi hNodes _ _ _ _ _ _ =>
    rw [hNodes] at hFilled
    have hReleased := releaseFilled_accounts gone fun m hm => hFilled m (by simp [hm])
    have hNew := QueueNode.held_ofBuf (b := b) hIdx
    unfold Accounts at hReleased ⊢
    rw [zero_add] at hReleased
    simp only [ChannelQueue.held, hNodes, MmChannel.setQueue_queue, List.map_append, List.map_cons,
      List.sum_append, List.sum_cons, hReleased, hNew]
    abel
  | @startsMatched ms gone lo hi hNodes _ _ _ _ _ hOne =>
    rw [hNodes] at hFilled
    have hReleased := releaseFilled_accounts gone fun m hm => hFilled m (by simp [hm])
    have hNew : QueueNode.held { QueueNode.ofBuf 1 bufSIdx b with matched := true } =
        {some b.buf} := QueueNode.held_ofBuf (hOne ▸ hIdx)
    unfold Accounts at hReleased ⊢
    rw [zero_add] at hReleased
    simp only [ChannelQueue.held, hNodes, MmChannel.setQueue_queue, List.map_append, List.map_cons,
      List.sum_append, List.sum_cons, hReleased, hNew, returnedBufs_append, dispatchedBufs_append,
      returnedBufs_cons, dispatchedBufs_cons, Event.returned, Event.dispatched, returnedBufs_nil,
      dispatchedBufs_nil, Multiset.coe_nil]
    abel
  | @noMemory ms gone rest hNodes _ _ =>
    rw [hNodes] at hFilled
    have hReleased := releaseFilled_accounts gone fun m hm => hFilled m (by simp [hm])
    unfold Accounts at hReleased ⊢
    rw [zero_add] at hReleased
    simp only [ChannelQueue.held, hNodes, ChannelQueue.without, MmChannel.setQueue_queue,
      List.map_append, List.sum_append, hReleased, returnedBufs_append, dispatchedBufs_append,
      returnedBufs_cons, dispatchedBufs_cons, Event.returned, Event.dispatched, returnedBufs_nil,
      dispatchedBufs_nil, Multiset.coe_singleton, Multiset.coe_nil]
    abel

end KiwiDevice.Camera

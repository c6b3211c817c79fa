import KiwiDevice.Camera.CommandSpec

/-!
# The invariant of the superbuf queue

The matched superbufs are a prefix of the list, the unmatched ones behind them have increasing frame
ids, and the two counters agree with the list. The invariant holds in every state that the command
thread of a channel reaches from an empty queue; it is also what makes the overflow and the
look-back loop end.
-/

namespace KiwiDevice.Camera

open Lib

/-- A superbuf as it stands in the queue: one entry per bundled stream, at least one of them filled,
all of them with buffers of its own frame. -/
structure QueueNode.WellFilled (numStreams : Nat) (n : QueueNode) : Prop where
  length : n.superBuf.length = numStreams
  frame : ∀ info, some info ∈ n.superBuf → info.frameIdx = n.frameIdx
  nonZero : n.frameIdx ≠ 0
  matched_iff : n.matched = true ↔ none ∉ n.superBuf
  nonempty : ∃ info, some info ∈ n.superBuf

namespace QueueNode.WellFilled

variable {numStreams bufSIdx : Nat} {n : QueueNode} {b : BufInfo}

theorem store (h : n.WellFilled numStreams) (hFrame : n.frameIdx = b.frameIdx) :
    (n.store bufSIdx b).WellFilled numStreams := by
  have hStored : ∀ info, some info ∈ n.superBuf.set bufSIdx (some b) →
      info.frameIdx = n.frameIdx := by
    intro info hInfo
    rcases List.mem_or_eq_of_mem_set hInfo with hOld | hNew
    · exact h.frame info hOld
    · cases hNew
      exact hFrame.symm
  refine ⟨by simp [QueueNode.store, h.length], hStored, h.nonZero, ?_, ?_⟩
  · simp only [QueueNode.store, List.all_eq_true, bne_iff_ne]
    constructor
    · intro hAll hNone
      exact hAll none hNone rfl
    · intro hNone s hs hZero
      cases s with
      | none => exact hNone hs
      | some info => exact h.nonZero ((hStored info hs).symm.trans hZero)
  · obtain ⟨info, hInfo⟩ := h.nonempty
    obtain ⟨j, hj, hGet⟩ := List.mem_iff_getElem.mp hInfo
    by_cases hSame : bufSIdx = j
    · exact ⟨b, List.mem_iff_getElem.mpr ⟨j, by simpa [QueueNode.store] using hj,
        by simp [QueueNode.store, hSame]⟩⟩
    · exact ⟨info, List.mem_iff_getElem.mpr ⟨j, by simpa [QueueNode.store] using hj,
        by simp [QueueNode.store, List.getElem_set_ne hSame, hGet]⟩⟩

theorem ofBuf_mem (hIdx : bufSIdx < numStreams) :
    some b ∈ (QueueNode.ofBuf numStreams bufSIdx b).superBuf :=
  List.mem_iff_getElem.mpr ⟨bufSIdx, by simpa [QueueNode.ofBuf] using hIdx, by simp [QueueNode.ofBuf]⟩

theorem ofBuf_frame (info : BufInfo)
    (h : some info ∈ (QueueNode.ofBuf numStreams bufSIdx b).superBuf) : info = b := by
  rcases List.mem_or_eq_of_mem_set h with hOld | hNew
  · cases (List.mem_replicate.mp hOld).2
  · cases hNew
    rfl

theorem ofBuf (hIdx : bufSIdx < numStreams) (hSeveral : numStreams ≠ 1) (hb : b.frameIdx ≠ 0) :
    (QueueNode.ofBuf numStreams bufSIdx b).WellFilled numStreams := by
  refine ⟨by simp [QueueNode.ofBuf], fun info h => by rw [ofBuf_frame info h]; rfl, hb, ?_,
    ⟨b, ofBuf_mem hIdx⟩⟩
  have hNone : none ∈ (QueueNode.ofBuf numStreams bufSIdx b).superBuf := by
    -- one of the first two entries is not the one of the buffer
    let j := if bufSIdx = 0 then 1 else 0
    have hj : j < numStreams := by simp only [j]; split <;> omega
    have hNe : bufSIdx ≠ j := by simp only [j]; split <;> omega
    exact List.mem_iff_getElem.mpr ⟨j, by simpa [QueueNode.ofBuf] using hj,
      by simp [QueueNode.ofBuf, List.getElem_set_ne hNe]⟩
  simp [QueueNode.ofBuf] at hNone ⊢
  exact hNone

theorem ofBuf_single (hb : b.frameIdx ≠ 0) :
    ({ QueueNode.ofBuf 1 0 b with matched := true } : QueueNode).WellFilled 1 :=
  ⟨rfl, fun info h => by rw [ofBuf_frame info h]; rfl, hb, by simp [QueueNode.ofBuf],
    ⟨b, ofBuf_mem Nat.one_pos⟩⟩

end QueueNode.WellFilled

/-- The invariant with the counters as the code computes them, modulo `2 ^ 32`. -/
structure SuperbufInv (q : ChannelQueue) : Prop where
  order : q.nodes.Pairwise QueueNode.Precedes
  matchCnt : q.matchCnt = q.nodes.countP QueueNode.matched % 2 ^ 32
  size : q.size = q.nodes.length % 2 ^ 32
  single : q.numStreams = 1 → ∀ n ∈ q.nodes, n.matched = true

/-- The number of unmatched superbufs. -/
def ChannelQueue.unmatchedCnt (q : ChannelQueue) : Nat := q.nodes.countP fun n => !n.matched

theorem SameSuperbufs.inv {q q' : ChannelQueue} (h : SameSuperbufs q q') (hq : SuperbufInv q) :
    SuperbufInv q' where
  order := h.nodes ▸ hq.order
  matchCnt := by rw [h.matchCnt, h.nodes, hq.matchCnt]
  size := by rw [h.size, h.nodes, hq.size]
  single := by
    rw [h.nodes, ChannelQueue.numStreams, h.bundledStreams]
    exact hq.single

namespace Moves

variable {camType : CamStreamType} {alloc : Alloc} {q q' : ChannelQueue} {es : List Event}

theorem suffix (h : Moves camType alloc q es q') : q'.nodes <:+ q.nodes := by
  induction h with
  | retarget h => exact h.nodes ▸ List.suffix_refl _
  | mark _ => exact List.suffix_refl _
  | flushed _ => exact List.suffix_refl _
  | leave h _ => exact h ▸ List.suffix_cons _ _
  | trans _ _ ih ih' => exact ih'.trans ih

theorem inv (h : Moves camType alloc q es q') (hq : SuperbufInv q) : SuperbufInv q' := by
  induction h with
  | retarget h => exact h.inv hq
  | mark _ => exact hq
  | flushed _ => exact hq
  | @leave q n rest es h _ =>
    have hOrder := hq.order
    have hCnt := hq.matchCnt
    have hSize := hq.size
    rw [h] at hOrder hCnt hSize
    rw [List.length_cons] at hSize
    refine ⟨(List.pairwise_cons.mp hOrder).2, ?_, ?_, ?_⟩
    · rw [ChannelQueue.removeHead]
      cases hM : n.matched with
      | false => rw [if_neg (by simp), hCnt, List.countP_cons, hM, if_neg (by simp), Nat.add_zero]
      | true =>
        rw [if_pos rfl, hCnt, List.countP_cons, hM, if_pos rfl, sub32_eq 1 _ (by omega),
          Nat.add_sub_cancel]
    · rw [ChannelQueue.removeHead, hSize, sub32_eq 1 _ (by omega), Nat.add_sub_cancel]
    · exact fun hOne m hm => hq.single hOne m (h ▸ List.mem_cons_of_mem _ hm)
  | trans _ _ ih ih' => exact ih' (ih hq)

theorem matched_le (h : Moves camType alloc q es q') :
    q'.nodes.countP QueueNode.matched ≤ q.nodes.countP QueueNode.matched :=
  h.suffix.sublist.countP_le

theorem unmatched_le (h : Moves camType alloc q es q') : q'.unmatchedCnt ≤ q.unmatchedCnt :=
  h.suffix.sublist.countP_le

end Moves

namespace ChannelQueue

theorem sizeWithout_eq {q : ChannelQueue} {gone : List QueueNode} {n : Nat}
    (hSize : q.size = (n + gone.length) % 2 ^ 32) : q.sizeWithout gone = n % 2 ^ 32 := by
  unfold sizeWithout
  split
  · rename_i hEmpty
    rw [hSize, hEmpty, List.length_nil, Nat.add_zero]
  · rw [hSize, sub32_eq _ _ (by omega), Nat.add_sub_cancel]

end ChannelQueue

namespace SuperbufInv

variable {ch ch' : MmChannel} {nodeAlloc : Bool} {bufSIdx : Nat} {b : BufInfo} {es : List Event}

/-- Taking out unmatched superbufs with the count `size`. -/
theorem without {q : ChannelQueue} {gone kept : List QueueNode} (hq : SuperbufInv q)
    (hKept : kept.Sublist q.nodes) (hLength : q.nodes.length = kept.length + gone.length)
    (hMatched : q.nodes.countP QueueNode.matched = kept.countP QueueNode.matched) :
    SuperbufInv (q.without gone kept) where
  order := hq.order.sublist hKept
  matchCnt := hq.matchCnt.trans (by rw [hMatched]; rfl)
  size := ChannelQueue.sizeWithout_eq (hq.size.trans (by rw [hLength]; rfl))
  single := fun hOne m hm => hq.single hOne m (hKept.subset hm)

theorem countP_unmatched {nodes : List QueueNode} (h : ∀ m ∈ nodes, m.matched = false) :
    nodes.countP QueueNode.matched = 0 :=
  List.countP_eq_zero.mpr fun m hm => by simp [h m hm]

theorem room {q : ChannelQueue} {ms gone rest : List QueueNode} (hq : SuperbufInv q)
    (hNodes : q.nodes = ms ++ (gone ++ rest)) (hgone : ∀ m ∈ gone, m.matched = false) :
    SuperbufInv (q.without gone (ms ++ rest)) := by
  refine hq.without ?_ ?_ ?_
  · rw [hNodes]
    exact (List.sublist_append_right gone _).append_left ms
  · rw [hNodes]
    simp only [List.length_append]
    omega
  · rw [hNodes]
    simp [List.countP_append, countP_unmatched hgone]

theorem insertNew {q : ChannelQueue} {front back : List QueueNode} (hq : SuperbufInv q)
    (hNodes : q.nodes = front ++ back) (hSeveral : q.numStreams ≠ 1)
    (hFront : ∀ m ∈ front, m.matched = true ∨ m.matched = false ∧ m.frameIdx < b.frameIdx)
    (hBack : ∀ m ∈ back, m.matched = false ∧ b.frameIdx < m.frameIdx) :
    SuperbufInv { q with
      nodes := front ++ QueueNode.ofBuf q.numStreams bufSIdx b :: back
      size := add32 q.size 1 } := by
  have hOrder := hq.order
  have hCnt := hq.matchCnt
  have hSize := hq.size
  rw [hNodes] at hOrder hCnt hSize
  refine ⟨?_, ?_, ?_, fun hOne => absurd hOne hSeveral⟩
  · exact pairwise_insert hOrder (fun m hm => (hFront m hm).imp_right fun h => ⟨rfl, h.2⟩)
      (fun m hm => .inr (hBack m hm))
  · rw [hCnt]
    simp [List.countP_append, QueueNode.ofBuf]
  · rw [hSize, add32_eq]
    simp [Nat.add_assoc]

theorem insertMatched {q : ChannelQueue} {front back : List QueueNode} {expected : Nat}
    (hq : SuperbufInv q) (hNodes : q.nodes = front ++ back) (hOne : q.numStreams = 1) :
    SuperbufInv { q with
      nodes := front ++ { QueueNode.ofBuf 1 bufSIdx b with matched := true } :: back
      size := add32 q.size 1
      expectedFrameId := expected
      matchCnt := add32 q.matchCnt 1 } := by
  have hOrder := hq.order
  have hCnt := hq.matchCnt
  have hSize := hq.size
  have hSingle := hq.single hOne
  rw [hNodes] at hOrder hCnt hSize hSingle
  refine ⟨?_, ?_, ?_, ?_⟩
  · exact pairwise_insert hOrder (fun m hm => .inl (hSingle m (List.mem_append_left _ hm)))
      (fun m _ => .inl rfl)
  · rw [hCnt, add32_eq]
    simp [List.countP_append, Nat.add_assoc]
  · rw [hSize, add32_eq]
    simp [Nat.add_assoc]
  · intro _ m hm
    rcases List.mem_append.mp hm with hm | hm
    · exact hSingle m (List.mem_append_left _ hm)
    · rcases List.mem_cons.mp hm with rfl | hm
      · rfl
      · exact hSingle m (List.mem_append_right _ hm)

theorem enqueue (hq : SuperbufInv ch.queue) (h : Enqueue ch nodeAlloc bufSIdx b ch' es) :
    SuperbufInv ch'.queue := by
  have hOrder := hq.order
  have hCnt := hq.matchCnt
  have hSize := hq.size
  have hSingle := hq.single
  cases h with
  | @completes ms lo rest n hNodes hms hlo hn hFrame hAll =>
    rw [hNodes] at hOrder hCnt hSize hSingle
    refine ⟨?_, ?_, ?_, ?_⟩
    · have hKept : (ms ++ rest).Sublist (ms ++ (lo ++ n :: rest)) :=
        ((List.sublist_cons_self n rest).trans (List.sublist_append_right lo _)).append_left ms
      exact pairwise_insert (hOrder.sublist hKept) (fun m hm => .inl (hms m hm))
        (fun m _ => .inl hAll)
    · show add32 ch.queue.matchCnt 1 =
        (ms ++ n.store bufSIdx b :: rest).countP QueueNode.matched % 2 ^ 32
      rw [hCnt, add32_eq]
      simp [List.countP_append, hn, hAll, countP_unmatched hlo, Nat.add_assoc]
    · refine ChannelQueue.sizeWithout_eq ?_
      show ch.queue.size = ((ms ++ n.store bufSIdx b :: rest).length + lo.length) % 2 ^ 32
      rw [hSize]
      simp only [List.length_append, List.length_cons]
      congr 1
      omega
    · intro hOne
      rw [hSingle hOne n (by simp)] at hn
      cases hn
  | @joins ms rest n hNodes hn hFrame hMissing =>
    rw [hNodes] at hOrder hCnt hSize hSingle
    refine ⟨?_, ?_, ?_, ?_⟩
    · refine pairwise_replace hOrder (fun m hm => ?_) (fun m hm => ?_)
      · exact hm.imp_right fun h => ⟨hMissing, h.2⟩
      · rcases hm with hM | ⟨hM, hLt⟩
        · rw [hn] at hM
          cases hM
        · exact .inr ⟨hM, hLt⟩
    · simp only [MmChannel.setQueue_queue, hCnt, List.countP_append, List.countP_cons, hn, hMissing]
    · simp only [MmChannel.setQueue_queue, hSize, List.length_append, List.length_cons]
    · intro hOne
      rw [hSingle hOne n (by simp)] at hn
      cases hn
  | refuses => exact hq
  | @starts ms gone lo hi hNodes hms hgone hlo hhi _ hSeveral =>
    exact (hq.room hNodes hgone).insertNew (List.append_assoc ms lo hi).symm hSeveral
      (fun m hm => by
        rcases List.mem_append.mp hm with hm | hm
        · exact .inl (hms m hm)
        · exact .inr (hlo m hm))
      hhi
  | @startsMatched ms gone lo hi hNodes _ hgone _ _ _ hOne =>
    exact (hq.room hNodes hgone).insertMatched (List.append_assoc ms lo hi).symm hOne
  | @noMemory ms gone rest hNodes hgone _ =>
    exact hq.room hNodes hgone

end SuperbufInv

namespace Enqueue

variable {ch ch' : MmChannel} {nodeAlloc : Bool} {bufSIdx : Nat} {b : BufInfo} {es : List Event}

theorem frame (h : Enqueue ch nodeAlloc bufSIdx b ch' es) :
    ch'.queue.bundledStreams = ch.queue.bundledStreams ∧ ch'.queue.attr = ch.queue.attr := by
  cases h with
  | completes => exact ⟨rfl, rfl⟩
  | joins => exact ⟨rfl, rfl⟩
  | refuses => exact ⟨rfl, rfl⟩
  | starts => exact ⟨rfl, rfl⟩
  | startsMatched => exact ⟨rfl, rfl⟩
  | noMemory => exact ⟨rfl, rfl⟩

/-- What holds of the queued superbufs, of the one the buffer joins and of a new one, holds of all
superbufs afterwards. -/
theorem forall_nodes {P : QueueNode → Prop} (h : Enqueue ch nodeAlloc bufSIdx b ch' es)
    (hq : ∀ n ∈ ch.queue.nodes, P n)
    (hStore : ∀ n ∈ ch.queue.nodes, n.frameIdx = b.frameIdx → P (n.store bufSIdx b))
    (hOne : ch.queue.numStreams = 1 → P { QueueNode.ofBuf 1 bufSIdx b with matched := true })
    (hSeveral : ch.queue.numStreams ≠ 1 → P (QueueNode.ofBuf ch.queue.numStreams bufSIdx b)) :
    ∀ n ∈ ch'.queue.nodes, P n := by
  cases h with
  | @completes ms lo rest n hNodes _ _ _ hFrame _ =>
    refine forall_insert (fun m hm => hq m ?_) (hStore n (by simp [hNodes]) hFrame)
    rcases List.mem_append.mp hm with hm | hm <;> simp [hNodes, hm]
  | @joins ms rest n hNodes _ hFrame _ =>
    refine forall_insert (fun m hm => hq m ?_) (hStore n (by simp [hNodes]) hFrame)
    rcases List.mem_append.mp hm with hm | hm <;> simp [hNodes, hm]
  | refuses => exact hq
  | @starts ms gone lo hi hNodes _ _ _ _ _ hNum =>
    refine forall_insert (fun m hm => hq m ?_) (hSeveral hNum)
    rw [hNodes]
    rw [List.append_assoc] at hm
    exact mem_append_skip gone hm
  | @startsMatched ms gone lo hi hNodes _ _ _ _ _ hNum =>
    refine forall_insert (fun m hm => hq m ?_) (hOne hNum)
    rw [hNodes]
    rw [List.append_assoc] at hm
    exact mem_append_skip gone hm
  | @noMemory ms gone rest hNodes _ _ =>
    intro m hm
    refine hq m ?_
    rw [hNodes]
    exact mem_append_skip gone hm

theorem wellFilled (h : Enqueue ch nodeAlloc bufSIdx b ch' es) (hb : b.frameIdx ≠ 0)
    (hIdx : bufSIdx < ch.queue.numStreams)
    (hFilled : ∀ n ∈ ch.queue.nodes, n.WellFilled ch.queue.numStreams) :
    ∀ n ∈ ch'.queue.nodes, n.WellFilled ch.queue.numStreams := by
  refine h.forall_nodes hFilled (fun n hn hFrame => (hFilled n hn).store hFrame) ?_ ?_
  · intro hOne
    have hIdx' : bufSIdx = 0 := by omega
    rw [hIdx', hOne]
    exact QueueNode.WellFilled.ofBuf_single hb
  · exact fun hSeveral => QueueNode.WellFilled.ofBuf hIdx hSeveral hb

theorem matched_le (h : Enqueue ch nodeAlloc bufSIdx b ch' es) :
    ch'.queue.nodes.countP QueueNode.matched ≤ ch.queue.nodes.countP QueueNode.matched + 1 := by
  cases h with
  | completes hNodes _ _ hn _ hAll =>
    rw [hNodes]
    simp [List.countP_append, hn, hAll]
    omega
  | joins hNodes hn _ hMissing =>
    rw [hNodes]
    simp [List.countP_append, hn, hMissing]
  | refuses => omega
  | starts hNodes _ _ _ _ _ _ =>
    rw [hNodes]
    simp [List.countP_append, QueueNode.ofBuf]
    omega
  | startsMatched hNodes _ _ _ _ _ _ =>
    rw [hNodes]
    simp [List.countP_append]
    omega
  | noMemory hNodes _ _ =>
    rw [hNodes]
    simp [ChannelQueue.without, List.countP_append]
    omega

/-- The count of the search does not wrap while `max_unmatched_frames` is below 255, so at most one
unmatched superbuf more than that is kept. -/
theorem unmatched_le (h : Enqueue ch nodeAlloc bufSIdx b ch' es)
    (hMax : ch.queue.attr.maxUnmatchedFrames.toNat < 255)
    (hBound : ch.queue.unmatchedCnt ≤ ch.queue.attr.maxUnmatchedFrames.toNat + 1) :
    ch'.queue.unmatchedCnt ≤ ch.queue.attr.maxUnmatchedFrames.toNat + 1 := by
  unfold ChannelQueue.unmatchedCnt at hBound ⊢
  cases h with
  | completes hNodes _ _ hn _ hAll =>
    rw [hNodes] at hBound
    simp [List.countP_append, hn, hAll] at hBound ⊢
    omega
  | joins hNodes hn _ hMissing =>
    rw [hNodes] at hBound
    simp [List.countP_append, hn, hMissing] at hBound ⊢
    omega
  | refuses => exact hBound
  | @starts ms gone lo hi hNodes hms hgone hlo hhi hRoom _ =>
    have hLength : ∀ l : List QueueNode, (∀ m ∈ l, m.matched = false) →
        l.countP (fun n => !n.matched) = l.length :=
      fun l hl => List.countP_eq_length.mpr fun m hm => by simp [hl m hm]
    have hMs : ms.countP (fun n => !n.matched) = 0 :=
      List.countP_eq_zero.mpr fun m hm => by simp [hms m hm]
    have hGone := hLength gone hgone
    have hLo := hLength lo fun m hm => (hlo m hm).1
    have hHi := hLength hi fun m hm => (hhi m hm).1
    rw [hNodes] at hBound
    simp only [List.countP_append, hMs, hGone, hLo, hHi] at hBound
    simp [List.countP_append, hMs, hLo, hHi, QueueNode.ofBuf]
    omega
  | startsMatched hNodes _ _ _ _ _ _ =>
    rw [hNodes] at hBound
    simp [List.countP_append] at hBound ⊢
    omega
  | noMemory hNodes _ _ =>
    rw [hNodes] at hBound
    simp [ChannelQueue.without, List.countP_append] at hBound ⊢
    omega

end Enqueue

theorem SuperbufInv.noneMatched {q : ChannelQueue} (hq : SuperbufInv q)
    (hHead : ∀ n rest, q.nodes = n :: rest → n.matched = false) :
    q.nodes.countP QueueNode.matched = 0 := by
  cases hNodes : q.nodes with
  | nil => rfl
  | cons n rest =>
    have hM := hHead n rest hNodes
    have hOrder := hq.order
    rw [hNodes] at hOrder
    refine countP_unmatched fun m hm => ?_
    rcases List.mem_cons.mp hm with rfl | hm
    · exact hM
    · rcases List.rel_of_pairwise_cons hOrder hm with hMatched | ⟨hm', _⟩
      · rw [hM] at hMatched
        cases hMatched
      · exact hm'

/-- Under the invariant a count above the limit means that the head is matched, so a pass of the
trimming loops takes it off. -/
theorem SuperbufInv.trimPass {limit : Nat} {s s' : ChannelQueue × List Event}
    (hs : SuperbufInv s.1) (h : ChannelQueue.trimPass limit s = some s') :
    SuperbufInv s'.1 ∧ s'.1.nodes.length < s.1.nodes.length := by
  unfold ChannelQueue.trimPass at h
  split at h
  · rename_i hCnt
    rcases s.1.superbufDequeueInternal_cases true with ⟨_, hHead⟩ | ⟨n, rest, hCons, _, hDeq⟩
    · rw [hs.matchCnt, hs.noneMatched fun n rest h => (hHead n rest h).2] at hCnt
      omega
    · rw [hDeq] at h
      cases h
      have hMoves : Moves .default .succeeds s.1 n.releaseBufs (s.1.removeHead n rest) :=
        .leave hCons .released
      exact ⟨hMoves.inv hs, by simp [hCons]⟩
  · cases h

theorem SuperbufInv.trim_returns {q : ChannelQueue} (hq : SuperbufInv q) (limit : Nat) :
    ∃ r, q.superbufTrim limit = .ok r := by
  unfold ChannelQueue.superbufTrim
  split
  · exact ⟨_, rfl⟩
  · obtain ⟨r, hr⟩ := Loop.exec_isSome (ChannelQueue.trimPass limit)
      (fun s => s.1.nodes.length) (fun s => SuperbufInv s.1)
      (fun _ _ hs h => (hs.trimPass h).1) (fun _ _ hs h => (hs.trimPass h).2) (s := (q, [])) hq
      (Nat.lt_succ_self _)
    exact ⟨r, by rw [hr]⟩

end KiwiDevice.Camera

import KiwiDevice.Camera.MatchRuns

/-!
# Requests in burst mode

A request sets `pending_cnt` and every superbuf that is dispatched lowers it. Before the dispatch
the look-back and the overflow have cut the queue. None of this needs an exact `match_cnt`: after a
restart it may count superbufs that are gone, and the loops then cut more or do not return.
-/

namespace KiwiDevice.Camera

open Lib

/-- The entries of a superbuf that go to the callback. -/
def QueueNode.bufs (n : QueueNode) : List (Option BufDef) := n.superBuf.map Slot.buf

def Event.superbufSent : Event → Option (List (Option BufDef))
  | .dispatch bufs => some bufs
  | _ => none

/-- The superbufs that are sent to the callback thread, in that order. -/
def dispatches (es : List Event) : List (List (Option BufDef)) := es.filterMap Event.superbufSent

@[simp] theorem dispatches_append (es es' : List Event) :
    dispatches (es ++ es') = dispatches es ++ dispatches es' :=
  List.filterMap_append

theorem dispatches_dequeued (frameIdx : Nat) (es : List Event) :
    dispatches (.dequeued frameIdx :: es) = dispatches es := rfl

theorem dispatches_of_none {es : List Event} (h : ∀ e ∈ es, e.superbufSent = none) :
    dispatches es = [] :=
  List.filterMap_eq_nil_iff.mpr h

theorem dispatches_of_qbufs {es : List Event} (h : ∀ e ∈ es, ∃ buf, e = .qbuf buf) :
    dispatches es = [] := by
  apply dispatches_of_none
  intro e hMem
  obtain ⟨buf, rfl⟩ := h e hMem
  rfl

/-- The order of the list, apart from the counters. -/
structure OrderedQueue (q : ChannelQueue) : Prop where
  order : q.nodes.Pairwise QueueNode.Precedes
  single : q.numStreams = 1 → ∀ n ∈ q.nodes, n.matched = true

/-- The counters as the list has them. -/
def ChannelQueue.recounted (q : ChannelQueue) : ChannelQueue :=
  { q with
    matchCnt := q.nodes.countP QueueNode.matched % 2 ^ 32
    size := q.nodes.length % 2 ^ 32 }

/-- A queue in burst mode between two commands. -/
structure BurstQueue (q : ChannelQueue) : Prop where
  ordered : OrderedQueue q
  counted : q.nodes.countP QueueNode.matched ≤ q.matchCnt
  small : q.matchCnt < 2 ^ 8
  burst : q.attr.notifyMode = .burst
  mark : q.nodes.countP QueueNode.matched ≤ q.attr.waterMark.toNat

/-- The matched superbufs of the look-back: the last ones in the queue. -/
def ChannelQueue.recentlyMatched (q : ChannelQueue) : List QueueNode :=
  let matched := q.nodes.filter QueueNode.matched
  matched.drop (matched.length - q.attr.lookBack.toNat)

/-- Nothing is dispatched, and the requested number and the attributes stay. -/
structure KeepsRequest (ch : MmChannel) (es : List Event) (ch' : MmChannel) : Prop where
  pendingCnt : ch'.pendingCnt = ch.pendingCnt
  attr : ch'.queue.attr = ch.queue.attr
  quiet : dispatches es = []

variable {alloc : Alloc} {ch ch' ch'' : MmChannel} {q q' q'' : ChannelQueue} {es es' : List Event}
  {b : BufInfo} {cmd : Cmd}

theorem OrderedQueue.of_nil (hNodes : q.nodes = []) : OrderedQueue q := by
  constructor <;> simp [hNodes]

theorem OrderedQueue.recounted (h : OrderedQueue q) : SuperbufInv q.recounted :=
  ⟨h.order, rfl, rfl, h.single⟩

theorem SuperbufInv.ordered (h : SuperbufInv q) : OrderedQueue q := ⟨h.order, h.single⟩

theorem OrderedQueue.matched_nil (h : OrderedQueue q)
    (hHead : ∀ n rest, q.nodes = n :: rest → n.matched = false) : q.matchedQueued = [] := by
  have hNone := h.recounted.noneMatched hHead
  rw [ChannelQueue.matchedQueued, List.map_eq_nil_iff, List.filter_eq_nil_iff]
  exact List.countP_eq_zero.mp hNone

theorem Moves.ordered {camType : CamStreamType} (h : Moves camType alloc q es q')
    (hq : OrderedQueue q) : OrderedQueue q' where
  order := hq.order.sublist h.suffix.sublist
  single hOne n hMem := by
    rw [ChannelQueue.numStreams, h.bundledStreams] at hOne
    exact hq.single hOne n (h.suffix.subset hMem)

theorem Moves.counted {camType : CamStreamType} (h : Moves camType alloc q es q')
    (hq : q.nodes.countP QueueNode.matched ≤ q.matchCnt) :
    q'.nodes.countP QueueNode.matched ≤ q'.matchCnt ∧ q'.matchCnt ≤ q.matchCnt := by
  induction h with
  | retarget h => rw [h.nodes, h.matchCnt]; exact ⟨hq, le_rfl⟩
  | mark _ => exact ⟨hq, le_rfl⟩
  | flushed _ => exact ⟨hq, le_rfl⟩
  | @leave q n rest es hNodes _ =>
    rw [hNodes, List.countP_cons] at hq
    cases hM : n.matched with
    | true =>
      simp only [hM, if_true] at hq
      have hOne : 1 ≤ q.matchCnt := by omega
      have hLess : sub32 q.matchCnt 1 = q.matchCnt - 1 := if_pos hOne
      simp only [ChannelQueue.removeHead, hM, if_true, hLess]
      omega
    | false =>
      simp only [hM, Bool.false_eq_true, if_false, Nat.add_zero] at hq
      simp only [ChannelQueue.removeHead, hM, Bool.false_eq_true, if_false]
      exact ⟨hq, le_rfl⟩
  | trans _ _ ih ih' =>
    obtain ⟨hMid, hLe⟩ := ih hq
    obtain ⟨hEnd, hLe'⟩ := ih' hMid
    exact ⟨hEnd, hLe'.trans hLe⟩

namespace Enqueue

variable {nodeAlloc : Bool} {bufSIdx : Nat}

/-- The outcome does not depend on the counters. -/
theorem recounted (h : Enqueue ch nodeAlloc bufSIdx b ch' es) :
    ∃ ch'', Enqueue (ch.setQueue ch.queue.recounted) nodeAlloc bufSIdx b ch'' es ∧
      ch''.queue.nodes = ch'.queue.nodes ∧
        ch''.queue.bundledStreams = ch'.queue.bundledStreams := by
  cases h with
  | completes hNodes hms hlo hn hFrame hAll =>
    exact ⟨_, .completes hNodes hms hlo hn hFrame hAll, rfl, rfl⟩
  | joins hNodes hn hFrame hMissing => exact ⟨_, .joins hNodes hn hFrame hMissing, rfl, rfl⟩
  | refuses => exact ⟨_, .refuses, rfl, rfl⟩
  | starts hNodes hms hgone hlo hhi hRoom hSeveral =>
    exact ⟨_, .starts hNodes hms hgone hlo hhi hRoom hSeveral, rfl, rfl⟩
  | startsMatched hNodes hms hgone hlo hhi hRoom hOne =>
    exact ⟨_, .startsMatched hNodes hms hgone hlo hhi hRoom hOne, rfl, rfl⟩
  | noMemory hNodes hgone hAlloc => exact ⟨_, .noMemory hNodes hgone hAlloc, rfl, rfl⟩

theorem ordered (h : Enqueue ch nodeAlloc bufSIdx b ch' es) (hq : OrderedQueue ch.queue) :
    OrderedQueue ch'.queue ∧
      ch'.queue.matchedQueued = ch.queue.matchedQueued ++ matchedFrames es := by
  obtain ⟨ch₂, hSame, hNodes, hStreams⟩ := h.recounted
  have hExact : SuperbufInv (ch.setQueue ch.queue.recounted).queue := hq.recounted
  have hAfter := (hExact.enqueue hSame).ordered
  obtain ⟨-, hFrames⟩ := hSame.frames hExact
  constructor
  · constructor
    · rw [← hNodes]
      exact hAfter.order
    · rw [ChannelQueue.numStreams, ← hStreams, ← hNodes]
      exact hAfter.single
  · rw [ChannelQueue.matchedQueued, ← hNodes]
    rcases hFrames with ⟨hNone, hQueued, -⟩ | ⟨hOne, hQueued, -⟩
    · rw [hNone, List.append_nil]
      exact hQueued
    · rw [hOne]
      exact hQueued

theorem counted (h : Enqueue ch nodeAlloc bufSIdx b ch' es)
    (hq : ch.queue.nodes.countP QueueNode.matched ≤ ch.queue.matchCnt)
    (hSmall : ch.queue.matchCnt < 2 ^ 8) :
    ch'.queue.nodes.countP QueueNode.matched ≤ ch'.queue.matchCnt := by
  have hAdd : add32 ch.queue.matchCnt 1 = ch.queue.matchCnt + 1 := by
    unfold add32
    omega
  have hLe := h.matched_le
  cases h with
  | completes => simp only [MmChannel.setQueue_queue, hAdd] at hLe ⊢; omega
  | startsMatched => simp only [MmChannel.setQueue_queue, hAdd] at hLe ⊢; omega
  | refuses => exact hq
  | @joins ms rest n hNodes hn _ hMissing =>
    rw [hNodes] at hq
    simp [List.countP_append, hn, hMissing] at hq ⊢
    exact hq
  | starts hNodes =>
    rw [hNodes] at hq
    simp [List.countP_append, QueueNode.ofBuf] at hq ⊢
    omega
  | noMemory hNodes =>
    rw [hNodes] at hq
    simp [ChannelQueue.without, List.countP_append] at hq ⊢
    omega

end Enqueue

namespace ChannelQueue

theorem drain_quiet (matchedOnly : Bool) {release : QueueNode → List Event}
    (hRelease : ∀ n, ∀ e ∈ release n, ∃ buf, e = .qbuf buf) (n : Nat) (q : ChannelQueue) :
    (drain matchedOnly release n q).1.attr = q.attr ∧
      dispatches (drain matchedOnly release n q).2 = [] := by
  induction n generalizing q with
  | zero => exact ⟨rfl, rfl⟩
  | succ n ih =>
    rw [drain]
    rcases q.superbufDequeueInternal_cases matchedOnly with ⟨hDeq, _⟩ | ⟨m, rest, _, _, hDeq⟩
    · rw [hDeq]
      exact ⟨rfl, rfl⟩
    · rw [hDeq]
      obtain ⟨hAttr, hQuiet⟩ := ih (q.removeHead m rest)
      exact ⟨hAttr, by rw [dispatches_append, dispatches_of_qbufs (hRelease m), hQuiet]; rfl⟩

theorem superbufFlush_quiet (q : ChannelQueue) (camType : CamStreamType) :
    (q.superbufFlush camType).1.attr = q.attr ∧
      dispatches (q.superbufFlush camType).2 = [] := by
  obtain ⟨hAttr, hQuiet⟩ :=
    drain_quiet false (QueueNode.releaseType_qbufs camType) q.nodes.length q
  exact ⟨hAttr, by rw [superbufFlush, dispatches_append, hQuiet]; rfl⟩

theorem superbufTrim_quiet {limit : Nat} {r : ChannelQueue × List Event}
    (h : q.superbufTrim limit = .ok r) : r.1.attr = q.attr ∧ dispatches r.2 = [] := by
  refine superbufTrim_invariant (P := fun s => s.1.attr = q.attr ∧ dispatches s.2 = [])
    ⟨rfl, rfl⟩ ?_ h
  rintro s n rest ⟨hAttr, hQuiet⟩ hCons
  refine ⟨hAttr, ?_⟩
  rw [dispatches_append, hQuiet, dispatches_of_qbufs n.releaseBufs_qbufs]
  rfl

end ChannelQueue

namespace KeepsRequest

theorem refl (ch : MmChannel) : KeepsRequest ch [] ch := ⟨rfl, rfl, rfl⟩

theorem trans (h : KeepsRequest ch es ch') (h' : KeepsRequest ch' es' ch'') :
    KeepsRequest ch (es ++ es') ch'' where
  pendingCnt := h'.pendingCnt.trans h.pendingCnt
  attr := h'.attr.trans h.attr
  quiet := by rw [dispatches_append, h.quiet, h'.quiet]; rfl

end KeepsRequest

namespace MmChannel

theorem setExpected_keeps (ch : MmChannel) (frameIdx : Nat) :
    KeepsRequest ch [] (ch.setExpected frameIdx) := ⟨rfl, rfl, rfl⟩

theorem superbufFlush_keeps (ch : MmChannel) (camType : CamStreamType) :
    KeepsRequest ch (ch.superbufFlush camType).2 (ch.superbufFlush camType).1 := by
  obtain ⟨hAttr, hQuiet⟩ := ch.queue.superbufFlush_quiet camType
  exact ⟨rfl, hAttr, hQuiet⟩

theorem superbufFlushMatched_keeps (ch : MmChannel) :
    KeepsRequest ch ch.superbufFlushMatched.2 ch.superbufFlushMatched.1 := by
  obtain ⟨hAttr, hQuiet⟩ :=
    ChannelQueue.drain_quiet true QueueNode.releaseBufs_qbufs ch.queue.nodes.length ch.queue
  exact ⟨rfl, hAttr, hQuiet⟩

theorem resetFrameId_keeps (ch : MmChannel) (metadata : MetadataInfo) :
    KeepsRequest ch (ch.resetFrameId metadata).2 (ch.resetFrameId metadata).1 := by
  unfold resetFrameId
  split
  · have hFlush := ch.superbufFlush_keeps .default
    exact ⟨hFlush.pendingCnt, hFlush.attr, hFlush.quiet⟩
  · exact .refl ch

theorem awaitZoom1x_keeps (ch : MmChannel) (found : Bool) :
    KeepsRequest ch (ch.awaitZoom1x b found).2 (ch.awaitZoom1x b found).1 := by
  unfold awaitZoom1x
  split
  · exact ⟨rfl, rfl, rfl⟩
  · exact (ch.setExpected_keeps _).trans (superbufFlushMatched_keeps _)

theorem adjustForSnapshot_keeps (ch : MmChannel) (metadata : MetadataInfo) :
    KeepsRequest ch (ch.adjustForSnapshot metadata).2 (ch.adjustForSnapshot metadata).1 := by
  unfold adjustForSnapshot
  split
  · split
    · have hFlush := (ch.setExpected_keeps (add32 ch.queue.expectedFrameId
        maxFutureFrameOffset)).trans (superbufFlush_keeps _ .default)
      exact ⟨hFlush.pendingCnt, hFlush.attr, hFlush.quiet⟩
    · exact ⟨rfl, rfl, rfl⟩
  · split
    · exact ch.setExpected_keeps _
    · split
      · have hFlush := ch.superbufFlushMatched_keeps
        exact ⟨hFlush.pendingCnt, hFlush.attr, hFlush.quiet⟩
      · exact .refl ch

theorem adjustForRange_keeps (ch : MmChannel) (metadata : MetadataInfo) :
    KeepsRequest ch [] (ch.adjustForRange metadata) := by
  unfold adjustForRange
  split
  · exact ⟨rfl, rfl, rfl⟩
  · split
    · exact ⟨rfl, rfl, rfl⟩
    · exact .refl ch

theorem handleMetadata_keeps {rc : Int} (h : ch.handleMetadata b = .ok (rc, ch', es)) :
    KeepsRequest ch es ch' :=
  handleMetadata_rel .refl .trans resetFrameId_keeps awaitZoom1x_keeps adjustForSnapshot_keeps
    adjustForRange_keeps h

end MmChannel

theorem Enqueue.keeps {nodeAlloc : Bool} {bufSIdx : Nat}
    (h : Enqueue ch nodeAlloc bufSIdx b ch' es) : KeepsRequest ch es ch' := by
  have hReleased : ∀ nodes : List QueueNode,
      dispatches (nodes.flatMap QueueNode.releaseFilled) = [] :=
    fun nodes => dispatches_of_qbufs (QueueNode.releaseFilled_flatMap_qbufs nodes)
  cases h with
  | completes => exact ⟨rfl, rfl, hReleased _⟩
  | joins => exact ⟨rfl, rfl, rfl⟩
  | refuses => exact ⟨rfl, rfl, rfl⟩
  | starts => exact ⟨rfl, rfl, hReleased _⟩
  | startsMatched => exact ⟨rfl, rfl, by rw [dispatches_append, hReleased]; rfl⟩
  | noMemory => exact ⟨rfl, rfl, by rw [dispatches_append, hReleased]; rfl⟩

/-- What the commands before the dispatch leave: the order of the queue, a counter that is not too
low, and the superbufs in the order of their matches. -/
structure Handled (ch : MmChannel) (es : List Event) (ch' : MmChannel) : Prop where
  ordered : OrderedQueue ch'.queue
  counted : ch'.queue.nodes.countP QueueNode.matched ≤ ch'.queue.matchCnt
  follows : ch'.queue.matchedQueued <:+ ch.queue.matchedQueued ++ matchedFrames es

theorem Moves.follows {camType : CamStreamType} (h : Moves camType alloc q es q') :
    matchedFrames es = [] ∧ q'.matchedQueued <:+ q.matchedQueued := by
  obtain ⟨hNone, gone, hGone, -⟩ := h.frames
  exact ⟨hNone, gone, hGone.symm⟩

theorem Handled.ofMoves {camType : CamStreamType} (hq : BurstQueue ch.queue)
    (h : Moves camType alloc ch.queue es ch'.queue) : Handled ch es ch' where
  ordered := h.ordered hq.ordered
  counted := (h.counted hq.counted).1
  follows := by
    obtain ⟨hNone, hSuffix⟩ := h.follows
    rw [hNone, List.append_nil]
    exact hSuffix

theorem Delivered.handled (h : Delivered alloc ch b es ch') (hq : BurstQueue ch.queue) :
    Handled ch es ch' ∧ KeepsRequest ch es ch' := by
  rcases h.outcome hq.ordered.order with
    ⟨-, rfl, rfl⟩ | ⟨ch₁, es₁, es₂, bufSIdx, rfl, -, ⟨rc, hMeta⟩, hMoves, hEnqueue, -⟩
  · have hRefl : Moves .default alloc ch'.queue [] ch'.queue := .refl _
    exact ⟨.ofMoves hq hRefl, .refl _⟩
  · obtain ⟨hNone, hSuffix⟩ := hMoves.follows
    obtain ⟨hCounted, hLe⟩ := hMoves.counted hq.counted
    obtain ⟨hOrdered, hQueued⟩ := hEnqueue.ordered (hMoves.ordered hq.ordered)
    refine ⟨⟨hOrdered, hEnqueue.counted hCounted (hLe.trans_lt hq.small), ?_⟩,
      (MmChannel.handleMetadata_keeps hMeta).trans hEnqueue.keeps⟩
    rw [hQueued, matchedFrames_append, hNone, List.nil_append]
    obtain ⟨gone, hGone⟩ := hSuffix
    exact ⟨gone, by rw [← hGone, List.append_assoc]⟩

/-- The requested number after the command was handled. -/
def Cmd.requested (cmd : Cmd) (pendingCnt : Nat) : Nat :=
  match cmd with
  | .reqDataCb numBufRequested => numBufRequested
  | _ => pendingCnt

/-- The command does not leave the burst mode. -/
def Cmd.StaysBurst (cmd : Cmd) : Prop := ∀ mode, cmd = .configNotify mode → mode = .burst

/-- The superbufs that the dispatch loop takes, each for one request, until no request is left or no
matched superbuf. -/
structure Sent (ch : MmChannel) (es : List Event) (ch' : MmChannel) (sent : List QueueNode) :
    Prop where
  nodes : ch.queue.nodes = sent ++ ch'.queue.nodes
  matched : ∀ n ∈ sent, n.matched = true
  counted : sent.length + ch'.pendingCnt = ch.pendingCnt
  events : (dispatches es).Sublist (sent.map QueueNode.bufs)
  attr : ch'.queue.attr = ch.queue.attr
  done : ch'.pendingCnt = 0 ∨ ∀ n rest, ch'.queue.nodes = n :: rest → n.matched = false

namespace MmChannel

theorem countBurst_burst (ch : MmChannel) (h : 0 < ch.pendingCnt) :
    (ch.countBurst .burst).1.pendingCnt + 1 = ch.pendingCnt ∧
      dispatches (ch.countBurst .burst).2 = [] := by
  have hOne : sub32 ch.pendingCnt 1 = ch.pendingCnt - 1 := if_pos h
  rw [countBurst, if_pos rfl, hOne]
  dsimp only
  split
  · exact ⟨by simp only; omega, rfl⟩
  · exact ⟨by simp only; omega, rfl⟩

theorem sendSuperbuf_dispatches (ch : MmChannel) (alloc : Alloc) (pass : Nat) (n : QueueNode) :
    (dispatches (ch.sendSuperbuf alloc pass n)).Sublist [n.bufs] := by
  unfold sendSuperbuf
  split
  · rw [dispatches_of_none (by simp [Event.superbufSent])]
    exact List.nil_sublist _
  · split
    · exact .refl _
    · exact List.nil_sublist _

theorem dispatchLoop_sent (alloc : Alloc) (n pass : Nat) (ch : MmChannel)
    (hn : ch.queue.nodes.length ≤ n) :
    ∃ sent, Sent ch (dispatchLoop alloc .burst n pass ch).2 (dispatchLoop alloc .burst n pass ch).1
      sent := by
  induction n generalizing pass ch with
  | zero =>
    have hNil : ch.queue.nodes = [] := List.length_eq_zero_iff.mp (Nat.le_zero.mp hn)
    refine ⟨[], rfl, by simp, by simp [dispatchLoop], .slnil, rfl, .inr ?_⟩
    rintro m rest hCons
    rw [dispatchLoop, hNil] at hCons
    cases hCons
  | succ n ih =>
    rw [dispatchLoop]
    split
    · rename_i hGoes
      have hPending : 0 < ch.pendingCnt := by
        rcases hGoes with hPos | hMode
        · exact hPos
        · cases hMode
      unfold ChannelQueue.superbufDequeue
      rcases ch.queue.superbufDequeueInternal_cases true with
        ⟨hDeq, hStop⟩ | ⟨m, rest, hCons, hM, hDeq⟩
      · rw [hDeq]
        refine ⟨[], rfl, by simp, by simp, .slnil, rfl, .inr ?_⟩
        rintro m rest hCons
        exact (hStop m rest hCons).2
      · rw [hDeq]
        obtain ⟨hQueue, -⟩ := (ch.setQueue (ch.queue.removeHead m rest)).countBurst_marks .burst
        obtain ⟨hCount, hQuiet⟩ :=
          countBurst_burst (ch.setQueue (ch.queue.removeHead m rest)) hPending
        have hLength : rest.length ≤ n := by
          rw [hCons, List.length_cons] at hn
          omega
        obtain ⟨sent, hSent⟩ := ih (pass + 1)
          ((ch.setQueue (ch.queue.removeHead m rest)).countBurst .burst).1
          (by rw [hQueue]; exact hLength)
        have hNodes := hSent.nodes
        have hAttr := hSent.attr
        rw [hQueue] at hNodes hAttr
        refine ⟨m :: sent, ?_, ?_, ?_, ?_, hAttr, hSent.done⟩
        · rw [hCons, List.cons_append, ← hNodes]
          rfl
        · simp only [List.mem_cons, forall_eq_or_imp]
          exact ⟨hM rfl, hSent.matched⟩
        · have hTaken := hSent.counted
          have hSame : (ch.setQueue (ch.queue.removeHead m rest)).pendingCnt = ch.pendingCnt := rfl
          simp only [List.length_cons]
          omega
        · rw [dispatches_append, dispatches_dequeued, dispatches_append, hQuiet, List.nil_append]
          exact (sendSuperbuf_dispatches _ alloc pass m).append hSent.events
    · rename_i hStops
      refine ⟨[], rfl, by simp, by simp, .slnil, rfl, .inl ?_⟩
      simp only [gt_iff_lt, reduceCtorEq, or_false, not_lt, Nat.le_zero] at hStops
      exact hStops

theorem handleCmd_keeps (h : ch.handleCmd alloc cmd = .ok (ch', es)) (hq : BurstQueue ch.queue)
    (hStays : cmd.StaysBurst) :
    Handled ch es ch' ∧ ch'.pendingCnt = cmd.requested ch.pendingCnt ∧
      ch'.queue.attr = ch.queue.attr ∧ dispatches es = [] := by
  rcases handleCmd_ok h with ⟨b, rfl, hDelivered⟩ | ⟨hNot, hMoves⟩
  · obtain ⟨hHandled, hKeeps⟩ := hDelivered.handled hq
    exact ⟨hHandled, hKeeps.pendingCnt, hKeeps.attr, hKeeps.quiet⟩
  · refine ⟨.ofMoves hq hMoves, ?_⟩
    cases cmd with
    | dataCb b => exact absurd rfl (hNot b)
    | reqDataCb numBufRequested =>
      simp only [handleCmd, superbufSkip] at h
      cases hSkip : ch.queue.superbufSkip with
      | error fault =>
        rw [hSkip] at h
        cases h
      | ok r =>
        rw [hSkip] at h
        cases h
        obtain ⟨hAttr, hQuiet⟩ := ChannelQueue.superbufTrim_quiet hSkip
        rw [(requestZsl_marks _).1, dispatches_append, hQuiet]
        refine ⟨?_, hAttr, ?_⟩
        · unfold requestZsl
          split
          · rfl
          · split <;> rfl
        · apply dispatches_of_none
          intro e hMem
          have hMark := (requestZsl_marks _).2 e hMem
          cases e with
          | dispatch bufs => exact hMark.elim
          | _ => rfl
    | configNotify mode =>
      cases h
      have hMode := hStays mode rfl
      refine ⟨rfl, ?_, rfl⟩
      rw [setQueue_queue, hMode, ← hq.burst]
    | flushQueue frameIdx streamType =>
      cases h
      have hFlush := (ch.setExpected_keeps frameIdx).trans (superbufFlush_keeps _ streamType)
      exact ⟨hFlush.pendingCnt, hFlush.attr, hFlush.quiet⟩
    | general type start =>
      cases type with
      | flashBracketing => cases h; exact ⟨rfl, rfl, rfl⟩
      | zoom1x => cases h; exact ⟨rfl, rfl, rfl⟩
      | _ =>
        cases h
        have hFlush := ch.superbufFlush_keeps .default
        exact ⟨hFlush.pendingCnt, hFlush.attr, hFlush.quiet⟩
    | _ =>
      cases h
      exact ⟨rfl, rfl, rfl⟩

/-- The overflow is cut to the water mark, then superbufs are taken off the head. -/
theorem finishCmd_burst {handled : MmChannel × List Event}
    (h : finishCmd alloc handled = .ok (ch', es))
    (hMode : handled.1.queue.attr.notifyMode = .burst) (hOrdered : OrderedQueue handled.1.queue)
    (hCounted : handled.1.queue.nodes.countP QueueNode.matched ≤ handled.1.queue.matchCnt)
    (hQuiet : dispatches handled.2 = []) :
    BurstQueue ch'.queue ∧ ∃ cut es₂ sent, cut.queue.nodes <:+ handled.1.queue.nodes ∧
      cut.pendingCnt = handled.1.pendingCnt ∧ cut.queue.attr = handled.1.queue.attr ∧
        Sent cut es₂ ch' sent ∧ dispatches es = dispatches es₂ := by
  simp only [finishCmd, superbufBufdoneOverflow] at h
  cases hTrim : handled.1.queue.superbufBufdoneOverflow with
  | error fault =>
    rw [hTrim] at h
    cases h
  | ok r =>
    rw [hTrim] at h
    cases h
    obtain ⟨hMoves, -, -, hCut⟩ := ChannelQueue.superbufTrim_ok .default alloc hTrim
    obtain ⟨hAttr, hTrimQuiet⟩ := ChannelQueue.superbufTrim_quiet hTrim
    have hMark := hCut (by rw [hMode]; decide)
    obtain ⟨hTrimmed, -⟩ := hMoves.counted hCounted
    rw [hMode]
    obtain ⟨hSendMoves, -, -⟩ := dispatchLoop_moves .default alloc .burst r.1.nodes.length 0
      (handled.1.setQueue r.1)
    obtain ⟨sent, hSent⟩ := dispatchLoop_sent alloc r.1.nodes.length 0 (handled.1.setQueue r.1)
      le_rfl
    obtain ⟨hLeft, hLe⟩ := hSendMoves.counted hTrimmed
    have hSame := hSent.attr.trans hAttr
    have hByte := handled.1.queue.attr.waterMark.toNat_lt
    have hFits := hLe.trans hMark
    dsimp only [setQueue_queue]
    constructor
    · constructor
      · exact hSendMoves.ordered (hMoves.ordered hOrdered)
      · exact hLeft
      · exact hFits.trans_lt hByte
      · rw [hSame]
        exact hMode
      · rw [hSame]
        exact hLeft.trans hFits
    · refine ⟨handled.1.setQueue r.1, _, sent, hMoves.suffix, rfl, hAttr, hSent, ?_⟩
      simp only [dispatches_append, hQuiet, hTrimQuiet, List.nil_append]

/-- What one command does in burst mode: it dispatches no more than is requested, what stays queued
fits the water mark and is what was matched last. -/
structure BurstStep (ch : MmChannel) (cmd : Cmd) (es : List Event) (ch' : MmChannel) : Prop where
  queue : BurstQueue ch'.queue
  follows : ch'.queue.matchedQueued <:+ ch.queue.matchedQueued ++ matchedFrames es
  counted : (dispatches es).length + ch'.pendingCnt ≤ cmd.requested ch.pendingCnt
  attr : ch'.queue.attr = ch.queue.attr

theorem processStreamBuf_burst (h : processStreamBuf alloc ch cmd = .ok (ch', es))
    (hq : BurstQueue ch.queue) (hStays : cmd.StaysBurst) : BurstStep ch cmd es ch' := by
  have hFollows : ∀ {ch₁ : MmChannel} {es₁ : List Event}, Handled ch es₁ ch₁ → ∀ es₂,
      Moves .default alloc ch₁.queue es₂ ch'.queue → es = es₁ ++ es₂ →
        ch'.queue.matchedQueued <:+ ch.queue.matchedQueued ++ matchedFrames es := by
    rintro ch₁ es₁ hHandled es₂ hTrail rfl
    obtain ⟨hNone, hSuffix⟩ := hTrail.follows
    rw [matchedFrames_append, hNone, List.append_nil]
    exact hSuffix.trans hHandled.follows
  obtain ⟨ch₁, es₁, es₂, hCmd, hEs, hTrail, -⟩ := processStreamBuf_trail h
  obtain ⟨⟨ch₂, es₃⟩, hCmd', hEnd⟩ := processStreamBuf_ok h
  rw [hCmd] at hCmd'
  cases hCmd'
  obtain ⟨hHandled, hPending, hAttr, hQuiet⟩ := handleCmd_keeps hCmd hq hStays
  have hTail := hFollows hHandled es₂ hTrail hEs
  rcases hEnd with ⟨frameIdx, streamType, rfl, hSame⟩ | hFinish
  · cases hSame
    have hLess := hTrail.matched_le
    obtain ⟨-, hMoves⟩ := (handleCmd_ok hCmd).resolve_left (by simp)
    have hCount := hMoves.counted hq.counted
    refine ⟨⟨hHandled.ordered, hHandled.counted, hCount.2.trans_lt hq.small, ?_, ?_⟩, hTail, ?_,
      hAttr⟩
    · rw [hAttr]
      exact hq.burst
    · rw [hAttr]
      exact hMoves.matched_le.trans hq.mark
    · rw [hQuiet, hPending]
      simp
  · have hMode : ch₁.queue.attr.notifyMode = .burst := by rw [hAttr]; exact hq.burst
    obtain ⟨hQueue, cut, es₄, sent, -, hCutPending, hCutAttr, hSent, hDispatches⟩ :=
      finishCmd_burst hFinish hMode hHandled.ordered hHandled.counted hQuiet
    refine ⟨hQueue, hTail, ?_, hSent.attr.trans (hCutAttr.trans hAttr)⟩
    have hLength := hSent.events.length_le
    have hCounted := hSent.counted
    rw [List.length_map] at hLength
    rw [hDispatches, ← hPending, ← hCutPending]
    omega

theorem handleCmd_skips {numBufRequested : Nat}
    (h : ch.handleCmd alloc (.reqDataCb numBufRequested) = .ok (ch', es))
    (hMode : ch.queue.attr.notifyMode = .burst) :
    ch'.queue.nodes <:+ ch.queue.nodes ∧ ch'.queue.matchCnt ≤ ch.queue.attr.lookBack.toNat := by
  simp only [handleCmd, superbufSkip] at h
  cases hSkip : ch.queue.superbufSkip with
  | error fault =>
    rw [hSkip] at h
    cases h
  | ok r =>
    rw [hSkip] at h
    cases h
    obtain ⟨hMoves, -, -, hCut⟩ := ChannelQueue.superbufTrim_ok .default alloc hSkip
    rw [(requestZsl_marks _).1]
    exact ⟨hMoves.suffix, hCut (by rw [hMode]; decide)⟩

/-- The superbufs that a request dispatches at once are among those of the look-back, and no matched
one is left if the request is not met. -/
theorem reqDataCb_recent {numBufRequested : Nat}
    (h : processStreamBuf alloc ch (.reqDataCb numBufRequested) = .ok (ch', es))
    (hq : BurstQueue ch.queue) :
    (dispatches es).Sublist (ch.queue.recentlyMatched.map QueueNode.bufs) ∧
      (ch'.pendingCnt = 0 ∨ ch'.queue.matchedQueued = []) := by
  obtain ⟨⟨ch₁, es₁⟩, hCmd, hEnd⟩ := processStreamBuf_ok h
  obtain ⟨hHandled, hPending, hAttr, hQuiet⟩ := handleCmd_keeps hCmd hq (by rintro mode ⟨⟩)
  have hFinish := hEnd.resolve_left (by simp)
  have hMode : ch₁.queue.attr.notifyMode = .burst := by rw [hAttr]; exact hq.burst
  obtain ⟨hQueue, cut, es₂, sent, hCut, -, -, hSent, hDispatches⟩ :=
    finishCmd_burst hFinish hMode hHandled.ordered hHandled.counted hQuiet
  constructor
  · obtain ⟨hSkipped, hLook⟩ := handleCmd_skips hCmd hq.burst
    have hCount : (cut.queue.nodes.filter QueueNode.matched).length ≤
        ch.queue.attr.lookBack.toNat := by
      rw [← List.countP_eq_length_filter]
      exact (hCut.sublist.countP_le).trans (hHandled.counted.trans hLook)
    have hSuffix : cut.queue.nodes.filter QueueNode.matched <:+ ch.queue.recentlyMatched := by
      apply List.suffix_of_suffix_length_le ((hCut.trans hSkipped).filter QueueNode.matched)
        (List.drop_suffix _ _)
      have hLe := ((hCut.trans hSkipped).filter QueueNode.matched).length_le
      rw [List.length_drop]
      omega
    have hTaken : sent.Sublist (cut.queue.nodes.filter QueueNode.matched) := by
      rw [hSent.nodes, List.filter_append, List.filter_eq_self.mpr hSent.matched]
      exact List.sublist_append_left _ _
    rw [hDispatches]
    exact hSent.events.trans ((hTaken.trans hSuffix.sublist).map QueueNode.bufs)
  · rcases hSent.done with hNone | hHead
    · exact .inl hNone
    · exact .inr (hQueue.ordered.matched_nil hHead)

end MmChannel

end KiwiDevice.Camera

import KiwiDevice.Camera.SlotFrame

/-!
# Buffers of borrowed streams in the superbuf queue

The first flush of a stopping channel takes every superbuf off the queue but gives back the buffers
of one type only, and only those whose slot is not cleared yet. The exact condition under which the
borrowed streams get all their buffers back follows from that.
-/

namespace KiwiDevice.Camera

namespace MmStream

/-- The reference count of a buffer. -/
def refcnt (s : MmStream) (idx : Nat) : Nat := (s.status idx).bufRefcnt

theorem refcnt_setStatus_of_ne (s : MmStream) {i j : Nat} (status : BufStatus) (h : j ≠ i) :
    (s.setStatus i status).refcnt j = s.refcnt j := by
  rw [refcnt, refcnt, MmStream.status, MmStream.status, setStatus]
  cases s.bufStatus with
  | none => rfl
  | some l =>
    change ((l.set i status)[j]?.getD {}).bufRefcnt = _
    rw [List.getElem?_set_ne h.symm]
    rfl

theorem refcnt_setStatus (s : MmStream) (i : Nat) (status : BufStatus) :
    (s.setStatus i status).refcnt i = status.bufRefcnt ∨
      (s.setStatus i status).refcnt i = 0 ∧ s.refcnt i = 0 := by
  rw [refcnt, refcnt, MmStream.status, MmStream.status, setStatus]
  cases s.bufStatus with
  | none => exact .inr ⟨rfl, rfl⟩
  | some l =>
    change ((l.set i status)[i]?.getD {}).bufRefcnt = _ ∨
      ((l.set i status)[i]?.getD {}).bufRefcnt = 0 ∧ (l[i]?.getD {}).bufRefcnt = 0
    by_cases hi : i < l.length
    · left
      rw [List.getElem?_set_self hi]
      rfl
    · right
      rw [List.getElem?_eq_none (by rw [List.length_set]; omega),
        List.getElem?_eq_none (by omega)]
      exact ⟨rfl, rfl⟩

theorem qbuf_refcnt (s : MmStream) (d : Driver) (result : QbufResult) (i : Nat) :
    (s.qbuf d result).1.refcnt i = s.refcnt i := by
  cases result <;> rfl

theorem bufDone_refcnt (s : MmStream) (d : Driver) (frame : BufDef) (result : QbufResult)
    (i : Nat) :
    (s.bufDone d frame result).1.refcnt i =
      if i = frame.bufIdx then s.refcnt i - 1 else s.refcnt i := by
  have hSet : ∀ (t : MmStream) (status : BufStatus),
      (t.refcnt frame.bufIdx = 0 → s.refcnt frame.bufIdx - 1 = 0) →
      (∀ j, j ≠ frame.bufIdx → t.refcnt j = s.refcnt j) →
      status.bufRefcnt = s.refcnt frame.bufIdx - 1 →
      (t.setStatus frame.bufIdx status).refcnt i =
        if i = frame.bufIdx then s.refcnt i - 1 else s.refcnt i := by
    intro t status hZero hOther hCount
    split
    · rename_i hi
      subst hi
      obtain h | ⟨h, hNone⟩ := t.refcnt_setStatus frame.bufIdx status
      · rw [h, hCount]
      · rw [h, hZero hNone]
    · rename_i hi
      rw [t.refcnt_setStatus_of_ne status hi, hOther i hi]
  have hDrop := hSet s { s.status frame.bufIdx with
    bufRefcnt := (s.status frame.bufIdx).bufRefcnt - 1 } (by omega) (fun _ _ => rfl) rfl
  simp only [bufDone]
  split
  · rename_i hZero
    split
    · rename_i hi
      subst hi
      rw [refcnt, hZero]
    · rfl
  · split
    · rename_i hLast
      split
      · refine hSet _ _ (fun _ => hLast) ?_ hLast.symm
        intro j hj
        rw [qbuf_refcnt, refcnt_setStatus_of_ne _ _ hj]
      · rw [qbuf_refcnt]
        exact hDrop
    · exact hDrop

theorem bufDone_state (s : MmStream) (d : Driver) (frame : BufDef) (result : QbufResult) :
    (s.bufDone d frame result).1.state = s.state := by
  simp only [bufDone]
  split
  · rfl
  · split
    · split
      · exact qbuf_state _ d result
      · exact qbuf_state _ d result
    · rfl

end MmStream

/-- The buffer is of a type that a flush of `camType` gives back. -/
def BufDef.flushedBy (camType : CamStreamType) (buf : BufDef) : Bool :=
  .default == camType || camType == buf.streamType

namespace ChannelQueue

theorem releaseType_eq (camType : CamStreamType) (n : QueueNode) :
    n.releaseType camType =
      ((n.superBuf.filterMap Slot.buf).filter (BufDef.flushedBy camType)).map
        fun b => .qbuf (some b) := by
  rw [QueueNode.releaseType]
  induction n.superBuf with
  | nil => rfl
  | cons s rest ih =>
    cases s with
    | none => exact ih
    | some info =>
      by_cases hType : .default = camType ∨ camType = info.buf.streamType
      · have hFlushed : info.buf.flushedBy camType = true := by
          rwa [BufDef.flushedBy, Bool.or_eq_true, beq_iff_eq, beq_iff_eq]
        simp only [List.filterMap_cons, Slot.buf, hType, if_true, List.filter_cons, hFlushed,
          List.map_cons]
        exact congrArg _ ih
      · have hKept : info.buf.flushedBy camType = false := by
          rw [Bool.eq_false_iff, ne_eq, BufDef.flushedBy, Bool.or_eq_true, beq_iff_eq, beq_iff_eq]
          exact hType
        simp only [List.filterMap_cons, Slot.buf, hType, if_false, List.filter_cons, hKept,
          Bool.false_eq_true]
        exact ih

theorem drain_all (release : QueueNode → List Event) (n : Nat) (q : ChannelQueue)
    (hn : q.nodes.length ≤ n) : (drain false release n q).2 = q.nodes.flatMap release := by
  induction n generalizing q with
  | zero =>
    rw [List.length_eq_zero_iff.mp (Nat.le_zero.mp hn)]
    rfl
  | succ n ih =>
    rw [drain]
    obtain ⟨hDeq, hStop⟩ | ⟨m, rest, hCons, _, hDeq⟩ := q.superbufDequeueInternal_cases false
    · rw [hDeq]
      cases hNodes : q.nodes with
      | nil => rfl
      | cons m rest => cases (hStop m rest hNodes).1
    · rw [hDeq, hCons, List.flatMap_cons]
      have hLength : rest.length ≤ n := by
        rw [hCons, List.length_cons] at hn
        omega
      exact congrArg (release m ++ ·) (ih (q.removeHead m rest) hLength)

end ChannelQueue

/-- What a flush of a channel's queue hands to `mm_channel_qbuf`. -/
theorem MmChannel.superbufFlush_events (ch : MmChannel) (camType : CamStreamType) :
    (ch.superbufFlush camType).2 =
      ((ch.heldBufs.filter (BufDef.flushedBy camType)).map fun b => .qbuf (some b)) ++
        [.flush] := by
  have hDrain := ChannelQueue.drain_all (QueueNode.releaseType camType) ch.queue.nodes.length
    ch.queue (Nat.le_refl _)
  change (ChannelQueue.drain false (QueueNode.releaseType camType) ch.queue.nodes.length
    ch.queue).2 ++ [.flush] = _
  rw [hDrain, MmChannel.heldBufs]
  congr 1
  induction ch.queue.nodes with
  | nil => rfl
  | cons n rest ih =>
    rw [List.flatMap_cons, List.flatMap_cons, List.filter_append, List.map_append, ih,
      ChannelQueue.releaseType_eq]

namespace ChannelWorld

variable {w w' : ChannelWorld}

/-- The reference count of a buffer of a borrowed stream. -/
def refcnt (w : ChannelWorld) (p idx : Nat) : Nat := (w.linked p).1.refcnt idx

/-- The buffer is redirected to the borrowed stream `p` and has the index `idx` there. -/
def goesTo (ch : MmChannel) (p idx : Nat) (buf : BufDef) : Bool :=
  ch.route buf == some p && buf.bufIdx == idx

/-- The borrowed streams that `mm_channel_qbuf` can reach are running. -/
def LinkedActive (w : ChannelWorld) : Prop :=
  ∀ buf p, w.ch.route buf = some p → (w.linked p).1.state = .active

/-- `mm_channel_qbuf` gives the buffer to the stream it is redirected to, and leaves the other
borrowed streams alone. -/
theorem qbuf_effect (r : ChannelResults) (buf : BufDef) (hActive : w.LinkedActive) :
    (w.qbuf r buf).ch.bundle = w.ch.bundle ∧
      MmChannel.Unlinked w.ch (w.qbuf r buf).ch [] ∧
      (∀ p, ((w.qbuf r buf).linked p).1.state = (w.linked p).1.state) ∧
      ∀ p idx, (w.qbuf r buf).refcnt p idx =
        if goesTo w.ch p idx buf then w.refcnt p idx - 1 else w.refcnt p idx := by
  have hElse : w.ch.route buf = none → ∀ p idx,
      w.refcnt p idx = if goesTo w.ch p idx buf then w.refcnt p idx - 1 else w.refcnt p idx := by
    intro hNone p idx
    rw [goesTo, hNone]
    rfl
  rw [qbuf]
  split
  · rename_i hSlot
    exact ⟨rfl, .refl w.ch, fun _ => rfl, hElse (by rw [MmChannel.route, hSlot]; rfl)⟩
  · rename_i k hSlot
    split
    · rename_i hs
      exact ⟨rfl, .refl w.ch, fun _ => rfl, hElse (by rw [MmChannel.route, hSlot]; simp [hs])⟩
    · rename_i s hs
      have hRoute : w.ch.route buf = if w.ch.isOwn s then none else s.linkedStream := by
        rw [MmChannel.route, hSlot, Option.bind_some, hs, Option.bind_some]
      split
      · rename_i hOwn
        obtain ⟨hLinked, hBundle, hSlots⟩ := w.streamEvent_frame r (.qbuf buf) k
        refine ⟨hBundle, hSlots, fun p => by rw [hLinked], fun p idx => ?_⟩
        rw [refcnt, hLinked]
        exact hElse (by rw [hRoute, if_pos hOwn]) p idx
      · rename_i hOwn
        rw [if_neg hOwn] at hRoute
        split
        · rename_i hNone
          exact ⟨rfl, .refl w.ch, fun _ => rfl, hElse (hRoute.trans hNone)⟩
        · rename_i p₀ hTo
          have hState := hActive buf p₀ (hRoute.trans hTo)
          have hEvent : (w.linked p₀).1.fsmFn (w.linked p₀).2 (.qbuf buf) (r.linked p₀) =
              (w.linked p₀).1.bufDone (w.linked p₀).2 buf ((r.linked p₀).qbuf buf.bufIdx) := by
            simp only [MmStream.fsmFn, hState]
          refine ⟨rfl, .refl w.ch, fun p => ?_, fun p idx => ?_⟩
          · by_cases hp : p = p₀
            · subst hp
              simp only [linkedEvent, setLinked, Function.update_self, hEvent]
              exact MmStream.bufDone_state _ _ _ _
            · simp only [linkedEvent, setLinked, Function.update_of_ne hp]
          · rw [goesTo, hRoute, hTo]
            by_cases hp : p = p₀
            · subst hp
              simp only [linkedEvent, refcnt, setLinked, Function.update_self, hEvent,
                MmStream.bufDone_refcnt, beq_self_eq_true, Bool.true_and, beq_iff_eq]
              by_cases hIdx : idx = buf.bufIdx
              · rw [if_pos hIdx, if_pos hIdx.symm]
              · rw [if_neg hIdx, if_neg (Ne.symm hIdx)]
            · have hNe : (some p₀ == some p) = false := by
                rw [beq_eq_false_iff_ne]
                rintro ⟨⟩
                exact hp rfl
              simp only [linkedEvent, refcnt, setLinked, Function.update_of_ne hp, hNe,
                Bool.false_and, Bool.false_eq_true, if_false]

/-- A list of buffers is given back: each borrowed stream gets those that are redirected to it. -/
theorem qbufs_effect (r : ChannelResults) (bufs : List BufDef) (hActive : w.LinkedActive)
    (hDistinct : w.ch.DistinctHandles)
    (hEnough : ∀ p idx, bufs.countP (goesTo w.ch p idx) ≤ w.refcnt p idx) :
    (bufs.foldl (fun w b => w.qbuf r b) w).ch.bundle = w.ch.bundle ∧
      MmChannel.Unlinked w.ch (bufs.foldl (fun w b => w.qbuf r b) w).ch [] ∧
      (∀ p, ((bufs.foldl (fun w b => w.qbuf r b) w).linked p).1.state = (w.linked p).1.state) ∧
      ∀ p idx, (bufs.foldl (fun w b => w.qbuf r b) w).refcnt p idx +
        bufs.countP (goesTo w.ch p idx) = w.refcnt p idx := by
  induction bufs generalizing w with
  | nil => exact ⟨rfl, .refl w.ch, fun _ => rfl, fun _ _ => rfl⟩
  | cons b rest ih =>
    obtain ⟨hBundle, hSlots, hState, hCount⟩ := w.qbuf_effect r b hActive
    have hRoute := hSlots.route_eq hDistinct
    have hGoes : ∀ p idx, goesTo (w.qbuf r b).ch p idx = goesTo w.ch p idx := by
      intro p idx
      funext buf
      rw [goesTo, goesTo, hRoute]
    have hEnough' : ∀ p idx,
        rest.countP (goesTo (w.qbuf r b).ch p idx) ≤ (w.qbuf r b).refcnt p idx := by
      intro p idx
      have h := hEnough p idx
      rw [hGoes, hCount]
      rw [List.countP_cons] at h
      split <;> rename_i hb
      · rw [if_pos hb] at h
        omega
      · rw [if_neg hb] at h
        exact h
    obtain ⟨hBundle', hSlots', hState', hCount'⟩ := ih
      (fun buf p hTo => (hState p).trans (hActive buf p (by rwa [← hRoute buf])))
      (hSlots.distinct hDistinct) hEnough'
    refine ⟨hBundle'.trans hBundle, hSlots.trans_same hSlots',
      fun p => (hState' p).trans (hState p), fun p idx => ?_⟩
    have h := hCount' p idx
    have hBound := hEnough p idx
    rw [hGoes, hCount] at h
    rw [List.countP_cons] at hBound ⊢
    rw [List.foldl_cons]
    split <;> rename_i hb
    · rw [if_pos hb] at h hBound
      omega
    · rw [if_neg hb] at h
      omega

theorem perform_qbufs (r : ChannelResults) (bufs : List BufDef) (w : ChannelWorld) :
    perform r (bufs.map (fun b => .qbuf (some b)) ++ [.flush]) w =
      bufs.foldl (fun w b => w.qbuf r b) w := by
  induction bufs generalizing w with
  | nil => rfl
  | cons b rest ih => exact ih (w.qbuf r b)

theorem flushSuperBufQueue_eq (w : ChannelWorld) (r : ChannelResults) (camType : CamStreamType) :
    w.flushSuperBufQueue r true camType =
      (w.ch.heldBufs.filter (BufDef.flushedBy camType)).foldl (fun w b => w.qbuf r b)
        { w with ch := ((w.ch.setExpected 0).superbufFlush camType).1 } := by
  rw [← perform_qbufs]
  exact congrArg (perform r · _) ((w.ch.setExpected 0).superbufFlush_events camType)

end ChannelWorld

end KiwiDevice.Camera

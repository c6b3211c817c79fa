import KiwiDevice.Camera.EnqueueSpec
import KiwiDevice.Camera.ProcessStreamBuf

/-!
# What one command does

Each phase of `mm_channel_process_stream_buf` is reduced to moves of the queue, with a single
buffer stored in between when the command delivers one. The invariants of the queue are proved of
moves and of `Enqueue`, and reach the commands through the inversion lemmas of this module.
-/

namespace KiwiDevice.Camera

open Lib

namespace Moves

variable {camType : CamStreamType} {alloc : Alloc} {q q' : ChannelQueue} {es : List Event}

theorem bundledStreams (h : Moves camType alloc q es q') :
    q'.bundledStreams = q.bundledStreams := by
  induction h with
  | retarget h => exact h.bundledStreams
  | mark _ => rfl
  | flushed _ => rfl
  | leave _ _ => rfl
  | trans _ _ ih ih' => exact ih'.trans ih

theorem limits (h : Moves camType alloc q es q') :
    q'.attr.maxUnmatchedFrames = q.attr.maxUnmatchedFrames ∧
      q'.attr.postFrameSkip = q.attr.postFrameSkip := by
  induction h with
  | retarget h => exact ⟨h.maxUnmatchedFrames, h.postFrameSkip⟩
  | mark _ => exact ⟨rfl, rfl⟩
  | flushed _ => exact ⟨rfl, rfl⟩
  | leave _ _ => exact ⟨rfl, rfl⟩
  | trans _ _ ih ih' => exact ⟨ih'.1.trans ih.1, ih'.2.trans ih.2⟩

theorem thenRetarget {q'' : ChannelQueue} (h : Moves camType alloc q es q')
    (hSame : SameSuperbufs q' q'') : Moves camType alloc q es q'' := by
  have hTrans := h.trans (.retarget hSame)
  rwa [List.append_nil] at hTrans

theorem afterRetarget {q'' : ChannelQueue} (hSame : SameSuperbufs q q')
    (h : Moves camType alloc q' es q'') : Moves camType alloc q es q'' :=
  Moves.trans (.retarget hSame) h

theorem thenMarks (h : Moves camType alloc q es q') {marks : List Event}
    (hMarks : ∀ e ∈ marks, e.isMark) : Moves camType alloc q (es ++ marks) q' := by
  induction marks generalizing es with
  | nil => rwa [List.append_nil]
  | cons e marks ih =>
    have hNext := ih (h.trans (.mark (hMarks e List.mem_cons_self)))
      (fun e' he' => hMarks e' (List.mem_cons_of_mem _ he'))
    rwa [List.append_assoc] at hNext

end Moves

namespace MmChannel

variable {alloc : Alloc} {ch ch' : MmChannel} {b : BufInfo} {es : List Event}

theorem setExpected_same (ch : MmChannel) (frameIdx : Nat) :
    SameSuperbufs ch.queue (ch.setExpected frameIdx).queue :=
  ⟨rfl, rfl, rfl, rfl, rfl, rfl⟩

theorem resetFrameId_moves (alloc : Alloc) (ch : MmChannel) (metadata : MetadataInfo) :
    Moves .default alloc ch.queue (ch.resetFrameId metadata).2 (ch.resetFrameId metadata).1.queue ∧
      (ch.resetFrameId metadata).1.isFlashBracketingEnabled = ch.isFlashBracketingEnabled := by
  unfold resetFrameId
  split
  · exact ⟨ch.queue.superbufFlush_moves.thenRetarget ((ch.superbufFlush .default).1.setExpected_same 1),
      rfl⟩
  · exact ⟨.refl _, rfl⟩

theorem awaitZoom1x_moves (alloc : Alloc) (ch : MmChannel) (b : BufInfo) (found : Bool) :
    Moves .default alloc ch.queue (ch.awaitZoom1x b found).2 (ch.awaitZoom1x b found).1.queue ∧
      (ch.awaitZoom1x b found).1.isFlashBracketingEnabled = ch.isFlashBracketingEnabled := by
  unfold awaitZoom1x
  split
  · exact ⟨.retarget (setExpected_same _ _), rfl⟩
  · exact ⟨.afterRetarget (ch.setExpected_same _) (ChannelQueue.superbufFlushMatched_moves _), rfl⟩

theorem adjustForSnapshot_moves (alloc : Alloc) (ch : MmChannel) (metadata : MetadataInfo) :
    Moves .default alloc ch.queue (ch.adjustForSnapshot metadata).2
        (ch.adjustForSnapshot metadata).1.queue ∧
      (ch.adjustForSnapshot metadata).1.isFlashBracketingEnabled = ch.isFlashBracketingEnabled := by
  unfold adjustForSnapshot
  split
  · split
    · exact ⟨.afterRetarget (ch.setExpected_same _) (ChannelQueue.superbufFlush_moves _), rfl⟩
    · exact ⟨.refl _, rfl⟩
  · split
    · exact ⟨.retarget (ch.setExpected_same _), rfl⟩
    · split
      · exact ⟨ch.queue.superbufFlushMatched_moves.thenRetarget
          (ch.superbufFlushMatched.1.setExpected_same _), rfl⟩
      · exact ⟨.refl _, rfl⟩

theorem adjustForRange_same (ch : MmChannel) (metadata : MetadataInfo) :
    SameSuperbufs ch.queue (ch.adjustForRange metadata).queue ∧
      (ch.adjustForRange metadata).isFlashBracketingEnabled = ch.isFlashBracketingEnabled := by
  unfold adjustForRange
  split
  · exact ⟨⟨rfl, rfl, rfl, rfl, rfl, rfl⟩, rfl⟩
  · split
    · exact ⟨⟨rfl, rfl, rfl, rfl, rfl, rfl⟩, rfl⟩
    · exact ⟨⟨rfl, rfl, rfl, rfl, rfl, rfl⟩, rfl⟩

/-- Handling metadata only takes superbufs off the queue and moves the expected frame ids. -/
theorem handleMetadata_ok (alloc : Alloc) {rc : Int} (h : ch.handleMetadata b = .ok (rc, ch', es)) :
    Moves .default alloc ch.queue es ch'.queue ∧
      ch'.isFlashBracketingEnabled = ch.isFlashBracketingEnabled := by
  refine handleMetadata_rel (R := fun ch es ch' => Moves .default alloc ch.queue es ch'.queue ∧
    ch'.isFlashBracketingEnabled = ch.isFlashBracketingEnabled) ?_ ?_ ?_ ?_ ?_ ?_ h
  · exact fun ch => ⟨.refl ch.queue, rfl⟩
  · rintro ch ch' ch'' es es' ⟨hMoves, hFlash⟩ ⟨hMoves', hFlash'⟩
    exact ⟨hMoves.trans hMoves', hFlash'.trans hFlash⟩
  · exact resetFrameId_moves alloc
  · exact fun ch found => ch.awaitZoom1x_moves alloc b found
  · exact adjustForSnapshot_moves alloc
  · exact fun ch metadata => ⟨.retarget (ch.adjustForRange_same metadata).1,
      (ch.adjustForRange_same metadata).2⟩

end MmChannel

/-- The outcomes of a delivered buffer. -/
inductive Delivered (alloc : Alloc) (ch : MmChannel) (b : BufInfo) :
    List Event → MmChannel → Prop where
  /-- The stream is not bundled: the buffer is ignored. -/
  | foreign (hIdx : b.streamId ∉ ch.queue.bundledStreams) : Delivered alloc ch b [] ch
  /-- Bad metadata or an old frame: the buffer is given back. -/
  | rejected {bufSIdx : Nat} {rc : Int} {ch₁ : MmChannel} {es : List Event}
      (hIdx : ch.queue.bundledStreams[bufSIdx]? = some b.streamId)
      (hMeta : ch.handleMetadata b = .ok (rc, ch₁, es)) :
      Delivered alloc ch b (es ++ [.qbuf (some b.buf)]) ch₁
  | enqueued {bufSIdx : Nat} {rc : Int} {ch₁ : MmChannel} {es : List Event}
      (hIdx : ch.queue.bundledStreams[bufSIdx]? = some b.streamId)
      (hMeta : ch.handleMetadata b = .ok (rc, ch₁, es))
      (hAge : ch₁.queue.expectedFrameId ≤ b.frameIdx) :
      Delivered alloc ch b (es ++ (ch₁.compSuperbuf alloc.node bufSIdx b).2)
        (ch₁.compSuperbuf alloc.node bufSIdx b).1

/-- The type given to the flush by a command. -/
def Cmd.flushType : Cmd → CamStreamType
  | .flushQueue _ streamType => streamType
  | _ => .default

namespace MmChannel

variable {alloc : Alloc} {ch ch' : MmChannel} {b : BufInfo} {es : List Event}

theorem superbufCompAndEnqueue_ok
    (h : ch.superbufCompAndEnqueue alloc.node b = .ok (ch', es)) : Delivered alloc ch b es ch' := by
  unfold superbufCompAndEnqueue at h
  split at h
  · rename_i hIdx
    cases h
    refine .foreign fun hMem => ?_
    have hNot := List.findIdx?_eq_none_iff.mp hIdx b.streamId hMem
    simp at hNot
  · rename_i bufSIdx hIdx
    obtain ⟨hLt, hEq, _⟩ := List.findIdx?_eq_some_iff_getElem.mp hIdx
    have hGet : ch.queue.bundledStreams[bufSIdx]? = some b.streamId := by
      rw [List.getElem?_eq_getElem hLt]
      simpa using hEq
    split at h
    · cases h
    · rename_i hMeta
      split at h
      · cases h
        exact .rejected hGet hMeta
      · split at h
        · cases h
          exact .rejected hGet hMeta
        · rename_i hAge
          cases h
          refine .enqueued hGet hMeta ?_
          unfold utilSeqCompWRollover at hAge
          split at hAge
          · omega
          · split at hAge
            · exact absurd (by decide) hAge
            · omega

theorem requestZsl_marks (ch : MmChannel) :
    ch.requestZsl.1.queue = ch.queue ∧ ∀ e ∈ ch.requestZsl.2, e.isMark := by
  unfold requestZsl
  split
  · exact ⟨rfl, by simp [Event.isMark]⟩
  · split
    · exact ⟨rfl, by simp [Event.isMark]⟩
    · exact ⟨rfl, by simp⟩

theorem handleGeneral_moves (alloc : Alloc) (ch : MmChannel) (type : GenericCmdType)
    (start : Bool) :
    Moves .default alloc ch.queue (ch.handleGeneral type start).2
      (ch.handleGeneral type start).1.queue := by
  cases type with
  | aeBracketing => exact ch.queue.superbufFlush_moves
  | afBracketing => exact ch.queue.superbufFlush_moves
  | mtfBracketing => exact ch.queue.superbufFlush_moves
  | flashBracketing => exact .refl _
  | zoom1x => exact .refl _

theorem handleCmd_ok {cmd : Cmd} (h : ch.handleCmd alloc cmd = .ok (ch', es)) :
    (∃ b, cmd = .dataCb b ∧ Delivered alloc ch b es ch') ∨
      (∀ b, cmd ≠ .dataCb b) ∧ Moves cmd.flushType alloc ch.queue es ch'.queue := by
  cases cmd with
  | dataCb b => exact .inl ⟨b, rfl, superbufCompAndEnqueue_ok h⟩
  | reqDataCb numBufRequested =>
    refine .inr ⟨by simp, ?_⟩
    simp only [handleCmd, superbufSkip] at h
    cases hSkip : ch.queue.superbufSkip with
    | error fault =>
      rw [hSkip] at h
      cases h
    | ok r =>
      rw [hSkip] at h
      cases h
      obtain ⟨hQueue, hMarks⟩ :=
        (({ ch with pendingCnt := numBufRequested } : MmChannel).setQueue r.1).requestZsl_marks
      have hMoves := (ChannelQueue.superbufTrim_ok .default alloc hSkip).1
      dsimp only
      rw [hQueue]
      exact hMoves.thenMarks hMarks
  | startZsl =>
    cases h
    exact .inr ⟨by simp, .mark trivial⟩
  | stopZsl =>
    cases h
    exact .inr ⟨by simp, .mark trivial⟩
  | configNotify notifyMode =>
    cases h
    exact .inr ⟨by simp, .retarget ⟨rfl, rfl, rfl, rfl, rfl, rfl⟩⟩
  | flushQueue frameIdx streamType =>
    cases h
    exact .inr ⟨by simp, .afterRetarget (ch.setExpected_same frameIdx)
      (ChannelQueue.superbufFlush_moves _)⟩
  | general type start =>
    have hMoves := ch.handleGeneral_moves alloc type start
    simp only [handleCmd, Except.ok.injEq] at h
    rw [h] at hMoves
    exact .inr ⟨by simp, hMoves⟩
  | other =>
    cases h
    exact .inr ⟨by simp, .refl _⟩

theorem countBurst_marks (ch : MmChannel) (notifyMode : NotifyMode) :
    (ch.countBurst notifyMode).1.queue = ch.queue ∧
      ∀ e ∈ (ch.countBurst notifyMode).2, e = .stopZslSnapshot := by
  unfold countBurst
  split
  · dsimp only
    split
    · exact ⟨rfl, by simp⟩
    · exact ⟨rfl, by simp⟩
  · exact ⟨rfl, by simp⟩

theorem sendSuperbuf_leaves {camType : CamStreamType} (ch : MmChannel) (pass : Nat)
    {node : QueueNode} (hM : node.matched = true) {zsl : List Event}
    (hz : ∀ e ∈ zsl, e = .stopZslSnapshot) :
    Leaves camType alloc node (.dequeued node.frameIdx :: (zsl ++ ch.sendSuperbuf alloc pass node)) := by
  unfold sendSuperbuf
  split
  · exact .returned hM zsl hz
  · split
    · exact .dispatched hM zsl hz
    · rename_i hEnq
      rw [List.append_nil]
      exact .lost hM zsl hz pass (by simpa using hEnq)

theorem sendSuperbuf_noFlush (ch : MmChannel) (pass : Nat) (node : QueueNode) :
    .flush ∉ ch.sendSuperbuf alloc pass node := by
  unfold sendSuperbuf
  split
  · simp
  · split <;> simp

/-- The dispatch loop takes matched superbufs off the head and changes nothing else in the queue. -/
theorem dispatchLoop_moves (camType : CamStreamType) (alloc : Alloc) (notifyMode : NotifyMode)
    (n pass : Nat)
    (ch : MmChannel) :
    Moves camType alloc ch.queue (dispatchLoop alloc notifyMode n pass ch).2
        (dispatchLoop alloc notifyMode n pass ch).1.queue ∧
      .flush ∉ (dispatchLoop alloc notifyMode n pass ch).2 ∧
      (dispatchLoop alloc notifyMode n pass ch).1.queue.expectedFrameId =
        ch.queue.expectedFrameId := by
  induction n generalizing pass ch with
  | zero => exact ⟨.refl _, by simp [dispatchLoop], rfl⟩
  | succ n ih =>
    rw [dispatchLoop]
    split
    · unfold ChannelQueue.superbufDequeue
      rcases ch.queue.superbufDequeueInternal_cases true with ⟨hDeq, _⟩ | ⟨m, rest, hCons, hM, hDeq⟩
      · rw [hDeq]
        exact ⟨.refl _, by simp, rfl⟩
      · rw [hDeq]
        obtain ⟨hQueue, hz⟩ :=
          (ch.setQueue (ch.queue.removeHead m rest)).countBurst_marks notifyMode
        obtain ⟨hMoves, hNoFlush, hExpected⟩ :=
          ih (pass + 1) ((ch.setQueue (ch.queue.removeHead m rest)).countBurst notifyMode).1
        rw [hQueue] at hMoves hExpected
        refine ⟨.trans (.leave hCons (sendSuperbuf_leaves _ pass (hM rfl) hz)) hMoves, ?_, hExpected⟩
        simp only [List.mem_append, List.mem_cons, reduceCtorEq, false_or, not_or]
        refine ⟨⟨fun h => ?_, sendSuperbuf_noFlush _ _ _⟩, hNoFlush⟩
        cases hz _ h
    · exact ⟨.refl _, by simp, rfl⟩

theorem dispatchLoop_continuous (n pass : Nat) (ch : MmChannel) (hn : ch.queue.nodes.length ≤ n) :
    ∀ m rest, (dispatchLoop alloc .continuous n pass ch).1.queue.nodes = m :: rest →
      m.matched = false := by
  induction n generalizing pass ch with
  | zero =>
    intro m rest h
    rw [dispatchLoop, List.length_eq_zero_iff.mp (Nat.le_zero.mp hn)] at h
    cases h
  | succ n ih =>
    rw [dispatchLoop, if_pos (.inr rfl)]
    unfold ChannelQueue.superbufDequeue
    rcases ch.queue.superbufDequeueInternal_cases true with ⟨hDeq, hStop⟩ | ⟨m, rest, hCons, _, hDeq⟩
    · rw [hDeq]
      exact fun m rest h => (hStop m rest h).2
    · rw [hDeq]
      have hQueue := ((ch.setQueue (ch.queue.removeHead m rest)).countBurst_marks .continuous).1
      refine ih (pass + 1) _ ?_
      rw [hQueue]
      rw [hCons, List.length_cons] at hn
      exact Nat.le_of_succ_le_succ hn

/-- After a command the overflow is trimmed and superbufs are dispatched. What is left was cut to
the water mark, or begins with no matched superbuf. -/
theorem finishCmd_ok {handled : MmChannel × List Event}
    (h : finishCmd alloc handled = .ok (ch', es)) :
    ∃ es₂, es = handled.2 ++ es₂ ∧ (∀ camType, Moves camType alloc handled.1.queue es₂ ch'.queue) ∧
      .flush ∉ es₂ ∧ ch'.queue.expectedFrameId = handled.1.queue.expectedFrameId ∧
      ((∃ q es₃ es₄, Moves .default alloc handled.1.queue es₃ q ∧ q.matchCnt < 2 ^ 8 ∧
          Moves .default alloc q es₄ ch'.queue) ∨
        ∀ m rest, ch'.queue.nodes = m :: rest → m.matched = false) := by
  simp only [finishCmd, superbufBufdoneOverflow] at h
  cases hTrim : handled.1.queue.superbufBufdoneOverflow with
  | error fault =>
    rw [hTrim] at h
    cases h
  | ok r =>
    rw [hTrim] at h
    cases h
    have hTrimmed := fun t => ChannelQueue.superbufTrim_ok t alloc hTrim
    have hSent := fun t => dispatchLoop_moves t alloc
      handled.1.queue.attr.notifyMode r.1.nodes.length 0 (handled.1.setQueue r.1)
    refine ⟨r.2 ++ _, List.append_assoc _ _ _, fun t => (hTrimmed t).1.trans (hSent t).1, ?_,
      (hSent .default).2.2.trans (hTrimmed .default).2.2.1, ?_⟩
    · rw [List.mem_append]
      exact fun h => h.elim (hTrimmed .default).2.1 (hSent .default).2.1
    · by_cases hMode : handled.1.queue.attr.notifyMode = .continuous
      · refine .inr ?_
        rw [hMode]
        exact dispatchLoop_continuous _ 0 _ (Nat.le_refl _)
      · have hCut := (hTrimmed .default).2.2.2 hMode
        have hMark := handled.1.queue.attr.waterMark.toNat_lt
        exact .inl ⟨r.1, _, _, (hTrimmed .default).1, by omega, (hSent .default).1⟩

/-- A command is handled, and unless it is a flush it is finished by trimming and dispatching. -/
theorem processStreamBuf_ok {cmd : Cmd} (h : processStreamBuf alloc ch cmd = .ok (ch', es)) :
    ∃ handled, ch.handleCmd alloc cmd = .ok handled ∧
      ((∃ frameIdx streamType, cmd = .flushQueue frameIdx streamType ∧ (ch', es) = handled) ∨
        finishCmd alloc handled = .ok (ch', es)) := by
  unfold processStreamBuf at h
  cases hHandled : ch.handleCmd alloc cmd with
  | error fault =>
    rw [hHandled] at h
    cases h
  | ok handled =>
    rw [hHandled] at h
    refine ⟨handled, rfl, ?_⟩
    cases cmd with
    | flushQueue frameIdx streamType =>
      cases h
      exact .inl ⟨frameIdx, streamType, rfl, rfl⟩
    | _ => exact .inr h

/-- What follows the handling of a command moves the queue, flushes nothing and leaves the expected
frame id. -/
theorem processStreamBuf_trail {cmd : Cmd} (h : processStreamBuf alloc ch cmd = .ok (ch', es)) :
    ∃ ch₁ es₁ es₂, ch.handleCmd alloc cmd = .ok (ch₁, es₁) ∧ es = es₁ ++ es₂ ∧
      Moves .default alloc ch₁.queue es₂ ch'.queue ∧ .flush ∉ es₂ ∧
      ch'.queue.expectedFrameId = ch₁.queue.expectedFrameId := by
  obtain ⟨handled, hHandled, ⟨_, _, _, rfl⟩ | hFinish⟩ := processStreamBuf_ok h
  · exact ⟨ch', es, [], hHandled, (List.append_nil es).symm, .refl _, by simp, rfl⟩
  · obtain ⟨es₂, hEs, hMoves, hNoFlush, hExpected, _⟩ := finishCmd_ok hFinish
    exact ⟨handled.1, handled.2, es₂, hHandled, hEs, hMoves .default, hNoFlush, hExpected⟩

end MmChannel

end KiwiDevice.Camera

import KiwiDevice.Camera.QueueInvariant

/-!
# The queue invariant along the command thread

Every command of `mm_channel_process_stream_buf` keeps the invariant of the superbuf queue, and
between two commands less than `2 ^ 8` superbufs are matched, so that the counters are exact. Runs
of the command thread then stay within the bounds that the channel attributes set.
-/

namespace KiwiDevice.Camera

open Lib

variable {alloc : Alloc} {ch ch' : MmChannel} {b : BufInfo} {cmd : Cmd} {es : List Event}

/-- A buffer of a bundled stream: metadata moves the queue, then the buffer is stored or refused. -/
theorem Delivered.outcome (h : Delivered alloc ch b es ch')
    (hOrder : ch.queue.nodes.Pairwise QueueNode.Precedes) :
    (b.streamId ∉ ch.queue.bundledStreams ∧ es = [] ∧ ch' = ch) ∨
      ∃ ch₁ es₁ es₂ bufSIdx, es = es₁ ++ es₂ ∧
        ch.queue.bundledStreams[bufSIdx]? = some b.streamId ∧
        (∃ rc, ch.handleMetadata b = .ok (rc, ch₁, es₁)) ∧
        Moves .default alloc ch.queue es₁ ch₁.queue ∧
        Enqueue ch₁ alloc.node bufSIdx b ch' es₂ ∧
        (es₂ = [.qbuf (some b.buf)] ∨ ch₁.queue.expectedFrameId ≤ b.frameIdx) := by
  cases h with
  | foreign hIdx => exact .inl ⟨hIdx, rfl, rfl⟩
  | rejected hIdx hMeta =>
    exact .inr ⟨ch', _, _, _, rfl, hIdx, ⟨_, hMeta⟩, (MmChannel.handleMetadata_ok alloc hMeta).1, .refuses,
      .inl rfl⟩
  | enqueued hIdx hMeta hAge =>
    have hMoves := (MmChannel.handleMetadata_ok alloc hMeta).1
    exact .inr ⟨_, _, _, _, rfl, hIdx, ⟨_, hMeta⟩, hMoves,
      MmChannel.compSuperbuf_enqueue (hOrder.sublist hMoves.suffix.sublist), .inr hAge⟩

/-- What a delivered buffer or a handled command leaves of the queue, as far as the invariants of
the run need it. -/
structure QueueKept (q q' : ChannelQueue) : Prop where
  inv : SuperbufInv q'
  bundledStreams : q'.bundledStreams = q.bundledStreams
  maxUnmatchedFrames : q'.attr.maxUnmatchedFrames = q.attr.maxUnmatchedFrames
  matched : q'.nodes.countP QueueNode.matched ≤ q.nodes.countP QueueNode.matched + 1
  unmatched : q.attr.maxUnmatchedFrames.toNat < 255 →
    q.unmatchedCnt ≤ q.attr.maxUnmatchedFrames.toNat + 1 →
    q'.unmatchedCnt ≤ q.attr.maxUnmatchedFrames.toNat + 1

namespace QueueKept

variable {camType : CamStreamType} {q q' q'' : ChannelQueue}

theorem ofMoves (hq : SuperbufInv q) (h : Moves camType alloc q es q') : QueueKept q q' where
  inv := h.inv hq
  bundledStreams := h.bundledStreams
  maxUnmatchedFrames := h.limits.1
  matched := h.matched_le.trans (Nat.le_succ _)
  unmatched := fun _ hBound => h.unmatched_le.trans hBound

theorem afterMoves (hMoves : Moves camType alloc q es q') (h : QueueKept q' q'') :
    QueueKept q q'' where
  inv := h.inv
  bundledStreams := h.bundledStreams.trans hMoves.bundledStreams
  maxUnmatchedFrames := h.maxUnmatchedFrames.trans hMoves.limits.1
  matched := h.matched.trans (Nat.succ_le_succ hMoves.matched_le)
  unmatched := fun hMax hBound => by
    rw [← hMoves.limits.1] at hMax hBound ⊢
    exact h.unmatched hMax (hMoves.unmatched_le.trans hBound)

theorem thenMoves (h : QueueKept q q') (hMoves : Moves camType alloc q' es q'') :
    QueueKept q q'' where
  inv := hMoves.inv h.inv
  bundledStreams := hMoves.bundledStreams.trans h.bundledStreams
  maxUnmatchedFrames := hMoves.limits.1.trans h.maxUnmatchedFrames
  matched := hMoves.matched_le.trans h.matched
  unmatched := fun hMax hBound => hMoves.unmatched_le.trans (h.unmatched hMax hBound)

end QueueKept

theorem Delivered.kept (h : Delivered alloc ch b es ch') (hq : SuperbufInv ch.queue) :
    QueueKept ch.queue ch'.queue := by
  rcases h.outcome hq.order with ⟨_, _, hSame⟩ | ⟨ch₁, es₁, es₂, bufSIdx, _, _, _, hMoves, hEnqueue, _⟩
  · rw [hSame]
    exact QueueKept.ofMoves hq (Moves.refl ch.queue : Moves .default .succeeds _ _ _)
  · refine .afterMoves hMoves ⟨(hMoves.inv hq).enqueue hEnqueue, hEnqueue.frame.1, ?_,
      hEnqueue.matched_le, hEnqueue.unmatched_le⟩
    rw [hEnqueue.frame.2]

namespace MmChannel

theorem handleCmd_kept (h : ch.handleCmd alloc cmd = .ok (ch', es)) (hq : SuperbufInv ch.queue) :
    QueueKept ch.queue ch'.queue := by
  rcases handleCmd_ok h with ⟨b, _, hDelivered⟩ | ⟨_, hMoves⟩
  · exact hDelivered.kept hq
  · exact .ofMoves hq hMoves

theorem processStreamBuf_kept (h : processStreamBuf alloc ch cmd = .ok (ch', es))
    (hq : SuperbufInv ch.queue) : QueueKept ch.queue ch'.queue := by
  obtain ⟨ch₁, es₁, es₂, hHandled, _, hTrail, _⟩ := processStreamBuf_trail h
  exact (handleCmd_kept hHandled hq).thenMoves hTrail

/-- Between two commands less than `2 ^ 8` superbufs are matched: the rest was trimmed to the water
mark, dispatched or flushed. -/
theorem processStreamBuf_matched (h : processStreamBuf alloc ch cmd = .ok (ch', es))
    (hq : SuperbufInv ch.queue) (hMatched : ch.queue.nodes.countP QueueNode.matched < 2 ^ 8) :
    ch'.queue.nodes.countP QueueNode.matched < 2 ^ 8 := by
  obtain ⟨⟨ch₁, es₁⟩, hHandled, ⟨frameIdx, streamType, rfl, hSame⟩ | hFinish⟩ :=
    processStreamBuf_ok h
  · cases hSame
    obtain ⟨b, hCmd, _⟩ | ⟨_, hFlush⟩ := handleCmd_ok hHandled
    · cases hCmd
    · exact Nat.lt_of_le_of_lt hFlush.matched_le hMatched
  · have hKept := handleCmd_kept hHandled hq
    obtain ⟨_, _, hMoves, _, _, hCut⟩ := finishCmd_ok hFinish
    rcases hCut with ⟨q, _, _, hBefore, hCnt, hAfter⟩ | hHead
    · have hExact := (hBefore.inv hKept.inv).matchCnt
      have hLess := hBefore.matched_le.trans hKept.matched
      have hLeft := hAfter.matched_le
      omega
    · rw [((hMoves .default).inv hKept.inv).noneMatched hHead]
      decide

theorem findSnapshot_error {streams : List MmStream} {fault : Fault}
    (h : findSnapshot streams = .error fault) : fault = .nullDereference := by
  induction streams with
  | nil => cases h
  | cons s rest ih =>
    rw [findSnapshot] at h
    split at h
    · cases h
      rfl
    · split at h
      · cases h
      · exact ih h

theorem handleMetadata_error {fault : Fault} (h : ch.handleMetadata b = .error fault) :
    fault = .nullDereference := by
  unfold handleMetadata at h
  split at h
  · cases h
  · split at h
    · cases h
    · split at h
      · cases h
      · split at h
        · cases h
        · dsimp only at h
          split at h
          · cases h
          · split at h
            · cases h
            · split at h
              · rename_i hFind
                cases h
                exact findSnapshot_error hFind
              · split at h
                · cases h
                · split at h <;> cases h

theorem handleCmd_not_spin (hq : SuperbufInv ch.queue) : ch.handleCmd alloc cmd ≠ .error .spin := by
  intro h
  cases cmd with
  | dataCb b =>
    simp only [handleCmd, superbufCompAndEnqueue] at h
    split at h
    · cases h
    · split at h
      · rename_i hMeta
        cases h
        cases handleMetadata_error hMeta
      · split at h
        · cases h
        · split at h <;> cases h
  | reqDataCb numBufRequested =>
    obtain ⟨r, hSkip⟩ := hq.trim_returns ch.queue.attr.lookBack.toNat
    have hSkip' : ch.queue.superbufSkip = .ok r := hSkip
    simp only [handleCmd, superbufSkip, hSkip'] at h
    cases h
  | _ => cases h

theorem processStreamBuf_not_spin (hq : SuperbufInv ch.queue) :
    processStreamBuf alloc ch cmd ≠ .error .spin := by
  intro h
  unfold processStreamBuf at h
  split at h
  · rename_i fault hHandled
    cases h
    exact handleCmd_not_spin hq hHandled
  · rename_i handled hHandled
    split at h
    · cases h
    · obtain ⟨r, hTrim⟩ := (handleCmd_kept hHandled hq).inv.trim_returns
        handled.1.queue.attr.waterMark.toNat
      have hTrim' : handled.1.queue.superbufBufdoneOverflow = .ok r := hTrim
      simp only [finishCmd, superbufBufdoneOverflow, hTrim'] at h
      cases h

/-- A command that delivers only buffers with a frame id keeps every superbuf well filled. -/
theorem processStreamBuf_wellFilled (h : processStreamBuf alloc ch cmd = .ok (ch', es))
    (hq : SuperbufInv ch.queue) (hFrames : ∀ b, cmd = .dataCb b → b.frameIdx ≠ 0)
    (hFilled : ∀ n ∈ ch.queue.nodes, n.WellFilled ch.queue.numStreams) :
    ∀ n ∈ ch'.queue.nodes, n.WellFilled ch.queue.numStreams := by
  obtain ⟨ch₁, es₁, es₂, hHandled, _, hTrail, _⟩ := processStreamBuf_trail h
  have hHandledFilled : ∀ n ∈ ch₁.queue.nodes, n.WellFilled ch.queue.numStreams := by
    rcases handleCmd_ok hHandled with ⟨b, hCmd, hDelivered⟩ | ⟨_, hMoves⟩
    · rcases hDelivered.outcome hq.order with ⟨_, _, hSame⟩ |
        ⟨ch₂, _, _, bufSIdx, _, hIdx, _, hMoves, hEnqueue, _⟩
      · rw [hSame]
        exact hFilled
      · have hStreams : ch₂.queue.numStreams = ch.queue.numStreams := by
          simp only [ChannelQueue.numStreams, hMoves.bundledStreams]
        rw [← hStreams]
        refine hEnqueue.wellFilled (hFrames b hCmd) ?_ fun n hn => ?_
        · rw [hStreams]
          exact (List.getElem?_eq_some_iff.mp hIdx).1
        · rw [hStreams]
          exact hFilled n (hMoves.suffix.subset hn)
    · exact fun n hn => hFilled n (hMoves.suffix.subset hn)
  exact fun n hn => hHandledFilled n (hTrail.suffix.subset hn)

end MmChannel

/-- The superbuf queue between two commands. -/
structure QueueInvariant (q : ChannelQueue) : Prop where
  matchedFirst : q.nodes.Pairwise fun a b => b.matched = true → a.matched = true
  unmatchedIncreasing :
    (q.nodes.filter fun n => !n.matched).Pairwise fun a b => a.frameIdx < b.frameIdx
  matchCnt : q.matchCnt = q.nodes.countP QueueNode.matched
  size : q.size = q.nodes.length
  unmatchedCnt : q.unmatchedCnt ≤ q.attr.maxUnmatchedFrames.toNat + 1
  length : ∀ n ∈ q.nodes, n.superBuf.length = q.numStreams
  matched_iff : ∀ n ∈ q.nodes, n.matched = true ↔ ∀ s ∈ n.superBuf, s ≠ none
  frame : ∀ n ∈ q.nodes, ∀ info, some info ∈ n.superBuf → info.frameIdx = n.frameIdx

theorem SuperbufInv.queueInvariant {q : ChannelQueue} (hq : SuperbufInv q)
    (hMatched : q.nodes.countP QueueNode.matched < 2 ^ 8)
    (hMax : q.attr.maxUnmatchedFrames.toNat < 255)
    (hUnmatched : q.unmatchedCnt ≤ q.attr.maxUnmatchedFrames.toNat + 1)
    (hFilled : ∀ n ∈ q.nodes, n.WellFilled q.numStreams) : QueueInvariant q where
  matchedFirst := hq.order.imp fun {a b} h hb => by
    rcases h with hMatched | ⟨hb', _⟩
    · exact hMatched
    · rw [hb] at hb'
      cases hb'
  unmatchedIncreasing := by
    refine (hq.order.filter _).imp_of_mem ?_
    rintro a b ha _ (hMatched | ⟨_, hLt⟩)
    · simp [hMatched] at ha
    · exact hLt
  matchCnt := by
    rw [hq.matchCnt]
    omega
  size := by
    have hLength : q.nodes.length = q.nodes.countP QueueNode.matched + q.unmatchedCnt := by
      rw [List.length_eq_countP_add_countP QueueNode.matched]
      simp [ChannelQueue.unmatchedCnt]
    rw [hq.size]
    omega
  unmatchedCnt := hUnmatched
  length := fun n hn => (hFilled n hn).length
  matched_iff := fun n hn => by
    rw [(hFilled n hn).matched_iff]
    exact ⟨fun h s hs hNone => h (hNone ▸ hs), fun h hNone => h none hNone rfl⟩
  frame := fun n hn => (hFilled n hn).frame

/-- The buffers that a run delivers have a frame id. -/
def frameIdsNonZero (_ : List (Alloc × Cmd)) (_ : List Event) (_ : MmChannel) (i : Alloc × Cmd)
    (_ : List Event) : Prop :=
  ∀ b, i.2 = .dataCb b → b.frameIdx ≠ 0

/-- From an empty queue every run of the command thread keeps the invariant of the superbuf queue,
and no further command is caught in a trimming loop. -/
theorem queueInvariant_of_run {is : List (Alloc × Cmd)}
    (hNodes : ch.queue.nodes = []) (hSize : ch.queue.size = 0) (hCnt : ch.queue.matchCnt = 0)
    (hMax : ch.queue.attr.maxUnmatchedFrames.toNat < 255)
    (run : Steps MmChannel.CmdStep frameIdsNonZero ch is es ch') :
    QueueInvariant ch'.queue ∧ ch'.queue.bundledStreams = ch.queue.bundledStreams ∧
      ch'.queue.attr.maxUnmatchedFrames = ch.queue.attr.maxUnmatchedFrames ∧
      ∀ alloc cmd, MmChannel.processStreamBuf alloc ch' cmd ≠ .error .spin := by
  have hKept := run.invariant (I := fun c => SuperbufInv c.queue ∧
      c.queue.nodes.countP QueueNode.matched < 2 ^ 8 ∧
      c.queue.bundledStreams = ch.queue.bundledStreams ∧
      c.queue.attr.maxUnmatchedFrames = ch.queue.attr.maxUnmatchedFrames ∧
      c.queue.unmatchedCnt ≤ ch.queue.attr.maxUnmatchedFrames.toNat + 1 ∧
      ∀ n ∈ c.queue.nodes, n.WellFilled ch.queue.numStreams) ?_ ?_
  · obtain ⟨hInv, hMatched, hStreams, hSame, hUnmatched, hFilled⟩ := hKept
    refine ⟨hInv.queueInvariant hMatched (hSame ▸ hMax) (hSame ▸ hUnmatched) ?_, hStreams, hSame,
      fun _ _ => MmChannel.processStreamBuf_not_spin hInv⟩
    rw [ChannelQueue.numStreams, hStreams]
    exact hFilled
  · refine ⟨⟨?_, ?_, ?_, ?_⟩, ?_, rfl, rfl, ?_, ?_⟩ <;>
      simp [hNodes, hSize, hCnt, ChannelQueue.unmatchedCnt]
  · rintro _ _ c ⟨alloc, cmd⟩ o c' hFrames ⟨hInv, hMatched, hStreams, hSame, hUnmatched, hFilled⟩ hStep
    have hKept := MmChannel.processStreamBuf_kept hStep hInv
    have hNum : c.queue.numStreams = ch.queue.numStreams := by
      rw [ChannelQueue.numStreams, hStreams]
      rfl
    refine ⟨hKept.inv, MmChannel.processStreamBuf_matched hStep hInv hMatched,
      hKept.bundledStreams.trans hStreams,
      hKept.maxUnmatchedFrames.trans hSame, ?_, ?_⟩
    · rw [← hSame]
      exact hKept.unmatched (hSame ▸ hMax) (hSame ▸ hUnmatched)
    · rw [← hNum]
      exact MmChannel.processStreamBuf_wellFilled hStep hInv hFrames (hNum ▸ hFilled)

/-- An active stream of the channel with handle 9. -/
def sampleStream (myHdl : Nat) (streamType : CamStreamType) : MmStream :=
  { myHdl, state := .active, streamInfo := some { streamType }, chObj := some 9 }

/-- An active channel that bundles all its streams and has an empty superbuf queue. -/
def sampleChannel (streams : List MmStream) (attr : ChannelAttr) : MmChannel where
  myHdl := 9
  state := .active
  streams := streams
  bundle :=
    { isActive := true
      superBufNotifyCb := some 0
      superbufQueue := { bundledStreams := streams.map MmStream.myHdl, attr } }

def sampleFrame (streamId : Nat) (streamType : CamStreamType) (frameIdx : Nat) : BufInfo where
  streamId := streamId
  frameIdx := frameIdx
  buf := { streamId, streamType, bufIdx := frameIdx, frameIdx }

/-- Two streams, with room for one unmatched superbuf beyond the first. -/
def pairChannel : MmChannel :=
  sampleChannel [sampleStream 1 .preview, sampleStream 2 .snapshot]
    { waterMark := 1, maxUnmatchedFrames := 1 }

def pairCmds : List (Alloc × Cmd) :=
  [sampleFrame 1 .preview 1, sampleFrame 1 .preview 2, sampleFrame 2 .snapshot 2].map
    fun b => (.succeeds, .dataCb b)

theorem queueInvariant_of_pairRun :
    ∃ es ch', Steps MmChannel.CmdStep frameIdsNonZero pairChannel pairCmds es ch' ∧
      ch'.queue.nodes.length = 1 ∧ QueueInvariant ch'.queue := by
  obtain ⟨r, hRun, hLength⟩ := Option.map_eq_some_iff.mp
    (show (MmChannel.processAll pairChannel pairCmds).map (fun r => r.1.queue.nodes.length) =
      some 1 by decide +kernel)
  have run := MmChannel.processAll_steps frameIdsNonZero
    (by simp [pairCmds, frameIdsNonZero, sampleFrame]) hRun
  exact ⟨_, _, run, hLength, (queueInvariant_of_run rfl rfl rfl (by decide) run).1⟩

end KiwiDevice.Camera

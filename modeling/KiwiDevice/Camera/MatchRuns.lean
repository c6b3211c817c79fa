import KiwiDevice.Camera.DeliveryRuns

/-!
# Match order along the command thread
-/

namespace KiwiDevice.Camera

open Lib

/-!
### The order in which superbufs are matched and leave the queue

While nothing but a match moves the expected frame id, superbufs are matched in increasing frames
with the skip between them, and the dequeue takes them in that order. A match leaves the expected
frame id one skip ahead of its frame, older buffers are then refused, and the frame itself cannot
come again because all streams have delivered it.
-/

namespace Event

def matchedFrame : Event → Option Nat
  | .matched frameIdx => some frameIdx
  | _ => none

def dequeuedFrame : Event → Option Nat
  | .dequeued frameIdx => some frameIdx
  | _ => none

end Event

/-- The frames of the superbufs that become matched, in that order. -/
def matchedFrames (es : List Event) : List Nat := es.filterMap Event.matchedFrame

/-- The frames of the superbufs that leave by `mm_channel_superbuf_dequeue`, in that order. -/
def dequeuedFrames (es : List Event) : List Nat := es.filterMap Event.dequeuedFrame

@[simp] theorem matchedFrames_append (es es' : List Event) :
    matchedFrames (es ++ es') = matchedFrames es ++ matchedFrames es' :=
  List.filterMap_append

@[simp] theorem dequeuedFrames_append (es es' : List Event) :
    dequeuedFrames (es ++ es') = dequeuedFrames es ++ dequeuedFrames es' :=
  List.filterMap_append

/-- The frames of the matched superbufs in the queue. -/
def ChannelQueue.matchedQueued (q : ChannelQueue) : List Nat :=
  (q.nodes.filter QueueNode.matched).map QueueNode.frameIdx

theorem frames_of_qbufs {es : List Event} (h : ∀ e ∈ es, ∃ buf, e = .qbuf buf) :
    matchedFrames es = [] ∧ dequeuedFrames es = [] := by
  constructor
  · refine List.filterMap_eq_nil_iff.mpr fun e he => ?_
    obtain ⟨buf, rfl⟩ := h e he
    rfl
  · refine List.filterMap_eq_nil_iff.mpr fun e he => ?_
    obtain ⟨buf, rfl⟩ := h e he
    rfl

theorem frames_of_marks {es : List Event} (h : ∀ e ∈ es, e = .stopZslSnapshot) :
    matchedFrames es = [] ∧ dequeuedFrames es = [] := by
  constructor
  · exact List.filterMap_eq_nil_iff.mpr fun e he => h e he ▸ rfl
  · exact List.filterMap_eq_nil_iff.mpr fun e he => h e he ▸ rfl

namespace QueueNode

theorem releaseBufs_qbufs (n : QueueNode) : ∀ e ∈ n.releaseBufs, ∃ buf, e = .qbuf buf := by
  intro e he
  obtain ⟨s, _, hs⟩ := List.mem_filterMap.mp he
  obtain ⟨buf, _, rfl⟩ := Option.map_eq_some_iff.mp hs
  exact ⟨some buf, rfl⟩

theorem releaseType_qbufs (camType : CamStreamType) (n : QueueNode) :
    ∀ e ∈ n.releaseType camType, ∃ buf, e = .qbuf buf := by
  intro e he
  obtain ⟨s, _, hs⟩ := List.mem_filterMap.mp he
  split at hs
  · split at hs
    · cases hs
      exact ⟨_, rfl⟩
    · cases hs
  · cases hs

theorem releaseFilled_qbufs (n : QueueNode) : ∀ e ∈ n.releaseFilled, ∃ buf, e = .qbuf buf := by
  intro e he
  obtain ⟨s, _, rfl⟩ := List.mem_map.mp he
  exact ⟨_, rfl⟩

theorem releaseFilled_flatMap_qbufs (nodes : List QueueNode) :
    ∀ e ∈ nodes.flatMap releaseFilled, ∃ buf, e = .qbuf buf := by
  intro e he
  obtain ⟨n, _, hn⟩ := List.mem_flatMap.mp he
  exact n.releaseFilled_qbufs e hn

end QueueNode

theorem Leaves.frames {camType : CamStreamType} {alloc : Alloc} {n : QueueNode} {es : List Event}
    (h : Leaves camType alloc n es) :
    matchedFrames es = [] ∧
      (dequeuedFrames es = [] ∨ n.matched = true ∧ dequeuedFrames es = [n.frameIdx]) := by
  cases h with
  | released =>
    obtain ⟨hM, hD⟩ := frames_of_qbufs n.releaseBufs_qbufs
    exact ⟨hM, .inl hD⟩
  | flushed =>
    obtain ⟨hM, hD⟩ := frames_of_qbufs (n.releaseType_qbufs camType)
    exact ⟨hM, .inl hD⟩
  | dispatched hMatched zsl hz =>
    obtain ⟨hM, hD⟩ := frames_of_marks hz
    rw [← List.singleton_append, matchedFrames_append, matchedFrames_append, hM,
      dequeuedFrames_append, dequeuedFrames_append, hD]
    exact ⟨rfl, .inr ⟨hMatched, rfl⟩⟩
  | returned hMatched zsl hz =>
    obtain ⟨hM, hD⟩ := frames_of_marks hz
    have hQbufs : ∀ e ∈ n.superBuf.map (fun s => Event.qbuf s.buf), ∃ buf, e = .qbuf buf := by
      intro e he
      obtain ⟨s, _, rfl⟩ := List.mem_map.mp he
      exact ⟨_, rfl⟩
    obtain ⟨hM', hD'⟩ := frames_of_qbufs hQbufs
    rw [← List.singleton_append, matchedFrames_append, matchedFrames_append, hM, hM',
      dequeuedFrames_append, dequeuedFrames_append, hD, hD']
    exact ⟨rfl, .inr ⟨hMatched, rfl⟩⟩
  | lost hMatched zsl hz _ _ =>
    obtain ⟨hM, hD⟩ := frames_of_marks hz
    rw [← List.singleton_append, matchedFrames_append, hM, dequeuedFrames_append, hD]
    exact ⟨rfl, .inr ⟨hMatched, rfl⟩⟩

theorem Moves.frames {camType : CamStreamType} {alloc : Alloc} {q q' : ChannelQueue}
    {es : List Event} (h : Moves camType alloc q es q') :
    matchedFrames es = [] ∧
      ∃ gone, q.matchedQueued = gone ++ q'.matchedQueued ∧ (dequeuedFrames es).Sublist gone := by
  induction h with
  | retarget h => exact ⟨rfl, [], by rw [ChannelQueue.matchedQueued, ← h.nodes]; rfl, .slnil⟩
  | @mark q e h =>
    cases e with
    | startZslSnapshot => exact ⟨rfl, [], rfl, .slnil⟩
    | stopZslSnapshot => exact ⟨rfl, [], rfl, .slnil⟩
    | _ => exact h.elim
  | flushed _ => exact ⟨rfl, [], rfl, .slnil⟩
  | @leave q n rest es h hl =>
    obtain ⟨hM, hD⟩ := hl.frames
    refine ⟨hM, if n.matched then [n.frameIdx] else [], ?_, ?_⟩
    · rw [ChannelQueue.matchedQueued, h, List.filter_cons]
      split <;> rfl
    · rcases hD with hD | ⟨hMatched, hD⟩
      · simp [hD]
      · simp [hD, hMatched]
  | trans _ _ ih ih' =>
    obtain ⟨hM, gone, hGone, hSub⟩ := ih
    obtain ⟨hM', gone', hGone', hSub'⟩ := ih'
    refine ⟨by rw [matchedFrames_append, hM, hM']; rfl, gone ++ gone', ?_, ?_⟩
    · rw [hGone, hGone', List.append_assoc]
    · rw [dequeuedFrames_append]
      exact hSub.append hSub'

/-- Storing a buffer dequeues nothing. It matches no superbuf, or that of its frame, which is then
the last matched one in the queue. -/
theorem Enqueue.frames {ch ch' : MmChannel} {nodeAlloc : Bool} {bufSIdx : Nat} {b : BufInfo}
    {es : List Event} (h : Enqueue ch nodeAlloc bufSIdx b ch' es) (hq : SuperbufInv ch.queue) :
    dequeuedFrames es = [] ∧
      (matchedFrames es = [] ∧ ch'.queue.matchedQueued = ch.queue.matchedQueued ∧
          ch'.queue.expectedFrameId = ch.queue.expectedFrameId ∨
        matchedFrames es = [b.frameIdx] ∧
          ch'.queue.matchedQueued = ch.queue.matchedQueued ++ [b.frameIdx] ∧
          (∃ n ∈ ch'.queue.nodes, n.matched = true ∧ n.frameIdx = b.frameIdx) ∧
          (ch.isFlashBracketingEnabled = false ∨ ch.queue.numStreams = 1 →
            ch'.queue.expectedFrameId =
              add32 b.frameIdx ch.queue.attr.postFrameSkip.toNat)) := by
  have hReleased : ∀ nodes : List QueueNode,
      matchedFrames (nodes.flatMap QueueNode.releaseFilled) = [] ∧
        dequeuedFrames (nodes.flatMap QueueNode.releaseFilled) = [] :=
    fun nodes => frames_of_qbufs (QueueNode.releaseFilled_flatMap_qbufs nodes)
  have hUnmatched : ∀ nodes : List QueueNode, (∀ m ∈ nodes, m.matched = false) →
      nodes.filter QueueNode.matched = [] :=
    fun nodes h => List.filter_eq_nil_iff.mpr fun m hm => by simp [h m hm]
  cases h with
  | @completes ms lo rest n hNodes hms hlo hn hFrame hAll =>
    obtain ⟨hM, hD⟩ := hReleased lo
    have hRest : ∀ m ∈ rest, m.matched = false := by
      have hOrder := hq.order
      rw [hNodes] at hOrder
      intro m hm
      have hTail := (List.pairwise_append.mp (List.pairwise_append.mp hOrder).2.1).2.1
      rcases List.rel_of_pairwise_cons hTail hm with hMatched | ⟨hm', _⟩
      · rw [hn] at hMatched
        cases hMatched
      · exact hm'
    refine ⟨hD, .inr ⟨?_, ?_, ?_, ?_⟩⟩
    · rw [← List.singleton_append, matchedFrames_append, hM]
      rfl
    · have hFrame' : (n.store bufSIdx b).frameIdx = b.frameIdx := hFrame
      simp only [ChannelQueue.matchedQueued, hNodes, MmChannel.setQueue_queue, List.filter_append,
        List.filter_cons, hn, hAll, hUnmatched lo hlo, hUnmatched rest hRest]
      simp [hFrame']
    · exact ⟨n.store bufSIdx b, by simp, hAll, hFrame⟩
    · rintro (hFlash | hOne)
      · simp [hFlash]
      · have hMatched := hq.single hOne n (by simp [hNodes])
        rw [hn] at hMatched
        cases hMatched
  | @joins ms rest n hNodes hn hFrame hMissing =>
    refine ⟨rfl, .inl ⟨rfl, ?_, rfl⟩⟩
    simp [ChannelQueue.matchedQueued, hNodes, hn, hMissing]
  | refuses => exact ⟨rfl, .inl ⟨rfl, rfl, rfl⟩⟩
  | @starts ms gone lo hi hNodes hms hgone hlo hhi hRoom hSeveral =>
    obtain ⟨hM, hD⟩ := hReleased gone
    refine ⟨hD, .inl ⟨hM, ?_, rfl⟩⟩
    simp [ChannelQueue.matchedQueued, hNodes, hUnmatched gone hgone,
      QueueNode.ofBuf]
  | @startsMatched ms gone lo hi hNodes hms hgone hlo hhi hRoom hOne =>
    obtain ⟨hM, hD⟩ := hReleased gone
    refine ⟨?_, .inr ⟨?_, ?_, ?_, fun _ => rfl⟩⟩
    · rw [dequeuedFrames_append, hD]
      rfl
    · rw [matchedFrames_append, hM]
      rfl
    · simp [ChannelQueue.matchedQueued, hNodes, hUnmatched gone hgone,
        hUnmatched hi fun m hm => (hhi m hm).1, QueueNode.ofBuf]
    · exact ⟨{ QueueNode.ofBuf 1 bufSIdx b with matched := true }, by simp, rfl, rfl⟩
  | @noMemory ms gone rest hNodes hgone hAlloc =>
    obtain ⟨hM, hD⟩ := hReleased gone
    refine ⟨?_, .inl ⟨?_, ?_, rfl⟩⟩
    · rw [dequeuedFrames_append, hD]
      rfl
    · rw [matchedFrames_append, hM]
      rfl
    · simp [ChannelQueue.matchedQueued, ChannelQueue.without, hNodes, hUnmatched gone hgone]

/-! ### Runs -/

theorem ChannelQueue.drain_expected (matchedOnly : Bool) (release : QueueNode → List Event)
    (n : Nat)
    (q : ChannelQueue) :
    (drain matchedOnly release n q).1.expectedFrameId = q.expectedFrameId := by
  induction n generalizing q with
  | zero => rfl
  | succ n ih =>
    rw [drain]
    rcases q.superbufDequeueInternal_cases matchedOnly with ⟨hDeq, _⟩ | ⟨m, rest, _, _, hDeq⟩
    · rw [hDeq]
    · rw [hDeq]
      exact ih (q.removeHead m rest)

/-- A command that delivers no buffer leaves the expected frame id, a flush to the one
it carries. -/
theorem MmChannel.handleCmd_expected {alloc : Alloc} {ch ch' : MmChannel} {cmd : Cmd}
    {es : List Event} (h : ch.handleCmd alloc cmd = .ok (ch', es)) (hNot : ∀ b, cmd ≠ .dataCb b)
    (hFlush : ∀ frameIdx streamType, cmd = .flushQueue frameIdx streamType →
      frameIdx = ch.queue.expectedFrameId) :
    ch'.queue.expectedFrameId = ch.queue.expectedFrameId := by
  cases cmd with
  | dataCb b => exact absurd rfl (hNot b)
  | reqDataCb numBufRequested =>
    simp only [handleCmd, superbufSkip] at h
    cases hSkip : ch.queue.superbufSkip with
    | error fault =>
      rw [hSkip] at h
      cases h
    | ok r =>
      rw [hSkip] at h
      cases h
      dsimp only
      rw [(requestZsl_marks _).1]
      exact (ChannelQueue.superbufTrim_ok .default alloc hSkip).2.2.1
  | flushQueue frameIdx streamType =>
    cases h
    exact (ChannelQueue.drain_expected _ _ _ _).trans (hFlush frameIdx streamType rfl)
  | general type start =>
    cases type with
    | flashBracketing =>
      cases h
      rfl
    | zoom1x =>
      cases h
      rfl
    | _ =>
      cases h
      exact ChannelQueue.drain_expected _ _ _ _
  | _ =>
    cases h
    rfl

/-- The keys that a run has delivered. -/
def deliveredKeys (is : List (Alloc × Cmd)) : List (Nat × Nat) :=
  is.flatMap fun i => i.2.delivered.map BufInfo.key

/-- The expected frame id after the metadata of a buffer was handled. -/
def MmChannel.metadataExpected (ch : MmChannel) (b : BufInfo) : Nat :=
  match ch.handleMetadata b with
  | .ok r => r.2.1.queue.expectedFrameId
  | .error _ => ch.queue.expectedFrameId

/-- A bundled stream delivers a frame once, nothing but a match moves the expected frame id, and its
additions do not wrap. Flash bracketing would replace the frame id that a match of several streams
sets. -/
def expectedUnmoved (is : List (Alloc × Cmd)) (_ : List Event) (ch : MmChannel) (i : Alloc × Cmd)
    (es : List Event) : Prop :=
  match i.2 with
  | .dataCb b =>
    (b.streamId ∈ ch.queue.bundledStreams → b.frameIdx ≠ 0 ∧ b.key ∉ deliveredKeys is) ∧
      b.frameIdx + ch.queue.attr.postFrameSkip.toNat < 2 ^ 32 ∧
      ch.metadataExpected b = ch.queue.expectedFrameId ∧
      (ch.isFlashBracketingEnabled = true → ch.queue.numStreams = 1 ∨ matchedFrames es = [])
  | .flushQueue frameIdx _ => frameIdx = ch.queue.expectedFrameId
  | _ => True

instance (is : List (Alloc × Cmd)) (os : List Event) (ch : MmChannel) (i : Alloc × Cmd)
    (es : List Event) : Decidable (expectedUnmoved is os ch i es) :=
  match i with
  | (_, .dataCb _) => inferInstanceAs (Decidable (_ ∧ _ ∧ _ ∧ _))
  | (_, .flushQueue _ _) => inferInstanceAs (Decidable (_ = _))
  | (_, .reqDataCb _) | (_, .startZsl) | (_, .stopZsl) | (_, .configNotify _)
  | (_, .general _ _) | (_, .other) => inferInstanceAs (Decidable True)

namespace Keyed

variable {q : ChannelQueue} {keys keys' : List (Nat × Nat)}

theorem mono (hq : Keyed q keys) (h : ∀ key ∈ keys, key ∈ keys') : Keyed q keys' where
  inv := hq.inv
  filled := hq.filled
  entries := hq.entries.mono fun _ _ hInfo => ⟨hInfo.1, h _ hInfo.2⟩

theorem delivered_of_matched (hq : Keyed q keys) {n : QueueNode} (hn : n ∈ q.nodes)
    (hM : n.matched = true) : ∀ s ∈ q.bundledStreams, (s, n.frameIdx) ∈ keys := by
  intro s hs
  obtain ⟨k, hk, rfl⟩ := List.mem_iff_getElem.mp hs
  have hLt : k < n.superBuf.length := by
    rw [(hq.filled n hn).length]
    exact hk
  cases hSlot : n.superBuf[k] with
  | none =>
    exact absurd (hSlot ▸ List.getElem_mem hLt) ((hq.filled n hn).matched_iff.mp hM)
  | some info =>
    have hGet : n.superBuf[k]? = some (some info) := by
      rw [List.getElem?_eq_getElem hLt, hSlot]
    obtain ⟨hStream, hDelivered⟩ := hq.entries n hn k info hGet
    rw [List.getElem?_eq_getElem hk] at hStream
    rw [Option.some.inj hStream, ← (hq.filled n hn).frame info (List.mem_of_getElem? hGet)]
    exact hDelivered

end Keyed

/-- What the matches of a run have left: their frames are increasing with the skip between them and
behind the expected frame id, and those still queued are the last of them. -/
structure MatchHistory (keys : List (Nat × Nat)) (es : List Event) (q : ChannelQueue) : Prop where
  keyed : Keyed q keys
  increasing : (matchedFrames es).Pairwise
    fun a b => a < b ∧ a + q.attr.postFrameSkip.toNat ≤ b
  passed : ∀ f ∈ matchedFrames es, f + q.attr.postFrameSkip.toNat ≤ q.expectedFrameId ∧
    ∀ s ∈ q.bundledStreams, (s, f) ∈ keys
  order : ∃ gone, matchedFrames es = gone ++ q.matchedQueued ∧ (dequeuedFrames es).Sublist gone

namespace MatchHistory

variable {camType : CamStreamType} {alloc : Alloc} {q q' : ChannelQueue} {es es' : List Event}
  {keys keys' : List (Nat × Nat)}

theorem mono (hq : MatchHistory keys es q) (h : ∀ key ∈ keys, key ∈ keys') :
    MatchHistory keys' es q where
  keyed := hq.keyed.mono h
  increasing := hq.increasing
  passed := fun f hf => ⟨(hq.passed f hf).1, fun s hs => h _ ((hq.passed f hf).2 s hs)⟩
  order := hq.order

theorem moves (hq : MatchHistory keys es q) (h : Moves camType alloc q es' q')
    (hExpected : q'.expectedFrameId = q.expectedFrameId) :
    MatchHistory keys (es ++ es') q' := by
  obtain ⟨hM, gone', hGone', hSub'⟩ := h.frames
  obtain ⟨gone, hGone, hSub⟩ := hq.order
  have hSame : matchedFrames (es ++ es') = matchedFrames es := by
    rw [matchedFrames_append, hM, List.append_nil]
  refine ⟨(hq.keyed.moves h).mono ?_, ?_, ?_, gone ++ gone', ?_, ?_⟩
  · intro key hKey
    split at hKey
    · cases hKey
    · exact hKey
  · rw [hSame, h.limits.2]
    exact hq.increasing
  · rw [hSame, h.limits.2, hExpected, h.bundledStreams]
    exact hq.passed
  · rw [hSame, hGone, hGone', List.append_assoc]
  · rw [dequeuedFrames_append]
    exact hSub.append hSub'

theorem enqueue {ch ch' : MmChannel} {bufSIdx : Nat} {b : BufInfo} {nodeAlloc : Bool}
    (hq : MatchHistory keys es ch.queue) (hb : b.frameIdx ≠ 0) (hKey : b.key ∉ keys)
    (hIdx : ch.queue.bundledStreams[bufSIdx]? = some b.streamId)
    (hWrap : b.frameIdx + ch.queue.attr.postFrameSkip.toNat < 2 ^ 32)
    (hFlash : ch.isFlashBracketingEnabled = true →
      ch.queue.numStreams = 1 ∨ matchedFrames es' = [])
    (h : Enqueue ch nodeAlloc bufSIdx b ch' es')
    (hAge : es' = [.qbuf (some b.buf)] ∨ ch.queue.expectedFrameId ≤ b.frameIdx) :
    MatchHistory (b.key :: keys) (es ++ es') ch'.queue := by
  have hKeyed := hq.keyed.enqueue hb hIdx h
  obtain ⟨gone, hGone, hSub⟩ := hq.order
  obtain ⟨hD, ⟨hM, hQueued, hExpected⟩ | ⟨hM, hQueued, ⟨n, hn, hMatched, hFrame⟩, hExpected⟩⟩ :=
    h.frames hq.keyed.inv
  · have hSame : matchedFrames (es ++ es') = matchedFrames es := by
      rw [matchedFrames_append, hM, List.append_nil]
    refine ⟨hKeyed, ?_, ?_, gone, ?_, ?_⟩
    · rw [hSame, h.frame.2]
      exact hq.increasing
    · rw [hSame, h.frame.2, hExpected, h.frame.1]
      exact fun f hf => ⟨(hq.passed f hf).1,
        fun s hs => List.mem_cons_of_mem _ ((hq.passed f hf).2 s hs)⟩
    · rw [hSame, hGone, hQueued]
    · rw [dequeuedFrames_append, hD, List.append_nil]
      exact hSub
  · have hOld : ch.queue.expectedFrameId ≤ b.frameIdx := by
      rcases hAge with rfl | hAge
      · cases hM
      · exact hAge
    have hNew : ch'.queue.expectedFrameId =
        b.frameIdx + ch.queue.attr.postFrameSkip.toNat := by
      rw [hExpected, add32, Nat.mod_eq_of_lt hWrap]
      cases hOn : ch.isFlashBracketingEnabled with
      | false => exact .inl rfl
      | true =>
        rcases hFlash hOn with hOne | hNone
        · exact .inr hOne
        · rw [hM] at hNone
          cases hNone
    have hBundled : b.streamId ∈ ch.queue.bundledStreams := List.mem_of_getElem? hIdx
    -- the frame of an earlier match has been delivered by the stream of this buffer
    have hLater : ∀ f ∈ matchedFrames es,
        f < b.frameIdx ∧ f + ch.queue.attr.postFrameSkip.toNat ≤ b.frameIdx := by
      intro f hf
      obtain ⟨hBehind, hAll⟩ := hq.passed f hf
      have hNe : f ≠ b.frameIdx := fun hEq => hKey (by
        rw [BufInfo.key, ← hEq]
        exact hAll b.streamId hBundled)
      omega
    have hAppend : matchedFrames (es ++ es') = matchedFrames es ++ [b.frameIdx] := by
      rw [matchedFrames_append, hM]
    refine ⟨hKeyed, ?_, ?_, gone, ?_, ?_⟩
    · rw [hAppend, h.frame.2]
      exact List.pairwise_append.mpr ⟨hq.increasing, List.pairwise_singleton _ _,
        fun f hf g hg => List.mem_singleton.mp hg ▸ hLater f hf⟩
    · rw [hAppend, h.frame.2, hNew]
      intro f hf
      rcases List.mem_append.mp hf with hf | hf
      · refine ⟨?_, fun s hs => ?_⟩
        · have hBehind := (hLater f hf).2
          omega
        · rw [h.frame.1] at hs
          exact List.mem_cons_of_mem _ ((hq.passed f hf).2 s hs)
      · rw [List.mem_singleton.mp hf]
        refine ⟨Nat.le_refl _, ?_⟩
        rw [← hFrame]
        exact hKeyed.delivered_of_matched hn hMatched
    · rw [hAppend, hGone, hQueued, List.append_assoc]
    · rw [dequeuedFrames_append, hD, List.append_nil]
      exact hSub

/-- Every step of a run that leaves the expected frame id to the matches keeps the history. -/
theorem step {ch ch' : MmChannel} {i : Alloc × Cmd} {is : List (Alloc × Cmd)}
    (hq : MatchHistory (deliveredKeys is) es ch.queue) (hOk : expectedUnmoved is es ch i es')
    (h : MmChannel.CmdStep ch i es' ch') :
    MatchHistory (deliveredKeys (is ++ [i])) (es ++ es') ch'.queue ∧
      ch'.queue.attr.postFrameSkip = ch.queue.attr.postFrameSkip := by
  obtain ⟨alloc, cmd⟩ := i
  have hKeys : deliveredKeys (is ++ [(alloc, cmd)]) =
      deliveredKeys is ++ cmd.delivered.map BufInfo.key := by
    simp [deliveredKeys]
  have hMono : ∀ key ∈ deliveredKeys is, key ∈ deliveredKeys (is ++ [(alloc, cmd)]) := by
    intro key hKey
    rw [hKeys]
    exact List.mem_append_left _ hKey
  obtain ⟨ch₁, es₁, es₂, hHandled, rfl, hTrail, _, hTrailExpected⟩ :=
    MmChannel.processStreamBuf_trail h
  rw [← List.append_assoc, hTrail.limits.2]
  rcases MmChannel.handleCmd_ok hHandled with ⟨b, rfl, hDelivered⟩ | ⟨hNot, hMoves⟩
  · obtain ⟨hFresh, hWrap, hMetaExpected, hFlash⟩ := hOk
    rcases hDelivered.outcome hq.keyed.inv.order with ⟨_, rfl, rfl⟩ |
      ⟨ch₂, es₃, es₄, bufSIdx, rfl, hIdx, ⟨rc, hMeta⟩, hMetaMoves, hEnqueue, hAge⟩
    · rw [List.append_nil]
      exact ⟨(hq.mono hMono).moves hTrail hTrailExpected, rfl⟩
    · obtain ⟨hb, hKey⟩ := hFresh (List.mem_of_getElem? hIdx)
      rw [MmChannel.metadataExpected, hMeta] at hMetaExpected
      have hq₂ := hq.moves hMetaMoves hMetaExpected
      have hSkip := hMetaMoves.limits.2
      have hFlash₂ : ch₂.isFlashBracketingEnabled = true →
          ch₂.queue.numStreams = 1 ∨ matchedFrames es₄ = [] := by
        rw [(MmChannel.handleMetadata_ok alloc hMeta).2, ChannelQueue.numStreams,
          hMetaMoves.bundledStreams]
        intro hOn
        refine (hFlash hOn).imp_right fun hNone => ?_
        simp only [matchedFrames_append, List.append_eq_nil_iff] at hNone
        exact hNone.1.2
      have hq₁ := hq₂.enqueue hb hKey (hMetaMoves.bundledStreams ▸ hIdx) (hSkip ▸ hWrap) hFlash₂
        hEnqueue hAge
      rw [← List.append_assoc, hEnqueue.frame.2, hSkip]
      refine ⟨(hq₁.mono fun key hKey' => ?_).moves hTrail hTrailExpected, rfl⟩
      rw [hKeys]
      rcases List.mem_cons.mp hKey' with rfl | hOld
      · exact List.mem_append_right _ (List.mem_singleton.mpr rfl)
      · exact List.mem_append_left _ hOld
  · have hExpected := MmChannel.handleCmd_expected hHandled hNot fun frameIdx streamType hCmd => by
      subst hCmd
      exact hOk
    rw [hMoves.limits.2]
    exact ⟨((hq.mono hMono).moves hMoves hExpected).moves hTrail hTrailExpected, rfl⟩

end MatchHistory

/-- In every run that leaves the expected frame id to the matches, the frames of the matched
superbufs increase by at least the skip, and the dequeue takes superbufs in that order: what was
matched is what has left followed by what is queued. -/
theorem matched_in_order {ch ch' : MmChannel} {is : List (Alloc × Cmd)} {es : List Event}
    (hNodes : ch.queue.nodes = []) (hSize : ch.queue.size = 0) (hCnt : ch.queue.matchCnt = 0)
    (run : Steps MmChannel.CmdStep expectedUnmoved ch is es ch') :
    (matchedFrames es).Pairwise
        (fun a b => a < b ∧ a + ch.queue.attr.postFrameSkip.toNat ≤ b) ∧
      (dequeuedFrames es).Sublist (matchedFrames es) ∧
      ∃ gone, matchedFrames es = gone ++ ch'.queue.matchedQueued ∧
        (dequeuedFrames es).Sublist gone := by
  have hRun := run.history (I := fun is es c => MatchHistory (deliveredKeys is) es c.queue ∧
    c.queue.attr.postFrameSkip = ch.queue.attr.postFrameSkip) ?_ ?_
  · obtain ⟨hHistory, hSkip⟩ := hRun
    obtain ⟨gone, hGone, hSub⟩ := hHistory.order
    refine ⟨hSkip ▸ hHistory.increasing, ?_, gone, hGone, hSub⟩
    rw [hGone]
    exact hSub.trans (List.sublist_append_left _ _)
  · refine ⟨⟨⟨⟨?_, ?_, ?_, ?_⟩, ?_, ChannelQueue.entries_nil hNodes⟩, List.Pairwise.nil, ?_,
      [], ?_, .slnil⟩, rfl⟩ <;>
      simp [hNodes, hSize, hCnt, matchedFrames, ChannelQueue.matchedQueued]
  · rintro is es c i o c' hOk ⟨hHistory, hSkip⟩ hStep
    obtain ⟨hHistory', hSkip'⟩ := hHistory.step hOk hStep
    exact ⟨hHistory', hSkip'.trans hSkip⟩

/-- The command thread on the runs that leave the expected frame id to the matches. -/
def unmovedNext (is : List (Alloc × Cmd)) (os : List Event) (ch : MmChannel) (i : Alloc × Cmd) :
    Option (MmChannel × List Event) :=
  match MmChannel.processStreamBuf i.1 ch i.2 with
  | .error _ => none
  | .ok r => if expectedUnmoved is os ch i r.2 then some r else none

theorem unmovedNext_step {is : List (Alloc × Cmd)} {os es : List Event} {ch ch' : MmChannel}
    {i : Alloc × Cmd} (h : unmovedNext is os ch i = some (ch', es)) :
    MmChannel.CmdStep ch i es ch' ∧ expectedUnmoved is os ch i es := by
  unfold unmovedNext at h
  split at h
  · cases h
  · rename_i hStep
    split at h
    · rename_i hOk
      cases h
      exact ⟨hStep, hOk⟩
    · cases h

/-- Two streams out of step: the second frame completes first and ends the first one. -/
def crossedCmds : List (Alloc × Cmd) :=
  ([sampleFrame 1 .preview 1, sampleFrame 2 .snapshot 2, sampleFrame 1 .preview 2,
    sampleFrame 2 .snapshot 1, sampleFrame 2 .snapshot 4, sampleFrame 1 .preview 4].map
      fun b => (.succeeds, .dataCb b)) ++ [(.succeeds, .reqDataCb 1)]

theorem matched_in_order_crossed :
    ∃ es ch', Steps MmChannel.CmdStep expectedUnmoved pairChannel crossedCmds es ch' ∧
      matchedFrames es = [2, 4] ∧ (dequeuedFrames es).Sublist [2, 4] := by
  obtain ⟨r, hRun, hFrames⟩ := Option.map_eq_some_iff.mp
    (show (exec unmovedNext [] [] pairChannel crossedCmds).map (fun r => matchedFrames r.2) =
      some [2, 4] by decide +kernel)
  have run : Steps MmChannel.CmdStep expectedUnmoved pairChannel crossedCmds r.2 r.1 :=
    Steps.of_exec _ _ (fun _ _ _ _ _ _ _ h => unmovedNext_step h) hRun
  have hOrder := (matched_in_order rfl rfl rfl run).2.1
  rw [hFrames] at hOrder
  exact ⟨r.2, r.1, run, hFrames, hOrder⟩

end KiwiDevice.Camera

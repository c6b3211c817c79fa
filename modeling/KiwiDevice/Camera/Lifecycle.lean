import KiwiDevice.Camera.ChannelBundle
import KiwiDevice.Camera.ProcessStreamBuf
import KiwiDevice.Camera.QueueRuns

/-!
# The superbuf queue over the life of a channel

A channel is started and stopped any number of times, with its command thread running in between.
`mm_channel_superbuf_queue_deinit` frees the nodes and `mm_channel_superbuf_queue_init` empties the
list, but neither touches `match_cnt`. The counter therefore agrees with the list over a whole life
only if no stop finds a matched superbuf in the queue.
-/

namespace KiwiDevice.Camera

/-!
### What the command thread leaves alone

The command thread works on the queue and on its own flags. The streams of the channel, its handle
and state and the activity of the bundle are as they were after every command.
-/

/-- The parts of a channel that its command thread does not write. -/
structure MmChannel.Frame (ch ch' : MmChannel) : Prop where
  myHdl : ch'.myHdl = ch.myHdl
  state : ch'.state = ch.state
  streams : ch'.streams = ch.streams
  isActive : ch'.bundle.isActive = ch.bundle.isActive
  superBufNotifyCb : ch'.bundle.superBufNotifyCb = ch.bundle.superBufNotifyCb
  userData : ch'.bundle.userData = ch.bundle.userData

namespace MmChannel

variable {alloc : Alloc} {ch ch' ch'' : MmChannel} {es : List Event}

theorem Frame.refl (ch : MmChannel) : Frame ch ch := ⟨rfl, rfl, rfl, rfl, rfl, rfl⟩

theorem Frame.trans (h : Frame ch ch') (h' : Frame ch' ch'') : Frame ch ch'' where
  myHdl := h'.myHdl.trans h.myHdl
  state := h'.state.trans h.state
  streams := h'.streams.trans h.streams
  isActive := h'.isActive.trans h.isActive
  superBufNotifyCb := h'.superBufNotifyCb.trans h.superBufNotifyCb
  userData := h'.userData.trans h.userData

theorem setQueue_frame (ch : MmChannel) (q : ChannelQueue) : Frame ch (ch.setQueue q) :=
  ⟨rfl, rfl, rfl, rfl, rfl, rfl⟩

theorem resetFrameId_frame (ch : MmChannel) (metadata : MetadataInfo) :
    Frame ch (ch.resetFrameId metadata).1 := by
  unfold resetFrameId
  split
  · exact (setQueue_frame _ _).trans (setQueue_frame _ _)
  · exact .refl ch

theorem awaitZoom1x_frame (ch : MmChannel) (b : BufInfo) (found : Bool) :
    Frame ch (ch.awaitZoom1x b found).1 := by
  unfold awaitZoom1x
  split
  · exact ⟨rfl, rfl, rfl, rfl, rfl, rfl⟩
  · exact (setQueue_frame _ _).trans (setQueue_frame _ _)

theorem adjustForSnapshot_frame (ch : MmChannel) (metadata : MetadataInfo) :
    Frame ch (ch.adjustForSnapshot metadata).1 := by
  unfold adjustForSnapshot
  split
  · split
    · exact ⟨rfl, rfl, rfl, rfl, rfl, rfl⟩
    · exact ⟨rfl, rfl, rfl, rfl, rfl, rfl⟩
  · split
    · exact setQueue_frame _ _
    · split
      · exact (setQueue_frame _ _).trans (setQueue_frame _ _)
      · exact .refl ch

theorem adjustForRange_frame (ch : MmChannel) (metadata : MetadataInfo) :
    Frame ch (ch.adjustForRange metadata) := by
  unfold adjustForRange
  split
  · exact setQueue_frame _ _
  · split
    · exact ⟨rfl, rfl, rfl, rfl, rfl, rfl⟩
    · exact .refl ch

theorem handleMetadata_frame {b : BufInfo} {rc : Int}
    (h : ch.handleMetadata b = .ok (rc, ch', es)) : Frame ch ch' :=
  handleMetadata_rel (R := fun ch _ ch' => Frame ch ch') .refl .trans resetFrameId_frame
    (fun ch found => ch.awaitZoom1x_frame b found) adjustForSnapshot_frame adjustForRange_frame h

theorem joinSuperbuf_frame (ch : MmChannel) (search : Search) (pos : Nat) (node : QueueNode)
    (bufSIdx : Nat) (b : BufInfo) : Frame ch (ch.joinSuperbuf search pos node bufSIdx b).1 := by
  unfold joinSuperbuf
  dsimp only
  split
  · exact ⟨rfl, rfl, rfl, rfl, rfl, rfl⟩
  · exact setQueue_frame _ _

theorem startSuperbuf_frame (ch : MmChannel) (nodeAlloc : Bool) (search : Search) (bufSIdx : Nat)
    (b : BufInfo) : Frame ch (ch.startSuperbuf nodeAlloc search bufSIdx b).1 := by
  unfold startSuperbuf
  split
  · exact .refl ch
  · unfold enqueueNew
    dsimp only
    split
    · exact setQueue_frame _ _
    · exact setQueue_frame _ _

theorem superbufCompAndEnqueue_frame {nodeAlloc : Bool} {b : BufInfo}
    (h : ch.superbufCompAndEnqueue nodeAlloc b = .ok (ch', es)) : Frame ch ch' := by
  unfold superbufCompAndEnqueue at h
  split at h
  · cases h
    exact .refl ch
  · split at h
    · cases h
    · rename_i hMeta
      have hFrame := handleMetadata_frame hMeta
      split at h
      · cases h
        exact hFrame
      · split at h
        · cases h
          exact hFrame
        · cases h
          refine hFrame.trans ?_
          unfold compSuperbuf
          dsimp only
          split
          · exact joinSuperbuf_frame _ _ _ _ _ _
          · exact startSuperbuf_frame _ _ _ _ _

theorem requestZsl_frame (ch : MmChannel) : Frame ch ch.requestZsl.1 := by
  unfold requestZsl
  split
  · exact ⟨rfl, rfl, rfl, rfl, rfl, rfl⟩
  · split
    · exact ⟨rfl, rfl, rfl, rfl, rfl, rfl⟩
    · exact .refl ch

theorem handleGeneral_frame (ch : MmChannel) (type : GenericCmdType) (start : Bool) :
    Frame ch (ch.handleGeneral type start).1 := by
  cases type with
  | _ => exact ⟨rfl, rfl, rfl, rfl, rfl, rfl⟩

theorem handleCmd_frame {cmd : Cmd} (h : ch.handleCmd alloc cmd = .ok (ch', es)) :
    Frame ch ch' := by
  cases cmd with
  | dataCb b => exact superbufCompAndEnqueue_frame h
  | reqDataCb numBufRequested =>
    simp only [handleCmd, superbufSkip] at h
    split at h
    · cases h
    · rename_i r hSkip
      split at hSkip
      · cases hSkip
      · cases hSkip
        cases h
        exact Frame.trans (⟨rfl, rfl, rfl, rfl, rfl, rfl⟩ : Frame ch { ch with pendingCnt := numBufRequested })
          ((setQueue_frame _ _).trans (requestZsl_frame _))
  | general type start =>
    have hFrame := ch.handleGeneral_frame type start
    simp only [handleCmd, Except.ok.injEq] at h
    rwa [h] at hFrame
  | flushQueue frameIdx streamType =>
    cases h
    exact (setQueue_frame _ _).trans (setQueue_frame _ _)
  | _ =>
    cases h
    exact ⟨rfl, rfl, rfl, rfl, rfl, rfl⟩

theorem countBurst_frame (ch : MmChannel) (notifyMode : NotifyMode) :
    Frame ch (ch.countBurst notifyMode).1 := by
  unfold countBurst
  split
  · dsimp only
    split
    · exact ⟨rfl, rfl, rfl, rfl, rfl, rfl⟩
    · exact ⟨rfl, rfl, rfl, rfl, rfl, rfl⟩
  · exact .refl ch

theorem dispatchLoop_frame (notifyMode : NotifyMode) (n pass : Nat) (ch : MmChannel) :
    Frame ch (dispatchLoop alloc notifyMode n pass ch).1 := by
  induction n generalizing pass ch with
  | zero => exact .refl ch
  | succ n ih =>
    rw [dispatchLoop]
    split
    · split
      · exact .refl ch
      · exact ((setQueue_frame _ _).trans (countBurst_frame _ _)).trans (ih _ _)
    · exact .refl ch

theorem finishCmd_frame {handled : MmChannel × List Event}
    (h : finishCmd alloc handled = .ok (ch', es)) : Frame handled.1 ch' := by
  simp only [finishCmd, superbufBufdoneOverflow] at h
  split at h
  · cases h
  · rename_i hTrim
    split at hTrim
    · cases hTrim
    · cases hTrim
      cases h
      exact (setQueue_frame _ _).trans (dispatchLoop_frame _ _ _ _)

theorem processStreamBuf_frame {cmd : Cmd} (h : processStreamBuf alloc ch cmd = .ok (ch', es)) :
    Frame ch ch' := by
  unfold processStreamBuf at h
  split at h
  · cases h
  · rename_i hHandled
    have hFrame := handleCmd_frame hHandled
    split at h
    · cases h
      exact hFrame
    · exact hFrame.trans (finishCmd_frame h)

end MmChannel

/-! ### The life of a channel -/

open Lib

/-- Where the channel is between `MM_CHANNEL_EVT_START` and `MM_CHANNEL_EVT_STOP`. -/
inductive Phase where
  | stopped | starting | active | stopping
  deriving DecidableEq, Repr

/-- A channel with its command thread. -/
structure ChannelLife where
  channel : MmChannel
  phase : Phase := .stopped
  cmdThread : Bool := false

/-- What happens to a channel. The start and the stop are taken apart where the command thread works
beside them. -/
inductive LifeEvent where
  /-- The start has initialised the queue and launched the threads. -/
  | startBegin
  /-- All streams were started. -/
  | startDone
  /-- A stream could not be started; the error handling has released the threads. -/
  | startFailed
  | stopBegin
  /-- The stop has released the threads and deinitialised the queue. -/
  | stopDone
  | command (alloc : Alloc) (cmd : Cmd)
  /-- Another event of the channel or of its streams, which changes stream objects only. -/
  | streams (streams : List MmStream)

namespace ChannelLife

/-- `mm_channel_fsm_fn` and the command thread; `none` where the event cannot happen. -/
def next (s : ChannelLife) : LifeEvent → Option (ChannelLife × List Event)
  | .startBegin =>
    if s.phase = .stopped ∧ s.channel.state = .stopped then
      match s.channel.startOrder with
      | .error _ => none
      | .ok sObjs =>
        some ({ channel := s.channel.startBundle sObjs
                phase := .starting
                cmdThread := s.cmdThread || s.channel.bundle.superBufNotifyCb.isSome }, [])
    else none
  | .startDone =>
    if s.phase = .starting then
      some ({ s with channel := { s.channel with state := .active }, phase := .active }, [])
    else none
  | .startFailed =>
    if s.phase = .starting then
      some ({ channel := s.channel.clearBundle
              phase := .stopped
              cmdThread := s.cmdThread && !s.channel.bundle.isActive }, [])
    else none
  | .stopBegin =>
    if s.phase = .active ∧ s.channel.state = .active then some ({ s with phase := .stopping }, [])
    else none
  | .stopDone =>
    if s.phase = .stopping then
      some ({ channel := { s.channel.releaseBundle with state := .stopped }
              phase := .stopped
              cmdThread := s.cmdThread && !s.channel.bundle.isActive }, [])
    else none
  | .command alloc cmd =>
    if s.cmdThread then
      match MmChannel.processStreamBuf alloc s.channel cmd with
      | .error _ => none
      | .ok (channel, es) => some ({ s with channel }, es)
    else none
  | .streams streams => some ({ s with channel := { s.channel with streams } }, [])

def Step (s : ChannelLife) (i : LifeEvent) (es : List Event) (s' : ChannelLife) : Prop :=
  s.next i = some (s', es)

end ChannelLife

/-- The trimming loops of the channel end: the counter agrees with the list, a count above any limit
means a matched head, and no command is caught in a loop. -/
structure TrimmingEnds (ch : MmChannel) : Prop where
  matchCnt : ch.queue.matchCnt = ch.queue.nodes.countP QueueNode.matched
  head : ∀ limit, limit < ch.queue.matchCnt →
    ∃ n rest, ch.queue.nodes = n :: rest ∧ n.matched = true
  returns : ∀ alloc cmd, MmChannel.processStreamBuf alloc ch cmd ≠ .error .spin

theorem SuperbufInv.trimmingEnds {ch : MmChannel} (hq : SuperbufInv ch.queue)
    (hMatched : ch.queue.nodes.countP QueueNode.matched < 2 ^ 8) : TrimmingEnds ch where
  matchCnt := by
    rw [hq.matchCnt]
    omega
  head := by
    intro limit hLimit
    cases hNodes : ch.queue.nodes with
    | nil =>
      rw [hq.matchCnt, hNodes] at hLimit
      cases hLimit
    | cons n rest =>
      refine ⟨n, rest, rfl, ?_⟩
      cases hM : n.matched with
      | true => rfl
      | false =>
        have hNone := hq.noneMatched fun m rest' h => by
          rw [hNodes] at h
          cases h
          exact hM
        rw [hq.matchCnt, hNone] at hLimit
        cases hLimit
  returns := fun _ _ => MmChannel.processStreamBuf_not_spin hq

/-- Every stop finds no matched superbuf in the queue when the threads are released. -/
def stopsUnmatched (_ : List LifeEvent) (_ : List Event) (s : ChannelLife) (i : LifeEvent)
    (_ : List Event) : Prop :=
  match i with
  | .stopDone => s.channel.bundle.isActive = true → ∀ n ∈ s.channel.queue.nodes, n.matched = false
  | _ => True

instance (is : List LifeEvent) (os : List Event) (s : ChannelLife) (i : LifeEvent)
    (es : List Event) : Decidable (stopsUnmatched is os s i es) :=
  match i with
  | .stopDone => inferInstanceAs (Decidable (_ → _))
  | .startBegin | .startDone | .startFailed | .stopBegin | .command _ _ | .streams _ =>
    inferInstanceAs (Decidable True)

/-- What holds over the life of such a channel. -/
structure LifeInv (s : ChannelLife) : Prop where
  inv : SuperbufInv s.channel.queue
  matched : s.channel.queue.nodes.countP QueueNode.matched < 2 ^ 8
  idle : s.cmdThread = false → s.channel.queue.nodes = []
  thread : s.cmdThread = true → s.channel.bundle.isActive = true
  stopped : s.phase = .stopped → s.cmdThread = false

theorem SuperbufInv.of_nil {q : ChannelQueue} (hNodes : q.nodes = []) (hSize : q.size = 0)
    (hCnt : q.matchCnt = 0) : SuperbufInv q := by
  refine ⟨?_, ?_, ?_, ?_⟩ <;> simp [hNodes, hSize, hCnt]

namespace LifeInv

variable {s s' : ChannelLife} {es : List Event}

theorem empty (hNodes : s.channel.queue.nodes = []) (hSize : s.channel.queue.size = 0)
    (hCnt : s.channel.queue.matchCnt = 0)
    (hThread : s.cmdThread = true → s.channel.bundle.isActive = true)
    (hStopped : s.phase = .stopped → s.cmdThread = false) : LifeInv s :=
  ⟨.of_nil hNodes hSize hCnt, by simp [hNodes], fun _ => hNodes, hThread, hStopped⟩

theorem inactive (h : LifeInv s) (hActive : s.channel.bundle.isActive = false) :
    s.cmdThread = false := by
  cases hThread : s.cmdThread with
  | false => rfl
  | true =>
    rw [h.thread hThread] at hActive
    cases hActive

theorem startBegin (h : LifeInv s) (hStep : s.next .startBegin = some (s', es)) : LifeInv s' := by
  simp only [ChannelLife.next] at hStep
  split at hStep
  · rename_i hPhase
    have hThread := h.stopped hPhase.1
    split at hStep
    · cases hStep
    · rename_i sObjs _
      cases hStep
      by_cases hCb : s.channel.bundle.superBufNotifyCb = none
      · rw [MmChannel.startBundle, if_neg (by simp [hCb]), hThread, hCb]
        exact ⟨h.inv, h.matched, fun _ => h.idle hThread, nofun, nofun⟩
      · -- the counter is the old one, which an idle queue has at zero
        have hCnt : s.channel.queue.matchCnt = 0 := by
          rw [h.inv.matchCnt, h.idle hThread]
          rfl
        rw [MmChannel.startBundle, if_pos hCb]
        exact empty rfl rfl hCnt (fun _ => rfl) nofun
  · cases hStep

theorem startFailed (h : LifeInv s) (hStep : s.next .startFailed = some (s', es)) :
    LifeInv s' := by
  simp only [ChannelLife.next] at hStep
  split at hStep
  · cases hStep
    cases hActive : s.channel.bundle.isActive with
    | true =>
      rw [MmChannel.clearBundle, if_pos hActive]
      exact empty rfl rfl rfl (fun hTrue => by simp at hTrue) (fun _ => by simp)
    | false =>
      have hThread := h.inactive hActive
      rw [MmChannel.clearBundle, if_neg (by simp [hActive]), hThread]
      exact ⟨h.inv, h.matched, fun _ => h.idle hThread, nofun, fun _ => rfl⟩
  · cases hStep

theorem stopDone (h : LifeInv s)
    (hUnmatched : s.channel.bundle.isActive = true → ∀ n ∈ s.channel.queue.nodes, n.matched = false)
    (hStep : s.next .stopDone = some (s', es)) : LifeInv s' := by
  simp only [ChannelLife.next] at hStep
  split at hStep
  · cases hStep
    cases hActive : s.channel.bundle.isActive with
    | true =>
      have hCnt : s.channel.queue.matchCnt = 0 := by
        rw [h.inv.matchCnt, SuperbufInv.countP_unmatched (hUnmatched hActive), Nat.zero_mod]
      rw [MmChannel.releaseBundle, if_pos hActive]
      exact empty rfl rfl hCnt (fun hTrue => by simp at hTrue) (fun _ => by simp)
    | false =>
      have hThread := h.inactive hActive
      rw [MmChannel.releaseBundle, if_neg (by simp [hActive]), hThread]
      exact ⟨h.inv, h.matched, fun _ => h.idle hThread, nofun, fun _ => rfl⟩
  · cases hStep

theorem command {alloc : Alloc} {cmd : Cmd} (h : LifeInv s)
    (hStep : s.next (.command alloc cmd) = some (s', es)) : LifeInv s' := by
  simp only [ChannelLife.next] at hStep
  split at hStep
  · rename_i hThread
    split at hStep
    · cases hStep
    · rename_i channel es' hCmd
      cases hStep
      have hFrame := MmChannel.processStreamBuf_frame hCmd
      refine ⟨(MmChannel.processStreamBuf_kept hCmd h.inv).inv,
        MmChannel.processStreamBuf_matched hCmd h.inv h.matched, ?_, ?_, h.stopped⟩
      · intro hFalse
        rw [hThread] at hFalse
        cases hFalse
      · intro _
        rw [hFrame.isActive]
        exact h.thread hThread
  · cases hStep

theorem step {i : LifeEvent} {is : List LifeEvent} {os : List Event} (h : LifeInv s)
    (hOk : stopsUnmatched is os s i es) (hStep : s.Step i es s') : LifeInv s' := by
  cases i with
  | startBegin => exact h.startBegin hStep
  | startDone =>
    simp only [ChannelLife.Step, ChannelLife.next] at hStep
    split at hStep
    · cases hStep
      exact ⟨h.inv, h.matched, h.idle, h.thread, nofun⟩
    · cases hStep
  | startFailed => exact h.startFailed hStep
  | stopBegin =>
    simp only [ChannelLife.Step, ChannelLife.next] at hStep
    split at hStep
    · cases hStep
      exact ⟨h.inv, h.matched, h.idle, h.thread, nofun⟩
    · cases hStep
  | stopDone => exact h.stopDone hOk hStep
  | command alloc cmd => exact h.command hStep
  | streams streams =>
    cases hStep
    exact ⟨h.inv, h.matched, h.idle, h.thread, h.stopped⟩

theorem stopDone_breaks (h : LifeInv s) (hActive : s.channel.bundle.isActive = true)
    (hMatched : ∃ n ∈ s.channel.queue.nodes, n.matched = true) (hStep : s.Step .stopDone es s') :
    ¬ TrimmingEnds s'.channel := by
  intro hEnds
  simp only [ChannelLife.Step, ChannelLife.next] at hStep
  split at hStep
  · cases hStep
    have hCnt := hEnds.matchCnt
    rw [MmChannel.releaseBundle, if_pos hActive] at hCnt
    have hZero : s.channel.queue.matchCnt = 0 := hCnt
    have hPos : 0 < s.channel.queue.nodes.countP QueueNode.matched := List.countP_pos_iff.mpr hMatched
    have hInv := h.inv.matchCnt
    have hSmall := h.matched
    omega
  · cases hStep

end LifeInv

/-- In every life of a channel whose stops find no matched superbuf, the trimming loops end in every
state that is reached, also right after a start. -/
theorem trimmingEnds_of_life {ch : MmChannel} {is : List LifeEvent} {es : List Event}
    {s : ChannelLife} (hNodes : ch.queue.nodes = []) (hSize : ch.queue.size = 0)
    (hCnt : ch.queue.matchCnt = 0)
    (run : Steps ChannelLife.Step stopsUnmatched { channel := ch } is es s) :
    TrimmingEnds s.channel := by
  have hInv := run.invariant (I := LifeInv) ?_ ?_
  · exact hInv.inv.trimmingEnds hInv.matched
  · exact ⟨.of_nil hNodes hSize hCnt, by simp [hNodes], fun _ => hNodes, nofun, fun _ => rfl⟩
  · exact fun is os s i o s' hOk hs hStep => hs.step hOk hStep

/-- A stopped channel of one stream that asks for superbufs in bursts. -/
def soloChannel : MmChannel where
  myHdl := 9
  state := .stopped
  streams := [sampleStream 1 .preview]
  bundle := { superBufNotifyCb := some 0, superbufQueue := { attr := { waterMark := 1 } } }

def soloFrame (frameIdx : Nat) : LifeEvent :=
  .command .succeeds (.dataCb (sampleFrame 1 .preview frameIdx))

/-- The lives whose stops find no matched superbuf, as a function. -/
def unmatchedNext (is : List LifeEvent) (os : List Event) (s : ChannelLife) (i : LifeEvent) :
    Option (ChannelLife × List Event) :=
  if stopsUnmatched is os s i [] then s.next i else none

theorem unmatchedNext_step {is : List LifeEvent} {os es : List Event} {s s' : ChannelLife}
    {i : LifeEvent} (h : unmatchedNext is os s i = some (s', es)) :
    s.Step i es s' ∧ stopsUnmatched is os s i es := by
  unfold unmatchedNext at h
  split at h
  · rename_i hOk
    exact ⟨h, hOk⟩
  · cases h

/-- The superbuf was asked for and is dispatched before the stop. -/
theorem trimmingEnds_of_soloLife :
    ∃ es s, Steps ChannelLife.Step stopsUnmatched { channel := soloChannel }
      [.startBegin, .startDone, .command .succeeds (.reqDataCb 1), soloFrame 1, .stopBegin,
        .stopDone, .startBegin] es s ∧
      s.cmdThread = true ∧ TrimmingEnds s.channel := by
  obtain ⟨r, hRun, hThread⟩ := Option.map_eq_some_iff.mp
    (show (exec unmatchedNext [] [] { channel := soloChannel } [.startBegin, .startDone,
        .command .succeeds (.reqDataCb 1), soloFrame 1, .stopBegin, .stopDone, .startBegin]).map
      (fun r => r.1.cmdThread) = some true by decide +kernel)
  have run := Steps.of_exec ChannelLife.Step stopsUnmatched
    (fun _ _ _ _ _ _ _ h => unmatchedNext_step h) hRun
  exact ⟨r.2, r.1, run, hThread, trimmingEnds_of_life rfl rfl rfl run⟩

/-- A matched superbuf is queued at the stop. After the next start the look-back loop of the first
request spins. -/
theorem soloLife_spins :
    ∃ es s, Steps ChannelLife.Step anyStep { channel := soloChannel }
      [.startBegin, .startDone, soloFrame 1, .stopBegin, .stopDone, .startBegin, .startDone] es s ∧
      ¬ TrimmingEnds s.channel ∧ s.channel.queue.superbufSkip = .error .spin ∧
      Loop.Spins (ChannelQueue.trimPass s.channel.queue.attr.lookBack.toNat)
        (s.channel.queue, []) := by
  obtain ⟨r, hRun, hState⟩ := Option.map_eq_some_iff.mp
    (show (exec (fun _ _ => ChannelLife.next) [] [] { channel := soloChannel } [.startBegin,
        .startDone, soloFrame 1, .stopBegin, .stopDone, .startBegin, .startDone]).map
      (fun r => (r.1.channel.queue.nodes, r.1.channel.queue.matchCnt, r.1.channel.queue.attr)) =
        some ([], 1, { waterMark := 1 }) by decide +kernel)
  have run := Steps.of_exec ChannelLife.Step anyStep
    (fun _ _ _ _ _ _ _ h => ⟨h, trivial⟩) hRun
  simp only [Prod.mk.injEq] at hState
  obtain ⟨hNodes, hCnt, hAttr⟩ := hState
  have hSpins : Loop.Spins (ChannelQueue.trimPass r.1.channel.queue.attr.lookBack.toNat)
      (r.1.channel.queue, []) := by
    refine Loop.spins_of_fixed (ChannelQueue.trimPass_stuck ?_ ?_)
    · rw [hCnt, hAttr]
      decide
    · intro n rest h
      rw [hNodes] at h
      cases h
  refine ⟨r.2, r.1, run, fun hEnds => ?_, ?_, hSpins⟩
  · have hMatch := hEnds.matchCnt
    rw [hNodes, hCnt] at hMatch
    cases hMatch
  · refine (ChannelQueue.superbufTrim_spin_iff _ _).mpr ⟨?_, hSpins⟩
    rw [hAttr]
    decide

end KiwiDevice.Camera

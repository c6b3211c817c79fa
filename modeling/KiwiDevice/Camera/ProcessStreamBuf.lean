import KiwiDevice.Camera.Matching
import KiwiDevice.Lib.Steps

/-!
# The command thread of a channel

`mm_channel_process_stream_buf`: one command is handled, the overflow is given back and matched
superbufs are dispatched. Its runs are the runs of the channel's command thread.
-/

namespace KiwiDevice.Camera

open Lib

/-- `mm_camera_generic_cmd_type_t`. -/
inductive GenericCmdType where
  | aeBracketing | afBracketing | flashBracketing | mtfBracketing | zoom1x
  deriving DecidableEq, Repr

/-- `mm_camera_cmdcb_t`, the commands that `mm_channel_process_stream_buf` tells apart. The payload
of a general command is tested against zero only. -/
inductive Cmd where
  | dataCb (buf : BufInfo)
  | reqDataCb (numBufRequested : Nat)
  | startZsl
  | stopZsl
  | configNotify (notifyMode : NotifyMode)
  | flushQueue (frameIdx : Nat) (streamType : CamStreamType)
  | general (type : GenericCmdType) (start : Bool)
  | other
  deriving DecidableEq, Repr

/-- `MM_CAMERA_POST_FLASH_PREVIEW_SKIP_CNT`. -/
def postFlashPreviewSkipCnt : Nat := 3

namespace MmChannel

/-- `mm_channel_superbuf_skip` on the channel's own queue. -/
def superbufSkip (ch : MmChannel) : Except Fault (MmChannel × List Event) :=
  match ch.queue.superbufSkip with
  | .error fault => .error fault
  | .ok r => .ok (ch.setQueue r.1, r.2)

/-- `mm_channel_superbuf_bufdone_overflow` on the channel's own queue. -/
def superbufBufdoneOverflow (ch : MmChannel) : Except Fault (MmChannel × List Event) :=
  match ch.queue.superbufBufdoneOverflow with
  | .error fault => .error fault
  | .ok r => .ok (ch.setQueue r.1, r.2)

/-- The start and stop of a ZSL snapshot in the `REQ_DATA_CB` branch. -/
def requestZsl (ch : MmChannel) : MmChannel × List Event :=
  if ch.pendingCnt > 0 ∧ (ch.needLEDFlash ∨ ch.bracketingState ≠ .off) ∧ ¬ ch.manualZSLSnapshot ∧
      ¬ ch.startZSlSnapshotCalled then
    ({ ch with startZSlSnapshotCalled := true, needLEDFlash := false, previewSkipCnt := 0 },
      [.startZslSnapshot])
  else if (ch.pendingCnt = 0 ∧ ch.startZSlSnapshotCalled) ∧ ¬ ch.manualZSLSnapshot then
    ({ ch with startZSlSnapshotCalled := false, needLEDFlash := false, bracketingState := .off },
      [.stopZslSnapshot])
  else (ch, [])

/-- The switch on a general command. -/
def handleGeneral (ch : MmChannel) (type : GenericCmdType) (start : Bool) :
    MmChannel × List Event :=
  match type with
  | .aeBracketing | .afBracketing | .mtfBracketing =>
    let r := ch.superbufFlush .default
    ({ r.1 with bracketingState := if start then .waitGoodFrameIdx else .off }, r.2)
  | .flashBracketing => ({ ch with isFlashBracketingEnabled := start }, [])
  | .zoom1x => ({ ch with isZoom1xFrameRequested := start }, [])

/-- The chain of branches on the type of the command. -/
def handleCmd (ch : MmChannel) (alloc : Alloc) : Cmd → Except Fault (MmChannel × List Event)
  | .dataCb buf => ch.superbufCompAndEnqueue alloc.node buf
  | .reqDataCb numBufRequested =>
    match ({ ch with pendingCnt := numBufRequested } : MmChannel).superbufSkip with
    | .error fault => .error fault
    | .ok r =>
      let z := r.1.requestZsl
      .ok (z.1, r.2 ++ z.2)
  | .startZsl => .ok ({ ch with manualZSLSnapshot := true }, [.startZslSnapshot])
  | .stopZsl => .ok ({ ch with manualZSLSnapshot := false }, [.stopZslSnapshot])
  | .configNotify notifyMode =>
    .ok (ch.setQueue { ch.queue with attr := { ch.queue.attr with notifyMode } }, [])
  | .flushQueue frameIdx streamType => .ok ((ch.setExpected frameIdx).superbufFlush streamType)
  | .general type start => .ok (ch.handleGeneral type start)
  | .other => .ok (ch, [])

/-- What follows the dequeue in burst mode: one request less, and the end of the ZSL snapshot with
the last one. -/
def countBurst (ch : MmChannel) (notifyMode : NotifyMode) : MmChannel × List Event :=
  if notifyMode = .burst then
    let ch := { ch with pendingCnt := sub32 ch.pendingCnt 1 }
    if (ch.pendingCnt = 0 ∧ ch.startZSlSnapshotCalled) ∧ ¬ ch.manualZSLSnapshot then
      ({ ch with
          previewSkipCnt := postFlashPreviewSkipCnt
          startZSlSnapshotCalled := false
          bracketingState := .off },
        [.stopZslSnapshot])
    else (ch, [])
  else (ch, [])

/-- A dequeued superbuf goes to the callback thread, or back when it cannot. A callback node that
does not fit into the queue of the thread is dropped. -/
def sendSuperbuf (ch : MmChannel) (alloc : Alloc) (pass : Nat) (node : QueueNode) : List Event :=
  if ch.bundle.superBufNotifyCb = none ∨ ¬ alloc.cbNode pass then
    node.superBuf.map fun s => .qbuf s.buf
  else if alloc.cbEnq pass then [.dispatch (node.superBuf.map Slot.buf)]
  else []

/-- The dispatch loop, for at most as many superbufs as the bound says; `pass` numbers its
passes. -/
def dispatchLoop (alloc : Alloc) (notifyMode : NotifyMode) :
    Nat → Nat → MmChannel → MmChannel × List Event
  | 0, _, ch => (ch, [])
  | n + 1, pass, ch =>
    if ch.pendingCnt > 0 ∨ notifyMode = .continuous then
      match ch.queue.superbufDequeue with
      | (none, _) => (ch, [])
      | (some node, q) =>
        let counted := (ch.setQueue q).countBurst notifyMode
        let rest := dispatchLoop alloc notifyMode n (pass + 1) counted.1
        (rest.1,
          (.dequeued node.frameIdx ::
            (counted.2 ++ counted.1.sendSuperbuf alloc pass node)) ++ rest.2)
    else (ch, [])

/-- What follows the chain of branches: the overflow is given back and superbufs are dispatched in
the notify mode read before. -/
def finishCmd (alloc : Alloc) (handled : MmChannel × List Event) :
    Except Fault (MmChannel × List Event) :=
  match handled.1.superbufBufdoneOverflow with
  | .error fault => .error fault
  | .ok trimmed =>
    let sent := dispatchLoop alloc handled.1.queue.attr.notifyMode
      trimmed.1.queue.nodes.length 0 trimmed.1
    .ok (sent.1, handled.2 ++ trimmed.2 ++ sent.2)

/-- `mm_channel_process_stream_buf`; the flush returns early. -/
def processStreamBuf (alloc : Alloc) (ch : MmChannel) (cmd : Cmd) :
    Except Fault (MmChannel × List Event) :=
  match ch.handleCmd alloc cmd with
  | .error fault => .error fault
  | .ok handled =>
    match cmd with
    | .flushQueue _ _ => .ok handled
    | _ => finishCmd alloc handled

/-- One step of the command thread. -/
def CmdStep (ch : MmChannel) (i : Alloc × Cmd) (es : List Event) (ch' : MmChannel) : Prop :=
  processStreamBuf i.1 ch i.2 = .ok (ch', es)

/-- The command thread on a list of commands, when all of them return. -/
def processAll (ch : MmChannel) (cmds : List (Alloc × Cmd)) : Option (MmChannel × List Event) :=
  exec (fun _ _ ch i => (processStreamBuf i.1 ch i.2).toOption) [] [] ch cmds

theorem processAll_steps (allowed : List (Alloc × Cmd) → List Event → MmChannel → Alloc × Cmd →
    List Event → Prop) {ch : MmChannel} {cmds : List (Alloc × Cmd)} {r : MmChannel × List Event}
    (hAllowed : ∀ i ∈ cmds, ∀ is' os' s' o, allowed is' os' s' i o)
    (h : processAll ch cmds = some r) : Steps CmdStep allowed ch cmds r.2 r.1 := by
  refine Steps.of_exec _ _ (fun i hi is' os' c c' o hStep => ⟨?_, hAllowed i hi is' os' c o⟩) h
  unfold CmdStep
  cases hCmd : processStreamBuf i.1 c i.2 with
  | error fault =>
    rw [hCmd] at hStep
    cases hStep
  | ok r' =>
    rw [hCmd] at hStep
    cases hStep
    rfl

end MmChannel

end KiwiDevice.Camera

import KiwiDevice.Camera.BurstAccounting
import KiwiDevice.Camera.Lifecycle

/-!
# Requests over the life of a channel

In burst mode a request pays for the superbufs that are dispatched until the next one. This holds
over any number of starts and stops: what a restart leaves wrong, `match_cnt`, only counts too much.
-/

namespace KiwiDevice.Camera

open Lib

/-- No command of the life leaves the burst mode. -/
def staysBurst (_ : List LifeEvent) (_ : List Event) (_ : ChannelLife) (i : LifeEvent)
    (_ : List Event) : Prop :=
  ∀ alloc cmd, i = .command alloc cmd → cmd.StaysBurst

/-- The same, and no further request comes. -/
def noRequest (_ : List LifeEvent) (_ : List Event) (_ : ChannelLife) (i : LifeEvent)
    (_ : List Event) : Prop :=
  ∀ alloc cmd, i = .command alloc cmd → cmd.StaysBurst ∧ ∀ n, cmd ≠ .reqDataCb n

/-- What holds of the requests in a state that was reached with these events. -/
structure BurstAccounting (es : List Event) (s : ChannelLife) : Prop where
  /-- At most `water_mark` matched superbufs are queued. -/
  mark : s.channel.queue.nodes.countP QueueNode.matched ≤ s.channel.queue.attr.waterMark.toNat
  /-- They are queued in the order in which they were matched, and none matched later is gone. -/
  order : s.channel.queue.matchedQueued <:+ matchedFrames es
  /-- Every dispatch takes one off `pending_cnt`, so there is none while it is 0. -/
  paid : ∀ alloc cmd es' s', cmd.StaysBurst → s.Step (.command alloc cmd) es' s' →
    (dispatches es').length + s'.channel.pendingCnt ≤ cmd.requested s.channel.pendingCnt
  /-- A request first dispatches from the look-back, and leaves no matched superbuf unless it is
  met. -/
  recent : ∀ alloc n es' s', s.Step (.command alloc (.reqDataCb n)) es' s' →
    (dispatches es').Sublist (s.channel.queue.recentlyMatched.map QueueNode.bufs) ∧
      (s'.channel.pendingCnt = 0 ∨ s'.channel.queue.matchedQueued = [])
  /-- Until the next request no more than the requested number is dispatched. -/
  bounded : ∀ alloc n es' s', s.Step (.command alloc (.reqDataCb n)) es' s' →
    ∀ is₂ es₂ s₂, Steps ChannelLife.Step noRequest s' is₂ es₂ s₂ →
      (dispatches (es' ++ es₂)).length ≤ n

variable {s s' : ChannelLife} {i : LifeEvent} {es : List Event}

theorem BurstQueue.of_nil {q : ChannelQueue} (hNodes : q.nodes = []) (hSmall : q.matchCnt < 2 ^ 8)
    (hMode : q.attr.notifyMode = .burst) : BurstQueue q := by
  refine ⟨.of_nil hNodes, ?_, hSmall, hMode, ?_⟩ <;> simp [hNodes]

namespace ChannelLife

theorem command_burst {alloc : Alloc} {cmd : Cmd} (hStep : s.Step (.command alloc cmd) es s')
    (hq : BurstQueue s.channel.queue) (hStays : cmd.StaysBurst) :
    MmChannel.BurstStep s.channel cmd es s'.channel := by
  simp only [Step, next] at hStep
  split at hStep
  · split at hStep
    · cases hStep
    · rename_i channel es' hCmd
      cases hStep
      exact MmChannel.processStreamBuf_burst hCmd hq hStays
  · cases hStep

/-- What is not a command dispatches nothing, and leaves the queue or empties it. -/
theorem other_burst (hStep : s.Step i es s') (hNot : ∀ alloc cmd, i ≠ .command alloc cmd)
    (hq : BurstQueue s.channel.queue) :
    es = [] ∧ s'.channel.pendingCnt = s.channel.pendingCnt ∧ BurstQueue s'.channel.queue ∧
      s'.channel.queue.matchedQueued <:+ s.channel.queue.matchedQueued := by
  cases i with
  | command alloc cmd => exact absurd rfl (hNot alloc cmd)
  | startBegin =>
    simp only [Step, next] at hStep
    split at hStep
    · split at hStep
      · cases hStep
      · cases hStep
        unfold MmChannel.startBundle
        split
        · exact ⟨rfl, rfl, .of_nil rfl hq.small hq.burst, List.nil_suffix⟩
        · exact ⟨rfl, rfl, hq, List.suffix_refl _⟩
    · cases hStep
  | startDone =>
    simp only [Step, next] at hStep
    split at hStep
    · cases hStep
      exact ⟨rfl, rfl, hq, List.suffix_refl _⟩
    · cases hStep
  | startFailed =>
    simp only [Step, next] at hStep
    split at hStep
    · cases hStep
      unfold MmChannel.clearBundle
      split
      · exact ⟨rfl, rfl, .of_nil rfl (show (0 : Nat) < 2 ^ 8 by decide) rfl, List.nil_suffix⟩
      · exact ⟨rfl, rfl, hq, List.suffix_refl _⟩
    · cases hStep
  | stopBegin =>
    simp only [Step, next] at hStep
    split at hStep
    · cases hStep
      exact ⟨rfl, rfl, hq, List.suffix_refl _⟩
    · cases hStep
  | stopDone =>
    simp only [Step, next] at hStep
    split at hStep
    · cases hStep
      unfold MmChannel.releaseBundle
      split
      · exact ⟨rfl, rfl, .of_nil rfl hq.small hq.burst, List.nil_suffix⟩
      · exact ⟨rfl, rfl, hq, List.suffix_refl _⟩
    · cases hStep
  | streams streams =>
    cases hStep
    exact ⟨rfl, rfl, hq, List.suffix_refl _⟩

theorem step_burst (hStep : s.Step i es s') (hq : BurstQueue s.channel.queue)
    (hStays : ∀ alloc cmd, i = .command alloc cmd → cmd.StaysBurst) :
    BurstQueue s'.channel.queue ∧
      s'.channel.queue.matchedQueued <:+ s.channel.queue.matchedQueued ++ matchedFrames es := by
  cases i with
  | command alloc cmd =>
    have hBurst := command_burst hStep hq (hStays alloc cmd rfl)
    exact ⟨hBurst.queue, hBurst.follows⟩
  | _ =>
    obtain ⟨rfl, -, hQueue, hSuffix⟩ := other_burst hStep (by simp) hq
    refine ⟨hQueue, ?_⟩
    rw [show matchedFrames [] = [] from rfl, List.append_nil]
    exact hSuffix

/-- Without a further request the dispatches of a run are paid by what was pending before. -/
theorem run_paid {is : List LifeEvent} {t : ChannelLife} (hq : BurstQueue s.channel.queue)
    (run : Steps Step noRequest s is es t) :
    (dispatches es).length + t.channel.pendingCnt ≤ s.channel.pendingCnt := by
  have hRun := run.history
    (I := fun _ os u => BurstQueue u.channel.queue ∧
      (dispatches os).length + u.channel.pendingCnt ≤ s.channel.pendingCnt) ?_ ?_
  · exact hRun.2
  · exact ⟨hq, by simp [dispatches]⟩
  · rintro is os u j o u' hOk ⟨hQueue, hPaid⟩ hStep
    refine ⟨(step_burst hStep hQueue fun alloc cmd h => (hOk alloc cmd h).1).1, ?_⟩
    rw [dispatches_append, List.length_append]
    cases j with
    | command alloc cmd =>
      obtain ⟨hStays, hNot⟩ := hOk alloc cmd rfl
      have hCounted := (command_burst hStep hQueue hStays).counted
      have hSame : cmd.requested u.channel.pendingCnt = u.channel.pendingCnt := by
        cases cmd with
        | reqDataCb n => exact absurd rfl (hNot n)
        | _ => rfl
      omega
    | _ =>
      obtain ⟨rfl, hPending, -, -⟩ := other_burst hStep (by simp) hQueue
      rw [hPending]
      exact hPaid

end ChannelLife

/-- In burst mode requests and dispatches agree in every state of every life of a channel. -/
theorem burst_accounting {ch : MmChannel} {is : List LifeEvent} (hNodes : ch.queue.nodes = [])
    (hCnt : ch.queue.matchCnt = 0) (hMode : ch.queue.attr.notifyMode = .burst)
    (run : Steps ChannelLife.Step staysBurst { channel := ch } is es s) :
    BurstAccounting es s := by
  obtain ⟨hQueue, hOrder⟩ := run.history
    (I := fun _ os u => BurstQueue u.channel.queue ∧
      u.channel.queue.matchedQueued <:+ matchedFrames os)
    ⟨.of_nil hNodes (by rw [hCnt]; decide) hMode, by
      simp [ChannelQueue.matchedQueued, hNodes]⟩
    (by
      rintro is os u j o u' hOk ⟨hQueue, hSuffix⟩ hStep
      obtain ⟨hNext, hFollows⟩ := ChannelLife.step_burst hStep hQueue hOk
      refine ⟨hNext, hFollows.trans ?_⟩
      rw [matchedFrames_append]
      obtain ⟨gone, hGone⟩ := hSuffix
      exact ⟨gone, by rw [← hGone, List.append_assoc]⟩)
  constructor
  · exact hQueue.mark
  · exact hOrder
  · intro alloc cmd es' s' hStays hStep
    exact (ChannelLife.command_burst hStep hQueue hStays).counted
  · intro alloc n es' s' hStep
    simp only [ChannelLife.Step, ChannelLife.next] at hStep
    split at hStep
    · split at hStep
      · cases hStep
      · rename_i channel es₁ hCmd
        cases hStep
        exact MmChannel.reqDataCb_recent hCmd hQueue
    · cases hStep
  · intro alloc n es' s' hStep is₂ es₂ s₂ hAfter
    have hBurst := ChannelLife.command_burst hStep hQueue (by rintro mode ⟨⟩)
    have hFirst := hBurst.counted
    have hLater := ChannelLife.run_paid hBurst.queue hAfter
    rw [dispatches_append, List.length_append]
    simp only [Cmd.requested] at hFirst
    omega

/-- A channel of one stream with a look-back of one superbuf. -/
def lookBackChannel : MmChannel :=
  { soloChannel with
    bundle := { superBufNotifyCb := some 0
                superbufQueue := { attr := { waterMark := 2, lookBack := 1 } } } }

/-- Two superbufs are queued when two are requested; the later one goes out at once and the next
frame after it. -/
theorem burst_accounting_lookBack :
    ∃ es s, Steps ChannelLife.Step staysBurst { channel := lookBackChannel }
      [.startBegin, .startDone, soloFrame 1, soloFrame 2, .command .succeeds (.reqDataCb 2),
        soloFrame 3] es s ∧
      dequeuedFrames es = [2, 3] ∧ BurstAccounting es s := by
  obtain ⟨r, hRun, hFrames⟩ := Option.map_eq_some_iff.mp
    (show (exec (fun _ _ => ChannelLife.next) [] [] { channel := lookBackChannel } [.startBegin,
        .startDone, soloFrame 1, soloFrame 2, .command .succeeds (.reqDataCb 2), soloFrame 3]).map
      (fun r => dequeuedFrames r.2) = some [2, 3] by decide +kernel)
  have run := Steps.of_exec ChannelLife.Step staysBurst
    (fun i hi _ _ _ _ _ h => ⟨h, by
      simp only [List.mem_cons, List.not_mem_nil, or_false] at hi
      rcases hi with rfl | rfl | rfl | rfl | rfl | rfl <;>
        simp [staysBurst, soloFrame, Cmd.StaysBurst]⟩) hRun
  exact ⟨r.2, r.1, run, hFrames, burst_accounting rfl rfl rfl run⟩

end KiwiDevice.Camera

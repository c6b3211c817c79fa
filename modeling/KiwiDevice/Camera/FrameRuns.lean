import KiwiDevice.Camera.FrameCounts

/-!
# Every copy of a frame is counted

Over all interleavings of the threads a buffer is with the kernel iff nobody has or is to be given a
copy of it, as long as the linked channel is counted before the buffer can be back, a skipped frame
releases a count of its own, and what is counted for somebody reaches him.
-/

namespace KiwiDevice.Camera

open MmStream

namespace FrameWorld

def held (w : FrameWorld) (idx : Nat) : Nat := w.copies.countP fun copy => copy.2 == idx

/-- Where the poll thread is with this buffer. -/
def arrivalAt (w : FrameWorld) (idx : Nat) : Option ArrivalStage :=
  w.arrival.bind fun at' => if at'.1 = idx then some at'.2 else none

/-- Where the command thread is with this buffer. -/
def dispatchAt (w : FrameWorld) (idx : Nat) : Option DispatchStage :=
  w.dispatch.bind fun at' => if at'.1 = idx then some at'.2 else none

/-- What the balance of a buffer depends on. -/
def view (w : FrameWorld) (idx : Nat) :
    BufStatus × Nat × Nat × Option ArrivalStage × Option DispatchStage :=
  (w.stream.status idx, w.held idx, w.cmdQueue.count idx, w.arrivalAt idx, w.dispatchAt idx)

def BalanceAt (w : FrameWorld) (idx : Nat) : Prop :=
  Balance w.stream.isBundled (w.stream.status idx) (w.held idx) (w.cmdQueue.count idx)
    (w.arrivalAt idx) (w.dispatchAt idx)

/-- The counts of all buffers are right. -/
def Counted (w : FrameWorld) : Prop := ∀ idx < w.stream.numBufs, w.BalanceAt idx

variable {w w' : FrameWorld} {idx j : Nat} {hasCb : Bool} {c : Consumer}

theorem held_give_self : (w.give c idx).held idx = w.held idx + 1 := by
  rw [held, give, List.countP_append, List.countP_singleton, if_pos (beq_self_eq_true idx)]
  rfl

theorem held_give_of_ne (h : j ≠ idx) : (w.give c idx).held j = w.held j := by
  rw [held, give, List.countP_append, List.countP_singleton, if_neg]
  · rfl
  · intro hSame
    exact h (beq_iff_eq.mp hSame).symm

theorem countP_erase_copy (h : (c, idx) ∈ w.copies) (j : Nat) :
    w.held j = ((w.copies.erase (c, idx)).countP fun copy => copy.2 == j)
      + if idx = j then 1 else 0 := by
  rw [held, (List.perm_cons_erase h).countP_eq, List.countP_cons]
  simp only [beq_iff_eq]

theorem arrivalAt_self {stage : ArrivalStage} (h : w.arrival = some (idx, stage)) :
    w.arrivalAt idx = some stage := by
  rw [arrivalAt, h]
  exact if_pos rfl

theorem arrivalAt_of_ne {stage : ArrivalStage} (h : w.arrival = some (idx, stage))
    (hNe : j ≠ idx) : w.arrivalAt j = none := by
  rw [arrivalAt, h]
  exact if_neg hNe.symm

theorem dispatchAt_self {stage : DispatchStage} (h : w.dispatch = some (idx, stage)) :
    w.dispatchAt idx = some stage := by
  rw [dispatchAt, h]
  exact if_pos rfl

theorem dispatchAt_of_ne {stage : DispatchStage} (h : w.dispatch = some (idx, stage))
    (hNe : j ≠ idx) : w.dispatchAt j = none := by
  rw [dispatchAt, h]
  exact if_neg hNe.symm

theorem view_congr (hStatus : w'.stream.status j = w.stream.status j)
    (hHeld : w'.held j = w.held j) (hQueued : w'.cmdQueue.count j = w.cmdQueue.count j)
    (hArrival : w'.arrivalAt j = w.arrivalAt j) (hDispatch : w'.dispatchAt j = w.dispatchAt j) :
    w'.view j = w.view j := by
  rw [view, view, hStatus, hHeld, hQueued, hArrival, hDispatch]

theorem BalanceAt.congr (h : w.BalanceAt j) (hBundled : w'.stream.isBundled = w.stream.isBundled)
    (hView : w'.view j = w.view j) : w'.BalanceAt j := by
  simp only [view, Prod.mk.injEq] at hView
  obtain ⟨hStatus, hHeld, hQueued, hArrival, hDispatch⟩ := hView
  rw [BalanceAt, hBundled, hStatus, hHeld, hQueued, hArrival, hDispatch]
  exact h

theorem Counted.at (h : Counted w) (idx : Nat) (hNum : w'.stream.numBufs = w.stream.numBufs)
    (hBundled : w'.stream.isBundled = w.stream.isBundled)
    (hOthers : ∀ j, j ≠ idx → w'.view j = w.view j)
    (hSelf : idx < w.stream.numBufs → w.BalanceAt idx → w'.BalanceAt idx) : Counted w' := by
  intro j hj
  rw [hNum] at hj
  by_cases hSame : j = idx
  · subst hSame
    exact hSelf hj (h j hj)
  · exact (h j hj).congr hBundled (hOthers j hSame)

theorem Counted.same (h : Counted w) (hNum : w'.stream.numBufs = w.stream.numBufs)
    (hBundled : w'.stream.isBundled = w.stream.isBundled)
    (hView : ∀ j, w'.view j = w.view j) : Counted w' :=
  fun j hj => (h j (hNum ▸ hj)).congr hBundled (hView j)

theorem Counted.advance (h : Counted w) {stage stage' : ArrivalStage}
    (hArrival : w.arrival = some (idx, stage))
    (hSelf : ∀ {st held queued dispatch},
      Balance w.stream.isBundled st held queued (some stage) dispatch →
      Balance w.stream.isBundled st held queued (some stage') dispatch) :
    Counted { w with arrival := some (idx, stage') } := by
  refine h.at idx rfl rfl (fun j hNe => ?_) fun _ hAt => ?_
  · refine view_congr rfl rfl rfl ?_ rfl
    rw [arrivalAt_of_ne hArrival hNe]
    exact arrivalAt_of_ne rfl hNe
  · rw [BalanceAt, arrivalAt_self hArrival] at hAt
    rw [BalanceAt, arrivalAt_self (w := { w with arrival := some (idx, stage') }) rfl]
    exact hSelf hAt

theorem arrivalAt_none (h : w.arrival = none) : w.arrivalAt j = none := by
  rw [arrivalAt, h]
  rfl

theorem dispatchAt_none (h : w.dispatch = none) : w.dispatchAt j = none := by
  rw [dispatchAt, h]
  rfl

theorem Counted.readFrame (h : Counted w) (hArrival : w.arrival = none)
    (hKernel : (w.stream.status idx).inKernel = true) :
    Counted { w with arrival := some (idx, .read) } := by
  refine h.at idx rfl rfl (fun j hNe => ?_) fun _ hAt => ?_
  · refine view_congr rfl rfl rfl ?_ rfl
    rw [arrivalAt_none hArrival]
    exact arrivalAt_of_ne rfl hNe
  · rw [BalanceAt, arrivalAt_none hArrival] at hAt
    rw [BalanceAt, arrivalAt_self (w := { w with arrival := some (idx, .read) }) rfl]
    exact hAt.read hKernel

theorem Counted.count (h : Counted w) (hArrival : w.arrival = some (idx, .checked hasCb)) :
    Counted { w with
      stream := w.stream.countArrival idx hasCb
      arrival := some (idx, .counted hasCb) } := by
  refine h.at idx (countArrival_numBufs ..) (countArrival_isBundled ..) (fun j hNe => ?_)
    fun hIdx hAt => ?_
  · refine view_congr (countArrival_status_of_ne hNe) rfl rfl ?_ rfl
    rw [arrivalAt_of_ne hArrival hNe]
    exact arrivalAt_of_ne rfl hNe
  · rw [BalanceAt, arrivalAt_self hArrival] at hAt
    rw [BalanceAt, arrivalAt_self (w := { w with
      stream := w.stream.countArrival idx hasCb
      arrival := some (idx, .counted hasCb) }) rfl, countArrival_isBundled,
      countArrival_status hIdx]
    exact hAt.count

theorem Counted.notifyChannel (h : Counted w) {alloc : Bool}
    (hArrival : w.arrival = some (idx, .counted hasCb))
    (hAlloc : w.stream.isBundled = true → alloc = true) :
    Counted { (if w.stream.isBundled = true ∧ alloc = true then w.give .bundle idx else w) with
      arrival := some (idx, .notified hasCb) } := by
  by_cases hBundled : w.stream.isBundled = true
  · rw [if_pos ⟨hBundled, hAlloc hBundled⟩]
    refine h.at idx rfl rfl (fun j hNe => ?_) fun _ hAt => ?_
    · refine view_congr rfl (held_give_of_ne hNe) rfl ?_ rfl
      rw [arrivalAt_of_ne hArrival hNe]
      exact arrivalAt_of_ne rfl hNe
    · rw [BalanceAt, arrivalAt_self hArrival] at hAt
      have hNotified := hAt.notify
      rw [hBundled, Bool.toNat_true, ← held_give_self (c := .bundle), ← hBundled] at hNotified
      rw [BalanceAt, arrivalAt_self (w := { w.give .bundle idx with
        arrival := some (idx, .notified hasCb) }) rfl]
      exact hNotified
  · rw [if_neg fun hBoth => hBundled hBoth.1]
    refine h.at idx rfl rfl (fun j hNe => ?_) fun _ hAt => ?_
    · refine view_congr rfl rfl rfl ?_ rfl
      rw [arrivalAt_of_ne hArrival hNe]
      exact arrivalAt_of_ne rfl hNe
    · rw [BalanceAt, arrivalAt_self hArrival] at hAt
      have hNotified := hAt.notify
      rw [Bool.eq_false_iff.mpr hBundled, Bool.toNat_false, Nat.add_zero,
        ← Bool.eq_false_iff.mpr hBundled] at hNotified
      rw [BalanceAt, arrivalAt_self (w := { w with arrival := some (idx, .notified hasCb) }) rfl]
      exact hNotified

theorem Counted.notifyLinked (h : Counted w)
    (hArrival : w.arrival = some (idx, .notified hasCb))
    (hOut : (w.stream.status idx).inKernel = false) :
    Counted { ({ w with stream := w.stream.raiseRefcnt idx 1 } : FrameWorld).give .linked idx with
      arrival := some (idx, .linked hasCb) } := by
  refine h.at idx (raiseRefcnt_numBufs ..) rfl (fun j hNe => ?_) fun hIdx hAt => ?_
  · refine view_congr (raiseRefcnt_status_of_ne hNe) (held_give_of_ne hNe) rfl ?_ rfl
    rw [arrivalAt_of_ne hArrival hNe]
    exact arrivalAt_of_ne rfl hNe
  · rw [BalanceAt, arrivalAt_self hArrival] at hAt
    have hLinked := hAt.link hOut
    rw [← raiseRefcnt_status hIdx, ← held_give_self (c := .linked)] at hLinked
    rw [BalanceAt, arrivalAt_self (w := { ({ w with
      stream := w.stream.raiseRefcnt idx 1 } : FrameWorld).give .linked idx with
        arrival := some (idx, .linked hasCb) }) rfl]
    exact hLinked

theorem Counted.enqueue (h : Counted w) (hArrival : w.arrival = some (idx, .linked hasCb)) :
    Counted { w with
      cmdQueue := if hasCb = true then w.cmdQueue ++ [idx] else w.cmdQueue
      arrival := none } := by
  have hQueue : ∀ j, (if hasCb = true then w.cmdQueue ++ [idx] else w.cmdQueue).count j
      = w.cmdQueue.count j + if idx = j then hasCb.toNat else 0 := by
    intro j
    cases hasCb with
    | true =>
      rw [if_pos rfl, List.count_append, List.count_singleton]
      simp only [beq_iff_eq, Bool.toNat_true]
    | false =>
      rw [if_neg Bool.false_ne_true, Bool.toNat_false, ite_self]
      rfl
  refine h.at idx rfl rfl (fun j hNe => ?_) fun _ hAt => ?_
  · refine view_congr rfl rfl ?_ ?_ rfl
    · exact (hQueue j).trans (by rw [if_neg hNe.symm]; rfl)
    · rw [arrivalAt_of_ne hArrival hNe]
      exact arrivalAt_none rfl
  · rw [BalanceAt, arrivalAt_self hArrival] at hAt
    have hEnqueued := hAt.enqueue
    rw [BalanceAt, hQueue, if_pos rfl]
    exact hEnqueued

theorem bufDone_self (w : FrameWorld) (h : idx < w.stream.numBufs) (result : QbufResult) :
    (w.bufDone idx result).stream.status idx = (w.stream.status idx).done result :=
  bufDone_status w.driver h result

theorem bufDone_isBundled (w : FrameWorld) (idx : Nat) (result : QbufResult) :
    (w.bufDone idx result).stream.isBundled = w.stream.isBundled :=
  (bufDone_same ..).isBundled

theorem Counted.skipDone (h : Counted w) {result : QbufResult}
    (hArrival : w.arrival = some (idx, .skipping hasCb))
    (hCb : hasCb = true ∨ (w.stream.status idx).bufRefcnt = 0)
    (hQueued : (w.stream.status idx).bufRefcnt = 1 → result = .queued) :
    Counted { w.bufDone idx result with arrival := none } := by
  refine h.at idx (bufDone_numBufs ..) (w.bufDone_isBundled ..) (fun j hNe => ?_)
    fun hIdx hAt => ?_
  · refine view_congr (bufDone_status_of_ne _ hNe result) rfl rfl ?_ rfl
    rw [arrivalAt_of_ne hArrival hNe]
    exact arrivalAt_none rfl
  · rw [BalanceAt, arrivalAt_self hArrival] at hAt
    have hDone := hAt.skipDone hCb hQueued
    rw [← w.bufDone_self hIdx, ← w.bufDone_isBundled idx result] at hDone
    exact hDone

theorem Counted.dispatchBegin (h : Counted w) {rest : List Nat} (hDispatch : w.dispatch = none)
    (hQueue : w.cmdQueue = idx :: rest) :
    Counted { w with cmdQueue := rest, dispatch := some (idx, .calling 0) } := by
  refine h.at idx rfl rfl (fun j hNe => ?_) fun _ hAt => ?_
  · refine view_congr rfl rfl ?_ rfl ?_
    · rw [hQueue, List.count_cons_of_ne hNe.symm]
    · rw [dispatchAt_none hDispatch]
      exact dispatchAt_of_ne rfl hNe
  · rw [BalanceAt, dispatchAt_none hDispatch, hQueue, List.count_cons_self] at hAt
    rw [BalanceAt, dispatchAt_self (w := { w with
      cmdQueue := rest
      dispatch := some (idx, .calling 0) }) rfl]
    exact hAt.dispatchBegin

theorem Counted.dispatchOn (h : Counted w) {stage stage' : DispatchStage}
    (hDispatch : w.dispatch = some (idx, stage))
    (hSelf : ∀ {bundled st held queued arrival},
      Balance bundled st held queued arrival (some stage) →
      Balance bundled st held queued arrival (some stage')) :
    Counted { w with dispatch := some (idx, stage') } := by
  refine h.at idx rfl rfl (fun j hNe => ?_) fun _ hAt => ?_
  · refine view_congr rfl rfl rfl rfl ?_
    rw [dispatchAt_of_ne hDispatch hNe]
    exact dispatchAt_of_ne rfl hNe
  · rw [BalanceAt, dispatchAt_self hDispatch] at hAt
    rw [BalanceAt, dispatchAt_self (w := { w with dispatch := some (idx, stage') }) rfl]
    exact hSelf hAt

theorem Counted.call (h : Counted w) {i : Nat} (hDispatch : w.dispatch = some (idx, .calling i))
    (hi : i < streamBufCbMax) :
    Counted { ({ w with stream := w.stream.raiseRefcnt idx 1 } : FrameWorld).give .dataCb idx with
      dispatch := some (idx, .calling (i + 1)) } := by
  refine h.at idx (raiseRefcnt_numBufs ..) rfl (fun j hNe => ?_) fun hIdx hAt => ?_
  · refine view_congr (raiseRefcnt_status_of_ne hNe) (held_give_of_ne hNe) rfl rfl ?_
    rw [dispatchAt_of_ne hDispatch hNe]
    exact dispatchAt_of_ne rfl hNe
  · rw [BalanceAt, dispatchAt_self hDispatch] at hAt
    have hCalled := hAt.call hi
    rw [← raiseRefcnt_status hIdx, ← held_give_self (c := .dataCb)] at hCalled
    rw [BalanceAt, dispatchAt_self (w := { ({ w with
      stream := w.stream.raiseRefcnt idx 1 } : FrameWorld).give .dataCb idx with
        dispatch := some (idx, .calling (i + 1)) }) rfl]
    exact hCalled

theorem Counted.ofStream (h : Counted w) {s : MmStream}
    (hStatus : s.bufStatus = w.stream.bufStatus) (hBundled : s.isBundled = w.stream.isBundled) :
    Counted { w with stream := s } := by
  refine h.same ?_ hBundled fun j => view_congr ?_ rfl rfl rfl rfl
  · exact congrArg (fun l => l.elim 0 List.length) hStatus
  · exact congrArg (fun l => (l.bind fun l => l[j]?).getD {}) hStatus

theorem Counted.callNext (h : Counted w) {i : Nat}
    (hDispatch : w.dispatch = some (idx, .calling i)) (hi : i < streamBufCbMax) :
    Counted { w.callBack idx i with dispatch := some (idx, .calling (i + 1)) } := by
  have hPast : Counted { w with dispatch := some (idx, .calling (i + 1)) } :=
    h.dispatchOn hDispatch fun hAt => hAt.noCall
  rw [callBack]
  split
  · exact hPast
  · rename_i cb hCb
    by_cases hZero : cb.cbCount ≠ 0
    · have hCalled := h.call hDispatch hi
      simp only [if_pos hZero]
      split
      · exact hCalled.ofStream rfl rfl
      · exact hCalled
    · simp only [if_neg hZero]
      split
      · exact hPast.ofStream rfl rfl
      · exact hPast

theorem Counted.dispatchDone (h : Counted w) {result : QbufResult}
    (hDispatch : w.dispatch = some (idx, .called))
    (hQueued : (w.stream.status idx).bufRefcnt = 1 → result = .queued) :
    Counted { w.bufDone idx result with dispatch := none } := by
  refine h.at idx (bufDone_numBufs ..) (w.bufDone_isBundled ..) (fun j hNe => ?_)
    fun hIdx hAt => ?_
  · refine view_congr (bufDone_status_of_ne _ hNe result) rfl rfl rfl ?_
    rw [dispatchAt_of_ne hDispatch hNe]
    exact dispatchAt_none rfl
  · rw [BalanceAt, dispatchAt_self hDispatch] at hAt
    have hDone := hAt.dispatchDone hQueued
    rw [← w.bufDone_self hIdx, ← w.bufDone_isBundled idx result] at hDone
    exact hDone

theorem Counted.giveBack (h : Counted w) {result : QbufResult} (hCopy : (c, idx) ∈ w.copies)
    (hQueued : (w.stream.status idx).bufRefcnt = 1 → result = .queued) :
    Counted { w.bufDone idx result with copies := w.copies.erase (c, idx) } := by
  refine h.at idx (bufDone_numBufs ..) (w.bufDone_isBundled ..) (fun j hNe => ?_)
    fun hIdx hAt => ?_
  · refine view_congr (bufDone_status_of_ne _ hNe result) ?_ rfl rfl rfl
    rw [countP_erase_copy hCopy j, if_neg hNe.symm]
    rfl
  · rw [BalanceAt, countP_erase_copy hCopy idx, if_pos rfl] at hAt
    have hDone := hAt.giveBack hQueued
    rw [← w.bufDone_self hIdx, ← w.bufDone_isBundled idx result] at hDone
    exact hDone

/-- What a step must not do: lose a copy that was counted, count the linked channel when the buffer
may be back already, release a count that is not the skipped frame's own, or deliver a frame that
nobody wants. -/
def KeepsCounts (w : FrameWorld) : Input → Prop
  | .notifyChannel alloc => w.stream.isBundled = true → alloc = true
  | .notifyLinked alloc => ∀ idx hasCb, w.arrival = some (idx, .notified hasCb) →
      if w.stream.isLinked = true then
        alloc = true ∧ (w.stream.status idx).inKernel = false
      else hasCb = true ∨ w.stream.isBundled = true
  | .skipOrEnqueue alloc => ∀ idx, w.arrival = some (idx, .linked true) →
      (w.previewSkipCnt ≠ 0 ∧ w.stream.isPreview = true) ∨
        (w.stream.cmdThreadActive = true ∧ alloc = true)
  | .skipDone result => ∀ idx hasCb, w.arrival = some (idx, .skipping hasCb) →
      (hasCb = true ∨ (w.stream.status idx).bufRefcnt = 0) ∧
        ((w.stream.status idx).bufRefcnt = 1 → result = .queued)
  | .dispatchDone result => ∀ idx, w.dispatch = some (idx, .called) →
      (w.stream.status idx).bufRefcnt = 1 → result = .queued
  | .bufDone _ idx result => (w.stream.status idx).bufRefcnt = 1 → result = .queued
  | _ => True

theorem Counted.next (h : Counted w) {i : Input} (hKeeps : w.KeepsCounts i)
    (hStep : w.step i = some w') : Counted w' := by
  cases i with
  | readFrame idx =>
    simp only [step] at hStep
    split at hStep
    · rename_i hFree
      cases hStep
      exact h.readFrame hFree.1 hFree.2
    · cases hStep
  | checkCbs =>
    simp only [step] at hStep
    split at hStep
    · rename_i idx hArrival
      split at hStep
      · cases hStep
        exact h.advance hArrival fun hAt => hAt.check
      · cases hStep
    · cases hStep
  | count =>
    simp only [step] at hStep
    split at hStep
    · rename_i idx hasCb hArrival
      cases hStep
      exact h.count hArrival
    · cases hStep
  | notifyChannel alloc =>
    simp only [step] at hStep
    split at hStep
    · rename_i idx hasCb hArrival
      cases hStep
      exact h.notifyChannel hArrival hKeeps
    · cases hStep
  | notifyLinked alloc =>
    simp only [step] at hStep
    split at hStep
    · rename_i idx hasCb hArrival
      have hKept := hKeeps idx hasCb hArrival
      by_cases hLinked : w.stream.isLinked = true
      · rw [if_pos hLinked] at hKept
        simp only [hLinked, hKept.1, and_self, if_true] at hStep
        cases hStep
        exact h.notifyLinked hArrival hKept.2
      · rw [if_neg hLinked] at hKept
        rw [if_neg hLinked, if_neg fun hBoth => hLinked hBoth.1] at hStep
        cases hStep
        exact h.advance hArrival fun hAt => hAt.noLink hKept
    · cases hStep
  | skipOrEnqueue alloc =>
    simp only [step] at hStep
    split at hStep
    · rename_i idx hasCb hArrival
      split at hStep
      · cases hStep
        exact (h.advance hArrival fun hAt => hAt.skip).same rfl rfl fun j => rfl
      · rename_i hNoSkip
        cases hStep
        have hQueue : (if hasCb = true ∧ w.stream.cmdThreadActive = true ∧ alloc = true then
            w.cmdQueue ++ [idx] else w.cmdQueue)
            = if hasCb = true then w.cmdQueue ++ [idx] else w.cmdQueue := by
          cases hasCb with
          | false => simp
          | true =>
            obtain ⟨hActive, hAlloc⟩ := (hKeeps idx hArrival).resolve_left hNoSkip
            rw [if_pos ⟨rfl, hActive, hAlloc⟩, if_pos rfl]
        rw [hQueue]
        exact h.enqueue hArrival
    · cases hStep
  | skipDone result =>
    simp only [step] at hStep
    split at hStep
    · rename_i idx hasCb hArrival
      have hKept := hKeeps idx hasCb hArrival
      cases hStep
      exact h.skipDone hArrival hKept.1 hKept.2
    · cases hStep
  | dispatchBegin =>
    simp only [step] at hStep
    split at hStep
    · rename_i idx rest hDispatch hQueue
      cases hStep
      exact h.dispatchBegin hDispatch hQueue
    · cases hStep
  | callNext =>
    simp only [step] at hStep
    split at hStep
    · rename_i idx i hDispatch
      split at hStep
      · rename_i hi
        cases hStep
        exact h.callNext hDispatch hi
      · cases hStep
        exact h.dispatchOn hDispatch fun hAt => hAt.called
    · cases hStep
  | dispatchDone result =>
    simp only [step] at hStep
    split at hStep
    · rename_i idx hDispatch
      cases hStep
      exact h.dispatchDone hDispatch (hKeeps idx hDispatch)
    · cases hStep
  | bufDone c idx result =>
    simp only [step] at hStep
    split at hStep
    · rename_i hCopy
      cases hStep
      exact h.giveBack hCopy hKeeps
    · cases hStep
  | regBufCb val =>
    simp only [step] at hStep
    split at hStep
    · cases hStep
      refine h.ofStream ?_ ?_
      · rw [MmStream.regBufCb]
        split <;> rfl
      · rw [MmStream.regBufCb]
        split <;> rfl
    · cases hStep
  | setLinked linkedObj =>
    cases hStep
    exact h.ofStream rfl rfl
  | setPreviewSkip n =>
    cases hStep
    exact h.same rfl rfl fun j => rfl

/-- Between two frames, with each buffer in the kernel or with one consumer. -/
structure Started (w : FrameWorld) : Prop where
  arrival : w.arrival = none
  cmdQueue : w.cmdQueue = []
  dispatch : w.dispatch = none
  bufs : ∀ idx < w.stream.numBufs,
    (w.stream.status idx).bufRefcnt = w.held idx ∧ w.held idx ≤ 1 ∧
      ((w.stream.status idx).inKernel = true ↔ w.held idx = 0)

theorem Started.counted (h : Started w) : Counted w := by
  intro idx hIdx
  obtain ⟨hRefs, hRoom, hKernel⟩ := h.bufs idx hIdx
  rw [BalanceAt, arrivalAt_none h.arrival, dispatchAt_none h.dispatch, h.cmdQueue]
  refine ⟨hRefs, ?_, ?_, ?_, nofun, nofun, nofun⟩
  · exact Nat.le_trans hRoom (by decide)
  · intro hIn
    rw [hRefs, hKernel.mp hIn]
  · intro hNone
    exact .inl (hKernel.mpr (hRefs.symm.trans hNone))

/-- No consumer has a copy of the buffer, and none is on its way. -/
structure Released (w : FrameWorld) (idx : Nat) : Prop where
  copies : ∀ c, (c, idx) ∉ w.copies
  cmdQueue : idx ∉ w.cmdQueue
  dispatch : ∀ stage, w.dispatch ≠ some (idx, stage)

theorem released_iff : w.Released idx ↔
    w.held idx = 0 ∧ w.cmdQueue.count idx = 0 ∧ w.dispatchAt idx = none := by
  have hHeld : w.held idx = 0 ↔ ∀ c, (c, idx) ∉ w.copies := by
    rw [held, List.countP_eq_zero]
    constructor
    · intro h c hCopy
      exact h _ hCopy (beq_self_eq_true idx)
    · rintro h ⟨c, j⟩ hCopy hSame
      exact h c (beq_iff_eq.mp hSame ▸ hCopy)
  have hDispatch : w.dispatchAt idx = none ↔ ∀ stage, w.dispatch ≠ some (idx, stage) := by
    constructor
    · intro h stage hAt
      rw [dispatchAt_self hAt] at h
      cases h
    · intro h
      cases hAt : w.dispatch with
      | none => exact dispatchAt_none hAt
      | some at' => exact dispatchAt_of_ne hAt fun hSame => h at'.2 (by rw [hAt, hSame])
  rw [hHeld, hDispatch, List.count_eq_zero]
  exact ⟨fun h => ⟨h.copies, h.cmdQueue, h.dispatch⟩, fun h => ⟨h.1, h.2.1, h.2.2⟩⟩

theorem dispatchRefs_eq_zero {dispatch : Option DispatchStage} :
    dispatchRefs dispatch = 0 ↔ dispatch = none := by
  cases dispatch with
  | none => exact iff_of_true rfl rfl
  | some stage => exact iff_of_false (by simp [dispatchRefs]) (by simp)

/-- In a run that keeps the counts a buffer in the kernel has no copies, and a buffer whose copies
are all given back, and that the poll thread is done with, is in the kernel. -/
theorem kernel_of_run {w₀ : FrameWorld} (hStart : Started w₀) {is : List Input} {os : List Unit}
    (run : Lib.Steps Next (fun _ _ w i _ => w.KeepsCounts i) w₀ is os w) :
    ∀ idx < w.stream.numBufs,
      ((w.stream.status idx).inKernel = true → w.Released idx) ∧
      (w.Released idx → (∀ stage, w.arrival ≠ some (idx, stage)) →
        (w.stream.status idx).inKernel = true) := by
  have hCounted : Counted w := by
    refine run.invariant hStart.counted ?_
    intro _ _ _ _ _ _ hKeeps h hStep
    exact h.next hKeeps hStep
  intro idx hIdx
  have hAt := hCounted idx hIdx
  have hRefs := hAt.refcnt
  constructor
  · intro hKernel
    rw [hAt.kernel hKernel] at hRefs
    exact released_iff.mpr ⟨by omega, by omega, dispatchRefs_eq_zero.mp (by omega)⟩
  · intro hReleased hGone
    obtain ⟨hHeld, hQueued, hDispatch⟩ := released_iff.mp hReleased
    have hArrival : w.arrivalAt idx = none := by
      cases hAtBuf : w.arrival with
      | none => exact arrivalAt_none hAtBuf
      | some at' => exact arrivalAt_of_ne hAtBuf fun hSame => hGone at'.2 (by rw [hAtBuf, hSame])
    rw [hHeld, hQueued, hDispatch, hArrival] at hRefs
    refine (hAt.back hRefs).resolve_right ?_
    rw [hArrival]
    exact id

/-- A bundled preview stream that is linked into another channel, without a data callback. -/
def linkedPreview : FrameWorld where
  stream := {
    myHdl := 257
    state := .active
    streamInfo := some ⟨.preview, 1⟩
    bufCb := [none, none, none, none]
    bufNum := 1
    bufStatus := some [{ inKernel := true }]
    isBundled := true
    linkedObj := some 513
    isLinked := true }
  driver := ⟨fun _ => 0, fun _ => 0⟩
  previewSkipCnt := 0
  arrival := none
  cmdQueue := []
  dispatch := none
  copies := []

theorem linkedPreview_started : Started linkedPreview := by
  refine ⟨rfl, rfl, rfl, ?_⟩
  intro idx hIdx
  obtain rfl : idx = 0 := Nat.lt_one_iff.mp hIdx
  decide

theorem kernel_of_run_linkedPreview : ∃ w : FrameWorld, (w.stream.status 0).inKernel = true ∧
    ∀ idx < w.stream.numBufs,
      ((w.stream.status idx).inKernel = true → w.Released idx) ∧
      (w.Released idx → (∀ stage, w.arrival ≠ some (idx, stage)) →
        (w.stream.status idx).inKernel = true) := by
  have read : Lib.Steps Next (fun _ _ w i _ => w.KeepsCounts i) linkedPreview _ _ _ :=
    .step .start trivial (i := Input.readFrame 0) (o := []) rfl
  have checked : Lib.Steps Next (fun _ _ w i _ => w.KeepsCounts i) linkedPreview _ _ _ :=
    read.step trivial (i := Input.checkCbs) (o := []) rfl
  have counted : Lib.Steps Next (fun _ _ w i _ => w.KeepsCounts i) linkedPreview _ _ _ :=
    checked.step trivial (i := Input.count) (o := []) rfl
  have notified : Lib.Steps Next (fun _ _ w i _ => w.KeepsCounts i) linkedPreview _ _ _ :=
    counted.step (fun _ => rfl) (i := Input.notifyChannel true) (o := []) rfl
  have linked : Lib.Steps Next (fun _ _ w i _ => w.KeepsCounts i) linkedPreview _ _ _ :=
    notified.step (fun idx hasCb hAt => by cases hAt; exact ⟨rfl, rfl⟩)
      (i := Input.notifyLinked true) (o := []) rfl
  have passed : Lib.Steps Next (fun _ _ w i _ => w.KeepsCounts i) linkedPreview _ _ _ :=
    linked.step (fun idx hAt => by cases hAt) (i := Input.skipOrEnqueue true) (o := []) rfl
  have one : Lib.Steps Next (fun _ _ w i _ => w.KeepsCounts i) linkedPreview _ _ _ :=
    passed.step (fun _ => rfl) (i := Input.bufDone .bundle 0 .queued) (o := []) rfl
  have both : Lib.Steps Next (fun _ _ w i _ => w.KeepsCounts i) linkedPreview _ _ _ :=
    one.step (fun _ => rfl) (i := Input.bufDone .linked 0 .queued) (o := []) rfl
  exact ⟨_, rfl, kernel_of_run linkedPreview_started both⟩

/-- The bundle is done with the frame before the linked channel is counted: the kernel has the
buffer, and the linked channel holds it. -/
theorem linked_holds_queued : ∃ w, Lib.Steps Next Lib.anyStep linkedPreview
    [.readFrame 0, .checkCbs, .count, .notifyChannel true, .bufDone .bundle 0 .queued,
      .notifyLinked true] [] w ∧
    (w.stream.status 0).inKernel = true ∧ (Consumer.linked, 0) ∈ w.copies := by
  have run : Lib.Steps Next Lib.anyStep linkedPreview
      [.readFrame 0, .checkCbs, .count, .notifyChannel true, .bufDone .bundle 0 .queued,
        .notifyLinked true] _ _ :=
    Lib.Steps.of_exec Next Lib.anyStep (f := fun _ _ w i => (w.step i).map fun w' => (w', []))
      (fun _ _ _ _ w w' o h => by
        obtain ⟨_, hStep, hEq⟩ := Option.map_eq_some_iff.mp h
        cases hEq
        exact ⟨hStep, trivial⟩) rfl
  exact ⟨_, run, rfl, List.mem_cons_self⟩

end FrameWorld

end KiwiDevice.Camera

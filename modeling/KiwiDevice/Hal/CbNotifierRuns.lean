import KiwiDevice.Hal.CbNotifierSteps

/-!
# Runs of the callback notifier

In a run whose steps meet the condition, START and STOP take effect in the order issued, and every
notification is handed over or taken back once, in the order posted.
-/

namespace KiwiDevice.Hal.CbNotifier

universe u

variable {δ : Type u} {os o : List (CbEvent δ)} {s s' : CbNotifier δ} {i : CbInput δ}
  {cb : Notification δ}

/-! ### START and STOP -/

def modes (cmds : List CameraCmdType) : List SnapshotMode :=
  cmds.filterMap fun cmd =>
    match cmd with
    | .startDataProc => some .start
    | .stopDataProc => some .stop
    | _ => none

theorem modes_append (cmds cmds' : List CameraCmdType) :
    modes (cmds ++ cmds') = modes cmds ++ modes cmds' :=
  List.filterMap_append

theorem modes_cmd (mode : SnapshotMode) (cmds : List CameraCmdType) :
    modes (mode.cmd :: cmds) = mode :: modes cmds := by
  cases mode <;> rfl

theorem mem_modes {mode : SnapshotMode} {cmds : List CameraCmdType} :
    mode ∈ modes cmds ↔ mode.cmd ∈ cmds := by
  rw [modes, List.mem_filterMap]
  constructor
  · rintro ⟨cmd, hIn, hEq⟩
    cases cmd with
    | startDataProc | stopDataProc =>
      cases hEq
      exact hIn
    | none | doNextJob | exit => cases hEq
  · exact fun hIn => ⟨_, hIn, by cases mode <;> rfl⟩

structure Ordered (os : List (CbEvent δ)) (s : CbNotifier δ) : Prop where
  sent : issued os = effects os ++ modes s.coming
  active : s.isSnapshotActive = true ↔ (effects os).getLast? = some .start

theorem Ordered.frame (h : Ordered os s) (hIssued : issued o = []) (hEffects : effects o = [])
    (hComing : modes s'.coming = modes s.coming)
    (hActive : s'.isSnapshotActive = s.isSnapshotActive) : Ordered (os ++ o) s' where
  sent := by
    rw [issued_append, effects_append, hIssued, hEffects, hComing, List.append_nil, List.append_nil]
    exact h.sent
  active := by
    rw [effects_append, hEffects, hActive, List.append_nil]
    exact h.active

/-- A START in front of others of its kind is as good as one behind them. -/
theorem modes_issued {mode : SnapshotMode} {cmds : List CameraCmdType}
    (hOnly : mode.other.cmd ∉ cmds) : modes (mode.cmd :: cmds) = modes cmds ++ [mode] := by
  have hAll : ∀ mode' ∈ modes cmds, mode' = mode := by
    intro mode' hIn
    have hCmd := mem_modes.mp hIn
    cases mode <;> cases mode' <;> first | rfl | exact absurd hCmd hOnly
  rw [modes_cmd, List.eq_replicate_of_mem hAll, ← List.replicate_succ, ← List.replicate_succ']

theorem events_flushed (status : CbStatus) (cbs : List (Notification δ)) :
    issued (cbs.map fun cb => CbEvent.released cb status) = [] ∧
      effects (cbs.map fun cb => CbEvent.released cb status) = [] := by
  constructor
  · exact List.filterMap_eq_nil_iff.mpr (by simp)
  · exact List.filterMap_eq_nil_iff.mpr (by simp)

theorem Ordered.effect (h : Ordered os s) (mode : SnapshotMode)
    (hThread : s.thread = .took mode.cmd) (hIssued : issued o = []) (hEffects : effects o = [mode])
    (hComing : s'.coming = s.cmdQueue) (hActive : s'.isSnapshotActive = decide (mode = .start)) :
    Ordered (os ++ o) s' where
  sent := by
    have hSent := h.sent
    rw [CbNotifier.coming, hThread, inHand, List.singleton_append, modes_cmd] at hSent
    rw [issued_append, effects_append, hIssued, hEffects, hComing, hSent, List.append_nil,
      List.append_assoc, List.singleton_append]
  active := by
    rw [effects_append, hEffects, hActive, List.getLast?_concat, decide_eq_true_iff,
      Option.some_inj]

theorem Ordered.next (h : Ordered os s) (hChange : Change os s o s') : Ordered (os ++ o) s' := by
  have hSent := h.sent
  rw [CbNotifier.coming] at hSent
  cases hChange with
  | refused | posted | semPost => exact h.frame rfl rfl rfl rfl
  | sent =>
    refine h.frame rfl rfl ?_ rfl
    rw [CbNotifier.coming, ← List.append_assoc, modes_append _ [.doNextJob]]
    exact List.append_nil _
  | issued mode single =>
    refine ⟨?_, ?_⟩
    · rw [issued_append, effects_append, hSent, CbNotifier.coming, modes_append, modes_append,
        modes_issued single]
      simp [issued, effects]
    · simpa [effects] using h.active
  | flushed =>
    obtain ⟨hIssued, hEffects⟩ := events_flushed .failedTransaction
      (s.mDataQ.filter matchTimestampNotifications)
    exact h.frame hIssued hEffects rfl rfl
  | started expected longshot thread =>
    exact h.effect .start thread rfl rfl rfl rfl
  | stopped thread =>
    obtain ⟨hIssued, hEffects⟩ := events_flushed .failedTransaction
      (s.mDataQ.filter matchSnapshotNotifications)
    exact h.effect .stop thread hIssued (congrArg (SnapshotMode.stop :: ·) hEffects) rfl
      rfl
  | got thread queued =>
    refine h.frame rfl rfl ?_ rfl
    rw [CbNotifier.coming, CbNotifier.coming, thread, queued]
    rfl
  | semWait thread | noJob thread | tookJob thread | handed thread | ignored thread =>
    refine h.frame rfl rfl ?_ rfl
    rw [CbNotifier.coming, CbNotifier.coming, thread]
    rfl
  | counted thread =>
    refine h.frame ?_ ?_ ?_ rfl
    · split <;> rfl
    · split <;> rfl
    · rw [CbNotifier.coming, CbNotifier.coming, thread]
      rfl

/-- While a snapshot is wanted, a START is on its way, or it was the last to take effect. -/
theorem Ordered.awaits (h : Ordered os s) (hWanted : Wanted os cb) :
    .startDataProc ∈ s.coming ∨ modes s.coming = [] ∧ s.isSnapshotActive = true := by
  have hLast := hWanted.last
  rw [h.sent, List.getLast?_append] at hLast
  cases hComing : (modes s.coming).getLast? with
  | none =>
    rw [hComing, Option.none_or] at hLast
    exact .inr ⟨List.getLast?_eq_none_iff.mp hComing, h.active.mpr hLast⟩
  | some mode =>
    rw [hComing, Option.some_or] at hLast
    cases hLast
    exact .inl (mem_modes.mp (List.mem_of_getLast? hComing))

/-! ### Notifications -/

structure Kept (os : List (CbEvent δ)) (s : CbNotifier δ) : Prop where
  posted : (handed os ++ s.held).Sublist (notified os)
  once : (released os ++ s.held).Perm (notified os)
  numbers : (notified os).map Notification.number = List.range s.posted

theorem Kept.frame (h : Kept os s) (hNotified : notified o = []) (hHanded : handed o = [])
    (hReleased : released o = []) (hHeld : s'.held = s.held) (hPosted : s'.posted = s.posted) :
    Kept (os ++ o) s' where
  posted := by
    rw [handed_append, notified_append, hHanded, hNotified, hHeld, List.append_nil, List.append_nil]
    exact h.posted
  once := by
    rw [released_append, notified_append, hReleased, hNotified, hHeld, List.append_nil,
      List.append_nil]
    exact h.once
  numbers := by
    rw [notified_append, hNotified, hPosted, List.append_nil]
    exact h.numbers

/-- A flush takes notifications back. -/
theorem Kept.flush (h : Kept os s) (isMatch : Notification δ → Bool)
    (hNotified : notified o = []) (hHanded : handed o = [])
    (hReleased : released o = s.mDataQ.filter isMatch)
    (hHeld : s'.held = beingDelivered s.thread ++ s.mDataQ.filter fun cb => !isMatch cb)
    (hPosted : s'.posted = s.posted) : Kept (os ++ o) s' where
  posted := by
    rw [handed_append, notified_append, hHanded, hNotified, hHeld, List.append_nil, List.append_nil]
    have hLeft := List.filter_sublist (p := fun cb => !isMatch cb) (l := s.mDataQ)
    exact ((hLeft.append_left _).append_left _).trans h.posted
  once := by
    have hSplit : (s.mDataQ.filter isMatch ++ s.mDataQ.filter fun cb => !isMatch cb).Perm s.mDataQ :=
      List.filter_append_perm isMatch s.mDataQ
    rw [released_append, notified_append, hReleased, hNotified, hHeld, List.append_nil]
    refine .trans ?_ h.once
    rw [held, List.append_assoc]
    refine .append_left _ (.trans ?_ (hSplit.append_left _))
    exact List.perm_append_comm_assoc _ _ _
  numbers := by
    rw [notified_append, hNotified, hPosted, List.append_nil]
    exact h.numbers

/-- The thread is done with a notification. -/
theorem Kept.done (h : Kept os s) (hThread : s.thread = .delivering cb) (hNotified : notified o = [])
    (hHanded : (handed o).Sublist [cb]) (hReleased : released o = [cb])
    (hHeld : s'.held = s.mDataQ) (hPosted : s'.posted = s.posted) : Kept (os ++ o) s' where
  posted := by
    have hOrder := h.posted
    rw [held, hThread, beingDelivered, ← List.append_assoc] at hOrder
    rw [handed_append, notified_append, hNotified, hHeld, List.append_nil]
    exact ((hHanded.append_left _).append_right _).trans hOrder
  once := by
    have hOnce := h.once
    rw [held, hThread, beingDelivered, ← List.append_assoc] at hOnce
    rw [released_append, notified_append, hReleased, hNotified, hHeld, List.append_nil]
    exact hOnce
  numbers := by
    rw [notified_append, hNotified, hPosted, List.append_nil]
    exact h.numbers

theorem taken_flushed (status : CbStatus) (cbs : List (Notification δ)) :
    notified (cbs.map fun cb => CbEvent.released cb status) = [] ∧
      handed (cbs.map fun cb => CbEvent.released cb status) = [] := by
  constructor
  · exact List.filterMap_eq_nil_iff.mpr (by simp)
  · exact List.filterMap_eq_nil_iff.mpr (by simp)

theorem Kept.next (h : Kept os s) (hChange : Change os s o s') : Kept (os ++ o) s' := by
  cases hChange with
  | refused | sent | issued | semPost => exact h.frame rfl rfl rfl rfl rfl
  | posted cbArgs =>
    have hHeld : ∀ l : List (Notification δ),
        l ++ (beingDelivered s.thread ++ (s.mDataQ ++ [⟨s.posted, cbArgs⟩])) =
          l ++ s.held ++ [⟨s.posted, cbArgs⟩] := by
      intro l
      rw [held, List.append_assoc, List.append_assoc]
    have hHanded : handed (os ++ [.posted ⟨s.posted, cbArgs⟩]) = handed os :=
      handed_append.trans (List.append_nil _)
    have hReleased : released (os ++ [.posted ⟨s.posted, cbArgs⟩]) = released os :=
      released_append.trans (List.append_nil _)
    refine ⟨?_, ?_, ?_⟩
    · rw [hHanded, notified_append, held, hHeld]
      exact h.posted.append_right _
    · rw [hReleased, notified_append, held, hHeld]
      exact h.once.append_right _
    · rw [notified_append, List.map_append, h.numbers, List.range_succ]
      rfl
  | flushed =>
    obtain ⟨hNotified, hHanded⟩ := taken_flushed .failedTransaction
      (s.mDataQ.filter matchTimestampNotifications)
    exact h.flush matchTimestampNotifications hNotified hHanded (released_map _) rfl rfl
  | stopped thread =>
    obtain ⟨hNotified, hHanded⟩ := taken_flushed .failedTransaction
      (s.mDataQ.filter matchSnapshotNotifications)
    refine h.flush matchSnapshotNotifications hNotified hHanded (released_map _) ?_ rfl
    rw [thread]
    rfl
  | semWait thread | got thread | started _ _ thread | noJob thread =>
    refine h.frame rfl rfl rfl ?_ rfl
    rw [held, held, thread]
    rfl
  | tookJob thread queued =>
    refine h.frame rfl rfl rfl ?_ rfl
    rw [held, held, thread, queued]
    rfl
  | handed thread => exact h.done thread rfl (.refl _) rfl rfl rfl
  | counted thread =>
    refine h.done thread ?_ ?_ ?_ rfl rfl
    · split <;> rfl
    · split <;> exact .refl _
    · split <;> rfl
  | ignored thread => exact h.done thread rfl (List.nil_sublist _) rfl rfl rfl

/-! ### Snapshots -/

/-- A wanted snapshot was handed over, is in the queue, or is with a thread that will hand it
over. -/
def Awaited (os : List (CbEvent δ)) (s : CbNotifier δ) : Prop :=
  ∀ cb, Wanted os cb → cb ∈ handed os ∨ cb ∈ s.mDataQ ∨
    s.thread = .delivering cb ∧ s.isSnapshotActive = true

theorem Awaited.frame (h : Awaited os s) (hNew : ∀ cb, .posted cb ∉ o)
    (hData : ∀ cb, matchSnapshotNotifications cb = true → cb ∈ s.mDataQ → cb ∈ s'.mDataQ)
    (hThread : ∀ cb, s.thread = .delivering cb → s.isSnapshotActive = true →
      cb ∈ handed o ∨ s'.thread = .delivering cb ∧ s'.isSnapshotActive = true) :
    Awaited (os ++ o) s' := by
  intro cb hWanted
  rw [handed_append, List.mem_append]
  rcases h cb (hWanted.of_append (hNew cb)) with hHanded | hIn | ⟨hWith, hActive⟩
  · exact .inl (.inl hHanded)
  · exact .inr (.inl (hData cb hWanted.1 hIn))
  · exact (hThread cb hWith hActive).imp .inr .inr

theorem Awaited.next (h : Awaited os s) (hOrdered : Ordered os s) (hChange : Change os s o s') :
    Awaited (os ++ o) s' := by
  cases hChange with
  | refused | sent | issued | semPost =>
    exact h.frame (by simp) (fun _ _ hIn => hIn) fun _ hWith hActive => .inr ⟨hWith, hActive⟩
  | posted cbArgs =>
    intro cb hWanted
    rw [handed_append, List.mem_append]
    rcases eq_or_ne (CbEvent.posted ⟨s.posted, cbArgs⟩) (.posted cb) with hNew | hNew
    · cases hNew
      exact .inr (.inl (List.mem_append_right _ List.mem_cons_self))
    · rcases h cb (hWanted.before hNew) with hHanded | hIn | hWith
      · exact .inl (.inl hHanded)
      · exact .inr (.inl (List.mem_append_left _ hIn))
      · exact .inr (.inr hWith)
  | flushed =>
    refine h.frame (by simp [flushNodes]) ?_ fun _ hWith hActive => .inr ⟨hWith, hActive⟩
    intro cb hSnapshot hIn
    have hType : cb.arg.cbType = .dataSnapshotCallback := of_decide_eq_true hSnapshot
    exact List.mem_filter.mpr ⟨hIn, by simp [matchTimestampNotifications, hType]⟩
  | semWait thread | got thread | started _ _ thread | noJob thread =>
    refine h.frame (by simp) (fun _ _ hIn => hIn) fun cb hWith => ?_
    rw [thread] at hWith
    cases hWith
  | stopped thread safe =>
    intro cb hWanted
    have hBefore := hWanted.of_append (by simp [flushNodes])
    have hStart : .startDataProc ∈ s.cmdQueue := by
      have hAwaits := hOrdered.awaits hBefore
      rw [CbNotifier.coming, thread] at hAwaits
      rcases hAwaits with hIn | ⟨hNone, -⟩
      · exact (List.mem_cons.mp hIn).resolve_left (by decide)
      · cases hNone
    rcases h cb hBefore with hHanded | hIn | ⟨hWith, -⟩
    · rw [handed_append, List.mem_append]
      exact .inl (.inl hHanded)
    · exact absurd hBefore (safe hStart cb hIn)
    · rw [thread] at hWith
      cases hWith
  | tookJob thread queued safe =>
    rename_i cb₀ mDataQ
    intro cb hWanted
    rw [List.append_nil] at hWanted ⊢
    rcases h cb hWanted with hHanded | hIn | ⟨hWith, -⟩
    · exact .inl hHanded
    · rw [queued] at hIn
      rcases List.mem_cons.mp hIn with rfl | hRest
      · refine .inr (.inr ⟨rfl, ?_⟩)
        have hAwaits := hOrdered.awaits hWanted
        rw [CbNotifier.coming, thread] at hAwaits
        rcases hAwaits with hStart | ⟨-, hActive⟩
        · by_contra hInactive
          have hQueued := (List.mem_cons.mp hStart).resolve_left (by decide)
          exact safe hQueued (eq_false_of_ne_true hInactive) hWanted
        · exact hActive
      · exact .inr (.inl hRest)
    · rw [thread] at hWith
      cases hWith
  | handed thread =>
    refine h.frame (by simp) (fun _ _ hIn => hIn) fun cb hWith _ => .inl ?_
    cases thread.symm.trans hWith
    exact List.mem_cons_self
  | counted thread =>
    refine h.frame ?_ (fun _ _ hIn => hIn) fun cb hWith _ => .inl ?_
    · intro cb
      split <;> simp
    · cases thread.symm.trans hWith
      split <;> exact List.mem_cons_self
  | ignored thread snapshot idle =>
    refine h.frame (by simp) (fun _ _ hIn => hIn) fun cb hWith hActive => ?_
    rw [idle] at hActive
    cases hActive

/-- `current`: the thread's counters are those of the latest START. -/
structure Counted (os : List (CbEvent δ)) (s : CbNotifier δ) : Prop where
  exact : ∀ r ∈ starts os, r.Exact
  total : snapshotDones os = ((starts os).map SnapshotStart.dones).sum
  current : s.isSnapshotActive = true → ∃ r rest, starts os = r :: rest ∧
    r.expected = s.numOfSnapshotExpected ∧ r.longshot = s.longShotEnabled ∧
      (r.longshot = false → s.numOfSnapshotRcvd = BitVec.ofNat 32 r.received)

theorem Counted.frame (h : Counted os s) (hStarts : o.foldl record (starts os) = starts os)
    (hDones : snapshotDones o = 0)
    (hActive : s'.isSnapshotActive = true → s.isSnapshotActive = true ∧
      s'.numOfSnapshotExpected = s.numOfSnapshotExpected ∧
      s'.longShotEnabled = s.longShotEnabled ∧ s'.numOfSnapshotRcvd = s.numOfSnapshotRcvd) :
    Counted (os ++ o) s' where
  exact := by
    rw [starts_append, hStarts]
    exact h.exact
  total := by
    rw [snapshotDones_append, starts_append, hStarts, hDones]
    exact h.total
  current hOn := by
    obtain ⟨hBefore, hExpected, hLongshot, hRcvd⟩ := hActive hOn
    rw [starts_append, hStarts, hExpected, hLongshot, hRcvd]
    exact h.current hBefore

theorem starts_flushed {status : CbStatus} (cbs : List (Notification δ))
    (starts : List SnapshotStart) :
    (cbs.map fun cb => CbEvent.released cb status).foldl record starts = starts := by
  induction cbs with
  | nil => rfl
  | cons cb cbs ih => exact ih

theorem snapshotDones_flushed {status : CbStatus} (cbs : List (Notification δ)) :
    snapshotDones (cbs.map fun cb => CbEvent.released cb status) = 0 :=
  List.countP_eq_zero.mpr (by simp)

/-- One more snapshot reaches the expected number when the counter does. -/
theorem done_iff {expected : BitVec 32} {received : Nat}
    (hFew : received + 1 < 2 ^ 32 + expected.toNat) :
    expected = BitVec.ofNat 32 received + 1 ↔ expected.toNat = received + 1 := by
  have hSum : BitVec.ofNat 32 received + 1 = BitVec.ofNat 32 (received + 1) :=
    (BitVec.ofNat_add received 1).symm
  have hLt := expected.isLt
  rw [hSum, ← BitVec.toNat_inj, BitVec.toNat_ofNat]
  omega

theorem SnapshotStart.Exact.count {r : SnapshotStart} (h : r.Exact)
    (hFew : r.received + 1 < 2 ^ 32 + r.expected.toNat) (hShort : r.longshot = false) :
    SnapshotStart.Exact { r with
      received := r.received + 1
      dones := if 0 < r.expected ∧ r.expected = BitVec.ofNat 32 r.received + 1 then r.dones + 1
        else r.dones } := by
  have hDone := done_iff hFew
  rw [Exact] at h ⊢
  dsimp only
  rw [h]
  grind

theorem Counted.next (h : Counted os s) (hChange : Change os s o s') : Counted (os ++ o) s' := by
  cases hChange with
  | refused | posted | sent | issued | semPost | semWait | got | noJob | tookJob | ignored =>
    exact h.frame rfl rfl fun hOn => ⟨hOn, rfl, rfl, rfl⟩
  | flushed =>
    exact h.frame (starts_flushed _ _) (snapshotDones_flushed _) fun hOn => ⟨hOn, rfl, rfl, rfl⟩
  | started expected longshot thread =>
    have hAfter : starts (os ++ [.started expected longshot]) =
        ⟨expected, longshot, 0, 0⟩ :: starts os := starts_append
    refine ⟨?_, ?_, fun _ => ⟨_, starts os, hAfter, rfl, rfl, fun _ => rfl⟩⟩
    · rw [hAfter]
      refine List.forall_mem_cons.mpr ⟨?_, h.exact⟩
      refine (if_neg ?_).symm
      rintro ⟨-, hSome, hNone⟩
      exact Nat.not_lt.mpr hNone hSome
    · rw [hAfter, snapshotDones_append, h.total]
      exact Nat.add_comm _ 0
  | stopped thread =>
    refine h.frame (starts_flushed _ _) (snapshotDones_flushed _) ?_
    intro hOn
    cases hOn
  | handed thread uncounted =>
    rename_i cb
    cases hSnapshot : matchSnapshotNotifications cb with
    | false =>
      refine h.frame ?_ rfl fun hOn => ⟨hOn, rfl, rfl, rfl⟩
      simp [record, hSnapshot]
    | true =>
      obtain ⟨hActive, hLongshot⟩ := uncounted hSnapshot
      obtain ⟨r, rest, hStarts, hExpected, hSame, -⟩ := h.current hActive
      have hLong := hSame.trans hLongshot
      have hAfter : starts (os ++ [.handed cb, .released cb .noError]) =
          { r with received := r.received + 1 } :: rest := by
        rw [starts_append, hStarts]
        simp [record, hSnapshot]
      have hExact := h.exact
      have hTotal := h.total
      rw [hStarts] at hExact hTotal
      obtain ⟨hHead, hRest⟩ := List.forall_mem_cons.mp hExact
      refine ⟨?_, ?_, fun _ => ⟨_, rest, hAfter, hExpected, hSame, fun hShort => ?_⟩⟩
      · rw [hAfter]
        refine List.forall_mem_cons.mpr ⟨?_, hRest⟩
        rw [SnapshotStart.Exact, if_neg (by simp [hLong])] at hHead ⊢
        exact hHead
      · rw [hAfter, snapshotDones_append, hTotal]
        rfl
      · exact absurd (hLong.symm.trans hShort) (by decide)
  | counted thread snapshot active short few =>
    rename_i cb
    obtain ⟨r, rest, hStarts, hExpected, hSame, hRcvd⟩ := h.current active
    have hShort := hSame.trans short
    have hExact := h.exact
    have hTotal := h.total
    rw [hStarts] at hExact hTotal few
    obtain ⟨hHead, hRest⟩ := List.forall_mem_cons.mp hExact
    have hCount := hHead.count (few r rfl) hShort
    rw [← hExpected, hRcvd hShort]
    generalize hDone : (if 0 < r.expected ∧ r.expected = BitVec.ofNat 32 r.received + 1 then
      [CbEvent.snapshotDone, .handed cb] else [.handed cb]) ++ [.released cb .noError] = o
    have hAfter : starts (os ++ o) = { r with
        received := r.received + 1
        dones := if 0 < r.expected ∧ r.expected = BitVec.ofNat 32 r.received + 1 then r.dones + 1
          else r.dones } :: rest := by
      rw [starts_append, hStarts, ← hDone]
      split <;> simp [record, snapshot]
    refine ⟨?_, ?_, fun _ => ⟨_, rest, hAfter, rfl, hSame, fun _ => ?_⟩⟩
    · rw [hAfter]
      exact List.forall_mem_cons.mpr ⟨hCount, hRest⟩
    · rw [hAfter, snapshotDones_append, hTotal, ← hDone]
      split
      · simp [snapshotDones]
        omega
      · simp [snapshotDones]
    · exact (BitVec.ofNat_add r.received 1).symm

/-! ### Runs -/

structure Sound (os : List (CbEvent δ)) (s : CbNotifier δ) : Prop where
  ready : s.Ready
  ordered : Ordered os s
  kept : Kept os s
  awaited : Awaited os s
  counted : Counted os s

theorem sound_setCallbacks : Sound [] (setCallbacks : CbNotifier δ) where
  ready := by constructor <;> simp [setCallbacks, CbNotifier.coming]
  ordered := ⟨rfl, by simp [setCallbacks, effects]⟩
  kept := ⟨.refl _, .refl _, rfl⟩
  awaited cb hWanted := by
    obtain ⟨-, before, after, hSplit, -⟩ := hWanted
    exact absurd hSplit.symm (List.append_ne_nil_of_right_ne_nil _ (List.cons_ne_nil _ _))
  counted := ⟨by simp [starts], rfl, by simp [setCallbacks]⟩

theorem Sound.next (h : Sound os s) (hMeets : Meets os s i) (hNext : Next s i o s') :
    Sound (os ++ o) s' := by
  have hChange := h.ready.change hMeets hNext
  constructor
  · exact h.ready.next hChange
  · exact h.ordered.next hChange
  · exact h.kept.next hChange
  · exact h.awaited.next h.ordered hChange
  · exact h.counted.next hChange

/-- The runs whose steps all meet the condition. -/
abbrev MeetingRun (is : List (CbInput δ)) (os : List (CbEvent δ)) (s : CbNotifier δ) : Prop :=
  Lib.Steps Next (fun _ os s i _ => Meets os s i) setCallbacks is os s

theorem sound_of_run {is : List (CbInput δ)} (run : MeetingRun is os s) : Sound os s := by
  apply run.history (I := fun _ os s => Sound os s) sound_setCallbacks
  intro is os s i o s' hMeets h hNext
  exact h.next hMeets hNext

theorem Ready.exists_next (h : s.Ready) (hBusy : ¬ s.Idle) :
    ∃ i o s', ByNotifier i ∧ Next s i o s' := by
  cases hThread : s.thread with
  | waiting =>
    cases hSem : s.cmdSem with
    | succ n => exact ⟨.semWait, _, _, trivial, by simp only [Next, step, hThread, hSem]; rfl⟩
    | zero =>
      cases hPosting : s.posting with
      | succ n => exact ⟨.semPost, _, _, trivial, by simp only [Next, step, hPosting]; rfl⟩
      | zero =>
        cases hSending : s.sending with
        | succ n =>
          exact ⟨.sendJob true true, _, _, trivial, by simp only [Next, step, hSending]; rfl⟩
        | zero => exact absurd ⟨hSending, hPosting, hSem, hThread⟩ hBusy
  | getting => exact ⟨.getCmd, _, _, trivial, by simp only [Next, step, hThread]; rfl⟩
  | took cmd => exact ⟨.perform 0 false, _, _, trivial, by simp only [Next, step, hThread]; rfl⟩
  | delivering cb => exact ⟨.deliver true, _, _, trivial, by simp only [Next, step, hThread]; rfl⟩
  | exited => exact absurd hThread h.running

theorem perform_work {cmd : CameraCmdType} (hThread : s.thread = .took cmd) (expected : BitVec 32)
    (longshot : Bool) : (s.perform cmd expected longshot).1.work < s.work := by
  cases cmd with
  | doNextJob =>
    rw [perform]
    split <;> simp [CbNotifier.work, hThread]
  | none | startDataProc | stopDataProc | exit => simp [perform, flushNodes, CbNotifier.work, hThread]

theorem handle_calls (s : CbNotifier δ) (cb : Notification δ) :
    (s.handle cb).1.sending = s.sending ∧ (s.handle cb).1.posting = s.posting ∧
      (s.handle cb).1.cmdSem = s.cmdSem := by
  rw [handle]
  split
  · exact ⟨rfl, rfl, rfl⟩
  · exact ⟨rfl, rfl, rfl⟩
  · exact ⟨rfl, rfl, rfl⟩
  · split
    · split
      · exact ⟨rfl, rfl, rfl⟩
      · exact ⟨rfl, rfl, rfl⟩
    · exact ⟨rfl, rfl, rfl⟩

theorem deliver_work (hThread : s.thread = .delivering cb) (msgTypeEnabled : Bool) :
    (s.deliver cb msgTypeEnabled).1.work < s.work := by
  obtain ⟨hSending, hPosting, hSem⟩ := s.handle_calls cb
  rw [deliver]
  split
  · simp [CbNotifier.work, hThread, hSending, hPosting, hSem]
  · simp [CbNotifier.work, hThread]

theorem work_lt (hBy : ByNotifier i) (hNext : Next s i o s') : s'.work < s.work := by
  cases i with
  | notifyCallback | snapshots | flushVideoNotifications => cases hBy
  | sendJob cmdNode queueNode =>
    rw [Next, step] at hNext
    split at hNext
    · cases hNext
    · rename_i n hSending
      cases hNext
      cases cmdNode with
      | false =>
        simp [sendCmd, CbNotifier.work, hSending]
      | true =>
        simp [sendCmd, CbNotifier.work, hSending]
        omega
  | semPost =>
    rw [Next, step] at hNext
    split at hNext
    · cases hNext
    · rename_i n hPosting
      cases hNext
      simp [CbNotifier.work, hPosting]
      omega
  | semWait =>
    rw [Next, step] at hNext
    split at hNext
    · rename_i n hThread hSem
      cases hNext
      simp [CbNotifier.work, hThread, hSem]
      omega
    · cases hNext
  | getCmd =>
    rw [Next, step] at hNext
    split at hNext
    · rename_i hThread
      cases hNext
      rw [getCmd]
      split <;> simp [CbNotifier.work, hThread]
    · cases hNext
  | perform expected longshot =>
    rw [Next, step] at hNext
    split at hNext
    · rename_i cmd hThread
      have hLess := perform_work hThread expected longshot
      rwa [Option.some.inj hNext] at hLess
    · cases hNext
  | deliver msgTypeEnabled =>
    rw [Next, step] at hNext
    split at hNext
    · rename_i cb hThread
      have hLess := deliver_work hThread msgTypeEnabled
      rwa [Option.some.inj hNext] at hLess
    · cases hNext

theorem Ready.of_idle (h : s.Ready) (hIdle : s.Idle) : s.coming = [] ∧ s.held = [] := by
  have hSem := h.sem
  have hJobs := h.jobs
  rw [hIdle.posting, hIdle.cmdSem, hIdle.thread] at hSem
  have hComing : s.coming = [] := by
    rw [CbNotifier.coming, hIdle.thread]
    exact List.eq_nil_of_length_eq_zero hSem
  rw [hIdle.sending, hComing] at hJobs
  rw [CbNotifier.held, hIdle.thread]
  exact ⟨hComing, List.eq_nil_of_length_eq_zero (Nat.le_zero.mp hJobs)⟩

/-- Notifications are handed over in the order posted and each taken back once, and START and STOP
take effect in the order issued. `wanted`: a snapshot posted after a START without a later STOP is
handed over or still held. `idle`: once there is nothing to do, nothing is held and every command
has taken effect. `progress` and `work`: until then the thread or a call can go on, and has less to
do after each step. -/
structure Delivers (os : List (CbEvent δ)) (s : CbNotifier δ) : Prop where
  order : effects os <+: issued os
  wanted : ∀ cb, Wanted os cb → cb ∈ handed os ∨ cb ∈ s.held
  dones : ∀ r ∈ starts os, r.Exact
  total : snapshotDones os = ((starts os).map SnapshotStart.dones).sum
  posted : (handed os).Sublist (notified os)
  distinct : (notified os).Nodup
  once : (released os ++ s.held).Perm (notified os)
  idle : s.Idle → s.held = [] ∧ effects os = issued os
  progress : ¬ s.Idle → ∃ i o s', ByNotifier i ∧ Next s i o s'
  work : ∀ i o s', ByNotifier i → Next s i o s' → s'.work < s.work

/-- In every run whose steps meet the condition, notifications are delivered in the mode that was
asked for. -/
theorem notifications_delivered {is : List (CbInput δ)} (run : MeetingRun is os s) : Delivers os s where
  order := by
    rw [(sound_of_run run).ordered.sent]
    exact List.prefix_append _ _
  wanted cb hWanted := by
    rcases (sound_of_run run).awaited cb hWanted with hHanded | hIn | ⟨hWith, -⟩
    · exact .inl hHanded
    · exact .inr (List.mem_append_right _ hIn)
    · rw [held, hWith]
      exact .inr List.mem_cons_self
  dones := (sound_of_run run).counted.exact
  total := (sound_of_run run).counted.total
  posted := (List.sublist_append_left _ _).trans (sound_of_run run).kept.posted
  distinct := by
    apply List.Nodup.of_map Notification.number
    rw [(sound_of_run run).kept.numbers]
    exact List.nodup_range
  once := (sound_of_run run).kept.once
  idle hIdle := by
    obtain ⟨hComing, hHeld⟩ := (sound_of_run run).ready.of_idle hIdle
    have hSent := (sound_of_run run).ordered.sent
    rw [hComing] at hSent
    exact ⟨hHeld, (hSent.trans (List.append_nil _)).symm⟩
  progress := (sound_of_run run).ready.exists_next
  work _ _ _ hBy hNext := work_lt hBy hNext

theorem MeetingRun.next {is : List (CbInput δ)} {r : CbNotifier δ × List (CbEvent δ)}
    (run : MeetingRun is os s) (i : CbInput δ) (hMeets : Meets os s i) (h : s.step i = some r) :
    MeetingRun (is ++ [i]) (os ++ r.2) r.1 :=
  run.step hMeets h

/-- A picture. -/
def snapshot : CallbackArgm Unit := ⟨.dataSnapshotCallback, 0x100, (), true⟩

/-- One snapshot is asked for and delivered. -/
theorem notifications_delivered_one : ∃ (os : List (CbEvent Unit)) (s : CbNotifier Unit),
    s.Idle ∧ handed os = [⟨0, snapshot⟩] ∧ starts os = [⟨1, false, 1, 1⟩] ∧ Delivers os s := by
  have run₀ : MeetingRun [] [] (setCallbacks : CbNotifier Unit) := .start
  have run₁ := run₀.next (.snapshots .start true true) (fun _ => ⟨rfl, by decide⟩) rfl
  have run₂ := run₁.next .semPost trivial rfl
  have run₃ := run₂.next (.notifyCallback snapshot true true) trivial rfl
  have run₄ := run₃.next (.sendJob true true) ⟨rfl, rfl⟩ rfl
  have run₅ := run₄.next .semPost trivial rfl
  have run₆ := run₅.next .semWait trivial rfl
  have run₇ := run₆.next .getCmd trivial rfl
  have run₈ := run₇.next (.perform 1 false) (fun hStart => absurd hStart (by decide)) rfl
  have run₉ := run₈.next .semWait trivial rfl
  have run₁₀ := run₉.next .getCmd trivial rfl
  have run₁₁ := run₁₀.next (.perform 0 false) (fun hStart => absurd hStart (by decide)) rfl
  have run₁₂ := run₁₁.next (.deliver true) ⟨rfl, fun _ r hHead => by cases hHead; decide⟩ rfl
  exact ⟨_, _, ⟨rfl, rfl, rfl, rfl⟩, rfl, rfl, notifications_delivered run₁₂⟩

/-- The allocators serve every call, and messages are enabled. -/
def served : CbInput δ → Bool
  | .notifyCallback _ cbArg dataNode => cbArg && dataNode
  | .sendJob cmdNode queueNode => cmdNode && queueNode
  | .snapshots _ cmdNode queueNode => cmdNode && queueNode
  | .deliver msgTypeEnabled => msgTypeEnabled
  | _ => true

abbrev ServedRun (is : List (CbInput δ)) (os : List (CbEvent δ)) (s : CbNotifier δ) : Prop :=
  Lib.Steps Next (fun _ _ _ i _ => served i = true) setCallbacks is os s

theorem ServedRun.next {is : List (CbInput δ)} {r : CbNotifier δ × List (CbEvent δ)}
    (run : ServedRun is os s) (i : CbInput δ) (hServed : served i = true) (h : s.step i = some r) :
    ServedRun (is ++ [i]) (os ++ r.2) r.1 :=
  run.step hServed h

/-- STOP is issued, then START, and a snapshot is posted. With both in the queue, START takes effect
first; with STOP already in the hands of the thread, they take effect in order. The snapshot is
flushed, and SNAPSHOT_DONE is never raised. -/
theorem snapshot_flushed :
    (∃ (is : List (CbInput Unit)) (os : List (CbEvent Unit)) (s : CbNotifier Unit),
      ServedRun is os s ∧ s.Idle ∧
        issued os = [.stop, .start] ∧ effects os = [.start, .stop] ∧
        Wanted os ⟨0, snapshot⟩ ∧ handed os = [] ∧ starts os = [⟨1, false, 0, 0⟩]) ∧
    ∃ (is : List (CbInput Unit)) (os : List (CbEvent Unit)) (s : CbNotifier Unit),
      ServedRun is os s ∧ s.Idle ∧
        issued os = [.stop, .start] ∧ effects os = [.stop, .start] ∧
        Wanted os ⟨0, snapshot⟩ ∧ handed os = [] ∧ starts os = [⟨1, false, 0, 0⟩] := by
  have run₀ : ServedRun [] [] (setCallbacks : CbNotifier Unit) := .start
  have stop₁ := run₀.next (.snapshots .stop true true) rfl rfl
  have stop₂ := stop₁.next .semPost rfl rfl
  constructor
  · have start₁ := stop₂.next (.snapshots .start true true) rfl rfl
    have start₂ := start₁.next .semPost rfl rfl
    have post₁ := start₂.next (.notifyCallback snapshot true true) rfl rfl
    have post₂ := post₁.next (.sendJob true true) rfl rfl
    have post₃ := post₂.next .semPost rfl rfl
    have thread₁ := post₃.next .semWait rfl rfl
    have thread₂ := thread₁.next .getCmd rfl rfl
    have thread₃ := thread₂.next (.perform 1 false) rfl rfl
    have thread₄ := thread₃.next .semWait rfl rfl
    have thread₅ := thread₄.next .getCmd rfl rfl
    have thread₆ := thread₅.next (.perform 0 false) rfl rfl
    have thread₇ := thread₆.next .semWait rfl rfl
    have thread₈ := thread₇.next .getCmd rfl rfl
    have thread₉ := thread₈.next (.perform 0 false) rfl rfl
    refine ⟨_, _, _, thread₉, ⟨rfl, rfl, rfl, rfl⟩, rfl, rfl, ⟨rfl, [.issued .stop], _, rfl, ?_, ?_⟩,
      rfl, rfl⟩
    · decide
    · decide
  · have thread₁ := stop₂.next .semWait rfl rfl
    have thread₂ := thread₁.next .getCmd rfl rfl
    have start₁ := thread₂.next (.snapshots .start true true) rfl rfl
    have start₂ := start₁.next .semPost rfl rfl
    have post₁ := start₂.next (.notifyCallback snapshot true true) rfl rfl
    have post₂ := post₁.next (.sendJob true true) rfl rfl
    have post₃ := post₂.next .semPost rfl rfl
    have thread₃ := post₃.next (.perform 0 false) rfl rfl
    have thread₄ := thread₃.next .semWait rfl rfl
    have thread₅ := thread₄.next .getCmd rfl rfl
    have thread₆ := thread₅.next (.perform 1 false) rfl rfl
    have thread₇ := thread₆.next .semWait rfl rfl
    have thread₈ := thread₇.next .getCmd rfl rfl
    have thread₉ := thread₈.next (.perform 0 false) rfl rfl
    refine ⟨_, _, _, thread₉, ⟨rfl, rfl, rfl, rfl⟩, rfl, rfl, ⟨rfl, [.issued .stop], _, rfl, ?_, ?_⟩,
      rfl, rfl⟩
    · decide
    · decide

end KiwiDevice.Hal.CbNotifier

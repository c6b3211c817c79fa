import KiwiDevice.Gps.NiMoves

/-!
# Every move leads from phase to phase
-/

namespace KiwiDevice.Gps.NiSystem

variable {w w' : NiSystem} {s s' : NiSlot} {t c : Nat}

theorem eq_of_about {q task' : NiTask} (h : q.about s = some task') : q = task' := by
  cases q with
  | idle => cases h
  | checking => cases h
  | saving | numbering | identifying | timing | spawning | freeing | clearing | waking =>
    rw [NiTask.about] at h
    split at h
    · exact Option.some.inj h
    · cases h

theorem Resting.vacant_of_unseated (h : w.Resting s)
    (hThreads : ∀ t, (w.threads t).seated s = false) : w.Vacant s := by
  cases h with
  | free h => exact h
  | pending k h | dropped k h | closing k h =>
    have hSeated := (h.alone k).mpr rfl
    rw [hThreads] at hSeated
    cases hSeated

theorem phase_request {delay : Int} {arrived : Nat} (hPhases : ∀ s, w.Phase s)
    (hTask : w.task = .idle) (hThreads : ∀ t, (w.threads t).seated s = false) :
    ({ w with task := .saving s w.arrived delay, arrived := arrived } : NiSystem).Phase s' := by
  by_cases hSame : s = s'
  · rw [← hSame]
    have hVacant := ((hPhases s).resting (by rw [hTask]; rfl)).vacant_of_unseated hThreads
    apply During.phase (q := .saving s w.arrived delay)
    · exact ⟨hVacant.threads, hVacant.raw, hVacant.recvd, hVacant.reqID, hVacant.calls⟩
    · exact if_pos rfl
  · refine (hPhases s').still
      ((task_still (q := .saving s w.arrived delay) ?_).congr rfl rfl rfl rfl)
    rw [hTask]
    exact if_neg hSame

theorem phase_checkRestart (hPhases : ∀ s, w.Phase s) (hTask : ∀ s, w.task.about s = none) :
    (w.checkRestart s).Phase s' := by
  unfold checkRestart
  split
  · rename_i hSome
    by_cases hSame : s = s'
    · rw [← hSame]
      apply During.phase (q := .freeing s)
      · cases (hPhases s).resting (hTask s) with
        | free h =>
          rw [h.raw] at hSome
          cases hSome
        | pending k h => exact ⟨k, h.alone, h.early, h.stored, h.reqID⟩
        | dropped k h | closing k h =>
          rw [h.stored] at hSome
          cases hSome
      · exact if_pos rfl
    · refine (hPhases s').still (task_still ?_)
      rw [hTask]
      exact if_neg hSame
  · refine (hPhases s').still (task_still ?_)
    rw [hTask]
    cases s with
    | session => rfl
    | sessionEs => rfl

theorem other_still {x : NiSession} {q : NiTask} (h : s' ≠ s)
    (hOld : w.task.about s' = none) (hNew : q.about s' = none) :
    Still w { w.setSession s x with task := q } s' :=
  (setSession_still h).trans (task_still (hNew.trans hOld.symm))

theorem answers_of_not_aimed (h : ¬ w.Aimed s) (c : Nat) : (w.calls c).answers s = none := by
  rw [← Option.not_isSome_iff_eq_none]
  intro hSome
  exact h ⟨c, .inl hSome⟩

theorem phase_saving {raw : Nat} {delay : Int} (hPhases : ∀ s, w.Phase s)
    (hTask : w.task = .saving s raw delay) :
    ({ w.setSession s { w.sessions s with rawRequest := some raw } with
      task := .numbering s raw delay } : NiSystem).Phase s' := by
  by_cases hSame : s' = s
  · rw [hSame]
    have hVacant : w.Vacant s := (hPhases s).during hTask (if_pos rfl)
    apply During.phase (q := .numbering s raw delay)
    · constructor
      · exact hVacant.threads
      · exact congrArg _ (w.setSession_same _)
      · exact (congrArg _ (w.setSession_same _)).trans hVacant.reqID
      · exact answers_of_not_aimed hVacant.calls
    · exact if_pos rfl
  · apply (hPhases s').still
    apply other_still hSame
    · rw [hTask]
      exact if_neg (Ne.symm hSame)
    · exact if_neg (Ne.symm hSame)

theorem phase_numbering {raw : Nat} {delay : Int} (hPhases : ∀ s, w.Phase s)
    (hTask : w.task = .numbering s raw delay) :
    ({ w.setSession s { w.sessions s with reqID := w.reqIDCounter + 1 } with
      reqIDCounter := w.reqIDCounter + 1
      task := .identifying s raw delay } : NiSystem).Phase s' := by
  by_cases hSame : s' = s
  · rw [hSame]
    have hNumbering : w.Numbering s raw := (hPhases s).during hTask (if_pos rfl)
    apply During.phase (q := .identifying s raw delay)
    · constructor
      · exact hNumbering.threads
      · exact (congrArg _ (w.setSession_same _)).trans hNumbering.stored
      · show 0 < ((w.setSession s _).sessions s).reqID
        rw [setSession_same]
        exact Nat.succ_pos _
    · exact if_pos rfl
  · apply (hPhases s').still
    refine (other_still (q := .identifying s raw delay) hSame ?_ ?_).congr rfl rfl rfl rfl
    · rw [hTask]
      exact if_neg (Ne.symm hSame)
    · exact if_neg (Ne.symm hSame)

theorem phase_identifying {raw : Nat} {delay : Int} {accepted : List NiRequest}
    (hPhases : ∀ s, w.Phase s) (hTask : w.task = .identifying s raw delay) :
    ({ w with accepted := accepted, task := .timing s raw delay } : NiSystem).Phase s' := by
  by_cases hSame : s' = s
  · rw [hSame]
    have hOpening : w.Opening s raw := (hPhases s).during hTask (if_pos rfl)
    apply During.phase (q := .timing s raw delay)
    · exact ⟨hOpening.threads, hOpening.stored, hOpening.reqID⟩
    · exact if_pos rfl
  · apply (hPhases s').still
    refine (task_still (q := .timing s raw delay) ?_).congr rfl rfl rfl rfl
    rw [hTask]
    exact (if_neg (Ne.symm hSame)).trans (if_neg (Ne.symm hSame)).symm

theorem phase_timing {raw : Nat} {delay : Int} (hPhases : ∀ s, w.Phase s)
    (hTask : w.task = .timing s raw delay) :
    ({ w.setSession s { w.sessions s with respTimeLeft := delay } with
      task := .spawning s raw } : NiSystem).Phase s' := by
  by_cases hSame : s' = s
  · rw [hSame]
    have hOpening : w.Opening s raw := (hPhases s).during hTask (if_pos rfl)
    apply During.phase (q := .spawning s raw)
    · constructor
      · exact hOpening.threads
      · exact (congrArg _ (w.setSession_same _)).trans hOpening.stored
      · show 0 < ((w.setSession s _).sessions s).reqID
        rw [setSession_same]
        exact hOpening.reqID
    · exact if_pos rfl
  · apply (hPhases s').still
    apply other_still hSame
    · rw [hTask]
      exact if_neg (Ne.symm hSame)
    · exact if_neg (Ne.symm hSame)

theorem phase_clearing (hPhases : ∀ s, w.Phase s) (hTask : w.task = .clearing s) :
    ({ w.setSession s { w.sessions s with rawRequest := none } with
      task := .waking s } : NiSystem).Phase s' := by
  by_cases hSame : s' = s
  · rw [hSame]
    obtain ⟨k, hPending⟩ : ∃ k, w.Pending s k :=
      (hPhases s).during hTask (if_pos rfl)
    apply During.phase (q := .waking s)
    · exact ⟨k, hPending.alone, hPending.early, congrArg _ (w.setSession_same _)⟩
    · exact if_pos rfl
  · apply (hPhases s').still
    apply other_still hSame
    · rw [hTask]
      exact if_neg (Ne.symm hSame)
    · exact if_neg (Ne.symm hSame)

theorem phase_freeing {freed restarted : List Nat} (hPhases : ∀ s, w.Phase s)
    (hTask : w.task = .freeing s) :
    ({ w with freed := freed, restarted := restarted, task := .clearing s } : NiSystem).Phase
      s' := by
  by_cases hSame : s' = s
  · rw [hSame]
    obtain ⟨k, hPending⟩ : ∃ k, w.Pending s k :=
      (hPhases s).during hTask (if_pos rfl)
    apply During.phase (q := .clearing s)
    · exact ⟨k, hPending.alone, hPending.early, hPending.stored, hPending.reqID⟩
    · exact if_pos rfl
  · apply (hPhases s').still
    refine (task_still (q := .clearing s) ?_).congr rfl rfl rfl rfl
    rw [hTask]
    exact (if_neg (Ne.symm hSame)).trans (if_neg (Ne.symm hSame)).symm

theorem phase_spawning {raw : Nat} (hPhases : ∀ s, w.Phase s) (hTask : w.task = .spawning s raw)
    (hAbsent : (w.threads raw).stage = .absent) :
    ({ w.setThread raw ⟨s, .starting⟩ with task := .idle } : NiSystem).Phase s' := by
  by_cases hSame : s' = s
  · rw [hSame]
    have hOpening : w.Opening s raw := (hPhases s).during hTask (if_pos rfl)
    apply Resting.phase
    · refine .pending raw ⟨?_, ?_, hOpening.stored, hOpening.reqID⟩
      · intro t
        by_cases hRaw : t = raw
        · rw [hRaw]
          refine iff_of_true ?_ rfl
          exact (congrArg (NiThread.seated · s) (w.setThread_same _)).trans (decide_eq_true rfl)
        · refine iff_of_false ?_ hRaw
          rw [show ({ w.setThread raw ⟨s, .starting⟩ with task := .idle } : NiSystem).threads t =
            w.threads t from w.setThread_of_ne _ hRaw, hOpening.threads t]
          exact Bool.noConfusion
      · exact (congrArg (NiThread.early · s) (w.setThread_same _)).trans (decide_eq_true rfl)
    · rfl
  · apply (hPhases s').still
    refine (setThread_still (t := raw) (y := ⟨s, .starting⟩) ?_ ?_).trans (task_still ?_)
    · rw [NiThread.seated, NiThread.seated, hAbsent]
      exact decide_eq_false (Ne.symm hSame)
    · rw [NiThread.early, NiThread.early, hAbsent]
      exact decide_eq_false (Ne.symm hSame)
    · refine Eq.symm (Eq.trans (congrArg (NiTask.about · s') hTask) ?_)
      exact if_neg (Ne.symm hSame)

theorem phase_waking (hPhases : ∀ s, w.Phase s) (hTask : w.task = .waking s)
    (h : (w.setSession s { w.sessions s with respRecvd := true }).signal s t = some w')
    {q : NiTask} (hNone : ∀ s, q.about s = none) :
    ({ w' with task := q } : NiSystem).Phase s' := by
  have hSignal := fun s' => signal_still (s := s') h
  by_cases hSame : s' = s
  · rw [hSame]
    obtain ⟨k, hDropped⟩ : ∃ k, w.Dropped s k := (hPhases s).during hTask (if_pos rfl)
    apply Resting.phase
    · have hSet : (w.setSession s { w.sessions s with respRecvd := true }).Dropped s k := by
        constructor
        · exact hDropped.alone
        · exact hDropped.early
        · exact (congrArg _ (w.setSession_same _)).trans hDropped.stored
      have hDropped' := (hSignal s).dropped hSet
      refine .dropped k ⟨hDropped'.alone, hDropped'.early, hDropped'.stored⟩ ?_
      exact (hSignal s).recvd.trans (congrArg _ (w.setSession_same _))
    · exact hNone s
  · apply (hPhases s').still
    refine ((setSession_still hSame).trans (hSignal s')).trans (task_still ?_)
    rw [(hSignal s').task, hNone]
    show none = w.task.about s'
    rw [hTask]
    exact (if_neg (Ne.symm hSame)).symm

/-- A session that a call is about to write to stays in its phase when something is stored. -/
theorem Unmoved.phase (h : Unmoved w w' s) (hPhase : w.Phase s) (hAimed : w.Aimed s)
    (hRecvd : (w'.sessions s).respRecvd = true) : w'.Phase s := by
  rw [Phase, h.task]
  cases hTask : w.task.about s with
  | none =>
    cases hPhase.resting hTask with
    | free hAt => exact absurd hAimed hAt.calls
    | pending k hAt => exact .pending k (h.pending hAt)
    | dropped k hAt => exact .dropped k (h.dropped hAt) hRecvd
    | closing k hAt => exact absurd hAimed hAt.calls
  | some task =>
    have hAt : w.During s task := by
      rw [Phase, hTask] at hPhase
      exact hPhase
    cases task with
    | idle | checking => exact hAt
    | saving => exact absurd hAimed hAt.calls
    | numbering => exact h.numbering hAt
    | identifying | timing | spawning => exact h.opening hAt
    | freeing | clearing => exact hAt.imp fun _ => h.pending
    | waking => exact hAt.imp fun _ => h.dropped

theorem store_unmoved {resp : GpsUserResponseType} (h : w.store s resp t = some w') :
    Unmoved w w' s ∧ (w'.sessions s).respRecvd = true := by
  have hSignal := signal_still (s := s) h
  have hSet : Unmoved w
      (w.setSession s { w.sessions s with resp := resp, respRecvd := true }) s := by
    constructor
    · rw [setSession_same]
    · rw [setSession_same]
    · rfl
    · exact fun _ => rfl
    · exact fun _ => rfl
    · exact fun _ => .inr rfl
    · exact fun _ => id
  constructor
  · constructor
    · exact hSignal.raw.trans hSet.raw
    · exact hSignal.reqID.trans hSet.reqID
    · exact hSignal.task
    · exact hSignal.seated
    · exact hSignal.early
    · exact hSignal.answers
    · exact hSignal.ignores
  · rw [hSignal.recvd, setSession_same]

theorem store_still {resp : GpsUserResponseType} (h : w.store s resp t = some w') (hNe : s' ≠ s) :
    Still w w' s' := (setSession_still hNe).trans (signal_still h)

theorem phase_store {resp : GpsUserResponseType} (hPhases : ∀ s, w.Phase s) (hAimed : w.Aimed s)
    (h : w.store s resp t = some w') : w'.Phase s' := by
  by_cases hSame : s' = s
  · rw [hSame]
    exact (store_unmoved h).1.phase (hPhases s) hAimed (store_unmoved h).2
  · exact (hPhases s').still (store_still h hSame)

theorem store_calls {resp : GpsUserResponseType} (h : w.store s resp t = some w') :
    w'.calls = w.calls := by
  rcases signal_cases h with rfl | ⟨_, _, _, _, rfl⟩
  · rfl
  · rfl

/-- A call that found a request in the session may aim at it, but not before it has its number. -/
theorem phase_setCall {l : NiCall} (hPhases : ∀ s, w.Phase s)
    (hStored : (w.sessions s).rawRequest.isSome = true)
    (hOther : ∀ s' ≠ s, l.answers s' = none ∨ l.answers s' = (w.calls c).answers s')
    (hIgnores : ∀ s' ≠ s, l.ignores s' = true → (w.calls c).ignores s' = true)
    (hNumbering : ∀ raw delay, w.task = .numbering s raw delay → l.answers s = none) :
    (w.setCall c l).Phase s' := by
  by_cases hSame : s' = s
  · rw [hSame, Phase]
    show (w.task.about s).elim _ _
    cases hTask : w.task.about s with
    | none =>
      cases (hPhases s).resting hTask with
      | free hAt =>
        rw [hAt.raw] at hStored
        cases hStored
      | pending k hAt => exact .pending k ⟨hAt.alone, hAt.early, hAt.stored, hAt.reqID⟩
      | dropped k hAt | closing k hAt =>
        rw [hAt.stored] at hStored
        cases hStored
    | some task =>
      have hEq := eq_of_about hTask
      have hAt : w.During s task := by
        have hPhase := hPhases s
        rw [Phase, hTask] at hPhase
        exact hPhase
      cases task with
      | idle | checking => exact hAt
      | saving =>
        rw [hAt.raw] at hStored
        cases hStored
      | numbering s'' raw delay =>
        have hSlot : s'' = s := by
          rw [hEq, NiTask.about] at hTask
          split at hTask
          · assumption
          · cases hTask
        refine ⟨hAt.threads, hAt.stored, hAt.reqID, fun c' => ?_⟩
        by_cases hCall : c' = c
        · rw [hCall, setCall_same]
          exact hNumbering raw delay (by rw [hEq, hSlot])
        · rw [setCall_of_ne _ _ hCall]
          exact hAt.calls c'
      | identifying | timing | spawning => exact ⟨hAt.threads, hAt.stored, hAt.reqID⟩
      | freeing | clearing =>
        exact hAt.imp fun _ hAt => ⟨hAt.alone, hAt.early, hAt.stored, hAt.reqID⟩
      | waking =>
        obtain ⟨k, hAt⟩ := hAt
        rw [hAt.stored] at hStored
        cases hStored
  · exact (hPhases s').still (setCall_still (hOther s' hSame) (hIgnores s' hSame))

theorem phase_respondEs {id : Int} {resp : GpsUserResponseType} {given : List NiResponse}
    (hPhases : ∀ s, w.Phase s) (hNamed : (w.named id .sessionEs).isSome = true)
    (hTask : ∀ raw delay, w.task ≠ .numbering .sessionEs raw delay) :
    ({ w.setCall c (.matchedEs id resp) with given := given } : NiSystem).Phase s' := by
  have hPhase : (w.setCall c (.matchedEs id resp)).Phase s' := by
    apply phase_setCall (s := .sessionEs) hPhases (named_isSome hNamed).2
    · intro s hNe
      cases s with
      | session => exact .inl rfl
      | sessionEs => exact absurd rfl hNe
    · intro s hNe hIgnores
      cases hIgnores
    · intro raw delay hNumbering
      exact absurd hNumbering (hTask raw delay)
  exact hPhase.still (Still.refl.congr rfl rfl rfl rfl)

theorem phase_compared {id : Int} {resp : GpsUserResponseType} (hPhases : ∀ s, w.Phase s)
    (hNamed : (w.named id .session).isSome = true)
    (hTask : ∀ raw delay, w.task ≠ .numbering .session raw delay) :
    (w.setCall c (.storing .session id resp)).Phase s' := by
  apply phase_setCall (s := .session) hPhases (named_isSome hNamed).2
  · intro s hNe
    exact .inl (if_neg (Ne.symm hNe))
  · intro s hNe hIgnores
    cases hIgnores
  · intro raw delay hNumbering
    exact absurd hNumbering (hTask raw delay)

theorem phase_overriding {id : Int} {resp : GpsUserResponseType} (hPhases : ∀ s, w.Phase s)
    (hCall : w.calls c = .matchedEs id resp)
    (hStored : (w.sessions .session).rawRequest.isSome = true) :
    (w.setCall c (.ignoring id resp)).Phase s' := by
  apply phase_setCall (s := .session) hPhases hStored
  · intro s hNe
    cases s with
    | session => exact absurd rfl hNe
    | sessionEs =>
      right
      rw [hCall]
      rfl
  · intro s hNe hIgnores
    cases s with
    | session => exact absurd rfl hNe
    | sessionEs => cases hIgnores
  · intro raw delay hNumbering
    rfl

theorem phase_matched {id : Int} {resp : GpsUserResponseType} (hPhases : ∀ s, w.Phase s)
    (hCall : w.calls c = .matchedEs id resp) :
    (w.setCall c (.storing .sessionEs id resp)).Phase s' := by
  apply (hPhases s').still
  apply setCall_still
  · cases s' with
    | session => exact .inl rfl
    | sessionEs =>
      right
      rw [hCall]
      rfl
  · exact Bool.noConfusion

theorem phase_ignored {id : Int} {resp : GpsUserResponseType} (hPhases : ∀ s, w.Phase s)
    (hCall : w.calls c = .ignoring id resp)
    (hStore : w.store .session gpsNiResponseIgnore t = some w') :
    (w'.setCall c (.storing .sessionEs id resp)).Phase s' := by
  have hAimed : w.Aimed .session := ⟨c, .inr (by rw [hCall]; rfl)⟩
  apply (phase_store hPhases hAimed hStore).still
  apply setCall_still
  · rw [store_calls hStore, hCall]
    cases s' with
    | session => exact .inl rfl
    | sessionEs => exact .inr rfl
  · exact Bool.noConfusion

theorem phase_stored {id : Int} {resp : GpsUserResponseType} (hPhases : ∀ s, w.Phase s)
    (hCall : w.calls c = .storing s id resp) (hStore : w.store s resp t = some w') :
    (w'.setCall c .idle).Phase s' := by
  have hAimed : w.Aimed s := ⟨c, .inl (by rw [hCall, NiCall.answers, if_pos rfl]; rfl)⟩
  apply (phase_store hPhases hAimed hStore).still
  exact setCall_still (.inl rfl) Bool.noConfusion

theorem phase_finish (hPhases : ∀ s, w.Phase s) (hEarly : (w.threads t).stage.early = true)
    (hSettled : w.Settled (w.threads t).slot) : (w.finish t).Phase s' := by
  rw [finish_eq]
  by_cases hSame : s' = (w.threads t).slot
  · have hSeated : (w.threads t).seated s' = true :=
      NiThread.seated_iff.mpr ⟨NiStage.seated_of_early hEarly, hSame.symm⟩
    have hAlone : w.Alone s' t := by
      cases (hPhases s').resting (by rw [hSame]; exact hSettled.2) with
      | free hAt =>
        rw [hAt.threads t] at hSeated
        cases hSeated
      | pending k hAt | dropped k hAt | closing k hAt =>
        rw [(hAt.alone t).mp hSeated]
        exact hAt.alone
    subst hSame
    apply Resting.phase
    · refine .closing t ⟨?_, ?_, ?_, ?_, hSettled.1⟩
      · intro t'
        by_cases hThread : t' = t
        · rw [hThread]
          refine iff_of_true ?_ rfl
          refine (congrArg (NiThread.seated · _) (setStage_same _ _)).trans ?_
          exact decide_eq_true rfl
        · rw [← hAlone t']
          exact iff_of_eq (congrArg (NiThread.seated · _ = true) (setStage_of_ne _ _ hThread))
      · exact congrArg (NiThread.early · _) (setStage_same _ _)
      · exact congrArg _ (w.setSession_same _)
      · exact congrArg _ (w.setSession_same _)
    · exact hSettled.2
  · apply (hPhases s').still
    refine ((setSession_still hSame).trans
      (setStage_still_of_ne (t := t) ?_)).congr rfl rfl rfl rfl
    exact Ne.symm hSame

theorem closing_of_late (hPhase : w.Phase s) (hSeated : (w.threads t).seated s = true)
    (hLate : (w.threads t).early s = false) : w.task.about s = none ∧ w.Closing s t := by
  cases hTask : w.task.about s with
  | none =>
    refine ⟨rfl, ?_⟩
    cases hPhase.resting hTask with
    | free hAt =>
      rw [hAt.threads t] at hSeated
      cases hSeated
    | pending k hAt | dropped k hAt =>
      rw [(hAt.alone t).mp hSeated, hAt.early] at hLate
      cases hLate
    | closing k hAt =>
      rw [(hAt.alone t).mp hSeated]
      exact hAt
  | some task =>
    rw [Phase, hTask] at hPhase
    cases task with
    | idle | checking => exact hPhase.elim
    | saving | numbering | identifying | timing | spawning =>
      rw [hPhase.threads t] at hSeated
      cases hSeated
    | freeing | clearing | waking =>
      obtain ⟨k, hAt⟩ := hPhase
      rw [(hAt.alone t).mp hSeated, hAt.early] at hLate
      cases hLate

theorem phase_unlocked {msg : Option NiMsg} (hPhases : ∀ s, w.Phase s)
    (hStage : (w.threads t).stage = .unlocked msg) :
    ((w.setSession (w.threads t).slot
      { w.sessions (w.threads t).slot with respTimeLeft := 0 }).setStage t (.clearing msg)).Phase
        s' := by
  apply (hPhases s').still
  have hSet : Still w (w.setSession (w.threads t).slot
      { w.sessions (w.threads t).slot with respTimeLeft := 0 }) s' := by
    by_cases hSame : s' = (w.threads t).slot
    · rw [hSame]
      constructor
      · constructor
        · rw [setSession_same]
        · rw [setSession_same]
        · rfl
        · exact fun _ => rfl
        · exact fun _ => rfl
        · exact fun _ => .inr rfl
        · exact fun _ => id
      · rw [setSession_same]
    · exact setSession_still hSame
  apply hSet.trans
  apply setStage_still
  · exact (congrArg NiStage.seated hStage).symm
  · exact (congrArg NiStage.early hStage).symm

theorem phase_closed {msg : Option NiMsg} (hPhases : ∀ s, w.Phase s)
    (hStage : (w.threads t).stage = .clearing msg) :
    ((w.setSession (w.threads t).slot
      { w.sessions (w.threads t).slot with reqID := 0 }).setStage t (.sending msg)).Phase s' := by
  by_cases hSame : s' = (w.threads t).slot
  · subst hSame
    obtain ⟨hTask, hClosing⟩ := closing_of_late (t := t) (hPhases (w.threads t).slot)
      (NiThread.seated_iff.mpr ⟨by rw [hStage]; rfl, rfl⟩) (by rw [NiThread.early, hStage]; rfl)
    apply Resting.phase
    · apply Resting.free
      constructor
      · intro t'
        by_cases hThread : t' = t
        · rw [hThread]
          exact congrArg (NiThread.seated · _) (setStage_same _ _)
        · have hOther : (w.threads t').seated (w.threads t).slot ≠ true :=
            fun hSeated => hThread ((hClosing.alone t').mp hSeated)
          rw [setStage_of_ne _ _ hThread]
          exact Bool.eq_false_iff.mpr hOther
      · exact (congrArg _ (w.setSession_same _)).trans hClosing.stored
      · exact (congrArg _ (w.setSession_same _)).trans hClosing.recvd
      · exact congrArg _ (w.setSession_same _)
      · exact hClosing.calls
    · exact hTask
  · exact (hPhases s').still
      ((setSession_still hSame).trans (setStage_still_of_ne (t := t) (Ne.symm hSame)))

theorem expire_same {delay : Int} : (w.expire t delay).sessions (w.threads t).slot =
    { w.sessions (w.threads t).slot with resp := gpsNiResponseNoresp } := setSession_same ..

theorem expire_still {delay : Int} : Still w (w.expire t delay) s := by
  by_cases hSame : s = (w.threads t).slot
  · rw [hSame]
    constructor
    · constructor
      · rw [expire_same]
      · rw [expire_same]
      · rfl
      · exact fun _ => rfl
      · exact fun _ => rfl
      · exact fun _ => .inr rfl
      · exact fun _ => id
    · rw [expire_same]
  · exact (setSession_still hSame).congr rfl rfl rfl rfl

theorem Move.phases (hPhases : ∀ s, w.Phase s)
    (hAbsent : ∀ s raw, w.task = .spawning s raw → (w.threads raw).stage = .absent)
    (h : w.Move w') : ∀ s, w'.Phase s := by
  intro s'
  cases h with
  | tick | refuse | proc => exact (hPhases s').still (Still.refl.congr rfl rfl rfl rfl)
  | accept s delay task threads => exact phase_request hPhases task threads
  | checkRestart s task =>
    apply phase_checkRestart hPhases
    rcases task with hTask | hTask
    · intro s
      rw [hTask]
      rfl
    · intro s
      rw [hTask]
      rfl
  | saving s raw delay task => exact phase_saving hPhases task
  | numbering s raw delay task => exact phase_numbering hPhases task
  | identifying s raw delay task => exact phase_identifying hPhases task
  | timing s raw delay task => exact phase_timing hPhases task
  | spawning s raw task => exact phase_spawning hPhases task (hAbsent s raw task)
  | freeing s task => exact phase_freeing (w := w) hPhases task
  | clearing s task => exact phase_clearing hPhases task
  | waking s w₁ task t hTask hSignal hIdle =>
    apply phase_waking hPhases hTask hSignal
    rcases hIdle with rfl | rfl
    · exact fun _ => rfl
    · exact fun _ => rfl
  | respondEs c id resp call named task => exact phase_respondEs hPhases named task
  | respond c id resp call named =>
    exact (hPhases s').still
      ((setCall_still (l := .comparing id resp) (.inl rfl) Bool.noConfusion).congr
        rfl rfl rfl rfl)
  | compared c id resp call named task => exact phase_compared hPhases named task
  | missed c id resp call named =>
    exact (hPhases s').still (setCall_still (.inl rfl) Bool.noConfusion)
  | overriding c id resp call stored => exact phase_overriding hPhases call stored
  | matched c id resp call => exact phase_matched hPhases call
  | ignored c id resp t w₁ call store => exact phase_ignored hPhases call store
  | stored c s id resp t w₁ call store => exact phase_stored hPhases call store
  | sleep t start delay early =>
    apply (hPhases s').still
    apply setStage_still
    · exact (NiStage.seated_of_early early).symm
    · exact early.symm
  | finish t early recvd settled => exact phase_finish hPhases early settled
  | expire t start delay signalled stage settled =>
    apply phase_finish (fun s => (hPhases s).still expire_still)
    · show (w.threads t).stage.early = true
      rw [stage]
      rfl
    · exact ⟨fun hAimed => settled.1 (expire_still.aimed hAimed), settled.2⟩
  | unlocked t msg stage => exact phase_unlocked hPhases stage
  | closed t msg stage => exact phase_closed hPhases stage
  | sent t msg stage =>
    apply (hPhases s').still
    refine (setStage_still (t := t) (p := .done) ?_ ?_).congr rfl rfl rfl rfl
    · rw [stage]
      rfl
    · rw [stage]
      rfl

end KiwiDevice.Gps.NiSystem

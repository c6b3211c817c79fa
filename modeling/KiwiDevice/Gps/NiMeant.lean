import KiwiDevice.Gps.NiMeaning

/-!
# Every move keeps the meaning of the sessions

First the moves of the message task, then those of the calls of `loc_eng_ni_respond`, then those of
the threads of the requests.
-/

namespace KiwiDevice.Gps.NiSystem

variable {w w' : NiSystem} {s s' : NiSlot} {k t c raw : Nat} {n delay : Int}
  {resp : GpsUserResponseType}

theorem Alike.refl : Alike w w s k where
  session := rfl
  given := rfl
  accepted := rfl
  starting := id
  waiting start _ signalled h := ⟨start, signalled, h⟩
  timing _ := id
  spawning := id
  unrecorded := id

theorem Alike.of_task (hSession : w'.sessions s = w.sessions s) (hGiven : w'.given = w.given)
    (hAccepted : w'.accepted = w.accepted) (hThreads : w'.threads = w.threads)
    (hTiming : ∀ delay, w'.task ≠ .timing s k delay) (hSpawning : w'.task ≠ .spawning s k)
    (hUnrecorded : w'.task.unrecorded ≠ some k → w.task.unrecorded ≠ some k) :
    Alike w w' s k where
  session := hSession
  given := hGiven
  accepted := hAccepted
  starting h := by rwa [hThreads] at h
  waiting start _ signalled h := ⟨start, signalled, by rwa [hThreads] at h⟩
  timing delay h := absurd h (hTiming delay)
  spawning h := absurd h hSpawning
  unrecorded := hUnrecorded

theorem meaningful_checkRestart (h : w.Meaningful) (hTask : w.task = .idle ∨ w.task = .checking) :
    (w.checkRestart s).Meaningful := by
  have hNone : ∀ k, w.task.unrecorded ≠ some k := by
    intro k hEq
    rcases hTask with hTask | hTask
    · rw [hTask] at hEq
      cases hEq
    · rw [hTask] at hEq
      cases hEq
  unfold checkRestart
  split
  · intro s' k hRaw
    refine Alike.meant_of_calls ?_ (h s' k hRaw) ?_
    · exact .of_task rfl rfl rfl rfl nofun nofun fun _ => hNone k
    · rfl
  · intro s' k hRaw
    refine Alike.meant_of_calls ?_ (h s' k hRaw) ?_
    · cases s with
      | session | sessionEs => exact .of_task rfl rfl rfl rfl nofun nofun fun _ => hNone k
    · rfl

theorem meaningful_saving (hPhases : ∀ s, w.Phase s) (hKnown : w.Known) (h : w.Meaningful)
    (hTask : w.task = .saving s raw delay) :
    ({ w.setSession s { w.sessions s with rawRequest := some raw } with
      task := .numbering s raw delay } : NiSystem).Meaningful := by
  have hVacant : w.Vacant s := (hPhases s).during hTask (if_pos rfl)
  have hUnstored : w.task.unstored = some raw := by
    rw [hTask]
    rfl
  have hSet := w.setSession_same (s := s) { w.sessions s with rawRequest := some raw }
  intro s' k hRaw
  by_cases hSame : s' = s
  · subst hSame
    have hk : some raw = some k := (congrArg NiSession.rawRequest hSet).symm.trans hRaw
    cases hk
    have hReqID : ((w.setSession s' { w.sessions s' with
        rawRequest := some raw }).sessions s').reqID = 0 := by
      rw [hSet]
      exact hVacant.reqID
    constructor
    · intro _ c n resp _ _ hPos
      exact absurd (Nat.lt_of_lt_of_eq hPos hReqID) (Nat.lt_irrefl 0)
    · intro c n resp hCall
      exact nomatch (answers_of_not_aimed hVacant.calls c).symm.trans hCall
    · intro hRecvd
      have hOld := (congrArg NiSession.respRecvd hSet).symm.trans hRecvd
      exact Bool.noConfusion (hVacant.recvd.symm.trans hOld)
    · exact fun g hg hNamed => absurd hUnstored (hKnown.named g hg s' raw hNamed).2
    · intro hPos
      exact absurd (Nat.lt_of_lt_of_eq hPos hReqID) (Nat.lt_irrefl 0)
    · intro req hReq hSame
      refine absurd ?_ (hKnown.accepted req hReq).2
      rw [hTask, hSame]
      rfl
    · exact fun hTask => absurd rfl hTask
  · have hSession := w.setSession_of_ne { w.sessions s with rawRequest := some raw } hSame
    refine Alike.meant_of_calls ?_ (h s' k ?_) ?_
    · refine .of_task hSession rfl rfl rfl nofun nofun ?_
      rw [hTask]
      exact id
    · rw [← hSession]
      exact hRaw
    · rfl

theorem meaningful_numbering (hPhases : ∀ s, w.Phase s) (hKnown : w.Known) (h : w.Meaningful)
    (hTask : w.task = .numbering s raw delay)
    (hCalls : ∀ c resp, w.calls c ≠ .comparing (w.reqIDCounter + 1 : Nat) resp) :
    ({ w.setSession s { w.sessions s with reqID := w.reqIDCounter + 1 } with
      reqIDCounter := w.reqIDCounter + 1
      task := .identifying s raw delay } : NiSystem).Meaningful := by
  have hNumbering : w.Numbering s raw := (hPhases s).during hTask (if_pos rfl)
  have hSet := w.setSession_same (s := s) { w.sessions s with reqID := w.reqIDCounter + 1 }
  intro s' k hRaw
  by_cases hSame : s' = s
  · subst hSame
    have hk : some raw = some k :=
      (hNumbering.stored.symm.trans (congrArg NiSession.rawRequest hSet).symm).trans hRaw
    cases hk
    have hMeant := h s' raw hNumbering.stored
    have hReqID : ((w.setSession s' { w.sessions s' with
        reqID := w.reqIDCounter + 1 }).sessions s').reqID = w.reqIDCounter + 1 := by
      rw [hSet]
    have hOld : ∀ g ∈ w.given, g.named s' = some raw → g.id = 0 := by
      intro g hg hNamed
      rcases hMeant.named g hg hNamed with hZero | hId
      · exact hZero
      · rw [hId, hNumbering.reqID]
        rfl
    constructor
    · intro _ c n resp hCall hId _
      have hNew : n = (w.reqIDCounter + 1 : Nat) := hId.trans (congrArg _ hReqID)
      rw [hNew] at hCall
      exact absurd hCall (hCalls c resp)
    · intro c n resp hCall
      exact nomatch (hNumbering.calls c).symm.trans hCall
    · intro hRecvd
      left
      refine (congrArg NiSession.resp hSet).trans ?_
      rcases hMeant.recvd ((congrArg NiSession.respRecvd hSet).symm.trans hRecvd) with
        hIgnore | hGiven
      · exact hIgnore
      · rw [hNumbering.reqID] at hGiven
        cases hGiven.1
    · exact fun g hg hNamed => .inl (hOld g hg hNamed)
    · intro _ g hg hNamed hId
      have hNew := (hOld g hg hNamed).symm.trans (hId.trans (congrArg _ hReqID))
      omega
    · intro req hReq hSame
      refine absurd ?_ (hKnown.accepted req hReq).2
      rw [hTask, hSame]
      rfl
    · exact fun hTask => absurd rfl hTask
  · have hSession := w.setSession_of_ne { w.sessions s with reqID := w.reqIDCounter + 1 } hSame
    refine Alike.meant_of_calls ?_ (h s' k ?_) ?_
    · refine .of_task hSession rfl rfl rfl nofun nofun ?_
      rw [hTask]
      exact id
    · rw [← hSession]
      exact hRaw
    · rfl

theorem ne_of_other (hPhases : ∀ s, w.Phase s) (hKnown : w.Known) (hTask : w.task.raw = some raw)
    (hAbout : w.task.about s' = none) (hRaw : (w.sessions s').rawRequest = some k) : k ≠ raw :=
  ne_of_raw hKnown (early_of_stored (hPhases s') hAbout hRaw) hTask

theorem meaningful_identifying (hPhases : ∀ s, w.Phase s) (hKnown : w.Known) (h : w.Meaningful)
    (hTask : w.task = .identifying s raw delay) :
    ({ w with
      accepted := w.accepted ++ [⟨raw, s, (w.sessions s).reqID, delay⟩]
      task := .timing s raw delay } : NiSystem).Meaningful := by
  have hOpening : w.Opening s raw := (hPhases s).during hTask (if_pos rfl)
  have hRawTask : w.task.raw = some raw := by
    rw [hTask]
    rfl
  have hAbsent := (hKnown.raw raw hRawTask).2
  intro s' k hRaw
  have hMeant := h s' k hRaw
  by_cases hSame : s' = s
  · subst hSame
    have hk : some raw = some k := hOpening.stored.symm.trans hRaw
    cases hk
    refine ⟨hMeant.comparing, hMeant.answers, hMeant.recvd, hMeant.named, hMeant.heard, ?_, ?_⟩
    · intro req hReq hRawReq
      rcases List.mem_append.mp hReq with hOld | hNew
      · refine absurd ?_ (hKnown.accepted req hOld).2
        rw [hTask, hRawReq]
        rfl
      · rw [List.mem_singleton.mp hNew]
        refine ⟨rfl, rfl, ?_, ?_, ?_, nofun⟩
        · exact fun hStage => nomatch hAbsent.symm.trans hStage
        · exact fun start delay' signalled hStage => nomatch hAbsent.symm.trans hStage
        · intro delay' hTiming
          cases hTiming
          rfl
    · exact fun _ => ⟨_, List.mem_append_right _ (List.mem_singleton_self _), rfl⟩
  · have hNone : w.task.about s' = none := by
      rw [hTask]
      exact if_neg (Ne.symm hSame)
    have hNe := ne_of_other hPhases hKnown hRawTask hNone hRaw
    refine ⟨hMeant.comparing, hMeant.answers, hMeant.recvd, hMeant.named, hMeant.heard, ?_, ?_⟩
    · intro req hReq hRawReq
      rcases List.mem_append.mp hReq with hOld | hNew
      · obtain ⟨hSlot, hId, hTimed⟩ := hMeant.record req hOld hRawReq
        refine ⟨hSlot, hId, hTimed.starting, hTimed.waiting, ?_, nofun⟩
        intro delay' hTiming
        cases hTiming
        exact absurd rfl hSame
      · rw [List.mem_singleton.mp hNew] at hRawReq
        exact absurd hRawReq.symm hNe
    · intro _
      obtain ⟨req, hReq, hRawReq⟩ := hMeant.recorded (by
        rw [hTask]
        exact fun hEq => hNe (Option.some.inj hEq).symm)
      exact ⟨req, List.mem_append_left _ hReq, hRawReq⟩

theorem meaningful_timing (hPhases : ∀ s, w.Phase s) (hKnown : w.Known) (h : w.Meaningful)
    (hTask : w.task = .timing s raw delay) :
    ({ w.setSession s { w.sessions s with respTimeLeft := delay } with
      task := .spawning s raw } : NiSystem).Meaningful := by
  have hOpening : w.Opening s raw := (hPhases s).during hTask (if_pos rfl)
  have hRawTask : w.task.raw = some raw := by
    rw [hTask]
    rfl
  have hAbsent := (hKnown.raw raw hRawTask).2
  have hSet := w.setSession_same (s := s) { w.sessions s with respTimeLeft := delay }
  intro s' k hRaw
  by_cases hSame : s' = s
  · subst hSame
    have hk : some raw = some k :=
      (hOpening.stored.symm.trans (congrArg NiSession.rawRequest hSet).symm).trans hRaw
    cases hk
    have hMeant := h s' raw hOpening.stored
    have hReqID := congrArg NiSession.reqID hSet
    have hRecvd := congrArg NiSession.respRecvd hSet
    have hResp := congrArg NiSession.resp hSet
    constructor
    · intro hSlot c n resp hCall hId hPos
      exact hMeant.comparing hSlot c n resp hCall (hId.trans (congrArg _ hReqID))
        (Nat.lt_of_lt_of_eq hPos hReqID)
    · intro c n resp hCall
      obtain ⟨hGiven, hId⟩ := hMeant.answers c n resp hCall
      exact ⟨hGiven, hId.trans (congrArg _ hReqID.symm)⟩
    · intro hSome
      rcases hMeant.recvd (hRecvd.symm.trans hSome) with hIgnore | ⟨hPos, g, hg, hId, hGiven, hNamed⟩
      · exact .inl (hResp.trans hIgnore)
      · exact .inr ⟨Nat.lt_of_lt_of_eq hPos hReqID.symm, g, hg, hId.trans (congrArg _ hReqID.symm),
          hGiven.trans hResp.symm, hNamed⟩
    · intro g hg hNamed
      rcases hMeant.named g hg hNamed with hZero | hId
      · exact .inl hZero
      · exact .inr (hId.trans (congrArg _ hReqID.symm))
    · intro hPos g hg hNamed hId
      rcases hMeant.heard (Nat.lt_of_lt_of_eq hPos hReqID) g hg hNamed
          (hId.trans (congrArg _ hReqID)) with hSome | hCall | ⟨hSlot, c, resp, hCall⟩
      · exact .inl (hRecvd.trans hSome)
      · exact .inr (.inl hCall)
      · refine .inr (.inr ⟨hSlot, c, resp, hCall.trans ?_⟩)
        exact congrArg (NiCall.comparing · resp) (congrArg _ hReqID.symm)
    · intro req hReq hRawReq
      obtain ⟨hSlot, hId, hTimed⟩ := hMeant.record req hReq hRawReq
      refine ⟨hSlot, hId.trans (congrArg _ hReqID.symm), ?_, ?_, nofun, ?_⟩
      · exact fun hStage => nomatch hAbsent.symm.trans hStage
      · exact fun start delay' signalled hStage => nomatch hAbsent.symm.trans hStage
      · exact fun _ => (congrArg NiSession.respTimeLeft hSet).trans (hTimed.timing delay hTask)
    · intro _
      apply hMeant.recorded
      rw [hTask]
      exact nofun
  · have hSession := w.setSession_of_ne { w.sessions s with respTimeLeft := delay } hSame
    refine Alike.meant_of_calls ?_ (h s' k ?_) ?_
    · refine .of_task hSession rfl rfl rfl nofun ?_ ?_
      · intro hSpawning
        cases hSpawning
        exact absurd rfl hSame
      · intro _
        rw [hTask]
        exact nofun
    · rw [← hSession]
      exact hRaw
    · rfl

theorem meaningful_spawning (hPhases : ∀ s, w.Phase s) (hKnown : w.Known) (h : w.Meaningful)
    (hTask : w.task = .spawning s raw) :
    ({ w.setThread raw ⟨s, .starting⟩ with task := .idle } : NiSystem).Meaningful := by
  have hOpening : w.Opening s raw := (hPhases s).during hTask (if_pos rfl)
  have hRawTask : w.task.raw = some raw := by
    rw [hTask]
    rfl
  have hThread := w.setThread_same (t := raw) ⟨s, .starting⟩
  intro s' k hRaw
  have hMeant := h s' k hRaw
  have hRecorded : w.task.unrecorded ≠ some k := by
    rw [hTask]
    exact nofun
  by_cases hSame : s' = s
  · subst hSame
    have hk : some raw = some k := hOpening.stored.symm.trans hRaw
    cases hk
    refine ⟨hMeant.comparing, hMeant.answers, hMeant.recvd, hMeant.named, hMeant.heard, ?_,
      fun _ => hMeant.recorded hRecorded⟩
    intro req hReq hRawReq
    obtain ⟨hSlot, hId, hTimed⟩ := hMeant.record req hReq hRawReq
    refine ⟨hSlot, hId, fun _ => hTimed.spawning hTask, ?_, nofun, nofun⟩
    intro start delay' signalled hStage
    exact nomatch (congrArg NiThread.stage hThread).symm.trans hStage
  · have hNone : w.task.about s' = none := by
      rw [hTask]
      exact if_neg (Ne.symm hSame)
    have hNe := ne_of_other hPhases hKnown hRawTask hNone hRaw
    have hOther := congrArg NiThread.stage (w.setThread_of_ne ⟨s, .starting⟩ hNe)
    refine Alike.meant_of_calls ?_ hMeant ?_
    · exact ⟨rfl, rfl, rfl, fun hStage => hOther.symm.trans hStage,
        fun start delay' signalled hStage => ⟨start, signalled, hOther.symm.trans hStage⟩,
        nofun, nofun, fun _ => hRecorded⟩
    · rfl

theorem meaningful_freeing (h : w.Meaningful) (hTask : w.task = .freeing s) :
    ({ w.free (w.sessions s).rawRequest with
      restarted := w.restarted ++ (w.sessions s).rawRequest.toList
      task := .clearing s } : NiSystem).Meaningful := by
  intro s' k hRaw
  refine Alike.meant_of_calls ?_ (h s' k hRaw) ?_
  · refine .of_task rfl rfl rfl rfl nofun nofun fun _ => ?_
    rw [hTask]
    exact nofun
  · rfl

theorem meaningful_clearing (h : w.Meaningful) (hTask : w.task = .clearing s) :
    ({ w.setSession s { w.sessions s with rawRequest := none } with
      task := .waking s } : NiSystem).Meaningful := by
  intro s' k hRaw
  by_cases hSame : s' = s
  · subst hSame
    have hSet := w.setSession_same (s := s') { w.sessions s' with rawRequest := none }
    exact nomatch (congrArg NiSession.rawRequest hSet).symm.trans hRaw
  · have hSession := w.setSession_of_ne { w.sessions s with rawRequest := none } hSame
    refine Alike.meant_of_calls ?_ (h s' k ?_) ?_
    · refine .of_task hSession rfl rfl rfl nofun nofun fun _ => ?_
      rw [hTask]
      exact nofun
    · rw [← hSession]
      exact hRaw
    · rfl

theorem signal_alike (h : w.signal s' t = some w') : Alike w w' s k := by
  rcases signal_cases h with rfl | ⟨start, delay, signalled, hStage, rfl⟩
  · exact .refl
  · by_cases hSame : k = t
    · subst hSame
      have hSet := congrArg NiThread.stage (w.setStage_same (t := k) (.waiting start delay true))
      refine ⟨rfl, rfl, rfl, ?_, ?_, fun _ => id, id, id⟩
      · exact fun hStarting => nomatch hSet.symm.trans hStarting
      · intro start' delay' signalled' hWaiting
        cases hSet.symm.trans hWaiting
        exact ⟨start, signalled, hStage⟩
    · have hSet := congrArg NiThread.stage (w.setStage_of_ne (.waiting start delay true) hSame)
      exact ⟨rfl, rfl, rfl, fun hStarting => hSet.symm.trans hStarting,
        fun start' delay' signalled' hWaiting => ⟨start', signalled', hSet.symm.trans hWaiting⟩,
        fun _ => id, id, id⟩

theorem Alike.trans {w'' : NiSystem} (h : Alike w w' s k) (h' : Alike w' w'' s k) :
    Alike w w'' s k where
  session := h'.session.trans h.session
  given := h'.given.trans h.given
  accepted := h'.accepted.trans h.accepted
  starting hStage := h.starting (h'.starting hStage)
  waiting start delay signalled hStage := by
    obtain ⟨start', signalled', hOld⟩ := h'.waiting start delay signalled hStage
    exact h.waiting start' delay signalled' hOld
  timing delay hTask := h.timing delay (h'.timing delay hTask)
  spawning hTask := h.spawning (h'.spawning hTask)
  unrecorded hTask := h.unrecorded (h'.unrecorded hTask)

theorem setSession_alike (session : NiSession) (h : s' ≠ s) :
    Alike w (w.setSession s session) s' k where
  session := setSession_of_ne _ _ h
  given := rfl
  accepted := rfl
  starting := id
  waiting start _ signalled h := ⟨start, signalled, h⟩
  timing _ := id
  spawning := id
  unrecorded := id

theorem signal_calls (h : w.signal s t = some w') : w'.calls = w.calls ∧ w'.task = w.task := by
  rcases signal_cases h with rfl | ⟨_, _, _, _, rfl⟩
  · exact ⟨rfl, rfl⟩
  · exact ⟨rfl, rfl⟩

theorem meaningful_waking {q : NiTask} (hPhases : ∀ s, w.Phase s) (h : w.Meaningful)
    (hTask : w.task = .waking s)
    (hSignal : (w.setSession s { w.sessions s with respRecvd := true }).signal s t = some w')
    (hIdle : q = .idle ∨ q = .checking) :
    ({ w' with task := q } : NiSystem).Meaningful := by
  obtain ⟨k', hDropped⟩ : ∃ k, w.Dropped s k := (hPhases s).during hTask (if_pos rfl)
  intro s' k hRaw
  have hSignalled := signal_alike (s := s') (k := k) hSignal
  by_cases hSame : s' = s
  · subst hSame
    have hSet := w.setSession_same (s := s') { w.sessions s' with respRecvd := true }
    have hNone := (congrArg NiSession.rawRequest (hSignalled.session.trans hSet)).trans
      hDropped.stored
    exact nomatch hNone.symm.trans hRaw
  · have hBoth := (setSession_alike { w.sessions s with respRecvd := true } hSame).trans hSignalled
    refine Alike.meant_of_calls (hBoth.trans ?_) (h s' k ?_) ?_
    · have hOld : w'.task.unrecorded ≠ some k := by
        rw [(signal_calls hSignal).2]
        show w.task.unrecorded ≠ some k
        rw [hTask]
        exact nofun
      rcases hIdle with rfl | rfl
      · exact .of_task rfl rfl rfl rfl nofun nofun fun _ => hOld
      · exact .of_task rfl rfl rfl rfl nofun nofun fun _ => hOld
    · rw [← hBoth.session]
      exact hRaw
    · exact (signal_calls hSignal).1

theorem OnItsWay.of_idle {l : NiCall} (h : w.OnItsWay s) (hCall : w.calls c = .idle) :
    (w.setCall c l).OnItsWay s := by
  have hOther : ∀ c', w.calls c' ≠ .idle → (w.setCall c l).calls c' = w.calls c' := by
    intro c' hBusy
    apply setCall_of_ne
    rintro rfl
    exact hBusy hCall
  rcases h with hRecvd | ⟨c', hAnswers⟩ | ⟨hSlot, c', resp, hComparing⟩
  · exact .inl hRecvd
  · refine .inr (.inl ⟨c', ?_⟩)
    rw [hOther c' fun hIdle => by rw [hIdle] at hAnswers; cases hAnswers]
    exact hAnswers
  · refine .inr (.inr ⟨hSlot, c', resp, ?_⟩)
    rw [hOther c' fun hIdle => by rw [hIdle] at hComparing; cases hComparing]
    exact hComparing

theorem meant_respond {l : NiCall} (hKnown : w.Known) (hMeant : w.Meant s k)
    (hRaw : (w.sessions s).rawRequest = some k) (hIdle : w.calls c = .idle)
    (hCall : l = .matchedEs n resp ∧ (w.named n .sessionEs).isSome = true ∨
      l = .comparing n resp ∧ w.named n .sessionEs = none) :
    ({ w.setCall c l with given := w.given ++ [⟨n, resp, w.named n⟩] } : NiSystem).Meant s k := by
  have hOld : ∀ {n' resp'}, w.Given n' resp' s k →
      ({ w.setCall c l with given := w.given ++ [⟨n, resp, w.named n⟩] } : NiSystem).Given
        n' resp' s k := by
    rintro n' resp' ⟨g, hg, hGiven⟩
    exact ⟨g, List.mem_append_left _ hg, hGiven⟩
  have hNew : n = (w.sessions s).reqID →
      ({ w.setCall c l with given := w.given ++ [⟨n, resp, w.named n⟩] } : NiSystem).Given
        n resp s k := by
    intro hId
    exact ⟨⟨n, resp, w.named n⟩, List.mem_append_right _ (List.mem_singleton_self _), rfl, rfl,
      (if_pos hId).trans hRaw⟩
  have hOther : ∀ {c'}, c' ≠ c → (w.setCall c l).calls c' = w.calls c' := setCall_of_ne _ _
  constructor
  · intro hSlot c' n' resp' hComparing hId hPos
    by_cases hSame : c' = c
    · subst hSame
      have hEq : l = .comparing n' resp' := (w.setCall_same l).symm.trans hComparing
      rcases hCall with ⟨rfl, _⟩ | ⟨rfl, _⟩
      · cases hEq
      · cases hEq
        exact hNew hId
    · exact hOld (hMeant.comparing hSlot c' n' resp' ((hOther hSame).symm.trans hComparing) hId hPos)
  · intro c' n' resp' hAnswers
    by_cases hSame : c' = c
    · subst hSame
      have hEq : l.answers s = some (n', resp') :=
        (congrArg (NiCall.answers · s) (w.setCall_same l)).symm.trans hAnswers
      rcases hCall with ⟨rfl, hNamed⟩ | ⟨rfl, _⟩
      · cases s with
        | session => cases hEq
        | sessionEs =>
          cases hEq
          have hId := (named_isSome hNamed).1
          exact ⟨hNew hId, hId⟩
      · cases s with
        | session | sessionEs => cases hEq
    · have hEq := (congrArg (NiCall.answers · s) (hOther hSame)).symm.trans hAnswers
      obtain ⟨hGiven, hId⟩ := hMeant.answers c' n' resp' hEq
      exact ⟨hOld hGiven, hId⟩
  · intro hRecvd
    exact (hMeant.recvd hRecvd).imp_right fun hGiven => ⟨hGiven.1, hOld hGiven.2⟩
  · intro g hg hNamed
    rcases List.mem_append.mp hg with hg | hg
    · exact hMeant.named g hg hNamed
    · rw [List.mem_singleton.mp hg] at hNamed ⊢
      exact .inr (named_eq_some hNamed).1
  · intro hPos g hg hNamed hId
    rcases List.mem_append.mp hg with hg | hg
    · exact (hMeant.heard hPos g hg hNamed hId).of_idle hIdle
    · rw [List.mem_singleton.mp hg] at hNamed hId
      rcases hCall with ⟨rfl, hEs⟩ | ⟨rfl, hEs⟩
      · cases s with
        | session =>
          have hBoth : ((w.sessions .session).reqID : Int) = (w.sessions .sessionEs).reqID :=
            (named_eq_some hNamed).1.symm.trans (named_isSome hEs).1
          exact absurd (Int.ofNat.inj hBoth) (hKnown.distinct hPos)
        | sessionEs =>
          refine .inr (.inl ⟨c, ?_⟩)
          exact congrArg (fun l => (NiCall.answers l .sessionEs).isSome) (w.setCall_same _)
      · cases s with
        | session =>
          refine .inr (.inr ⟨rfl, c, resp, (w.setCall_same _).trans ?_⟩)
          exact congrArg (NiCall.comparing · resp) hId
        | sessionEs => exact nomatch hEs.symm.trans hNamed
  · intro req hReq hRawReq
    obtain ⟨hSlot, hId, hTimed⟩ := hMeant.record req hReq hRawReq
    exact ⟨hSlot, hId, hTimed.starting, hTimed.waiting, hTimed.timing, hTimed.spawning⟩
  · exact hMeant.recorded

theorem Meant.setCall {l : NiCall} (hMeant : w.Meant s k)
    (hComparing : ∀ n resp, l ≠ .comparing n resp)
    (hAnswers : ∀ n resp, l.answers s = some (n, resp) →
      w.Given n resp s k ∧ n = (w.sessions s).reqID)
    (hKept : ((w.calls c).answers s).isSome = true → (l.answers s).isSome = true)
    (hFound : s = .session → ∀ resp, w.calls c = .comparing (w.sessions s).reqID resp →
      (l.answers s).isSome = true) :
    (w.setCall c l).Meant s k := by
  have hOther : ∀ {c'}, c' ≠ c → (w.setCall c l).calls c' = w.calls c' := setCall_of_ne _ _
  constructor
  · intro hSlot c' n resp hCall hId hPos
    by_cases hSame : c' = c
    · subst hSame
      exact absurd ((w.setCall_same l).symm.trans hCall) (hComparing n resp)
    · exact hMeant.comparing hSlot c' n resp ((hOther hSame).symm.trans hCall) hId hPos
  · intro c' n resp hCall
    by_cases hSame : c' = c
    · subst hSame
      exact hAnswers n resp ((congrArg (NiCall.answers · s) (w.setCall_same l)).symm.trans hCall)
    · exact hMeant.answers c' n resp
        ((congrArg (NiCall.answers · s) (hOther hSame)).symm.trans hCall)
  · exact hMeant.recvd
  · exact hMeant.named
  · intro hPos g hg hNamed hId
    rcases hMeant.heard hPos g hg hNamed hId with hRecvd | ⟨c', hCall⟩ | ⟨hSlot, c', resp, hCall⟩
    · exact .inl hRecvd
    · refine .inr (.inl ⟨c', ?_⟩)
      by_cases hSame : c' = c
      · subst hSame
        rw [setCall_same]
        exact hKept hCall
      · rw [hOther hSame]
        exact hCall
    · by_cases hSame : c' = c
      · subst hSame
        refine .inr (.inl ⟨c', ?_⟩)
        rw [setCall_same]
        exact hFound hSlot resp hCall
      · refine .inr (.inr ⟨hSlot, c', resp, ?_⟩)
        rw [hOther hSame]
        exact hCall
  · intro req hReq hRawReq
    obtain ⟨hSlot, hId, hTimed⟩ := hMeant.record req hReq hRawReq
    exact ⟨hSlot, hId, hTimed.starting, hTimed.waiting, hTimed.timing, hTimed.spawning⟩
  · exact hMeant.recorded

theorem meant_compared (hPhase : w.Phase .session) (hMeant : w.Meant s k)
    (hRaw : (w.sessions s).rawRequest = some k) (hCall : w.calls c = .comparing n resp)
    (hNamed : (w.named n .session).isSome = true)
    (hTask : ∀ raw delay, w.task ≠ .numbering .session raw delay) :
    (w.setCall c (.storing .session n resp)).Meant s k := by
  apply hMeant.setCall
  · exact nofun
  · intro n' resp' hAnswers
    cases s with
    | session =>
      cases hAnswers
      have hId := (named_isSome hNamed).1
      exact ⟨hMeant.comparing rfl c n resp hCall hId (numbered hPhase hRaw hTask), hId⟩
    | sessionEs => cases hAnswers
  · intro hSome
    rw [hCall] at hSome
    cases s with
    | session | sessionEs => cases hSome
  · rintro rfl _ _
    rfl

theorem meant_missed (hMeant : w.Meant s k) (hRaw : (w.sessions s).rawRequest = some k)
    (hCall : w.calls c = .comparing n resp) (hNamed : w.named n .session = none) :
    (w.setCall c .idle).Meant s k := by
  apply hMeant.setCall
  · exact nofun
  · exact nofun
  · intro hSome
    rw [hCall] at hSome
    cases s with
    | session | sessionEs => cases hSome
  · rintro rfl resp' hCall'
    rw [hCall] at hCall'
    cases hCall'
    rw [named, if_pos rfl, hRaw] at hNamed
    cases hNamed

theorem meant_matched {l : NiCall} (hMeant : w.Meant s k)
    (hCall : w.calls c = .matchedEs n resp)
    (hNext : l = .ignoring n resp ∨ l = .storing .sessionEs n resp) :
    (w.setCall c l).Meant s k := by
  have hAnswers : l.answers s = (w.calls c).answers s := by
    rw [hCall]
    rcases hNext with rfl | rfl
    · cases s with
      | session | sessionEs => rfl
    · cases s with
      | session | sessionEs => rfl
  apply hMeant.setCall
  · intro n' resp' hEq
    rcases hNext with rfl | rfl
    · cases hEq
    · cases hEq
  · intro n' resp' hSome
    exact hMeant.answers c n' resp' (hAnswers.symm.trans hSome)
  · rw [hAnswers]
    exact id
  · intro _ resp' hEq
    rw [hCall] at hEq
    cases hEq

theorem meant_store {l : NiCall} {stored : GpsUserResponseType} (hMeant : w.Meant s k)
    (hStore : w.store s stored t = some w') (hComparing : ∀ n resp, l ≠ .comparing n resp)
    (hAnswers : ∀ n resp, l.answers s ≠ some (n, resp))
    (hStored : stored = gpsNiResponseIgnore ∨
      0 < (w.sessions s).reqID ∧ w.Given (w.sessions s).reqID stored s k) :
    (w'.setCall c l).Meant s k := by
  have hSet := w.setSession_same (s := s) { w.sessions s with resp := stored, respRecvd := true }
  have hSignalled := signal_alike (s := s) (k := k) hStore
  have hCalls := store_calls hStore
  have hSession := hSignalled.session.trans hSet
  have hReqID := congrArg NiSession.reqID hSession
  have hGivenEq : w'.given = w.given := hSignalled.given
  have hGiven : ∀ {n resp}, w.Given n resp s k → w'.Given n resp s k := by
    intro n resp hGiven
    rw [Given, hGivenEq]
    exact hGiven
  have hMeant' : w'.Meant s k := by
    constructor
    · intro hSlot c' n resp hCall hId hPos
      rw [hCalls] at hCall
      exact hGiven (hMeant.comparing hSlot c' n resp hCall (hId.trans (congrArg _ hReqID))
        (Nat.lt_of_lt_of_eq hPos hReqID))
    · intro c' n resp hCall
      rw [hCalls] at hCall
      obtain ⟨hGiven', hId⟩ := hMeant.answers c' n resp hCall
      exact ⟨hGiven hGiven', hId.trans (congrArg _ hReqID.symm)⟩
    · intro _
      rw [hSession]
      exact hStored.imp_right fun hGiven' => ⟨hGiven'.1, hGiven hGiven'.2⟩
    · intro g hg hNamed
      rw [hGivenEq] at hg
      rw [hSession]
      exact hMeant.named g hg hNamed
    · exact fun _ _ _ _ _ => .inl (congrArg NiSession.respRecvd hSession)
    · intro req hReq hRawReq
      rw [hSignalled.accepted] at hReq
      obtain ⟨hSlot, hId, hTimed⟩ := hMeant.record req hReq hRawReq
      refine ⟨hSlot, hId.trans (congrArg _ hReqID.symm), hSignalled.timed ?_⟩
      have hLeft := congrArg NiSession.respTimeLeft hSet
      exact ⟨fun hStage => hLeft.trans (hTimed.starting hStage), hTimed.waiting, hTimed.timing,
        fun hTask => hLeft.trans (hTimed.spawning hTask)⟩
    · rw [hSignalled.accepted]
      exact fun hTask => hMeant.recorded (hSignalled.unrecorded hTask)
  have hRecvd := congrArg NiSession.respRecvd hSession
  refine ⟨?_, ?_, hMeant'.recvd, hMeant'.named, fun _ _ _ _ _ => .inl hRecvd, ?_, hMeant'.recorded⟩
  · intro hSlot c' n resp hCall
    by_cases hSame : c' = c
    · subst hSame
      exact absurd ((w'.setCall_same l).symm.trans hCall) (hComparing n resp)
    · exact hMeant'.comparing hSlot c' n resp ((w'.setCall_of_ne _ hSame).symm.trans hCall)
  · intro c' n resp hCall
    by_cases hSame : c' = c
    · subst hSame
      exact absurd ((congrArg (NiCall.answers · s) (w'.setCall_same l)).symm.trans hCall)
        (hAnswers n resp)
    · exact hMeant'.answers c' n resp
        ((congrArg (NiCall.answers · s) (w'.setCall_of_ne _ hSame)).symm.trans hCall)
  · intro req hReq hRawReq
    obtain ⟨hSlot, hId, hTimed⟩ := hMeant'.record req hReq hRawReq
    exact ⟨hSlot, hId, hTimed.starting, hTimed.waiting, hTimed.timing, hTimed.spawning⟩

theorem meant_store_other {l : NiCall} {stored : GpsUserResponseType} (hMeant : w.Meant s' k)
    (hNe : s' ≠ s) (hStore : w.store s stored t = some w')
    (hComparing : ∀ n resp, l ≠ .comparing n resp ∧ w.calls c ≠ .comparing n resp)
    (hAnswers : l.answers s' = (w.calls c).answers s') : (w'.setCall c l).Meant s' k := by
  have hCalls := store_calls hStore
  have hAlike : Alike w w' s' k := (setSession_alike _ hNe).trans (signal_alike hStore)
  have hMeant' := hAlike.meant_of_calls hMeant hCalls
  apply hMeant'.setCall
  · exact fun n resp => (hComparing n resp).1
  · intro n resp hSome
    apply hMeant'.answers c n resp
    rw [hCalls, ← hAnswers]
    exact hSome
  · rw [hCalls, hAnswers]
    exact id
  · intro _ resp hCall
    rw [hCalls] at hCall
    exact absurd hCall (hComparing _ resp).2

theorem setStage_alike {p : NiStage} (hStarting : p ≠ .starting)
    (hWaiting : ∀ start delay signalled, p ≠ .waiting start delay signalled) :
    Alike w (w.setStage t p) s k := by
  by_cases hSame : k = t
  · subst hSame
    have hSet := congrArg NiThread.stage (w.setStage_same (t := k) p)
    refine ⟨rfl, rfl, rfl, ?_, ?_, fun _ => id, id, id⟩
    · exact fun hStage => absurd (hSet.symm.trans hStage) hStarting
    · exact fun start delay signalled hStage =>
        absurd (hSet.symm.trans hStage) (hWaiting start delay signalled)
  · have hSet := congrArg NiThread.stage (w.setStage_of_ne p hSame)
    exact ⟨rfl, rfl, rfl, fun hStage => hSet.symm.trans hStage,
      fun start _ signalled hStage => ⟨start, signalled, hSet.symm.trans hStage⟩,
      fun _ => id, id, id⟩

theorem meaningful_sleep {start : Int} (hPhases : ∀ s, w.Phase s) (hKnown : w.Known)
    (h : w.Meaningful) (hEarly : (w.threads t).stage.early = true)
    (hDelayed : ∀ start' delay' signalled,
      (w.threads t).stage = .waiting start' delay' signalled → delay = delay')
    (hStarted : (w.threads t).stage = .starting →
      delay = (w.sessions (w.threads t).slot).respTimeLeft) :
    (w.setStage t (.waiting start delay false)).Meaningful := by
  intro s k hRaw
  have hMeant := h s k hRaw
  by_cases hSame : k = t
  · subst hSame
    have hSlot : (w.threads k).slot = s := by
      rcases stored_cases (hPhases s) hRaw with hSeat | hOpen
      · exact (NiThread.early_iff.mp hSeat).2
      · rw [(hKnown.raw k hOpen.2).2] at hEarly
        cases hEarly
    have hSet := congrArg NiThread.stage (w.setStage_same (t := k) (.waiting start delay false))
    refine ⟨hMeant.comparing, hMeant.answers, hMeant.recvd, hMeant.named, hMeant.heard, ?_,
      hMeant.recorded⟩
    intro req hReq hRawReq
    obtain ⟨hReqSlot, hId, hTimed⟩ := hMeant.record req hReq hRawReq
    refine ⟨hReqSlot, hId, ?_, ?_, hTimed.timing, hTimed.spawning⟩
    · exact fun hStage => nomatch hSet.symm.trans hStage
    · intro start' delay' signalled hStage
      cases hSet.symm.trans hStage
      cases hStage : (w.threads k).stage with
      | starting =>
        rw [hStarted hStage, hSlot]
        exact hTimed.starting hStage
      | waiting start'' delay'' signalled' =>
        rw [hDelayed start'' delay'' signalled' hStage]
        exact hTimed.waiting start'' delay'' signalled' hStage
      | absent | unlocked | clearing | sending | done =>
        rw [hStage] at hEarly
        cases hEarly
  · have hSet := congrArg NiThread.stage (w.setStage_of_ne (.waiting start delay false) hSame)
    refine Alike.meant_of_calls ?_ hMeant ?_
    · exact ⟨rfl, rfl, rfl, fun hStage => hSet.symm.trans hStage,
        fun start' _ signalled hStage => ⟨start', signalled, hSet.symm.trans hStage⟩,
        fun _ => id, id, id⟩
    · rfl

theorem finish_alike (h : s ≠ (w.threads t).slot) : Alike w (w.finish t) s k := by
  rw [finish_eq]
  have hThread : Alike w (w.setStage t (.unlocked (w.taken (w.threads t).slot))) s k :=
    setStage_alike nofun nofun
  exact ⟨setSession_of_ne _ _ h, rfl, rfl, hThread.starting, hThread.waiting, fun _ => id, id, id⟩

theorem finish_stored : ((w.finish t).sessions (w.threads t).slot).rawRequest = none := by
  rw [finish_eq]
  exact congrArg NiSession.rawRequest (setSession_same ..)

theorem finish_calls : (w.finish t).calls = w.calls := by
  rw [finish_eq]
  rfl

theorem meaningful_finish (h : w.Meaningful) : (w.finish t).Meaningful := by
  intro s k hRaw
  by_cases hSame : s = (w.threads t).slot
  · rw [hSame, finish_stored] at hRaw
    cases hRaw
  · have hAlike : Alike w (w.finish t) s k := finish_alike hSame
    rw [hAlike.session] at hRaw
    exact hAlike.meant_of_calls (h s k hRaw) finish_calls

theorem meaningful_expire (h : w.Meaningful) : ((w.expire t delay).finish t).Meaningful := by
  intro s k hRaw
  by_cases hSame : s = (w.threads t).slot
  · rw [hSame] at hRaw
    exact nomatch (finish_stored (w := w.expire t delay)).symm.trans hRaw
  · have hExpire : Alike w (w.expire t delay) s k :=
      ⟨setSession_of_ne _ _ hSame, rfl, rfl, id,
        fun start _ signalled hStage => ⟨start, signalled, hStage⟩, fun _ => id, id, id⟩
    have hFinish : Alike (w.expire t delay) ((w.expire t delay).finish t) s k := finish_alike hSame
    have hAlike := hExpire.trans hFinish
    rw [hAlike.session] at hRaw
    exact hAlike.meant_of_calls (h s k hRaw) finish_calls

theorem meaningful_late {x : NiSession} {p : NiStage} (hPhases : ∀ s, w.Phase s)
    (h : w.Meaningful) (hSeated : (w.threads t).stage.seated = true)
    (hLate : (w.threads t).stage.early = false)
    (hStored : x.rawRequest = (w.sessions (w.threads t).slot).rawRequest)
    (hStarting : p ≠ .starting)
    (hWaiting : ∀ start delay signalled, p ≠ .waiting start delay signalled) :
    ((w.setSession (w.threads t).slot x).setStage t p).Meaningful := by
  intro s k hRaw
  by_cases hSame : s = (w.threads t).slot
  · subst hSame
    have hClosing := (closing_of_late (hPhases (w.threads t).slot)
      (NiThread.seated_iff.mpr ⟨hSeated, rfl⟩) (by rw [NiThread.early, hLate]; rfl)).2
    have hSet := w.setSession_same (s := (w.threads t).slot) x
    have hNone := ((congrArg NiSession.rawRequest hSet).trans hStored).trans hClosing.stored
    have hEq := hNone.symm.trans hRaw
    cases hEq
  · have hThread : Alike w (w.setStage t p) s k := setStage_alike hStarting hWaiting
    have hSession := w.setSession_of_ne x hSame
    refine Alike.meant_of_calls (w := w) ?_ (h s k ?_) ?_
    · exact ⟨hSession, rfl, rfl, hThread.starting, hThread.waiting, fun _ => id, id, id⟩
    · exact (congrArg NiSession.rawRequest hSession).symm.trans hRaw
    · rfl

theorem Move.meaningful (hPhases : ∀ s, w.Phase s) (hKnown : w.Known) (h : w.Meaningful)
    (hMove : w.Move w') : w'.Meaningful := by
  cases hMove with
  | tick | refuse | proc =>
    intro s k hRaw
    refine Alike.meant_of_calls ?_ (h s k hRaw) ?_
    · exact ⟨rfl, rfl, rfl, id, fun start _ signalled hStage => ⟨start, signalled, hStage⟩,
        fun _ => id, id, id⟩
    · rfl
  | accept s delay task threads =>
    intro s' k hRaw
    refine Alike.meant_of_calls ?_ (h s' k hRaw) ?_
    · refine .of_task rfl rfl rfl rfl nofun nofun fun _ => ?_
      rw [task]
      exact nofun
    · rfl
  | checkRestart s task => exact meaningful_checkRestart h task
  | saving s raw delay task => exact meaningful_saving hPhases hKnown h task
  | numbering s raw delay task calls => exact meaningful_numbering hPhases hKnown h task calls
  | identifying s raw delay task => exact meaningful_identifying hPhases hKnown h task
  | timing s raw delay task => exact meaningful_timing hPhases hKnown h task
  | spawning s raw task => exact meaningful_spawning hPhases hKnown h task
  | freeing s task => exact meaningful_freeing h task
  | clearing s task => exact meaningful_clearing h task
  | waking s w₁ task t hTask hSignal hIdle =>
    exact meaningful_waking hPhases h hTask hSignal hIdle
  | respondEs c id resp call named task =>
    exact fun s k hRaw => meant_respond hKnown (h s k hRaw) hRaw call (.inl ⟨rfl, named⟩)
  | respond c id resp call named =>
    exact fun s k hRaw => meant_respond hKnown (h s k hRaw) hRaw call (.inr ⟨rfl, named⟩)
  | compared c id resp call named task =>
    exact fun s k hRaw => meant_compared (hPhases _) (h s k hRaw) hRaw call named task
  | missed c id resp call named =>
    exact fun s k hRaw => meant_missed (h s k hRaw) hRaw call named
  | overriding c id resp call stored =>
    exact fun s k hRaw => meant_matched (h s k hRaw) call (.inl rfl)
  | matched c id resp call =>
    exact fun s k hRaw => meant_matched (h s k hRaw) call (.inr rfl)
  | ignored c id resp t w₁ call store =>
    intro s k hRaw
    have hOld : (w.sessions s).rawRequest = some k := by
      by_cases hSame : s = .session
      · rw [hSame] at hRaw ⊢
        exact (store_unmoved store).1.raw.symm.trans hRaw
      · exact (store_still store hSame).raw.symm.trans hRaw
    cases s with
    | session =>
      exact meant_store (h .session k hOld) store nofun nofun (.inl rfl)
    | sessionEs =>
      apply meant_store_other (h .sessionEs k hOld) (by decide) store
      · refine fun n resp' => ⟨nofun, ?_⟩
        rw [call]
        exact nofun
      · rw [call]
        rfl
  | stored c s id resp t w₁ call store =>
    intro s' k hRaw
    have hOld : (w.sessions s').rawRequest = some k := by
      by_cases hSame : s' = s
      · rw [hSame] at hRaw ⊢
        exact (store_unmoved store).1.raw.symm.trans hRaw
      · exact (store_still store hSame).raw.symm.trans hRaw
    have hAnswers : (w.calls c).answers s = some (id, resp) := by
      rw [call]
      exact if_pos rfl
    by_cases hSame : s' = s
    · subst hSame
      obtain ⟨hGiven, hId⟩ := (h s' k hOld).answers c id resp hAnswers
      rw [hId] at hGiven
      refine meant_store (h s' k hOld) store nofun nofun (.inr ⟨?_, hGiven⟩)
      exact numbered_of_answers (hPhases s') hOld (Option.isSome_of_eq_some hAnswers)
    · apply meant_store_other (h s' k hOld) hSame store
      · refine fun n resp' => ⟨nofun, ?_⟩
        rw [call]
        exact nofun
      · rw [call]
        exact (if_neg (Ne.symm hSame)).symm
  | sleep t start delay early recvd delayed started =>
    exact meaningful_sleep hPhases hKnown h early delayed started
  | finish t early recvd settled => exact meaningful_finish h
  | expire t start delay signalled stage settled unheard => exact meaningful_expire h
  | unlocked t msg stage =>
    apply meaningful_late hPhases h
    · rw [stage]
      rfl
    · rw [stage]
      rfl
    · rfl
    · exact nofun
    · exact nofun
  | closed t msg stage =>
    apply meaningful_late hPhases h
    · rw [stage]
      rfl
    · rw [stage]
      rfl
    · rfl
    · exact nofun
    · exact nofun
  | sent t msg stage =>
    intro s k hRaw
    refine Alike.meant_of_calls ((setStage_alike (t := t) (p := .done) nofun nofun).trans ?_)
      (h s k hRaw) ?_
    · exact ⟨rfl, rfl, rfl, id, fun start _ signalled hStage => ⟨start, signalled, hStage⟩,
        fun _ => id, id, id⟩
    · rfl

end KiwiDevice.Gps.NiSystem

import KiwiDevice.Gps.NiConserved

/-!
# Each request is answered once, with its own answer

What is reported to the modem for a request is a response that was given for its id while it was
pending, or that there was none when its own time was over.
-/

namespace KiwiDevice.Gps.NiSystem

variable {w w' : NiSystem} {s s' : NiSlot} {k t c raw : Nat} {delay : Int}

/-- The answer was given for the request, or its time was over. -/
def Justified (w : NiSystem) (msg : NiMsg) : Prop :=
  ∃ req ∈ w.accepted, req.raw = msg.payload ∧
    (w.Given req.id msg.response req.slot msg.payload ∨
      msg.response = gpsNiResponseNoresp ∧ ⟨msg.payload, msg.payload, req.delay⟩ ∈ w.expired)

/-- An answer that a thread is about to send, or has sent. -/
def Spoken (w : NiSystem) (msg : NiMsg) : Prop :=
  (∃ t, (w.threads t).stage.carried = some msg) ∨ msg ∈ w.msgs ∨ msg ∈ w.informed

/-- A request that a response was given for did not end by its time. -/
def Heard (w : NiSystem) : Prop :=
  ∀ g ∈ w.given, ∀ req ∈ w.accepted, g.named req.slot = some req.raw → g.id = req.id →
    ∀ e ∈ w.expired, e.raw ≠ req.raw

/-- No thread sleeps beside a response. -/
def Awake (w : NiSystem) : Prop :=
  ∀ t start delay, (w.threads t).stage = .waiting start delay false →
    (w.sessions (w.threads t).slot).respRecvd = false

/-- The history only grows. -/
structure Later (w w' : NiSystem) : Prop where
  accepted : w.accepted ⊆ w'.accepted
  given : w.given ⊆ w'.given
  expired : w.expired ⊆ w'.expired

theorem Later.refl : Later w w := ⟨fun _ => id, fun _ => id, fun _ => id⟩

theorem Later.justified {msg : NiMsg} (h : Later w w') (hMsg : w.Justified msg) :
    w'.Justified msg := by
  obtain ⟨req, hReq, hRaw, ⟨g, hg, hGiven⟩ | ⟨hNoresp, hExpired⟩⟩ := hMsg
  · exact ⟨req, h.accepted hReq, hRaw, .inl ⟨g, h.given hg, hGiven⟩⟩
  · exact ⟨req, h.accepted hReq, hRaw, .inr ⟨hNoresp, h.expired hExpired⟩⟩

theorem signal_later (h : w.signal s t = some w') : Later w w' := by
  rcases signal_cases h with rfl | ⟨_, _, _, _, rfl⟩
  · exact .refl
  · exact ⟨fun _ => id, fun _ => id, fun _ => id⟩

theorem store_later {resp : GpsUserResponseType} (h : w.store s resp t = some w') : Later w w' := by
  have hSignal := signal_later
    (w := w.setSession s { w.sessions s with resp := resp, respRecvd := true }) h
  exact ⟨hSignal.accepted, hSignal.given, hSignal.expired⟩

theorem Move.later (hMove : w.Move w') : Later w w' := by
  cases hMove with
  | tick | refuse | accept | saving | numbering | timing | spawning | freeing | clearing | proc
  | compared | missed | overriding | matched | sleep | unlocked | closed | sent =>
    exact ⟨fun _ => id, fun _ => id, fun _ => id⟩
  | checkRestart s task =>
    unfold NiSystem.checkRestart
    split
    · exact ⟨fun _ => id, fun _ => id, fun _ => id⟩
    · exact ⟨fun _ => id, fun _ => id, fun _ => id⟩
  | identifying => exact ⟨List.subset_append_left .., fun _ => id, fun _ => id⟩
  | waking s w₁ task t hTask hSignal hIdle =>
    have hLater := signal_later
      (w := w.setSession s { w.sessions s with respRecvd := true }) hSignal
    exact ⟨hLater.accepted, hLater.given, hLater.expired⟩
  | respondEs | respond => exact ⟨fun _ => id, List.subset_append_left .., fun _ => id⟩
  | ignored c id resp t w₁ call store | stored c s id resp t w₁ call store =>
    have hLater := store_later store
    exact ⟨hLater.accepted, hLater.given, hLater.expired⟩
  | finish =>
    rw [finish_eq]
    exact ⟨fun _ => id, fun _ => id, fun _ => id⟩
  | expire =>
    rw [finish_eq]
    exact ⟨fun _ => id, fun _ => id, List.subset_append_left ..⟩

theorem raw_of_unrecorded {q : NiTask} (h : q.unrecorded = some k) : q.raw = some k := by
  cases q with
  | saving | numbering | identifying => exact h
  | idle | timing | spawning | freeing | clearing | waking | checking => cases h

theorem recorded_of_early (hKnown : w.Known) (hMeant : w.Meant s k)
    (hEarly : (w.threads k).stage.early = true) :
    ∃ req ∈ w.accepted, req.raw = k ∧ req.slot = s ∧ req.id = (w.sessions s).reqID ∧
      w.Timed s k req.delay := by
  obtain ⟨req, hReq, hRaw⟩ := hMeant.recorded fun hTask => by
    rw [(hKnown.raw k (raw_of_unrecorded hTask)).2] at hEarly
    cases hEarly
  exact ⟨req, hReq, hRaw, hMeant.record req hReq hRaw⟩

theorem justified_finish {msg : NiMsg} (hPhases : ∀ s, w.Phase s) (hKnown : w.Known)
    (hMeaning : w.Meaningful) (hEarly : (w.threads t).stage.early = true)
    (hRecvd : (w.sessions (w.threads t).slot).respRecvd = true)
    (hSettled : w.Settled (w.threads t).slot) (hMsg : w.taken (w.threads t).slot = some msg) :
    w.Justified msg := by
  rw [taken] at hMsg
  split at hMsg
  · rename_i hIgnore
    obtain ⟨raw, hRaw, rfl⟩ := Option.map_eq_some_iff.mp hMsg
    have hOwn := stored_own (hPhases _) hEarly hSettled raw hRaw
    subst hOwn
    have hMeant := hMeaning _ raw hRaw
    obtain ⟨req, hReq, hReqRaw, hSlot, hId, -⟩ := recorded_of_early hKnown hMeant hEarly
    refine ⟨req, hReq, hReqRaw, .inl ?_⟩
    rw [hSlot, hId]
    rcases hMeant.recvd hRecvd with hIgnored | hGiven
    · exact absurd hIgnored hIgnore
    · exact hGiven.2
  · cases hMsg

theorem justified_expire {msg : NiMsg} {start : Int} {signalled : Bool}
    (hPhases : ∀ s, w.Phase s) (hKnown : w.Known) (hMeaning : w.Meaningful)
    (hStage : (w.threads t).stage = .waiting start delay signalled)
    (hSettled : w.Settled (w.threads t).slot)
    (hMsg : (w.expire t delay).taken (w.threads t).slot = some msg) :
    ((w.expire t delay).finish t).Justified msg := by
  have hEarly : (w.threads t).stage.early = true := by
    rw [hStage]
    rfl
  have hExpire : (w.expire t delay).sessions (w.threads t).slot =
      { w.sessions (w.threads t).slot with resp := gpsNiResponseNoresp } := expire_same
  rw [taken, hExpire] at hMsg
  split at hMsg
  · obtain ⟨raw, hRaw, rfl⟩ := Option.map_eq_some_iff.mp hMsg
    have hOwn := stored_own (hPhases _) hEarly hSettled raw hRaw
    subst hOwn
    obtain ⟨req, hReq, hReqRaw, -, -, hTimed⟩ :=
      recorded_of_early hKnown (hMeaning _ raw hRaw) hEarly
    rw [finish_eq]
    refine ⟨req, hReq, hReqRaw, .inr ⟨rfl, ?_⟩⟩
    rw [← hTimed.waiting start delay signalled hStage]
    refine List.mem_append_right _ (List.mem_map.mpr ⟨raw, ?_, rfl⟩)
    rw [hRaw]
    exact List.mem_singleton_self _
  · cases hMsg

theorem spoken_of_carried {msg : NiMsg} (hCarried : ∀ t, (w'.threads t).stage.carried =
      (w.threads t).stage.carried) (hMsgs : w'.msgs = w.msgs) (hInformed : w'.informed = w.informed)
    (h : w'.Spoken msg) : w.Spoken msg := by
  rw [Spoken, hMsgs, hInformed] at h
  exact h.imp_left fun ⟨t, ht⟩ => ⟨t, (hCarried t).symm.trans ht⟩

theorem spoken_of_finish {msg : NiMsg} (h : (w.finish t).Spoken msg) :
    w.Spoken msg ∨ w.taken (w.threads t).slot = some msg := by
  rw [finish_eq] at h
  rcases h with ⟨t', ht⟩ | hMem | hMem
  · by_cases hSame : t' = t
    · subst hSame
      have hSet := w.setStage_same (t := t') (.unlocked (w.taken (w.threads t').slot))
      exact .inr ((congrArg (·.stage.carried) hSet).symm.trans ht)
    · exact .inl (.inl ⟨t', (congrArg (·.stage.carried) (setStage_of_ne _ _ hSame)).symm.trans ht⟩)
  · exact .inl (.inr (.inl hMem))
  · exact .inl (.inr (.inr hMem))

theorem Unmoving.spoken {msg : NiMsg} (h : Unmoving w w') (hInformed : w'.informed = w.informed)
    (hSpoken : w'.Spoken msg) : w.Spoken msg := spoken_of_carried h.carried h.msgs hInformed hSpoken

theorem spoken_checkRestart {msg : NiMsg} (h : (w.checkRestart s).Spoken msg) : w.Spoken msg := by
  unfold checkRestart at h
  split at h
  · exact h
  · exact h

theorem store_informed {resp : GpsUserResponseType} (h : w.store s resp t = some w') :
    w'.informed = w.informed := by
  rcases signal_cases h with rfl | ⟨_, _, _, _, rfl⟩
  · rfl
  · rfl

theorem signal_informed (h : w.signal s t = some w') : w'.informed = w.informed := by
  rcases signal_cases h with rfl | ⟨_, _, _, _, rfl⟩
  · rfl
  · rfl

theorem Move.spoken {msg : NiMsg} (hPhases : ∀ s, w.Phase s) (hKnown : w.Known)
    (hMeaning : w.Meaningful) (hMove : w.Move w') (h : w'.Spoken msg) :
    w.Spoken msg ∨ w'.Justified msg := by
  have hLater := hMove.later
  cases hMove with
  | tick | refuse | accept | saving | numbering | identifying | timing | freeing | clearing
  | respondEs | respond | compared | missed | overriding | matched => exact .inl h
  | checkRestart s task => exact .inl (spoken_checkRestart h)
  | spawning s raw task =>
    left
    refine spoken_of_carried ?_ ?_ ?_ h
    · intro t
      by_cases hSame : t = raw
      · rw [hSame, (hKnown.raw raw (by rw [task]; rfl)).2]
        exact congrArg (·.stage.carried) (w.setThread_same _)
      · exact congrArg (·.stage.carried) (w.setThread_of_ne _ hSame)
    · rfl
    · rfl
  | waking s w₁ task t hTask hSignal hIdle =>
    left
    have hMoved := signal_unmoving
      (w := w.setSession s { w.sessions s with respRecvd := true }) hSignal
    exact spoken_of_carried hMoved.carried hMoved.msgs
      (signal_informed (w := w.setSession s { w.sessions s with respRecvd := true }) hSignal) h
  | proc msg' rest msgs =>
    left
    rcases h with hCarried | hMem | hMem
    · exact .inl hCarried
    · right
      left
      rw [msgs]
      exact List.mem_cons_of_mem _ hMem
    · rcases List.mem_append.mp hMem with hOld | hNew
      · exact .inr (.inr hOld)
      · right
        left
        rw [msgs, List.mem_singleton.mp hNew]
        exact List.mem_cons_self
  | ignored c id resp t w₁ call store =>
    exact .inl ((store_unmoving store).spoken (store_informed store) h)
  | stored c s id resp t w₁ call store =>
    exact .inl ((store_unmoving store).spoken (store_informed store) h)
  | sleep t start delay early =>
    left
    have hCarried : (NiStage.waiting start delay false).carried = (w.threads t).stage.carried :=
      (NiStage.carried_of_early early).symm
    exact (setStage_unmoving hCarried).spoken rfl h
  | finish t early recvd settled =>
    rcases spoken_of_finish h with hOld | hTaken
    · exact .inl hOld
    · right
      apply hLater.justified
      exact justified_finish hPhases hKnown hMeaning early recvd settled hTaken
  | expire t start delay signalled stage settled unheard =>
    rcases spoken_of_finish h with hOld | hTaken
    · exact .inl hOld
    · right
      exact justified_expire hPhases hKnown hMeaning stage settled hTaken
  | unlocked t msg' stage =>
    left
    refine (setStage_unmoving (t := t) (p := .clearing msg') ?_).spoken (w := w) rfl h
    exact (congrArg NiStage.carried stage).symm
  | closed t msg' stage =>
    left
    refine (setStage_unmoving (t := t) (p := .sending msg') ?_).spoken (w := w) rfl h
    exact (congrArg NiStage.carried stage).symm
  | sent t msg' stage =>
    left
    have hCarried : (w.threads t).stage.carried = msg' := by
      rw [stage]
      rfl
    rcases h with ⟨t', ht⟩ | hMem | hMem
    · by_cases hSame : t' = t
      · subst hSame
        exact nomatch (congrArg (·.stage.carried) (w.setStage_same .done)).symm.trans ht
      · exact .inl ⟨t', (congrArg (·.stage.carried) (w.setStage_of_ne _ hSame)).symm.trans ht⟩
    · rcases List.mem_append.mp hMem with hOld | hNew
      · exact .inr (.inl hOld)
      · exact .inl ⟨t, hCarried.trans (Option.mem_toList.mp hNew)⟩
    · exact .inr (.inr hMem)

theorem not_expired_of_stored (hPhase : w.Phase s) (hKnown : w.Known)
    (hRaw : (w.sessions s).rawRequest = some k) {e : NiExpiry} (he : e ∈ w.expired) :
    e.raw ≠ k := by
  intro hSame
  have hLate := hKnown.expired e he
  rw [hSame] at hLate
  rcases stored_cases hPhase hRaw with hEarly | hOpen
  · cases hStage : (w.threads k).stage with
    | starting | waiting | absent =>
      rw [hStage] at hLate
      cases hLate
    | unlocked | clearing | sending | done =>
      rw [NiThread.early, hStage] at hEarly
      cases hEarly
  · rw [(hKnown.raw k hOpen.2).2] at hLate
    cases hLate

theorem heard_respond {n : Int} {resp : GpsUserResponseType} (hPhases : ∀ s, w.Phase s)
    (hKnown : w.Known) (h : w.Heard) :
    ∀ g ∈ w.given ++ [⟨n, resp, w.named n⟩], ∀ req ∈ w.accepted, g.named req.slot = some req.raw →
      g.id = req.id → ∀ e ∈ w.expired, e.raw ≠ req.raw := by
  intro g hg req hReq hNamed hId e he
  rcases List.mem_append.mp hg with hOld | hNew
  · exact h g hOld req hReq hNamed hId e he
  · rw [List.mem_singleton.mp hNew] at hNamed
    exact not_expired_of_stored (hPhases req.slot) hKnown (named_eq_some hNamed).2 he

theorem heard_expire {start : Int} {signalled : Bool} (hPhases : ∀ s, w.Phase s)
    (hMeaning : w.Meaningful) (h : w.Heard)
    (hStage : (w.threads t).stage = .waiting start delay signalled)
    (hSettled : w.Settled (w.threads t).slot)
    (hUnheard : (w.sessions (w.threads t).slot).rawRequest.isSome = true →
      (w.sessions (w.threads t).slot).respRecvd = false ∧ ((w.threads t).slot = .session →
        ∀ c resp, w.calls c ≠ .comparing (w.sessions .session).reqID resp)) :
    ((w.expire t delay).finish t).Heard := by
  have hEarly : (w.threads t).stage.early = true := by
    rw [hStage]
    rfl
  rw [finish_eq]
  intro g hg req hReq hNamed hId e he
  rcases List.mem_append.mp he with hOld | hNew
  · exact h g hg req hReq hNamed hId e hOld
  · obtain ⟨raw, hRaw, rfl⟩ := List.mem_map.mp hNew
    have hStored := Option.mem_toList.mp hRaw
    intro hSame
    have hMeant := hMeaning _ raw hStored
    obtain ⟨hSlot, hReqId, -⟩ := hMeant.record req hReq hSame.symm
    obtain ⟨hRecvd, hCalls⟩ := hUnheard (Option.isSome_of_eq_some hStored)
    have hPos : 0 < (w.sessions (w.threads t).slot).reqID := by
      rcases stored_of_settled (hPhases _) hEarly hSettled with hAt | hAt
      · exact hAt.reqID
      · rw [hAt.stored] at hStored
        cases hStored
    rw [hSlot, ← hSame] at hNamed
    rcases hMeant.heard hPos g hg hNamed (hId.trans hReqId) with
      hSome | ⟨c, hAnswers⟩ | ⟨hSession, c, resp, hCall⟩
    · rw [hRecvd] at hSome
      cases hSome
    · exact hSettled.1 ⟨c, .inl hAnswers⟩
    · rw [hSession] at hCall
      exact hCalls hSession c resp hCall

theorem Move.heard (hPhases : ∀ s, w.Phase s) (hKnown : w.Known) (hMeaning : w.Meaningful)
    (h : w.Heard) (hMove : w.Move w') : w'.Heard := by
  cases hMove with
  | tick | refuse | accept | saving | numbering | timing | spawning | freeing | clearing | proc
  | compared | missed | overriding | matched | sleep | unlocked | closed | sent => exact h
  | checkRestart s task =>
    unfold NiSystem.checkRestart
    split
    · exact h
    · exact h
  | identifying s raw delay task =>
    intro g hg req hReq hNamed hId e he
    rcases List.mem_append.mp hReq with hOld | hNew
    · exact h g hg req hOld hNamed hId e he
    · rw [List.mem_singleton.mp hNew]
      intro hSame
      have hLate := hKnown.expired e he
      rw [hSame, (hKnown.raw raw (by rw [task]; rfl)).2] at hLate
      cases hLate
  | waking s w₁ task t hTask hSignal hIdle =>
    rcases signal_cases hSignal with rfl | ⟨_, _, _, _, rfl⟩
    · exact h
    · exact h
  | respondEs => exact heard_respond hPhases hKnown h
  | respond => exact heard_respond hPhases hKnown h
  | ignored c id resp t w₁ call store | stored c s id resp t w₁ call store =>
    rcases signal_cases store with rfl | ⟨_, _, _, _, rfl⟩
    · exact h
    · exact h
  | finish =>
    rw [finish_eq]
    exact h
  | expire t start delay signalled stage settled unheard =>
    exact heard_expire hPhases hMeaning h stage settled unheard

theorem Phase.alone {t' : Nat} (h : w.Phase s) (ht : (w.threads t).seated s = true)
    (ht' : (w.threads t').seated s = true) : t = t' := by
  have hNobody : ∀ {p : Prop}, (∀ t, (w.threads t).seated s = false) → p := by
    intro p hNone
    rw [hNone t] at ht
    cases ht
  have hOne : ∀ {k}, w.Alone s k → t = t' :=
    fun hAlone => ((hAlone t).mp ht).trans ((hAlone t').mp ht').symm
  cases hTask : w.task.about s with
  | none =>
    cases h.resting hTask with
    | free hAt => exact hNobody hAt.threads
    | pending k hAt | dropped k hAt | closing k hAt => exact hOne hAt.alone
  | some task =>
    rw [Phase, hTask] at h
    cases task with
    | idle | checking => exact h.elim
    | saving | numbering | identifying | timing | spawning => exact hNobody h.threads
    | freeing | clearing | waking =>
      obtain ⟨k, hAt⟩ := h
      exact hOne hAt.alone

theorem signal_reaches {t' : Nat} {start : Int} (hSignal : w.signal s t = some w')
    (hAbsent : ∀ k, w.arrived ≤ k → (w.threads k).stage = .absent)
    (hAlone : ∀ {t t'}, (w.threads t).seated s = true → (w.threads t').seated s = true → t = t')
    (hStage : (w'.threads t').stage = .waiting start delay false) :
    (w'.threads t').slot ≠ s ∧ w'.threads t' = w.threads t' := by
  rw [signal] at hSignal
  split at hSignal
  · rename_i start₀ delay₀ signalled hWaiting
    split at hSignal
    · rename_i hSlot
      cases hSignal
      by_cases hSame : t' = t
      · subst hSame
        have hEq := (congrArg NiThread.stage (w.setStage_same (.waiting start₀ delay₀ true))).symm.trans
          hStage
        cases hEq
      · rw [setStage_of_ne _ _ hSame] at hStage ⊢
        refine ⟨fun hSlot' => hSame ?_, rfl⟩
        apply hAlone
        · exact NiThread.seated_iff.mpr ⟨by rw [hStage]; rfl, hSlot'⟩
        · exact NiThread.seated_iff.mpr ⟨by rw [hWaiting]; rfl, hSlot⟩
    · cases hSignal
  · split at hSignal
    · rename_i hNobody
      cases hSignal
      refine ⟨fun hSlot => ?_, rfl⟩
      have hArrived : t' < w.arrived := by
        by_contra hNot
        have hEq := (hAbsent t' (Nat.le_of_not_lt hNot)).symm.trans hStage
        cases hEq
      have hWaits := hNobody t' hArrived
      rw [isWaiting, hStage] at hWaits
      exact absurd hSlot (of_decide_eq_false hWaits)
    · cases hSignal

theorem awake_signal {x : NiSession} (hPhases : ∀ s, w.Phase s) (hKnown : w.Known)
    (h : w.Awake) (hSignal : (w.setSession s x).signal s t = some w') : w'.Awake := by
  intro t' start delay hStage
  obtain ⟨hSlot, hThread⟩ := signal_reaches hSignal hKnown.absent (hPhases s).alone hStage
  have hSession : w'.sessions (w'.threads t').slot = w.sessions (w'.threads t').slot := by
    rcases signal_cases hSignal with rfl | ⟨_, _, _, _, rfl⟩
    · exact setSession_of_ne _ _ hSlot
    · exact setSession_of_ne _ _ hSlot
  rw [hSession, hThread]
  rw [hThread] at hStage
  exact h t' start delay hStage

theorem Awake.of_threads (h : w.Awake) (hThreads : ∀ t start delay,
      (w'.threads t).stage = .waiting start delay false → w'.threads t = w.threads t)
    (hRecvd : ∀ s, (w'.sessions s).respRecvd = true → (w.sessions s).respRecvd = true) :
    w'.Awake := by
  intro t start delay hStage
  have hThread := hThreads t start delay hStage
  rw [hThread] at hStage ⊢
  rw [← Bool.not_eq_true]
  intro hSome
  have hNone := h t start delay hStage
  rw [hRecvd _ hSome] at hNone
  cases hNone

theorem setSession_recvd {x : NiSession}
    (h : x.respRecvd = true → (w.sessions s).respRecvd = true) (s' : NiSlot)
    (hRecvd : ((w.setSession s x).sessions s').respRecvd = true) :
    (w.sessions s').respRecvd = true := by
  by_cases hSame : s' = s
  · rw [hSame, setSession_same] at hRecvd
    rw [hSame]
    exact h hRecvd
  · rw [setSession_of_ne _ _ hSame] at hRecvd
    exact hRecvd

theorem setStage_waiting {p : NiStage} {t' : Nat} {start : Int}
    (h : ∀ start delay, p ≠ .waiting start delay false)
    (hStage : ((w.setStage t p).threads t').stage = .waiting start delay false) :
    (w.setStage t p).threads t' = w.threads t' := by
  by_cases hSame : t' = t
  · subst hSame
    exact absurd ((congrArg NiThread.stage (w.setStage_same p)).symm.trans hStage) (h _ _)
  · exact setStage_of_ne _ _ hSame

theorem awake_finish (h : w.Awake) : (w.finish t).Awake := by
  rw [finish_eq]
  apply h.of_threads
  · exact fun t' start delay hStage => setStage_waiting (w := w) nofun hStage
  · exact fun s => setSession_recvd (w := w) (x := { w.sessions (w.threads t).slot with
      respRecvd := false, rawRequest := none }) Bool.noConfusion s

theorem Move.awake (hPhases : ∀ s, w.Phase s) (hKnown : w.Known) (h : w.Awake)
    (hMove : w.Move w') : w'.Awake := by
  cases hMove with
  | tick | refuse | accept | identifying | freeing | proc | respondEs | respond | compared
  | missed | overriding | matched => exact h
  | checkRestart s task =>
    unfold NiSystem.checkRestart
    split
    · exact h
    · exact h
  | saving s | numbering s | timing s | clearing s =>
    exact h.of_threads (fun _ _ _ _ => rfl) fun s' hRecvd =>
      setSession_recvd (by exact id) s' hRecvd
  | spawning s raw task =>
    intro t start delay hStage
    by_cases hSame : t = raw
    · subst hSame
      exact nomatch (congrArg NiThread.stage (w.setThread_same _)).symm.trans hStage
    · have hThread := w.setThread_of_ne ⟨s, .starting⟩ hSame
      show (w.sessions ((w.setThread raw ⟨s, .starting⟩).threads t).slot).respRecvd = false
      rw [hThread]
      exact h t start delay ((congrArg NiThread.stage hThread).symm.trans hStage)
  | waking s w₁ task t hTask hSignal hIdle =>
    have hAwake := awake_signal hPhases hKnown h hSignal
    exact hAwake
  | ignored c id resp t w₁ call store | stored c s id resp t w₁ call store =>
    have hAwake := awake_signal hPhases hKnown h store
    exact hAwake
  | sleep t start delay early recvd =>
    intro t' start' delay' hStage
    by_cases hSame : t' = t
    · subst hSame
      rw [setStage_same]
      exact recvd
    · rw [setStage_of_ne _ _ hSame] at hStage ⊢
      exact h t' start' delay' hStage
  | finish t => exact awake_finish h
  | expire t start delay signalled stage =>
    apply awake_finish
    exact h.of_threads (fun _ _ _ _ => rfl) fun s hRecvd =>
      setSession_recvd (by exact id) s hRecvd
  | unlocked t msg stage =>
    exact h.of_threads (fun t' start delay hStage => setStage_waiting (w := w) nofun hStage)
      fun s hRecvd =>
      setSession_recvd (by exact id) s hRecvd
  | closed t msg stage =>
    exact h.of_threads (fun t' start delay hStage => setStage_waiting (w := w) nofun hStage)
      fun s hRecvd =>
      setSession_recvd (by exact id) s hRecvd
  | sent t msg stage =>
    exact h.of_threads (fun t' start delay hStage => setStage_waiting (w := w) nofun hStage)
      fun _ hRecvd => hRecvd

/-- Everything that a run keeps. -/
structure Sound (w : NiSystem) : Prop where
  phases : ∀ s, w.Phase s
  known : w.Known
  meaning : w.Meaningful
  conserved : w.Conserved
  reported : ∀ msg, w.Spoken msg → w.Justified msg
  heard : w.Heard
  awake : w.Awake

theorem Sound.move (h : w.Sound) (hMove : w.Move w') : w'.Sound where
  phases := hMove.phases h.phases fun s raw hTask => (h.known.raw raw (by rw [hTask]; rfl)).2
  known := hMove.known h.phases h.known
  meaning := hMove.meaningful h.phases h.known h.meaning
  conserved := hMove.conserved h.phases h.known h.conserved
  reported msg hSpoken := by
    rcases hMove.spoken h.phases h.known h.meaning hSpoken with hOld | hNew
    · exact hMove.later.justified (h.reported msg hOld)
    · exact hNew
  heard := hMove.heard h.phases h.known h.meaning h.heard
  awake := hMove.awake h.phases h.known h.awake

theorem sound_start : Sound {} where
  phases _ := Resting.phase (.free ⟨fun _ => rfl, rfl, rfl, rfl, fun ⟨_, hAimed⟩ => by
    rcases hAimed with hAnswers | hIgnores
    · cases hAnswers
    · cases hIgnores⟩) rfl
  known := {
    absent := fun _ _ => rfl
    raw := nofun
    counter := fun _ => Nat.le_refl 0
    distinct := fun hPos => absurd hPos (Nat.lt_irrefl 0)
    stored := nofun
    named := nofun
    accepted := nofun
    expired := nofun }
  meaning := nofun
  conserved := {
    own := nofun
    once := fun _ => rfl
    freed := fun _ => rfl
    accepted := nofun }
  reported msg hSpoken := by
    rcases hSpoken with ⟨t, ht⟩ | hMem | hMem
    · cases ht
    · cases hMem
    · cases hMem
  heard := nofun
  awake := nofun

/-- The request waits in a session with its thread or at the handler, or its message is on its
way. -/
def InPlay (w : NiSystem) (k : Nat) : Prop :=
  (∃ s, (w.sessions s).rawRequest = some k ∧ w.task ≠ .clearing s ∧
    ((w.threads k).early s = true ∨ w.task.raw = some k)) ∨
  (∃ msg, (w.threads k).stage.carried = some msg ∧ msg.payload = k) ∨
  ∃ msg ∈ w.msgs, msg.payload = k

/-- Each accepted request ends once or is in play, is freed when it ends, and is answered with its
own answer; no response that was given for it is lost. -/
structure Answered (w : NiSystem) : Prop where
  once : ∀ req ∈ w.accepted, w.outcomes.count req.raw = 1 ∧ ¬ w.InPlay req.raw ∨
    w.outcomes.count req.raw = 0 ∧ w.InPlay req.raw
  freed : ∀ req ∈ w.accepted, w.freed.count req.raw = w.outcomes.count req.raw
  own : ∀ msg ∈ w.informed, w.Justified msg
  heard : w.Heard
  awake : w.Awake

theorem inPlay_iff (hPhases : ∀ s, w.Phase s) (hConserved : w.Conserved) : w.InPlay k ↔
    0 < w.held .session k + w.held .sessionEs k + w.carriedBy k +
      (w.msgs.map NiMsg.payload).count k := by
  constructor
  · rintro (⟨s, hRaw, hTask, -⟩ | ⟨msg, hMsg, -⟩ | ⟨msg, hMem, hPayload⟩)
    · have hHeld : w.held s k = 1 := if_pos ⟨hRaw, hTask⟩
      rw [held_sum s]
      omega
    · have hCarried : w.carriedBy k = 1 := by
        rw [carriedBy, hMsg]
        rfl
      omega
    · have hCount : 0 < (w.msgs.map NiMsg.payload).count k :=
        List.count_pos_iff.mpr (List.mem_map.mpr ⟨msg, hMem, hPayload⟩)
      omega
  · intro hPos
    have hHolds : ∀ s, 0 < w.held s k → w.InPlay k := by
      intro s hHeld
      rw [held] at hHeld
      split at hHeld
      · rename_i hBoth
        exact .inl ⟨s, hBoth.1, hBoth.2,
          (stored_cases (hPhases s) hBoth.1).imp_right fun hOpen => hOpen.2⟩
      · exact absurd hHeld (Nat.lt_irrefl 0)
    by_cases hSession : 0 < w.held .session k
    · exact hHolds _ hSession
    · by_cases hEs : 0 < w.held .sessionEs k
      · exact hHolds _ hEs
      · by_cases hCarried : 0 < w.carriedBy k
        · cases hMsg : (w.threads k).stage.carried with
          | none =>
            rw [carriedBy, hMsg] at hCarried
            exact absurd hCarried (Nat.lt_irrefl 0)
          | some msg => exact .inr (.inl ⟨msg, hMsg, hConserved.own k msg hMsg⟩)
        · have hCount : 0 < (w.msgs.map NiMsg.payload).count k := by omega
          obtain ⟨msg, hMem, hPayload⟩ := List.mem_map.mp (List.count_pos_iff.mp hCount)
          exact .inr (.inr ⟨msg, hMem, hPayload⟩)

theorem Sound.answered (h : w.Sound) : w.Answered where
  once req hReq := by
    have hOnce := h.conserved.once req.raw
    have hRefused := List.count_eq_zero.mpr (h.conserved.accepted req hReq)
    have hComing : w.coming req.raw = 0 := by
      refine if_neg fun hUnstored => (h.known.accepted req hReq).2 ?_
      cases hTask : w.task with
      | saving =>
        rw [hTask] at hUnstored
        exact hUnstored
      | idle | numbering | identifying | timing | spawning | freeing | clearing | waking
      | checking =>
        rw [hTask] at hUnstored
        cases hUnstored
    rw [if_pos (h.known.accepted req hReq).1, places, hRefused, hComing] at hOnce
    rw [inPlay_iff h.phases h.conserved]
    omega
  freed req hReq := by
    rw [h.conserved.freed, List.count_eq_zero.mpr (h.conserved.accepted req hReq), Nat.add_zero]
  own msg hMem := h.reported msg (.inr (.inr hMem))
  heard := h.heard
  awake := h.awake

/-- In every run whose steps race with nobody, each request is answered once, with its own
answer. -/
theorem answered_of_unraced {is : List Input} {os : List Unit}
    (run : Lib.Steps Next (fun _ _ w i _ => w.Unraced i) {} is os w) : w.Answered := by
  have hSound : w.Sound := by
    apply run.invariant (I := Sound) sound_start
    intro _ _ _ _ _ _ hUnraced hSound hStep
    exact hSound.move (move_of_step hUnraced hStep)
  exact hSound.answered

theorem not_aimed_of_idle (h : ∀ c, w.calls c = .idle) : ¬ w.Aimed s := by
  rintro ⟨c, hAnswers | hIgnores⟩
  · rw [h c] at hAnswers
    cases hAnswers
  · rw [h c] at hIgnores
    cases hIgnores

theorem answered_of_unraced_accept : ∃ w : NiSystem,
    w.informed = [⟨gpsNiResponseAccept, 0⟩] ∧ w.Answered := by
  have hIdle : ∀ first second c, Function.update (Function.update (Function.update
      (fun _ => NiCall.idle) 0 first) 0 second) 0 .idle c = .idle := by
    intro first second c
    rw [Function.update_idem, Function.update_idem, Function.update_eq_self]
  have requested : Lib.Steps Next (fun _ _ w i _ => w.Unraced i) {} _ _ _ :=
    .step .start (fun _ _ => rfl) (i := Input.request .session 0) (o := []) rfl
  have stored : Lib.Steps Next (fun _ _ w i _ => w.Unraced i) {} _ _ _ :=
    requested.step (⟨nofun, nofun⟩) (i := Input.task true 0) (o := []) rfl
  have numbered : Lib.Steps Next (fun _ _ w i _ => w.Unraced i) {} _ _ _ :=
    stored.step (⟨fun _ _ _ _ _ _ => nofun, nofun⟩) (i := Input.task true 0) (o := []) rfl
  have identified : Lib.Steps Next (fun _ _ w i _ => w.Unraced i) {} _ _ _ :=
    numbered.step (⟨nofun, nofun⟩) (i := Input.task true 0) (o := []) rfl
  have timed : Lib.Steps Next (fun _ _ w i _ => w.Unraced i) {} _ _ _ :=
    identified.step (⟨nofun, nofun⟩) (i := Input.task true 0) (o := []) rfl
  have spawned : Lib.Steps Next (fun _ _ w i _ => w.Unraced i) {} _ _ _ :=
    timed.step (⟨nofun, fun _ _ _ => rfl⟩) (i := Input.task true 0) (o := []) rfl
  have asleep : Lib.Steps Next (fun _ _ w i _ => w.Unraced i) {} _ _ _ :=
    spawned.step (nofun) (i := Input.start 0) (o := []) rfl
  have given : Lib.Steps Next (fun _ _ w i _ => w.Unraced i) {} _ _ _ :=
    asleep.step (nofun) (i := Input.respond 0 1 gpsNiResponseAccept) (o := []) rfl
  have compared : Lib.Steps Next (fun _ _ w i _ => w.Unraced i) {} _ _ _ :=
    given.step (nofun) (i := Input.call 0 0) (o := []) rfl
  have answered : Lib.Steps Next (fun _ _ w i _ => w.Unraced i) {} _ _ _ :=
    compared.step (nofun) (i := Input.call 0 0) (o := []) rfl
  have taken : Lib.Steps Next (fun _ _ w i _ => w.Unraced i) {} _ _ _ :=
    answered.step (fun _ => ⟨not_aimed_of_idle (hIdle _ _), rfl⟩) (i := Input.wake 0) (o := []) rfl
  have left : Lib.Steps Next (fun _ _ w i _ => w.Unraced i) {} _ _ _ :=
    taken.step (trivial) (i := Input.leave 0) (o := []) rfl
  have cleared : Lib.Steps Next (fun _ _ w i _ => w.Unraced i) {} _ _ _ :=
    left.step (trivial) (i := Input.leave 0) (o := []) rfl
  have sent : Lib.Steps Next (fun _ _ w i _ => w.Unraced i) {} _ _ _ :=
    cleared.step (trivial) (i := Input.leave 0) (o := []) rfl
  have run : Lib.Steps Next (fun _ _ w i _ => w.Unraced i) {} _ _ _ :=
    sent.step (trivial) (i := Input.proc) (o := []) rfl
  exact ⟨_, rfl, answered_of_unraced run⟩

/-- The response that was given for a request after its time is reported for the next one. -/
theorem late_response_answers_next : ∃ w : NiSystem,
    Lib.Steps Next Lib.anyStep {} ([.request .session 1] ++ List.replicate 5 (.task true 0) ++
      [.start 0] ++ List.replicate 6 .tick ++ [.respond 0 1 gpsNiResponseAccept, .call 0 0,
        .timeOut 0, .call 0 2, .leave 0, .leave 0, .leave 0, .proc, .request .session 1] ++
      List.replicate 5 (.task true 0) ++ [.start 1, .leave 1, .leave 1, .leave 1, .proc]) [] w ∧
    w.informed = [⟨gpsNiResponseNoresp, 0⟩, ⟨gpsNiResponseAccept, 1⟩] ∧ ¬ w.Answered := by
  have hRun : (List.foldlM step ({} : NiSystem) ([.request .session 1] ++
        List.replicate 5 (.task true 0) ++ [.start 0] ++ List.replicate 6 .tick ++
        [.respond 0 1 gpsNiResponseAccept, .call 0 0, .timeOut 0, .call 0 2, .leave 0, .leave 0,
          .leave 0, .proc, .request .session 1] ++ List.replicate 5 (.task true 0) ++
        [.start 1, .leave 1, .leave 1, .leave 1, .proc])).map
      (fun w => (w.informed, w.accepted.map fun req => (req.raw, req.id),
        w.given.map NiResponse.id)) =
      some ([⟨gpsNiResponseNoresp, 0⟩, ⟨gpsNiResponseAccept, 1⟩], [(0, 1), (1, 2)], [1]) := by
    decide +kernel
  obtain ⟨w, hExec, hEq⟩ := Option.map_eq_some_iff.mp hRun
  simp only [Prod.mk.injEq] at hEq
  obtain ⟨hInformed, hAccepted, hGiven⟩ := hEq
  refine ⟨w, Lib.Steps.of_silent (fun _ _ _ => id) hExec, hInformed, fun hAnswered => ?_⟩
  obtain ⟨req, hReq, hRaw, ⟨g, hg, hId, -⟩ | ⟨hNoresp, -⟩⟩ :=
    hAnswered.own ⟨gpsNiResponseAccept, 1⟩ (by rw [hInformed]; exact .tail _ (.head _))
  · have hReqId : (req.raw, req.id) ∈ [(0, (1 : Int)), (1, 2)] := by
      rw [← hAccepted]
      exact List.mem_map_of_mem hReq
    have hGivenId : g.id ∈ [(1 : Int)] := by
      rw [← hGiven]
      exact List.mem_map_of_mem hg
    rw [hRaw, ← hId, List.mem_singleton.mp hGivenId] at hReqId
    exact absurd hReqId (by decide)
  · cases hNoresp

end KiwiDevice.Gps.NiSystem

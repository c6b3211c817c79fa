import KiwiDevice.Gps.NiMeant

/-!
# A raw request is in one place

The places are the sessions, the messages that threads carry or have sent, and the ends: reported to
the modem, dropped by the user or by a restart, or refused. It is freed when it comes to an end.
-/

namespace KiwiDevice.Gps

/-- The message that a thread past its hold has. -/
def NiStage.carried : NiStage → Option NiMsg
  | .unlocked msg | .clearing msg | .sending msg => msg
  | _ => none

theorem NiStage.carried_of_early {p : NiStage} (h : p.early = true) :
    p.carried = none := by
  cases p with
  | starting | waiting => rfl
  | absent | unlocked | clearing | sending | done => cases h

def NiSlot.other : NiSlot → NiSlot
  | .session => .sessionEs
  | .sessionEs => .session

theorem NiSlot.other_ne (s : NiSlot) : s.other ≠ s := by
  cases s with
  | session => exact nofun
  | sessionEs => exact nofun

namespace NiSystem

variable {w w' : NiSystem} {s s' : NiSlot} {k t c raw : Nat} {delay : Int}

/-- A session holds the request until the reset has freed it. -/
def held (w : NiSystem) (s : NiSlot) (k : Nat) : Nat :=
  if (w.sessions s).rawRequest = some k ∧ w.task ≠ .clearing s then 1 else 0

def carriedBy (w : NiSystem) (k : Nat) : Nat := (w.threads k).stage.carried.toList.length

def coming (w : NiSystem) (k : Nat) : Nat := if w.task.unstored = some k then 1 else 0

/-- The ends of requests that were accepted. -/
def outcomes (w : NiSystem) : List Nat := w.informed.map NiMsg.payload ++ w.ignored ++ w.restarted

def places (w : NiSystem) (k : Nat) : Nat :=
  w.held .session k + w.held .sessionEs k + w.carriedBy k + (w.msgs.map NiMsg.payload).count k +
    w.outcomes.count k + w.refused.count k + w.coming k

structure Conserved (w : NiSystem) : Prop where
  own : ∀ t msg, (w.threads t).stage.carried = some msg → msg.payload = t
  once : ∀ k, w.places k = if k < w.arrived then 1 else 0
  freed : ∀ k, w.freed.count k = w.outcomes.count k + w.refused.count k
  accepted : ∀ req ∈ w.accepted, req.raw ∉ w.refused

/-- Nothing moves. -/
structure Unmoving (w w' : NiSystem) : Prop where
  stored : ∀ s, (w'.sessions s).rawRequest = (w.sessions s).rawRequest
  clearing : ∀ s, w'.task = .clearing s ↔ w.task = .clearing s
  unstored : w'.task.unstored = w.task.unstored
  carried : ∀ t, (w'.threads t).stage.carried = (w.threads t).stage.carried
  msgs : w'.msgs = w.msgs
  outcomes : w'.outcomes = w.outcomes
  refused : w'.refused = w.refused
  freed : w'.freed = w.freed
  arrived : w'.arrived = w.arrived

theorem Unmoving.held (h : Unmoving w w') : w'.held s k = w.held s k := by
  simp only [NiSystem.held, h.stored, ne_eq, h.clearing]

theorem Conserved.unmoving (hConserved : w.Conserved) (h : Unmoving w w')
    (hAccepted : ∀ req ∈ w'.accepted, req.raw ∉ w.refused) : w'.Conserved where
  own t msg hMsg := hConserved.own t msg ((h.carried t).symm.trans hMsg)
  once k := by
    rw [h.arrived, ← hConserved.once k, places, places, h.held, h.held, carriedBy, carriedBy,
      h.carried, h.msgs, h.outcomes, h.refused, coming, coming, h.unstored]
  freed k := by
    rw [h.freed, h.outcomes, h.refused]
    exact hConserved.freed k
  accepted req hReq := by
    rw [h.refused]
    exact hAccepted req hReq

theorem Unmoving.of_task (hStored : ∀ s, (w'.sessions s).rawRequest = (w.sessions s).rawRequest)
    (hClearing : ∀ s, w'.task ≠ .clearing s ∧ w.task ≠ .clearing s)
    (hUnstored : w'.task.unstored = w.task.unstored)
    (hCarried : ∀ t, (w'.threads t).stage.carried = (w.threads t).stage.carried)
    (hMsgs : w'.msgs = w.msgs) (hOutcomes : w'.outcomes = w.outcomes)
    (hRefused : w'.refused = w.refused) (hFreed : w'.freed = w.freed)
    (hArrived : w'.arrived = w.arrived) : Unmoving w w' where
  stored := hStored
  clearing s := iff_of_false (hClearing s).1 (hClearing s).2
  unstored := hUnstored
  carried := hCarried
  msgs := hMsgs
  outcomes := hOutcomes
  refused := hRefused
  freed := hFreed
  arrived := hArrived

theorem Unmoving.refl : Unmoving w w where
  stored _ := rfl
  clearing _ := Iff.rfl
  unstored := rfl
  carried _ := rfl
  msgs := rfl
  outcomes := rfl
  refused := rfl
  freed := rfl
  arrived := rfl

theorem Unmoving.trans {w'' : NiSystem} (h : Unmoving w w') (h' : Unmoving w' w'') :
    Unmoving w w'' where
  stored s := (h'.stored s).trans (h.stored s)
  clearing s := (h'.clearing s).trans (h.clearing s)
  unstored := h'.unstored.trans h.unstored
  carried t := (h'.carried t).trans (h.carried t)
  msgs := h'.msgs.trans h.msgs
  outcomes := h'.outcomes.trans h.outcomes
  refused := h'.refused.trans h.refused
  freed := h'.freed.trans h.freed
  arrived := h'.arrived.trans h.arrived

theorem setSession_stored {x : NiSession}
    (h : x.rawRequest = (w.sessions s).rawRequest) (s' : NiSlot) :
    ((w.setSession s x).sessions s').rawRequest = (w.sessions s').rawRequest := by
  by_cases hSame : s' = s
  · rw [hSame, setSession_same, h]
  · rw [setSession_of_ne _ _ hSame]

theorem setSession_unmoving {x : NiSession}
    (h : x.rawRequest = (w.sessions s).rawRequest) :
    Unmoving w (w.setSession s x) where
  stored := setSession_stored h
  clearing _ := Iff.rfl
  unstored := rfl
  carried _ := rfl
  msgs := rfl
  outcomes := rfl
  refused := rfl
  freed := rfl
  arrived := rfl

theorem setStage_unmoving {p : NiStage}
    (h : p.carried = (w.threads t).stage.carried) : Unmoving w (w.setStage t p) where
  stored _ := rfl
  clearing _ := Iff.rfl
  unstored := rfl
  carried t' := by
    by_cases hSame : t' = t
    · rw [hSame, setStage_same, h]
    · rw [setStage_of_ne _ _ hSame]
  msgs := rfl
  outcomes := rfl
  refused := rfl
  freed := rfl
  arrived := rfl

theorem signal_unmoving (h : w.signal s t = some w') : Unmoving w w' := by
  rcases signal_cases h with rfl | ⟨start, delay, signalled, hStage, rfl⟩
  · exact .refl
  · apply setStage_unmoving
    rw [hStage]
    rfl

theorem signal_accepted (h : w.signal s t = some w') : w'.accepted = w.accepted := by
  rcases signal_cases h with rfl | ⟨_, _, _, _, rfl⟩
  · rfl
  · rfl

theorem held_sum (s : NiSlot) :
    w.held .session k + w.held .sessionEs k = w.held s k + w.held s.other k := by
  cases s with
  | session => rfl
  | sessionEs => exact Nat.add_comm ..

theorem conserved_refuse (hKnown : w.Known) (h : w.Conserved) :
    ({ w.free (some w.arrived) with
      refused := w.refused ++ [w.arrived]
      arrived := w.arrived + 1 } : NiSystem).Conserved where
  own := h.own
  once k := by
    have hOnce := h.once k
    show w.held .session k + w.held .sessionEs k + w.carriedBy k +
      (w.msgs.map NiMsg.payload).count k + w.outcomes.count k +
        (w.refused ++ [w.arrived]).count k + w.coming k = if k < w.arrived + 1 then 1 else 0
    rw [places] at hOnce
    rw [List.count_append, List.count_singleton]
    by_cases hSame : w.arrived = k
    · rw [if_neg (by omega)] at hOnce
      rw [if_pos (beq_iff_eq.mpr hSame), if_pos (by omega)]
      omega
    · rw [if_neg (fun hEq => hSame (beq_iff_eq.mp hEq))]
      by_cases hOld : k < w.arrived
      · rw [if_pos hOld] at hOnce
        rw [if_pos (by omega)]
        omega
      · rw [if_neg hOld] at hOnce
        rw [if_neg (by omega)]
        omega
  freed k := by
    show (w.freed ++ [w.arrived]).count k = w.outcomes.count k + (w.refused ++ [w.arrived]).count k
    rw [List.count_append, List.count_append, h.freed k, Nat.add_assoc]
  accepted req hReq hMem := by
    rcases List.mem_append.mp hMem with hOld | hNew
    · exact h.accepted req hReq hOld
    · exact Nat.ne_of_lt (hKnown.accepted req hReq).1 (List.mem_singleton.mp hNew)

theorem conserved_accept (h : w.Conserved) (hTask : w.task = .idle) :
    ({ w with task := .saving s w.arrived delay, arrived := w.arrived + 1 } : NiSystem).Conserved
    where
  own := h.own
  once k := by
    have hOnce := h.once k
    have hHeld : ∀ s', ({ w with
        task := .saving s w.arrived delay, arrived := w.arrived + 1 } : NiSystem).held s' k =
          w.held s' k := by
      intro s'
      simp only [held, hTask, ne_eq, reduceCtorEq, not_false_eq_true]
    have hComing : w.coming k = 0 := by
      rw [coming, hTask]
      rfl
    rw [places] at hOnce ⊢
    rw [hHeld, hHeld]
    show w.held .session k + w.held .sessionEs k + w.carriedBy k +
      (w.msgs.map NiMsg.payload).count k + w.outcomes.count k + w.refused.count k +
        (if some w.arrived = some k then 1 else 0) = if k < w.arrived + 1 then 1 else 0
    by_cases hSame : w.arrived = k
    · rw [if_neg (by omega)] at hOnce
      rw [if_pos (congrArg some hSame), if_pos (by omega)]
      omega
    · rw [if_neg fun hEq => hSame (Option.some.inj hEq)]
      by_cases hOld : k < w.arrived
      · rw [if_pos hOld] at hOnce
        rw [if_pos (by omega)]
        omega
      · rw [if_neg hOld] at hOnce
        rw [if_neg (by omega)]
        omega
  freed := h.freed
  accepted := h.accepted

theorem Conserved.of_places (h : w.Conserved) (hArrived : w'.arrived = w.arrived)
    (hOwn : ∀ t msg, (w'.threads t).stage.carried = some msg → msg.payload = t)
    (hPlaces : ∀ k, w'.places k = w.places k)
    (hFreed : ∀ k, w'.freed.count k + w.outcomes.count k = w.freed.count k + w'.outcomes.count k)
    (hAccepted : w'.accepted = w.accepted) (hRefused : w'.refused = w.refused) :
    w'.Conserved where
  own := hOwn
  once k := by
    rw [hPlaces, hArrived]
    exact h.once k
  freed k := by
    have hOld := h.freed k
    have hNew := hFreed k
    rw [hRefused]
    omega
  accepted := by
    rw [hAccepted, hRefused]
    exact h.accepted

theorem conserved_saving (hPhases : ∀ s, w.Phase s) (h : w.Conserved)
    (hTask : w.task = .saving s raw delay) :
    ({ w.setSession s { w.sessions s with rawRequest := some raw } with
      task := .numbering s raw delay } : NiSystem).Conserved := by
  have hVacant : w.Vacant s := (hPhases s).during hTask (if_pos rfl)
  refine h.of_places rfl h.own ?_ (fun _ => rfl) rfl rfl
  intro k
  have hSet := w.setSession_same (s := s) { w.sessions s with rawRequest := some raw }
  have hOther := w.setSession_of_ne { w.sessions s with rawRequest := some raw } s.other_ne
  have hHeld : ({ w.setSession s { w.sessions s with rawRequest := some raw } with
      task := .numbering s raw delay } : NiSystem).held s k = w.coming k := by
    simp only [held, coming, hSet, hTask, NiTask.unstored, ne_eq, reduceCtorEq, not_false_eq_true,
      and_true]
  have hHeldOther : ({ w.setSession s { w.sessions s with rawRequest := some raw } with
      task := .numbering s raw delay } : NiSystem).held s.other k = w.held s.other k := by
    simp only [held, hOther, hTask, ne_eq, reduceCtorEq, not_false_eq_true, and_true]
  have hNone : w.held s k = 0 := by
    rw [held, hVacant.raw]
    rfl
  rw [places, places, held_sum s, held_sum s, hHeld, hHeldOther, hNone]
  show w.coming k + w.held s.other k + w.carriedBy k + (w.msgs.map NiMsg.payload).count k +
    w.outcomes.count k + w.refused.count k + 0 = _
  omega

theorem conserved_freeing (hPhases : ∀ s, w.Phase s) (h : w.Conserved)
    (hTask : w.task = .freeing s) :
    ({ w.free (w.sessions s).rawRequest with
      restarted := w.restarted ++ (w.sessions s).rawRequest.toList
      task := .clearing s } : NiSystem).Conserved := by
  obtain ⟨raw, hPending⟩ : ∃ k, w.Pending s k := (hPhases s).during hTask (if_pos rfl)
  have hToList : (w.sessions s).rawRequest.toList = [raw] := by
    rw [hPending.stored]
    rfl
  refine h.of_places rfl h.own ?_ ?_ rfl rfl
  · intro k
    have hHeld : w.held s k = [raw].count k := by
      rw [held, hPending.stored, hTask, List.count_singleton]
      simp only [Option.some.injEq, ne_eq, reduceCtorEq, not_false_eq_true, and_true, beq_iff_eq]
    have hHeld' : ({ w.free (w.sessions s).rawRequest with
        restarted := w.restarted ++ (w.sessions s).rawRequest.toList
        task := .clearing s } : NiSystem).held s k = 0 := if_neg fun hBoth => hBoth.2 rfl
    have hOther : ({ w.free (w.sessions s).rawRequest with
        restarted := w.restarted ++ (w.sessions s).rawRequest.toList
        task := .clearing s } : NiSystem).held s.other k = w.held s.other k := by
      simp only [held, hTask, free, ne_eq, NiTask.clearing.injEq, reduceCtorEq, not_false_eq_true,
        s.other_ne.symm]
    have hComing : w.coming k = 0 := by
      rw [coming, hTask]
      rfl
    have hOutcomes : ({ w.free (w.sessions s).rawRequest with
        restarted := w.restarted ++ (w.sessions s).rawRequest.toList
        task := .clearing s } : NiSystem).outcomes = w.outcomes ++ [raw] := by
      show _ ++ (w.restarted ++ (w.sessions s).rawRequest.toList) = _
      rw [hToList]
      exact (List.append_assoc _ _ _).symm
    rw [places, places, held_sum s, held_sum s, hHeld, hHeld', hOther, hOutcomes, hComing,
      List.count_append]
    show 0 + w.held s.other k + w.carriedBy k + (w.msgs.map NiMsg.payload).count k +
      (w.outcomes.count k + [raw].count k) + w.refused.count k + 0 = _
    omega
  · intro k
    show (w.freed ++ (w.sessions s).rawRequest.toList).count k + w.outcomes.count k =
      w.freed.count k + (w.informed.map NiMsg.payload ++ w.ignored ++
        (w.restarted ++ (w.sessions s).rawRequest.toList)).count k
    rw [← List.append_assoc, List.count_append, List.count_append]
    show _ = w.freed.count k + (w.outcomes.count k + _)
    omega

theorem conserved_clearing (h : w.Conserved) (hTask : w.task = .clearing s) :
    ({ w.setSession s { w.sessions s with rawRequest := none } with
      task := .waking s } : NiSystem).Conserved := by
  refine h.of_places rfl h.own ?_ (fun _ => rfl) rfl rfl
  intro k
  have hSet := w.setSession_same (s := s) { w.sessions s with rawRequest := none }
  have hOther := w.setSession_of_ne { w.sessions s with rawRequest := none } s.other_ne
  have hHeld : ({ w.setSession s { w.sessions s with rawRequest := none } with
      task := .waking s } : NiSystem).held s k = 0 := by
    simp only [held, hSet, reduceCtorEq, false_and, if_false]
  have hHeldOther : ({ w.setSession s { w.sessions s with rawRequest := none } with
      task := .waking s } : NiSystem).held s.other k = w.held s.other k := by
    simp only [held, hOther, hTask, ne_eq, reduceCtorEq, not_false_eq_true,
      NiTask.clearing.injEq, s.other_ne.symm]
  have hNone : w.held s k = 0 := if_neg fun hBoth => hBoth.2 hTask
  have hComing : w.coming k = 0 := by
    rw [coming, hTask]
    rfl
  rw [places, places, held_sum s, held_sum s, hHeld, hHeldOther, hNone, hComing]
  rfl

theorem conserved_proc {msg : NiMsg} {rest : List NiMsg} (h : w.Conserved)
    (hMsgs : w.msgs = msg :: rest) :
    ({ w.free (some msg.payload) with
      msgs := rest, informed := w.informed ++ [msg] } : NiSystem).Conserved := by
  have hOutcomes : ∀ k, (List.map NiMsg.payload (w.informed ++ [msg]) ++ w.ignored ++
      w.restarted).count k = w.outcomes.count k + [msg.payload].count k := by
    intro k
    rw [outcomes, List.map_append, List.count_append, List.count_append, List.count_append,
      List.count_append, List.count_append]
    show _ + [msg.payload].count k + _ + _ = _
    omega
  refine h.of_places rfl h.own ?_ ?_ rfl rfl
  · intro k
    have hOld : (w.msgs.map NiMsg.payload).count k =
        (rest.map NiMsg.payload).count k + [msg.payload].count k := by
      rw [hMsgs, List.map_cons, ← List.singleton_append, List.count_append, Nat.add_comm]
    have hNew := hOutcomes k
    rw [places, places, hOld]
    show w.held .session k + w.held .sessionEs k + w.carriedBy k +
      (rest.map NiMsg.payload).count k + (List.map NiMsg.payload (w.informed ++ [msg]) ++
        w.ignored ++ w.restarted).count k + w.refused.count k + w.coming k = _
    omega
  · intro k
    have hNew := hOutcomes k
    show (w.freed ++ [msg.payload]).count k + w.outcomes.count k = w.freed.count k +
      (List.map NiMsg.payload (w.informed ++ [msg]) ++ w.ignored ++ w.restarted).count k
    rw [List.count_append]
    omega

theorem conserved_sent {msg : Option NiMsg} (h : w.Conserved)
    (hStage : (w.threads t).stage = .sending msg) :
    ({ w.setStage t .done with msgs := w.msgs ++ msg.toList } : NiSystem).Conserved := by
  have hSet := w.setStage_same (t := t) .done
  have hOther : ∀ {t'}, t' ≠ t → (w.setStage t .done).threads t' = w.threads t' :=
    w.setStage_of_ne _
  have hCarried : (w.threads t).stage.carried = msg := by
    rw [hStage]
    rfl
  refine h.of_places rfl ?_ ?_ (fun _ => rfl) rfl rfl
  · intro t' msg' hMsg
    by_cases hSame : t' = t
    · subst hSame
      exact nomatch (congrArg (·.stage.carried) hSet).symm.trans hMsg
    · exact h.own t' msg' ((congrArg (·.stage.carried) (hOther hSame)).symm.trans hMsg)
  · intro k
    have hSent : ((w.msgs ++ msg.toList).map NiMsg.payload).count k +
        ({ w.setStage t .done with msgs := w.msgs ++ msg.toList } : NiSystem).carriedBy k =
          (w.msgs.map NiMsg.payload).count k + w.carriedBy k := by
      rw [List.map_append, List.count_append]
      by_cases hSame : k = t
      · subst hSame
        rw [carriedBy, carriedBy, hCarried]
        show _ + ((w.setStage k .done).threads k).stage.carried.toList.length = _
        rw [hSet]
        cases hMsg : msg with
        | none => rfl
        | some msg' =>
          have hOwn := h.own k msg' (hCarried.trans hMsg)
          show _ + [msg'.payload].count k + 0 = _ + 1
          rw [hOwn, List.count_singleton_self]
      · have hNone : (msg.toList.map NiMsg.payload).count k = 0 := by
          cases hMsg : msg with
          | none => rfl
          | some msg' =>
            have hOwn := h.own t msg' (hCarried.trans hMsg)
            rw [List.count_eq_zero]
            intro hMem
            exact hSame ((List.mem_singleton.mp hMem).trans hOwn)
        rw [hNone, carriedBy, carriedBy]
        show _ + ((w.setStage t .done).threads k).stage.carried.toList.length = _
        rw [hOther hSame]
        omega
    rw [places, places]
    show w.held .session k + w.held .sessionEs k +
      ({ w.setStage t .done with msgs := w.msgs ++ msg.toList } : NiSystem).carriedBy k +
        ((w.msgs ++ msg.toList).map NiMsg.payload).count k + w.outcomes.count k +
          w.refused.count k + w.coming k = _
    omega

theorem taken_payload (hStored : ∀ k, (w.sessions s).rawRequest = some k → k = t) {msg : NiMsg}
    (hMsg : w.taken s = some msg) : msg.payload = t := by
  rw [taken] at hMsg
  split at hMsg
  · obtain ⟨raw, hRaw, rfl⟩ := Option.map_eq_some_iff.mp hMsg
    exact hStored raw hRaw
  · cases hMsg

theorem held_split (hStored : ∀ k, (w.sessions s).rawRequest = some k → k = t)
    (hTask : w.task ≠ .clearing s) (k : Nat) : w.held s k =
      (if k = t then (w.taken s).toList.length else 0) + (w.discarded s).toList.count k := by
  rw [held, taken, discarded]
  cases hRaw : (w.sessions s).rawRequest with
  | none =>
    simp only [reduceCtorEq, false_and, if_false, Option.map_none, ite_self, Option.toList_none,
      List.length_nil, List.count_nil]
  | some raw =>
    have hOwn := hStored raw hRaw
    subst hOwn
    by_cases hSame : k = raw
    · subst hSame
      rw [if_pos ⟨rfl, hTask⟩, if_pos rfl]
      by_cases hIgnore : (w.sessions s).resp ≠ gpsNiResponseIgnore
      · rw [if_pos hIgnore, if_pos hIgnore]
        rfl
      · rw [if_neg hIgnore, if_neg hIgnore]
        show 1 = 0 + [k].count k
        rw [List.count_singleton_self]
    · rw [if_neg fun hBoth => hSame (Option.some.inj hBoth.1).symm, if_neg hSame]
      by_cases hIgnore : (w.sessions s).resp ≠ gpsNiResponseIgnore
      · rw [if_pos hIgnore]
        rfl
      · rw [if_neg hIgnore]
        show 0 = 0 + [raw].count k
        rw [List.count_eq_zero.mpr fun hMem => hSame (List.mem_singleton.mp hMem)]

theorem conserved_finish (hEarly : (w.threads t).stage.early = true)
    (hStored : ∀ k, (w.sessions (w.threads t).slot).rawRequest = some k → k = t)
    (hTask : w.task ≠ .clearing (w.threads t).slot) (h : w.Conserved) :
    (w.finish t).Conserved := by
  have hSet := w.setSession_same (s := (w.threads t).slot)
    { w.sessions (w.threads t).slot with respRecvd := false, rawRequest := none }
  have hOther := w.setSession_of_ne
    { w.sessions (w.threads t).slot with respRecvd := false, rawRequest := none }
      (w.threads t).slot.other_ne
  rw [finish_eq]
  have hThread := w.setStage_same (t := t) (.unlocked (w.taken (w.threads t).slot))
  have hThreads : ∀ {t'}, t' ≠ t →
      (w.setStage t (.unlocked (w.taken (w.threads t).slot))).threads t' = w.threads t' :=
    w.setStage_of_ne _
  have hOutcomes : ∀ k, (w.informed.map NiMsg.payload ++ (w.ignored ++
      (w.discarded (w.threads t).slot).toList) ++ w.restarted).count k =
        w.outcomes.count k + (w.discarded (w.threads t).slot).toList.count k := by
    intro k
    rw [outcomes]
    simp only [List.count_append]
    omega
  refine h.of_places rfl ?_ ?_ ?_ rfl rfl
  · intro t' msg hMsg
    by_cases hSame : t' = t
    · subst hSame
      exact taken_payload hStored ((congrArg (·.stage.carried) hThread).symm.trans hMsg)
    · exact h.own t' msg ((congrArg (·.stage.carried) (hThreads hSame)).symm.trans hMsg)
  · intro k
    have hSplit := held_split hStored hTask k
    have hNew := hOutcomes k
    have hCarried : ((w.setStage t (.unlocked (w.taken (w.threads t).slot))).threads
        k).stage.carried.toList.length = w.carriedBy k +
          if k = t then (w.taken (w.threads t).slot).toList.length else 0 := by
      by_cases hSame : k = t
      · subst hSame
        rw [hThread, if_pos rfl, carriedBy, NiStage.carried_of_early hEarly]
        exact (Nat.zero_add _).symm
      · rw [hThreads hSame, if_neg hSame]
        rfl
    rw [places, places, held_sum (w.threads t).slot, held_sum (w.threads t).slot]
    show (if ((w.setSession (w.threads t).slot { w.sessions (w.threads t).slot with
        respRecvd := false, rawRequest := none }).sessions (w.threads t).slot).rawRequest = some k ∧
          w.task ≠ .clearing (w.threads t).slot then 1 else 0) +
      (if ((w.setSession (w.threads t).slot { w.sessions (w.threads t).slot with
        respRecvd := false, rawRequest := none }).sessions
          (w.threads t).slot.other).rawRequest = some k ∧
          w.task ≠ .clearing (w.threads t).slot.other then 1 else 0) +
      ((w.setStage t (.unlocked (w.taken (w.threads t).slot))).threads
        k).stage.carried.toList.length + (w.msgs.map NiMsg.payload).count k +
      (w.informed.map NiMsg.payload ++ (w.ignored ++
        (w.discarded (w.threads t).slot).toList) ++ w.restarted).count k +
      w.refused.count k + w.coming k = _
    rw [hSet, hOther, hCarried, hNew, if_neg (fun hBoth => nomatch hBoth.1)]
    show 0 + w.held (w.threads t).slot.other k + _ + _ + _ + _ + _ = _
    omega
  · intro k
    have hNew := hOutcomes k
    show (w.freed ++ (w.discarded (w.threads t).slot).toList).count k + w.outcomes.count k =
      w.freed.count k + (w.informed.map NiMsg.payload ++ (w.ignored ++
        (w.discarded (w.threads t).slot).toList) ++ w.restarted).count k
    rw [List.count_append]
    omega

theorem stored_own (hPhase : w.Phase (w.threads t).slot)
    (hEarly : (w.threads t).stage.early = true) (hSettled : w.Settled (w.threads t).slot) :
    ∀ k, (w.sessions (w.threads t).slot).rawRequest = some k → k = t := by
  intro k hRaw
  rcases stored_of_settled hPhase hEarly hSettled with hAt | hAt
  · rw [hAt.stored] at hRaw
    exact (Option.some.inj hRaw).symm
  · rw [hAt.stored] at hRaw
    cases hRaw

theorem not_clearing_of_settled (h : w.Settled s) : w.task ≠ .clearing s := by
  intro hTask
  have hNone := h.2
  rw [hTask, NiTask.about, if_pos rfl] at hNone
  cases hNone

theorem store_unmoving {resp : GpsUserResponseType} (h : w.store s resp t = some w') :
    Unmoving w w' := by
  have hSet : Unmoving w (w.setSession s { w.sessions s with resp := resp, respRecvd := true }) :=
    setSession_unmoving rfl
  exact hSet.trans (signal_unmoving h)

theorem store_accepted {resp : GpsUserResponseType} (h : w.store s resp t = some w') :
    w'.accepted = w.accepted :=
  signal_accepted (w := w.setSession s { w.sessions s with resp := resp, respRecvd := true }) h

theorem conserved_checkRestart (h : w.Conserved) (hTask : w.task = .idle ∨ w.task = .checking) :
    (w.checkRestart s).Conserved := by
  have hClearing : ∀ s, w.task ≠ .clearing s := by
    intro s hEq
    rcases hTask with hTask | hTask
    · exact nomatch hTask.symm.trans hEq
    · exact nomatch hTask.symm.trans hEq
  have hUnstored : w.task.unstored = none := by
    rcases hTask with hTask | hTask
    · rw [hTask]
      rfl
    · rw [hTask]
      rfl
  unfold checkRestart
  split
  · exact h.unmoving (.of_task (fun _ => rfl) (fun s => ⟨nofun, hClearing s⟩) hUnstored.symm
      (fun _ => rfl) rfl rfl rfl rfl rfl) h.accepted
  · cases s with
    | session | sessionEs =>
      exact h.unmoving (.of_task (fun _ => rfl) (fun s => ⟨nofun, hClearing s⟩) hUnstored.symm
        (fun _ => rfl) rfl rfl rfl rfl rfl) h.accepted

theorem conserved_identifying (hPhases : ∀ s, w.Phase s) (hKnown : w.Known) (h : w.Conserved)
    (hTask : w.task = .identifying s raw delay) :
    ({ w with
      accepted := w.accepted ++ [⟨raw, s, (w.sessions s).reqID, delay⟩]
      task := .timing s raw delay } : NiSystem).Conserved := by
  have hOpening : w.Opening s raw := (hPhases s).during hTask (if_pos rfl)
  refine h.unmoving (.of_task (fun _ => rfl) (fun s' => ⟨nofun, ?_⟩)
    (by rw [hTask]; rfl) (fun _ => rfl) rfl rfl rfl rfl rfl) ?_
  · rw [hTask]
    exact nofun
  · intro req hReq
    rcases List.mem_append.mp hReq with hOld | hNew
    · exact h.accepted req hOld
    · rw [List.mem_singleton.mp hNew]
      intro hRefused
      have hOnce := h.once raw
      rw [if_pos (hKnown.raw raw (by rw [hTask]; rfl)).1, places, held_sum s] at hOnce
      have hHeld : w.held s raw = 1 := if_pos ⟨hOpening.stored, by rw [hTask]; exact nofun⟩
      have hCount : 0 < w.refused.count raw := List.count_pos_iff.mpr hRefused
      omega

theorem conserved_spawning (hKnown : w.Known) (h : w.Conserved)
    (hTask : w.task = .spawning s raw) :
    ({ w.setThread raw ⟨s, .starting⟩ with task := .idle } : NiSystem).Conserved := by
  have hAbsent := (hKnown.raw raw (by rw [hTask]; rfl)).2
  refine h.unmoving (.of_task (fun _ => rfl) (fun s' => ⟨nofun, ?_⟩)
    (by rw [hTask]; rfl) (fun t => ?_) rfl rfl rfl rfl rfl) h.accepted
  · rw [hTask]
    exact nofun
  · by_cases hSame : t = raw
    · rw [hSame, hAbsent]
      exact congrArg (·.stage.carried) (w.setThread_same _)
    · exact congrArg (·.stage.carried) (w.setThread_of_ne _ hSame)

theorem conserved_waking {q : NiTask} (h : w.Conserved) (hTask : w.task = .waking s)
    (hSignal : (w.setSession s { w.sessions s with respRecvd := true }).signal s t = some w')
    (hIdle : q = .idle ∨ q = .checking) :
    ({ w' with task := q } : NiSystem).Conserved := by
  have hSet : Unmoving w (w.setSession s { w.sessions s with respRecvd := true }) :=
    setSession_unmoving rfl
  have hMoved : Unmoving w w' := hSet.trans (signal_unmoving hSignal)
  refine h.unmoving (.of_task hMoved.stored (fun s' => ⟨?_, ?_⟩) ?_ hMoved.carried
    hMoved.msgs hMoved.outcomes hMoved.refused hMoved.freed hMoved.arrived) ?_
  · rcases hIdle with rfl | rfl
    · exact nofun
    · exact nofun
  · rw [hTask]
    exact nofun
  · rw [hTask]
    rcases hIdle with rfl | rfl
    · rfl
    · rfl
  · show ∀ req ∈ w'.accepted, _
    rw [signal_accepted hSignal]
    exact h.accepted

theorem conserved_task {x : NiSession} {q : NiTask} {counter : Nat} (h : w.Conserved)
    (hStored : x.rawRequest = (w.sessions s).rawRequest)
    (hClearing : ∀ s, q ≠ .clearing s ∧ w.task ≠ .clearing s)
    (hUnstored : q.unstored = w.task.unstored) :
    ({ w.setSession s x with reqIDCounter := counter, task := q } : NiSystem).Conserved :=
  h.unmoving (.of_task (setSession_stored hStored) hClearing hUnstored (fun _ => rfl)
    rfl rfl rfl rfl rfl) h.accepted

theorem Move.conserved (hPhases : ∀ s, w.Phase s) (hKnown : w.Known) (h : w.Conserved)
    (hMove : w.Move w') : w'.Conserved := by
  cases hMove with
  | tick | respondEs | respond | compared | missed | overriding | matched =>
    exact ⟨h.own, h.once, h.freed, h.accepted⟩
  | refuse => exact conserved_refuse hKnown h
  | accept s delay task threads => exact conserved_accept h task
  | checkRestart s task => exact conserved_checkRestart h task
  | saving s raw delay task => exact conserved_saving hPhases h task
  | numbering s raw delay task calls =>
    exact conserved_task h rfl (fun _ => ⟨nofun, by rw [task]; exact nofun⟩) (by rw [task]; rfl)
  | identifying s raw delay task => exact conserved_identifying hPhases hKnown h task
  | timing s raw delay task =>
    exact conserved_task h rfl (fun _ => ⟨nofun, by rw [task]; exact nofun⟩) (by rw [task]; rfl)
  | spawning s raw task => exact conserved_spawning hKnown h task
  | freeing s task => exact conserved_freeing hPhases h task
  | clearing s task => exact conserved_clearing h task
  | waking s w₁ task t hTask hSignal hIdle => exact conserved_waking h hTask hSignal hIdle
  | proc msg rest msgs => exact conserved_proc h msgs
  | ignored c id resp t w₁ call store | stored c s id resp t w₁ call store =>
    have hStored := h.unmoving (store_unmoving store) (by
      rw [store_accepted store]
      exact h.accepted)
    exact ⟨hStored.own, hStored.once, hStored.freed, hStored.accepted⟩
  | sleep t start delay early =>
    exact h.unmoving (setStage_unmoving (NiStage.carried_of_early early).symm) h.accepted
  | finish t early recvd settled =>
    exact conserved_finish early (stored_own (hPhases _) early settled)
      (not_clearing_of_settled settled) h
  | expire t start delay signalled stage settled =>
    have hEarly : (w.threads t).stage.early = true := by
      rw [stage]
      rfl
    have hSet : Unmoving w (w.setSession (w.threads t).slot
        { w.sessions (w.threads t).slot with resp := gpsNiResponseNoresp }) :=
      setSession_unmoving rfl
    have hMoved : Unmoving w (w.expire t delay) :=
      ⟨hSet.stored, hSet.clearing, hSet.unstored, hSet.carried, rfl, rfl, rfl, rfl, rfl⟩
    refine conserved_finish (w := w.expire t delay) hEarly (fun k hRaw => ?_)
      (not_clearing_of_settled settled) (h.unmoving hMoved h.accepted)
    exact stored_own (hPhases _) hEarly settled k ((hMoved.stored _).symm.trans hRaw)
  | unlocked t msg stage =>
    have hSet : Unmoving w (w.setSession (w.threads t).slot
        { w.sessions (w.threads t).slot with respTimeLeft := 0 }) := setSession_unmoving rfl
    refine h.unmoving (hSet.trans (setStage_unmoving ?_)) h.accepted
    exact (congrArg NiStage.carried stage).symm
  | closed t msg stage =>
    have hSet : Unmoving w (w.setSession (w.threads t).slot
        { w.sessions (w.threads t).slot with reqID := 0 }) := setSession_unmoving rfl
    refine h.unmoving (hSet.trans (setStage_unmoving ?_)) h.accepted
    exact (congrArg NiStage.carried stage).symm
  | sent t msg stage => exact conserved_sent h stage

end NiSystem

end KiwiDevice.Gps

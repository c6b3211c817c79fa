import KiwiDevice.Gps.NiPhases

/-!
# What one step does

`Unraced` names the steps at which no two threads get into each other's way. `Move` is what such a
step can do, one constructor for each statement.
-/

namespace KiwiDevice.Gps.NiSystem

variable {w w' : NiSystem} {s s' : NiSlot} {t c : Nat}

/-- Nobody is about to write to the session. -/
def Settled (w : NiSystem) (s : NiSlot) : Prop := ¬ w.Aimed s ∧ w.task.about s = none

def Unraced (w : NiSystem) : Input → Prop
  | .request s _ => w.busy s = false → ∀ t, (w.threads t).seated s = false
  | .task created _ =>
    (∀ s raw delay, w.task = .numbering s raw delay →
      ∀ c resp, w.calls c ≠ .comparing (w.reqIDCounter + 1 : Nat) resp) ∧
    ∀ s raw, w.task = .spawning s raw → created = true
  | .respond _ id _ => ∀ raw delay, w.task = .numbering .sessionEs raw delay →
    id ≠ (w.sessions .sessionEs).reqID
  | .call c _ => ∀ id resp raw delay, w.calls c = .comparing id resp →
    w.task = .numbering .session raw delay → id ≠ (w.sessions .session).reqID
  | .start t | .wake t =>
    (w.sessions (w.threads t).slot).respRecvd = true → w.Settled (w.threads t).slot
  | .timeOut t =>
    w.Settled (w.threads t).slot ∧
    ((w.sessions (w.threads t).slot).rawRequest.isSome = true →
      (w.sessions (w.threads t).slot).respRecvd = false ∧
      ((w.threads t).slot = .session →
        ∀ c resp, w.calls c ≠ .comparing (w.sessions .session).reqID resp))
  | .tick | .restart | .proc | .leave _ => True

/-- What the thread takes to the statements after its hold. -/
def taken (w : NiSystem) (s : NiSlot) : Option NiMsg :=
  if (w.sessions s).resp ≠ gpsNiResponseIgnore then
    (w.sessions s).rawRequest.map fun raw => ⟨(w.sessions s).resp, raw⟩
  else none

/-- What it frees. -/
def discarded (w : NiSystem) (s : NiSlot) : Option Nat :=
  if (w.sessions s).resp ≠ gpsNiResponseIgnore then none else (w.sessions s).rawRequest

theorem finish_eq (w : NiSystem) (t : Nat) : w.finish t =
    { ((w.setSession (w.threads t).slot
        { w.sessions (w.threads t).slot with respRecvd := false, rawRequest := none }).setStage t
          (.unlocked (w.taken (w.threads t).slot))) with
      freed := w.freed ++ (w.discarded (w.threads t).slot).toList
      ignored := w.ignored ++ (w.discarded (w.threads t).slot).toList } := by
  unfold finish taken discarded
  cases hRaw : (w.sessions (w.threads t).slot).rawRequest with
  | none =>
    simp only [hRaw, Option.map_none, ite_self, Option.toList_none, List.append_nil]
    rfl
  | some raw =>
    by_cases hIgnore : (w.sessions (w.threads t).slot).resp ≠ gpsNiResponseIgnore
    · simp only [hRaw, if_pos hIgnore, Option.map_some, Option.toList_none, List.append_nil]
      rfl
    · simp only [hRaw, if_neg hIgnore, Option.toList_some]
      rfl

theorem named_isSome {id : Int} (h : (w.named id s).isSome = true) :
    id = (w.sessions s).reqID ∧ (w.sessions s).rawRequest.isSome = true := by
  rw [named] at h
  split at h
  · rename_i hId
    exact ⟨hId, h⟩
  · cases h

inductive Move (w : NiSystem) : NiSystem → Prop where
  | tick : Move w { w with now := w.now + 1 }
  | refuse :
    Move w { w.free (some w.arrived) with
      refused := w.refused ++ [w.arrived]
      arrived := w.arrived + 1 }
  | accept (s : NiSlot) (delay : Int) (task : w.task = .idle)
      (threads : ∀ t, (w.threads t).seated s = false) :
    Move w { w with task := .saving s w.arrived delay, arrived := w.arrived + 1 }
  | checkRestart (s : NiSlot) (task : w.task = .idle ∨ w.task = .checking) :
    Move w (w.checkRestart s)
  | saving (s : NiSlot) (raw : Nat) (delay : Int) (task : w.task = .saving s raw delay) :
    Move w { w.setSession s { w.sessions s with rawRequest := some raw } with
      task := .numbering s raw delay }
  | numbering (s : NiSlot) (raw : Nat) (delay : Int) (task : w.task = .numbering s raw delay)
      (calls : ∀ c resp, w.calls c ≠ .comparing (w.reqIDCounter + 1 : Nat) resp) :
    Move w { w.setSession s { w.sessions s with reqID := w.reqIDCounter + 1 } with
      reqIDCounter := w.reqIDCounter + 1
      task := .identifying s raw delay }
  | identifying (s : NiSlot) (raw : Nat) (delay : Int) (task : w.task = .identifying s raw delay) :
    Move w { w with
      accepted := w.accepted ++ [⟨raw, s, (w.sessions s).reqID, delay⟩]
      task := .timing s raw delay }
  | timing (s : NiSlot) (raw : Nat) (delay : Int) (task : w.task = .timing s raw delay) :
    Move w { w.setSession s { w.sessions s with respTimeLeft := delay } with
      task := .spawning s raw }
  | spawning (s : NiSlot) (raw : Nat) (task : w.task = .spawning s raw) :
    Move w { w.setThread raw ⟨s, .starting⟩ with task := .idle }
  | freeing (s : NiSlot) (task : w.task = .freeing s) :
    Move w { w.free (w.sessions s).rawRequest with
      restarted := w.restarted ++ (w.sessions s).rawRequest.toList
      task := .clearing s }
  | clearing (s : NiSlot) (task : w.task = .clearing s) :
    Move w { w.setSession s { w.sessions s with rawRequest := none } with task := .waking s }
  | waking (s : NiSlot) (w₁ : NiSystem) (task : NiTask) (t : Nat) (hTask : w.task = .waking s)
      (hSignal : (w.setSession s { w.sessions s with respRecvd := true }).signal s t = some w₁)
      (hIdle : task = .idle ∨ task = .checking) :
    Move w { w₁ with task := task }
  | proc (msg : NiMsg) (rest : List NiMsg) (msgs : w.msgs = msg :: rest) :
    Move w { w.free (some msg.payload) with msgs := rest, informed := w.informed ++ [msg] }
  | respondEs (c : Nat) (id : Int) (resp : GpsUserResponseType) (call : w.calls c = .idle)
      (named : (w.named id .sessionEs).isSome = true)
      (task : ∀ raw delay, w.task ≠ .numbering .sessionEs raw delay) :
    Move w { w.setCall c (.matchedEs id resp) with given := w.given ++ [⟨id, resp, w.named id⟩] }
  | respond (c : Nat) (id : Int) (resp : GpsUserResponseType) (call : w.calls c = .idle)
      (named : w.named id .sessionEs = none) :
    Move w { w.setCall c (.comparing id resp) with given := w.given ++ [⟨id, resp, w.named id⟩] }
  | compared (c : Nat) (id : Int) (resp : GpsUserResponseType) (call : w.calls c = .comparing id resp)
      (named : (w.named id .session).isSome = true)
      (task : ∀ raw delay, w.task ≠ .numbering .session raw delay) :
    Move w (w.setCall c (.storing .session id resp))
  | missed (c : Nat) (id : Int) (resp : GpsUserResponseType) (call : w.calls c = .comparing id resp)
      (named : w.named id .session = none) :
    Move w (w.setCall c .idle)
  | overriding (c : Nat) (id : Int) (resp : GpsUserResponseType) (call : w.calls c = .matchedEs id resp)
      (stored : (w.sessions .session).rawRequest.isSome = true) :
    Move w (w.setCall c (.ignoring id resp))
  | matched (c : Nat) (id : Int) (resp : GpsUserResponseType)
      (call : w.calls c = .matchedEs id resp) :
    Move w (w.setCall c (.storing .sessionEs id resp))
  | ignored (c : Nat) (id : Int) (resp : GpsUserResponseType) (t : Nat) (w₁ : NiSystem)
      (call : w.calls c = .ignoring id resp)
      (store : w.store .session gpsNiResponseIgnore t = some w₁) :
    Move w (w₁.setCall c (.storing .sessionEs id resp))
  | stored (c : Nat) (s : NiSlot) (id : Int) (resp : GpsUserResponseType) (t : Nat) (w₁ : NiSystem)
      (call : w.calls c = .storing s id resp) (store : w.store s resp t = some w₁) :
    Move w (w₁.setCall c .idle)
  | sleep (t : Nat) (start delay : Int) (early : (w.threads t).stage.early = true)
      (recvd : (w.sessions (w.threads t).slot).respRecvd = false)
      (delayed : ∀ start' delay' signalled,
        (w.threads t).stage = .waiting start' delay' signalled → delay = delay')
      (started : (w.threads t).stage = .starting →
        delay = (w.sessions (w.threads t).slot).respTimeLeft) :
    Move w (w.setStage t (.waiting start delay false))
  | finish (t : Nat) (early : (w.threads t).stage.early = true)
      (recvd : (w.sessions (w.threads t).slot).respRecvd = true)
      (settled : w.Settled (w.threads t).slot) :
    Move w (w.finish t)
  | expire (t : Nat) (start delay : Int) (signalled : Bool)
      (stage : (w.threads t).stage = .waiting start delay signalled)
      (settled : w.Settled (w.threads t).slot)
      (unheard : (w.sessions (w.threads t).slot).rawRequest.isSome = true →
        (w.sessions (w.threads t).slot).respRecvd = false ∧
        ((w.threads t).slot = .session →
          ∀ c resp, w.calls c ≠ .comparing (w.sessions .session).reqID resp)) :
    Move w ((w.expire t delay).finish t)
  | unlocked (t : Nat) (msg : Option NiMsg) (stage : (w.threads t).stage = .unlocked msg) :
    Move w ((w.setSession (w.threads t).slot
      { w.sessions (w.threads t).slot with respTimeLeft := 0 }).setStage t (.clearing msg))
  | closed (t : Nat) (msg : Option NiMsg) (stage : (w.threads t).stage = .clearing msg) :
    Move w ((w.setSession (w.threads t).slot
      { w.sessions (w.threads t).slot with reqID := 0 }).setStage t (.sending msg))
  | sent (t : Nat) (msg : Option NiMsg) (stage : (w.threads t).stage = .sending msg) :
    Move w { w.setStage t .done with msgs := w.msgs ++ msg.toList }

theorem move_of_runTask {created : Bool} (hUnraced : w.Unraced (.task created t))
    (h : w.runTask created t = some w') : w.Move w' := by
  rw [runTask] at h
  split at h
  · cases h
  · rename_i s raw delay hTask
    cases h
    exact .saving s raw delay hTask
  · rename_i s raw delay hTask
    cases h
    exact .numbering s raw delay hTask (hUnraced.1 s raw delay hTask)
  · rename_i s raw delay hTask
    cases h
    exact .identifying s raw delay hTask
  · rename_i s raw delay hTask
    cases h
    exact .timing s raw delay hTask
  · rename_i s raw hTask
    cases h
    rw [hUnraced.2 s raw hTask]
    exact .spawning s raw hTask
  · rename_i s hTask
    cases h
    exact .freeing s hTask
  · rename_i s hTask
    cases h
    exact .clearing s hTask
  · rename_i s hTask
    obtain ⟨w₁, hSignal, hEq⟩ := Option.map_eq_some_iff.mp h
    rw [← hEq]
    refine .waking s w₁ _ t hTask hSignal ?_
    cases s with
    | session => exact .inl rfl
    | sessionEs => exact .inr rfl
  · rename_i hTask
    cases h
    exact .checkRestart .session (.inr hTask)

theorem move_of_runCall (hUnraced : w.Unraced (.call c t)) (h : w.runCall c t = some w') :
    w.Move w' := by
  rw [runCall] at h
  split at h
  · cases h
  · rename_i id resp hCall
    cases h
    split
    · rename_i hNamed
      refine .compared c id resp hCall hNamed fun raw delay hTask => ?_
      exact hUnraced id resp raw delay hCall hTask (named_isSome hNamed).1
    · rename_i hNamed
      exact .missed c id resp hCall (Option.not_isSome_iff_eq_none.mp hNamed)
  · rename_i id resp hCall
    cases h
    split
    · rename_i hAccept
      exact .overriding c id resp hCall hAccept.2
    · exact .matched c id resp hCall
  · rename_i id resp hCall
    obtain ⟨w₁, hStore, hEq⟩ := Option.map_eq_some_iff.mp h
    rw [← hEq]
    exact .ignored c id resp t w₁ hCall hStore
  · rename_i s id resp hCall
    obtain ⟨w₁, hStore, hEq⟩ := Option.map_eq_some_iff.mp h
    rw [← hEq]
    exact .stored c s id resp t w₁ hCall hStore

theorem move_of_respond {id : Int} {resp : GpsUserResponseType}
    (hUnraced : w.Unraced (.respond c id resp)) (h : w.step (.respond c id resp) = some w') :
    w.Move w' := by
  rw [step] at h
  split at h
  · rename_i hCall
    cases h
    split
    · rename_i hNamed
      refine .respondEs c id resp hCall hNamed fun raw delay hTask => ?_
      exact hUnraced raw delay hTask (named_isSome hNamed).1
    · rename_i hNamed
      exact .respond c id resp hCall (Option.not_isSome_iff_eq_none.mp hNamed)
  · cases h

/-- A thread that is before its loop or in it: it goes to sleep or takes what there is. -/
theorem move_of_start (hUnraced : w.Unraced (.start t)) (h : w.step (.start t) = some w') :
    w.Move w' := by
  rw [step] at h
  split at h
  · rename_i hStage
    have hEarly : (w.threads t).stage.early = true := by
      rw [hStage]
      rfl
    simp only at h
    split at h
    · rename_i hRecvd
      cases h
      exact .finish t hEarly hRecvd (hUnraced hRecvd)
    · rename_i hRecvd
      cases h
      refine .sleep t w.now _ hEarly (Bool.eq_false_iff.mpr hRecvd) ?_ fun _ => rfl
      intro start' delay' signalled hWaiting
      rw [hStage] at hWaiting
      cases hWaiting
  · cases h

theorem move_of_wake (hUnraced : w.Unraced (.wake t)) (h : w.step (.wake t) = some w') :
    w.Move w' := by
  rw [step] at h
  split at h
  · rename_i start delay signalled hStage
    have hEarly : (w.threads t).stage.early = true := by
      rw [hStage]
      rfl
    split at h
    · rename_i hRecvd
      cases h
      exact .finish t hEarly hRecvd (hUnraced hRecvd)
    · rename_i hRecvd
      cases h
      refine .sleep t start delay hEarly (Bool.eq_false_iff.mpr hRecvd) ?_ ?_
      · intro start' delay' signalled' hWaiting
        rw [hStage] at hWaiting
        cases hWaiting
        rfl
      · intro hStarting
        rw [hStage] at hStarting
        cases hStarting
  · cases h

theorem move_of_timeOut (hUnraced : w.Unraced (.timeOut t))
    (h : w.step (.timeOut t) = some w') : w.Move w' := by
  rw [step] at h
  split at h
  · rename_i start delay signalled hStage
    split at h
    · cases h
      exact .expire t start delay signalled hStage hUnraced.1 hUnraced.2
    · cases h
  · cases h

theorem move_of_step {i : Input} (hUnraced : w.Unraced i) (h : w.step i = some w') :
    w.Move w' := by
  cases i with
  | tick =>
    cases h
    exact .tick
  | request s timeout =>
    rw [step] at h
    split at h
    · cases h
    · rename_i hTask
      split at h
      · cases h
        exact .refuse
      · rename_i hBusy
        cases h
        exact .accept s _ (not_not.mp hTask) (hUnraced (Bool.eq_false_iff.mpr hBusy))
  | restart =>
    rw [step] at h
    split at h
    · rename_i hTask
      cases h
      exact .checkRestart .sessionEs (.inl hTask)
    · cases h
  | task created t => exact move_of_runTask hUnraced h
  | proc =>
    rw [step] at h
    split at h
    · rename_i msg rest _ hMsgs
      cases h
      exact .proc msg rest hMsgs
    · cases h
  | respond c id resp => exact move_of_respond hUnraced h
  | call c t => exact move_of_runCall hUnraced h
  | start t => exact move_of_start hUnraced h
  | wake t => exact move_of_wake hUnraced h
  | timeOut t => exact move_of_timeOut hUnraced h
  | leave t =>
    rw [step] at h
    split at h
    · rename_i msg hStage
      cases h
      exact .unlocked t msg hStage
    · rename_i msg hStage
      cases h
      exact .closed t msg hStage
    · rename_i msg hStage
      cases h
      exact .sent t msg hStage
    · cases h

end KiwiDevice.Gps.NiSystem

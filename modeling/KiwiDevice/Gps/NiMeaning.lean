import KiwiDevice.Gps.NiPhaseSteps

/-!
# What the entries of a session mean

The numbers that are in use, and for a session with a request: the response in it is one that was
given for the request, the record of the request is its own, and a response that was given for it
has arrived or is on its way.
-/

namespace KiwiDevice.Gps

namespace NiTask

/-- The request that the message task is about to store. -/
def unstored : NiTask → Option Nat
  | .saving _ raw _ => some raw
  | _ => none

/-- The request of the handler before the user's notification has its id. -/
def unrecorded : NiTask → Option Nat
  | .saving _ raw _ | .numbering _ raw _ | .identifying _ raw _ => some raw
  | _ => none

/-- The request of the handler. -/
def raw : NiTask → Option Nat
  | .saving _ raw _ | .numbering _ raw _ | .identifying _ raw _ | .timing _ raw _
  | .spawning _ raw => some raw
  | _ => none

end NiTask

/-- The thread is past its hold. -/
def NiStage.late : NiStage → Bool
  | .unlocked _ | .clearing _ | .sending _ | .done => true
  | _ => false

namespace NiSystem

variable {w w' : NiSystem} {s s' : NiSlot} {k t c : Nat}

/-- The numbers of requests, and which of them are in use. -/
structure Known (w : NiSystem) : Prop where
  absent : ∀ k, w.arrived ≤ k → (w.threads k).stage = .absent
  raw : ∀ k, w.task.raw = some k → k < w.arrived ∧ (w.threads k).stage = .absent
  counter : ∀ s, (w.sessions s).reqID ≤ w.reqIDCounter
  distinct : 0 < (w.sessions .session).reqID →
    (w.sessions .session).reqID ≠ (w.sessions .sessionEs).reqID
  stored : ∀ s k, (w.sessions s).rawRequest = some k → k < w.arrived ∧ w.task.unstored ≠ some k
  named : ∀ g ∈ w.given, ∀ s k, g.named s = some k → k < w.arrived ∧ w.task.unstored ≠ some k
  accepted : ∀ req ∈ w.accepted, req.raw < w.arrived ∧ w.task.unrecorded ≠ some req.raw
  expired : ∀ e ∈ w.expired, (w.threads e.raw).stage.late = true

/-- The user gave the response for the id, and it named the request. -/
def Given (w : NiSystem) (id : Int) (resp : GpsUserResponseType) (s : NiSlot) (k : Nat) : Prop :=
  ∃ g ∈ w.given, g.id = id ∧ g.resp = resp ∧ g.named s = some k

/-- The time that the thread of the request waits is the delay of its record. -/
structure Timed (w : NiSystem) (s : NiSlot) (k : Nat) (delay : Int) : Prop where
  starting : (w.threads k).stage = .starting → (w.sessions s).respTimeLeft = delay
  waiting : ∀ start delay' signalled, (w.threads k).stage = .waiting start delay' signalled →
    delay' = delay
  timing : ∀ delay', w.task = .timing s k delay' → delay' = delay
  spawning : w.task = .spawning s k → (w.sessions s).respTimeLeft = delay

/-- A response for the id has arrived or is on its way. -/
def OnItsWay (w : NiSystem) (s : NiSlot) : Prop :=
  (w.sessions s).respRecvd = true ∨ (∃ c, ((w.calls c).answers s).isSome = true) ∨
    s = .session ∧ ∃ c resp, w.calls c = .comparing (w.sessions s).reqID resp

structure Meant (w : NiSystem) (s : NiSlot) (k : Nat) : Prop where
  comparing : s = .session → ∀ c id resp, w.calls c = .comparing id resp →
    id = (w.sessions s).reqID → 0 < (w.sessions s).reqID → w.Given id resp s k
  answers : ∀ c id resp, (w.calls c).answers s = some (id, resp) →
    w.Given id resp s k ∧ id = (w.sessions s).reqID
  recvd : (w.sessions s).respRecvd = true → (w.sessions s).resp = gpsNiResponseIgnore ∨
    0 < (w.sessions s).reqID ∧ w.Given (w.sessions s).reqID (w.sessions s).resp s k
  named : ∀ g ∈ w.given, g.named s = some k → g.id = 0 ∨ g.id = (w.sessions s).reqID
  heard : 0 < (w.sessions s).reqID → ∀ g ∈ w.given, g.named s = some k →
    g.id = (w.sessions s).reqID → w.OnItsWay s
  record : ∀ req ∈ w.accepted, req.raw = k →
    req.slot = s ∧ req.id = (w.sessions s).reqID ∧ w.Timed s k req.delay
  recorded : w.task.unrecorded ≠ some k → ∃ req ∈ w.accepted, req.raw = k

/-- Every session with a request means what it says. -/
def Meaningful (w : NiSystem) : Prop :=
  ∀ s k, (w.sessions s).rawRequest = some k → w.Meant s k

theorem Known.setStage {p : NiStage} (h : w.Known) (hOld : (w.threads t).stage ≠ .absent)
    (hLate : (w.threads t).stage.late = true → p.late = true) :
    (w.setStage t p).Known where
  absent k hArrived := by
    have hAbsent := h.absent k hArrived
    have hNe : k ≠ t := by
      rintro rfl
      exact hOld hAbsent
    rw [setStage_of_ne _ _ hNe, hAbsent]
  raw k hTask := by
    obtain ⟨hArrived, hAbsent⟩ := h.raw k hTask
    have hNe : k ≠ t := by
      rintro rfl
      exact hOld hAbsent
    rw [setStage_of_ne _ _ hNe]
    exact ⟨hArrived, hAbsent⟩
  counter := h.counter
  distinct := h.distinct
  stored := h.stored
  named := h.named
  accepted := h.accepted
  expired e hMem := by
    by_cases hSame : e.raw = t
    · rw [hSame, setStage_same]
      apply hLate
      rw [← hSame]
      exact h.expired e hMem
    · rw [setStage_of_ne _ _ hSame]
      exact h.expired e hMem

theorem Known.setReqID {x : NiSession} (h : w.Known)
    (hReqID : x.reqID = (w.sessions s).reqID ∨ x.reqID = 0) :
    (∀ s', ((w.setSession s x).sessions s').reqID ≤ w.reqIDCounter) ∧
    (0 < ((w.setSession s x).sessions .session).reqID →
      ((w.setSession s x).sessions .session).reqID ≠
        ((w.setSession s x).sessions .sessionEs).reqID) := by
  constructor
  · intro s'
    by_cases hSame : s' = s
    · rw [hSame, setSession_same]
      rcases hReqID with hKept | hZero
      · rw [hKept]
        exact h.counter s
      · rw [hZero]
        exact Nat.zero_le _
    · rw [setSession_of_ne _ _ hSame]
      exact h.counter s'
  · cases s with
    | session =>
      rw [setSession_same, setSession_of_ne _ _ (by decide)]
      rcases hReqID with hKept | hZero
      · rw [hKept]
        exact h.distinct
      · rw [hZero]
        exact fun hPos => absurd hPos (Nat.lt_irrefl _)
    | sessionEs =>
      rw [setSession_same, setSession_of_ne _ _ (by decide)]
      rcases hReqID with hKept | hZero
      · rw [hKept]
        exact h.distinct
      · rw [hZero]
        exact fun hPos => Nat.ne_of_gt hPos

theorem Known.setSession {x : NiSession} (h : w.Known)
    (hReqID : x.reqID = (w.sessions s).reqID ∨ x.reqID = 0)
    (hStored : ∀ k, x.rawRequest = some k → (w.sessions s).rawRequest = some k) :
    (w.setSession s x).Known where
  absent := h.absent
  raw := h.raw
  counter := (h.setReqID hReqID).1
  distinct := (h.setReqID hReqID).2
  stored s' k hRaw := by
    by_cases hSame : s' = s
    · rw [hSame, setSession_same] at hRaw
      exact h.stored s k (hStored k hRaw)
    · rw [setSession_of_ne _ _ hSame] at hRaw
      exact h.stored s' k hRaw
  named := h.named
  accepted := h.accepted
  expired := h.expired

theorem Known.task {q : NiTask} (h : w.Known)
    (hRaw : ∀ k, q.raw = some k → w.task.raw = some k)
    (hUnstored : ∀ k, q.unstored = some k → w.task.unstored = some k)
    (hUnrecorded : ∀ k, q.unrecorded = some k → w.task.unrecorded = some k) :
    ({ w with task := q } : NiSystem).Known where
  absent := h.absent
  raw k hTask := h.raw k (hRaw k hTask)
  counter := h.counter
  distinct := h.distinct
  stored s k hStored := ⟨(h.stored s k hStored).1, fun hTask => (h.stored s k hStored).2 (hUnstored k hTask)⟩
  named g hg s k hNamed :=
    ⟨(h.named g hg s k hNamed).1, fun hTask => (h.named g hg s k hNamed).2 (hUnstored k hTask)⟩
  accepted req hReq :=
    ⟨(h.accepted req hReq).1, fun hTask => (h.accepted req hReq).2 (hUnrecorded _ hTask)⟩
  expired := h.expired

theorem named_eq_some {id : Int} (h : w.named id s = some k) :
    id = (w.sessions s).reqID ∧ (w.sessions s).rawRequest = some k := by
  rw [NiSystem.named] at h
  split at h
  · rename_i hId
    exact ⟨hId, h⟩
  · cases h

theorem Known.given {id : Int} {resp : GpsUserResponseType} (h : w.Known) :
    ∀ g ∈ w.given ++ [⟨id, resp, w.named id⟩], ∀ s k, g.named s = some k →
      k < w.arrived ∧ w.task.unstored ≠ some k := by
  intro g hg s k hNamed
  rcases List.mem_append.mp hg with hOld | hNew
  · exact h.named g hOld s k hNamed
  · rw [List.mem_singleton.mp hNew] at hNamed
    exact h.stored s k (named_eq_some hNamed).2

theorem Known.signal (h : w.Known) (hSignal : w.signal s t = some w') : w'.Known := by
  rcases signal_cases hSignal with rfl | ⟨start, delay, signalled, hStage, rfl⟩
  · exact h
  · apply h.setStage
    · rw [hStage]
      exact NiStage.noConfusion
    · rw [hStage]
      exact id

theorem Known.store {resp : GpsUserResponseType} (h : w.Known)
    (hStore : w.store s resp t = some w') : w'.Known :=
  (h.setSession (x := { w.sessions s with resp := resp, respRecvd := true }) (.inl rfl)
    fun _ => id).signal hStore

theorem Known.finish (h : w.Known) (hEarly : (w.threads t).stage.early = true) :
    (w.finish t).Known := by
  rw [finish_eq]
  have hOld : (w.threads t).stage ≠ .absent := by
    intro hAbsent
    rw [hAbsent] at hEarly
    cases hEarly
  have hSet := (h.setSession (s := (w.threads t).slot)
    (x := { w.sessions (w.threads t).slot with respRecvd := false, rawRequest := none })
    (.inl rfl) nofun).setStage (t := t) (p := .unlocked (w.taken (w.threads t).slot)) hOld
      fun _ => rfl
  exact ⟨hSet.absent, hSet.raw, hSet.counter, hSet.distinct, hSet.stored, hSet.named,
    hSet.accepted, hSet.expired⟩

/-- The session of a thread that has not taken its request, when nobody is about to write to it. -/
theorem stored_of_settled (hPhase : w.Phase (w.threads t).slot)
    (hEarly : (w.threads t).stage.early = true) (hSettled : w.Settled (w.threads t).slot) :
    w.Pending (w.threads t).slot t ∨ w.Dropped (w.threads t).slot t := by
  have hSeated : (w.threads t).seated (w.threads t).slot = true :=
    NiThread.seated_iff.mpr ⟨NiStage.seated_of_early hEarly, rfl⟩
  cases hPhase.resting hSettled.2 with
  | free hAt =>
    rw [hAt.threads t] at hSeated
    cases hSeated
  | pending k hAt =>
    have hSame := (hAt.alone t).mp hSeated
    subst hSame
    exact .inl hAt
  | dropped k hAt =>
    have hSame := (hAt.alone t).mp hSeated
    subst hSame
    exact .inr hAt
  | closing k hAt =>
    have hLate := hAt.late
    rw [← (hAt.alone t).mp hSeated, NiThread.early, hEarly, decide_eq_true rfl] at hLate
    cases hLate

theorem Move.known (hPhases : ∀ s, w.Phase s) (h : w.Known) (hMove : w.Move w') : w'.Known := by
  cases hMove with
  | tick | proc | compared | missed | overriding | matched =>
    exact ⟨h.absent, h.raw, h.counter, h.distinct, h.stored, h.named, h.accepted, h.expired⟩
  | refuse =>
    constructor
    · exact fun k hArrived => h.absent k (Nat.le_of_succ_le hArrived)
    · exact fun k hTask => ⟨Nat.lt_succ_of_lt (h.raw k hTask).1, (h.raw k hTask).2⟩
    · exact h.counter
    · exact h.distinct
    · exact fun s k hRaw => ⟨Nat.lt_succ_of_lt (h.stored s k hRaw).1, (h.stored s k hRaw).2⟩
    · exact fun g hg s k hRaw =>
        ⟨Nat.lt_succ_of_lt (h.named g hg s k hRaw).1, (h.named g hg s k hRaw).2⟩
    · exact fun req hReq => ⟨Nat.lt_succ_of_lt (h.accepted req hReq).1, (h.accepted req hReq).2⟩
    · exact h.expired
  | accept s delay task threads =>
    have hNew : ∀ {k}, k < w.arrived → some w.arrived ≠ some k := by
      intro k hk hEq
      exact Nat.lt_irrefl k (Option.some.inj hEq ▸ hk)
    constructor
    · exact fun k hArrived => h.absent k (Nat.le_of_succ_le hArrived)
    · intro k hTask
      have hSame : w.arrived = k := Option.some.inj hTask
      rw [← hSame]
      exact ⟨Nat.lt_succ_self _, h.absent _ (Nat.le_refl _)⟩
    · exact h.counter
    · exact h.distinct
    · exact fun s k hRaw => ⟨Nat.lt_succ_of_lt (h.stored s k hRaw).1, hNew (h.stored s k hRaw).1⟩
    · exact fun g hg s k hRaw =>
        ⟨Nat.lt_succ_of_lt (h.named g hg s k hRaw).1, hNew (h.named g hg s k hRaw).1⟩
    · exact fun req hReq => ⟨Nat.lt_succ_of_lt (h.accepted req hReq).1, hNew (h.accepted req hReq).1⟩
    · exact h.expired
  | checkRestart s task =>
    unfold NiSystem.checkRestart
    split
    · exact h.task nofun nofun nofun
    · cases s with
      | session | sessionEs => exact h.task nofun nofun nofun
  | saving s raw delay task =>
    have hRaw := h.raw raw (by rw [task]; rfl)
    constructor
    · exact h.absent
    · intro k hTask
      exact h.raw k (by rw [task]; exact hTask)
    · exact (h.setReqID (s := s) (x := { w.sessions s with rawRequest := some raw })
        (.inl rfl)).1
    · exact (h.setReqID (s := s) (x := { w.sessions s with rawRequest := some raw })
        (.inl rfl)).2
    · intro s' k hStored
      refine ⟨?_, nofun⟩
      by_cases hSame : s' = s
      · have hNew : some raw = some k := by
          rw [← hStored, hSame]
          show some raw = ((w.setSession s _).sessions s).rawRequest
          rw [setSession_same]
        rw [← Option.some.inj hNew]
        exact hRaw.1
      · have hOld : (w.sessions s').rawRequest = some k := by
          rw [← hStored]
          exact (congrArg _ (w.setSession_of_ne _ hSame)).symm
        exact (h.stored s' k hOld).1
    · exact fun g hg s k hNamed => ⟨(h.named g hg s k hNamed).1, nofun⟩
    · intro req hReq
      refine ⟨(h.accepted req hReq).1, ?_⟩
      have hOld := (h.accepted req hReq).2
      rw [task] at hOld
      exact hOld
    · exact h.expired
  | numbering s raw delay task calls =>
    constructor
    · exact h.absent
    · intro k hTask
      exact h.raw k (by rw [task]; exact hTask)
    · intro s'
      by_cases hSame : s' = s
      · rw [hSame]
        exact Nat.le_of_eq (congrArg _ (w.setSession_same _))
      · refine Nat.le_trans (Nat.le_of_eq (congrArg _ (w.setSession_of_ne _ hSame))) ?_
        exact Nat.le_succ_of_le (h.counter s')
    · have hSession := h.counter .session
      have hEs := h.counter .sessionEs
      cases s with
      | session =>
        intro _
        refine Nat.ne_of_gt (Nat.lt_of_le_of_lt ?_ (Nat.lt_succ_self w.reqIDCounter))
        exact hEs
      | sessionEs =>
        intro _
        exact Nat.ne_of_lt (Nat.lt_succ_of_le hSession)
    · intro s' k hStored
      refine ⟨?_, nofun⟩
      apply (h.stored s' k _).1
      rw [← hStored]
      by_cases hSame : s' = s
      · rw [hSame]
        show _ = ((w.setSession s _).sessions s).rawRequest
        rw [setSession_same]
      · exact (congrArg NiSession.rawRequest (w.setSession_of_ne _ hSame)).symm
    · exact fun g hg s k hNamed => ⟨(h.named g hg s k hNamed).1, nofun⟩
    · intro req hReq
      refine ⟨(h.accepted req hReq).1, ?_⟩
      have hOld := (h.accepted req hReq).2
      rw [task] at hOld
      exact hOld
    · exact h.expired
  | identifying s raw delay task =>
    have hRaw := h.raw raw (by rw [task]; rfl)
    constructor
    · exact h.absent
    · intro k hTask
      exact h.raw k (by rw [task]; exact hTask)
    · exact h.counter
    · exact h.distinct
    · exact fun s k hStored => ⟨(h.stored s k hStored).1, nofun⟩
    · exact fun g hg s k hNamed => ⟨(h.named g hg s k hNamed).1, nofun⟩
    · intro req hReq
      refine ⟨?_, nofun⟩
      rcases List.mem_append.mp hReq with hOld | hNew
      · exact (h.accepted req hOld).1
      · rw [List.mem_singleton.mp hNew]
        exact hRaw.1
    · exact h.expired
  | timing s raw delay task =>
    have hSet := h.setSession (s := s) (x := { w.sessions s with respTimeLeft := delay })
      (.inl rfl) fun _ => id
    refine hSet.task (q := .spawning s raw) ?_ nofun nofun
    intro k hTask
    show w.task.raw = some k
    rw [task]
    exact hTask
  | spawning s raw task =>
    have hRaw := h.raw raw (by rw [task]; rfl)
    constructor
    · intro k hArrived
      have hNe : k ≠ raw := fun hSame => Nat.not_lt_of_le hArrived (hSame ▸ hRaw.1)
      exact (congrArg _ (w.setThread_of_ne _ hNe)).trans (h.absent k hArrived)
    · exact nofun
    · exact h.counter
    · exact h.distinct
    · exact fun s k hStored => ⟨(h.stored s k hStored).1, nofun⟩
    · exact fun g hg s k hNamed => ⟨(h.named g hg s k hNamed).1, nofun⟩
    · exact fun req hReq => ⟨(h.accepted req hReq).1, nofun⟩
    · intro e hMem
      have hLate := h.expired e hMem
      have hNe : e.raw ≠ raw := by
        intro hSame
        rw [hSame, hRaw.2] at hLate
        cases hLate
      exact (congrArg (·.stage.late) (w.setThread_of_ne _ hNe)).trans hLate
  | freeing s task =>
    have hSet := h.task (q := .clearing s) nofun nofun nofun
    exact ⟨hSet.absent, hSet.raw, hSet.counter, hSet.distinct, hSet.stored, hSet.named,
      hSet.accepted, hSet.expired⟩
  | clearing s task =>
    have hSet := h.setSession (s := s) (x := { w.sessions s with rawRequest := none })
      (.inl rfl) nofun
    exact hSet.task nofun nofun nofun
  | waking s w₁ task t hTask hSignal hIdle =>
    have hSet := (h.setSession (s := s) (x := { w.sessions s with respRecvd := true })
      (.inl rfl) fun _ => id).signal hSignal
    rcases hIdle with rfl | rfl
    · exact hSet.task nofun nofun nofun
    · exact hSet.task nofun nofun nofun
  | respondEs c id resp call named task =>
    exact ⟨h.absent, h.raw, h.counter, h.distinct, h.stored, h.given, h.accepted, h.expired⟩
  | respond c id resp call named =>
    exact ⟨h.absent, h.raw, h.counter, h.distinct, h.stored, h.given, h.accepted, h.expired⟩
  | ignored c id resp t w₁ call store =>
    have hStored := h.store store
    exact ⟨hStored.absent, hStored.raw, hStored.counter, hStored.distinct, hStored.stored,
      hStored.named, hStored.accepted, hStored.expired⟩
  | stored c s id resp t w₁ call store =>
    have hStored := h.store store
    exact ⟨hStored.absent, hStored.raw, hStored.counter, hStored.distinct, hStored.stored,
      hStored.named, hStored.accepted, hStored.expired⟩
  | sleep t start delay early recvd =>
    apply h.setStage
    · intro hAbsent
      rw [hAbsent] at early
      cases early
    · intro hLate
      cases hStage : (w.threads t).stage with
      | starting | waiting =>
        rw [hStage] at hLate
        cases hLate
      | absent | unlocked | clearing | sending | done =>
        rw [hStage] at early
        cases early
  | finish t early recvd settled => exact h.finish early
  | expire t start delay signalled stage settled =>
    have hEarly : (w.threads t).stage.early = true := by
      rw [stage]
      rfl
    have hExpire : (w.setSession (w.threads t).slot
        { w.sessions (w.threads t).slot with resp := gpsNiResponseNoresp }).Known :=
      h.setSession (.inl rfl) fun _ => id
    have hFinish := hExpire.finish (t := t) hEarly
    rw [finish_eq] at hFinish ⊢
    refine ⟨hFinish.absent, hFinish.raw, hFinish.counter, hFinish.distinct, hFinish.stored,
      hFinish.named, hFinish.accepted, ?_⟩
    intro e hMem
    rcases List.mem_append.mp hMem with hOld | hNew
    · exact hFinish.expired e hOld
    · obtain ⟨raw, hRaw, rfl⟩ := List.mem_map.mp hNew
      have hStored := Option.mem_toList.mp hRaw
      rcases stored_of_settled (hPhases _) hEarly settled with hAt | hAt
      · rw [hAt.stored] at hStored
        cases hStored
        exact congrArg (·.stage.late) (setStage_same _ _)
      · rw [hAt.stored] at hStored
        cases hStored
  | unlocked t msg stage =>
    apply Known.setStage
    · exact h.setSession (.inl rfl) fun _ => id
    · exact fun hAbsent => nomatch stage.symm.trans hAbsent
    · exact fun _ => rfl
  | closed t msg stage =>
    apply Known.setStage
    · exact h.setSession (.inr rfl) fun _ => id
    · exact fun hAbsent => nomatch stage.symm.trans hAbsent
    · exact fun _ => rfl
  | sent t msg stage =>
    have hSet := h.setStage (t := t) (p := .done)
      (fun hAbsent => nomatch stage.symm.trans hAbsent) fun _ => rfl
    exact ⟨hSet.absent, hSet.raw, hSet.counter, hSet.distinct, hSet.stored, hSet.named,
      hSet.accepted, hSet.expired⟩

theorem stored_cases (hPhase : w.Phase s) (hRaw : (w.sessions s).rawRequest = some k) :
    (w.threads k).early s = true ∨ w.task.about s = some w.task ∧ w.task.raw = some k := by
  cases hTask : w.task.about s with
  | none =>
    cases hPhase.resting hTask with
    | free hAt =>
      rw [hAt.raw] at hRaw
      cases hRaw
    | pending k' hAt =>
      rw [hAt.stored] at hRaw
      cases hRaw
      exact .inl hAt.early
    | dropped k' hAt | closing k' hAt =>
      rw [hAt.stored] at hRaw
      cases hRaw
  | some task =>
    have hSame := eq_of_about hTask
    rw [Phase, hTask] at hPhase
    rw [hSame]
    cases task with
    | idle | checking => exact hPhase.elim
    | saving =>
      rw [hPhase.raw] at hRaw
      cases hRaw
    | numbering | identifying | timing | spawning =>
      rw [hPhase.stored] at hRaw
      exact .inr ⟨rfl, hRaw⟩
    | freeing | clearing =>
      obtain ⟨k', hAt⟩ := hPhase
      rw [hAt.stored] at hRaw
      cases hRaw
      exact .inl hAt.early
    | waking =>
      obtain ⟨k', hAt⟩ := hPhase
      rw [hAt.stored] at hRaw
      cases hRaw

theorem early_of_stored (hPhase : w.Phase s) (hTask : w.task.about s = none)
    (hRaw : (w.sessions s).rawRequest = some k) : (w.threads k).early s = true := by
  rcases stored_cases hPhase hRaw with hEarly | hOpen
  · exact hEarly
  · rw [hTask] at hOpen
    cases hOpen.1

theorem ne_of_raw {raw : Nat} (h : w.Known) (hEarly : (w.threads k).early s = true)
    (hTask : w.task.raw = some raw) : k ≠ raw := by
  rintro rfl
  have hStage := (NiThread.early_iff.mp hEarly).1
  rw [(h.raw k hTask).2] at hStage
  cases hStage

theorem numbered (hPhase : w.Phase s) (hRaw : (w.sessions s).rawRequest = some k)
    (hTask : ∀ raw delay, w.task ≠ .numbering s raw delay) : 0 < (w.sessions s).reqID := by
  cases hAbout : w.task.about s with
  | none =>
    cases hPhase.resting hAbout with
    | free hAt =>
      rw [hAt.raw] at hRaw
      cases hRaw
    | pending k' hAt => exact hAt.reqID
    | dropped k' hAt | closing k' hAt =>
      rw [hAt.stored] at hRaw
      cases hRaw
  | some task =>
    have hSame := eq_of_about hAbout
    have hAt : w.During s task := by
      rw [Phase, hAbout] at hPhase
      exact hPhase
    cases task with
    | idle | checking => exact hAt.elim
    | saving =>
      rw [hAt.raw] at hRaw
      cases hRaw
    | numbering s' raw delay =>
      have hSlot : s' = s := by
        rw [hSame, NiTask.about] at hAbout
        split at hAbout
        · assumption
        · cases hAbout
      rw [hSlot] at hSame
      exact absurd hSame (hTask raw delay)
    | identifying | timing | spawning => exact hAt.reqID
    | freeing | clearing =>
      obtain ⟨k', hAt⟩ := hAt
      exact hAt.reqID
    | waking =>
      obtain ⟨k', hAt⟩ := hAt
      rw [hAt.stored] at hRaw
      cases hRaw

theorem numbered_of_answers (hPhase : w.Phase s) (hRaw : (w.sessions s).rawRequest = some k)
    (hAnswers : ((w.calls c).answers s).isSome = true) : 0 < (w.sessions s).reqID := by
  apply numbered hPhase hRaw
  intro raw delay hTask
  have hAt : w.Numbering s raw := hPhase.during hTask (if_pos rfl)
  rw [hAt.calls c] at hAnswers
  cases hAnswers

/-- What a step keeps of a request that it is not about. -/
structure Alike (w w' : NiSystem) (s : NiSlot) (k : Nat) : Prop where
  session : w'.sessions s = w.sessions s
  given : w'.given = w.given
  accepted : w'.accepted = w.accepted
  starting : (w'.threads k).stage = .starting → (w.threads k).stage = .starting
  waiting : ∀ start delay signalled, (w'.threads k).stage = .waiting start delay signalled →
    ∃ start' signalled', (w.threads k).stage = .waiting start' delay signalled'
  timing : ∀ delay, w'.task = .timing s k delay → w.task = .timing s k delay
  spawning : w'.task = .spawning s k → w.task = .spawning s k
  unrecorded : w'.task.unrecorded ≠ some k → w.task.unrecorded ≠ some k

theorem Alike.timed {delay : Int} (h : Alike w w' s k) (hTimed : w.Timed s k delay) :
    w'.Timed s k delay where
  starting hStage := by
    rw [h.session]
    exact hTimed.starting (h.starting hStage)
  waiting start delay' signalled hStage := by
    obtain ⟨start', signalled', hOld⟩ := h.waiting start delay' signalled hStage
    exact hTimed.waiting start' delay' signalled' hOld
  timing delay' hTask := hTimed.timing delay' (h.timing delay' hTask)
  spawning hTask := by
    rw [h.session]
    exact hTimed.spawning (h.spawning hTask)

/-- The calls may change as long as what they are about to store, and what they look for, stays. -/
theorem Alike.meant (h : Alike w w' s k) (hMeant : w.Meant s k)
    (hComparing : s = .session → ∀ c id resp, w'.calls c = .comparing id resp ↔
      w.calls c = .comparing id resp)
    (hAnswers : ∀ c, (w'.calls c).answers s = (w.calls c).answers s) : w'.Meant s k where
  comparing hSlot c id resp hCall := by
    rw [h.session, Given, h.given]
    exact hMeant.comparing hSlot c id resp ((hComparing hSlot c id resp).mp hCall)
  answers c id resp hCall := by
    rw [hAnswers] at hCall
    rw [h.session, Given, h.given]
    exact hMeant.answers c id resp hCall
  recvd := by
    rw [h.session, Given, h.given]
    exact hMeant.recvd
  named := by
    rw [h.session, h.given]
    exact hMeant.named
  heard := by
    rw [h.session, h.given, OnItsWay, h.session]
    intro hPos g hg hNamed hId
    rcases hMeant.heard hPos g hg hNamed hId with hRecvd | ⟨c, hCall⟩ | ⟨hSlot, c, resp, hCall⟩
    · exact .inl hRecvd
    · exact .inr (.inl ⟨c, by rw [hAnswers]; exact hCall⟩)
    · exact .inr (.inr ⟨hSlot, c, resp, (hComparing hSlot c _ resp).mpr hCall⟩)
  record := by
    rw [h.session, h.accepted]
    intro req hReq hSame
    obtain ⟨hSlot, hId, hTimed⟩ := hMeant.record req hReq hSame
    exact ⟨hSlot, hId, h.timed hTimed⟩
  recorded := by
    rw [h.accepted]
    exact fun hTask => hMeant.recorded (h.unrecorded hTask)

theorem Alike.meant_of_calls (h : Alike w w' s k) (hMeant : w.Meant s k)
    (hCalls : w'.calls = w.calls) : w'.Meant s k := by
  apply h.meant hMeant
  · intro _ c id resp
    rw [hCalls]
  · intro c
    rw [hCalls]

end NiSystem

end KiwiDevice.Gps

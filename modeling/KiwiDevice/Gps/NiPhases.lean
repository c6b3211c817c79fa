import KiwiDevice.Gps.NiRequests

/-!
# The phases of a session

Between two statements a session is in one of seven phases. When a new request waits for the thread
of the last one, and a thread leaves its loop only when nobody is about to write to its session, the
phases follow each other, and the thread of a request is alone with its session.
-/

namespace KiwiDevice.Gps

variable {s s' : NiSlot} {t : Nat}

namespace NiStage

/-- The thread still takes what it finds in the session. -/
def early : NiStage → Bool
  | .starting | .waiting .. => true
  | _ => false

/-- The thread is not past its last access to the session. -/
def seated : NiStage → Bool
  | .starting | .waiting .. | .unlocked _ | .clearing _ => true
  | _ => false

theorem seated_of_early {p : NiStage} (h : p.early = true) : p.seated = true := by
  cases p with
  | starting => rfl
  | waiting => rfl
  | absent => cases h
  | unlocked => cases h
  | clearing => cases h
  | sending => cases h
  | done => cases h

end NiStage

namespace NiThread

def early (thread : NiThread) (s : NiSlot) : Bool := thread.stage.early && (thread.slot = s)

def seated (thread : NiThread) (s : NiSlot) : Bool := thread.stage.seated && (thread.slot = s)

variable {thread : NiThread}

theorem early_iff : thread.early s = true ↔ thread.stage.early = true ∧ thread.slot = s := by
  rw [early, Bool.and_eq_true, decide_eq_true_iff]

theorem seated_iff : thread.seated s = true ↔ thread.stage.seated = true ∧ thread.slot = s := by
  rw [seated, Bool.and_eq_true, decide_eq_true_iff]

end NiThread

namespace NiTask

/-- The statement that the message task is at, when it is about the session. -/
def about (task : NiTask) (s : NiSlot) : Option NiTask :=
  match task with
  | .idle | .checking => none
  | .saving s' .. | .numbering s' .. | .identifying s' .. | .timing s' .. | .spawning s' _
  | .freeing s' | .clearing s' | .waking s' => if s' = s then some task else none

/-- The request has its number and no thread yet. -/
def opens : NiTask → Option Nat
  | .identifying _ raw _ | .timing _ raw _ | .spawning _ raw => some raw
  | _ => none

end NiTask

namespace NiCall

/-- The call is going to store an answer to the session's request. -/
def answers : NiCall → NiSlot → Option (Int × GpsUserResponseType)
  | .matchedEs id resp, .sessionEs | .ignoring id resp, .sessionEs => some (id, resp)
  | .storing s' id resp, s => if s' = s then some (id, resp) else none
  | _, _ => none

/-- The call is going to drop the session's request. -/
def ignores : NiCall → NiSlot → Bool
  | .ignoring .., .session => true
  | _, _ => false

end NiCall

namespace NiSystem

variable {w w' : NiSystem}

/-- A call is going to write to the session. -/
def Aimed (w : NiSystem) (s : NiSlot) : Prop :=
  ∃ c, ((w.calls c).answers s).isSome = true ∨ (w.calls c).ignores s = true

structure Vacant (w : NiSystem) (s : NiSlot) : Prop where
  threads : ∀ t, (w.threads t).seated s = false
  raw : (w.sessions s).rawRequest = none
  recvd : (w.sessions s).respRecvd = false
  reqID : (w.sessions s).reqID = 0
  calls : ¬ w.Aimed s

/-- A request that is stored and has no number yet. -/
structure Numbering (w : NiSystem) (s : NiSlot) (raw : Nat) : Prop where
  threads : ∀ t, (w.threads t).seated s = false
  stored : (w.sessions s).rawRequest = some raw
  reqID : (w.sessions s).reqID = 0
  calls : ∀ c, (w.calls c).answers s = none

/-- A request that has its number and no thread yet. -/
structure Opening (w : NiSystem) (s : NiSlot) (raw : Nat) : Prop where
  threads : ∀ t, (w.threads t).seated s = false
  stored : (w.sessions s).rawRequest = some raw
  reqID : 0 < (w.sessions s).reqID

/-- The thread of `k` is the only one at the session. -/
def Alone (w : NiSystem) (s : NiSlot) (k : Nat) : Prop :=
  ∀ t, (w.threads t).seated s = true ↔ t = k

/-- A request whose thread waits for the answer. -/
structure Pending (w : NiSystem) (s : NiSlot) (k : Nat) : Prop where
  alone : w.Alone s k
  early : (w.threads k).early s = true
  stored : (w.sessions s).rawRequest = some k
  reqID : 0 < (w.sessions s).reqID

/-- The engine has restarted, and the thread of the request does not know. -/
structure Dropped (w : NiSystem) (s : NiSlot) (k : Nat) : Prop where
  alone : w.Alone s k
  early : (w.threads k).early s = true
  stored : (w.sessions s).rawRequest = none

/-- The thread has taken the request and is on its way out. -/
structure Closing (w : NiSystem) (s : NiSlot) (k : Nat) : Prop where
  alone : w.Alone s k
  late : (w.threads k).early s = false
  stored : (w.sessions s).rawRequest = none
  recvd : (w.sessions s).respRecvd = false
  calls : ¬ w.Aimed s

inductive Resting (w : NiSystem) (s : NiSlot) : Prop where
  | free (h : w.Vacant s)
  | pending (k : Nat) (h : w.Pending s k)
  | dropped (k : Nat) (h : w.Dropped s k) (recvd : (w.sessions s).respRecvd = true)
  | closing (k : Nat) (h : w.Closing s k)

/-- The session while the message task is at a statement about it. -/
def During (w : NiSystem) (s : NiSlot) : NiTask → Prop
  | .idle | .checking => False
  | .saving .. => w.Vacant s
  | .numbering _ raw _ => w.Numbering s raw
  | .identifying _ raw _ | .timing _ raw _ | .spawning _ raw => w.Opening s raw
  | .freeing _ | .clearing _ => ∃ k, w.Pending s k
  | .waking _ => ∃ k, w.Dropped s k

def Phase (w : NiSystem) (s : NiSlot) : Prop := (w.task.about s).elim (w.Resting s) (w.During s)

/-- What storing a response does not change about a session. -/
structure Unmoved (w w' : NiSystem) (s : NiSlot) : Prop where
  raw : (w'.sessions s).rawRequest = (w.sessions s).rawRequest
  reqID : (w'.sessions s).reqID = (w.sessions s).reqID
  task : w'.task.about s = w.task.about s
  seated : ∀ t, (w'.threads t).seated s = (w.threads t).seated s
  early : ∀ t, (w'.threads t).early s = (w.threads t).early s
  answers : ∀ c, (w'.calls c).answers s = none ∨
    (w'.calls c).answers s = (w.calls c).answers s
  ignores : ∀ c, (w'.calls c).ignores s = true → (w.calls c).ignores s = true

/-- What a step does not change about a session that it is not about. -/
structure Still (w w' : NiSystem) (s : NiSlot) : Prop extends Unmoved w w' s where
  recvd : (w'.sessions s).respRecvd = (w.sessions s).respRecvd

theorem Still.refl : Still w w s where
  raw := rfl
  recvd := rfl
  reqID := rfl
  task := rfl
  seated _ := rfl
  early _ := rfl
  answers _ := .inr rfl
  ignores _ h := h

theorem Still.trans {w'' : NiSystem} (h : Still w w' s) (h' : Still w' w'' s) : Still w w'' s where
  raw := h'.raw.trans h.raw
  recvd := h'.recvd.trans h.recvd
  reqID := h'.reqID.trans h.reqID
  task := h'.task.trans h.task
  seated t := (h'.seated t).trans (h.seated t)
  early t := (h'.early t).trans (h.early t)
  answers c := by
    rcases h'.answers c with hNone | hSame
    · exact .inl hNone
    · rw [hSame]
      exact h.answers c
  ignores c hIgnores := h.ignores c (h'.ignores c hIgnores)

theorem Unmoved.aimed (h : Unmoved w w' s) (hAimed : w'.Aimed s) : w.Aimed s := by
  obtain ⟨c, hAnswers | hIgnores⟩ := hAimed
  · refine ⟨c, .inl ?_⟩
    rcases h.answers c with hNone | hSame
    · rw [hNone] at hAnswers
      cases hAnswers
    · rw [← hSame]
      exact hAnswers
  · exact ⟨c, .inr (h.ignores c hIgnores)⟩

theorem Still.vacant (h : Still w w' s) (hVacant : w.Vacant s) : w'.Vacant s where
  threads t := (h.seated t).trans (hVacant.threads t)
  raw := h.raw.trans hVacant.raw
  recvd := h.recvd.trans hVacant.recvd
  reqID := h.reqID.trans hVacant.reqID
  calls hAimed := hVacant.calls (h.aimed hAimed)

theorem Unmoved.alone {k : Nat} (h : Unmoved w w' s) (hAlone : w.Alone s k) : w'.Alone s k := by
  intro t
  rw [h.seated t]
  exact hAlone t

theorem Unmoved.numbering {raw : Nat} (h : Unmoved w w' s) (hAt : w.Numbering s raw) :
    w'.Numbering s raw where
  threads t := (h.seated t).trans (hAt.threads t)
  stored := h.raw.trans hAt.stored
  reqID := h.reqID.trans hAt.reqID
  calls c := by
    rcases h.answers c with hNone | hSame
    · exact hNone
    · rw [hSame, hAt.calls c]

theorem Unmoved.opening {raw : Nat} (h : Unmoved w w' s) (hAt : w.Opening s raw) :
    w'.Opening s raw where
  threads t := (h.seated t).trans (hAt.threads t)
  stored := h.raw.trans hAt.stored
  reqID := by
    rw [h.reqID]
    exact hAt.reqID

theorem Unmoved.pending {k : Nat} (h : Unmoved w w' s) (hAt : w.Pending s k) : w'.Pending s k where
  alone := h.alone hAt.alone
  early := (h.early k).trans hAt.early
  stored := h.raw.trans hAt.stored
  reqID := by
    rw [h.reqID]
    exact hAt.reqID

theorem Unmoved.dropped {k : Nat} (h : Unmoved w w' s) (hAt : w.Dropped s k) : w'.Dropped s k where
  alone := h.alone hAt.alone
  early := (h.early k).trans hAt.early
  stored := h.raw.trans hAt.stored

theorem Still.closing {k : Nat} (h : Still w w' s) (hAt : w.Closing s k) : w'.Closing s k where
  alone := h.alone hAt.alone
  late := (h.early k).trans hAt.late
  stored := h.raw.trans hAt.stored
  recvd := h.recvd.trans hAt.recvd
  calls hAimed := hAt.calls (h.aimed hAimed)

theorem Still.resting (h : Still w w' s) (hAt : w.Resting s) : w'.Resting s := by
  cases hAt with
  | free hAt => exact .free (h.vacant hAt)
  | pending k hAt => exact .pending k (h.toUnmoved.pending hAt)
  | dropped k hAt recvd => exact .dropped k (h.toUnmoved.dropped hAt) (h.recvd.trans recvd)
  | closing k hAt => exact .closing k (h.closing hAt)

theorem Still.during {q : NiTask} (h : Still w w' s) (hAt : w.During s q) :
    w'.During s q := by
  cases q with
  | idle | checking => exact hAt
  | saving => exact h.vacant hAt
  | numbering => exact h.toUnmoved.numbering hAt
  | identifying | timing | spawning => exact h.toUnmoved.opening hAt
  | freeing | clearing => exact hAt.imp fun _ => h.toUnmoved.pending
  | waking => exact hAt.imp fun _ => h.toUnmoved.dropped

theorem Phase.still (hPhase : w.Phase s) (h : Still w w' s) : w'.Phase s := by
  rw [Phase, h.task]
  rw [Phase] at hPhase
  cases hTask : w.task.about s with
  | none =>
    rw [hTask] at hPhase
    exact h.resting hPhase
  | some task =>
    rw [hTask] at hPhase
    exact h.during hPhase

theorem Phase.resting (h : w.Phase s) (hTask : w.task.about s = none) : w.Resting s := by
  rw [Phase, hTask] at h
  exact h

theorem Phase.during {q : NiTask} (h : w.Phase s) (hTask : w.task = q)
    (hAbout : q.about s = some q) : w.During s q := by
  rw [Phase, hTask, hAbout] at h
  exact h

theorem Resting.phase (h : w.Resting s) (hTask : w.task.about s = none) : w.Phase s := by
  rw [Phase, hTask]
  exact h

theorem During.phase {q : NiTask} (h : w.During s q) (hTask : w.task.about s = some q) :
    w.Phase s := by
  rw [Phase, hTask]
  exact h

theorem Still.congr {w'' : NiSystem} (h : Still w w' s) (hSessions : w''.sessions = w'.sessions)
    (hTask : w''.task = w'.task) (hThreads : w''.threads = w'.threads)
    (hCalls : w''.calls = w'.calls) : Still w w'' s where
  raw := by rw [hSessions]; exact h.raw
  recvd := by rw [hSessions]; exact h.recvd
  reqID := by rw [hSessions]; exact h.reqID
  task := by rw [hTask]; exact h.task
  seated := by rw [hThreads]; exact h.seated
  early := by rw [hThreads]; exact h.early
  answers := by rw [hCalls]; exact h.answers
  ignores := by rw [hCalls]; exact h.ignores

theorem setSession_still {x : NiSession} (h : s ≠ s') :
    Still w (w.setSession s' x) s where
  raw := by rw [setSession_of_ne _ _ h]
  recvd := by rw [setSession_of_ne _ _ h]
  reqID := by rw [setSession_of_ne _ _ h]
  task := rfl
  seated _ := rfl
  early _ := rfl
  answers _ := .inr rfl
  ignores _ h := h

theorem task_still {q : NiTask} (h : q.about s = w.task.about s) :
    Still w { w with task := q } s where
  raw := rfl
  recvd := rfl
  reqID := rfl
  task := h
  seated _ := rfl
  early _ := rfl
  answers _ := .inr rfl
  ignores _ h := h

theorem setThread_still {y : NiThread} (hSeated : y.seated s = (w.threads t).seated s)
    (hEarly : y.early s = (w.threads t).early s) : Still w (w.setThread t y) s where
  raw := rfl
  recvd := rfl
  reqID := rfl
  task := rfl
  seated t' := by
    by_cases hSame : t' = t
    · rw [hSame, setThread_same, hSeated]
    · rw [setThread_of_ne _ _ hSame]
  early t' := by
    by_cases hSame : t' = t
    · rw [hSame, setThread_same, hEarly]
    · rw [setThread_of_ne _ _ hSame]
  answers _ := .inr rfl
  ignores _ h := h

theorem setStage_still {p : NiStage} (hSeated : p.seated = (w.threads t).stage.seated)
    (hEarly : p.early = (w.threads t).stage.early) : Still w (w.setStage t p) s := by
  apply setThread_still
  · rw [NiThread.seated, NiThread.seated, hSeated]
  · rw [NiThread.early, NiThread.early, hEarly]

theorem setStage_still_of_ne {p : NiStage} (h : (w.threads t).slot ≠ s) :
    Still w (w.setStage t p) s := by
  apply setThread_still
  · rw [NiThread.seated, NiThread.seated, decide_eq_false h, Bool.and_false, Bool.and_false]
  · rw [NiThread.early, NiThread.early, decide_eq_false h, Bool.and_false, Bool.and_false]

theorem setCall_still {c : Nat} {l : NiCall}
    (hAnswers : l.answers s = none ∨ l.answers s = (w.calls c).answers s)
    (hIgnores : l.ignores s = true → (w.calls c).ignores s = true) :
    Still w (w.setCall c l) s where
  raw := rfl
  recvd := rfl
  reqID := rfl
  task := rfl
  seated _ := rfl
  early _ := rfl
  answers c' := by
    by_cases hSame : c' = c
    · rw [hSame, setCall_same]
      exact hAnswers
    · rw [setCall_of_ne _ _ hSame]
      exact .inr rfl
  ignores c' := by
    by_cases hSame : c' = c
    · rw [hSame, setCall_same]
      exact hIgnores
    · rw [setCall_of_ne _ _ hSame]
      exact id

theorem signal_cases {s' : NiSlot} (h : w.signal s' t = some w') :
    w' = w ∨ ∃ start delay signalled, (w.threads t).stage = .waiting start delay signalled ∧
      w' = w.setStage t (.waiting start delay true) := by
  rw [signal] at h
  split at h
  · rename_i start delay signalled hStage
    split at h
    · cases h
      exact .inr ⟨start, delay, signalled, hStage, rfl⟩
    · cases h
  · split at h
    · cases h
      exact .inl rfl
    · cases h

theorem signal_still {s' : NiSlot} (h : w.signal s' t = some w') : Still w w' s := by
  rcases signal_cases h with rfl | ⟨start, delay, signalled, hStage, rfl⟩
  · exact .refl
  · apply setStage_still
    · rw [hStage]
      rfl
    · rw [hStage]
      rfl

end NiSystem

end KiwiDevice.Gps

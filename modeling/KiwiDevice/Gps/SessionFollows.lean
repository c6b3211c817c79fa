import KiwiDevice.Gps.LocEngAdapter
import KiwiDevice.Lib.Steps

/-!
# The message queue of the location engine

User calls and modem events post messages, and one thread takes them one after the other. The
messages of `loc_eng_reinit` and `loc_eng_agps_reinit` do not touch the session and are left out.
-/

namespace KiwiDevice.Gps

inductive EngineMsg where
  | startFix
  | stopFix
  | positionMode (posMode : LocPosMode)
  | engineDown
  | engineUp
  deriving DecidableEq, Repr

/-- The modem, with the criteria of its fix session. -/
structure Modem where
  up : Bool := true
  session : Option LocPosMode := none
  deriving DecidableEq, Repr

/-- `handledMode` is the last mode that the adapter was given; the program does not keep it. -/
structure SessionEngine where
  standaloneOnly : Bool := false
  queue : List EngineMsg := []
  adapter : LocEngAdapter := {}
  modem : Modem := {}
  handledMode : Option LocPosMode := none
  deriving DecidableEq, Repr

namespace Modem

def startFixResult (m : Modem) : LocApiAdapterErr := if m.up then .success else .engineDown

def perform (m : Modem) : LocApiCall → Modem
  | .startFix posMode => if m.up then { m with session := some posMode } else m
  | .stopFix => { m with session := none }
  | .setPositionMode _ => m

end Modem

namespace SessionEngine

inductive Input where
  | start
  | stop
  | setPositionMode (params : LocPosMode)
  | modemDown
  | modemUp
  | process
  deriving DecidableEq, Repr

variable (s : SessionEngine)

def post (msg : EngineMsg) : SessionEngine := { s with queue := s.queue ++ [msg] }

/-- `params` after `loc_eng_set_position_mode`, which changes it for a target without MSB
and MSA. -/
def adaptMode (params : LocPosMode) : LocPosMode :=
  if s.standaloneOnly ∧ params.mode ≠ .standalone then { params with mode := .standalone }
  else params

/-- Takes over what a handler made of the adapter, and its calls. -/
def after (r : LocEngAdapter × List LocApiCall) : SessionEngine :=
  { s with adapter := r.1, modem := r.2.foldl Modem.perform s.modem }

def handleEngineUp : SessionEngine :=
  if s.adapter.isInSession then
    { s with adapter := s.adapter.setInSession false }.post .startFix
  else s

def proc (s : SessionEngine) : EngineMsg → SessionEngine
  | .startFix => s.after (s.adapter.startHandler s.modem.startFixResult)
  | .stopFix => s.after s.adapter.stopHandler
  | .positionMode posMode =>
    { s.after (s.adapter.setPositionMode posMode) with handledMode := some posMode }
  | .engineDown => s
  | .engineUp => s.handleEngineUp

def step (s : SessionEngine) : Input → Option SessionEngine
  | .start => some (s.post .startFix)
  | .stop => some (s.post .stopFix)
  | .setPositionMode params => some (s.post (.positionMode (s.adaptMode params)))
  | .modemDown => some ({ s with modem := ⟨false, none⟩ }.post .engineDown)
  | .modemUp => some ({ s with modem := ⟨true, none⟩ }.post .engineUp)
  | .process =>
    match s.queue with
    | [] => none
    | msg :: rest => some ({ s with queue := rest }.proc msg)

def Next (s : SessionEngine) (i : Input) (_ : List Unit) (s' : SessionEngine) : Prop :=
  s.step i = some s'

/-- Whether the last start or stop call was a start. -/
def wanted (inputs : List Input) : Bool :=
  inputs.foldl (fun last i => if i = .start then true else if i = .stop then false else last) false

/-- The position mode last set by the user. -/
def lastMode (inputs : List Input) : Option LocPosMode :=
  inputs.foldl (fun last i => match i with
    | .setPositionMode params => some (s.adaptMode params)
    | _ => last) none

def Follows (inputs : List Input) : Prop :=
  s.queue = [] → s.modem.up = true →
    (s.modem.session.isSome = true ↔ wanted inputs = true) ∧
      (s.adapter.isInSession = true ↔ wanted inputs = true) ∧
      ∀ running last, s.modem.session = some running → s.lastMode inputs = some last →
        running = last

/-- The next message of the queue. A modem that is back meets no session that the user has stopped
since; a fix is started with a mode that was not invalidated since it was set; and no other mode is
set for a running session. -/
def Regular (inputs : List Input) (s : SessionEngine) : EngineMsg → Prop
  | .engineUp => s.adapter.isInSession = true → wanted inputs = true
  | .startFix => s.adapter.isInSession = false → s.modem.up = true →
      ∀ m ∈ s.handledMode, s.adapter.fixCriteria.mode = m.mode
  | .positionMode posMode => ∀ running ∈ s.modem.session, running = posMode
  | .stopFix | .engineDown => True

def Spared (inputs : List Input) (_ : List Unit) (s : SessionEngine) (i : Input) (_ : List Unit) :
    Prop := i = .process → ∀ msg ∈ s.queue.head?, Regular inputs s msg

instance (inputs : List Input) (s : SessionEngine) : DecidablePred (Regular inputs s)
  | .engineUp => inferInstanceAs (Decidable (_ = _ → _))
  | .startFix => inferInstanceAs (Decidable (_ → _ → ∀ m ∈ s.handledMode, _ = LocPosMode.mode m))
  | .positionMode posMode =>
    inferInstanceAs (Decidable (∀ running ∈ s.modem.session, running = posMode))
  | .stopFix | .engineDown => inferInstanceAs (Decidable True)

instance (inputs : List Input) (events o : List Unit) (s : SessionEngine) (i : Input) :
    Decidable (Spared inputs events s i o) :=
  inferInstanceAs (Decidable (_ → _))

end SessionEngine

/-!
### The session follows the user

What the messages in the queue will make of the session flag and of the position mode is compared
with the calls of the user at every step.
-/

namespace SessionEngine

/-- The session flag after these messages, while the modem stays as it is. -/
def flagAfter (queue : List EngineMsg) (flag : Bool) : Bool :=
  queue.foldl (fun last msg =>
    if msg = .startFix then true else if msg = .stopFix then false else last) flag

def modeAfter (queue : List EngineMsg) (mode : Option LocPosMode) : Option LocPosMode :=
  queue.foldl (fun last msg => match msg with
    | .positionMode posMode => some posMode
    | _ => last) mode

/-- The invariant. The session of the modem may differ from the flag while a message is on its way
that makes them the same. -/
structure Following (inputs : List Input) (s : SessionEngine) : Prop where
  flag : wanted inputs = flagAfter s.queue s.adapter.navigating
  mode : s.lastMode inputs = modeAfter s.queue s.handledMode
  criteria : ∀ m, s.handledMode = some m → { s.adapter.fixCriteria with mode := m.mode } = m
  down : s.modem.up = false → s.modem.session = none
  live : s.modem.up = true → .engineUp ∉ s.queue → s.adapter.navigating = true →
    s.modem.session.isSome = true
  stale : s.modem.session.isSome = true → s.adapter.navigating = false → .startFix ∈ s.queue
  started : ∀ running m, s.modem.session = some running → s.handledMode = some m → running = m

variable {s s' : SessionEngine} {inputs : List Input} {queue : List EngineMsg}

theorem wanted_append (inputs : List Input) (i : Input) :
    wanted (inputs ++ [i]) =
      if i = .start then true else if i = .stop then false else wanted inputs := by
  rw [wanted, List.foldl_append]
  rfl

theorem flagAfter_append (queue : List EngineMsg) (msg : EngineMsg) (flag : Bool) :
    flagAfter (queue ++ [msg]) flag =
      if msg = .startFix then true else if msg = .stopFix then false
      else flagAfter queue flag := by
  rw [flagAfter, List.foldl_append]
  rfl

theorem modeAfter_append (queue : List EngineMsg) (msg : EngineMsg) (mode : Option LocPosMode) :
    modeAfter (queue ++ [msg]) mode = match msg with
      | .positionMode posMode => some posMode
      | _ => modeAfter queue mode := by
  rw [modeAfter, List.foldl_append]
  cases msg <;> rfl

theorem lastMode_append (s : SessionEngine) (inputs : List Input) (i : Input) :
    s.lastMode (inputs ++ [i]) = match i with
      | .setPositionMode params => some (s.adaptMode params)
      | _ => s.lastMode inputs := by
  rw [lastMode, List.foldl_append]
  cases i <;> rfl

theorem Following.follows (h : Following inputs s) : s.Follows inputs := by
  intro hQueue hUp
  have hFlag : wanted inputs = s.adapter.navigating := by
    rw [h.flag, hQueue]
    rfl
  have hMode : s.lastMode inputs = s.handledMode := by
    rw [h.mode, hQueue]
    rfl
  have hSession : s.modem.session.isSome = true ↔ s.adapter.navigating = true := by
    constructor
    · intro hSome
      cases hNav : s.adapter.navigating with
      | true => rfl
      | false =>
        have hStart := h.stale hSome hNav
        rw [hQueue] at hStart
        cases hStart
    · intro hNav
      refine h.live hUp ?_ hNav
      rw [hQueue]
      exact List.not_mem_nil
  rw [hFlag]
  refine ⟨hSession, Iff.rfl, fun running last hRunning hLast => ?_⟩
  rw [hMode] at hLast
  exact h.started running last hRunning hLast

theorem Following.post (h : Following inputs s) {i : Input} {msg : EngineMsg}
    (hFlag : wanted (inputs ++ [i]) = flagAfter (s.queue ++ [msg]) s.adapter.navigating)
    (hMode : s.lastMode (inputs ++ [i]) = modeAfter (s.queue ++ [msg]) s.handledMode) :
    Following (inputs ++ [i]) (s.post msg) where
  flag := hFlag
  mode := hMode
  criteria := h.criteria
  down := h.down
  live hUp hNone := h.live hUp fun hIn => hNone (List.mem_append_left _ hIn)
  stale hSome hNav := List.mem_append_left _ (h.stale hSome hNav)
  started := h.started

theorem Following.modemEvent (h : Following inputs s) {i : Input} {msg : EngineMsg} (up : Bool)
    (hFlag : wanted (inputs ++ [i]) = flagAfter (s.queue ++ [msg]) s.adapter.navigating)
    (hMode : s.lastMode (inputs ++ [i]) = modeAfter (s.queue ++ [msg]) s.handledMode)
    (hMsg : up = true → msg = .engineUp) :
    Following (inputs ++ [i]) ({ s with modem := ⟨up, none⟩ }.post msg) where
  flag := hFlag
  mode := hMode
  criteria := h.criteria
  down _ := rfl
  live hUp hNone := by
    refine absurd (List.mem_append_right _ ?_) hNone
    rw [hMsg hUp]
    exact List.mem_cons_self
  stale := nofun
  started := nofun

theorem wanted_process (inputs : List Input) : wanted (inputs ++ [.process]) = wanted inputs :=
  wanted_append inputs .process

theorem lastMode_process (s : SessionEngine) (inputs : List Input) :
    s.lastMode (inputs ++ [.process]) = s.lastMode inputs := s.lastMode_append inputs .process

theorem Following.pop {msg : EngineMsg} (h : Following inputs s) (hQueue : s.queue = msg :: queue)
    (hFlag : flagAfter (msg :: queue) s.adapter.navigating = flagAfter queue s.adapter.navigating)
    (hMode : modeAfter (msg :: queue) s.handledMode = modeAfter queue s.handledMode)
    (hUp : msg = .engineUp → s.adapter.navigating = false)
    (hStart : msg = .startFix → s.adapter.navigating = true) :
    Following (inputs ++ [.process]) { s with queue := queue } where
  flag := by rw [wanted_process, h.flag, hQueue, hFlag]
  mode := (lastMode_process s inputs).trans (by rw [h.mode, hQueue, hMode])
  criteria := h.criteria
  down := h.down
  live hModem hNone hNav := by
    refine h.live hModem (fun hIn => ?_) hNav
    rw [hQueue] at hIn
    rcases List.mem_cons.mp hIn with rfl | hIn
    · exact absurd (hUp rfl) (by rw [hNav]; decide)
    · exact hNone hIn
  stale hSome hNav := by
    have hIn := h.stale hSome hNav
    rw [hQueue] at hIn
    rcases List.mem_cons.mp hIn with rfl | hIn
    · exact absurd (hStart rfl) (by rw [hNav]; decide)
    · exact hIn
  started := h.started

theorem Following.startFix (h : Following inputs s) (hQueue : s.queue = .startFix :: queue)
    (hRegular : Regular inputs s .startFix) :
    Following (inputs ++ [.process]) ({ s with queue := queue }.proc .startFix) := by
  cases hNav : s.adapter.navigating with
  | true =>
    have hSame : { s with queue := queue }.proc .startFix = { s with queue := queue } := by
      simp [proc, after, LocEngAdapter.startHandler, LocEngAdapter.isInSession, hNav]
    rw [hSame]
    refine h.pop hQueue ?_ rfl nofun fun _ => hNav
    rw [hNav]
    rfl
  | false =>
    have hKeeps : LocEngAdapter.keepsSession s.modem.startFixResult = true := by
      rw [Modem.startFixResult]
      split <;> rfl
    have hProc : { s with queue := queue }.proc .startFix =
        { s with queue := queue, adapter := s.adapter.setInSession true
                 modem := s.modem.perform (.startFix s.adapter.fixCriteria) } := by
      simp [proc, after, LocEngAdapter.startHandler, LocEngAdapter.isInSession, hNav, hKeeps]
    rw [hProc]
    constructor
    · rw [wanted_process, h.flag, hQueue]
      rfl
    · refine (lastMode_process s inputs).trans ?_
      rw [h.mode, hQueue]
      rfl
    · exact h.criteria
    · intro hUp
      have hDown : s.modem.up = false := by
        rw [Modem.perform] at hUp
        split at hUp
        · exact hUp
        · exact hUp
      rw [Modem.perform, if_neg (by rw [hDown]; decide)]
      exact h.down hDown
    · intro hUp _ _
      dsimp only at hUp ⊢
      rw [Modem.perform] at hUp ⊢
      split
      · rfl
      · rename_i hDown
        rw [if_neg hDown] at hUp
        exact absurd hUp hDown
    · intro _ hNot
      cases hNot
    · intro running m hRunning hMode
      dsimp only at hRunning hMode
      rw [Modem.perform] at hRunning
      split at hRunning
      · rename_i hUp
        cases hRunning
        have hSame := hRegular hNav hUp m hMode
        have hCriteria := h.criteria m hMode
        rwa [← hSame] at hCriteria
      · exact h.started running m hRunning hMode

theorem Following.stopFix (h : Following inputs s) (hQueue : s.queue = .stopFix :: queue) :
    Following (inputs ++ [.process]) ({ s with queue := queue }.proc .stopFix) := by
  cases hNav : s.adapter.navigating with
  | false =>
    have hSame : { s with queue := queue }.proc .stopFix = { s with queue := queue } := by
      simp [proc, after, LocEngAdapter.stopHandler, LocEngAdapter.isInSession, hNav]
    rw [hSame]
    refine h.pop hQueue ?_ rfl nofun nofun
    rw [hNav]
    rfl
  | true =>
    have hProc : { s with queue := queue }.proc .stopFix =
        { s with queue := queue, adapter := s.adapter.setInSession false
                 modem := { s.modem with session := none } } := by
      simp [proc, after, LocEngAdapter.stopHandler, LocEngAdapter.isInSession, hNav, Modem.perform]
    rw [hProc]
    constructor
    · rw [wanted_process, h.flag, hQueue]
      rfl
    · refine (lastMode_process s inputs).trans ?_
      rw [h.mode, hQueue]
      rfl
    · exact h.criteria
    · exact fun _ => rfl
    · exact fun _ _ hNot => Bool.noConfusion hNot
    · nofun
    · nofun

theorem Following.positionMode (h : Following inputs s) {posMode : LocPosMode}
    (hQueue : s.queue = .positionMode posMode :: queue)
    (hRegular : Regular inputs s (.positionMode posMode)) :
    Following (inputs ++ [.process]) ({ s with queue := queue }.proc (.positionMode posMode)) where
  flag := by
    rw [wanted_process, h.flag, hQueue]
    rfl
  mode := by
    refine (lastMode_process s inputs).trans ?_
    rw [h.mode, hQueue]
    rfl
  criteria m hMode := by
    cases hMode
    rfl
  down := h.down
  live hUp hNone hNav := by
    refine h.live hUp (fun hIn => ?_) hNav
    rw [hQueue] at hIn
    exact hNone ((List.mem_cons.mp hIn).resolve_left nofun)
  stale hSome hNav := by
    have hIn := h.stale hSome hNav
    rw [hQueue] at hIn
    exact (List.mem_cons.mp hIn).resolve_left nofun
  started running m hRunning hMode := by
    cases hMode
    exact hRegular running hRunning

theorem Following.engineUp (h : Following inputs s) (hQueue : s.queue = .engineUp :: queue)
    (hRegular : Regular inputs s .engineUp) :
    Following (inputs ++ [.process]) ({ s with queue := queue }.proc .engineUp) := by
  rw [proc, handleEngineUp]
  split
  · rename_i hNav
    constructor
    · rw [wanted_process, hRegular hNav, SessionEngine.post, flagAfter_append]
      rfl
    · refine (lastMode_process s inputs).trans ?_
      rw [h.mode, hQueue, SessionEngine.post, modeAfter_append]
      rfl
    · exact h.criteria
    · exact h.down
    · exact fun _ _ hNot => Bool.noConfusion hNot
    · exact fun _ _ => List.mem_append_right _ List.mem_cons_self
    · exact h.started
  · rename_i hNav
    exact h.pop hQueue rfl rfl (fun _ => Bool.eq_false_iff.mpr hNav) nofun

theorem Following.step {i : Input} (h : Following inputs s) (hSpared : Spared inputs [] s i [])
    (hStep : s.step i = some s') : Following (inputs ++ [i]) s' := by
  cases i with
  | start =>
    cases hStep
    refine h.post ?_ ?_
    · rw [wanted_append, flagAfter_append]
      rfl
    · rw [lastMode_append, modeAfter_append]
      exact h.mode
  | stop =>
    cases hStep
    refine h.post ?_ ?_
    · rw [wanted_append, flagAfter_append]
      rfl
    · rw [lastMode_append, modeAfter_append]
      exact h.mode
  | setPositionMode params =>
    cases hStep
    refine h.post ?_ ?_
    · rw [wanted_append, flagAfter_append]
      exact h.flag
    · rw [lastMode_append, modeAfter_append]
  | modemDown =>
    cases hStep
    refine h.modemEvent false ?_ ?_ nofun
    · rw [wanted_append, flagAfter_append]
      exact h.flag
    · rw [lastMode_append, modeAfter_append]
      exact h.mode
  | modemUp =>
    cases hStep
    refine h.modemEvent true ?_ ?_ fun _ => rfl
    · rw [wanted_append, flagAfter_append]
      exact h.flag
    · rw [lastMode_append, modeAfter_append]
      exact h.mode
  | process =>
    rw [SessionEngine.step] at hStep
    split at hStep
    · cases hStep
    · rename_i msg queue hQueue
      cases hStep
      have hRegular : Regular inputs s msg := hSpared rfl msg (by rw [hQueue]; rfl)
      cases msg with
      | startFix => exact h.startFix hQueue hRegular
      | stopFix => exact h.stopFix hQueue
      | positionMode posMode => exact h.positionMode hQueue hRegular
      | engineDown => exact h.pop hQueue rfl rfl nofun nofun
      | engineUp => exact h.engineUp hQueue hRegular

/-- In a run of regular messages the session follows the user. -/
theorem follows_of_spared {standaloneOnly : Bool} {events : List Unit}
    (run : Lib.Steps Next Spared { standaloneOnly } inputs events s) : s.Follows inputs := by
  have hStart : Following [] { standaloneOnly } :=
    ⟨rfl, rfl, nofun, nofun, nofun, nofun, nofun⟩
  have hFollowing : Following inputs s :=
    run.history (I := fun inputs _ s => Following inputs s) hStart
      fun _ _ _ _ _ _ hSpared h hNext => h.step hSpared hNext
  exact hFollowing.follows

/-- The step of a run in which every message is regular. -/
def sparedStep (inputs : List Input) (events : List Unit) (s : SessionEngine) (i : Input) :
    Option (SessionEngine × List Unit) :=
  if Spared inputs events s i [] then (s.step i).map (·, []) else none

theorem sparedStep_eq {i : Input} {events o : List Unit}
    (h : sparedStep inputs events s i = some (s', o)) :
    Next s i o s' ∧ Spared inputs events s i o := by
  rw [sparedStep] at h
  split at h
  · rename_i hSpared
    obtain ⟨s₁, hStep, hSame⟩ := Option.map_eq_some_iff.mp h
    cases hSame
    exact ⟨hStep, hSpared⟩
  · cases h

/-- A running fix survives a restart of the modem if the mode is set again before the engine has
processed it. -/
theorem follows_of_spared_restart : ∃ inputs events s,
    Lib.Steps Next Spared {} inputs events s ∧ s.modem.session = some { minInterval := 2000 } ∧
      s.queue = [] ∧ s.Follows inputs := by
  obtain ⟨r, hRun, hEnd⟩ := Option.map_eq_some_iff.mp
    (show (Lib.exec sparedStep [] [] {} [.setPositionMode {}, .start, .process, .process,
        .modemDown, .modemUp, .setPositionMode { minInterval := 2000 }, .process, .process,
        .process, .process]).map (fun r => (r.1.queue, r.1.modem.session)) =
      some ([], some { minInterval := 2000 }) by decide +kernel)
  have run := Lib.Steps.of_exec Next Spared (fun _ _ _ _ _ _ _ h => sparedStep_eq h) hRun
  obtain ⟨hQueue, hSession⟩ := Prod.mk.inj hEnd
  exact ⟨_, _, _, run, hSession, hQueue, follows_of_spared run⟩

/-- A fix runs, the modem goes down and comes up again, and the user stops the fix before the engine
has processed the events: at the end the fix runs, with no valid mode. -/
def restartInputs : List Input :=
  [.setPositionMode {}, .start, .process, .process, .modemDown, .modemUp, .stop, .process, .process,
    .process, .process]

theorem stop_lost_at_restart : ∃ s, Lib.Steps Next Lib.anyStep {} restartInputs [] s ∧
    s.modem.session = some { mode := .invalid } ∧ ¬ s.Follows restartInputs := by
  have hRun : (List.foldlM step {} restartInputs).map
      (fun s => (s.queue, s.modem)) = some ([], ⟨true, some { mode := .invalid }⟩) := by
    decide +kernel
  obtain ⟨s, hFold, hEnd⟩ := Option.map_eq_some_iff.mp hRun
  obtain ⟨hQueue, hModem⟩ := Prod.mk.inj hEnd
  refine ⟨s, Lib.Steps.of_silent (fun _ _ _ => id) hFold, by rw [hModem], fun hFollows => ?_⟩
  have hSession := (hFollows hQueue (by rw [hModem])).1
  rw [hModem] at hSession
  exact absurd (hSession.mp rfl) (by decide)

end SessionEngine

end KiwiDevice.Gps

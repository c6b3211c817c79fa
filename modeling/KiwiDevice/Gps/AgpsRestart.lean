import KiwiDevice.Gps.AgpsInvariant
import KiwiDevice.Lib.Since

/-!
# An AGPS state machine across modem restarts

`dropAllSubscribers` empties the list and leaves the state alone.
-/

namespace KiwiDevice.Gps

namespace AgpsStateMachine

def dropAllSubscribers (m : AgpsStateMachine) : AgpsStateMachine := { m with mSubscribers := [] }

/-- What happens to the connection that the framework is asked for. -/
inductive ConnMark where
  | asked
  | released
  | reportedClosed
  deriving DecidableEq, Repr

def ConnMark.ofRequest : AGpsStatusValue → ConnMark
  | .requestAgpsDataConn => .asked
  | .releaseAgpsDataConn => .released

/-- The framework denies the connection or reports that it is closed. -/
def reportsClosed : AgpsCall → Bool
  | .onRsrcEvent .released | .onRsrcEvent .denied => true
  | _ => false

/-- `dropAll` is the call of `loc_eng_handle_engine_up`. -/
inductive RestartInput where
  | call (c : AgpsCall) (a : DataCallAnswer)
  | dropAll

abbrev RestartLog := List (RestartInput × List AgpsEffect)

/-- A report comes before what the machine sends on it. -/
def connMarks : RestartInput × List AgpsEffect → List ConnMark
  | (.call c _, o) =>
    (if reportsClosed c then [.reportedClosed] else []) ++ (nifRequests o).map .ofRequest
  | (.dropAll, _) => []

def connHistory (log : RestartLog) : List ConnMark := log.flatMap connMarks

def RestartNext (m : AgpsStateMachine) (i : RestartInput) (log : RestartLog)
    (m' : AgpsStateMachine) : Prop :=
  match i with
  | .call c a => ∃ o, m.call c a = (m', o) ∧ log = [(.call c a, o)]
  | .dropAll => m' = m.dropAllSubscribers ∧ log = [(.dropAll, [])]

/-- Every connection asked for has been released, denied or reported closed. -/
def Settled (marks : List ConnMark) : Prop :=
  ∀ before after, marks = before ++ .asked :: after → ∃ mark ∈ after, mark ≠ .asked

/-- With an empty list the machine is released, its connections are settled, and a new subscriber
leads to a request and is not told of a connection. -/
def Survives (log : RestartLog) (m : AgpsStateMachine) : Prop :=
  m.mSubscribers = [] → m.mStatePtr = .released ∧ Settled (connHistory log) ∧
    ∀ s a, nifRequests (m.subscribeRsrc s a).2 = [.requestAgpsDataConn] ∧
      ∀ t, .notified t .granted ∉ (m.subscribeRsrc s a).2

/-- The modem comes back while the machine is released. -/
def DroppedReleased (_ : List RestartInput) (_ : RestartLog) (m : AgpsStateMachine)
    (i : RestartInput) (_ : RestartLog) : Prop :=
  match i with
  | .call _ _ => True
  | .dropAll => m.mStatePtr = .released

variable {m m' : AgpsStateMachine} {a : DataCallAnswer} {c : AgpsCall} {o : List AgpsEffect}
  {log : RestartLog} {marks : List ConnMark}

theorem settled_iff : Settled marks ↔
    ¬ Lib.Since (fun _ mark => mark = .asked) (fun mark => mark = .asked) marks := by
  constructor
  · rintro h ⟨before, mark, after, hSplit, rfl, hAll⟩
    obtain ⟨mark, hIn, hNot⟩ := h before after hSplit
    exact hNot (hAll mark hIn)
  · intro h before after hSplit
    by_contra hNone
    refine h ⟨before, .asked, after, hSplit, rfl, fun mark hIn => ?_⟩
    by_contra hNot
    exact hNone ⟨mark, hIn, hNot⟩

theorem settled_nil : Settled [] := settled_iff.mpr Lib.not_since_nil

theorem settled_snoc {mark : ConnMark} (h : mark ≠ .asked) : Settled (marks ++ [mark]) := by
  rw [settled_iff, Lib.since_snoc]
  rintro (hAsked | ⟨hAsked, -⟩)
  · exact h hAsked
  · exact h hAsked

theorem connHistory_append (log : RestartLog) (e : RestartInput × List AgpsEffect) :
    connHistory (log ++ [e]) = connHistory log ++ connMarks e := by
  rw [connHistory, List.flatMap_append, List.flatMap_singleton]
  rfl

def wantsConn (state : AgpsState) : Prop := state = .pending ∨ state = .acquired

/-- Only an unsubscription and a report of the end leave the states that want the connection. -/
theorem call_wantsConn (h : wantsConn m.mStatePtr) (hCall : c.isUnsubscribe = false)
    (hOpen : reportsClosed c = false) : wantsConn (m.call c a).1.mStatePtr := by
  cases c with
  | unsubscribeRsrc s => cases hCall
  | subscribeRsrc s =>
    have hDid := m.subscribeRsrc_did s a
    rw [AgpsStateMachine.call]
    generalize (m.subscribeRsrc s a).1 = m', (m.subscribeRsrc s a).2 = o at hDid
    cases hDid with
    | refused _ hSame _ => rwa [hSame.state]
    | added => rwa [(m.addSubscriber_becomes s).state]
    | granted _ _ hSame _ => rwa [hSame.state]
    | requested _ hState _ =>
      rw [wantsConn, hState] at h
      rcases h with h | h <;> cases h
  | onRsrcEvent event =>
    cases event with
    | released | denied => cases hOpen
    | subscribe | unsubscribe | statusMax => exact h
    | granted =>
      rw [AgpsStateMachine.call, onRsrcEvent, onGranted]
      split
      · exact .inr rfl
      all_goals exact h

/-- The invariant of a machine of which no connection was forgotten. -/
structure Accounted (log : RestartLog) (m : AgpsStateMachine) : Prop where
  nif : NifInvariant m
  settled : ¬ wantsConn m.mStatePtr → Settled (connHistory log)

theorem Accounted.call (h : Accounted log m) (hCall : m.call c a = (m', o)) :
    Accounted (log ++ [(.call c a, o)]) m' := by
  have hDid := agpsNext_did (i := (c, a)) hCall
  obtain ⟨hNif, hRequests⟩ := hDid.nif h.nif
  refine ⟨hNif, fun hNot => ?_⟩
  have hEntered : ¬ (m.mStatePtr ≠ .pending ∧ m'.mStatePtr = .pending) :=
    fun hPending => hNot (.inl hPending.2)
  rw [connHistory_append, connMarks, hRequests, expectedRequests, if_neg hEntered]
  by_cases hRelease : (m.mStatePtr = .pending ∨ m.mStatePtr = .acquired) ∧
      m'.mStatePtr ≠ m.mStatePtr ∧ c.isUnsubscribe = true
  · rw [if_pos hRelease, ← List.append_assoc]
    have hMark : ConnMark.released ≠ .asked := by decide
    exact settled_snoc hMark
  · rw [if_neg hRelease, List.map_nil, List.append_nil]
    split
    · have hMark : ConnMark.reportedClosed ≠ .asked := by decide
      exact settled_snoc hMark
    · rename_i hOpen
      rw [List.append_nil]
      refine h.settled fun hWanted => ?_
      have hCall' : c.isUnsubscribe = false := by
        rw [Bool.eq_false_iff]
        refine fun hTrue => hRelease ⟨hWanted, fun hSame => hNot ?_, hTrue⟩
        rwa [hSame]
      have hStays := call_wantsConn (a := a) hWanted hCall' (Bool.eq_false_iff.mpr hOpen)
      rw [hCall] at hStays
      exact hNot hStays

theorem Did.subscribe_released {s : Subscriber} (h : Did m a (.subscribeRsrc s) m' o)
    (hNif : NifInvariant m) (hState : m.mStatePtr = .released) :
    nifRequests o = [.requestAgpsDataConn] ∧ ∀ t, .notified t .granted ∉ o := by
  have hRequests := (h.nif hNif).2
  cases h with
  | refused hRefused _ _ =>
    exact absurd (hNif.released_iff.mp hState) (hasSubscribers_iff.mp hRefused.2)
  | added _ hOther =>
    rw [hState] at hOther
    rcases hOther with hOther | hOther <;> cases hOther
  | granted _ hOther _ _ =>
    rw [hState] at hOther
    cases hOther
  | @requested _ m₁ _ ret _ _ hSent =>
    have hNotDS := (m.addSubscriber_becomes s).isDS.trans hNif.notDS
    have hRet := sendRsrcRequest_ret hNotDS .requestAgpsDataConn a
    have hTold := (m.addSubscriber s).sendRsrcRequest_told .requestAgpsDataConn a
    rw [hSent] at hRet hTold
    rw [hState, if_pos hRet] at hRequests
    exact ⟨hRequests, fun t => hTold t .granted⟩

theorem Accounted.survives (h : Accounted log m) : Survives log m := by
  intro hNil
  have hState := h.nif.released_iff.mpr hNil
  refine ⟨hState, h.settled ?_, fun s a => (m.subscribeRsrc_did s a).subscribe_released h.nif hState⟩
  rw [hState]
  rintro (hIs | hIs) <;> cases hIs

theorem Accounted.step {i : RestartInput} {new : RestartLog} (h : Accounted log m)
    (hDropped : DroppedReleased [] log m i new) (hNext : RestartNext m i new m') :
    Accounted (log ++ new) m' := by
  cases i with
  | call c a =>
    obtain ⟨o, hCall, rfl⟩ := hNext
    exact h.call hCall
  | dropAll =>
    obtain ⟨rfl, rfl⟩ := hNext
    have hSame : m.dropAllSubscribers = m := by
      rw [dropAllSubscribers, ← h.nif.released_iff.mp hDropped]
    rw [hSame]
    refine ⟨h.nif, fun hNot => ?_⟩
    rw [connHistory_append]
    exact (List.append_nil _).symm ▸ h.settled hNot

/-- As long as every restart met a released machine, connections and list agree, and a restart now
keeps that exactly if the machine is released. -/
theorem survives_restart_iff {type : Int} {enforceSingleSubscriber : Bool}
    {inputs : List RestartInput}
    (run : Lib.Steps RestartNext DroppedReleased (new type enforceSingleSubscriber) inputs log m) :
    Survives log m ∧
      (Survives (log ++ [(.dropAll, [])]) m.dropAllSubscribers ↔ m.mStatePtr = .released) := by
  have hStart : Accounted [] (new type enforceSingleSubscriber) := by
    refine ⟨⟨rfl, ⟨fun _ => rfl, fun _ => rfl⟩, ?_⟩, fun _ => settled_nil⟩
    rintro (hIs | hIs) <;> cases hIs
  have hAccounted : Accounted log m := by
    refine run.history (I := fun _ log m => Accounted log m) hStart ?_
    intro _ _ _ i _ _ hDropped h hNext
    exact h.step (i := i) hDropped hNext
  refine ⟨hAccounted.survives, fun hSurvives => (hSurvives rfl).1, fun hState => ?_⟩
  have hNext : RestartNext m .dropAll [(.dropAll, [])] m.dropAllSubscribers := ⟨rfl, rfl⟩
  exact (hAccounted.step (i := .dropAll) hState hNext).survives

theorem restart_call (allowed : List RestartInput → RestartLog → AgpsStateMachine → RestartInput →
    RestartLog → Prop) {m₀ : AgpsStateMachine} {inputs : List RestartInput}
    (run : Lib.Steps RestartNext allowed m₀ inputs log m) (c : AgpsCall) (a : DataCallAnswer)
    (ok : allowed inputs log m (.call c a) [(.call c a, (m.call c a).2)]) :
    Lib.Steps RestartNext allowed m₀ (inputs ++ [.call c a])
      (log ++ [(.call c a, (m.call c a).2)]) (m.call c a).1 := run.step ok ⟨_, rfl, rfl⟩

theorem restart_drop {allowed : List RestartInput → RestartLog → AgpsStateMachine → RestartInput →
    RestartLog → Prop} {m₀ : AgpsStateMachine} {inputs : List RestartInput}
    (run : Lib.Steps RestartNext allowed m₀ inputs log m)
    (ok : allowed inputs log m .dropAll [(.dropAll, [])]) :
    Lib.Steps RestartNext allowed m₀ (inputs ++ [.dropAll]) (log ++ [(.dropAll, [])])
      m.dropAllSubscribers := run.step ok ⟨rfl, rfl⟩

theorem start_run {allowed : List RestartInput → RestartLog → AgpsStateMachine → RestartInput →
    RestartLog → Prop} (type : Int) :
    Lib.Steps RestartNext allowed (new type false) [] [] (new type false) := .start

def modemClient : Subscriber := { kind := .atl, ID := 1 }

/-- The modem comes back after its connection was released. -/
theorem survives_restart_iff_released : ∃ inputs log m,
    Lib.Steps RestartNext DroppedReleased (new 1 false) inputs log m ∧
      connHistory log = [.asked, .released] ∧
      Survives (log ++ [(.dropAll, [])]) m.dropAllSubscribers := by
  have asked := restart_call DroppedReleased (start_run 1)
    (.subscribeRsrc modemClient) ⟨0, true⟩ trivial
  have granted := restart_call _ asked (.onRsrcEvent .granted) ⟨0, true⟩ trivial
  have released := restart_call _ granted (.unsubscribeRsrc modemClient) ⟨0, true⟩ trivial
  exact ⟨_, _, _, released, by decide +kernel, (survives_restart_iff released).2.mpr rfl⟩

/-- The modem comes back while a connection is up: the next subscriber is granted the connection of
the dropped one, and nothing is asked for. -/
theorem dropped_connection_granted : ∃ inputs log m s a,
    Lib.Steps RestartNext Lib.anyStep (new 1 false) inputs log m ∧ m.mSubscribers = [] ∧
      ¬ Survives log m ∧ nifRequests (m.subscribeRsrc s a).2 = [] ∧
      .notified s .granted ∈ (m.subscribeRsrc s a).2 := by
  have asked := restart_call Lib.anyStep (start_run 1)
    (.subscribeRsrc modemClient) ⟨0, true⟩ trivial
  have granted := restart_call _ asked (.onRsrcEvent .granted) ⟨0, true⟩ trivial
  have dropped := restart_drop granted trivial
  refine ⟨_, _, _, { kind := .atl, ID := 2 }, ⟨0, true⟩, dropped, rfl, fun hSurvives => ?_,
    by decide +kernel, by decide +kernel⟩
  exact AgpsState.noConfusion (hSurvives rfl).1

end AgpsStateMachine

end KiwiDevice.Gps

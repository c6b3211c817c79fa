import KiwiDevice.Gps.AgpsSteps
import KiwiDevice.Lib.Steps

/-!
# The state, the list and the requests of an AGPS state machine

In every run of a machine that is not a `DSStateMachine` the state tells whether the list is empty,
and the requests to the framework are exactly those that the moves between the states ask for.
-/

namespace KiwiDevice.Gps

namespace AgpsStateMachine

variable {m m' : AgpsStateMachine} {a : DataCallAnswer} {c : AgpsCall} {o : List AgpsEffect}

/-- No listed subscriber is equal to one that was added after it. -/
def Distinct (l : List Subscriber) :
    Prop := l.Pairwise fun newer older => older.equals newer = false

theorem distinct_map_clone (l : List Subscriber) : Distinct (l.map Subscriber.clone) ↔ Distinct l :=
  List.pairwise_map

theorem map_clone_set {l : List Subscriber} {k : Nat} {s : Subscriber} (hs : l[k]? = some s) :
    (l.set k { s with mIsInactive := true }).map Subscriber.clone = l.map Subscriber.clone := by
  obtain ⟨hk, _⟩ := List.getElem?_eq_some_iff.mp hs
  rw [List.map_set]
  refine List.ext_getElem? fun j => ?_
  rw [List.getElem?_set]
  split
  · rename_i hkj
    subst hkj
    rw [List.length_map, if_pos hk, List.getElem?_map, hs]
    rfl
  · rfl

theorem distinct_dropped {l : List Subscriber} {k : Nat} {s : Subscriber} (h : Distinct l)
    (hs : l[k]? = some s) : Distinct (dropped l k s) := by
  rw [dropped]
  split
  · rw [← distinct_map_clone, map_clone_set hs, distinct_map_clone]
    exact h
  · exact h.filter _

theorem distinct_addSubscriber (h : Distinct m.mSubscribers) (s : Subscriber) :
    Distinct (m.addSubscriber s).mSubscribers := by
  obtain ⟨_, _, _, hList⟩ | ⟨hNone, hList⟩ := m.addSubscriber_cases s
  · rwa [hList]
  · rw [hList]
    exact List.pairwise_cons.mpr ⟨fun e he => hNone e he, h⟩

theorem Did.distinct (h : Did m a c m' o) (hDistinct : Distinct m.mSubscribers) :
    Distinct m'.mSubscribers := by
  cases h with
  | refused _ h _ => rwa [h.list]
  | added => exact distinct_addSubscriber hDistinct _
  | granted _ _ h _ =>
    rw [h.list]
    exact distinct_addSubscriber hDistinct _
  | @requested s m₁ _ _ _ _ hTo =>
    have h₁ : Distinct m₁.mSubscribers := (sent_list hTo).symm ▸ distinct_addSubscriber hDistinct s
    split <;> exact h₁
  | unknown => exact hDistinct
  | toldAgain _ h _ => rwa [h.list]
  | left he _ _ h _ _ _ =>
    rw [h.list]
    exact distinct_dropped hDistinct he
  | leftLast he _ _ h _ _ =>
    rw [toState_mSubscribers, h.list]
    exact distinct_dropped hDistinct he
  | freed he _ _ h _ _ _ hTo =>
    rw [toState_mSubscribers, sent_list hTo, h.list]
    exact distinct_dropped hDistinct he
  | ignored => exact hDistinct
  | connected _ h _ =>
    rwa [toState_mSubscribers, h.list]
  | ended _ _ h _ =>
    rw [toState_mSubscribers, h.list]
    exact List.Pairwise.nil
  | closed _ _ h _ _ =>
    rw [toState_mSubscribers, h.list]
    exact hDistinct.filter _
  | reopened _ _ h _ _ _ hTo =>
    rw [toState_mSubscribers, sent_list hTo, h.list]
    exact hDistinct.filter _

end AgpsStateMachine

/-- The call is an unsubscription. -/
def AgpsCall.isUnsubscribe : AgpsCall → Bool
  | .unsubscribeRsrc _ => true
  | .subscribeRsrc _ | .onRsrcEvent _ => false

namespace AgpsStateMachine

variable {m m' : AgpsStateMachine} {a : DataCallAnswer} {c : AgpsCall} {o : List AgpsEffect}

/-- What is sent on a move: the request for the connection on each entry into pending, its release
on each move out of pending or acquired by an unsubscription, and nothing else. -/
def expectedRequests (before : AgpsState) (c : AgpsCall) (after : AgpsState) :
    List AGpsStatusValue :=
  if before ≠ .pending ∧ after = .pending then [.requestAgpsDataConn]
  else if (before = .pending ∨ before = .acquired) ∧ after ≠ before ∧ c.isUnsubscribe then
    [.releaseAgpsDataConn]
  else []

theorem expectedRequests_same (state : AgpsState) (c : AgpsCall) :
    expectedRequests state c state = [] := by
  rw [expectedRequests, if_neg fun h => h.1 h.2, if_neg fun h => h.2.1 rfl]

/-- The state tells what is in the list. -/
structure NifInvariant (m : AgpsStateMachine) : Prop where
  notDS : m.isDS = false
  released_iff : m.mStatePtr = .released ↔ m.mSubscribers = []
  active : m.mStatePtr = .pending ∨ m.mStatePtr = .acquired →
    ∃ s ∈ m.mSubscribers, s.isInactive = false

theorem NifInvariant.of_becomes (hInv : NifInvariant m) (h : Becomes m m.mSubscribers m') :
    NifInvariant m' where
  notDS := h.isDS.trans hInv.notDS
  released_iff := by rw [h.state, h.list, hInv.released_iff]
  active := by rw [h.state, h.list]; exact hInv.active

theorem NifInvariant.add (hInv : NifInvariant m) {s : Subscriber}
    (h : Becomes m (m.addSubscriber s).mSubscribers m') (hState : m.mStatePtr ≠ .released) :
    NifInvariant m' where
  notDS := h.isDS.trans hInv.notDS
  released_iff := by
    rw [h.state, h.list]
    constructor
    · exact fun hReleased => absurd hReleased hState
    · intro hNil
      refine hInv.released_iff.mpr (List.eq_nil_iff_forall_not_mem.mpr fun e he => ?_)
      have hMem := mem_addSubscriber (s := s) he
      rw [hNil] at hMem
      cases hMem
  active := by
    rw [h.state, h.list]
    intro hWanted
    obtain ⟨e, he, hActive⟩ := hInv.active hWanted
    exact ⟨e, mem_addSubscriber he, hActive⟩

theorem NifInvariant.wanted {l : List Subscriber} {state : AgpsState} (hNotDS : m.isDS = false)
    (h : Becomes m l m') (hState : state ≠ .released)
    (hActive : ∃ s ∈ l, s.isInactive = false) : NifInvariant (m'.toState state) where
  notDS := h.isDS.trans hNotDS
  released_iff := by
    constructor
    · exact fun hReleased => absurd hReleased hState
    · intro hNil
      obtain ⟨s, hs, _⟩ := hActive
      change m'.mSubscribers = [] at hNil
      rw [← h.list, hNil] at hs
      cases hs
  active := by
    intro _
    change ∃ s ∈ m'.mSubscribers, _
    rwa [h.list]

theorem NifInvariant.empty (hNotDS : m.isDS = false) (h : m.mSubscribers = []) :
    NifInvariant (m.toState .released) where
  notDS := hNotDS
  released_iff := ⟨fun _ => h, fun _ => rfl⟩
  active := by
    rintro (hState | hState)
    · exact AgpsState.noConfusion hState
    · exact AgpsState.noConfusion hState

/-- The step lemma: every call keeps the invariant and sends what its move asks for. -/
theorem Did.nif (h : Did m a c m' o) (hInv : NifInvariant m) :
    NifInvariant m' ∧ nifRequests o = expectedRequests m.mStatePtr c m'.mStatePtr := by
  cases h with
  | refused _ h ho => exact ⟨hInv.of_becomes h, by rw [ho.requests, h.state, expectedRequests_same]⟩
  | @added s _ hState =>
    have hAdd := m.addSubscriber_becomes s
    refine ⟨hInv.add hAdd ?_, by rw [hAdd.state, expectedRequests_same]; rfl⟩
    obtain h | h := hState <;> rw [h] <;> decide
  | granted _ hState h ho =>
    refine ⟨hInv.add h (by rw [hState]; decide), ?_⟩
    rw [ho.requests, h.state, expectedRequests_same]
  | @requested s m₁ _ ret _ hState hSent =>
    have hAdd := m.addSubscriber_becomes s
    have hNotDS := hAdd.isDS.trans hInv.notDS
    have hTo := (m.addSubscriber s).sendRsrcRequest_becomes .requestAgpsDataConn a
    have hRet := sendRsrcRequest_ret hNotDS .requestAgpsDataConn a
    have hNif := sendRsrcRequest_nif hNotDS .requestAgpsDataConn a
    rw [hSent] at hTo hRet hNif
    -- the list was empty, so the new subscriber is the active one
    have hNil := hInv.released_iff.mp hState
    have hActive : ∃ e ∈ (m.addSubscriber s).mSubscribers, e.isInactive = false := by
      obtain ⟨e, he, _⟩ | ⟨_, hList⟩ := m.addSubscriber_cases s
      · rw [hNil] at he
        cases he
      · rw [hList]
        exact ⟨s.clone, List.mem_cons_self, s.clone_isInactive⟩
    rw [if_pos ⟨fun _ => rfl, fun _ => hActive⟩] at hNif
    rw [if_pos hRet]
    refine ⟨.wanted hNotDS hTo (by decide) hActive, ?_⟩
    rw [hNif, hState]
    rfl
  | unknown => exact ⟨hInv, (expectedRequests_same _ _).symm⟩
  | toldAgain _ h ho =>
    exact ⟨hInv.of_becomes h, by rw [ho.requests, h.state, expectedRequests_same]⟩
  | left _ _ hState h ho hList hActive =>
    refine ⟨⟨h.isDS.trans hInv.notDS, ?_, ?_⟩, by rw [ho.requests, h.state, expectedRequests_same]⟩
    · rw [h.state]
      exact ⟨fun hReleased => absurd hReleased hState, fun hNil => absurd hNil hList⟩
    · intro hWanted
      rw [h.state] at hWanted
      obtain hReleasing | hActive := hActive
      · rw [hReleasing] at hWanted
        obtain hWanted | hWanted := hWanted <;> cases hWanted
      · exact hActive
  | leftLast _ _ hState h ho hList =>
    refine ⟨.empty (h.isDS.trans hInv.notDS) hList, ?_⟩
    rw [ho.requests, hState]
    rfl
  | @freed s _ _ m₁ m₂ _ _ _ _ _ hState h _ ho hActive hSent =>
    have hNotDS := h.isDS.trans hInv.notDS
    have hTo := m₁.sendRsrcRequest_becomes .releaseAgpsDataConn a
    have hNif := sendRsrcRequest_nif hNotDS .releaseAgpsDataConn a
    rw [hSent] at hTo hNif
    rw [if_pos ⟨fun h => absurd h hActive, fun h => by cases h⟩] at hNif
    rw [nifRequests_append, ho.requests, hNif]
    split
    · rename_i hNil
      refine ⟨.empty (hTo.isDS.trans hNotDS) (hTo.list.trans hNil), ?_⟩
      obtain hState | hState := hState <;> rw [hState] <;> rfl
    · rename_i hSome
      refine ⟨⟨hTo.isDS.trans hNotDS, ?_, ?_⟩, ?_⟩
      · constructor
        · exact fun hReleased => AgpsState.noConfusion hReleased
        · exact fun hNil => absurd (hTo.list.symm.trans hNil) hSome
      · rintro (hWanted | hWanted)
        · exact AgpsState.noConfusion hWanted
        · exact AgpsState.noConfusion hWanted
      · obtain hState | hState := hState <;> rw [hState] <;> rfl
  | ignored => exact ⟨hInv, (expectedRequests_same _ _).symm⟩
  | connected hState h ho =>
    refine ⟨.wanted hInv.notDS h (by decide) (hInv.active (.inl hState)), ?_⟩
    rw [ho.requests, hState]
    rfl
  | ended hState _ h ho =>
    refine ⟨.empty (h.isDS.trans hInv.notDS) h.list, ?_⟩
    rw [ho.requests]
    obtain hState | hState := hState <;> rw [hState] <;> rfl
  | closed hState _ h ho hActive =>
    refine ⟨.empty (h.isDS.trans hInv.notDS) ?_, ?_⟩
    · refine List.eq_nil_iff_forall_not_mem.mpr fun e he => hActive ⟨e, he, ?_⟩
      rw [h.list] at he
      simpa using (List.mem_filter.mp he).2
    · rw [ho.requests, hState]
      rfl
  | @reopened _ _ m₁ m₂ _ _ _ hState _ h _ ho hActive hSent =>
    have hNotDS := h.isDS.trans hInv.notDS
    have hTo := m₁.sendRsrcRequest_becomes .requestAgpsDataConn a
    have hNif := sendRsrcRequest_nif hNotDS .requestAgpsDataConn a
    rw [hSent] at hTo hNif
    rw [if_pos ⟨fun _ => rfl, fun _ => hActive⟩] at hNif
    refine ⟨.wanted hNotDS hTo (by decide) hActive, ?_⟩
    rw [nifRequests_append, ho.requests, hNif, hState]
    rfl

/-- Acquired is entered from pending only, and an unsubscription leads to no other state that wants
the connection. -/
theorem Did.moves (h : Did m a c m' o) :
    (m'.mStatePtr = .acquired → m.mStatePtr = .pending ∨ m.mStatePtr = .acquired) ∧
      (c.isUnsubscribe = true → m'.mStatePtr = m.mStatePtr ∨ m'.mStatePtr = .released ∨
        m'.mStatePtr = .releasing) := by
  have hSame : m'.mStatePtr = m.mStatePtr →
      (m'.mStatePtr = .acquired → m.mStatePtr = .pending ∨ m.mStatePtr = .acquired) ∧
        (c.isUnsubscribe = true → m'.mStatePtr = m.mStatePtr ∨ m'.mStatePtr = .released ∨
          m'.mStatePtr = .releasing) := by
    intro hState
    exact ⟨fun hTo => .inr (hState.symm.trans hTo), fun _ => .inl hState⟩
  cases h with
  | refused _ h _ => exact hSame h.state
  | @added s => exact hSame (m.addSubscriber_becomes s).state
  | granted _ _ h _ => exact hSame h.state
  | @requested s m₁ _ ret _ hState hSent =>
    refine ⟨fun hTo => ?_, fun hUnsubscribe => Bool.noConfusion hUnsubscribe⟩
    have hBecomes := (m.addSubscriber s).sendRsrcRequest_becomes .requestAgpsDataConn a
    rw [hSent] at hBecomes
    have hReleased := (hBecomes.state.trans (m.addSubscriber_becomes s).state).trans hState
    split at hTo
    · cases hTo
    · rw [hReleased] at hTo
      cases hTo
  | unknown => exact hSame rfl
  | toldAgain _ h _ => exact hSame h.state
  | left _ _ _ h _ _ _ => exact hSame h.state
  | leftLast => exact ⟨fun hTo => AgpsState.noConfusion hTo, fun _ => .inr (.inl rfl)⟩
  | freed =>
    rw [toState_mStatePtr]
    split
    · exact ⟨fun hTo => AgpsState.noConfusion hTo, fun _ => .inr (.inl rfl)⟩
    · exact ⟨fun hTo => AgpsState.noConfusion hTo, fun _ => .inr (.inr rfl)⟩
  | ignored => exact hSame rfl
  | connected hState => exact ⟨fun _ => .inl hState, fun h => Bool.noConfusion h⟩
  | ended => exact ⟨fun hTo => AgpsState.noConfusion hTo, fun h => Bool.noConfusion h⟩
  | closed => exact ⟨fun hTo => AgpsState.noConfusion hTo, fun h => Bool.noConfusion h⟩
  | reopened => exact ⟨fun hTo => AgpsState.noConfusion hTo, fun h => Bool.noConfusion h⟩

/-- Each release directly follows the request that it takes back. -/
def Answered (l : List AGpsStatusValue) : Prop :=
  ∀ front back, l = front ++ .releaseAgpsDataConn :: back →
    front.getLast? = some .requestAgpsDataConn

theorem Answered.append {l : List AGpsStatusValue} (h : Answered l) (r : AGpsStatusValue)
    (hr : r = .releaseAgpsDataConn → l.getLast? = some .requestAgpsDataConn) :
    Answered (l ++ [r]) := by
  intro front back hSplit
  obtain rfl | ⟨last, back', rfl⟩ := List.eq_nil_or_concat' back
  · obtain ⟨rfl, hLast⟩ := List.append_inj' hSplit rfl
    exact hr (List.singleton_inj.mp hLast)
  · rw [← List.cons_append, ← List.append_assoc] at hSplit
    exact h front last (List.append_inj' hSplit rfl).1

/-- One step of a machine in the engine. -/
def agpsNext (m : AgpsStateMachine) (i : AgpsCall × DataCallAnswer) (o : List AgpsEffect)
    (m' : AgpsStateMachine) : Prop := m.call i.1 i.2 = (m', o)

theorem agpsNext_did {i : AgpsCall × DataCallAnswer} (h : agpsNext m i o m') :
    Did m i.2 i.1 m' o := by
  have hDid := m.call_did i.1 i.2
  rwa [show m.call i.1 i.2 = (m', o) from h] at hDid

/-- What the requests of a run so far say about the state. -/
structure NifHistory (os : List AgpsEffect) (m : AgpsStateMachine) : Prop where
  invariant : NifInvariant m
  distinct : Distinct m.mSubscribers
  answered : Answered (nifRequests os)
  last : m.mStatePtr = .pending ∨ m.mStatePtr = .acquired →
    (nifRequests os).getLast? = some .requestAgpsDataConn

theorem NifHistory.step {os : List AgpsEffect} (hInv : NifHistory os m) (h : Did m a c m' o) :
    NifHistory (os ++ o) m' := by
  obtain ⟨hNif, hRequests⟩ := h.nif hInv.invariant
  obtain ⟨hAcquired, hUnsubscribe⟩ := h.moves
  refine ⟨hNif, h.distinct hInv.distinct, ?_, ?_⟩
  · rw [nifRequests_append, hRequests, expectedRequests]
    split
    · exact hInv.answered.append _ AGpsStatusValue.noConfusion
    · split
      · rename_i hRelease
        exact hInv.answered.append _ fun _ => hInv.last hRelease.1
      · rw [List.append_nil]
        exact hInv.answered
  · intro hWanted
    rw [nifRequests_append, hRequests, expectedRequests]
    split
    · exact List.getLast?_concat
    · rename_i hNoEntry
      -- without an entry into pending the connection was already wanted
      have hBefore : m.mStatePtr = .pending ∨ m.mStatePtr = .acquired := by
        obtain hPending | hTo := hWanted
        · exact .inl (not_not.mp fun h => hNoEntry ⟨h, hPending⟩)
        · exact hAcquired hTo
      split
      · rename_i hRelease
        obtain hSame | hTo | hTo := hUnsubscribe hRelease.2.2
        · exact absurd hSame hRelease.2.1
        · rw [hTo] at hWanted
          obtain hWanted | hWanted := hWanted <;> cases hWanted
        · rw [hTo] at hWanted
          obtain hWanted | hWanted := hWanted <;> cases hWanted
      · rw [List.append_nil]
        exact hInv.last hBefore

/-- The state and the list of a machine that is not a `DSStateMachine` agree in every run, and each
call sends exactly the requests of its move. -/
theorem nifProtocol_of_run {type : Int} {enforceSingleSubscriber : Bool}
    {is : List (AgpsCall × DataCallAnswer)} {os : List AgpsEffect} {m : AgpsStateMachine}
    (run : Lib.Steps agpsNext Lib.anyStep (new type enforceSingleSubscriber) is os m) :
    (m.mStatePtr = .released ↔ m.mSubscribers = []) ∧
    (m.mStatePtr = .pending ∨ m.mStatePtr = .acquired →
      ∃ s ∈ m.mSubscribers, s.isInactive = false) ∧
    m.mSubscribers.Pairwise (fun newer older => older.equals newer = false ∧
      (newer.Comparable older → newer.equals older = false)) ∧
    Answered (nifRequests os) ∧
    ∀ c a, nifRequests (m.call c a).2 =
      expectedRequests m.mStatePtr c (m.call c a).1.mStatePtr := by
  have hHistory : NifHistory os m := by
    refine run.history (I := fun _ os m => NifHistory os m) ?_ ?_
    · refine ⟨⟨rfl, ⟨fun _ => rfl, fun _ => rfl⟩, ?_⟩, List.Pairwise.nil, ?_, ?_⟩
      · rintro (h | h) <;> cases h
      · intro front back h
        cases front <;> cases h
      · rintro (h | h) <;> cases h
    · exact fun is os m i o m' _ hInv hNext => hInv.step (agpsNext_did hNext)
  refine ⟨hHistory.invariant.released_iff, hHistory.invariant.active, ?_, hHistory.answered, ?_⟩
  · refine hHistory.distinct.imp fun {newer older} hNot => ⟨hNot, fun hComparable => ?_⟩
    rw [Bool.eq_false_iff] at hNot ⊢
    intro hEq
    exact hNot (hComparable.symm.equals_iff.mpr (hComparable.equals_iff.mp hEq).symm)
  · exact fun c a => ((m.call_did c a).nif hHistory.invariant).2

/-- A subscriber from the modem gets its connection. -/
theorem nifProtocol_of_run_twoSubscribers : ∃ os m,
    Lib.Steps agpsNext Lib.anyStep (new 1 false)
      ([] ++ [(.subscribeRsrc { kind := .atl, ID := 1 }, ⟨0, true⟩)] ++
        [(.onRsrcEvent .granted, ⟨0, true⟩)]) os m ∧
    m.mStatePtr = .acquired ∧ Answered (nifRequests os) := by
  have asked : Lib.Steps agpsNext Lib.anyStep (new 1 false) _ _ _ :=
    .step .start trivial (i := (.subscribeRsrc { kind := .atl, ID := 1 }, ⟨0, true⟩)) rfl
  have run : Lib.Steps agpsNext Lib.anyStep (new 1 false) _ _ _ :=
    asked.step trivial (i := (.onRsrcEvent .granted, ⟨0, true⟩)) rfl
  exact ⟨_, _, run, rfl, (nifProtocol_of_run run).2.2.2.1⟩

end AgpsStateMachine

end KiwiDevice.Gps

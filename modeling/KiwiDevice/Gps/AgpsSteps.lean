import KiwiDevice.Gps.AgpsNotify

/-!
# What the calls of an AGPS state machine do

One lemma for each handler of the machine: the list and the state after it, the requests to the
framework, the notifications and the connections handed over.
-/

namespace KiwiDevice.Gps

namespace AgpsStateMachine

variable {m m' : AgpsStateMachine} {l : List Subscriber} {k : Nat} {s : Subscriber}
  {a : DataCallAnswer}

@[simp] theorem toState_mSubscribers (m : AgpsStateMachine) (state : AgpsState) :
    (m.toState state).mSubscribers = m.mSubscribers := rfl

@[simp] theorem toState_mStatePtr (m : AgpsStateMachine) (state : AgpsState) :
    (m.toState state).mStatePtr = state := rfl

theorem hasSubscribers_iff : m.hasSubscribers = true ↔ m.mSubscribers ≠ [] := by
  rw [hasSubscribers, Bool.not_eq_true', List.isEmpty_eq_false_iff]

theorem hasActiveSubscribers_iff :
    m.hasActiveSubscribers = true ↔ ∃ s ∈ m.mSubscribers, s.isInactive = false := by
  rw [hasActiveSubscribers, List.any_eq_true]
  simp only [Subscriber.forMe, Bool.not_eq_true']

theorem activeSubscriber_isNone :
    m.activeSubscriber.isNone = true ↔ ¬ ∃ s ∈ m.mSubscribers, s.isInactive = false := by
  rw [Option.isNone_iff_eq_none, activeSubscriber, List.find?_eq_none]
  simp [Subscriber.forMe]

theorem addSubscriber_becomes (m : AgpsStateMachine) (s : Subscriber) :
    Becomes m (m.addSubscriber s).mSubscribers (m.addSubscriber s) := by
  rw [addSubscriber]
  split <;> exact ⟨rfl, rfl, rfl, rfl⟩

theorem addSubscriber_cases (m : AgpsStateMachine) (s : Subscriber) :
    (∃ e ∈ m.mSubscribers, e.equals s = true ∧
      (m.addSubscriber s).mSubscribers = m.mSubscribers) ∨
    (∀ e ∈ m.mSubscribers, e.equals s = false) ∧
      (m.addSubscriber s).mSubscribers = s.clone :: m.mSubscribers := by
  rw [addSubscriber]
  split
  · rename_i hAny
    obtain ⟨e, he, hEq⟩ := List.any_eq_true.mp hAny
    exact .inl ⟨e, he, hEq, rfl⟩
  · rename_i hNone
    right
    refine ⟨fun e he => ?_, rfl⟩
    rw [Bool.not_eq_true, List.any_eq_false] at hNone
    exact Bool.eq_false_iff.mpr (hNone e he)

theorem mem_addSubscriber {e : Subscriber} (he : e ∈ m.mSubscribers) :
    e ∈ (m.addSubscriber s).mSubscribers := by
  obtain ⟨_, _, _, hList⟩ | ⟨_, hList⟩ := m.addSubscriber_cases s
  · rwa [hList]
  · rw [hList]
    exact List.mem_cons_of_mem _ he

/-- The list after a listed subscriber is dropped. -/
def dropped (l : List Subscriber) (k : Nat) (s : Subscriber) : List Subscriber :=
  if s.waitForCloseComplete then l.set k { s with mIsInactive := true }
  else l.filter fun e => !e.equals s

theorem takes_unsubscribe (e s : Subscriber) :
    e.takes ⟨.rcver s, .unsubscribe, true⟩ = e.equals s :=
  (Bool.and_true _).trans (Bool.and_true _)

theorem dropSubscriber_spec (m : AgpsStateMachine) (k : Nat) (s : Subscriber) :
    Becomes m (dropped m.mSubscribers k s) (m.dropSubscriber k s).1 ∧
      nifRequests (m.dropSubscriber k s).2 = [] ∧ handedOver (m.dropSubscriber k s).2 = [] ∧
      ∀ t status, .notified t status ∈ (m.dropSubscriber k s).2 → status = .unsubscribe := by
  rw [dropSubscriber, dropped]
  split
  · rw [setInactive]
    cases s.kind <;> refine ⟨⟨rfl, rfl, rfl, rfl⟩, rfl, rfl, fun t status h => ?_⟩
    all_goals simp [informStatus] at h
  · obtain ⟨hList, hTold, hRequests, hHanded⟩ :=
      m.notifySubscribers_removing (n := ⟨.rcver s, .unsubscribe, true⟩) rfl
    simp only [takes_unsubscribe] at hList
    refine ⟨hList, hRequests, ?_, fun t status h => ((hTold t status).mp h).1⟩
    cases hIds : handedOver (m.notifySubscribers ⟨.rcver s, .unsubscribe, true⟩).2 with
    | nil => rfl
    | cons id rest =>
      cases (hHanded id (by rw [hIds]; exact List.mem_cons_self)).1

theorem dropSubscriber_retries (m : AgpsStateMachine) (k : Nat) (s : Subscriber) :
    SettlesRetries m (m.dropSubscriber k s).1 := by
  rw [dropSubscriber]
  split
  · rw [setInactive]
    cases s.kind <;> exact .inl rfl
  · exact m.notifySubscribers_retries _

/-- The answer makes the machine give up the data call. -/
def GivesUp (m : AgpsStateMachine) (a : DataCallAnswer) : Prop :=
  a.ret = errEngineBusy ∧ m.mRetries + 1 > maxStartDataCallRetries ∨
    a.ret = errUnsupported ∨ a.ret = -1

theorem SettlesRetries.givesUp (h : SettlesRetries m m') (hGives : m'.GivesUp a) :
    m.GivesUp a := by
  obtain ⟨hBusy, hMax⟩ | hOther := hGives
  · obtain h | h := h
    · exact .inl ⟨hBusy, h ▸ hMax⟩
    · rw [h] at hMax
      exact absurd hMax (by decide)
  · exact .inr hOther

theorem sendDataCallRequest_cases (m : AgpsStateMachine) (action : AGpsStatusValue)
    (a : DataCallAnswer) :
    (m.GivesUp a ∧ m.sendDataCallRequest action a = ({ m with mRetries := 0 },
      [.requestDataCall action,
        .requestATL (m.activeSubscriber.elim 0xFFFFFFFF Subscriber.ID) agpsTypeSupl], a.ret)) ∨
    (¬ m.GivesUp a ∧ a.ret = errEngineBusy ∧ a.timerStarts = true ∧
      m.sendDataCallRequest action a = ({ m with mRetries := m.mRetries + 1 },
        [.requestDataCall action, .startRetryTimer], -1)) ∨
    (¬ m.GivesUp a ∧ ¬ (a.ret = errEngineBusy ∧ a.timerStarts = true) ∧ ∃ retries,
      m.sendDataCallRequest action a = ({ m with mRetries := retries },
        [.requestDataCall action], a.ret)) := by
  simp only [sendDataCallRequest, GivesUp]
  by_cases hBusy : a.ret = errEngineBusy
  · have hOther : ¬ (a.ret = errUnsupported ∨ a.ret = -1) := by
      rw [hBusy]
      decide
    rw [if_pos hBusy]
    by_cases hMax : m.mRetries + 1 > maxStartDataCallRetries
    · left
      rw [if_pos hMax]
      exact ⟨.inl ⟨hBusy, hMax⟩, rfl⟩
    · have hKeeps : ¬ (a.ret = errEngineBusy ∧ m.mRetries + 1 > maxStartDataCallRetries ∨
          a.ret = errUnsupported ∨ a.ret = -1) := by
        rintro (h | h)
        · exact hMax h.2
        · exact hOther h
      right
      rw [if_neg hMax]
      by_cases hTimer : a.timerStarts = true
      · left
        rw [if_pos hTimer]
        exact ⟨hKeeps, hBusy, hTimer, rfl⟩
      · right
        rw [if_neg hTimer]
        exact ⟨hKeeps, fun h => hTimer h.2, _, rfl⟩
  · rw [if_neg hBusy]
    by_cases hOther : a.ret = errUnsupported ∨ a.ret = -1
    · left
      rw [if_pos hOther]
      exact ⟨.inr hOther, rfl⟩
    · right
      right
      rw [if_neg hOther]
      refine ⟨?_, fun h => hBusy h.1, m.mRetries, rfl⟩
      rintro (h | h)
      · exact hBusy h.1
      · exact hOther h

theorem sendRsrcRequest_becomes (m : AgpsStateMachine) (action : AGpsStatusValue)
    (a : DataCallAnswer) : Becomes m m.mSubscribers (m.sendRsrcRequest action a).1 := by
  rw [sendRsrcRequest]
  split
  · obtain ⟨_, h⟩ | ⟨_, _, _, h⟩ | ⟨_, _, _, h⟩ := m.sendDataCallRequest_cases action a
    all_goals
      rw [h]
      exact ⟨rfl, rfl, rfl, rfl⟩
  · exact .refl m

section Sent

variable {m₁ m₂ : AgpsStateMachine} {action : AGpsStatusValue} {o : List AgpsEffect} {ret : Int}

theorem sent_becomes (h : m₁.sendRsrcRequest action a = (m₂, o, ret)) :
    Becomes m₁ m₁.mSubscribers m₂ := by
  have hTo := m₁.sendRsrcRequest_becomes action a
  rwa [h] at hTo

theorem sent_list (h : m₁.sendRsrcRequest action a = (m₂, o, ret)) :
    m₂.mSubscribers = m₁.mSubscribers := (sent_becomes h).list

end Sent

theorem sendRsrcRequest_told (m : AgpsStateMachine) (action : AGpsStatusValue)
    (a : DataCallAnswer) (t : Subscriber) (status : AgpsRsrcStatus) :
    .notified t status ∉ (m.sendRsrcRequest action a).2.1 := by
  rw [sendRsrcRequest]
  split
  · obtain ⟨_, h⟩ | ⟨_, _, _, h⟩ | ⟨_, _, _, h⟩ := m.sendDataCallRequest_cases action a
    all_goals
      rw [h]
      simp
  · change _ ∉ m.sendNifRequest action
    rw [sendNifRequest]
    split
    · split <;> simp
    · exact List.not_mem_nil

/-- The framework gets the request when the machine's own view of the active subscribers agrees. -/
theorem sendRsrcRequest_nif (hNotDS : m.isDS = false) (action : AGpsStatusValue)
    (a : DataCallAnswer) : nifRequests (m.sendRsrcRequest action a).2.1 =
      if (∃ s ∈ m.mSubscribers, s.isInactive = false) ↔ action = .requestAgpsDataConn
        then [action] else [] := by
  rw [sendRsrcRequest, if_neg (by rw [hNotDS]; decide)]
  have hNone := m.activeSubscriber_isNone
  change nifRequests (m.sendNifRequest action) = _
  by_cases hActive : ∃ s ∈ m.mSubscribers, s.isInactive = false
  · have hSome : m.activeSubscriber.isNone = false := by
      rw [Bool.eq_false_iff, ne_eq, hNone]
      exact fun h => h hActive
    obtain ⟨s, hs⟩ := Option.isSome_iff_exists.mp (Option.isNone_eq_false_iff.mp hSome)
    rw [sendNifRequest, hs]
    cases action with
    | requestAgpsDataConn =>
      refine Eq.trans (b := [.requestAgpsDataConn]) rfl (if_pos ?_).symm
      exact ⟨fun _ => rfl, fun _ => hActive⟩
    | releaseAgpsDataConn =>
      refine Eq.trans (b := []) rfl (if_neg fun h => ?_).symm
      cases h.mp hActive
  · have hs := Option.isNone_iff_eq_none.mp (hNone.mpr hActive)
    rw [sendNifRequest, hs]
    cases action with
    | requestAgpsDataConn =>
      exact Eq.trans (b := []) rfl (if_neg fun h => hActive (h.mpr rfl)).symm
    | releaseAgpsDataConn =>
      refine Eq.trans (b := [.releaseAgpsDataConn]) rfl (if_pos ?_).symm
      constructor
      · exact fun h => absurd h hActive
      · intro h
        cases h

theorem sendRsrcRequest_ret (hNotDS : m.isDS = false) (action : AGpsStatusValue)
    (a : DataCallAnswer) : (m.sendRsrcRequest action a).2.2 = 0 := by
  rw [sendRsrcRequest, if_neg (by rw [hNotDS]; decide)]

/-- A removal or a mark of a dropped subscriber tells nobody but that subscriber. -/
structure Quiet (o : List AgpsEffect) : Prop where
  requests : nifRequests o = []
  handed : handedOver o = []
  told : ∀ t status, .notified t status ∈ o → status = .unsubscribe

end AgpsStateMachine

/-- The calls of a machine by the rest of the engine. -/
inductive AgpsCall where
  | subscribeRsrc (s : Subscriber)
  | unsubscribeRsrc (s : Subscriber)
  | onRsrcEvent (event : AgpsRsrcStatus)
  deriving DecidableEq, Repr

namespace AgpsStateMachine

def call (m : AgpsStateMachine) (c : AgpsCall) (a : DataCallAnswer) :
    AgpsStateMachine × List AgpsEffect :=
  match c with
  | .subscribeRsrc s => m.subscribeRsrc s a
  | .unsubscribeRsrc s => m.unsubscribeRsrc s a
  | .onRsrcEvent event => m.onRsrcEvent event a

/-- A new subscriber is denied because there is one already. -/
def Refuses (m : AgpsStateMachine) : Prop :=
  m.mEnforceSingleSubscriber = true ∧ m.hasSubscribers = true

instance (m : AgpsStateMachine) : Decidable m.Refuses := inferInstanceAs (Decidable (_ ∧ _))

/-- Everything that a call can do. -/
inductive Did (m : AgpsStateMachine) (a : DataCallAnswer) :
    AgpsCall → AgpsStateMachine → List AgpsEffect → Prop where
  | refused {s : Subscriber} {m' : AgpsStateMachine} {o : List AgpsEffect}
      (hList : m.Refuses) (h : Becomes m m.mSubscribers m')
      (ho : Notifies ⟨.broadcastAll, .denied, true⟩ [s] o) : Did m a (.subscribeRsrc s) m' o
  | added {s : Subscriber} (hOpen : ¬ m.Refuses)
      (hState : m.mStatePtr = .pending ∨ m.mStatePtr = .releasing) :
      Did m a (.subscribeRsrc s) (m.addSubscriber s) []
  | granted {s : Subscriber} {m' : AgpsStateMachine} {o : List AgpsEffect} (hOpen : ¬ m.Refuses)
      (hState : m.mStatePtr = .acquired)
      (h : Becomes m (m.addSubscriber s).mSubscribers m')
      (ho : Notifies ⟨.rcver s, .granted, false⟩ [s] o) : Did m a (.subscribeRsrc s) m' o
  | requested {s : Subscriber} {m₁ : AgpsStateMachine} {o : List AgpsEffect} {ret : Int}
      (hOpen : ¬ m.Refuses) (hState : m.mStatePtr = .released)
      (hSent : (m.addSubscriber s).sendRsrcRequest .requestAgpsDataConn a = (m₁, o, ret)) :
      Did m a (.subscribeRsrc s) (if ret = 0 then m₁.toState .pending else m₁) o
  | unknown {s : Subscriber} (hNone : ∀ e ∈ m.mSubscribers, e.equals s = false) :
      Did m a (.unsubscribeRsrc s) m []
  | toldAgain {s e : Subscriber} {m' : AgpsStateMachine} {o : List AgpsEffect}
      (hState : m.mStatePtr = .released) (h : Becomes m m.mSubscribers m')
      (ho : Notifies ⟨.rcver e, .unsubscribe, false⟩ [e] o) : Did m a (.unsubscribeRsrc s) m' o
  | left {s e : Subscriber} {k : Nat} {m' : AgpsStateMachine} {o : List AgpsEffect}
      (he : m.mSubscribers[k]? = some e) (hEq : e.equals s = true)
      (hState : m.mStatePtr ≠ .released) (h : Becomes m (dropped m.mSubscribers k e) m')
      (ho : Quiet o) (hList : m'.mSubscribers ≠ [])
      (hActive : m.mStatePtr = .releasing ∨ ∃ t ∈ m'.mSubscribers, t.isInactive = false) :
      Did m a (.unsubscribeRsrc s) m' o
  | leftLast {s e : Subscriber} {k : Nat} {m' : AgpsStateMachine} {o : List AgpsEffect}
      (he : m.mSubscribers[k]? = some e) (hEq : e.equals s = true)
      (hState : m.mStatePtr = .releasing) (h : Becomes m (dropped m.mSubscribers k e) m')
      (ho : Quiet o) (hList : m'.mSubscribers = []) :
      Did m a (.unsubscribeRsrc s) (m'.toState .released) o
  | freed {s e : Subscriber} {k : Nat} {m₁ m₂ : AgpsStateMachine} {o o' : List AgpsEffect}
      {ret : Int} (he : m.mSubscribers[k]? = some e) (hEq : e.equals s = true)
      (hState : m.mStatePtr = .pending ∨ m.mStatePtr = .acquired)
      (h : Becomes m (dropped m.mSubscribers k e) m₁) (hRetries : SettlesRetries m m₁)
      (ho : Quiet o) (hActive : ¬ ∃ t ∈ m₁.mSubscribers, t.isInactive = false)
      (hSent : m₁.sendRsrcRequest .releaseAgpsDataConn a = (m₂, o', ret)) :
      Did m a (.unsubscribeRsrc s)
        (m₂.toState (if m₁.mSubscribers = [] then .released else .releasing)) (o ++ o')
  | ignored {event : AgpsRsrcStatus} : Did m a (.onRsrcEvent event) m []
  | connected {m' : AgpsStateMachine} {o : List AgpsEffect} (hState : m.mStatePtr = .pending)
      (h : Becomes m m.mSubscribers m')
      (ho : Notifies ⟨.broadcastActive, .granted, false⟩ m.mSubscribers o) :
      Did m a (.onRsrcEvent .granted) (m'.toState .acquired) o
  | ended {event status : AgpsRsrcStatus} {m' : AgpsStateMachine} {o : List AgpsEffect}
      (hState : m.mStatePtr = .pending ∨ m.mStatePtr = .acquired)
      (hStatus : status = .released ∨ status = .denied) (h : Becomes m [] m')
      (ho : Notifies ⟨.broadcastAll, status, true⟩ m.mSubscribers o) :
      Did m a (.onRsrcEvent event) (m'.toState .released) o
  | closed {event status : AgpsRsrcStatus} {m' : AgpsStateMachine} {o : List AgpsEffect}
      (hState : m.mStatePtr = .releasing) (hStatus : status = .released ∨ status = .denied)
      (h : Becomes m (m.mSubscribers.filter fun e => !e.isInactive) m')
      (ho : Notifies ⟨.broadcastInactive, status, true⟩ m.mSubscribers o)
      (hActive : ¬ ∃ t ∈ m'.mSubscribers, t.isInactive = false) :
      Did m a (.onRsrcEvent event) (m'.toState .released) o
  | reopened {event status : AgpsRsrcStatus} {m₁ m₂ : AgpsStateMachine}
      {o o' : List AgpsEffect} {ret : Int}
      (hState : m.mStatePtr = .releasing) (hStatus : status = .released ∨ status = .denied)
      (h : Becomes m (m.mSubscribers.filter fun e => !e.isInactive) m₁)
      (hRetries : SettlesRetries m m₁)
      (ho : Notifies ⟨.broadcastInactive, status, true⟩ m.mSubscribers o)
      (hActive : ∃ t ∈ m₁.mSubscribers, t.isInactive = false)
      (hSent : m₁.sendRsrcRequest .requestAgpsDataConn a = (m₂, o', ret)) :
      Did m a (.onRsrcEvent event) (m₂.toState .pending) (o ++ o')

variable {m : AgpsStateMachine} {a : DataCallAnswer}

theorem subscribeRsrc_did (m : AgpsStateMachine) (s : Subscriber) (a : DataCallAnswer) :
    Did m a (.subscribeRsrc s) (m.subscribeRsrc s a).1 (m.subscribeRsrc s a).2 := by
  rw [subscribeRsrc]
  split
  · rename_i hRefused
    exact .refused hRefused (m.notifyRsrcStatus_becomes s _)
      (m.notifyRsrcStatus_effects s _)
  · rename_i hOpen
    rw [onSubscribe]
    split
    · rename_i hState
      exact .requested hOpen hState rfl
    · rename_i hState
      refine .granted hOpen hState ?_ (m.notifyRsrcStatus_effects s _)
      have hTold := m.notifyRsrcStatus_becomes s ⟨.rcver s, .granted, false⟩
      have hAdded := addSubscriber_becomes (m.notifyRsrcStatus s ⟨.rcver s, .granted, false⟩).1 s
      have hSame : ((m.notifyRsrcStatus s ⟨.rcver s, .granted, false⟩).1.addSubscriber s).mSubscribers =
          (m.addSubscriber s).mSubscribers := by
        rw [addSubscriber, addSubscriber, hTold.list]
        split
        · exact hTold.list
        · rfl
      rw [← hSame]
      exact hTold.trans hAdded
    · rename_i hState
      exact .added hOpen (.inl hState)
    · rename_i hState
      exact .added hOpen (.inr hState)

/-- The end of `RSRC_UNSUBSCRIBE` while the connection is wanted. -/
theorem release_did {s e : Subscriber} {k : Nat} {d r : AgpsStateMachine × List AgpsEffect}
    (he : m.mSubscribers[k]? = some e) (hEq : e.equals s = true)
    (hState : m.mStatePtr = .pending ∨ m.mStatePtr = .acquired)
    (hDrop : Becomes m (dropped m.mSubscribers k e) d.1) (hRetries : SettlesRetries m d.1)
    (hQuiet : Quiet d.2)
    (hr : (if ¬ d.1.hasSubscribers then
        let sent := d.1.sendRsrcRequest .releaseAgpsDataConn a
        (sent.1.toState .released, d.2 ++ sent.2.1)
      else if ¬ d.1.hasActiveSubscribers then
        let sent := d.1.sendRsrcRequest .releaseAgpsDataConn a
        (sent.1.toState .releasing, d.2 ++ sent.2.1)
      else d) = r) : Did m a (.unsubscribeRsrc s) r.1 r.2 := by
  subst hr
  split
  · rename_i hNone
    rw [hasSubscribers_iff, not_not] at hNone
    have hInactive : ¬ ∃ t ∈ d.1.mSubscribers, t.isInactive = false := by
      rw [hNone]
      rintro ⟨t, ht, _⟩
      cases ht
    have hSent : d.1.sendRsrcRequest .releaseAgpsDataConn a = (_, _, _) := rfl
    have h := Did.freed he hEq hState hDrop hRetries hQuiet hInactive hSent
    rwa [if_pos hNone] at h
  · rename_i hSome
    rw [hasSubscribers_iff, not_not] at hSome
    split
    · rename_i hInactive
      rw [hasActiveSubscribers_iff] at hInactive
      have hSent : d.1.sendRsrcRequest .releaseAgpsDataConn a = (_, _, _) := rfl
      have h := Did.freed he hEq hState hDrop hRetries hQuiet hInactive hSent
      rwa [if_neg hSome] at h
    · rename_i hActive
      rw [not_not, hasActiveSubscribers_iff] at hActive
      refine .left he hEq ?_ hDrop hQuiet hSome (.inr hActive)
      obtain h | h := hState
      · rw [h]
        decide
      · rw [h]
        decide

theorem onUnsubscribe_did {s e : Subscriber} {k : Nat} (he : m.mSubscribers[k]? = some e)
    (hEq : e.equals s = true) :
    Did m a (.unsubscribeRsrc s) (m.onUnsubscribe k e a).1 (m.onUnsubscribe k e a).2 := by
  obtain ⟨hDrop, hRequests, hHanded, hTold⟩ := m.dropSubscriber_spec k e
  have hQuiet : Quiet (m.dropSubscriber k e).2 := ⟨hRequests, hHanded, hTold⟩
  rw [onUnsubscribe]
  split
  · rename_i hState
    exact .toldAgain hState (m.notifyRsrcStatus_becomes e _) (m.notifyRsrcStatus_effects e _)
  · rename_i hState
    exact release_did he hEq (.inl hState) hDrop (m.dropSubscriber_retries k e) hQuiet rfl
  · rename_i hState
    exact release_did he hEq (.inr hState) hDrop (m.dropSubscriber_retries k e) hQuiet rfl
  · rename_i hState
    simp only
    split
    · rename_i hNone
      rw [hasSubscribers_iff, not_not] at hNone
      exact .leftLast he hEq hState hDrop hQuiet hNone
    · rename_i hSome
      rw [hasSubscribers_iff, not_not] at hSome
      exact .left he hEq (by rw [hState]; decide) hDrop hQuiet hSome (.inl hState)

theorem unsubscribeRsrc_did (m : AgpsStateMachine) (s : Subscriber) (a : DataCallAnswer) :
    Did m a (.unsubscribeRsrc s) (m.unsubscribeRsrc s a).1 (m.unsubscribeRsrc s a).2 := by
  have hFor : ∀ e : Subscriber, e.forMe { receiver := .rcver s } = e.equals s := fun _ => rfl
  rw [unsubscribeRsrc]
  split
  · rename_i hNone
    refine .unknown fun e he => ?_
    exact Bool.eq_false_iff.mpr fun h => Bool.eq_false_iff.mp (List.findIdx?_eq_none_iff.mp hNone e he) h
  · rename_i k hFound
    obtain ⟨hk, hEq, _⟩ := List.findIdx?_eq_some_iff_getElem.mp hFound
    rw [List.getElem?_eq_getElem hk]
    exact onUnsubscribe_did (List.getElem?_eq_getElem hk) hEq

theorem notifyAll_did {event status : AgpsRsrcStatus}
    (hState : m.mStatePtr = .pending ∨ m.mStatePtr = .acquired)
    (hStatus : status = .released ∨ status = .denied) :
    Did m a (.onRsrcEvent event) (m.notifyAll status).1 (m.notifyAll status).2 := by
  obtain ⟨hNone, hTold⟩ := m.notifySubscribers_removing (n := ⟨.broadcastAll, status, true⟩) rfl
  have hAll : m.mSubscribers.filter (fun s => !s.takes ⟨.broadcastAll, status, true⟩) = [] := by
    rw [List.filter_eq_nil_iff]
    intro s _
    obtain rfl | rfl := hStatus <;> exact Bool.noConfusion
  rw [hAll] at hNone
  exact .ended hState hStatus hNone hTold

theorem closeComplete_did {event status : AgpsRsrcStatus} (hState : m.mStatePtr = .releasing)
    (hStatus : status = .released ∨ status = .denied) :
    Did m a (.onRsrcEvent event) (m.closeComplete status a).1 (m.closeComplete status a).2 := by
  obtain ⟨hKept, hTold⟩ :=
    m.notifySubscribers_removing (n := ⟨.broadcastInactive, status, true⟩) rfl
  have hTakes : ∀ s : Subscriber, s.takes ⟨.broadcastInactive, status, true⟩ = s.isInactive := by
    intro s
    obtain rfl | rfl := hStatus <;> exact (Bool.and_true _).trans (Bool.and_true _)
  simp only [hTakes] at hKept
  rw [closeComplete]
  simp only
  split
  · rename_i hActive
    exact .reopened hState hStatus hKept (m.notifySubscribers_retries _) hTold (hasActiveSubscribers_iff.mp hActive) rfl
  · rename_i hActive
    rw [hasActiveSubscribers_iff] at hActive
    exact .closed hState hStatus hKept hTold hActive

theorem closeComplete_state (m : AgpsStateMachine) (status : AgpsRsrcStatus)
    (a : DataCallAnswer) : (m.closeComplete status a).1.mStatePtr ≠ .releasing := by
  rw [closeComplete]
  simp only
  split
  · exact AgpsState.noConfusion
  · exact AgpsState.noConfusion

theorem onDenied_did {event : AgpsRsrcStatus} :
    Did m a (.onRsrcEvent event) (m.onDenied a).1 (m.onDenied a).2 := by
  rw [onDenied]
  split
  · rename_i hState
    exact notifyAll_did (.inl hState) (.inr rfl)
  · rename_i hState
    exact closeComplete_did hState (.inr rfl)
  · exact .ignored
  · exact .ignored

theorem onRsrcEvent_did (m : AgpsStateMachine) (event : AgpsRsrcStatus) (a : DataCallAnswer) :
    Did m a (.onRsrcEvent event) (m.onRsrcEvent event a).1 (m.onRsrcEvent event a).2 := by
  rw [onRsrcEvent.eq_def]
  cases event with
  | granted =>
    simp only [onGranted]
    split
    · rename_i hState
      obtain ⟨hList, hTold⟩ :=
        m.notifySubscribers_keeping (n := ⟨.broadcastActive, .granted, false⟩) rfl
      exact .connected hState hList hTold
    all_goals exact .ignored
  | denied => exact onDenied_did
  | released =>
    -- an unchanged state is taken for a denial by a `DSStateMachine`
    have hSame : (m.mStatePtr = .released ∨ m.mStatePtr = .pending) → m.onReleased a = (m, []) := by
      rintro (h | h) <;> rw [onReleased, h]
    simp only
    cases hState : m.mStatePtr with
    | released =>
      rw [hSame (.inl hState)]
      split
      · exact onDenied_did
      · exact .ignored
    | pending =>
      rw [hSame (.inr hState)]
      split
      · exact onDenied_did
      · exact .ignored
    | acquired =>
      have hAll : m.onReleased a = m.notifyAll .released := by rw [onReleased, hState]
      rw [hAll, if_neg fun h => AgpsState.noConfusion h.2]
      exact notifyAll_did (.inr hState) (.inl rfl)
    | releasing =>
      have hClose : m.onReleased a = m.closeComplete .released a := by rw [onReleased, hState]
      rw [hClose, if_neg fun h => m.closeComplete_state .released a h.2]
      exact closeComplete_did hState (.inl rfl)
  | subscribe => exact .ignored
  | unsubscribe => exact .ignored
  | statusMax => exact .ignored

theorem call_did (m : AgpsStateMachine) (c : AgpsCall) (a : DataCallAnswer) :
    Did m a c (m.call c a).1 (m.call c a).2 := by
  cases c with
  | subscribeRsrc s => exact m.subscribeRsrc_did s a
  | unsubscribeRsrc s => exact m.unsubscribeRsrc_did s a
  | onRsrcEvent event => exact m.onRsrcEvent_did event a

end AgpsStateMachine

end KiwiDevice.Gps

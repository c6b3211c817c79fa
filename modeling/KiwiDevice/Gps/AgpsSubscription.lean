import KiwiDevice.Gps.AgpsInvariant

/-!
# Subscriptions that stand

A subscription stands from its call until the subscriber is unsubscribed or told that the connection
is released or denied. The list keeps an active subscriber for it, provided that no twin of the new
subscriber was still waiting in the list for the close to complete.
-/

namespace KiwiDevice.Gps

/-- The subscriber is told that its subscription is over. -/
def AgpsEffect.endsFor (s : Subscriber) : AgpsEffect → Bool
  | .notified e status => e.identity == s.identity && (status == .released || status == .denied)
  | _ => false

/-- The call takes back the subscription. -/
def AgpsCall.unsubscribes (s : Subscriber) : AgpsCall → Bool
  | .unsubscribeRsrc u => u.identity == s.identity
  | .subscribeRsrc _ | .onRsrcEvent _ => false

def AgpsCall.subscribed : AgpsCall → List Subscriber
  | .subscribeRsrc s => [s]
  | .unsubscribeRsrc _ | .onRsrcEvent _ => []

/-- A machine with the subscriptions that stand. -/
structure AgpsTracked where
  machine : AgpsStateMachine
  standing : List Subscriber := []

namespace AgpsTracked

def next (w : AgpsTracked) (i : AgpsCall × DataCallAnswer) (o : List AgpsEffect)
    (w' : AgpsTracked) : Prop :=
  w.machine.agpsNext i o w'.machine ∧
    w'.standing = (i.1.subscribed ++ w.standing).filter fun s =>
      !i.1.unsubscribes s && !o.any (AgpsEffect.endsFor s)

/-- The list can be searched for the subscriber, and a new subscriber finds no inactive twin. -/
def FindsActive (m : AgpsStateMachine) : AgpsCall → Prop
  | .subscribeRsrc s => (∀ e ∈ m.mSubscribers, e.Comparable s) ∧
      (m.Refuses ∨ ∀ e ∈ m.mSubscribers, e.equals s = true → e.isInactive = false)
  | .unsubscribeRsrc s => ∀ e ∈ m.mSubscribers, e.Comparable s
  | .onRsrcEvent _ => True

def allowed (_ : List (AgpsCall × DataCallAnswer)) (_ : List AgpsEffect) (w : AgpsTracked)
    (i : AgpsCall × DataCallAnswer) (_ : List AgpsEffect) : Prop := FindsActive w.machine i.1

end AgpsTracked

namespace AgpsStateMachine

variable {m m' : AgpsStateMachine} {a : DataCallAnswer} {c : AgpsCall} {o : List AgpsEffect}
  {s : Subscriber}

/-- An active subscriber in the list stands for the subscription. -/
def Kept (m : AgpsStateMachine) (s : Subscriber) : Prop :=
  ∃ e ∈ m.mSubscribers, e.isInactive = false ∧ e.identity = s.identity ∧ e.Comparable s

theorem Kept.equals (h : m.Kept s) :
    ∃ e ∈ m.mSubscribers, e.isInactive = false ∧ e.equals s = true := by
  obtain ⟨e, he, hActive, hSame, hComparable⟩ := h
  exact ⟨e, he, hActive, hComparable.equals_iff.mpr hSame⟩

theorem Kept.mono (h : m.Kept s)
    (hList : ∀ e ∈ m.mSubscribers, e.isInactive = false → e ∈ m'.mSubscribers) : m'.Kept s := by
  obtain ⟨e, he, hActive, hSame⟩ := h
  exact ⟨e, hList e he hActive, hActive, hSame⟩

theorem mem_set_of_ne {l : List Subscriber} {k : Nat} {e x y : Subscriber} (he : e ∈ l)
    (hx : l[k]? = some x) (hNe : e ≠ x) : e ∈ l.set k y := by
  obtain ⟨j, hj⟩ := List.mem_iff_getElem?.mp he
  have hjk : k ≠ j := by
    rintro rfl
    exact hNe (Option.some_inj.mp (hj.symm.trans hx))
  exact List.mem_iff_getElem?.mpr ⟨j, (List.getElem?_set_ne hjk).trans hj⟩

theorem Kept.dropped {u x : Subscriber} {k : Nat} (h : m.Kept s)
    (hComparable : ∀ e ∈ m.mSubscribers, e.Comparable u) (hx : m.mSubscribers[k]? = some x)
    (hEq : x.equals u = true) (hOther : u.identity ≠ s.identity)
    (hList : m'.mSubscribers = dropped m.mSubscribers k x) : m'.Kept s := by
  obtain ⟨e, he, hActive, hSame, hRest⟩ := h
  have hxMem : x ∈ m.mSubscribers := List.mem_of_getElem? hx
  have hNot : e.equals x = false := by
    rw [Bool.eq_false_iff]
    intro hex
    -- both are compared with `u`, so they are compared with each other
    have hPair : e.Comparable x := by
      intro heNone hxNone
      have huNone : u.ID = inaddrNone := (Subscriber.ID_of_equals hEq).symm.trans hxNone
      exact (hComparable e he heNone huNone).trans (hComparable x hxMem hxNone huNone).symm
    have hx' := (hComparable x hxMem).equals_iff.mp hEq
    exact hOther (hx'.symm.trans ((hPair.equals_iff.mp hex).symm.trans hSame))
  refine ⟨e, ?_, hActive, hSame, hRest⟩
  rw [hList, AgpsStateMachine.dropped]
  split
  · refine mem_set_of_ne he hx ?_
    rintro rfl
    rw [e.equals_refl] at hNot
    cases hNot
  · exact List.mem_filter.mpr ⟨he, by rw [hNot]; rfl⟩

theorem Kept.sent {action : AGpsStatusValue} {m₂ : AgpsStateMachine} {ret : Int} (h : m.Kept s)
    (hSent : m.sendRsrcRequest action a = (m₂, o, ret)) : m₂.Kept s := by
  refine h.mono fun e he _ => ?_
  have hList := (m.sendRsrcRequest_becomes action a).list
  rw [hSent] at hList
  rwa [hList]

theorem Kept.toState (h : m.Kept s) (state : AgpsState) : (m.toState state).Kept s := h

theorem Notifies.ends {n : Notification} {l : List Subscriber} {e : Subscriber}
    (h : Notifies n l o) (hStatus : n.rsrcStatus = .released ∨ n.rsrcStatus = .denied)
    (he : e ∈ l) (hTakes : e.takes n = true) (hSame : e.identity = s.identity) :
    o.any (AgpsEffect.endsFor s) = true := by
  rw [List.any_eq_true]
  refine ⟨_, (h.told e n.rsrcStatus).mpr ⟨rfl, he, hTakes⟩, ?_⟩
  rw [AgpsEffect.endsFor, hSame, beq_self_eq_true, Bool.true_and]
  obtain hStatus | hStatus := hStatus <;> rw [hStatus] <;> rfl

theorem Did.keeps (h : Did m a c m' o) (hFinds : AgpsTracked.FindsActive m c)
    (hOther : c.unsubscribes s = false) (hTold : o.any (AgpsEffect.endsFor s) = false)
    (hKept : m.Kept s) : m'.Kept s := by
  have hSame : m'.mSubscribers = m.mSubscribers → m'.Kept s := by
    intro hList
    exact hKept.mono fun e he _ => hList ▸ he
  cases h with
  | refused _ h _ => exact hSame h.list
  | added => exact hKept.mono fun e he _ => mem_addSubscriber he
  | granted _ _ h _ => exact hKept.mono fun e he _ => h.list ▸ mem_addSubscriber he
  | @requested t m₁ _ ret _ _ hSent =>
    have hAdd : (m.addSubscriber t).Kept s := hKept.mono fun e he _ => mem_addSubscriber he
    split
    · exact (hAdd.sent hSent).toState _
    · exact hAdd.sent hSent
  | unknown => exact hSame rfl
  | toldAgain _ h _ => exact hSame h.list
  | left he hEq _ h _ _ _ =>
    exact hKept.dropped hFinds he hEq (beq_eq_false_iff_ne.mp hOther) h.list
  | leftLast he hEq _ h _ _ =>
    exact hKept.dropped hFinds he hEq (beq_eq_false_iff_ne.mp hOther) h.list
  | @freed _ _ _ m₁ _ _ _ _ he hEq _ h _ _ _ hSent =>
    have hDropped : m₁.Kept s :=
      hKept.dropped hFinds he hEq (beq_eq_false_iff_ne.mp hOther) h.list
    exact (hDropped.sent hSent).toState _
  | ignored => exact hSame rfl
  | connected _ h _ => exact hSame h.list
  | @ended _ status _ _ _ hStatus _ ho =>
    obtain ⟨e, he, _, hIdentity, _⟩ := hKept
    have hTakes : e.takes ⟨.broadcastAll, status, true⟩ = true := by
      obtain rfl | rfl := hStatus <;> rfl
    rw [ho.ends hStatus he hTakes hIdentity] at hTold
    cases hTold
  | closed _ _ h _ _ =>
    refine hKept.mono fun e he hActive => ?_
    rw [toState_mSubscribers, h.list]
    exact List.mem_filter.mpr ⟨he, by rw [hActive]; rfl⟩
  | @reopened _ _ m₁ _ _ _ _ _ _ h _ _ _ hSent =>
    have hFiltered : m₁.Kept s := by
      refine hKept.mono fun e he hActive => ?_
      rw [h.list]
      exact List.mem_filter.mpr ⟨he, by rw [hActive]; rfl⟩
    exact (hFiltered.sent hSent).toState _

theorem kept_addSubscriber (hComparable : ∀ e ∈ m.mSubscribers, e.Comparable s)
    (hActive : ∀ e ∈ m.mSubscribers, e.equals s = true → e.isInactive = false) :
    (m.addSubscriber s).Kept s := by
  obtain ⟨e, he, hEq, hList⟩ | ⟨_, hList⟩ := m.addSubscriber_cases s
  · exact ⟨e, hList ▸ he, hActive e he hEq, (hComparable e he).equals_iff.mp hEq,
      hComparable e he⟩
  · refine ⟨s.clone, by rw [hList]; exact List.mem_cons_self, s.clone_isInactive, rfl, ?_⟩
    exact fun _ _ => Iff.rfl

theorem Did.keepsNew (h : Did m a (.subscribeRsrc s) m' o)
    (hFinds : AgpsTracked.FindsActive m (.subscribeRsrc s))
    (hTold : o.any (AgpsEffect.endsFor s) = false) : m'.Kept s := by
  obtain ⟨hComparable, hActive⟩ := hFinds
  have hAdd : ¬ m.Refuses → (m.addSubscriber s).Kept s := by
    intro hOpen
    exact kept_addSubscriber hComparable (hActive.resolve_left hOpen)
  cases h with
  | refused _ _ ho =>
    rw [ho.ends (.inr rfl) (List.mem_singleton_self s) rfl rfl] at hTold
    cases hTold
  | added hOpen _ => exact hAdd hOpen
  | granted hOpen _ h _ => exact (hAdd hOpen).mono fun e he _ => h.list ▸ he
  | requested hOpen _ hSent =>
    split
    · exact ((hAdd hOpen).sent hSent).toState _
    · exact (hAdd hOpen).sent hSent

theorem granted_told (hState : m.mStatePtr = .pending) (hKept : m.Kept s) :
    ∃ e, e.equals s = true ∧
      .notified e .granted ∈ (m.call (.onRsrcEvent .granted) a).2 := by
  obtain ⟨e, he, hActive, hEq⟩ := hKept.equals
  refine ⟨e, hEq, ?_⟩
  have hTold := (m.notifySubscribers_keeping
    (n := ⟨.broadcastActive, .granted, false⟩) rfl).2
  have hGrant : m.call (.onRsrcEvent .granted) a =
      ((m.notifySubscribers ⟨.broadcastActive, .granted, false⟩).1.toState .acquired,
        (m.notifySubscribers ⟨.broadcastActive, .granted, false⟩).2) := by
    change m.onGranted = _
    rw [onGranted, hState]
  rw [hGrant]
  refine (hTold.told e .granted).mpr ⟨rfl, he, ?_⟩
  rw [Subscriber.takes, Subscriber.forMe, hActive]
  rfl

theorem Did.notReleasing {u : Subscriber} (h : Did m a (.unsubscribeRsrc u) m' o)
    (hComparable : ∀ e ∈ m.mSubscribers, e.Comparable u) (hOther : u.identity ≠ s.identity)
    (hKept : m.Kept s) (hState : m.mStatePtr ≠ .releasing) : m'.mStatePtr ≠ .releasing := by
  cases h with
  | unknown => exact hState
  | toldAgain _ h _ => rwa [h.state]
  | left _ _ _ h _ _ _ => rwa [h.state]
  | leftLast => exact AgpsState.noConfusion
  | @freed _ _ _ m₁ _ _ _ _ he hEq _ h _ _ hActive _ =>
    have hDropped : m₁.Kept s := hKept.dropped hComparable he hEq hOther h.list
    obtain ⟨e, he, hStill, _⟩ := hDropped
    exact absurd ⟨e, he, hStill⟩ hActive

end AgpsStateMachine

namespace AgpsTracked

variable {w w' : AgpsTracked} {i : AgpsCall × DataCallAnswer} {o : List AgpsEffect}

theorem next_keeps (hFinds : FindsActive w.machine i.1)
    (hKept : ∀ s ∈ w.standing, w.machine.Kept s) (h : next w i o w') :
    ∀ s ∈ w'.standing, w'.machine.Kept s := by
  obtain ⟨hNext, hStanding⟩ := h
  have hDid := AgpsStateMachine.agpsNext_did hNext
  intro s hs
  rw [hStanding, List.mem_filter, Bool.and_eq_true, Bool.not_eq_true', Bool.not_eq_true'] at hs
  obtain ⟨hMem, hOther, hTold⟩ := hs
  obtain hNew | hOld := List.mem_append.mp hMem
  · cases hCall : i.1 with
    | subscribeRsrc t =>
      rw [hCall] at hNew hDid hFinds
      obtain rfl := List.mem_singleton.mp hNew
      exact hDid.keepsNew hFinds hTold
    | unsubscribeRsrc u =>
      rw [hCall] at hNew
      cases hNew
    | onRsrcEvent event =>
      rw [hCall] at hNew
      cases hNew
  · exact hDid.keeps hFinds hOther hTold (hKept s hOld)

/-- In a run where no new subscriber meets an inactive twin, every standing subscription has an
active subscriber in the list, is told of the grant, and is not released for the sake of another. -/
theorem subscription_kept_of_run {m₀ : AgpsStateMachine}
    {is : List (AgpsCall × DataCallAnswer)} {os : List AgpsEffect} {w : AgpsTracked}
    (run : Lib.Steps next allowed { machine := m₀ } is os w) {s : Subscriber}
    (hs : s ∈ w.standing) :
    (∃ e ∈ w.machine.mSubscribers, e.isInactive = false ∧ e.equals s = true) ∧
    (w.machine.mStatePtr = .pending → ∀ a, ∃ e, e.equals s = true ∧
      .notified e .granted ∈ (w.machine.call (.onRsrcEvent .granted) a).2) ∧
    ∀ u a, FindsActive w.machine (.unsubscribeRsrc u) → u.identity ≠ s.identity →
      w.machine.mStatePtr ≠ .releasing →
      (w.machine.call (.unsubscribeRsrc u) a).1.mStatePtr ≠ .releasing := by
  have hAll : ∀ s ∈ w.standing, w.machine.Kept s := by
    refine run.invariant (I := fun w => ∀ s ∈ w.standing, w.machine.Kept s) ?_ ?_
    · intro s hs
      cases hs
    · exact fun _ _ _ _ _ _ hFinds hKept hNext => next_keeps hFinds hKept hNext
  have hKept := hAll s hs
  refine ⟨hKept.equals, fun hState a => AgpsStateMachine.granted_told hState hKept, ?_⟩
  intro u a hFinds hOther hState
  exact (w.machine.call_did (.unsubscribeRsrc u) a).notReleasing hFinds hOther hKept hState

/-- The tracked machine after a call. -/
def after (w : AgpsTracked) (i : AgpsCall × DataCallAnswer) : AgpsTracked where
  machine := (w.machine.call i.1 i.2).1
  standing := (i.1.subscribed ++ w.standing).filter fun s =>
    !i.1.unsubscribes s && !(w.machine.call i.1 i.2).2.any (AgpsEffect.endsFor s)

theorem next_after (w : AgpsTracked) (i : AgpsCall × DataCallAnswer) :
    next w i (w.machine.call i.1 i.2).2 (w.after i) := ⟨rfl, rfl⟩

/-- A subscriber of the data call. -/
def dataCall (id : UInt32) : Subscriber := { kind := .ds, ID := id }

def callStarts : DataCallAnswer := ⟨AgpsStateMachine.errSuccess, true⟩

/-- The data call is asked for and comes up. -/
def connectedCall : AgpsTracked :=
  (AgpsTracked.after { machine := .newDS } (.subscribeRsrc (dataCall 1), callStarts)).after
    (.onRsrcEvent .granted, callStarts)

theorem subscription_kept_of_run_connected :
    ∃ e ∈ connectedCall.machine.mSubscribers, e.isInactive = false ∧
      e.equals (dataCall 1) = true := by
  have hNew : ∀ o, allowed [] [] { machine := .newDS }
      (.subscribeRsrc (dataCall 1), callStarts) o := fun _ => ⟨by decide, .inr (by decide)⟩
  have hSubscribed : Lib.Steps next allowed { machine := .newDS } _ _ _ :=
    .step .start (hNew _) (next_after _ _)
  have run : Lib.Steps next allowed { machine := .newDS } _ _ connectedCall :=
    hSubscribed.step (i := (AgpsCall.onRsrcEvent .granted, callStarts)) trivial (next_after _ _)
  exact (subscription_kept_of_run run (s := dataCall 1) (by decide)).1

/-- A subscriber that comes back while its first subscription waits for the close to complete is not
listed again, and nobody active is left in the list. -/
theorem resubscription_lost : ∃ is os w,
    Lib.Steps next Lib.anyStep { machine := .newDS } is os w ∧
    ∃ s ∈ w.standing, ¬ ∃ e ∈ w.machine.mSubscribers, e.isInactive = false ∧
      e.equals s = true := by
  have run : Lib.Steps next Lib.anyStep { machine := .newDS } _ _
      ((connectedCall.after (.unsubscribeRsrc (dataCall 1), callStarts)).after
        (.subscribeRsrc (dataCall 1), callStarts)) :=
    .step (.step (.step (.step .start trivial (next_after _ _)) trivial (next_after _ _)) trivial
      (next_after _ _)) trivial (next_after _ _)
  exact ⟨_, _, _, run, dataCall 1, by decide, by decide⟩

end AgpsTracked

end KiwiDevice.Gps

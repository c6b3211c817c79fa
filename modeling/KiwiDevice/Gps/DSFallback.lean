import KiwiDevice.Gps.AgpsInvariant
import Mathlib.Data.List.Pairwise

/-!
# The data call and its fallback

A `DSStateMachine` that gives up a data call hands the connection over to the normal ATL path. Where
it does so inside a request, the subscriber stays in the list; the condition below leaves out
exactly the answers that lead there.
-/

namespace KiwiDevice.Gps

namespace AgpsStateMachine

variable {m m' : AgpsStateMachine} {a : DataCallAnswer} {c : AgpsCall} {o : List AgpsEffect}

/-- The answer makes the machine try again later. -/
def TriesAgain (m : AgpsStateMachine) (a : DataCallAnswer) : Prop :=
  a.ret = errEngineBusy ∧ a.timerStarts = true ∧ ¬ m.GivesUp a

instance (m : AgpsStateMachine) (a : DataCallAnswer) : Decidable (m.GivesUp a) :=
  inferInstanceAs (Decidable (_ ∨ _))

instance (m : AgpsStateMachine) (a : DataCallAnswer) : Decidable (m.TriesAgain a) :=
  inferInstanceAs (Decidable (_ ∧ _))

/-- The answer to the data call request of the call, if it makes one, strands no subscriber. -/
def AnswersWell (m : AgpsStateMachine) (a : DataCallAnswer) : AgpsCall → Prop
  | .subscribeRsrc s => (∀ e ∈ m.mSubscribers, e.Comparable s) ∧
      (m.mStatePtr = .released → a.ret = errSuccess ∨ m.TriesAgain a)
  | .unsubscribeRsrc _ => m.GivesUp a → ∀ e ∈ m.mSubscribers, e.ID ≠ 0xFFFFFFFF
  | .onRsrcEvent _ => m.mStatePtr = .releasing →
      (∃ e ∈ m.mSubscribers, e.isInactive = false) → ¬ m.GivesUp a

theorem sendRsrcRequest_handed (hDS : m.isDS = true) (action : AGpsStatusValue)
    (a : DataCallAnswer) : ∀ id ∈ handedOver (m.sendRsrcRequest action a).2.1,
      m.GivesUp a ∧ id = m.activeSubscriber.elim 0xFFFFFFFF Subscriber.ID := by
  rw [sendRsrcRequest, if_pos hDS]
  intro id hId
  obtain ⟨hGives, h⟩ | ⟨_, _, _, h⟩ | ⟨_, _, _, h⟩ := m.sendDataCallRequest_cases action a
  · rw [h] at hId
    exact ⟨hGives, List.mem_singleton.mp hId⟩
  · rw [h] at hId
    cases hId
  · rw [h] at hId
    cases hId

theorem sendRsrcRequest_triesAgain (hDS : m.isDS = true) (action : AGpsStatusValue)
    (hAgain : m.TriesAgain a) : .startRetryTimer ∈ (m.sendRsrcRequest action a).2.1 := by
  obtain ⟨hBusy, hTimer, hKeeps⟩ := hAgain
  rw [sendRsrcRequest, if_pos hDS]
  obtain ⟨hGives, _⟩ | ⟨_, _, _, h⟩ | ⟨_, hNot, _⟩ := m.sendDataCallRequest_cases action a
  · exact absurd hGives hKeeps
  · rw [h]
    exact List.mem_cons_of_mem _ List.mem_cons_self
  · exact absurd ⟨hBusy, hTimer⟩ hNot

theorem sendRsrcRequest_success (hDS : m.isDS = true) (action : AGpsStatusValue)
    (hSuccess : a.ret = errSuccess) :
    ¬ m.GivesUp a ∧ (m.sendRsrcRequest action a).2.2 = 0 := by
  rw [sendRsrcRequest, if_pos hDS]
  obtain ⟨hGives, _⟩ | ⟨_, hBusy, _⟩ | ⟨hKeeps, _, _, h⟩ := m.sendDataCallRequest_cases action a
  · exfalso
    rw [GivesUp, hSuccess] at hGives
    obtain ⟨h, _⟩ | h | h := hGives <;> exact absurd h (by decide)
  · rw [hSuccess] at hBusy
    exact absurd hBusy (by decide)
  · exact ⟨hKeeps, by rw [h]; exact hSuccess⟩

theorem addSubscriber_retries (m : AgpsStateMachine) (s : Subscriber) :
    SettlesRetries m (m.addSubscriber s) := by
  rw [addSubscriber]
  split <;> exact .inl rfl

theorem mem_dropped {l : List Subscriber} {k : Nat} {x e : Subscriber} (hx : l[k]? = some x)
    (he : e ∈ dropped l k x) : ∃ y ∈ l, y.ID = e.ID ∧ y.kind = e.kind := by
  rw [dropped] at he
  split at he
  · obtain he | rfl := List.mem_or_eq_of_mem_set he
    · exact ⟨e, he, rfl, rfl⟩
    · exact ⟨x, List.mem_of_getElem? hx, rfl, rfl⟩
  · exact ⟨e, (List.mem_filter.mp he).1, rfl, rfl⟩

theorem Did.origin (h : Did m a c m' o) : ∀ e ∈ m'.mSubscribers, ∃ y,
    (y ∈ m.mSubscribers ∨ c = .subscribeRsrc y) ∧ y.ID = e.ID ∧ y.kind = e.kind := by
  have hOld : ∀ e ∈ m.mSubscribers, ∃ y,
      (y ∈ m.mSubscribers ∨ c = .subscribeRsrc y) ∧ y.ID = e.ID ∧ y.kind = e.kind :=
    fun e he => ⟨e, .inl he, rfl, rfl⟩
  have hAdd : ∀ s, c = .subscribeRsrc s → ∀ e ∈ (m.addSubscriber s).mSubscribers, ∃ y,
      (y ∈ m.mSubscribers ∨ c = .subscribeRsrc y) ∧ y.ID = e.ID ∧ y.kind = e.kind := by
    intro s hs e he
    obtain ⟨_, _, _, hList⟩ | ⟨_, hList⟩ := m.addSubscriber_cases s
    · exact hOld e (hList ▸ he)
    · rw [hList] at he
      obtain rfl | he := List.mem_cons.mp he
      · exact ⟨s, .inr hs, rfl, rfl⟩
      · exact hOld e he
  have hDrop : ∀ {k x}, m.mSubscribers[k]? = some x → ∀ e ∈ dropped m.mSubscribers k x, ∃ y,
      (y ∈ m.mSubscribers ∨ c = .subscribeRsrc y) ∧ y.ID = e.ID ∧ y.kind = e.kind := by
    intro k x hx e he
    obtain ⟨y, hy, hSame⟩ := mem_dropped hx he
    exact ⟨y, .inl hy, hSame⟩
  intro e he
  cases h with
  | refused _ h _ => exact hOld e (h.list ▸ he)
  | added => exact hAdd _ rfl e he
  | granted _ _ h _ => exact hAdd _ rfl e (h.list ▸ he)
  | requested _ _ h =>
    split at he
    · exact hAdd _ rfl e (sent_list h ▸ he)
    · exact hAdd _ rfl e (sent_list h ▸ he)
  | unknown => exact hOld e he
  | toldAgain _ h _ => exact hOld e (h.list ▸ he)
  | left hx _ _ h _ _ _ => exact hDrop hx e (h.list ▸ he)
  | leftLast hx _ _ h _ _ => exact hDrop hx e (h.list ▸ he)
  | freed hx _ _ h _ _ _ hTo =>
    rw [toState_mSubscribers, sent_list hTo, h.list] at he
    exact hDrop hx e he
  | ignored => exact hOld e he
  | connected _ h _ => exact hOld e (h.list ▸ he)
  | ended _ _ h _ =>
    rw [toState_mSubscribers, h.list] at he
    cases he
  | closed _ _ h _ _ =>
    rw [toState_mSubscribers, h.list] at he
    exact hOld e (List.mem_filter.mp he).1
  | reopened _ _ h _ _ _ hTo =>
    rw [toState_mSubscribers, sent_list hTo, h.list] at he
    exact hOld e (List.mem_filter.mp he).1

/-- What holds of a `DSStateMachine` by itself. -/
structure DSMachine (m : AgpsStateMachine) : Prop where
  isDS : m.isDS = true
  single : m.mEnforceSingleSubscriber = false
  distinct : Distinct m.mSubscribers
  comparable : ∀ e ∈ m.mSubscribers, ∀ x ∈ m.mSubscribers, e.Comparable x
  active : m.mStatePtr = .released → ∀ e ∈ m.mSubscribers, e.isInactive = false

theorem Did.config (h : Did m a c m' o) :
    m'.isDS = m.isDS ∧ m'.mEnforceSingleSubscriber = m.mEnforceSingleSubscriber := by
  cases h with
  | refused _ h _ => exact ⟨h.isDS, h.single⟩
  | @added s =>
    have h := m.addSubscriber_becomes s
    exact ⟨h.isDS, h.single⟩
  | granted _ _ h _ => exact ⟨h.isDS, h.single⟩
  | @requested s m₁ _ _ _ _ hTo =>
    have hAdd := m.addSubscriber_becomes s
    have h₁ : m₁.isDS = m.isDS ∧ m₁.mEnforceSingleSubscriber = m.mEnforceSingleSubscriber :=
      ⟨(sent_becomes hTo).isDS.trans hAdd.isDS, (sent_becomes hTo).single.trans hAdd.single⟩
    split
    · exact h₁
    · exact h₁
  | unknown => exact ⟨rfl, rfl⟩
  | toldAgain _ h _ => exact ⟨h.isDS, h.single⟩
  | left _ _ _ h _ _ _ => exact ⟨h.isDS, h.single⟩
  | leftLast _ _ _ h _ _ => exact ⟨h.isDS, h.single⟩
  | freed _ _ _ h _ _ _ hTo =>
    exact ⟨(sent_becomes hTo).isDS.trans h.isDS, (sent_becomes hTo).single.trans h.single⟩
  | ignored => exact ⟨rfl, rfl⟩
  | connected _ h _ => exact ⟨h.isDS, h.single⟩
  | ended _ _ h _ => exact ⟨h.isDS, h.single⟩
  | closed _ _ h _ _ => exact ⟨h.isDS, h.single⟩
  | reopened _ _ h _ _ _ hTo =>
    exact ⟨(sent_becomes hTo).isDS.trans h.isDS, (sent_becomes hTo).single.trans h.single⟩

/-- In released the list is empty, or a call that subscribes nobody left it as it was in released,
or a new subscriber waits for a retry. -/
theorem Did.released (h : Did m a c m' o) (hInv : DSMachine m) (hAnswer : m.AnswersWell a c)
    (hReleased : m'.mStatePtr = .released) :
    m'.mSubscribers = [] ∨ m.mStatePtr = .released ∧
      (m'.mSubscribers = m.mSubscribers ∧ (∀ s, c ≠ .subscribeRsrc s) ∨
        .startRetryTimer ∈ o ∧ ∃ s, m'.mSubscribers = (m.addSubscriber s).mSubscribers) := by
  cases h with
  | refused hRefuses _ _ =>
    rw [Refuses, hInv.single] at hRefuses
    cases hRefuses.1
  | @added s _ hState =>
    rw [(m.addSubscriber_becomes s).state] at hReleased
    rw [hReleased] at hState
    obtain h | h := hState <;> cases h
  | granted _ hState h _ =>
    rw [h.state, hState] at hReleased
    cases hReleased
  | @requested s m₁ _ ret _ hState hTo =>
    have hDS : (m.addSubscriber s).isDS = true :=
      (m.addSubscriber_becomes s).isDS.trans hInv.isDS
    have hSettles := m.addSubscriber_retries s
    obtain hSuccess | hAgain := hAnswer.2 hState
    · have hRet := (sendRsrcRequest_success hDS .requestAgpsDataConn hSuccess).2
      rw [hTo] at hRet
      rw [if_pos hRet] at hReleased
      cases hReleased
    · have hTimer := sendRsrcRequest_triesAgain hDS .requestAgpsDataConn
        ⟨hAgain.1, hAgain.2.1, fun hGives => hAgain.2.2 (hSettles.givesUp hGives)⟩
      rw [hTo] at hTimer
      right
      refine ⟨hState, .inr ⟨hTimer, s, ?_⟩⟩
      split
      · exact (toState_mSubscribers m₁ _).trans (sent_list hTo)
      · exact sent_list hTo
  | unknown => exact .inr ⟨hReleased, .inl ⟨rfl, fun _ => AgpsCall.noConfusion⟩⟩
  | toldAgain hState h _ => exact .inr ⟨hState, .inl ⟨h.list, fun _ => AgpsCall.noConfusion⟩⟩
  | left _ _ hState h _ _ _ => exact absurd (h.state.symm.trans hReleased) hState
  | leftLast _ _ _ _ _ hList => exact .inl hList
  | freed _ _ _ _ _ _ _ hTo =>
    rw [toState_mStatePtr] at hReleased
    split at hReleased
    · rename_i hNil
      exact .inl ((sent_list hTo).trans hNil)
    · cases hReleased
  | ignored => exact .inr ⟨hReleased, .inl ⟨rfl, fun _ => AgpsCall.noConfusion⟩⟩
  | connected => cases hReleased
  | ended _ _ h _ => exact .inl h.list
  | closed _ _ h _ hActive =>
    left
    refine List.eq_nil_iff_forall_not_mem.mpr fun e he => hActive ⟨e, he, ?_⟩
    rw [toState_mSubscribers, h.list] at he
    simpa using (List.mem_filter.mp he).2
  | reopened => cases hReleased

theorem Did.dsMachine (h : Did m a c m' o) (hInv : DSMachine m) (hAnswer : m.AnswersWell a c) :
    DSMachine m' where
  isDS := h.config.1.trans hInv.isDS
  single := h.config.2.trans hInv.single
  distinct := h.distinct hInv.distinct
  comparable := by
    -- comparability depends on where the two come from only
    have hNew : ∀ s, c = .subscribeRsrc s → ∀ e ∈ m.mSubscribers, e.Comparable s := by
      rintro s rfl
      exact hAnswer.1
    intro e he x hx heNone hxNone
    obtain ⟨y, hy, hyID, hyKind⟩ := h.origin e he
    obtain ⟨z, hz, hzID, hzKind⟩ := h.origin x hx
    have hyNone := hyID.trans heNone
    have hzNone := hzID.trans hxNone
    rw [← hyKind, ← hzKind]
    obtain hy | hy := hy
    · obtain hz | hz := hz
      · exact hInv.comparable y hy z hz hyNone hzNone
      · exact hNew z hz y hy hyNone hzNone
    · obtain hz | hz := hz
      · exact (hNew y hy z hz hzNone hyNone).symm
      · cases hy.symm.trans hz
        exact Iff.rfl
  active := by
    intro hReleased
    obtain hNil | ⟨hState, ⟨hList, _⟩ | ⟨_, s, hList⟩⟩ := h.released hInv hAnswer hReleased
    · intro e he
      rw [hNil] at he
      cases he
    · rw [hList]
      exact hInv.active hState
    · rw [hList]
      intro e he
      obtain ⟨_, _, _, hAdd⟩ | ⟨_, hAdd⟩ := m.addSubscriber_cases s
      · exact hInv.active hState e (hAdd ▸ he)
      · rw [hAdd] at he
        obtain rfl | he := List.mem_cons.mp he
        · exact s.clone_isInactive
        · exact hInv.active hState e he

/-- Two subscribers in the list with one connection are one, unless they are subscribers of the
wireless daemon. -/
theorem DSMachine.same (hInv : DSMachine m) {e x : Subscriber} (he : e ∈ m.mSubscribers)
    (hx : x ∈ m.mSubscribers) (hID : e.ID = x.ID) (hKind : x.kind ≠ .bit) : e = x := by
  by_contra hNe
  have hIdentity : e.identity = x.identity := by
    simp only [Subscriber.identity, hID, hKind, false_and, if_false]
    by_cases hNone : x.ID = inaddrNone
    · have heKind : e.kind ≠ .bit := fun h =>
        hKind ((hInv.comparable e he x hx (hID.trans hNone) hNone).mp h)
      simp only [heKind, false_and, if_false]
    · simp only [hNone, and_false, if_false]
  have hPair : ∀ y ∈ m.mSubscribers, ∀ z ∈ m.mSubscribers, y ≠ z → y.identity ≠ z.identity := by
    have hDistinct : m.mSubscribers.Pairwise fun y z => y.identity ≠ z.identity := by
      refine hInv.distinct.imp_of_mem fun {y z} hy hz hNot hSame => ?_
      rw [(hInv.comparable z hz y hy).equals_iff.mpr hSame.symm] at hNot
      cases hNot
    have hSymm : Std.Symm fun y z : Subscriber => y.identity ≠ z.identity :=
      ⟨fun _ _ hNot => hNot.symm⟩
    exact fun y hy z hz hyz => hDistinct.forall hy hz hyz
  exact hPair e he x hx hNe hIdentity

theorem no_handed {n : Notification} {l : List Subscriber} (h : Notifies n l o)
    (hStatus : n.rsrcStatus ≠ .denied) : ∀ id ∈ handedOver o, False :=
  fun id hId => hStatus (h.handed id hId).1

theorem Did.handed (h : Did m a c m' o) (hInv : DSMachine m) (hAnswer : m.AnswersWell a c) :
    ∀ id ∈ handedOver o, ∀ e ∈ m'.mSubscribers, e.ID ≠ id := by
  intro id hId e he
  cases h with
  | refused hRefuses _ _ =>
    rw [Refuses, hInv.single] at hRefuses
    cases hRefuses.1
  | added => cases hId
  | granted _ _ _ ho => exact absurd hId fun hId => no_handed ho AgpsRsrcStatus.noConfusion id hId
  | @requested s m₁ _ ret _ hState hTo =>
    have hDS : (m.addSubscriber s).isDS = true :=
      (m.addSubscriber_becomes s).isDS.trans hInv.isDS
    have hHanded := sendRsrcRequest_handed hDS .requestAgpsDataConn a
    rw [hTo] at hHanded
    have hGives := (m.addSubscriber_retries s).givesUp (hHanded id hId).1
    obtain hSuccess | hAgain := hAnswer.2 hState
    · exact absurd hGives (sendRsrcRequest_success hInv.isDS .requestAgpsDataConn hSuccess).1
    · exact absurd hGives hAgain.2.2
  | unknown => cases hId
  | toldAgain _ _ ho => exact absurd hId fun hId => no_handed ho AgpsRsrcStatus.noConfusion id hId
  | left _ _ _ _ ho _ _ =>
    rw [ho.handed] at hId
    cases hId
  | leftLast _ _ _ _ ho _ =>
    rw [ho.handed] at hId
    cases hId
  | @freed _ _ _ m₁ m₂ _ _ _ hx _ _ h hSettles ho hActive hTo =>
    rw [handedOver_append, ho.handed, List.nil_append] at hId
    have hHanded := sendRsrcRequest_handed (h.isDS.trans hInv.isDS) .releaseAgpsDataConn a
    have hList := (m₁.sendRsrcRequest_becomes .releaseAgpsDataConn a).list
    rw [hTo] at hHanded hList
    obtain ⟨hGives, rfl⟩ := hHanded id hId
    rw [Option.isNone_iff_eq_none.mp (activeSubscriber_isNone.mpr hActive)]
    rw [toState_mSubscribers, hList, h.list] at he
    obtain ⟨y, hy, hSame, _⟩ := mem_dropped hx he
    rw [← hSame]
    exact hAnswer (hSettles.givesUp hGives) y hy
  | ignored => cases hId
  | connected _ _ ho => exact absurd hId fun hId => no_handed ho AgpsRsrcStatus.noConfusion id hId
  | ended _ _ h _ =>
    rw [toState_mSubscribers, h.list] at he
    cases he
  | closed _ _ h ho hActive =>
    refine absurd ⟨e, he, ?_⟩ hActive
    rw [toState_mSubscribers, h.list] at he
    simpa using (List.mem_filter.mp he).2
  | @reopened _ _ m₁ m₂ _ _ _ hState _ h hSettles ho hActive hTo =>
    have hHanded := sendRsrcRequest_handed (h.isDS.trans hInv.isDS) .requestAgpsDataConn a
    have hList := (m₁.sendRsrcRequest_becomes .requestAgpsDataConn a).list
    rw [hTo] at hHanded hList
    rw [toState_mSubscribers, hList, h.list, List.mem_filter] at he
    rw [handedOver_append] at hId
    obtain hId | hId := List.mem_append.mp hId
    · obtain ⟨_, x, hx, hTakes, hKind, rfl⟩ := ho.handed id hId
      intro hID
      obtain rfl := hInv.same he.1 hx hID (by rw [hKind]; decide)
      have hInactive : e.isInactive = true := (Bool.and_eq_true_iff.mp
        (Bool.and_eq_true_iff.mp hTakes).1).1
      rw [hInactive] at he
      exact absurd he.2 (by decide)
    · have hGives := hSettles.givesUp (hHanded id hId).1
      rw [h.list] at hActive
      obtain ⟨t, ht, hStill⟩ := hActive
      exact absurd hGives (hAnswer hState ⟨t, (List.mem_filter.mp ht).1, hStill⟩)

theorem Did.told {event : AgpsRsrcStatus} (h : Did m a (.onRsrcEvent event) m' o) :
    ∀ e status, .notified e status ∈ o → e ∈ m.mSubscribers := by
  intro e status hTold
  cases h with
  | ignored => cases hTold
  | connected _ _ ho => exact ((ho.told e status).mp hTold).2.1
  | ended _ _ _ ho => exact ((ho.told e status).mp hTold).2.1
  | closed _ _ _ ho _ => exact ((ho.told e status).mp hTold).2.1
  | @reopened _ _ m₁ _ _ _ _ _ _ _ _ ho _ hTo =>
    obtain hTold | hTold := List.mem_append.mp hTold
    · exact ((ho.told e status).mp hTold).2.1
    · have hNobody := m₁.sendRsrcRequest_told .requestAgpsDataConn a e status
      rw [hTo] at hNobody
      exact absurd hTold hNobody

end AgpsStateMachine

/-- A `DSStateMachine` with the retry timers that run, the retries that are on their way as
messages, and the connections handed over to the normal ATL path since they were last requested. -/
structure DSWorld where
  machine : AgpsStateMachine
  timers : Nat := 0
  retries : List UInt32 := []
  handed : List UInt32 := []

inductive DSInput where
  | call (c : AgpsCall)
  /-- A retry timer fires. -/
  | retryTimer
  /-- The oldest retry message is handled. -/
  | retryMsg
  deriving DecidableEq, Repr

namespace DSWorld

open AgpsStateMachine (AnswersWell DSMachine)

def dataCall (id : UInt32) : Subscriber := { kind := .ds, ID := id }

/-- The connection that a `requestSuplES` asks for. -/
def retried : AgpsEffect → Option UInt32
  | .requestSuplES id => some id
  | _ => none

def subscribedID : AgpsCall → Option UInt32
  | .subscribeRsrc s => some s.ID
  | .unsubscribeRsrc _ | .onRsrcEvent _ => none

inductive Next : DSWorld → DSInput × DataCallAnswer → List AgpsEffect → DSWorld → Prop where
  | call (w : DSWorld) (c : AgpsCall) (a : DataCallAnswer) :
      Next w (.call c, a) (w.machine.call c a).2
        { machine := (w.machine.call c a).1
          timers := w.timers + (w.machine.call c a).2.count .startRetryTimer
          retries := w.retries
          handed := handedOver (w.machine.call c a).2 ++
            w.handed.filter fun id => subscribedID c != some id }
  | retryTimer (w : DSWorld) (a : DataCallAnswer) {timers : Nat} (h : w.timers = timers + 1) :
      Next w (.retryTimer, a) w.machine.retryCallback
        { w with timers, retries := w.retries ++ w.machine.retryCallback.filterMap retried }
  | retryMsg (w : DSWorld) (a : DataCallAnswer) {id : UInt32} {rest : List UInt32}
      (h : w.retries = id :: rest) :
      Next w (.retryMsg, a) (w.machine.call (.subscribeRsrc (dataCall id)) a).2
        { machine := (w.machine.call (.subscribeRsrc (dataCall id)) a).1
          timers := w.timers +
            (w.machine.call (.subscribeRsrc (dataCall id)) a).2.count .startRetryTimer
          retries := rest
          handed := handedOver (w.machine.call (.subscribeRsrc (dataCall id)) a).2 ++ w.handed }

/-- Every request is answered well, and no retry comes for a connection that was handed over. -/
def Allowed (w : DSWorld) (i : DSInput) (a : DataCallAnswer) : Prop :=
  match i with
  | .call c => AnswersWell w.machine a c
  | .retryTimer => True
  | .retryMsg => ∀ id rest, w.retries = id :: rest →
      id ∉ w.handed ∧ AnswersWell w.machine a (.subscribeRsrc (dataCall id))

def allowed (_ : List (DSInput × DataCallAnswer)) (_ : List AgpsEffect) (w : DSWorld)
    (i : DSInput × DataCallAnswer) (_ : List AgpsEffect) : Prop := w.Allowed i.1 i.2

/-- No connection that was handed over is in the list, and a list in released waits for a retry. -/
structure Invariant (w : DSWorld) : Prop where
  machine : DSMachine w.machine
  waiting : w.machine.mStatePtr = .released → w.machine.mSubscribers ≠ [] →
    0 < w.timers ∨ w.retries ≠ []
  handed : ∀ id ∈ w.handed, ∀ e ∈ w.machine.mSubscribers, e.ID ≠ id

variable {w w' : DSWorld} {c : AgpsCall} {a : DataCallAnswer}

theorem handed_call (hInv : w.Invariant) (hAnswer : AnswersWell w.machine a c)
    {kept : List UInt32} (hKept : ∀ id ∈ kept, id ∈ w.handed ∧ subscribedID c ≠ some id) :
    ∀ id ∈ handedOver (w.machine.call c a).2 ++ kept,
      ∀ e ∈ (w.machine.call c a).1.mSubscribers, e.ID ≠ id := by
  have hDid := w.machine.call_did c a
  intro id hId e he
  obtain hId | hId := List.mem_append.mp hId
  · exact hDid.handed hInv.machine hAnswer id hId e he
  · obtain ⟨hOld, hNew⟩ := hKept id hId
    obtain ⟨y, hy | hy, hID, _⟩ := hDid.origin e he
    · rw [← hID]
      exact hInv.handed id hOld y hy
    · rw [hy] at hNew
      rintro rfl
      exact hNew (congrArg some hID)

theorem waiting_call (hInv : w.Invariant) (hAnswer : AnswersWell w.machine a c)
    {retries : List UInt32} (hRetries : (∀ s, c ≠ .subscribeRsrc s) → retries = w.retries)
    (hReleased : (w.machine.call c a).1.mStatePtr = .released)
    (hList : (w.machine.call c a).1.mSubscribers ≠ []) :
    0 < w.timers + (w.machine.call c a).2.count .startRetryTimer ∨ retries ≠ [] := by
  have hDid := w.machine.call_did c a
  obtain hNil | ⟨hState, ⟨hSame, hCall⟩ | ⟨hTimer, _⟩⟩ :=
    hDid.released hInv.machine hAnswer hReleased
  · exact absurd hNil hList
  · rw [hRetries hCall]
    obtain hTimers | hMsg := hInv.waiting hState (hSame ▸ hList)
    · exact .inl (Nat.add_pos_left hTimers _)
    · exact .inr hMsg
  · exact .inl (Nat.add_pos_right _ (List.count_pos_iff.mpr hTimer))

theorem invariant_step {i : DSInput × DataCallAnswer} {o : List AgpsEffect}
    (hInv : w.Invariant) (hAllowed : w.Allowed i.1 i.2) (h : Next w i o w') : w'.Invariant := by
  cases h with
  | call c a =>
    have hDid := w.machine.call_did c a
    refine ⟨hDid.dsMachine hInv.machine hAllowed,
      waiting_call hInv hAllowed fun _ => rfl, handed_call hInv hAllowed ?_⟩
    intro id hId
    obtain ⟨hOld, hNew⟩ := List.mem_filter.mp hId
    exact ⟨hOld, bne_iff_ne.mp hNew⟩
  | retryTimer a hTimers =>
    refine ⟨hInv.machine, fun hReleased hList => .inr ?_, hInv.handed⟩
    -- everybody in the list is active, so the timer finds someone to retry for
    obtain ⟨e, he⟩ := List.exists_mem_of_ne_nil _ hList
    have hActive := hInv.machine.active hReleased e he
    have hSome : w.machine.activeSubscriber.isNone ≠ true := by
      rw [ne_eq, AgpsStateMachine.activeSubscriber_isNone, not_not]
      exact ⟨e, he, hActive⟩
    obtain ⟨s, hs⟩ := Option.ne_none_iff_exists'.mp fun hNone =>
      hSome (Option.isNone_iff_eq_none.mpr hNone)
    simp only [AgpsStateMachine.retryCallback, hs]
    exact List.append_ne_nil_of_right_ne_nil _ (List.cons_ne_nil _ _)
  | @retryMsg a id rest hMsg =>
    obtain ⟨hNot, hAnswer⟩ := hAllowed id rest hMsg
    have hDid := w.machine.call_did (.subscribeRsrc (dataCall id)) a
    refine ⟨hDid.dsMachine hInv.machine hAnswer,
      waiting_call hInv hAnswer fun hCall => absurd rfl (hCall _), handed_call hInv hAnswer ?_⟩
    intro id' hId
    refine ⟨hId, fun hSame => ?_⟩
    obtain rfl := Option.some_inj.mp hSame
    exact hNot hId

theorem invariant_of_run {is : List (DSInput × DataCallAnswer)} {os : List AgpsEffect}
    (run : Lib.Steps Next allowed { machine := .newDS } is os w) : w.Invariant := by
  refine run.invariant (I := Invariant) ?_ ?_
  · refine ⟨⟨rfl, rfl, List.Pairwise.nil, ?_, ?_⟩, ?_, ?_⟩
    · intro e he
      cases he
    · intro _ e he
      cases he
    · intro _ hList
      exact absurd rfl hList
    · intro id hId
      cases hId
  · exact fun _ _ _ _ _ _ hAllowed hInv hNext => invariant_step hInv hAllowed hNext

/-- When every request is answered well, a connection that was handed over is in the list no longer,
is told nothing and retried no more, and a released machine that waits for no retry has an empty
list. -/
theorem fallback_clean_of_run {is : List (DSInput × DataCallAnswer)} {os : List AgpsEffect}
    (run : Lib.Steps Next allowed { machine := .newDS } is os w) :
    (∀ id ∈ w.handed,
      (∀ e ∈ w.machine.mSubscribers, e.ID ≠ id) ∧
      (∀ event a e status,
        .notified e status ∈ (w.machine.call (.onRsrcEvent event) a).2 → e.ID ≠ id) ∧
      .requestSuplES id ∉ w.machine.retryCallback) ∧
    (w.machine.mStatePtr = .released → w.timers = 0 → w.retries = [] →
      w.machine.mSubscribers = []) := by
  have hInv := invariant_of_run run
  refine ⟨fun id hId => ⟨hInv.handed id hId, ?_, ?_⟩, ?_⟩
  · intro event a e status hTold
    have hDid := w.machine.call_did (.onRsrcEvent event) a
    exact hInv.handed id hId e (hDid.told e status hTold)
  · intro hRetry
    rw [AgpsStateMachine.retryCallback] at hRetry
    split at hRetry
    · cases hRetry
    · rename_i s hs
      cases List.mem_singleton.mp hRetry
      exact hInv.handed _ hId s (List.mem_of_find?_eq_some hs) rfl
  · intro hReleased hTimers hRetries
    by_contra hList
    obtain h | h := hInv.waiting hReleased hList
    · omega
    · exact h hRetries

def busy : DataCallAnswer := ⟨AgpsStateMachine.errEngineBusy, true⟩

def callStarts : DataCallAnswer := ⟨AgpsStateMachine.errSuccess, true⟩

/-- The data call is refused as busy once; the retry succeeds and the call is denied after all. -/
theorem fallback_clean_of_run_retry : ∃ is os w,
    Lib.Steps Next allowed { machine := .newDS } is os w ∧ w.handed = [1] ∧
      ∀ e ∈ w.machine.mSubscribers, e.ID ≠ 1 := by
  have hFirst : ∀ o, allowed [] [] { machine := .newDS }
      (.call (.subscribeRsrc (dataCall 1)), busy) o :=
    fun _ => ⟨by decide, fun _ => .inr (by decide)⟩
  have asked : Lib.Steps Next allowed { machine := .newDS } _ _ _ :=
    .step .start (hFirst _) (.call _ _ _)
  have fired : Lib.Steps Next allowed { machine := .newDS } _ _ _ :=
    asked.step (i := (DSInput.retryTimer, busy)) trivial (.retryTimer _ _ rfl)
  have retried : Lib.Steps Next allowed { machine := .newDS } _ _ _ :=
    fired.step (i := (DSInput.retryMsg, callStarts))
      (by
        rintro id rest ⟨⟩
        exact ⟨by decide, by decide, fun _ => .inl rfl⟩)
      (.retryMsg _ _ rfl)
  have denied : Lib.Steps Next allowed { machine := .newDS } _ _ _ :=
    retried.step (i := (DSInput.call (.onRsrcEvent .denied), callStarts))
      (fun h => absurd h (by decide)) (.call _ _ _)
  exact ⟨_, _, _, denied, by decide, ((fallback_clean_of_run denied).1 1 (by decide)).1⟩

/-- A connection without a profile is handed over while its subscriber stays in the list. -/
theorem unsupported_strands : ∃ is os w,
    Lib.Steps Next Lib.anyStep { machine := .newDS } is os w ∧
      (∃ id ∈ w.handed, ∃ e ∈ w.machine.mSubscribers, e.ID = id) ∧
      w.machine.mStatePtr = .released ∧ w.timers = 0 ∧ w.retries = [] ∧
      w.machine.mSubscribers ≠ [] := by
  have run : Lib.Steps Next Lib.anyStep { machine := .newDS } _ _ _ :=
    .step .start trivial (.call _ (.subscribeRsrc (dataCall 1)) ⟨AgpsStateMachine.errUnsupported, true⟩)
  refine ⟨_, _, _, run, ⟨1, ?_, dataCall 1, ?_, rfl⟩, ?_, ?_, ?_, ?_⟩
  all_goals decide

end DSWorld

end KiwiDevice.Gps

import KiwiDevice.Gps.AgpsStateMachine

/-!
# What a notification does

A notification leaves the machine as it is, apart from the retry counter and the subscribers that it
removes; everyone in the list that takes it is told.
-/

namespace KiwiDevice.Gps

namespace AgpsEffect

/-- The request that goes out through the servicer. -/
def nifRequest : AgpsEffect → Option AGpsStatusValue
  | .requestRsrc r => some r.status
  | .requestDataCall action => some action
  | _ => none

/-- The connection that is handed over to the normal ATL path. -/
def handed : AgpsEffect → Option UInt32
  | .requestATL id _ => some id
  | _ => none

end AgpsEffect

/-- The requests that go out, in order. -/
def nifRequests (o : List AgpsEffect) : List AGpsStatusValue := o.filterMap AgpsEffect.nifRequest

@[simp] theorem nifRequests_append (o o' : List AgpsEffect) :
    nifRequests (o ++ o') = nifRequests o ++ nifRequests o' := List.filterMap_append

/-- The connections handed over to the normal ATL path. -/
def handedOver (o : List AgpsEffect) : List UInt32 := o.filterMap AgpsEffect.handed

@[simp] theorem handedOver_append (o o' : List AgpsEffect) :
    handedOver (o ++ o') = handedOver o ++ handedOver o' := List.filterMap_append

namespace AgpsStateMachine

variable {m m' m'' : AgpsStateMachine} {l l' : List Subscriber}

/-- Apart from the retry counter only the list is different. -/
structure Becomes (m : AgpsStateMachine) (l : List Subscriber) (m' : AgpsStateMachine) : Prop where
  list : m'.mSubscribers = l
  state : m'.mStatePtr = m.mStatePtr
  isDS : m'.isDS = m.isDS
  single : m'.mEnforceSingleSubscriber = m.mEnforceSingleSubscriber

theorem Becomes.refl (m : AgpsStateMachine) : Becomes m m.mSubscribers m := ⟨rfl, rfl, rfl, rfl⟩

theorem Becomes.trans (h : Becomes m l m') (h' : Becomes m' l' m'') : Becomes m l' m'' where
  list := h'.list
  state := h'.state.trans h.state
  isDS := h'.isDS.trans h.isDS
  single := h'.single.trans h.single

theorem Becomes.withList (h : Becomes m l m') (l' : List Subscriber) :
    Becomes m l' { m' with mSubscribers := l' } := ⟨rfl, h.state, h.isDS, h.single⟩

theorem informStatus_becomes (m : AgpsStateMachine) (status : AgpsRsrcStatus) (id : UInt32) :
    Becomes m m.mSubscribers (m.informStatus status id).1 := by
  cases status <;> exact ⟨rfl, rfl, rfl, rfl⟩

theorem tell_becomes (m : AgpsStateMachine) (s : Subscriber) (status : AgpsRsrcStatus) :
    Becomes m m.mSubscribers (m.tell s status).1 := by
  rw [tell.eq_def]
  cases s.kind with
  | ds => exact m.informStatus_becomes status s.ID
  | bit => cases status <;> exact .refl m
  | atl => cases status <;> exact .refl m
  | wifi => cases status <;> exact .refl m

/-- What is sent on is neither a request nor a further notification, and hands a
connection over only for a denied data call. -/
theorem tell_effects (m : AgpsStateMachine) (s : Subscriber) (status : AgpsRsrcStatus) :
    nifRequests (m.tell s status).2 = [] ∧
      (∀ t st, AgpsEffect.notified t st ∉ (m.tell s status).2) ∧
      ∀ id ∈ handedOver (m.tell s status).2, status = .denied ∧ s.kind = .ds ∧ s.ID = id := by
  rw [tell.eq_def]
  cases s.kind <;> cases status <;> simp [nifRequests, handedOver, AgpsEffect.nifRequest,
    AgpsEffect.handed, informStatus]

/-- What a notification of the subscribers in `l` does. -/
structure Notifies (n : Notification) (l : List Subscriber) (o : List AgpsEffect) : Prop where
  told : ∀ s status, AgpsEffect.notified s status ∈ o ↔
    status = n.rsrcStatus ∧ s ∈ l ∧ s.takes n = true
  requests : nifRequests o = []
  handed : ∀ id ∈ handedOver o, n.rsrcStatus = .denied ∧
    ∃ s ∈ l, s.takes n = true ∧ s.kind = .ds ∧ s.ID = id

theorem Notifies.nil {n : Notification} (h : ∀ s ∈ l, s.takes n = false) : Notifies n l [] where
  told := by
    intro s status
    constructor
    · intro hMem
      cases hMem
    · rintro ⟨_, hs, hTakes⟩
      rw [h s hs] at hTakes
      cases hTakes
  requests := rfl
  handed := by
    intro id hMem
    cases hMem

theorem notifyRsrcStatus_becomes (m : AgpsStateMachine) (s : Subscriber) (n : Notification) :
    Becomes m m.mSubscribers (m.notifyRsrcStatus s n).1 := by
  rw [notifyRsrcStatus]
  split
  · exact m.tell_becomes s n.rsrcStatus
  · exact .refl m

theorem notifyRsrcStatus_effects (m : AgpsStateMachine) (s : Subscriber) (n : Notification) :
    Notifies n [s] (m.notifyRsrcStatus s n).2.1 := by
  rw [notifyRsrcStatus]
  by_cases hTakes : s.takes n = true
  · rw [if_pos hTakes]
    obtain ⟨hRequests, hTold, hHanded⟩ := m.tell_effects s n.rsrcStatus
    refine ⟨fun t status => ?_, hRequests, fun id hId => ?_⟩
    · rw [List.mem_cons, List.mem_singleton]
      constructor
      · rintro (h | h)
        · cases h
          exact ⟨rfl, rfl, hTakes⟩
        · exact absurd h (hTold t status)
      · rintro ⟨rfl, rfl, _⟩
        exact .inl rfl
    · obtain ⟨hDenied, hKind, hID⟩ := hHanded id hId
      exact ⟨hDenied, s, List.mem_singleton_self s, hTakes, hKind, hID⟩
  · rw [if_neg hTakes]
    apply Notifies.nil
    intro t ht
    rw [List.mem_singleton.mp ht]
    exact Bool.eq_false_iff.mpr hTakes

theorem Notifies.append {n : Notification} {o o' : List AgpsEffect} (h : Notifies n l o)
    (h' : Notifies n l' o') : Notifies n (l ++ l') (o ++ o') where
  told := by
    intro s status
    rw [List.mem_append, h.told, h'.told, List.mem_append]
    constructor
    · rintro (⟨hStatus, hs, hTakes⟩ | ⟨hStatus, hs, hTakes⟩)
      · exact ⟨hStatus, .inl hs, hTakes⟩
      · exact ⟨hStatus, .inr hs, hTakes⟩
    · rintro ⟨hStatus, hs | hs, hTakes⟩
      · exact .inl ⟨hStatus, hs, hTakes⟩
      · exact .inr ⟨hStatus, hs, hTakes⟩
  requests := by rw [nifRequests_append, h.requests, h'.requests, List.append_nil]
  handed := by
    intro id hId
    rw [handedOver_append] at hId
    obtain hId | hId := List.mem_append.mp hId
    · obtain ⟨hDenied, s, hs, hRest⟩ := h.handed id hId
      exact ⟨hDenied, s, List.mem_append_left _ hs, hRest⟩
    · obtain ⟨hDenied, s, hs, hRest⟩ := h'.handed id hId
      exact ⟨hDenied, s, List.mem_append_right _ hs, hRest⟩

theorem Notifies.congr {n : Notification} {o : List AgpsEffect} (h : Notifies n l o)
    (hSame : ∀ s, s.takes n = true → (s ∈ l ↔ s ∈ l')) : Notifies n l' o where
  told := by
    intro s status
    rw [h.told]
    constructor
    · rintro ⟨hStatus, hs, hTakes⟩
      exact ⟨hStatus, (hSame s hTakes).mp hs, hTakes⟩
    · rintro ⟨hStatus, hs, hTakes⟩
      exact ⟨hStatus, (hSame s hTakes).mpr hs, hTakes⟩
  requests := h.requests
  handed := by
    intro id hId
    obtain ⟨hDenied, s, hs, hTakes, hRest⟩ := h.handed id hId
    exact ⟨hDenied, s, (hSame s hTakes).mp hs, hTakes, hRest⟩

theorem notifyEach_spec (n : Notification) (l : List Subscriber) (m : AgpsStateMachine) :
    Becomes m m.mSubscribers (notifyEach n l m).1 ∧ Notifies n l (notifyEach n l m).2 := by
  induction l generalizing m with
  | nil => exact ⟨.refl m, .nil fun s hs => absurd hs List.not_mem_nil⟩
  | cons s rest ih =>
    have hOne := m.notifyRsrcStatus_becomes s n
    obtain ⟨hRest, hTold⟩ := ih (m.notifyRsrcStatus s n).1
    rw [hOne.list] at hRest
    exact ⟨hOne.trans hRest, (m.notifyRsrcStatus_effects s n).append hTold⟩

theorem notifyRemoving_spec (n : Notification) (passes : Nat) (m : AgpsStateMachine)
    (hPasses : m.mSubscribers.length ≤ passes) :
    Becomes m (m.mSubscribers.filter fun s => !s.takes n) (notifyRemoving n passes m).1 ∧
      Notifies n m.mSubscribers (notifyRemoving n passes m).2 := by
  induction passes generalizing m with
  | zero =>
    have hNil := List.length_eq_zero_iff.mp (Nat.le_zero.mp hPasses)
    rw [hNil]
    exact ⟨⟨hNil, rfl, rfl, rfl⟩, .nil fun s hs => absurd hs List.not_mem_nil⟩
  | succ passes ih =>
    rw [notifyRemoving]
    split
    · rename_i hNone
      have hTakes : ∀ s ∈ m.mSubscribers, s.takes n = false := by
        intro s hs
        exact Bool.eq_false_iff.mpr (List.find?_eq_none.mp hNone s hs)
      refine ⟨⟨?_, rfl, rfl, rfl⟩, .nil hTakes⟩
      refine (List.filter_eq_self.mpr fun s hs => ?_).symm
      rw [hTakes s hs]
      rfl
    · rename_i s hFound
      obtain ⟨hs, front, back, hList, hFront⟩ := List.find?_eq_some_iff_append.mp hFound
      have hErase : m.mSubscribers.eraseP (·.takes n) = front ++ back := by
        rw [hList, List.eraseP_append_right _ fun t ht => by simpa using hFront t ht,
          List.eraseP_cons, hs, cond_true]
      obtain ⟨hRest, hTold⟩ := ih
        { (m.notifyRsrcStatus s n).1 with mSubscribers := m.mSubscribers.eraseP (·.takes n) } (by
          change (m.mSubscribers.eraseP _).length ≤ passes
          rw [hErase, List.length_append]
          rw [hList, List.length_append, List.length_cons] at hPasses
          omega)
      have hOne := (m.notifyRsrcStatus_becomes s n).withList (m.mSubscribers.eraseP (·.takes n))
      have hFilter : (m.mSubscribers.eraseP (·.takes n)).filter (fun t => !t.takes n) =
          m.mSubscribers.filter fun t => !t.takes n := by
        rw [hErase, hList, List.filter_append, List.filter_append, List.filter_cons_of_neg]
        simpa using hs
      refine ⟨hFilter ▸ hOne.trans hRest, ?_⟩
      refine ((m.notifyRsrcStatus_effects s n).append hTold).congr fun t _ => ?_
      change t ∈ [s] ++ m.mSubscribers.eraseP _ ↔ _
      rw [hErase, hList]
      simp only [List.mem_append, List.mem_cons, List.not_mem_nil, or_false]
      tauto

/-- The retry counter is as before, or starts anew. -/
def SettlesRetries (m m' : AgpsStateMachine) : Prop :=
  m'.mRetries = m.mRetries ∨ m'.mRetries = 0

theorem SettlesRetries.trans (h : SettlesRetries m m') (h' : SettlesRetries m' m'') :
    SettlesRetries m m'' := by
  obtain h' | h' := h'
  · obtain h | h := h
    · exact .inl (h'.trans h)
    · exact .inr (h'.trans h)
  · exact .inr h'

theorem notifyRsrcStatus_retries (m : AgpsStateMachine) (s : Subscriber) (n : Notification) :
    SettlesRetries m (m.notifyRsrcStatus s n).1 := by
  rw [notifyRsrcStatus]
  split
  · rw [tell.eq_def]
    cases s.kind <;> cases n.rsrcStatus <;> first | exact .inl rfl | exact .inr rfl
  · exact .inl rfl

theorem notifyEach_retries (n : Notification) (l : List Subscriber) (m : AgpsStateMachine) :
    SettlesRetries m (notifyEach n l m).1 := by
  induction l generalizing m with
  | nil => exact .inl rfl
  | cons s rest ih => exact (m.notifyRsrcStatus_retries s n).trans (ih _)

theorem notifyRemoving_retries (n : Notification) (passes : Nat) (m : AgpsStateMachine) :
    SettlesRetries m (notifyRemoving n passes m).1 := by
  induction passes generalizing m with
  | zero => exact .inl rfl
  | succ passes ih =>
    rw [notifyRemoving]
    split
    · exact .inl rfl
    · rename_i s _
      have hOne := m.notifyRsrcStatus_retries s n
      exact hOne.trans (ih { (m.notifyRsrcStatus s n).1 with
        mSubscribers := m.mSubscribers.eraseP (·.takes n) })

theorem notifySubscribers_retries (m : AgpsStateMachine) (n : Notification) :
    SettlesRetries m (m.notifySubscribers n).1 := by
  rw [notifySubscribers]
  split
  · exact notifyRemoving_retries n _ m
  · exact notifyEach_retries n _ m

theorem notifySubscribers_keeping (m : AgpsStateMachine) {n : Notification}
    (hKeep : n.postNotifyDelete = false) :
    Becomes m m.mSubscribers (m.notifySubscribers n).1 ∧
      Notifies n m.mSubscribers (m.notifySubscribers n).2 := by
  rw [notifySubscribers, if_neg (by rw [hKeep]; decide)]
  exact notifyEach_spec n m.mSubscribers m

theorem notifySubscribers_removing (m : AgpsStateMachine) {n : Notification}
    (hDelete : n.postNotifyDelete = true) :
    Becomes m (m.mSubscribers.filter fun s => !s.takes n) (m.notifySubscribers n).1 ∧
      Notifies n m.mSubscribers (m.notifySubscribers n).2 := by
  rw [notifySubscribers, if_pos hDelete]
  exact notifyRemoving_spec n _ m (Nat.le_refl _)

end AgpsStateMachine

end KiwiDevice.Gps

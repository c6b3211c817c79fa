import KiwiDevice.Gps.DSFallback

/-!
# What the modem hears

The open and close statuses that a call of an AGPS state machine sends, by the notifications that
they come from.
-/

namespace KiwiDevice.Gps

/-- The statuses that the modem gets for the end of a connection. -/
def closeStatuses (id : UInt32) (o : List AgpsEffect) : List Bool :=
  o.filterMap fun
    | .atlCloseStatus id' success => if id' = id then some success else none
    | _ => none

def Grants (id : UInt32) (o : List AgpsEffect) : Prop :=
  ∃ apn bearer type, .atlOpenStatus id true apn bearer type ∈ o

namespace AgpsStateMachine

variable {m m' : AgpsStateMachine} {a : DataCallAnswer} {c : AgpsCall} {o o' : List AgpsEffect}
  {id : UInt32} {n : Notification} {s : Subscriber}

theorem closeStatuses_append (id : UInt32) (o o' : List AgpsEffect) :
    closeStatuses id (o ++ o') = closeStatuses id o ++ closeStatuses id o' := List.filterMap_append

theorem closeStatuses_eq_nil (h : ∀ success, .atlCloseStatus id success ∉ o) :
    closeStatuses id o = [] := by
  refine List.filterMap_eq_nil_iff.mpr fun e he => ?_
  cases e with
  | atlCloseStatus id' success =>
    refine if_neg fun hId : id' = id => ?_
    subst hId
    exact h success he
  | _ => rfl

/-- Every open status is sent on from a grant, every close status from a removal or a release. -/
structure Explained (o : List AgpsEffect) : Prop where
  opened : ∀ id, Grants id o → ∃ s, .notified s .granted ∈ o ∧ s.ID = id
  closed : ∀ id success, .atlCloseStatus id success ∈ o →
    ∃ s, s.ID = id ∧ (.notified s .unsubscribe ∈ o ∨ .notified s .released ∈ o ∧ s.kind = .atl)

/-- The modem hears nothing. -/
structure Silent (o : List AgpsEffect) : Prop where
  opened : ∀ id, ¬ Grants id o
  closed : ∀ id success, .atlCloseStatus id success ∉ o

theorem Silent.explained (h : Silent o) : Explained o where
  opened := fun id hId => absurd hId (h.opened id)
  closed := fun id success hId => absurd hId (h.closed id success)

theorem silent_nil : Silent [] where
  opened := fun _ ⟨_, _, _, h⟩ => nomatch h
  closed := fun _ _ h => nomatch h

theorem explained_nil : Explained [] := silent_nil.explained

theorem Explained.append (h : Explained o) (h' : Explained o') : Explained (o ++ o') where
  opened := by
    rintro id ⟨apn, bearer, type, hMem⟩
    rcases List.mem_append.mp hMem with hMem | hMem
    · obtain ⟨s, hs, hID⟩ := h.opened id ⟨apn, bearer, type, hMem⟩
      exact ⟨s, List.mem_append_left _ hs, hID⟩
    · obtain ⟨s, hs, hID⟩ := h'.opened id ⟨apn, bearer, type, hMem⟩
      exact ⟨s, List.mem_append_right _ hs, hID⟩
  closed := by
    intro id success hMem
    rcases List.mem_append.mp hMem with hMem | hMem
    · obtain ⟨s, hID, hs | ⟨hs, hKind⟩⟩ := h.closed id success hMem
      · exact ⟨s, hID, .inl (List.mem_append_left _ hs)⟩
      · exact ⟨s, hID, .inr ⟨List.mem_append_left _ hs, hKind⟩⟩
    · obtain ⟨s, hID, hs | ⟨hs, hKind⟩⟩ := h'.closed id success hMem
      · exact ⟨s, hID, .inl (List.mem_append_right _ hs)⟩
      · exact ⟨s, hID, .inr ⟨List.mem_append_right _ hs, hKind⟩⟩

theorem sendRsrcRequest_silent (m : AgpsStateMachine) (action : AGpsStatusValue)
    (a : DataCallAnswer) :
    Silent (m.sendRsrcRequest action a).2.1 := by
  rw [sendRsrcRequest]
  split
  · obtain ⟨_, h⟩ | ⟨_, _, _, h⟩ | ⟨_, _, _, h⟩ := m.sendDataCallRequest_cases action a
    all_goals
      rw [h]
      constructor <;> simp [Grants]
  · change Silent (m.sendNifRequest action)
    rw [sendNifRequest]
    split
    · split <;> constructor <;> simp [Grants]
    · constructor <;> simp [Grants]

theorem notifyRsrcStatus_explained (m : AgpsStateMachine) (s : Subscriber) (n : Notification) :
    Explained (m.notifyRsrcStatus s n).2.1 := by
  rw [notifyRsrcStatus]
  split
  · rw [tell.eq_def]
    cases hKind : s.kind <;> cases hStatus : n.rsrcStatus <;>
      constructor <;> simp [Grants, informStatus, hKind]
  · exact explained_nil

theorem notifyEach_explained (n : Notification) (l : List Subscriber) (m : AgpsStateMachine) :
    Explained (notifyEach n l m).2 := by
  induction l generalizing m with
  | nil => exact explained_nil
  | cons s rest ih => exact (m.notifyRsrcStatus_explained s n).append (ih _)

theorem notifyRemoving_explained (n : Notification) (passes : Nat) (m : AgpsStateMachine) :
    Explained (notifyRemoving n passes m).2 := by
  induction passes generalizing m with
  | zero => exact explained_nil
  | succ passes ih =>
    rw [notifyRemoving]
    split
    · exact explained_nil
    · rename_i s _
      exact (m.notifyRsrcStatus_explained s n).append (ih _)

theorem notifySubscribers_explained (m : AgpsStateMachine) (n : Notification) :
    Explained (m.notifySubscribers n).2 := by
  rw [notifySubscribers]
  split
  · exact notifyRemoving_explained n _ m
  · exact notifyEach_explained n _ m

theorem subscribeRsrc_explained (m : AgpsStateMachine) (s : Subscriber) (a : DataCallAnswer) :
    Explained (m.subscribeRsrc s a).2 := by
  rw [subscribeRsrc]
  split
  · exact m.notifyRsrcStatus_explained s _
  · rw [onSubscribe]
    split
    · exact (sendRsrcRequest_silent _ _ a).explained
    · exact m.notifyRsrcStatus_explained s _
    · exact explained_nil
    · exact explained_nil

theorem closeComplete_explained (m : AgpsStateMachine) (status : AgpsRsrcStatus)
    (a : DataCallAnswer) :
    Explained (m.closeComplete status a).2 := by
  rw [closeComplete]
  split
  · exact (m.notifySubscribers_explained _).append (sendRsrcRequest_silent _ _ a).explained
  · exact m.notifySubscribers_explained _

theorem onDenied_explained (m : AgpsStateMachine) (a : DataCallAnswer) :
    Explained (m.onDenied a).2 := by
  rw [onDenied]
  split
  · exact m.notifySubscribers_explained _
  · exact m.closeComplete_explained _ a
  · exact explained_nil
  · exact explained_nil

theorem onReleased_explained (m : AgpsStateMachine) (a : DataCallAnswer) :
    Explained (m.onReleased a).2 := by
  rw [onReleased]
  split
  · exact m.notifySubscribers_explained _
  · exact m.closeComplete_explained _ a
  · exact explained_nil
  · exact explained_nil

theorem onRsrcEvent_explained (m : AgpsStateMachine) (event : AgpsRsrcStatus) (a : DataCallAnswer) :
    Explained (m.onRsrcEvent event a).2 := by
  cases event with
  | granted =>
    change Explained m.onGranted.2
    rw [onGranted]
    split
    · exact m.notifySubscribers_explained _
    all_goals exact explained_nil
  | released =>
    rw [onRsrcEvent]
    split
    · exact (m.onReleased_explained a).append (onDenied_explained _ a)
    · exact m.onReleased_explained a
  | denied => exact m.onDenied_explained a
  | _ => exact explained_nil

/-! ## Who is told -/

/-- The machine lists the connection, and does not wait for its end. -/
def Active (m : AgpsStateMachine) (id : UInt32) : Prop :=
  ∃ e ∈ m.mSubscribers, e.ID = id ∧ e.isInactive = false

theorem sent_told {m₁ m₂ : AgpsStateMachine} {action : AGpsStatusValue} {ret : Int}
    {status : AgpsRsrcStatus}
    (hSent : m₁.sendRsrcRequest action a = (m₂, o, ret)) : .notified s status ∉ o := by
  have hTold := m₁.sendRsrcRequest_told action a s status
  rwa [hSent] at hTold

/-- Who is told of a grant, of its removal and of a release. -/
structure Hears (m : AgpsStateMachine) (c : AgpsCall) (s : Subscriber) (status : AgpsRsrcStatus) : Prop where
  granted : status = .granted → s ∈ m.mSubscribers ∧ s.isInactive = false ∨ c = .subscribeRsrc s
  removed : status = .unsubscribe → c.isUnsubscribe = true
  released : status = .released → s ∈ m.mSubscribers

theorem hears_denied : Hears m c s .denied := ⟨nofun, nofun, nofun⟩

theorem hears_ended {l : List Subscriber} {receiver : Receiver} {status t : AgpsRsrcStatus}
    {b : Bool}
    (hStatus : status = .released ∨ status = .denied) (ho : Notifies ⟨receiver, status, b⟩ l o)
    (hList : l = m.mSubscribers) (hs : .notified s t ∈ o) : Hears m c s t := by
  obtain ⟨rfl, hMem, -⟩ := (ho.told s t).mp hs
  rcases hStatus with rfl | rfl
  · exact ⟨nofun, nofun, fun _ => hList ▸ hMem⟩
  · exact hears_denied

theorem Did.hears {status : AgpsRsrcStatus} (h : Did m a c m' o) (hs : .notified s status ∈ o) :
    Hears m c s status := by
  have hQuiet : ∀ {q : List AgpsEffect} {u : Subscriber}, Quiet q → .notified s status ∈ q →
      Hears m (.unsubscribeRsrc u) s status := by
    intro q u hq hMem
    obtain rfl := hq.told s status hMem
    exact ⟨nofun, fun _ => rfl, nofun⟩
  cases h with
  | refused _ _ ho =>
    obtain ⟨rfl, -⟩ := (ho.told s status).mp hs
    exact hears_denied
  | added => cases hs
  | granted _ _ _ ho =>
    obtain ⟨rfl, hMem, -⟩ := (ho.told s status).mp hs
    exact ⟨fun _ => .inr (by rw [List.mem_singleton.mp hMem]), nofun, nofun⟩
  | requested _ _ hSent => exact absurd hs (sent_told hSent)
  | unknown => cases hs
  | toldAgain _ _ ho =>
    obtain ⟨rfl, -⟩ := (ho.told s status).mp hs
    exact ⟨nofun, fun _ => rfl, nofun⟩
  | left _ _ _ _ ho => exact hQuiet ho hs
  | leftLast _ _ _ _ ho => exact hQuiet ho hs
  | freed _ _ _ _ _ ho _ hSent => exact hQuiet ho ((List.mem_append.mp hs).resolve_right (sent_told hSent))
  | ignored => cases hs
  | connected _ _ ho =>
    obtain ⟨rfl, hMem, hTakes⟩ := (ho.told s status).mp hs
    refine ⟨fun _ => .inl ⟨hMem, ?_⟩, nofun, nofun⟩
    simpa [Subscriber.takes, Subscriber.forMe] using hTakes
  | ended _ hStatus _ ho => exact hears_ended hStatus ho rfl hs
  | closed _ hStatus _ ho => exact hears_ended hStatus ho rfl hs
  | reopened _ hStatus _ _ ho _ hSent =>
    exact hears_ended hStatus ho rfl ((List.mem_append.mp hs).resolve_right (sent_told hSent))

theorem Did.active (h : Did m a c m' o) (hActive : m'.Active id) :
    m.Active id ∨ ∃ s, c = .subscribeRsrc s ∧ s.ID = id := by
  have hSame : ∀ {l : List Subscriber}, (∀ e ∈ l, e.isInactive = false → e ∈ m.mSubscribers) →
      (∃ e ∈ l, e.ID = id ∧ e.isInactive = false) → m.Active id := by
    rintro l hl ⟨e, he, hID, hOn⟩
    exact ⟨e, hl e he hOn, hID, hOn⟩
  have hAdd : ∀ s, (∃ e ∈ (m.addSubscriber s).mSubscribers, e.ID = id ∧ e.isInactive = false) →
      m.Active id ∨ s.ID = id := by
    rintro s ⟨e, he, hID, hOn⟩
    obtain ⟨_, _, _, hList⟩ | ⟨_, hList⟩ := m.addSubscriber_cases s
    · exact .inl ⟨e, hList ▸ he, hID, hOn⟩
    · rw [hList] at he
      rcases List.mem_cons.mp he with rfl | he
      · exact .inr hID
      · exact .inl ⟨e, he, hID, hOn⟩
  have hDrop : ∀ {k : Nat} {x : Subscriber}, x ∈ m.mSubscribers →
      ∀ e ∈ dropped m.mSubscribers k x, e.isInactive = false → e ∈ m.mSubscribers := by
    intro k x hx e he hOn
    rw [dropped] at he
    split at he
    · rename_i hWait
      rcases List.mem_or_eq_of_mem_set he with he | rfl
      · exact he
      · rw [Subscriber.isInactive] at hOn
        change (x.waitForCloseComplete && true) = false at hOn
        rw [hWait] at hOn
        cases hOn
    · exact (List.mem_filter.mp he).1
  cases h with
  | refused _ h _ => exact .inl (hSame (fun e he _ => h.list ▸ he) hActive)
  | @added s => exact (hAdd s hActive).imp_right fun hID => ⟨s, rfl, hID⟩
  | @granted s _ _ _ _ h _ =>
    exact (hAdd s (by rwa [Active, h.list] at hActive)).imp_right fun hID => ⟨s, rfl, hID⟩
  | @requested s m₁ _ ret _ _ hTo =>
    have hList : (if ret = 0 then m₁.toState .pending else m₁).mSubscribers =
        (m.addSubscriber s).mSubscribers := by
      split
      · exact (toState_mSubscribers m₁ _).trans (sent_list hTo)
      · exact sent_list hTo
    exact (hAdd s (by rwa [Active, hList] at hActive)).imp_right fun hID => ⟨s, rfl, hID⟩
  | unknown => exact .inl hActive
  | toldAgain _ h _ => exact .inl (hSame (fun e he _ => h.list ▸ he) hActive)
  | left hx _ _ h _ _ _ =>
    exact .inl (hSame (hDrop (List.mem_of_getElem? hx)) (by rwa [Active, h.list] at hActive))
  | leftLast hx _ _ h _ _ =>
    rw [Active, toState_mSubscribers, h.list] at hActive
    exact .inl (hSame (hDrop (List.mem_of_getElem? hx)) hActive)
  | freed hx _ _ h _ _ _ hTo =>
    rw [Active, toState_mSubscribers, sent_list hTo, h.list] at hActive
    exact .inl (hSame (hDrop (List.mem_of_getElem? hx)) hActive)
  | ignored => exact .inl hActive
  | connected _ h _ =>
    rw [Active, toState_mSubscribers, h.list] at hActive
    exact .inl hActive
  | ended _ _ h _ =>
    rw [Active, toState_mSubscribers, h.list] at hActive
    obtain ⟨e, he, -⟩ := hActive
    cases he
  | closed _ _ h _ _ =>
    rw [Active, toState_mSubscribers, h.list] at hActive
    exact .inl (hSame (fun e he _ => (List.mem_filter.mp he).1) hActive)
  | reopened _ _ h _ _ _ hTo =>
    rw [Active, toState_mSubscribers, sent_list hTo, h.list] at hActive
    exact .inl (hSame (fun e he _ => (List.mem_filter.mp he).1) hActive)

/-! ## The machine of ATL connections -/

/-- Only ATL subscribers, and those of the data service, are in the list. -/
structure AtlMachine (m : AgpsStateMachine) : Prop where
  kinds : ∀ e ∈ m.mSubscribers, e.kind = .atl ∨ e.kind = .ds
  distinct : Distinct m.mSubscribers

end AgpsStateMachine

/-- The call is one that ATL messages make. -/
def AgpsCall.IsAtl : AgpsCall → Prop
  | .subscribeRsrc s | .unsubscribeRsrc s => s.kind = .atl ∨ s.kind = .ds
  | .onRsrcEvent _ => True

namespace AgpsStateMachine

variable {m m' : AgpsStateMachine} {a : DataCallAnswer} {c : AgpsCall} {o : List AgpsEffect} {id : UInt32}
  {n : Notification} {s e x : Subscriber} {l : List Subscriber} {k : Nat}

theorem Did.atlMachine (h : Did m a c m' o) (hInv : AtlMachine m) (hCall : c.IsAtl) :
    AtlMachine m' where
  kinds := by
    intro e he
    obtain ⟨y, hy | rfl, -, hKind⟩ := h.origin e he
    · exact hKind ▸ hInv.kinds y hy
    · exact hKind ▸ hCall
  distinct := h.distinct hInv.distinct

theorem equals_iff_ID (h : e.kind = .atl ∨ e.kind = .ds) : e.equals x = true ↔ e.ID = x.ID := by
  rw [Subscriber.equals]
  rcases h with h | h <;> rw [h] <;> exact beq_iff_eq

theorem active_of_atl (h : e.kind = .atl) : e.isInactive = false := by
  simp [Subscriber.isInactive, Subscriber.waitForCloseComplete, h]

theorem eq_of_ID (hDistinct : Distinct l) (hKinds : ∀ e ∈ l, e.kind = .atl ∨ e.kind = .ds)
    (he : e ∈ l)
    (hx : x ∈ l) (hID : e.ID = x.ID) : e = x := by
  have hIDs : l.Pairwise fun y z => y.ID ≠ z.ID := by
    refine hDistinct.imp_of_mem fun {y z} _ hz hNot hSame => ?_
    rw [(equals_iff_ID (hKinds z hz)).mpr hSame.symm] at hNot
    cases hNot
  have hSymm : Std.Symm fun y z : Subscriber => y.ID ≠ z.ID := ⟨fun _ _ hNot => hNot.symm⟩
  by_contra hNe
  exact hIDs.forall he hx hNe hID

theorem Did.heard (h : Did m a c m' o) (id : UInt32) (hExplained : Explained o)
    (hCall : c.isUnsubscribe = false) :
    (Grants id o → m.Active id ∨ ∃ s, c = .subscribeRsrc s ∧ s.ID = id) ∧
      (¬ m.Active id → closeStatuses id o = []) := by
  constructor
  · intro hGrants
    obtain ⟨s, hs, hID⟩ := hExplained.opened id hGrants
    rcases (h.hears hs).granted rfl with ⟨hMem, hOn⟩ | hNew
    · exact .inl ⟨s, hMem, hID, hOn⟩
    · exact .inr ⟨s, hNew, hID⟩
  · intro hNot
    refine closeStatuses_eq_nil fun success hMem => ?_
    obtain ⟨s, hID, hs | ⟨hs, hKind⟩⟩ := hExplained.closed id success hMem
    · rw [(h.hears hs).removed rfl] at hCall
      cases hCall
    · exact hNot ⟨s, (h.hears hs).released rfl, hID, active_of_atl hKind⟩

/-! ## A removal -/

theorem not_active_dropped (hInv : AtlMachine m) (he : m.mSubscribers[k]? = some e) :
    ¬ ∃ x ∈ dropped m.mSubscribers k e, x.ID = e.ID ∧ x.isInactive = false := by
  rintro ⟨x, hx, hID, hOn⟩
  have hMem := List.mem_of_getElem? he
  have hDistinct := distinct_dropped hInv.distinct he
  rw [dropped] at hx hDistinct
  split at hx
  · rename_i hWait
    rw [if_pos hWait] at hDistinct
    obtain ⟨hk, -⟩ := List.getElem?_eq_some_iff.mp he
    have hMark : ({ e with mIsInactive := true } : Subscriber) ∈
        m.mSubscribers.set k { e with mIsInactive := true } := List.mem_set hk _
    have hKinds : ∀ y ∈ m.mSubscribers.set k { e with mIsInactive := true }, y.kind = .atl ∨ y.kind = .ds := by
      intro y hy
      rcases List.mem_or_eq_of_mem_set hy with hy | rfl
      · exact hInv.kinds y hy
      · exact hInv.kinds e hMem
    obtain rfl := eq_of_ID hDistinct hKinds hx hMark hID
    change (e.waitForCloseComplete && true) = false at hOn
    rw [hWait] at hOn
    cases hOn
  · obtain ⟨hx, hNot⟩ := List.mem_filter.mp hx
    rw [(equals_iff_ID (hInv.kinds x hx)).mpr hID] at hNot
    cases hNot

/-- Where the one that takes the notification is alone, the loop tells it and nobody else. -/
theorem notifyRemoving_none {passes : Nat} (h : m.mSubscribers.find? (·.takes n) = none) :
    (notifyRemoving n passes m).2 = [] := by
  cases passes with
  | zero => rfl
  | succ passes => rw [notifyRemoving, h]

theorem notifyRemoving_alone {passes : Nat} (hs : m.mSubscribers.find? (·.takes n) = some s)
    (hRest : ∀ t ∈ m.mSubscribers.eraseP (·.takes n), t.takes n = false) :
    (notifyRemoving n (passes + 1) m).2 = (m.notifyRsrcStatus s n).2.1 := by
  have hNone : (m.mSubscribers.eraseP (·.takes n)).find? (·.takes n) = none := by
    apply List.find?_eq_none.mpr
    intro t ht
    rw [hRest t ht]
    decide
  rw [notifyRemoving, hs]
  refine (congrArg _ (notifyRemoving_none ?_)).trans (List.append_nil _)
  exact hNone

theorem dropSubscriber_effects (hInv : AtlMachine m) (he : m.mSubscribers[k]? = some e) :
    (m.dropSubscriber k e).2 = [.atlCloseStatus e.ID true] ∨
      ∃ s, (m.dropSubscriber k e).2 = [.notified s .unsubscribe, .atlCloseStatus e.ID true] := by
  have hMem := List.mem_of_getElem? he
  rw [dropSubscriber]
  rcases hInv.kinds e hMem with hKind | hKind
  · right
    have hFound : (m.mSubscribers.find? (·.takes ⟨.rcver e, .unsubscribe, true⟩)).isSome = true := by
      rw [List.find?_isSome]
      exact ⟨e, hMem, (takes_unsubscribe e e).trans e.equals_refl⟩
    obtain ⟨s, hs⟩ := Option.isSome_iff_exists.mp hFound
    obtain ⟨hTakes, front, back, hList, hFront⟩ := List.find?_eq_some_iff_append.mp hs
    have hEq : s.equals e = true := (takes_unsubscribe s e).symm.trans hTakes
    have hID : s.ID = e.ID := Subscriber.ID_of_equals hEq
    have hIn : s ∈ m.mSubscribers := List.mem_of_find?_eq_some hs
    have hRest : ∀ t ∈ m.mSubscribers.eraseP (·.takes ⟨.rcver e, .unsubscribe, true⟩),
        t.takes ⟨.rcver e, .unsubscribe, true⟩ = false := by
      intro t ht
      have hDistinct := hInv.distinct
      rw [hList, List.eraseP_append_right _ fun t ht => by simpa using hFront t ht, List.eraseP_cons,
        hTakes, cond_true] at ht
      rcases List.mem_append.mp ht with ht | ht
      · simpa using hFront t ht
      · rw [hList] at hDistinct
        have hOlder := (List.pairwise_cons.mp (List.pairwise_append.mp hDistinct).2.1).1 t ht
        have hKind := hInv.kinds t (hList ▸ List.mem_append_right _ (List.mem_cons_of_mem _ ht))
        rw [takes_unsubscribe, Bool.eq_false_iff]
        intro hSame
        rw [(equals_iff_ID hKind).mpr (((equals_iff_ID hKind).mp hSame).trans hID.symm)] at hOlder
        cases hOlder
    have hLength : m.mSubscribers.length = (front ++ back).length + 1 := by
      rw [hList, List.length_append, List.length_append, List.length_cons]
      omega
    refine ⟨s, ?_⟩
    rw [if_neg (by rw [Subscriber.waitForCloseComplete, hKind]; decide), notifySubscribers, if_pos rfl,
      hLength, notifyRemoving_alone hs hRest, notifyRsrcStatus, if_pos hTakes, tell.eq_def, ← hID]
    rcases hInv.kinds s hIn with hKind | hKind <;> rw [hKind] <;> rfl
  · left
    rw [if_pos (by rw [Subscriber.waitForCloseComplete, hKind]), setInactive, hKind]
    rfl

/-- What the modem hears of a removal, where the machine is not in released: one close status for
the connection, and nothing of any other. -/
structure Removed (id : UInt32) (r : AgpsStateMachine × List AgpsEffect) : Prop where
  gone : ¬ r.1.Active id
  closed : closeStatuses id r.2 = [true]
  others : ∀ id', id' ≠ id → closeStatuses id' r.2 = []
  opened : ∀ id', ¬ Grants id' r.2

theorem Silent.closeStatuses (h : Silent o) (id : UInt32) : closeStatuses id o = [] :=
  closeStatuses_eq_nil (h.closed id)

theorem onUnsubscribe_effects (m : AgpsStateMachine) (k : Nat) (e : Subscriber) (a : DataCallAnswer)
    (hState : m.mStatePtr ≠ .released) :
    ∃ o, (m.onUnsubscribe k e a).2 = (m.dropSubscriber k e).2 ++ o ∧ Silent o := by
  rw [onUnsubscribe]
  split
  · rename_i hReleased
    exact absurd hReleased hState
  · dsimp only
    split
    · exact ⟨_, rfl, sendRsrcRequest_silent _ _ a⟩
    · split
      · exact ⟨_, rfl, sendRsrcRequest_silent _ _ a⟩
      · exact ⟨[], (List.append_nil _).symm, silent_nil⟩
  · dsimp only
    split
    · exact ⟨_, rfl, sendRsrcRequest_silent _ _ a⟩
    · split
      · exact ⟨_, rfl, sendRsrcRequest_silent _ _ a⟩
      · exact ⟨[], (List.append_nil _).symm, silent_nil⟩
  · dsimp only
    split
    · exact ⟨[], (List.append_nil _).symm, silent_nil⟩
    · exact ⟨[], (List.append_nil _).symm, silent_nil⟩

theorem Did.gone (h : Did m a (.unsubscribeRsrc s) m' o) (hInv : AtlMachine m)
    (hState : m.mStatePtr ≠ .released) (hListed : ∃ e ∈ m.mSubscribers, e.equals s = true) :
    ¬ m'.Active s.ID := by
  have hDropped : ∀ {k : Nat} {e : Subscriber} {l : List Subscriber}, m.mSubscribers[k]? = some e →
      e.equals s = true → l = dropped m.mSubscribers k e →
      ¬ ∃ x ∈ l, x.ID = s.ID ∧ x.isInactive = false := by
    intro k e l he hEq hl
    rw [hl, ← Subscriber.ID_of_equals hEq]
    exact not_active_dropped hInv he
  cases h with
  | unknown hNone =>
    obtain ⟨e, he, hEq⟩ := hListed
    rw [hNone e he] at hEq
    cases hEq
  | toldAgain hReleased => exact absurd hReleased hState
  | left he hEq _ h _ _ _ => exact hDropped he hEq h.list
  | leftLast he hEq _ h _ _ => exact hDropped he hEq ((toState_mSubscribers _ _).trans h.list)
  | freed he hEq _ h _ _ _ hSent =>
    exact hDropped he hEq ((toState_mSubscribers _ _).trans ((sent_list hSent).trans h.list))

theorem unsubscribeRsrc_removed (hInv : AtlMachine m) (hState : m.mStatePtr ≠ .released)
    (hListed : m.mSubscribers.any (·.forMe { receiver := .rcver s }) = true) :
    Removed s.ID (m.unsubscribeRsrc s a) := by
  obtain ⟨x, hx, hForMe⟩ := List.any_eq_true.mp hListed
  have hGone := (m.unsubscribeRsrc_did s a).gone hInv hState ⟨x, hx, hForMe⟩
  obtain ⟨k, hk⟩ : ∃ k, m.mSubscribers.findIdx? (·.forMe { receiver := .rcver s }) = some k := by
    refine Option.isSome_iff_exists.mp ?_
    rwa [List.findIdx?_isSome]
  obtain ⟨hLt, hHere, -⟩ := List.findIdx?_eq_some_iff_getElem.mp hk
  have he : m.mSubscribers[k]? = some m.mSubscribers[k] := List.getElem?_eq_getElem hLt
  have hID : m.mSubscribers[k].ID = s.ID := Subscriber.ID_of_equals hHere
  obtain ⟨sent, hEffects, hSilent⟩ := m.onUnsubscribe_effects k m.mSubscribers[k] a hState
  have hCall : m.unsubscribeRsrc s a = m.onUnsubscribe k m.mSubscribers[k] a := by
    rw [unsubscribeRsrc, hk]
    dsimp only
    rw [he]
  rw [hCall] at hGone ⊢
  have hFront := dropSubscriber_effects hInv he
  rw [hID] at hFront
  constructor
  · exact hGone
  · rw [hEffects, closeStatuses_append, hSilent.closeStatuses, List.append_nil]
    rcases hFront with hFront | ⟨t, hFront⟩ <;> rw [hFront] <;> simp [closeStatuses]
  · intro id' hNe
    rw [hEffects, closeStatuses_append, hSilent.closeStatuses, List.append_nil]
    rcases hFront with hFront | ⟨t, hFront⟩ <;> rw [hFront] <;> simp [closeStatuses, hNe.symm]
  · rintro id' ⟨apn, bearer, type, hMem⟩
    rw [hEffects] at hMem
    rcases List.mem_append.mp hMem with hMem | hMem
    · rcases hFront with hFront | ⟨t, hFront⟩ <;> rw [hFront] at hMem <;> simp at hMem
    · exact hSilent.opened id' ⟨apn, bearer, type, hMem⟩

end AgpsStateMachine

end KiwiDevice.Gps

import KiwiDevice.Hal.ApiResults
import KiwiDevice.Lib.Lists
import Mathlib.Data.List.Perm.Basic
import Mathlib.Data.List.Nodup

/-!
# Requests and callers

An accepted request is in the queue, with the thread, waiting for the snapshot to be prepared, or in
`m_apiResultList`, and in one of these places only; and it is the request of one caller. Results are
told apart by their event alone, so this needs that no two requests of one event are outstanding,
that nobody sends a request without waiting, and that no face image is registered while a snapshot
is prepared.
-/

namespace KiwiDevice.Hal

namespace Caller

/-- The request that the caller has sent and has no result of. -/
def request : Caller → Option (Nat × SmEvt)
  | sent n evt | awaiting n evt | woken n evt => some (n, evt)
  | _ => none

/-- The same, if the caller will not look at the list before it is woken. -/
def asleep : Caller → Option (Nat × SmEvt)
  | sent n evt | awaiting n evt => some (n, evt)
  | _ => none

def HasLock : Caller → Prop
  | holding | sent _ _ => True
  | _ => False

@[simp] theorem wake_request (caller : Caller) : caller.wake.request = caller.request := by
  cases caller <;> rfl

theorem wake_hasLock {caller : Caller} : caller.wake.HasLock ↔ caller.HasLock := by
  cases caller <;> rfl

theorem wake_asleep {caller : Caller} (hFree : ¬ caller.HasLock) : caller.wake.asleep = none := by
  cases caller with
  | sent n evt => exact absurd trivial hFree
  | _ => rfl

theorem request_of_asleep {caller : Caller} {x : Nat × SmEvt} (h : caller.asleep = some x) :
    caller.request = some x := by
  cases caller with
  | sent n evt | awaiting n evt => exact h
  | _ => cases h

end Caller

def SmNode.pending (node : SmNode) : Option (Nat × SmEvt) := node.request.map fun n => (n, node.evt)

def Answer.pending (answer : Answer) : Option (Nat × SmEvt) :=
  answer.request.map fun n => (n, answer.result.requestApi)

def SmThread.pending : SmThread → Option (Nat × SmEvt)
  | running node => node.pending
  | signalling answer => answer.pending
  | _ => none

def SmThread.isNotified : SmThread → Nat
  | notified => 1
  | _ => 0

/-- A node of `api_queue`. -/
structure SmNode.IsApi (node : SmNode) : Prop where
  request : node.request.isSome = true
  evt : node.evt.isApi = true

/-- A node of `evt_queue`. -/
structure SmNode.IsEvt (node : SmNode) : Prop where
  request : node.request = none
  evt : node.evt.isBackend = true

def SmThread.Ok : SmThread → Prop
  | running node => node.IsApi ∨ node.IsEvt
  | signalling answer => answer.request.isSome = true
  | _ => True

namespace HalCalls

variable {σ ρ : Type} {w w' : HalCalls σ}

/-- The requests without a result. -/
def unanswered (w : HalCalls σ) : List (Nat × SmEvt) :=
  w.apiQueue.filterMap SmNode.pending ++
    (w.thread.pending.toList ++ (w.preparing.map fun n => (n, SmEvt.prepareSnapshot)).toList)

/-- The requests with a result that is not collected. -/
def uncollected (w : HalCalls σ) : List (Nat × SmEvt) := w.apiResultList.filterMap Answer.pending

def outstanding (w : HalCalls σ) : List (Nat × SmEvt) := w.unanswered ++ w.uncollected

/-- The callers and the requests belong together. -/
structure Paired (w : HalCalls σ) : Prop where
  requests : ∀ x, x ∈ w.outstanding ↔ ∃ c, (w.callers c).request = some x
  kinds : (w.outstanding.map Prod.snd).Nodup
  own : ∀ c c' x x', (w.callers c).request = some x → (w.callers c').request = some x' →
    x.2 = x'.2 → c = c'
  asleep : ∀ c x, (w.callers c).asleep = some x → x ∉ w.uncollected
  locked : ∀ c, (w.callers c).HasLock → w.mLock = some c
  answers : ∀ answer ∈ w.apiResultList, answer.request.isSome = true
  answered : (w.unanswered.map Prod.fst ++ w.answered).Perm (List.range w.nextRequest)
  returned : ∀ x ∈ w.returned, x.2.request = some x.1

/-- The queues hold what belongs there, and every node is posted in the end. -/
structure Queued (w : HalCalls σ) : Prop where
  preparing : w.preparing.isSome = true ↔ w.state = .prepareSnapshot
  apiNodes : ∀ node ∈ w.apiQueue, node.IsApi
  evtNodes : ∀ node ∈ w.evtQueue, node.IsEvt
  thread : w.thread.Ok
  posted : w.unposted + w.cmdSem + w.thread.isNotified = w.apiQueue.length + w.evtQueue.length

theorem Paired.move (h : Paired w) (hCallers : w'.callers = w.callers)
    (hList : w'.apiResultList = w.apiResultList) (hLock : w'.mLock = w.mLock)
    (hNext : w'.nextRequest = w.nextRequest) (hAnswered : w'.answered = w.answered)
    (hReturned : w'.returned = w.returned) (hPerm : w'.unanswered.Perm w.unanswered) :
    Paired w' := by
  have hUncollected : w'.uncollected = w.uncollected := congrArg (List.filterMap _) hList
  have hOutstanding : w'.outstanding.Perm w.outstanding := by
    rw [outstanding, outstanding, hUncollected]
    exact hPerm.append_right _
  exact {
    requests := fun x => by rw [hOutstanding.mem_iff, hCallers]; exact h.requests x
    kinds := (hOutstanding.map _).nodup_iff.mpr h.kinds
    own := hCallers ▸ h.own
    asleep := by rw [hCallers, hUncollected]; exact h.asleep
    locked := by rw [hCallers, hLock]; exact h.locked
    answers := hList ▸ h.answers
    answered := by
      rw [hAnswered, hNext]
      exact ((hPerm.map _).append_right _).trans h.answered
    returned := hReturned ▸ h.returned }

theorem Paired.caller (h : Paired w) {c : Nat} {caller : Caller}
    (hRequest : caller.request = (w.callers c).request)
    (hAsleep : ∀ x, caller.asleep = some x → x ∉ w.uncollected) {mLock : Option Nat}
    (hLocked : ∀ c', (Function.update w.callers c caller c').HasLock → mLock = some c') :
    Paired { w.setCaller c caller with mLock := mLock } := by
  have hRequests : ∀ c', (Function.update w.callers c caller c').request
      = (w.callers c').request := by
    intro c'
    by_cases hSame : c' = c
    · rw [hSame, Function.update_self, hRequest]
    · rw [Function.update_of_ne hSame]
  exact {
    requests := fun x => by
      refine (h.requests x).trans (exists_congr fun c' => ?_)
      exact (Eq.congr_left (hRequests c')).symm
    kinds := h.kinds
    own := fun c₁ c₂ x x' hx hx' => h.own c₁ c₂ x x' ((hRequests c₁).symm.trans hx)
      ((hRequests c₂).symm.trans hx')
    asleep := fun c' x hx => by
      change (Function.update w.callers c caller c').asleep = some x at hx
      by_cases hSame : c' = c
      · rw [hSame, Function.update_self] at hx
        exact hAsleep x hx
      · rw [Function.update_of_ne hSame] at hx
        exact h.asleep c' x hx
    locked := hLocked
    answers := h.answers
    answered := h.answered
    returned := h.returned }

theorem Paired.noLock (h : Paired w) {c c' : Nat} (hLock : w.mLock = some c) (hNe : c' ≠ c) :
    ¬ (w.callers c').HasLock := by
  intro hHas
  have hSame := hLock.symm.trans (h.locked c' hHas)
  exact hNe (Option.some.inj hSame).symm

theorem Paired.free (h : Paired w) (hLock : w.mLock = none) (c : Nat) :
    ¬ (w.callers c).HasLock := by
  intro hHas
  rw [h.locked c hHas] at hLock
  cases hLock

theorem hasLock_update {c c' : Nat} {caller : Caller}
    (hOthers : c' ≠ c → ¬ (w.callers c').HasLock)
    (hHas : (Function.update w.callers c caller c').HasLock) : c' = c ∧ caller.HasLock := by
  by_cases hSame : c' = c
  · rw [hSame, Function.update_self] at hHas
    exact ⟨hSame, hHas⟩
  · rw [Function.update_of_ne hSame] at hHas
    exact absurd hHas (hOthers hSame)

theorem Paired.lockAPI (h : Paired w) {c : Nat} (hOut : w.callers c = .out)
    (hLock : w.mLock = none) : Paired { w.setCaller c .holding with mLock := some c } := by
  refine h.caller (by rw [hOut]; rfl) (fun _ hx => by cases hx) fun c' hHas => ?_
  rw [(hasLock_update (fun _ => h.free hLock c') hHas).1]

theorem Paired.condWait (h : Paired w) {c n : Nat} {evt : SmEvt}
    (hSent : w.callers c = .sent n evt) :
    Paired { w.setCaller c (.awaiting n evt) with mLock := none } := by
  refine h.caller (by rw [hSent]; rfl) (fun x hx => h.asleep c x ?_) fun c' hHas => ?_
  · rw [hSent]
    exact hx
  · have hLock := h.locked c (by rw [hSent]; trivial)
    exact absurd (hasLock_update (fun hNe => h.noLock hLock hNe) hHas).2 not_false

theorem Paired.wakeSpuriously (h : Paired w) {c n : Nat} {evt : SmEvt}
    (hAwaiting : w.callers c = .awaiting n evt) :
    Paired { w.setCaller c (.woken n evt) with mLock := w.mLock } := by
  refine h.caller (by rw [hAwaiting]; rfl) (fun _ hx => by cases hx) fun c' hHas => ?_
  by_cases hSame : c' = c
  · rw [hSame, Function.update_self] at hHas
    cases hHas
  · rw [Function.update_of_ne hSame] at hHas
    exact h.locked c' hHas

theorem Paired.unlockAPI (h : Paired w) {c : Nat} (hHolding : w.callers c = .holding) :
    Paired { w.setCaller c .out with mLock := none } := by
  refine h.caller (by rw [hHolding]; rfl) (fun _ hx => by cases hx) fun c' hHas => ?_
  have hLock := h.locked c (by rw [hHolding]; trivial)
  exact absurd (hasLock_update (fun hNe => h.noLock hLock hNe) hHas).2 not_false

theorem mem_uncollected {n : Nat} {evt : SmEvt} : (n, evt) ∈ w.uncollected ↔
    ∃ answer ∈ w.apiResultList, answer.request = some n ∧ answer.result.requestApi = evt := by
  rw [uncollected, List.mem_filterMap]
  refine exists_congr fun answer => and_congr_right fun _ => ?_
  rw [Answer.pending, Option.map_eq_some_iff]
  constructor
  · rintro ⟨m, hRequest, hPair⟩
    cases hPair
    exact ⟨hRequest, rfl⟩
  · rintro ⟨hRequest, hEvt⟩
    exact ⟨n, hRequest, by rw [hEvt]⟩

theorem Paired.collectNone (h : Paired w) {c n : Nat} {evt : SmEvt}
    (hWoken : w.callers c = .woken n evt)
    (hNone : (w.apiResultList.find? fun answer => answer.result.requestApi = evt) = none)
    (hLock : w.mLock = none) :
    Paired { w.setCaller c (.awaiting n evt) with mLock := w.mLock } := by
  refine h.caller (by rw [hWoken]; rfl) (fun x hx => ?_) fun c' hHas => ?_
  · cases hx
    intro hMem
    obtain ⟨answer, hAnswer, -, hEvt⟩ := mem_uncollected.mp hMem
    have hOther := List.find?_eq_none.mp hNone answer hAnswer
    exact hOther (decide_eq_true hEvt)
  · exact absurd (hasLock_update (fun _ => h.free hLock c') hHas).2 not_false

theorem Paired.unique (h : Paired w) {x x' : Nat × SmEvt} (hx : x ∈ w.outstanding)
    (hx' : x' ∈ w.outstanding) (hKind : x.2 = x'.2) : x = x' :=
  List.inj_on_of_nodup_map h.kinds hx hx' hKind

theorem Paired.own_answer (h : Paired w) {c n : Nat} {evt : SmEvt} {answer : Answer}
    (hWoken : w.callers c = .woken n evt) (hMem : answer ∈ w.apiResultList)
    (hEvt : answer.result.requestApi = evt) : answer.request = some n := by
  have hMine : (n, evt) ∈ w.outstanding := (h.requests _).mpr ⟨c, by rw [hWoken]; rfl⟩
  obtain ⟨m, hRequest⟩ := Option.isSome_iff_exists.mp (h.answers answer hMem)
  have hFound : (m, evt) ∈ w.outstanding :=
    List.mem_append_right _ (mem_uncollected.mpr ⟨answer, hMem, hRequest, hEvt⟩)
  have hSame := h.unique hMine hFound rfl
  rw [hRequest]
  exact congrArg some (congrArg Prod.fst hSame).symm

theorem Paired.uncollected_perm (h : Paired w) {c n : Nat} {evt : SmEvt} {answer : Answer}
    (hWoken : w.callers c = .woken n evt)
    (hFound : (w.apiResultList.find? fun answer => answer.result.requestApi = evt) = some answer) :
    w.uncollected.Perm ((n, evt) ::
      (w.apiResultList.eraseP fun answer => answer.result.requestApi = evt).filterMap
        Answer.pending) := by
  have hMem := List.mem_of_find?_eq_some hFound
  have hFirst := List.find?_some hFound
  have hEvt : answer.result.requestApi = evt := of_decide_eq_true hFirst
  have hPending : answer.pending = some (n, evt) := by
    rw [Answer.pending, h.own_answer hWoken hMem hEvt, hEvt]
    rfl
  have hPerm := (Lib.perm_eraseP_of_find? hFound).filterMap Answer.pending
  rwa [List.filterMap_cons_some hPending] at hPerm

theorem Paired.collectSome (h : Paired w) {c n : Nat} {evt : SmEvt} {answer : Answer}
    (hWoken : w.callers c = .woken n evt)
    (hFound : (w.apiResultList.find? fun answer => answer.result.requestApi = evt) = some answer)
    (hLock : w.mLock = none) :
    Paired { w.setCaller c .holding with
      mLock := some c
      apiResultList := w.apiResultList.eraseP fun answer => answer.result.requestApi = evt
      returned := w.returned ++ [(n, answer)] } := by
  have hFirst := List.find?_some hFound
  have hEvt : answer.result.requestApi = evt := of_decide_eq_true hFirst
  have hAnswer := h.own_answer hWoken (List.mem_of_find?_eq_some hFound) hEvt
  let rest := w.apiResultList.eraseP fun answer => answer.result.requestApi = evt
  have hUncollected : w.uncollected.Perm ((n, evt) :: rest.filterMap Answer.pending) :=
    h.uncollected_perm hWoken hFound
  have hPerm : w.outstanding.Perm
      ((n, evt) :: (w.unanswered ++ rest.filterMap Answer.pending)) :=
    (hUncollected.append_left _).trans List.perm_middle
  have hKinds := ((hPerm.map Prod.snd).nodup_iff.mp h.kinds)
  rw [List.map_cons, List.nodup_cons] at hKinds
  have hRequest : (w.callers c).request = some (n, evt) := by rw [hWoken]; rfl
  have hOther : ∀ c' x, (Function.update w.callers c .holding c').request = some x ↔
      (w.callers c').request = some x ∧ x ≠ (n, evt) := by
    intro c' x
    by_cases hSame : c' = c
    · rw [hSame, Function.update_self, hRequest]
      refine iff_of_false nofun ?_
      rintro ⟨hx, hNe⟩
      exact hNe (Option.some.inj hx).symm
    · rw [Function.update_of_ne hSame]
      refine ⟨fun hx => ⟨hx, ?_⟩, And.left⟩
      rintro rfl
      exact hSame (h.own c' c _ _ hx hRequest rfl)
  exact {
    requests := fun x => by
      change x ∈ w.unanswered ++ rest.filterMap Answer.pending ↔
        ∃ c', (Function.update w.callers c .holding c').request = some x
      simp only [hOther]
      rw [exists_and_right, ← h.requests x, hPerm.mem_iff, List.mem_cons]
      constructor
      · intro hx
        refine ⟨.inr hx, ?_⟩
        rintro rfl
        exact hKinds.1 (List.mem_map_of_mem hx)
      · rintro ⟨hx | hx, hNe⟩
        · exact absurd hx hNe
        · exact hx
    kinds := hKinds.2
    own := fun c₁ c₂ x x' hx hx' => h.own c₁ c₂ x x' ((hOther c₁ x).mp hx).1
      ((hOther c₂ x').mp hx').1
    asleep := fun c' x hx => by
      change (Function.update w.callers c .holding c').asleep = some x at hx
      by_cases hSame : c' = c
      · rw [hSame, Function.update_self] at hx
        cases hx
      · rw [Function.update_of_ne hSame] at hx
        intro hMem
        exact h.asleep c' x hx (hUncollected.mem_iff.mpr (List.mem_cons_of_mem _ hMem))
    locked := fun c' hHas => by
      rw [(hasLock_update (fun _ => h.free hLock c') hHas).1]
    answers := fun answer hMem => h.answers answer (List.mem_of_mem_eraseP hMem)
    answered := h.answered
    returned := fun x hx => by
      rcases List.mem_append.mp hx with hOld | hNew
      · exact h.returned x hOld
      · rw [List.mem_singleton.mp hNew]
        exact hAnswer }

theorem unanswered_procAPI (w : HalCalls σ) (evt : SmEvt) (payload : SmPayload) :
    (w.procAPI evt payload).unanswered.Perm ((w.nextRequest, evt) :: w.unanswered) := by
  rw [unanswered, procAPI, List.filterMap_append, List.append_assoc]
  exact List.perm_middle

theorem Paired.processAPI (h : Paired w) {c : Nat} {evt : SmEvt} {payload : SmPayload}
    (hHolding : w.callers c = .holding)
    (hAlone : ∀ c' n, (w.callers c').request ≠ some (n, evt)) :
    Paired ((w.procAPI evt payload).setCaller c (.sent w.nextRequest evt)) := by
  have hLock := h.locked c (by rw [hHolding]; trivial)
  have hPerm : ((w.procAPI evt payload).setCaller c (.sent w.nextRequest evt)).outstanding.Perm
      ((w.nextRequest, evt) :: w.outstanding) :=
    (unanswered_procAPI w evt payload).append_right _
  have hNew : ∀ x ∈ w.outstanding, x.2 ≠ evt := by
    rintro ⟨n, kind⟩ hx rfl
    obtain ⟨c', hc'⟩ := (h.requests _).mp hx
    exact hAlone c' n hc'
  have hFresh : (w.nextRequest, evt) ∉ w.uncollected := fun hMem =>
    hNew _ (List.mem_append_right _ hMem) rfl
  have hOther : ∀ c' x, (Function.update w.callers c (.sent w.nextRequest evt) c').request = some x
      ↔ c' = c ∧ x = (w.nextRequest, evt) ∨ (w.callers c').request = some x := by
    intro c' x
    by_cases hSame : c' = c
    · rw [hSame, Function.update_self, hHolding]
      constructor
      · intro hx
        exact .inl ⟨rfl, (Option.some.inj hx).symm⟩
      · rintro (⟨-, rfl⟩ | hx)
        · rfl
        · cases hx
    · rw [Function.update_of_ne hSame]
      exact ⟨.inr, fun hx => hx.resolve_left fun hBoth => hSame hBoth.1⟩
  exact {
    requests := fun x => by
      rw [hPerm.mem_iff, List.mem_cons, h.requests x]
      constructor
      · rintro (rfl | ⟨c', hc'⟩)
        · exact ⟨c, (hOther c _).mpr (.inl ⟨rfl, rfl⟩)⟩
        · exact ⟨c', (hOther c' x).mpr (.inr hc')⟩
      · rintro ⟨c', hc'⟩
        rcases (hOther c' x).mp hc' with ⟨-, hx⟩ | hx
        · exact .inl hx
        · exact .inr ⟨c', hx⟩
    kinds := by
      rw [(hPerm.map Prod.snd).nodup_iff, List.map_cons, List.nodup_cons]
      refine ⟨fun hMem => ?_, h.kinds⟩
      obtain ⟨x, hx, hKind⟩ := List.mem_map.mp hMem
      exact hNew x hx hKind
    own := fun c₁ c₂ x x' hx hx' hKind => by
      rcases (hOther c₁ x).mp hx with ⟨hc₁, hxEq⟩ | hx
      · rcases (hOther c₂ x').mp hx' with ⟨hc₂, -⟩ | hx'
        · rw [hc₁, hc₂]
        · rw [hxEq] at hKind
          exact absurd hKind.symm (hNew x' ((h.requests x').mpr ⟨c₂, hx'⟩))
      · rcases (hOther c₂ x').mp hx' with ⟨-, hxEq⟩ | hx'
        · rw [hxEq] at hKind
          exact absurd hKind (hNew x ((h.requests x).mpr ⟨c₁, hx⟩))
        · exact h.own c₁ c₂ x x' hx hx' hKind
    asleep := fun c' x hx => by
      rcases (hOther c' x).mp (Caller.request_of_asleep hx) with ⟨-, hxEq⟩ | hOld
      · rw [hxEq]
        exact hFresh
      · change (Function.update w.callers c (.sent w.nextRequest evt) c').asleep = some x at hx
        by_cases hSame : c' = c
        · rw [hSame, hHolding] at hOld
          cases hOld
        · rw [Function.update_of_ne hSame] at hx
          exact h.asleep c' x hx
    locked := fun c' hHas => by
      rw [(hasLock_update (fun hNe => h.noLock hLock hNe) hHas).1]
      exact hLock
    answers := h.answers
    answered := by
      refine (((unanswered_procAPI w evt payload).map Prod.fst).append_right _).trans ?_
      rw [List.map_cons]
      refine (List.Perm.cons _ h.answered).trans ?_
      rw [show ((w.procAPI evt payload).setCaller c (.sent w.nextRequest evt)).nextRequest
        = w.nextRequest + 1 from rfl, List.range_succ]
      exact (List.perm_append_singleton _ _).symm
    returned := h.returned }

theorem Paired.signal (h : Paired w) {answer : Answer} (hThread : w.thread = .signalling answer)
    (hRequest : answer.request.isSome = true) (hLock : w.mLock = none) :
    Paired { w with
      apiResultList := w.apiResultList ++ [answer]
      answered := w.answered ++ answer.request.toList
      callers := fun c => (w.callers c).wake
      thread := .waiting } := by
  obtain ⟨n, hn⟩ := Option.isSome_iff_exists.mp hRequest
  have hPending : answer.pending = some (n, answer.result.requestApi) := by
    rw [Answer.pending, hn]
    rfl
  have hUnanswered : w.unanswered.Perm ((n, answer.result.requestApi) ::
      { w with thread := .waiting }.unanswered) := by
    rw [unanswered, unanswered, hThread, SmThread.pending, hPending]
    exact List.perm_middle
  have hUncollected : (w.apiResultList ++ [answer]).filterMap Answer.pending
      = w.uncollected ++ [(n, answer.result.requestApi)] := by
    rw [List.filterMap_append, List.filterMap_cons_some hPending]
    rfl
  have hPerm : (({ w with thread := .waiting } : HalCalls σ).unanswered ++
      (w.apiResultList ++ [answer]).filterMap Answer.pending).Perm w.outstanding := by
    rw [hUncollected, ← List.append_assoc]
    exact (List.perm_append_singleton _ _).trans (hUnanswered.append_right _).symm
  exact {
    requests := fun x => by
      refine hPerm.mem_iff.trans ((h.requests x).trans (exists_congr fun c => ?_))
      exact (Eq.congr_left (Caller.wake_request _)).symm
    kinds := (hPerm.map _).nodup_iff.mpr h.kinds
    own := fun c c' x x' hx hx' => h.own c c' x x' ((Caller.wake_request _).symm.trans hx)
      ((Caller.wake_request _).symm.trans hx')
    asleep := fun c x hx => by
      rw [Caller.wake_asleep (h.free hLock c)] at hx
      cases hx
    locked := fun c hHas => absurd (Caller.wake_hasLock.mp hHas) (h.free hLock c)
    answers := fun other hMem => by
      rcases List.mem_append.mp hMem with hOld | hNew
      · exact h.answers other hOld
      · rw [List.mem_singleton.mp hNew]
        exact hRequest
    answered := by
      rw [hn]
      refine List.Perm.trans ?_ h.answered
      rw [Option.toList_some, ← List.append_assoc]
      refine (List.perm_append_singleton _ _).trans ?_
      exact ((hUnanswered.map Prod.fst).append_right _).symm
    returned := h.returned }

theorem unanswered_dequeue_api {node : SmNode} {rest : List SmNode}
    (hThread : w.thread = .notified) (hQueue : w.apiQueue = node :: rest) :
    ({ w with apiQueue := rest, thread := .running node } : HalCalls σ).unanswered.Perm
      w.unanswered := by
  simp only [unanswered, hThread, hQueue, SmThread.pending, Option.toList_none, List.nil_append]
  cases hPending : node.pending with
  | none =>
    rw [List.filterMap_cons_none hPending]
    exact .rfl
  | some x =>
    rw [List.filterMap_cons_some hPending]
    exact List.perm_middle

theorem unanswered_dequeue_evt {node : SmNode} {rest : List SmNode}
    (hThread : w.thread = .notified) (hNode : node.request = none) :
    ({ w with evtQueue := rest, thread := .running node } : HalCalls σ).unanswered
      = w.unanswered := by
  have hPending : node.pending = none := by
    rw [SmNode.pending, hNode]
    rfl
  simp only [unanswered, hThread, SmThread.pending, hPending]

theorem process_answered (h : Parent σ ρ) (r : ρ) {node : SmNode} {evt : SmEvt}
    (hAnswers : (h.stateMachine r node.payload w.hal w.state node.evt).answers = some evt) :
    ∃ result : ApiResult, result.requestApi = evt ∧ w.process h r node = { w with
      hal := (h.stateMachine r node.payload w.hal w.state node.evt).hal
      state := (h.stateMachine r node.payload w.hal w.state node.evt).state
      thread := .signalling ⟨node.request.or w.preparing, result⟩
      preparing := if node.request = none then none else w.preparing } := by
  rw [Processed.answers] at hAnswers
  split at hAnswers
  · rename_i result hSignal
    refine ⟨result, Option.some.inj hAnswers, ?_⟩
    simp only [process, hSignal]
  · cases hAnswers

theorem process_silent (h : Parent σ ρ) (r : ρ) {node : SmNode}
    (hAnswers : (h.stateMachine r node.payload w.hal w.state node.evt).answers = none) :
    w.process h r node = { w with
      hal := (h.stateMachine r node.payload w.hal w.state node.evt).hal
      state := (h.stateMachine r node.payload w.hal w.state node.evt).state
      thread := .waiting
      preparing :=
        if (h.stateMachine r node.payload w.hal w.state node.evt).state = .prepareSnapshot ∧
          w.state ≠ .prepareSnapshot then node.request else w.preparing } := by
  rw [Processed.answers] at hAnswers
  rw [process]
  split
  · rename_i result hSignal
    rw [hSignal] at hAnswers
    cases hAnswers
  · rfl

/-- What the state machine makes of a node moves the request to its result, or lets it wait for the
snapshot to be prepared. -/
theorem unanswered_process (h : Parent σ ρ) (r : ρ) (hQueued : Queued w) {node : SmNode}
    (hThread : w.thread = .running node)
    (hFace : ¬ (node.evt = .regFaceImage ∧ w.state = .prepareSnapshot)) :
    (w.process h r node).unanswered.Perm w.unanswered ∧
      ((w.process h r node).preparing.isSome = true ↔
        (w.process h r node).state = .prepareSnapshot) ∧
      (w.process h r node).thread.Ok := by
  have hNode := hQueued.thread
  rw [hThread] at hNode
  rcases hNode with hApi | hEvt
  · obtain ⟨n, hn⟩ := Option.isSome_iff_exists.mp hApi.request
    have hPending : node.pending = some (n, node.evt) := by
      rw [SmNode.pending, hn]
      rfl
    have hCases := @Parent.stateMachine_api _ _ h r node.payload w.hal node.evt w.state hApi.evt
    rcases hCases with
      ⟨hAnswers, hState⟩ | ⟨hKind, hNot, hAnswers, hState⟩ | hLost
    · obtain ⟨result, hRequestApi, hEq⟩ := process_answered h r hAnswers
      rw [hEq, hn, if_neg nofun]
      refine ⟨?_, hQueued.preparing.trans hState.symm, rfl⟩
      simp only [unanswered, hThread, SmThread.pending, hPending, Answer.pending, Option.some_or,
        Option.map_some, hRequestApi]
      exact .rfl
    · have hNone : w.preparing = none := by
        rw [← Option.not_isSome_iff_eq_none, hQueued.preparing]
        exact hNot
      rw [process_silent h r hAnswers, if_pos ⟨hState, hNot⟩, hn]
      refine ⟨?_, iff_of_true rfl hState, trivial⟩
      simp only [unanswered, hThread, SmThread.pending, hPending, hNone, hKind]
      exact .rfl
    · exact absurd hLost hFace
  · have hPending : node.pending = none := by
      rw [SmNode.pending, hEvt.request]
      rfl
    have hCases := @Parent.stateMachine_backend _ _ h r node.payload w.hal node.evt w.state hEvt.evt
    rcases hCases with
      ⟨hAnswers, hState⟩ | ⟨hPrepared, hAnswers, hState⟩
    · rw [process_silent h r hAnswers, if_neg fun hBoth => hBoth.2 (hState.mp hBoth.1)]
      refine ⟨?_, hQueued.preparing.trans hState.symm, trivial⟩
      simp only [unanswered, hThread, SmThread.pending, hPending]
      exact .rfl
    · obtain ⟨m, hm⟩ := Option.isSome_iff_exists.mp (hQueued.preparing.mpr hPrepared)
      obtain ⟨result, hRequestApi, hEq⟩ := process_answered h r hAnswers
      rw [hEq, hEvt.request, if_pos rfl, hm]
      refine ⟨?_, iff_of_false nofun hState, rfl⟩
      simp only [unanswered, hThread, SmThread.pending, hPending, hm, Answer.pending,
        Option.none_or, Option.map_some, hRequestApi]
      exact .rfl

/-- Nobody sends without waiting, callers do not ask for the same at the same time, and no face
image is registered while a snapshot is prepared. -/
def KeepsAnswers (w : HalCalls σ) : Input σ ρ → Prop
  | .processAPI _ evt _ => ∀ c n, (w.callers c).request ≠ some (n, evt)
  | .sendUnawaited _ => False
  | .process _ => ∀ node, w.thread = .running node →
      ¬ (node.evt = .regFaceImage ∧ w.state = .prepareSnapshot)
  | _ => True

theorem Paired.next (hPaired : Paired w) (hQueued : Queued w) {h : Parent σ ρ} {i : Input σ ρ}
    (hKeeps : w.KeepsAnswers i) (hStep : w.step h i = some w') : Paired w' := by
  cases i with
  | lockAPI c =>
    simp only [step] at hStep
    split at hStep
    · rename_i hFree
      cases hStep
      exact hPaired.lockAPI hFree.1 hFree.2
    · cases hStep
  | processAPI c evt payload =>
    simp only [step] at hStep
    split at hStep
    · rename_i hHolding
      cases hStep
      exact hPaired.processAPI hHolding.1 hKeeps
    · cases hStep
  | condWait c =>
    simp only [step] at hStep
    split at hStep
    · rename_i n evt hSent
      cases hStep
      exact hPaired.condWait hSent
    · cases hStep
  | wakeSpuriously c =>
    simp only [step] at hStep
    split at hStep
    · rename_i n evt hAwaiting
      cases hStep
      exact hPaired.wakeSpuriously hAwaiting
    · cases hStep
  | collect c =>
    simp only [step] at hStep
    split at hStep
    · rename_i n evt hWoken
      split at hStep
      · rename_i hLock
        cases hStep
        rw [collectResult]
        split
        · rename_i hNone
          exact hPaired.collectNone hWoken hNone hLock
        · rename_i answer hFound
          exact hPaired.collectSome hWoken hFound hLock
      · cases hStep
    · cases hStep
  | unlockAPI c =>
    simp only [step] at hStep
    split at hStep
    · rename_i hHolding
      cases hStep
      exact hPaired.unlockAPI hHolding
    · cases hStep
  | sendUnawaited evt => exact absurd hKeeps not_false
  | processEvt evt payload =>
    simp only [step] at hStep
    split at hStep
    · cases hStep
      exact hPaired.move rfl rfl rfl rfl rfl rfl .rfl
    · cases hStep
  | post =>
    simp only [step] at hStep
    split at hStep
    · cases hStep
      exact hPaired.move rfl rfl rfl rfl rfl rfl .rfl
    · cases hStep
  | semWait =>
    simp only [step] at hStep
    split at hStep
    · rename_i hThread
      split at hStep
      · cases hStep
        refine hPaired.move rfl rfl rfl rfl rfl rfl ?_
        rw [unanswered, unanswered, hThread]
        exact .rfl
      · cases hStep
    · cases hStep
  | dequeue =>
    simp only [step] at hStep
    split at hStep
    · rename_i hThread
      split at hStep
      · rename_i _ node rest hQueue
        cases hStep
        exact hPaired.move rfl rfl rfl rfl rfl rfl (unanswered_dequeue_api hThread hQueue)
      · rename_i node rest hNoApi hQueue
        cases hStep
        have hNode := hQueued.evtNodes node (hQueue ▸ List.mem_cons_self)
        refine hPaired.move rfl rfl rfl rfl rfl rfl ?_
        rw [unanswered_dequeue_evt hThread hNode.request]
      · cases hStep
        refine hPaired.move rfl rfl rfl rfl rfl rfl ?_
        rw [unanswered, unanswered, hThread]
        exact .rfl
    · cases hStep
  | process r =>
    simp only [step] at hStep
    split at hStep
    · rename_i node hThread
      cases hStep
      have hMoved := (unanswered_process h r hQueued hThread (hKeeps node hThread)).1
      have hSame : (w.process h r node).callers = w.callers ∧
          (w.process h r node).apiResultList = w.apiResultList ∧
          (w.process h r node).mLock = w.mLock ∧
          (w.process h r node).nextRequest = w.nextRequest ∧
          (w.process h r node).answered = w.answered ∧
          (w.process h r node).returned = w.returned := by
        rw [process]
        split <;> exact ⟨rfl, rfl, rfl, rfl, rfl, rfl⟩
      obtain ⟨hCallers, hList, hLock, hNext, hAnswered, hReturned⟩ := hSame
      exact hPaired.move hCallers hList hLock hNext hAnswered hReturned hMoved
    · cases hStep
  | signal =>
    simp only [step] at hStep
    split at hStep
    · rename_i answer hThread
      split at hStep
      · rename_i hLock
        cases hStep
        have hRequest := hQueued.thread
        rw [hThread] at hRequest
        exact hPaired.signal hThread hRequest hLock
      · cases hStep
    · cases hStep
  | changeHal hal =>
    cases hStep
    exact hPaired.move rfl rfl rfl rfl rfl rfl .rfl

theorem Queued.congr (h : Queued w) (hPreparing : w'.preparing = w.preparing)
    (hState : w'.state = w.state) (hApi : w'.apiQueue = w.apiQueue)
    (hEvt : w'.evtQueue = w.evtQueue) (hThread : w'.thread = w.thread)
    (hUnposted : w'.unposted = w.unposted) (hSem : w'.cmdSem = w.cmdSem) : Queued w' where
  preparing := by rw [hPreparing, hState]; exact h.preparing
  apiNodes := hApi ▸ h.apiNodes
  evtNodes := hEvt ▸ h.evtNodes
  thread := hThread ▸ h.thread
  posted := by rw [hUnposted, hSem, hThread, hApi, hEvt]; exact h.posted

theorem Queued.procAPI (h : Queued w) {evt : SmEvt} {payload : SmPayload}
    (hApi : evt.isApi = true) : Queued (w.procAPI evt payload) where
  preparing := h.preparing
  apiNodes := fun node hMem => by
    rcases List.mem_append.mp hMem with hOld | hNew
    · exact h.apiNodes node hOld
    · rw [List.mem_singleton.mp hNew]
      exact ⟨rfl, hApi⟩
  evtNodes := h.evtNodes
  thread := h.thread
  posted := by
    have hPosted := h.posted
    simp only [HalCalls.procAPI, List.length_append, List.length_singleton]
    omega

theorem Queued.procEvt (h : Queued w) {evt : SmEvt} {payload : SmPayload}
    (hBackend : evt.isBackend = true) : Queued (w.procEvt evt payload) where
  preparing := h.preparing
  apiNodes := h.apiNodes
  evtNodes := fun node hMem => by
    rcases List.mem_append.mp hMem with hOld | hNew
    · exact h.evtNodes node hOld
    · rw [List.mem_singleton.mp hNew]
      exact ⟨rfl, hBackend⟩
  thread := h.thread
  posted := by
    have hPosted := h.posted
    simp only [HalCalls.procEvt, List.length_append, List.length_singleton]
    omega

theorem Queued.process (hQueued : Queued w) (h : Parent σ ρ) (r : ρ) {node : SmNode}
    (hThread : w.thread = .running node)
    (hFace : ¬ (node.evt = .regFaceImage ∧ w.state = .prepareSnapshot)) :
    Queued (w.process h r node) := by
  obtain ⟨-, hPreparing, hOk⟩ := unanswered_process h r hQueued hThread hFace
  have hPosted := hQueued.posted
  rw [hThread] at hPosted
  have hSame : (w.process h r node).apiQueue = w.apiQueue ∧
      (w.process h r node).evtQueue = w.evtQueue ∧
      (w.process h r node).unposted = w.unposted ∧
      (w.process h r node).cmdSem = w.cmdSem ∧ (w.process h r node).thread.isNotified = 0 := by
    rw [HalCalls.process]
    split <;> exact ⟨rfl, rfl, rfl, rfl, rfl⟩
  obtain ⟨hApi, hEvt, hUnposted, hSem, hNotified⟩ := hSame
  exact {
    preparing := hPreparing
    apiNodes := hApi ▸ hQueued.apiNodes
    evtNodes := hEvt ▸ hQueued.evtNodes
    thread := hOk
    posted := by rw [hApi, hEvt, hUnposted, hSem, hNotified]; exact hPosted }

theorem Queued.next (hQueued : Queued w) {h : Parent σ ρ} {i : Input σ ρ}
    (hKeeps : w.KeepsAnswers i) (hStep : w.step h i = some w') : Queued w' := by
  cases i with
  | lockAPI c | unlockAPI c =>
    simp only [step] at hStep
    split at hStep
    · cases hStep
      exact hQueued.congr rfl rfl rfl rfl rfl rfl rfl
    · cases hStep
  | processAPI c evt payload =>
    simp only [step] at hStep
    split at hStep
    · rename_i hHolding
      cases hStep
      exact (hQueued.procAPI hHolding.2).congr rfl rfl rfl rfl rfl rfl rfl
    · cases hStep
  | condWait c | wakeSpuriously c =>
    simp only [step] at hStep
    split at hStep
    · cases hStep
      exact hQueued.congr rfl rfl rfl rfl rfl rfl rfl
    · cases hStep
  | collect c =>
    simp only [step] at hStep
    split at hStep
    · split at hStep
      · cases hStep
        rw [collectResult]
        split <;> exact hQueued.congr rfl rfl rfl rfl rfl rfl rfl
      · cases hStep
    · cases hStep
  | sendUnawaited evt => exact absurd hKeeps not_false
  | processEvt evt payload =>
    simp only [step] at hStep
    split at hStep
    · rename_i hBackend
      cases hStep
      exact hQueued.procEvt hBackend
    · cases hStep
  | post =>
    simp only [step] at hStep
    split at hStep
    · rename_i hSome
      cases hStep
      have hPosted := hQueued.posted
      exact { hQueued with posted := by dsimp only; omega }
    · cases hStep
  | semWait =>
    simp only [step] at hStep
    split at hStep
    · rename_i hThread
      split at hStep
      · rename_i hSome
        cases hStep
        have hPosted := hQueued.posted
        rw [hThread] at hPosted
        simp only [SmThread.isNotified] at hPosted
        exact { hQueued with
          thread := trivial
          posted := by dsimp only [SmThread.isNotified]; omega }
      · cases hStep
    · cases hStep
  | dequeue =>
    simp only [step] at hStep
    split at hStep
    · rename_i hThread
      have hPosted := hQueued.posted
      rw [hThread] at hPosted
      simp only [SmThread.isNotified] at hPosted
      split at hStep
      · rename_i _ node rest hQueue
        cases hStep
        rw [hQueue, List.length_cons] at hPosted
        exact { hQueued with
          apiNodes := fun other hMem =>
            hQueued.apiNodes other (hQueue ▸ List.mem_cons_of_mem _ hMem)
          thread := .inl (hQueued.apiNodes node (hQueue ▸ List.mem_cons_self))
          posted := by dsimp only [SmThread.isNotified]; omega }
      · rename_i node rest hNoApi hQueue
        cases hStep
        rw [hQueue, List.length_cons] at hPosted
        exact { hQueued with
          evtNodes := fun other hMem =>
            hQueued.evtNodes other (hQueue ▸ List.mem_cons_of_mem _ hMem)
          thread := .inr (hQueued.evtNodes node (hQueue ▸ List.mem_cons_self))
          posted := by dsimp only [SmThread.isNotified]; omega }
      · rename_i hNoApi hNoEvt
        rw [hNoApi, hNoEvt] at hPosted
        cases hPosted
    · cases hStep
  | process r =>
    simp only [step] at hStep
    split at hStep
    · rename_i node hThread
      cases hStep
      exact hQueued.process h r hThread (hKeeps node hThread)
    · cases hStep
  | signal =>
    simp only [step] at hStep
    split at hStep
    · rename_i answer hThread
      split at hStep
      · cases hStep
        have hPosted := hQueued.posted
        rw [hThread] at hPosted
        exact { hQueued with thread := trivial, posted := hPosted }
      · cases hStep
    · cases hStep
  | changeHal hal =>
    cases hStep
    exact hQueued.congr rfl rfl rfl rfl rfl rfl rfl

/-- Both queues are empty, the thread is idle and no snapshot is being prepared. -/
structure Quiet (w : HalCalls σ) : Prop where
  apiQueue : w.apiQueue = []
  evtQueue : w.evtQueue = []
  thread : w.thread = .waiting
  state : w.state ≠ .prepareSnapshot

/-- What the callers rely on. Every accepted request is answered at most once, and exactly once when
the machine is quiet; then nobody waits without its result, and when all have taken theirs, the list
is empty. -/
structure Answered (w : HalCalls σ) : Prop where
  own : ∀ n answer, (n, answer) ∈ w.returned → answer.request = some n
  once : w.answered.Nodup
  all : w.Quiet → w.answered.Perm (List.range w.nextRequest)
  awake : w.Quiet → ∀ c n evt, (w.callers c).request = some (n, evt) →
    w.callers c = .woken n evt ∧
      ∃ answer ∈ w.apiResultList, answer.request = some n ∧ answer.result.requestApi = evt
  empty : w.Quiet → (∀ c n evt, w.callers c ≠ .woken n evt) → w.apiResultList = []
  served : w.apiQueue ≠ [] → w.thread = .waiting → 0 < w.unposted + w.cmdSem

theorem Quiet.unanswered (hQuiet : Quiet w) (hQueued : Queued w) : w.unanswered = [] := by
  have hNone : w.preparing = none := by
    rw [← Option.not_isSome_iff_eq_none, hQueued.preparing]
    exact hQuiet.state
  rw [HalCalls.unanswered, hQuiet.apiQueue, hQuiet.thread, hNone]
  rfl

theorem Paired.answered_of (h : Paired w) (hQueued : Queued w) : Answered w where
  own := fun n answer hMem => h.returned (n, answer) hMem
  once := (List.nodup_append.mp (h.answered.nodup_iff.mpr List.nodup_range)).2.1
  all := fun hQuiet => by
    have hAnswered := h.answered
    rwa [hQuiet.unanswered hQueued, List.map_nil, List.nil_append] at hAnswered
  awake := fun hQuiet c n evt hRequest => by
    have hMem := (h.requests (n, evt)).mpr ⟨c, hRequest⟩
    rw [outstanding, hQuiet.unanswered hQueued, List.nil_append] at hMem
    refine ⟨?_, mem_uncollected.mp hMem⟩
    cases hCaller : w.callers c with
    | out | holding =>
      rw [hCaller] at hRequest
      cases hRequest
    | sent m kind | awaiting m kind =>
      rw [hCaller] at hRequest
      cases hRequest
      exact absurd hMem (h.asleep c _ (by rw [hCaller]; rfl))
    | woken m kind =>
      rw [hCaller] at hRequest
      cases hRequest
      rfl
  empty := fun hQuiet hNone => by
    rw [List.eq_nil_iff_forall_not_mem]
    intro answer hMem
    obtain ⟨n, hn⟩ := Option.isSome_iff_exists.mp (h.answers answer hMem)
    have hUncollected : (n, answer.result.requestApi) ∈ w.uncollected :=
      mem_uncollected.mpr ⟨answer, hMem, hn, rfl⟩
    obtain ⟨c, hRequest⟩ := (h.requests _).mp (List.mem_append_right _ hUncollected)
    cases hCaller : w.callers c with
    | out | holding =>
      rw [hCaller] at hRequest
      cases hRequest
    | sent m kind | awaiting m kind =>
      rw [hCaller] at hRequest
      cases hRequest
      exact absurd hUncollected (h.asleep c _ (by rw [hCaller]; rfl))
    | woken m kind => exact hNone c m kind hCaller
  served := fun hSome hWaiting => by
    have hPosted := hQueued.posted
    have hLength := List.length_pos_iff.mpr hSome
    rw [hWaiting] at hPosted
    simp only [SmThread.isNotified] at hPosted
    omega

/-- Nothing has been asked yet. -/
def start (hal : σ) (state : SmState) : HalCalls σ := { hal := hal, state := state }

theorem start_paired (hal : σ) (state : SmState) : Paired (start hal state) where
  requests := by
    intro x
    refine iff_of_false List.not_mem_nil ?_
    rintro ⟨c, hc⟩
    cases hc
  kinds := List.nodup_nil
  own := by
    intro c c' x x' hx
    cases hx
  asleep := by
    intro c x hx
    cases hx
  locked := by
    intro c hHas
    exact hHas.elim
  answers := by
    intro answer hMem
    cases hMem
  answered := List.Perm.nil
  returned := by
    intro x hMem
    cases hMem

theorem start_queued (hal : σ) {state : SmState} (hState : state ≠ .prepareSnapshot) :
    Queued (start hal state) where
  preparing := iff_of_false (Bool.noConfusion : ¬ (none : Option Nat).isSome = true) hState
  apiNodes := by
    intro node hMem
    cases hMem
  evtNodes := by
    intro node hMem
    cases hMem
  thread := trivial
  posted := rfl

/-- In every run that keeps the answers apart, whatever the hardware interface answers, each caller
gets the result of its own request, and each request gets one. -/
theorem answered_of_run {h : Parent σ ρ} {hal : σ} {state : SmState}
    (hState : state ≠ .prepareSnapshot) {is : List (Input σ ρ)} {os : List Unit}
    (run : Lib.Steps (Next h) (fun _ _ w i _ => w.KeepsAnswers i) (start hal state) is os w) :
    Answered w := by
  have hBoth : Paired w ∧ Queued w := by
    refine run.invariant (I := fun w => Paired w ∧ Queued w) ⟨start_paired hal state, start_queued hal hState⟩ ?_
    intro _ _ _ _ _ _ hKeeps hBoth hStep
    exact ⟨hBoth.1.next hBoth.2 hKeeps hStep, hBoth.2.next hKeeps hStep⟩
  exact hBoth.1.answered_of hBoth.2

/-- A hardware interface on which everything succeeds. -/
def idleParent : Parent Unit Unit where
  plain _ _ _ s := (s, noError)
  msgTypeEnabled _ _ := 0
  getParameters _ s := (s, 0)
  registerFaceImage _ _ s := (s, noError, 0)
  updateParameters _ _ s := (s, noError, false)
  clearMemoryPool s := s
  previewWindow _ := true
  preparePreview _ _ s := (s, noError)
  unpreparePreview s := s
  startPreview _ s := (s, noError)
  stopPreview s := (s, noError)
  startRecording _ _ s := (s, noError)
  stopRecording s := (s, noError)
  prepareHardwareForSnapshot _ s := (s, noError)
  takePicture _ s := (s, noError)
  takeLiveSnapshot _ s := (s, noError)
  cancelPicture s := (s, noError)
  cancelLiveSnapshot s := (s, noError)
  longShot _ s := (s, noError)
  sendCommand _ _ _ s := (s, noError, false)
  stopChannel _ s := s
  stopCaptureChannel _ s := (s, noError)
  isZSLMode _ := false
  isLongshotEnabled _ := false
  recordingHint _ := false
  updateRecordingHintValue _ _ s := s
  isPreviewRestartEnabled _ := false
  isShutterPlayed _ := false
  setPreviewStarted s := s

theorem answered_of_run_startPreview : ∃ w : HalCalls Unit,
    w.returned = [(0, ⟨some 0, { status := noError, requestApi := .startPreview }⟩)] ∧
      Answered w := by
  have hAlone : ∀ c x, (Function.update (fun _ => Caller.out) 0 .holding c).request ≠ some x := by
    intro c x hRequest
    by_cases hSame : c = 0
    · rw [hSame] at hRequest
      cases hRequest
    · rw [Function.update_of_ne hSame] at hRequest
      cases hRequest
  have locked : Lib.Steps (Next idleParent) (fun _ _ w i _ => w.KeepsAnswers i)
      (start () .previewStopped) _ _ _ :=
    .step .start trivial (i := Input.lockAPI 0) (o := []) rfl
  have sent : Lib.Steps (Next idleParent) (fun _ _ w i _ => w.KeepsAnswers i)
      (start () .previewStopped) _ _ _ :=
    locked.step (fun c n => hAlone c (n, .startPreview))
      (i := Input.processAPI 0 .startPreview {}) (o := []) rfl
  have waits : Lib.Steps (Next idleParent) (fun _ _ w i _ => w.KeepsAnswers i)
      (start () .previewStopped) _ _ _ :=
    sent.step trivial (i := Input.condWait 0) (o := []) rfl
  have posted : Lib.Steps (Next idleParent) (fun _ _ w i _ => w.KeepsAnswers i)
      (start () .previewStopped) _ _ _ :=
    waits.step trivial (i := Input.post) (o := []) rfl
  have notified : Lib.Steps (Next idleParent) (fun _ _ w i _ => w.KeepsAnswers i)
      (start () .previewStopped) _ _ _ :=
    posted.step trivial (i := Input.semWait) (o := []) rfl
  have running : Lib.Steps (Next idleParent) (fun _ _ w i _ => w.KeepsAnswers i)
      (start () .previewStopped) _ _ _ :=
    notified.step trivial (i := Input.dequeue) (o := []) rfl
  have processed : Lib.Steps (Next idleParent) (fun _ _ w i _ => w.KeepsAnswers i)
      (start () .previewStopped) _ _ _ :=
    running.step (fun node hNode hBoth => by cases hNode; cases hBoth.1)
      (i := Input.process ()) (o := []) rfl
  have signalled : Lib.Steps (Next idleParent) (fun _ _ w i _ => w.KeepsAnswers i)
      (start () .previewStopped) _ _ _ :=
    processed.step trivial (i := Input.signal) (o := []) rfl
  have run : Lib.Steps (Next idleParent) (fun _ _ w i _ => w.KeepsAnswers i)
      (start () .previewStopped) _ _ _ :=
    signalled.step trivial (i := Input.collect 0) (o := []) rfl
  exact ⟨_, rfl, answered_of_run (by decide) run⟩

/-- The answer to the request of `checkIntPicPending`, for which nobody waits, is returned to the
next caller that starts the preview. -/
theorem stale_answer_returned : ∃ w : HalCalls Unit,
    Lib.Steps (Next idleParent) Lib.anyStep (start () .previewStopped)
      [.sendUnawaited .startPreview, .post, .semWait, .dequeue, .process (), .signal,
        .lockAPI 0, .processAPI 0 .startPreview {}, .condWait 0, .post, .semWait, .dequeue,
        .process (), .signal, .collect 0, .unlockAPI 0] [] w ∧
    w.returned = [(1, ⟨some 0, { status := noError, requestApi := .startPreview }⟩)] ∧
    w.Quiet ∧ w.apiResultList ≠ [] := by
  have run : Lib.Steps (Next idleParent) Lib.anyStep (start () .previewStopped)
      [.sendUnawaited .startPreview, .post, .semWait, .dequeue, .process (), .signal,
        .lockAPI 0, .processAPI 0 .startPreview {}, .condWait 0, .post, .semWait, .dequeue,
        .process (), .signal, .collect 0, .unlockAPI 0] _ _ :=
    Lib.Steps.of_exec (Next idleParent) Lib.anyStep
      (f := fun _ _ w i => (w.step idleParent i).map fun w' => (w', []))
      (fun _ _ _ _ w w' o h => by
        obtain ⟨_, hStep, hEq⟩ := Option.map_eq_some_iff.mp h
        cases hEq
        exact ⟨hStep, trivial⟩) rfl
  exact ⟨_, run, rfl, ⟨rfl, rfl, rfl, nofun⟩, nofun⟩

end HalCalls

end KiwiDevice.Hal

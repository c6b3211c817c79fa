import KiwiDevice.Gps.DsClient

/-!
# What an opened call leaves

The call succeeds where a profile for emergency calls and a data handle were obtained, and leaves
nothing else, exactly if no step fails between what it obtains and the release of that.
-/

namespace KiwiDevice.Gps.DsClient

variable {w : CtrlPointAnswers} {a : OpenAnswers} {args : OpenArgs} {o events : List DsEvent}
  {settings : Nat → SyncResponse WdsSettings} {profiles : List WdsProfile} {p : WdsProfile}
  {s : WdsSettings} {rc : DsStatus} {r : OpenResult}

/-- The response arrived and reports no error. -/
def Got {α : Type} (r : SyncResponse α) : Prop := r.sent = true ∧ r.error = 0

def settingsOf (o : List DsEvent) : List (WdsProfile × WdsSettings) :=
  o.filterMap fun
    | .settings p s => some (p, s)
    | _ => none

/-- The first profile of the list for emergency calls; the settings of all up to it
were obtained. -/
def FirstEmergency (o : List DsEvent) (p : WdsProfile) (s : WdsSettings) : Prop :=
  ∃ asked back, .profileList (asked.map Prod.fst ++ p :: back) ∈ o ∧ settingsOf o = asked ++ [(p, s)] ∧
    (∀ q ∈ asked, emergency q.2 = false) ∧ emergency s = true

structure OpensWell (args : OpenArgs) (r : OpenResult) : Prop where
  success_iff : r.ret = .success ↔
    (∃ p s, FirstEmergency r.events p s) ∧ ∃ h, .dataHandle h ∈ r.events
  outputs : r.ret = .success → ∃ p s h eventCb, FirstEmergency r.events p s ∧ .dataHandle h ∈ r.events ∧
    r.profileIndex = some p.profileIndex ∧ r.pdpType = some (pdpType s) ∧
    args.callback = some eventCb ∧ r.session = some ⟨some h, eventCb, args.cookie⟩
  clients : r.events.count .clientInit = r.events.count .clientRelease
  notifiers : r.events.count .notifierInit = r.events.count .notifierRelease
  clean : r.ret ≠ .success → r.session = none ∧ ∀ h, .dataHandle h ∉ r.events

/-- The pass finds no service and times out. -/
def Waits (r : LookupRetry) : Prop := r.first.ok = false ∧ r.timedOut = true

/-- The pass finds a service, at once or after a signal. -/
def Finds (r : LookupRetry) : Prop :=
  r.first.ok = true ∧ r.first.numServices ≠ 0 ∨
    r.first.ok = false ∧ r.timedOut = false ∧ r.second.ok = true ∧ r.second.numServices ≠ 0

/-- Within `n` passes from pass `k` on one finds a service, and those before it time out. -/
def RetriesFind (retry : Nat → LookupRetry) (k n : Nat) : Prop :=
  ∃ j < n, (∀ i < j, Waits (retry (k + i))) ∧ Finds (retry (k + j))

/-- The service is found and the client made. -/
structure ClientObtained (w : CtrlPointAnswers) : Prop where
  serviceObject : w.serviceObject = true
  found : w.lookup.ok = true ∧ w.lookup.numServices ≠ 0 ∨
    w.lookup.ok = false ∧ w.notifierInit = true ∧ RetriesFind w.retry 0 lookupPasses
  infoMalloc : w.infoMalloc = true
  serviceList : w.serviceList = true
  clientInit : w.clientInit = true

/-- The notifier is obtained. -/
def NotifierObtained (w : CtrlPointAnswers) : Prop :=
  w.serviceObject = true ∧ w.lookup.ok = false ∧ w.notifierInit = true

/-- The list that the loop goes through. -/
def profilesOf (a : OpenAnswers) : List WdsProfile := if a.requestCalloc then a.list.msg else []

/-- The settings of all profiles up to the first one for emergency calls, the first being
the `i`-th. -/
def SettingsGot (settings : Nat → SyncResponse WdsSettings) (i : Nat) (profiles : List WdsProfile) :
    Prop :=
  ∀ k < profiles.length, (∀ j < k, emergency (settings (i + j)).msg = false) → Got (settings (i + k))

def HasEmergency (settings : Nat → SyncResponse WdsSettings) (i : Nat)
    (profiles : List WdsProfile) : Prop :=
  ∃ k < profiles.length, emergency (settings (i + k)).msg = true

/-- With a client, no step fails before its release, and then the session gets a handle. -/
structure Searched (a : OpenAnswers) : Prop where
  listCalloc : a.listCalloc = true
  list : a.requestCalloc = true → Got a.list
  settingsCalloc : a.settingsCalloc = true
  settings : SettingsGot a.settings 0 (profilesOf a)
  session : HasEmergency a.settings 0 (profilesOf a) → a.sessionCalloc = true →
    a.dataHandle ≠ none ∧ a.clientRelease = true

/-- No step fails after which something is left. -/
inductive InOrder (args : OpenArgs) (a : OpenAnswers) : Prop where
  | badCall (h : args.callback = none ∨ args.clientHandle = false)
  | noClient (h : ¬ ClientObtained a.wds) (hNotifier : ¬ NotifierObtained a.wds)
  | searched (h : ClientObtained a.wds) (hSearched : Searched a)

theorem sendQmiSyncReq_ok {α : Type} {r : SyncResponse α} (h : Got r) :
    sendQmiSyncReq r = .ok r.msg := by
  simp [sendQmiSyncReq, h.1, h.2]

theorem sendQmiSyncReq_error {α : Type} {r : SyncResponse α} (h : ¬ Got r) :
    ∃ rc, sendQmiSyncReq r = .error rc ∧ rc ≠ .success := by
  rw [sendQmiSyncReq]
  split
  · exact ⟨_, rfl, by decide⟩
  · rename_i hSent
    rw [if_pos]
    · exact ⟨_, rfl, by decide⟩
    · intro hError
      exact h ⟨by simpa using hSent, hError⟩

theorem retriesFind_succ {retry : Nat → LookupRetry} {k n : Nat} :
    RetriesFind retry k (n + 1) ↔
      Finds (retry k) ∨ Waits (retry k) ∧ RetriesFind retry (k + 1) n := by
  constructor
  · rintro ⟨j, hLt, hWaits, hFinds⟩
    cases j with
    | zero => exact .inl hFinds
    | succ j =>
      refine .inr ⟨hWaits 0 (Nat.succ_pos j), j, by omega, ?_, ?_⟩
      · intro i hi
        have hNext := hWaits (i + 1) (by omega)
        rwa [Nat.add_comm i, ← Nat.add_assoc] at hNext
      · rwa [Nat.add_comm j, ← Nat.add_assoc] at hFinds
  · rintro (hFinds | ⟨hNow, j, hLt, hWaits, hFinds⟩)
    · exact ⟨0, Nat.succ_pos n, nofun, hFinds⟩
    · refine ⟨j + 1, by omega, ?_, ?_⟩
      · intro i hi
        cases i with
        | zero => exact hNow
        | succ i =>
          have hNext := hWaits i (by omega)
          rwa [Nat.add_assoc, Nat.add_comm 1] at hNext
      · rwa [Nat.add_assoc, Nat.add_comm 1] at hFinds

/-- Ten passes are enough for the loop, and it ends with a service where one of them finds it. -/
theorem lookupLoop_spec (retry : Nat → LookupRetry) {n : Nat} (k timeout : Nat) (noSignal : Bool)
    (hn : 0 < n)
    (hTimeout : timeout + n * dsClientServiceTimeout = dsClientServiceTimeoutTotal) :
    ∃ found last, lookupLoop retry n k timeout noSignal = some (found, last) ∧
      (found.ok = true ∧ found.numServices ≠ 0 ↔ RetriesFind retry k n) := by
  induction n generalizing k timeout noSignal with
  | zero => omega
  | succ n ih =>
    rw [lookupLoop, retriesFind_succ]
    cases hFirst : (retry k).first.ok with
    | true =>
      simp [lookupPass, hFirst, Finds, Waits]
    | false =>
      cases hTimedOut : (retry k).timedOut with
      | false => simp [lookupPass, hFirst, hTimedOut, Finds, Waits]
      | true =>
        have hPass : lookupPass (retry k) noSignal = ((retry k).first, true) := by
          simp [lookupPass, hFirst, hTimedOut]
        have hNot : ¬ Finds (retry k) := by simp [Finds, hFirst, hTimedOut]
        have hWaits : Waits (retry k) := ⟨hFirst, hTimedOut⟩
        simp only [hPass, hFirst, hNot, hWaits, false_or, true_and, and_true]
        cases n with
        | zero =>
          rw [if_neg (by omega)]
          refine ⟨_, _, rfl, ?_⟩
          simp [hFirst, RetriesFind]
        | succ n =>
          rw [if_pos (by simp only [dsClientServiceTimeout, dsClientServiceTimeoutTotal] at hTimeout ⊢; omega)]
          exact ih _ _ _ (Nat.succ_pos n) (by rw [← hTimeout, Nat.succ_mul (n + 1)]; omega)

/-- What the client's initialisation has logged when it succeeds. -/
def initEvents (notifier : Bool) : List DsEvent :=
  if notifier then [.notifierInit, .clientInit, .notifierRelease] else [.clientInit]

theorem initClient_cases (found : ServiceLookup) (noSignal notifier : Bool) :
    ((found.ok = true ∧ found.numServices ≠ 0) ∧ w.infoMalloc = true ∧ w.serviceList = true ∧
        w.clientInit = true ∧ initClient w found noSignal notifier =
          (.success, .clientInit :: if notifier then [.notifierRelease] else [])) ∨
      (¬ ((found.ok = true ∧ found.numServices ≠ 0) ∧ w.infoMalloc = true ∧ w.serviceList = true ∧
        w.clientInit = true) ∧ ∃ rc, rc ≠ .success ∧ initClient w found noSignal notifier = (rc, [])) := by
  by_cases hFound : found.numServices = 0 ∨ found.ok = false
  · right
    refine ⟨by grind, _, ?_, by rw [initClient, if_pos hFound]⟩
    cases noSignal <;> decide
  · by_cases hRest : w.infoMalloc = true ∧ w.serviceList = true ∧ w.clientInit = true
    · left
      obtain ⟨hMalloc, hList, hInit⟩ := hRest
      refine ⟨by grind, hMalloc, hList, hInit, ?_⟩
      simp [initClient, hFound, hMalloc, hList, hInit]
    · right
      refine ⟨by grind, .failureInternal, by decide, ?_⟩
      rw [initClient, if_neg hFound]
      grind

/-- The three ways in which the client's initialisation ends. -/
inductive CtrlPointEnds (w : CtrlPointAnswers) : DsStatus → List DsEvent → Prop where
  | obtained (notifier : Bool) (h : ClientObtained w) : CtrlPointEnds w .success (initEvents notifier)
  | nothing {rc : DsStatus} (hFailed : rc ≠ .success) (h : ¬ ClientObtained w)
      (hNotifier : ¬ NotifierObtained w) : CtrlPointEnds w rc []
  | notifier {rc : DsStatus} (hFailed : rc ≠ .success) (h : ¬ ClientObtained w)
      (hNotifier : NotifierObtained w) : CtrlPointEnds w rc [.notifierInit]

theorem qmiCtrlPointInit_ends (w : CtrlPointAnswers) :
    ∃ rc events, qmiCtrlPointInit w = some (rc, events) ∧ CtrlPointEnds w rc events := by
  rw [qmiCtrlPointInit]
  split
  · rename_i hObject
    exact ⟨_, _, rfl, .nothing (by decide) (fun h => by simp [h.serviceObject] at hObject)
      (fun h => by simp [h.1] at hObject)⟩
  · rename_i hObject
    rw [Bool.not_eq_false] at hObject
    split
    · rename_i hLookup
      have hNotifier : ¬ NotifierObtained w := fun h => by simp [h.2.1] at hLookup
      rcases initClient_cases (w := w) w.lookup false false with
        ⟨hFound, hMalloc, hList, hInit, hEnd⟩ | ⟨hNot, rc, hFailed, hEnd⟩
      · exact ⟨_, _, congrArg some hEnd, .obtained false ⟨hObject, .inl hFound, hMalloc, hList, hInit⟩⟩
      · refine ⟨_, _, congrArg some hEnd, .nothing hFailed ?_ hNotifier⟩
        intro h
        exact hNot ⟨by simpa [hLookup] using h.found, h.infoMalloc, h.serviceList, h.clientInit⟩
    · rename_i hLookup
      rw [Bool.not_eq_true] at hLookup
      split
      · rename_i hInit
        refine ⟨_, _, rfl, .nothing (by decide) ?_ ?_⟩
        · intro h
          simpa [hLookup, hInit] using h.found
        · intro h
          simp [h.2.2] at hInit
      · rename_i hInit
        rw [Bool.not_eq_false] at hInit
        obtain ⟨found, last, hLoop, hFinds⟩ := lookupLoop_spec w.retry (n := lookupPasses) 0 0 false
          (by decide) rfl
        simp only [hLoop]
        rcases initClient_cases (w := w) found last true with
          ⟨hFound, hMalloc, hList, hClient, hEnd⟩ | ⟨hNot, rc, hFailed, hEnd⟩
        · rw [hEnd]
          exact ⟨_, _, rfl, .obtained true
            ⟨hObject, .inr ⟨hLookup, hInit, hFinds.mp hFound⟩, hMalloc, hList, hClient⟩⟩
        · rw [hEnd]
          refine ⟨_, _, rfl, .notifier hFailed ?_ ⟨hObject, hLookup, hInit⟩⟩
          intro h
          refine hNot ⟨hFinds.mpr ?_, h.infoMalloc, h.serviceList, h.clientInit⟩
          simpa [hLookup, hInit] using h.found

theorem settingsGot_cons {i : Nat} : SettingsGot settings i (p :: profiles) ↔
    Got (settings i) ∧
    (emergency (settings i).msg = false → SettingsGot settings (i + 1) profiles) := by
  constructor
  · intro h
    refine ⟨h 0 (Nat.succ_pos _) nofun, ?_⟩
    intro hFirst k hk hBefore
    have hNext := h (k + 1) (Nat.succ_lt_succ hk)
    rw [Nat.add_comm k, ← Nat.add_assoc] at hNext
    apply hNext
    intro j hj
    cases j with
    | zero => exact hFirst
    | succ j =>
      have hEarlier := hBefore j (by omega)
      rwa [Nat.add_assoc, Nat.add_comm 1] at hEarlier
  · rintro ⟨hFirst, hRest⟩ k hk hBefore
    cases k with
    | zero => exact hFirst
    | succ k =>
      have hNext := hRest (hBefore 0 (Nat.succ_pos k)) k (Nat.lt_of_succ_lt_succ hk)
      rw [Nat.add_assoc, Nat.add_comm 1] at hNext
      apply hNext
      intro j hj
      have hEarlier := hBefore (j + 1) (by omega)
      rwa [Nat.add_comm j, ← Nat.add_assoc] at hEarlier

theorem hasEmergency_cons {i : Nat} : HasEmergency settings i (p :: profiles) ↔
    emergency (settings i).msg = true ∨ HasEmergency settings (i + 1) profiles := by
  constructor
  · rintro ⟨k, hk, h⟩
    cases k with
    | zero => exact .inl h
    | succ k =>
      rw [Nat.add_comm k, ← Nat.add_assoc] at h
      exact .inr ⟨k, Nat.lt_of_succ_lt_succ hk, h⟩
  · rintro (h | ⟨k, hk, h⟩)
    · exact ⟨0, Nat.succ_pos _, h⟩
    · rw [Nat.add_assoc, Nat.add_comm 1] at h
      exact ⟨k + 1, Nat.succ_lt_succ hk, h⟩

def settingsEvents (asked : List (WdsProfile × WdsSettings)) : List DsEvent :=
  asked.map fun q => .settings q.1 q.2

/-- The three ways in which the loop over the profiles ends. -/
inductive SearchEnds (settings : Nat → SyncResponse WdsSettings) (i : Nat) (profiles : List WdsProfile) :
    ProfileSearch × List DsEvent → Prop where
  | failed (asked : List (WdsProfile × WdsSettings)) (rc : DsStatus) (hFailed : rc ≠ .success)
      (h : ¬ SettingsGot settings i profiles) :
      SearchEnds settings i profiles (.failed rc, settingsEvents asked)
  | missing (asked : List (WdsProfile × WdsSettings)) (h : SettingsGot settings i profiles)
      (hNone : ¬ HasEmergency settings i profiles) :
      SearchEnds settings i profiles (.missing, settingsEvents asked)
  | found (asked : List (WdsProfile × WdsSettings)) (p : WdsProfile) (s : WdsSettings)
      (back : List WdsProfile) (h : SettingsGot settings i profiles) (hSome : HasEmergency settings i profiles)
      (hList : profiles = asked.map Prod.fst ++ p :: back)
      (hAsked : ∀ q ∈ asked, emergency q.2 = false) (hEmergency : emergency s = true) :
      SearchEnds settings i profiles (.found p s, settingsEvents (asked ++ [(p, s)]))

theorem findProfile_ends (settings : Nat → SyncResponse WdsSettings) (i : Nat)
    (profiles : List WdsProfile) :
    SearchEnds settings i profiles (findProfile settings i profiles) := by
  induction profiles generalizing i with
  | nil => exact .missing [] nofun nofun
  | cons p profiles ih =>
    rw [findProfile]
    by_cases hGot : Got (settings i)
    · rw [sendQmiSyncReq_ok hGot]
      simp only
      cases hFirst : emergency (settings i).msg with
      | true =>
        exact .found [] p _ profiles (settingsGot_cons.mpr ⟨hGot, fun h => by simp [hFirst] at h⟩)
          (hasEmergency_cons.mpr (.inl hFirst)) rfl nofun hFirst
      | false =>
        rw [if_neg Bool.false_ne_true]
        generalize hRest : findProfile settings (i + 1) profiles = rest
        have hEnds := ih (i + 1)
        rw [hRest] at hEnds
        cases hEnds with
        | failed asked rc hFailed h =>
          exact .failed ((p, (settings i).msg) :: asked) rc hFailed
            fun hAll => h ((settingsGot_cons.mp hAll).2 hFirst)
        | missing asked h hNone =>
          refine .missing ((p, (settings i).msg) :: asked) (settingsGot_cons.mpr ⟨hGot, fun _ => h⟩) ?_
          intro hSome
          exact (hasEmergency_cons.mp hSome).elim (fun hNow => by simp [hFirst] at hNow) hNone
        | found asked q s back h hSome hList hAsked hEmergency =>
          exact .found ((p, (settings i).msg) :: asked) q s back
            (settingsGot_cons.mpr ⟨hGot, fun _ => h⟩) (hasEmergency_cons.mpr (.inr hSome))
            (congrArg (p :: ·) hList) (List.forall_mem_cons.mpr ⟨hFirst, hAsked⟩) hEmergency
    · obtain ⟨rc, hError, hFailed⟩ := sendQmiSyncReq_error hGot
      rw [hError]
      exact .failed [] rc hFailed fun hAll => hGot (settingsGot_cons.mp hAll).1

/-- The event obtains and releases nothing. -/
def Quiet : DsEvent → Prop
  | .profileList _ => True
  | .settings _ _ => True
  | _ => False

/-- A client has been obtained and not released; nothing else is held. -/
structure Held (o : List DsEvent) : Prop where
  obtained : o.count .clientInit = 1
  kept : o.count .clientRelease = 0
  notifiers : o.count .notifierInit = o.count .notifierRelease
  noHandle : ∀ h, .dataHandle h ∉ o

theorem held_init (notifier : Bool) : Held (initEvents notifier) := by
  cases notifier with
  | false => exact ⟨rfl, rfl, rfl, by simp [initEvents]⟩
  | true => exact ⟨rfl, rfl, rfl, by simp [initEvents]⟩

theorem count_of_quiet {e : DsEvent} (h : ∀ e ∈ o, Quiet e) (he : ¬ Quiet e) : o.count e = 0 :=
  List.count_eq_zero.mpr fun hMem => he (h e hMem)

theorem Held.append {o' : List DsEvent} (h : Held o) (hQuiet : ∀ e ∈ o', Quiet e) :
    Held (o ++ o') := by
  constructor
  · rw [List.count_append, h.obtained, count_of_quiet (e := .clientInit) hQuiet id]
  · rw [List.count_append, h.kept, count_of_quiet (e := .clientRelease) hQuiet id]
  · rw [List.count_append, List.count_append, h.notifiers,
      count_of_quiet (e := .notifierInit) hQuiet id, count_of_quiet (e := .notifierRelease) hQuiet id]
  · intro handle hMem
    exact (List.mem_append.mp hMem).elim (h.noHandle handle) (hQuiet _)

theorem quiet_settings (asked : List (WdsProfile × WdsSettings)) :
    ∀ e ∈ settingsEvents asked, Quiet e := by
  intro e he
  obtain ⟨q, -, rfl⟩ := List.mem_map.mp he
  trivial

theorem Held.leaks (h : Held o) : ¬ OpensWell args (fail rc o) := by
  intro hWell
  have hClients := hWell.clients
  simp [fail, h.obtained, h.kept] at hClients

/-- All that was obtained has been released, and there is no data handle. -/
structure Balanced (o : List DsEvent) : Prop where
  clients : o.count .clientInit = o.count .clientRelease
  notifiers : o.count .notifierInit = o.count .notifierRelease
  noHandle : ∀ h, .dataHandle h ∉ o

theorem Balanced.fail (h : Balanced o) (hFailed : rc ≠ .success) : OpensWell args (fail rc o) where
  success_iff := iff_of_false hFailed fun hOpened => hOpened.2.elim h.noHandle
  outputs hSuccess := absurd hSuccess hFailed
  clients := h.clients
  notifiers := h.notifiers
  clean _ := ⟨rfl, h.noHandle⟩

theorem Held.released (h : Held o) : Balanced (o ++ [.clientRelease]) where
  clients := by simp [List.count_append, h.obtained, h.kept]
  notifiers := by simp [List.count_append, h.notifiers]
  noHandle := by simp [h.noHandle]

theorem Balanced.snoc_dataHandle (h : Balanced o) (handle : Nat)
    (hEvents : events = o ++ [.dataHandle handle]) :
    events.count .clientInit = events.count .clientRelease ∧
      events.count .notifierInit = events.count .notifierRelease := by
  simp [hEvents, List.count_append, h.clients, h.notifiers]

theorem Held.openSession {eventCb : Nat} (h : Held o) (hCallback : args.callback = some eventCb)
    (hFirst : ∀ rest, settingsOf rest = [] → FirstEmergency (o ++ rest) p s) :
    OpensWell args (openSession args a eventCb p s (o ++ [.clientRelease])) ↔
      (a.sessionCalloc = true → a.dataHandle ≠ none ∧ a.clientRelease = true) := by
  have hBalanced := h.released
  rw [DsClient.openSession]
  cases hCalloc : a.sessionCalloc with
  | false =>
    refine iff_of_true ?_ nofun
    constructor
    · exact iff_of_false nofun fun hOpened => hOpened.2.elim hBalanced.noHandle
    · nofun
    · exact hBalanced.clients
    · exact hBalanced.notifiers
    · exact fun _ => ⟨rfl, hBalanced.noHandle⟩
  | true =>
    cases hData : a.dataHandle with
    | none =>
      refine iff_of_false ?_ (by simp)
      intro hWell
      cases (hWell.clean nofun).1
    | some handle =>
      cases hRelease : a.clientRelease with
      | false =>
        refine iff_of_false ?_ (by simp)
        intro hWell
        cases (hWell.clean nofun).1
      | true =>
        refine iff_of_true ?_ (by simp)
        have hEmergency : FirstEmergency (o ++ [.clientRelease] ++ [.dataHandle handle]) p s := by
          rw [List.append_assoc]
          exact hFirst _ rfl
        constructor
        · exact iff_of_true rfl ⟨⟨p, s, hEmergency⟩, handle, by simp⟩
        · exact fun _ => ⟨p, s, handle, eventCb, hEmergency, by simp, rfl, rfl, hCallback, rfl⟩
        · exact (hBalanced.snoc_dataHandle handle rfl).1
        · exact (hBalanced.snoc_dataHandle handle rfl).2
        · exact fun hFailed => absurd rfl hFailed

theorem settingsOf_append (o o' : List DsEvent) :
    settingsOf (o ++ o') = settingsOf o ++ settingsOf o' :=
  List.filterMap_append

theorem settingsOf_settingsEvents (asked : List (WdsProfile × WdsSettings)) :
    settingsOf (settingsEvents asked) = asked := by
  induction asked with
  | nil => rfl
  | cons q asked ih => exact congrArg (q :: ·) ih

theorem getProfileList_ok (h : a.requestCalloc = true → Got a.list) :
    ∃ listEvents, getProfileList a = .ok (profilesOf a, listEvents) ∧ (∀ e ∈ listEvents, Quiet e) ∧
      settingsOf listEvents = [] ∧
      (profilesOf a ≠ [] → .profileList (profilesOf a) ∈ listEvents) := by
  rw [getProfileList, profilesOf]
  cases hCalloc : a.requestCalloc with
  | false => exact ⟨[], rfl, nofun, rfl, fun hNe => absurd rfl hNe⟩
  | true =>
    refine ⟨[.profileList a.list.msg], ?_, ?_, rfl, ?_⟩
    · rw [sendQmiSyncReq_ok (h hCalloc)]
      rfl
    · simp [Quiet]
    · simp

theorem getProfileList_error (h : ¬ (a.requestCalloc = true → Got a.list)) :
    ∃ rc, getProfileList a = .error rc := by
  obtain ⟨hCalloc, hNot⟩ := Classical.not_imp.mp h
  obtain ⟨rc, hError, -⟩ := sendQmiSyncReq_error hNot
  exact ⟨rc, by simp [getProfileList, hCalloc, hError, Except.map]⟩

theorem searchProfiles_iff {eventCb : Nat} (notifier : Bool)
    (hCallback : args.callback = some eventCb) :
    OpensWell args (searchProfiles args a eventCb (initEvents notifier)) ↔ Searched a := by
  have hHeld := held_init notifier
  rw [searchProfiles]
  cases hListCalloc : a.listCalloc with
  | false => exact iff_of_false hHeld.leaks fun h => by simp [h.listCalloc] at hListCalloc
  | true =>
    by_cases hList : a.requestCalloc = true → Got a.list
    · obtain ⟨listEvents, hGot, hQuiet, hLogs, hLogged⟩ := getProfileList_ok hList
      rw [hGot]
      cases hSettingsCalloc : a.settingsCalloc with
      | false =>
        exact iff_of_false (hHeld.append hQuiet).leaks fun h => by simp [h.settingsCalloc] at hSettingsCalloc
      | true =>
        have hSearched : Searched a ↔ SettingsGot a.settings 0 (profilesOf a) ∧
            (HasEmergency a.settings 0 (profilesOf a) → a.sessionCalloc = true →
              a.dataHandle ≠ none ∧ a.clientRelease = true) :=
          ⟨fun h => ⟨h.settings, h.session⟩, fun h => ⟨hListCalloc, hList, hSettingsCalloc, h.1, h.2⟩⟩
        rw [hSearched]
        simp only
        generalize hResult : findProfile a.settings 0 (profilesOf a) = result
        have hEnds := findProfile_ends a.settings 0 (profilesOf a)
        rw [hResult] at hEnds
        have hAsked := fun asked => (hHeld.append hQuiet).append (quiet_settings asked)
        cases hEnds with
        | failed asked rc hFailed h => exact iff_of_false (hAsked asked).leaks fun hAll => h hAll.1
        | missing asked h hNone =>
          exact iff_of_true ((hAsked asked).released.fail nofun) ⟨h, fun hSome => absurd hSome hNone⟩
        | found asked p s back h hSome hProfiles hBefore hEmergency =>
          refine ((hAsked _).openSession hCallback ?_).trans
            ⟨fun hSession => ⟨h, fun _ => hSession⟩, fun hAll => hAll.2 hSome⟩
          intro rest hRest
          refine ⟨asked, back, ?_, ?_, hBefore, hEmergency⟩
          · rw [← hProfiles]
            have hMem := hLogged (by simp [hProfiles])
            simp [hMem]
          · have hInit : settingsOf (initEvents notifier) = [] := by cases notifier <;> rfl
            simp only [settingsOf_append, hInit, hLogs, hRest, settingsOf_settingsEvents, List.nil_append,
              List.append_nil]
    · obtain ⟨rc, hError⟩ := getProfileList_error hList
      rw [hError]
      exact iff_of_false hHeld.leaks fun h => hList h.list

/-- The call ends, and all holds of what it leaves exactly if its steps are in order. -/
theorem openCall_opensWell_iff (args : OpenArgs) (a : OpenAnswers) :
    ∃ r, openCall args a = some r ∧ (OpensWell args r ↔ InOrder args a) := by
  rw [openCall]
  cases hCallback : args.callback with
  | none =>
    refine ⟨_, rfl, iff_of_true (Balanced.fail ⟨rfl, rfl, nofun⟩ nofun) (.badCall (.inl hCallback))⟩
  | some eventCb =>
    cases hHandle : args.clientHandle with
    | false =>
      refine ⟨_, rfl, iff_of_true (Balanced.fail ⟨rfl, rfl, nofun⟩ nofun) (.badCall (.inr hHandle))⟩
    | true =>
      have hGoodCall : ¬ (args.callback = none ∨ args.clientHandle = false) := by simp [hCallback, hHandle]
      obtain ⟨rc, events, hInit, hEnds⟩ := qmiCtrlPointInit_ends a.wds
      simp only [hInit]
      cases hEnds with
      | obtained notifier h =>
        refine ⟨_, rfl, (searchProfiles_iff notifier hCallback).trans ⟨.searched h, ?_⟩⟩
        intro hOrder
        cases hOrder with
        | badCall hBad => exact absurd hBad hGoodCall
        | noClient hNone _ => exact absurd h hNone
        | searched _ hSearched => exact hSearched
      | nothing hFailed h hNotifier =>
        rw [if_neg (by decide), if_pos hFailed]
        exact ⟨_, rfl, iff_of_true (Balanced.fail ⟨rfl, rfl, nofun⟩ hFailed) (.noClient h hNotifier)⟩
      | notifier hFailed h hNotifier =>
        rw [if_neg (by decide), if_pos hFailed]
        refine ⟨_, rfl, iff_of_false ?_ ?_⟩
        · intro hWell
          cases hWell.notifiers
        · intro hOrder
          cases hOrder with
          | badCall hBad => exact hGoodCall hBad
          | noClient _ hNone => exact hNone hNotifier
          | searched hObtained _ => exact h hObtained

/-- All answers are good but that to the request for the profile list. -/
def listFails : OpenAnswers where
  wds :=
    { serviceObject := true
      lookup := ⟨true, 1⟩
      notifierInit := true
      retry := fun _ => ⟨⟨true, 1⟩, false, ⟨true, 1⟩⟩
      infoMalloc := true
      serviceList := true
      clientInit := true }
  listCalloc := true
  requestCalloc := true
  list := ⟨false, 0, []⟩
  settingsCalloc := true
  settings := fun _ => ⟨true, 0, ⟨true, true, true, .ipv4⟩⟩
  clientRelease := true
  sessionCalloc := true
  dataHandle := some 1

/-- Then the client is not released. -/
theorem client_not_released : ¬ ∀ args a, ∃ r, openCall args a = some r ∧ OpensWell args r := by
  intro h
  obtain ⟨r, hCall, hWell⟩ := h ⟨some 1, true, 0⟩ listFails
  have hClients := hWell.clients
  have hEnd : openCall ⟨some 1, true, 0⟩ listFails = some (fail .failureInternal [.clientInit]) := rfl
  rw [hEnd] at hCall
  cases hCall
  revert hClients
  decide

end KiwiDevice.Gps.DsClient

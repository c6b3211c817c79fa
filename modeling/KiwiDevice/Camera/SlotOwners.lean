import KiwiDevice.Camera.ChannelSlots

/-!
# One owner for each slot

A slot that is marked free before its deletion has ended may be taken too early. As long as this
does not happen, every handle stands for the slot that it was given.
-/

namespace KiwiDevice.Camera

namespace SlotClient

/-- The index of the slot that the client works on. -/
def use : SlotClient → Option Nat
  | adding i _ _ | deleting i _ _ _ => some i
  | finding hdl => some (Driver.indexByHandler hdl)
  | idle | scanning _ | leaving => none

def holdsCam : SlotClient → Bool
  | scanning _ | adding .. | finding _ | leaving => true
  | deleting _ _ _ .locking | deleting _ _ _ .handing => true
  | idle | deleting .. => false

end SlotClient

/-- Who a slot belongs to: a thread that works on it, or a thread by a handle. -/
inductive Keeper where
  | client (t : Nat)
  | handle (t : Nat) (c : Nat × ChannelParams)

namespace SlotWorld

variable {w w' : SlotWorld} {t t' hdl : Nat} {i : Fin channelMax} {p : ChannelParams}
  {x y : SlotClient} {s : ChannelSlot} {keeper : Nat → Option Keeper}

/-- No slot is taken while its deletion is under way, and every poll thread is launched. -/
def Patient (w : SlotWorld) : Input → Prop
  | .run t launched =>
    (∀ p i, w.clients t = .scanning p → w.freeSlot = some i →
      ∀ t' hdl taken stage, w.clients t' ≠ .deleting i hdl taken stage) ∧
    ∀ i p hdl, w.clients t = .adding i p (.launching hdl) → launched = true
  | _ => True

/-- The slot of a channel that was added and not changed since. -/
def added (c : Nat × ChannelParams) :
    ChannelSlot := { ChannelSlot.init c.1 c.2 with pollThread := true }

/-- The handle names a slot with the channel that was added. -/
def Holds (w : SlotWorld) (c : Nat × ChannelParams) : Prop :=
  c.1 ≠ 0 ∧ ∃ i : Fin channelMax, Driver.indexByHandler c.1 = i ∧ w.slots i = added c

/-- What the slot of a client holds. -/
def Content (w : SlotWorld) : SlotClient → Prop
  | .adding i _ .numbering => w.slots i = {}
  | .adding i _ (.initing hdl) => hdl ≠ 0 ∧ Driver.indexByHandler hdl = i ∧ w.slots i = {}
  | .adding i p (.launching hdl) =>
    hdl ≠ 0 ∧ Driver.indexByHandler hdl = i ∧ w.slots i = .init hdl p
  | .adding i p (.stopping hdl) | .adding i p (.unlocking hdl) =>
    hdl ≠ 0 ∧ Driver.indexByHandler hdl = i ∧ w.slots i = added (hdl, p)
  | .finding hdl => ∃ p, w.Holds (hdl, p)
  | .deleting i _ taken _ => w.takes i = taken
  | .idle | .scanning _ | .leaving => True

structure Sound (w : SlotWorld) (keeper : Nat → Option Keeper) : Prop where
  cam : ∀ t, (w.clients t).holdsCam = true → w.camLock = some t
  client : ∀ t k, (w.clients t).use = some k → keeper k = some (.client t)
  content : ∀ t, w.Content (w.clients t)
  handle : ∀ t, ∀ c ∈ w.owned t, keeper (Driver.indexByHandler c.1) = some (.handle t c)
  holds : ∀ t, ∀ c ∈ w.owned t, w.Holds c
  nodup : ∀ t, (w.owned t).Nodup
  placed : ∀ i, (w.slots i).channel.myHdl ≠ 0 →
    Driver.indexByHandler (w.slots i).channel.myHdl = i
  stray : w.stray = []

theorem setClient_same : (w.setClient t x).clients t = x := Function.update_self ..

theorem setClient_of_ne (h : t' ≠ t) : (w.setClient t x).clients t' = w.clients t' :=
  Function.update_of_ne h ..

theorem setSlot_same : (w.setSlot i s).slots i = s := Function.update_self ..

theorem setSlot_of_ne {j : Fin channelMax} (h : j ≠ i) : (w.setSlot i s).slots j = w.slots j :=
  Function.update_of_ne h ..

theorem Content.frame (h : w.Content x) (hUse : x.use ≠ some i.val)
    (hSlots : ∀ j, j ≠ i → w'.slots j = w.slots j) (hTakes : ∀ j, j ≠ i → w'.takes j = w.takes j) :
    w'.Content x := by
  have hNe : ∀ j : Fin channelMax, x.use = some j.val → j ≠ i := by
    rintro j hj rfl
    exact hUse hj
  cases x with
  | idle | scanning | leaving => trivial
  | adding j q stage =>
    have hSlot := hSlots j (hNe j rfl)
    cases stage with
    | numbering => exact hSlot.trans h
    | initing | launching | stopping | unlocking => exact ⟨h.1, h.2.1, hSlot.trans h.2.2⟩
  | finding hdl =>
    obtain ⟨q, hPos, j, hIndex, hSlot⟩ := h
    have hOther := hNe j (congrArg some hIndex)
    exact ⟨q, hPos, j, hIndex, (hSlots j hOther).trans hSlot⟩
  | deleting j _ taken => exact (hTakes j (hNe j rfl)).trans h

theorem Content.congr (h : w.Content x) (hSlots : w'.slots = w.slots)
    (hTakes : w'.takes = w.takes) :
    w'.Content x := by
  cases x with
  | idle | scanning | leaving => trivial
  | adding j q stage =>
    have hSlot := congrFun hSlots j
    cases stage with
    | numbering => exact hSlot.trans h
    | initing | launching | stopping | unlocking => exact ⟨h.1, h.2.1, hSlot.trans h.2.2⟩
  | finding hdl =>
    obtain ⟨q, hPos, j, hIndex, hSlot⟩ := h
    exact ⟨q, hPos, j, hIndex, (congrFun hSlots j).trans hSlot⟩
  | deleting j _ taken => exact (congrFun hTakes j).trans h

theorem Holds.frame {c : Nat × ChannelParams} (h : w.Holds c)
    (hIndex : Driver.indexByHandler c.1 ≠ i) (hSlots : ∀ j, j ≠ i → w'.slots j = w.slots j) :
    w'.Holds c := by
  obtain ⟨hPos, j, hj, hSlot⟩ := h
  have hNe : j ≠ i := by
    rintro rfl
    exact hIndex hj
  exact ⟨hPos, j, hj, (hSlots j hNe).trans hSlot⟩

theorem use_ne_of_ne (h : w.Sound keeper) (hUse : (w.clients t).use = some i.val) (hNe : t' ≠ t) :
    (w.clients t').use ≠ some i.val := by
  intro hUse'
  have hEq := (h.client t' i hUse').symm.trans (h.client t i hUse)
  injection hEq with hEq
  injection hEq with hEq
  exact hNe hEq

theorem index_ne_of_use {c : Nat × ChannelParams} (h : w.Sound keeper)
    (hUse : (w.clients t).use = some i.val) (hMem : c ∈ w.owned t') :
    Driver.indexByHandler c.1 ≠ i := by
  intro hIndex
  have hHandle := h.handle t' c hMem
  rw [hIndex, h.client t i hUse] at hHandle
  cases hHandle

theorem Sound.work (h : w.Sound keeper) (hUse : (w.clients t).use = some i.val)
    (hClients : w'.clients = Function.update w.clients t y)
    (hSlots : ∀ j, j ≠ i → w'.slots j = w.slots j) (hTakes : w'.takes = w.takes)
    (hOwned : w'.owned = w.owned) (hStray : w'.stray = w.stray)
    (hCam : ∀ t', (w'.clients t').holdsCam = true → w'.camLock = some t')
    (hKeep : ∀ k, y.use = some k → k = i) (hContent : w'.Content y)
    (hPlaced : (w'.slots i).channel.myHdl ≠ 0 →
      Driver.indexByHandler (w'.slots i).channel.myHdl = i) : w'.Sound keeper := by
  have hSame : w'.clients t = y := by
    rw [hClients]
    exact Function.update_self ..
  have hOthers : ∀ t', t' ≠ t → w'.clients t' = w.clients t' := by
    intro t' hNe
    rw [hClients]
    exact Function.update_of_ne hNe ..
  refine ⟨hCam, ?_, ?_, ?_, ?_, ?_, ?_, hStray.trans h.stray⟩
  · intro t' k hUse'
    rcases eq_or_ne t' t with rfl | hNe
    · rw [hSame] at hUse'
      rw [hKeep k hUse']
      exact h.client t' i hUse
    · rw [hOthers t' hNe] at hUse'
      exact h.client t' k hUse'
  · intro t'
    rcases eq_or_ne t' t with rfl | hNe
    · rw [hSame]
      exact hContent
    · rw [hOthers t' hNe]
      exact (h.content t').frame (use_ne_of_ne h hUse hNe) hSlots fun j _ => congrFun hTakes j
  · intro t' c hMem
    rw [hOwned] at hMem
    exact h.handle t' c hMem
  · intro t' c hMem
    rw [hOwned] at hMem
    exact (h.holds t' c hMem).frame (index_ne_of_use h hUse hMem) hSlots
  · intro t'
    rw [hOwned]
    exact h.nodup t'
  · intro j
    rcases eq_or_ne j i with rfl | hNe
    · exact hPlaced
    · rw [hSlots j hNe]
      exact h.placed j

theorem Sound.rest (h : w.Sound keeper) (hClients : w'.clients = Function.update w.clients t y)
    (hSlots : w'.slots = w.slots) (hTakes : w'.takes = w.takes) (hOwned : w'.owned = w.owned)
    (hStray : w'.stray = w.stray)
    (hCam : ∀ t', (w'.clients t').holdsCam = true → w'.camLock = some t')
    (hUse : y.use = none) (hContent : w'.Content y) : w'.Sound keeper := by
  have hSame : w'.clients t = y := by
    rw [hClients]
    exact Function.update_self ..
  have hOthers : ∀ t', t' ≠ t → w'.clients t' = w.clients t' := by
    intro t' hNe
    rw [hClients]
    exact Function.update_of_ne hNe ..
  have hHolds : ∀ c, w.Holds c → w'.Holds c := by
    rintro c ⟨hPos, i, hIndex, hSlot⟩
    exact ⟨hPos, i, hIndex, (congrFun hSlots i).trans hSlot⟩
  refine ⟨hCam, ?_, ?_, ?_, ?_, ?_, ?_, hStray.trans h.stray⟩
  · intro t' k hUse'
    rcases eq_or_ne t' t with rfl | hNe
    · rw [hSame, hUse] at hUse'
      cases hUse'
    · rw [hOthers t' hNe] at hUse'
      exact h.client t' k hUse'
  · intro t'
    rcases eq_or_ne t' t with rfl | hNe
    · rw [hSame]
      exact hContent
    · rw [hOthers t' hNe]
      exact (h.content t').congr hSlots hTakes
  · intro t' c hMem
    rw [hOwned] at hMem
    exact h.handle t' c hMem
  · intro t' c hMem
    rw [hOwned] at hMem
    exact hHolds c (h.holds t' c hMem)
  · intro t'
    rw [hOwned]
    exact h.nodup t'
  · rw [hSlots]
    exact h.placed

theorem Sound.cam_of_step (h : w.Sound keeper)
    (hHolds : y.holdsCam = true → (w.clients t).holdsCam = true) (t' : Nat)
    (hIn : (Function.update w.clients t y t').holdsCam = true) : w.camLock = some t' := by
  rcases eq_or_ne t' t with rfl | hNe
  · rw [Function.update_self] at hIn
    exact h.cam t' (hHolds hIn)
  · rw [Function.update_of_ne hNe] at hIn
    exact h.cam t' hIn

theorem Sound.cam_of_unlock {o : Option Nat} (h : w.Sound keeper)
    (hCam : w.camLock = some t ∨ w.camLock = none) (hHolds : y.holdsCam = true → o = some t)
    (t' : Nat) (hIn : (Function.update w.clients t y t').holdsCam = true) : o = some t' := by
  rcases eq_or_ne t' t with rfl | hNe
  · rw [Function.update_self] at hIn
    exact hHolds hIn
  · rw [Function.update_of_ne hNe] at hIn
    have hHolder := h.cam t' hIn
    rcases hCam with hMine | hFree
    · exact absurd (Option.some.inj (hHolder.symm.trans hMine)) hNe
    · cases hHolder.symm.trans hFree

/-- A handle finds its slot: no other slot has a handle with this index. -/
theorem Sound.found {c : Nat × ChannelParams} (h : w.Sound keeper) (hHolds : w.Holds c) :
    ∃ i : Fin channelMax, w.utilGetChannelByHandler c.1 = some i ∧
      Driver.indexByHandler c.1 = i ∧ w.slots i = added c := by
  obtain ⟨hPos, i, hIndex, hSlot⟩ := hHolds
  have hHdl : c.1 = (w.slots i).channel.myHdl := by
    rw [hSlot]
    rfl
  cases hFind : w.utilGetChannelByHandler c.1 with
  | none =>
    have hNone := List.find?_eq_none.mp hFind i (List.mem_finRange i)
    exact absurd (decide_eq_true hHdl) hNone
  | some j =>
    have hDecide := List.find?_some hFind
    have hSome : c.1 = (w.slots j).channel.myHdl := of_decide_eq_true hDecide
    have hj := h.placed j (by rwa [← hSome])
    rw [← hSome, hIndex] at hj
    exact ⟨i, by rw [Fin.ext hj], hIndex, hSlot⟩

theorem notused_of_freeSlot (h : w.freeSlot = some i) : (w.slots i).channel.state = .notused := by
  have hDecide := List.find?_some h
  exact of_decide_eq_true hDecide

theorem not_notused_of_holds {c : Nat × ChannelParams} (h : w.Holds c)
    (hIndex : Driver.indexByHandler c.1 = i) : (w.slots i).channel.state ≠ .notused := by
  obtain ⟨-, j, hj, hSlot⟩ := h
  have hEq : j = i := Fin.ext (hj.symm.trans hIndex)
  rw [← hEq, hSlot]
  nofun

theorem Sound.scan (h : w.Sound keeper) (hClient : w.clients t = .scanning p)
    (hFree : w.freeSlot = some i)
    (hPatient : ∀ t' hdl taken stage, w.clients t' ≠ .deleting i hdl taken stage) :
    Sound { (w.setSlot i {}).setClient t (.adding i p .numbering) with
      takes := Function.update w.takes i (w.takes i + 1) }
      (Function.update keeper i (some (.client t))) := by
  have hCam := h.cam t (by rw [hClient]; rfl)
  have hUnused : ∀ t' , (w.clients t').use ≠ some i.val := by
    intro t' hUse
    have hNotCam : (w.clients t').holdsCam = true → t' = t := fun hIn =>
      Option.some.inj ((h.cam t' hIn).symm.trans hCam)
    have hHolder : (w.clients t').holdsCam = true := by
      cases hOther : w.clients t' with
      | deleting j hdl taken stage =>
        rw [hOther] at hUse
        have hEq : j = i := Fin.ext (Option.some.inj hUse)
        subst hEq
        exact absurd hOther (hPatient t' hdl taken stage)
      | idle =>
        rw [hOther] at hUse
        cases hUse
      | scanning | adding | finding | leaving => rfl
    rw [hNotCam hHolder, hClient] at hUse
    cases hUse
  have hUnowned : ∀ t', ∀ c ∈ w.owned t', Driver.indexByHandler c.1 ≠ i := fun t' c hMem hIndex =>
    not_notused_of_holds (h.holds t' c hMem) hIndex (notused_of_freeSlot hFree)
  refine ⟨?_, ?_, ?_, ?_, ?_, h.nodup, ?_, h.stray⟩
  · exact h.cam_of_step fun _ => by rw [hClient]; rfl
  · intro t' k hUse
    rcases eq_or_ne t' t with rfl | hNe
    · have hSet : (w.setClient t' (.adding i p .numbering)).clients t' = .adding i p .numbering :=
        setClient_same
      cases (congrArg SlotClient.use hSet).symm.trans hUse
      exact Function.update_self ..
    · have hOld : (w.clients t').use = some k :=
        (congrArg SlotClient.use (setClient_of_ne hNe)).symm.trans hUse
      have hk : k ≠ i := by
        rintro rfl
        exact hUnused t' hOld
      rw [Function.update_of_ne hk]
      exact h.client t' k hOld
  · intro t'
    rcases eq_or_ne t' t with rfl | hNe
    · have hSet : (w.setClient t' (.adding i p .numbering)).clients t' = .adding i p .numbering :=
        setClient_same
      refine hSet.symm ▸ ?_
      exact setSlot_same
    · refine (setClient_of_ne hNe : (w.setClient t (.adding i p .numbering)).clients t' = _).symm ▸ ?_
      exact (h.content t').frame (hUnused t') (fun j hj => setSlot_of_ne hj)
        fun j hj => Function.update_of_ne hj ..
  · intro t' c hMem
    rw [Function.update_of_ne (hUnowned t' c hMem)]
    exact h.handle t' c hMem
  · intro t' c hMem
    exact (h.holds t' c hMem).frame (hUnowned t' c hMem) fun j hj => setSlot_of_ne hj
  · intro j
    rcases eq_or_ne j i with rfl | hNe
    · intro hHdl
      exact absurd (congrArg (fun s : ChannelSlot => s.channel.myHdl) setSlot_same) hHdl
    · have hSlot : (w.setSlot i {}).slots j = w.slots j := setSlot_of_ne hNe
      intro hHdl
      have hPlaced := h.placed j (by rw [← hSlot]; exact hHdl)
      rwa [← hSlot] at hPlaced

theorem Sound.handOver (h : w.Sound keeper) (hClient : w.clients t = .adding i p (.unlocking hdl)) :
    Sound { w.setClient t .idle with
      camLock := none
      owned := Function.update w.owned t (w.owned t ++ [(hdl, p)]) }
      (Function.update keeper i (some (.handle t (hdl, p)))) := by
  have hContent := h.content t
  rw [hClient] at hContent
  obtain ⟨hPos, hIndex, hSlot⟩ := hContent
  have hUse : (w.clients t).use = some i.val := by
    rw [hClient]
    rfl
  have hNew : w.Holds (hdl, p) := ⟨hPos, i, hIndex, hSlot⟩
  have hOwned : ∀ t' c, c ∈ Function.update w.owned t (w.owned t ++ [(hdl, p)]) t' →
      c ∈ w.owned t' ∨ t' = t ∧ c = (hdl, p) := by
    intro t' c hMem
    rcases eq_or_ne t' t with rfl | hNe
    · rw [Function.update_self] at hMem
      exact (List.mem_append.mp hMem).imp_right fun hLast => ⟨rfl, List.mem_singleton.mp hLast⟩
    · rw [Function.update_of_ne hNe] at hMem
      exact .inl hMem
  refine ⟨?_, ?_, ?_, ?_, ?_, ?_, h.placed, h.stray⟩
  · exact h.cam_of_unlock (.inl (h.cam t (by rw [hClient]; rfl))) Bool.noConfusion
  · intro t' k hUse'
    rcases eq_or_ne t' t with rfl | hNe
    · have hSet : (w.setClient t' .idle).clients t' = .idle := setClient_same
      cases (congrArg SlotClient.use hSet).symm.trans hUse'
    · have hOld : (w.clients t').use = some k :=
        (congrArg SlotClient.use (setClient_of_ne hNe)).symm.trans hUse'
      have hk : k ≠ i := by
        rintro rfl
        exact use_ne_of_ne h hUse hNe hOld
      rw [Function.update_of_ne hk]
      exact h.client t' k hOld
  · intro t'
    rcases eq_or_ne t' t with rfl | hNe
    · have hSet : (w.setClient t' .idle).clients t' = .idle := setClient_same
      exact hSet.symm ▸ trivial
    · have hSet : (w.setClient t .idle).clients t' = w.clients t' := setClient_of_ne hNe
      exact hSet.symm ▸ (h.content t').congr rfl rfl
  · intro t' c hMem
    rcases hOwned t' c hMem with hOld | ⟨rfl, rfl⟩
    · rw [Function.update_of_ne (index_ne_of_use h hUse hOld)]
      exact h.handle t' c hOld
    · rw [show Driver.indexByHandler hdl = i from hIndex]
      exact Function.update_self ..
  · intro t' c hMem
    rcases hOwned t' c hMem with hOld | ⟨rfl, rfl⟩
    · exact h.holds t' c hOld
    · exact hNew
  · refine (Function.forall_update_iff w.owned fun _ l => l.Nodup).mpr ⟨?_, fun t' _ => h.nodup t'⟩
    refine List.Nodup.append (h.nodup t) (List.nodup_singleton _) fun c hMem hLast => ?_
    rw [List.mem_singleton.mp hLast] at hMem
    exact index_ne_of_use h hUse hMem hIndex

theorem Sound.delChannel (h : w.Sound keeper) (hClient : w.clients t = .idle)
    (hCam : w.camLock = none) (hMem : hdl ∈ (w.owned t).map Prod.fst) :
    Sound { w.setClient t (.finding hdl) with
      camLock := some t
      owned := Function.update w.owned t ((w.owned t).filter (·.1 ≠ hdl)) }
      (Function.update keeper (Driver.indexByHandler hdl) (some (.client t))) := by
  obtain ⟨⟨hdl', q⟩, hOld, hFst⟩ := List.mem_map.mp hMem
  obtain rfl : hdl = hdl' := hFst.symm
  have hKeeper := h.handle t (hdl, q) hOld
  have hOwned : ∀ t' c, c ∈ Function.update w.owned t ((w.owned t).filter (·.1 ≠ hdl)) t' →
      c ∈ w.owned t' ∧ Driver.indexByHandler c.1 ≠ Driver.indexByHandler hdl := by
    intro t' c hc
    have hBefore : c ∈ w.owned t' := by
      rcases eq_or_ne t' t with rfl | hNe
      · rw [Function.update_self] at hc
        exact List.mem_of_mem_filter hc
      · rwa [Function.update_of_ne hNe] at hc
    refine ⟨hBefore, fun hIndex => ?_⟩
    have hSame := h.handle t' c hBefore
    rw [hIndex] at hSame
    cases hKeeper.symm.trans hSame
    rw [Function.update_self] at hc
    exact of_decide_eq_true (List.mem_filter.mp hc).2 rfl
  refine ⟨?_, ?_, ?_, ?_, ?_, ?_, h.placed, h.stray⟩
  · exact h.cam_of_unlock (.inr hCam) fun _ => rfl
  · intro t' k hUse
    rcases eq_or_ne t' t with rfl | hNe
    · have hSet : (w.setClient t' (.finding hdl)).clients t' = .finding hdl := setClient_same
      cases (congrArg SlotClient.use hSet).symm.trans hUse
      exact Function.update_self ..
    · have hBefore : (w.clients t').use = some k :=
        (congrArg SlotClient.use (setClient_of_ne hNe)).symm.trans hUse
      have hKeeps := h.client t' k hBefore
      have hk : k ≠ Driver.indexByHandler hdl := by
        rintro rfl
        cases hKeeps.symm.trans hKeeper
      rw [Function.update_of_ne hk]
      exact hKeeps
  · intro t'
    rcases eq_or_ne t' t with rfl | hNe
    · have hSet : (w.setClient t' (.finding hdl)).clients t' = .finding hdl := setClient_same
      exact hSet.symm ▸ ⟨q, h.holds t' _ hOld⟩
    · have hSet : (w.setClient t (.finding hdl)).clients t' = w.clients t' := setClient_of_ne hNe
      exact hSet.symm ▸ (h.content t').congr rfl rfl
  · intro t' c hc
    obtain ⟨hBefore, hIndex⟩ := hOwned t' c hc
    rw [Function.update_of_ne hIndex]
    exact h.handle t' c hBefore
  · intro t' c hc
    exact h.holds t' c (hOwned t' c hc).1
  · exact (Function.forall_update_iff w.owned fun _ l => l.Nodup).mpr
      ⟨(h.nodup t).filter _, fun t' _ => h.nodup t'⟩

end SlotWorld

end KiwiDevice.Camera

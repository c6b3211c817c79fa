import KiwiDevice.Camera.ObjectLives

/-!
# The steps that change an object

What a client does to an object that it alone knows, to the count of a shared one, and to the table.
-/

namespace KiwiDevice.Camera

theorem CamClient.sole_of_holds {x : CamClient} {o : Nat} (h : x.holds = some o) :
    x.sole = none ∨ x.sole = some o := by
  cases x with
  | idle => cases h
  | opened => exact .inl rfl
  | op => exact .inl rfl
  | opening idx stage =>
    cases stage with
    | reading | refused => cases h
    | counted | rereading | published => exact .inl rfl
    | numbering | devOpening => exact .inr h
  | closing idx o' stage =>
    cases stage with
    | locking | finding => exact .inl rfl
    | leaving | camLocking | handing | devClosing | destroying => cases h

theorem CamClient.holdsIntf_of_building {x : CamClient} {o o' : Nat} (h : x.holds = some o)
    (hSole : x.sole = some o') : x.holdsIntf = true := by
  cases x with
  | idle | opened | op => cases hSole
  | opening idx stage =>
    cases stage with
    | rereading => cases hSole
    | reading | counted | numbering | devOpening | published | refused => rfl
  | closing idx o stage =>
    cases stage with
    | locking | finding => cases hSole
    | leaving | camLocking | handing | devClosing | destroying => cases h

theorem CamHeap.Fits.lt_of_sole {m : CamHeap} {x : CamClient} {o : Nat} (h : m.Fits x)
    (hSole : x.sole = some o) : o < m.nextObj := by
  cases x with
  | idle | opened | op => cases hSole
  | opening idx stage =>
    cases stage with
    | numbering =>
      cases hSole
      exact h.2.2.lt
    | devOpening =>
      cases hSole
      exact h.2.1.lt
    | reading | counted | rereading | published | refused => cases hSole
  | closing idx o' stage =>
    cases stage with
    | camLocking | handing | devClosing | destroying =>
      cases hSole
      exact h.1.lt
    | locking | finding | leaving => cases hSole

namespace CamWorld

variable {w w' : CamWorld} {c c' o idx : Nat} {x : CamClient} {users : Nat → List Nat}

theorem Sound.sole_user (h : w.Sound users) (hSole : (w.clients c).sole = some o)
    (hHolds : (w.clients c').holds = some o) : c' = c := by
  rcases CamClient.sole_of_holds hHolds with hNone | hSome
  · exact absurd ((h.fits c').listed hHolds hNone) (h.unlisted c o hSole _)
  · exact h.sole c' c o hSome hSole

theorem Sound.lt_of_holds (h : w.Sound users) (hHolds : (w.clients c).holds = some o) :
    o < w.nextObj := by
  rcases CamClient.sole_of_holds hHolds with hNone | hSome
  · exact (h.table _ o ((h.fits c).listed hHolds hNone)).1.living.lt
  · exact (h.fits c).lt_of_sole hSome

theorem forall_clients {P : CamClient → Prop}
    (hClients : w'.clients = Function.update w.clients c x)
    (hSelf : P x) (hOthers : ∀ c', c' ≠ c → P (w.clients c')) : ∀ c', P (w'.clients c') := by
  rw [hClients]
  exact (Function.forall_update_iff w.clients fun _ y => P y).mpr ⟨hSelf, hOthers⟩

theorem Sound.sole_of_update (h : w.Sound users)
    (hClients : w'.clients = Function.update w.clients c x)
    (hSole : ∀ o, x.sole = some o → ∀ c', c' ≠ c → (w.clients c').sole ≠ some o) :
    ∀ c₁ c₂ o, (w'.clients c₁).sole = some o → (w'.clients c₂).sole = some o → c₁ = c₂ := by
  intro c₁ c₂ o h₁ h₂
  rw [hClients] at h₁ h₂
  rcases eq_or_ne c₁ c with rfl | hNe₁
  · rcases eq_or_ne c₂ c₁ with rfl | hNe₂
    · rfl
    · rw [Function.update_self] at h₁
      rw [Function.update_of_ne hNe₂] at h₂
      exact absurd h₂ (hSole o h₁ c₂ hNe₂)
  · rw [Function.update_of_ne hNe₁] at h₁
    rcases eq_or_ne c₂ c with rfl | hNe₂
    · rw [Function.update_self] at h₂
      exact absurd h₁ (hSole o h₂ c₁ hNe₁)
    · rw [Function.update_of_ne hNe₂] at h₂
      exact h.sole c₁ c₂ o h₁ h₂

theorem Sound.members_add (h : w.Sound users)
    (hClients : w'.clients = Function.update w.clients c x) (hOld : (w.clients c).holds = none)
    (hNew : x.holds = some o) : ∀ o' c', c' ∈ Function.update users o (c :: users o) o' ↔
      (w'.clients c').holds = some o' := by
  intro o' c'
  rw [hClients]
  have hOther : c' ≠ c → (c' ∈ Function.update users o (c :: users o) o' ↔ c' ∈ users o') := by
    intro hNe
    rcases eq_or_ne o' o with rfl | hNe'
    · rw [Function.update_self, List.mem_cons]
      exact or_iff_right hNe
    · rw [Function.update_of_ne hNe']
  rcases eq_or_ne c' c with rfl | hNe
  · rw [Function.update_self, hNew]
    rcases eq_or_ne o' o with rfl | hNe'
    · rw [Function.update_self]
      exact iff_of_true List.mem_cons_self rfl
    · rw [Function.update_of_ne hNe']
      refine iff_of_false (fun hMem => ?_) fun hEq => hNe' (Option.some.inj hEq).symm
      rw [h.members, hOld] at hMem
      cases hMem
  · rw [hOther hNe, Function.update_of_ne hNe]
    exact h.members o' c'

theorem Sound.members_remove (h : w.Sound users)
    (hClients : w'.clients = Function.update w.clients c x) (hOld : (w.clients c).holds = some o)
    (hNew : x.holds = none) : ∀ o' c', c' ∈ Function.update users o ((users o).erase c) o' ↔
      (w'.clients c').holds = some o' := by
  intro o' c'
  rw [hClients]
  rcases eq_or_ne c' c with rfl | hNe
  · rw [Function.update_self, hNew]
    refine iff_of_false (fun hMem => ?_) nofun
    rcases eq_or_ne o' o with rfl | hNe'
    · rw [Function.update_self] at hMem
      exact (h.nodup o').not_mem_erase hMem
    · rw [Function.update_of_ne hNe', h.members, hOld] at hMem
      exact hNe' (Option.some.inj hMem).symm
  · rw [Function.update_of_ne hNe, ← h.members]
    rcases eq_or_ne o' o with rfl | hNe'
    · rw [Function.update_self]
      exact List.mem_erase_of_ne hNe
    · rw [Function.update_of_ne hNe']

theorem Sound.work (h : w.Sound users) (hOld : (w.clients c).sole = some o)
    (hClients : w'.clients = Function.update w.clients c x) (hSole : x.sole = some o)
    (hHolds : x.holds = (w.clients c).holds) (hTable : w'.table = w.table)
    (hNext : w'.nextObj = w.nextObj) (hMax : w'.maxSensors = w.maxSensors)
    (hOther : ∀ o', o' ≠ o → w'.objs o' = w.objs o' ∧ w'.opens.count o' = w.opens.count o' ∧
      w'.closed.count o' = w.closed.count o' ∧ w'.freed.count o' = w.freed.count o')
    (hFreed : (w'.objs o).freed = (w.objs o).freed)
    (hCount : (w'.objs o).refCount = (w.objs o).refCount)
    (hIntf : ∀ c', (w'.clients c').holdsIntf = true → w'.intfLock = some c')
    (hFits : w'.Fits x) (hFaults : w'.faults = w.faults) : w'.Sound users := by
  have hLe : w.nextObj ≤ w'.nextObj := Nat.le_of_eq hNext.symm
  have hSame : ∀ o', o' ≠ o → w.Same w'.toCamHeap o' := fun o' hNe =>
    .of_objs (hOther o' hNe).1 (hOther o' hNe).2.1 (hOther o' hNe).2.2.1 (hOther o' hNe).2.2.2
  have hListed : ∀ idx o', w.table idx = some o' → o' ≠ o := by
    rintro idx o' hTab rfl
    exact h.unlisted c _ hOld idx hTab
  refine ⟨hIntf, ?_, h.nodup, ?_, ?_, ?_, ?_, ?_, ?_, ?_, hFaults.trans h.faults⟩
  · refine forall_clients (P := w'.Fits) hClients hFits fun c' hNe => ?_
    refine (h.fits c').frame hLe (fun _ _ => congrFun hTable _) (fun o' hHolds' => ?_)
      fun o' hSole' => hSame o' ?_
    · refine (hSame o' ?_).myHdl
      rintro rfl
      exact hNe (h.sole_user hOld hHolds')
    · rintro rfl
      exact hNe (h.sole c' c _ hSole' hOld)
  · intro o' c'
    rw [h.members, hClients]
    rcases eq_or_ne c' c with rfl | hNe
    · rw [Function.update_self, hHolds]
    · rw [Function.update_of_ne hNe]
  · intro o' hNotFreed
    rcases eq_or_ne o' o with rfl | hNe
    · rw [hCount]
      exact h.count o' (hFreed.symm.trans hNotFreed)
    · rw [(hOther o' hNe).1] at hNotFreed ⊢
      exact h.count o' hNotFreed
  · intro idx o' hTab
    rw [hTable] at hTab
    obtain ⟨hPublished, hUsers⟩ := h.table idx o' hTab
    exact ⟨hPublished.frame (hSame o' (hListed idx o' hTab)) hLe hMax, hUsers⟩
  · refine h.sole_of_update hClients fun o' hSole' c' hNe hAlso => ?_
    rw [hSole] at hSole'
    cases hSole'
    exact hNe (h.sole c' c o hAlso hOld)
  · rw [hTable]
    refine forall_clients (P := fun y => ∀ o', y.sole = some o' → ∀ idx, w.table idx ≠ some o')
      hClients ?_ fun c' _ => h.unlisted c'
    intro o' hSole'
    rw [hSole] at hSole'
    cases hSole'
    exact h.unlisted c o hOld
  · intro o' hLt
    rw [hTable]
    have hAlone : ∀ c' o', (w.clients c').sole = some o' → (w'.clients c').sole = some o' := by
      intro c' o' hSole'
      rw [hClients]
      rcases eq_or_ne c' c with rfl | hNe
      · rw [Function.update_self, hSole, ← hOld]
        exact hSole'
      · rwa [Function.update_of_ne hNe]
    rcases h.ends o' (hNext ▸ hLt) with hTab | ⟨c', hSole'⟩ | hEnded
    · exact .inl hTab
    · exact .inr (.inl ⟨c', hAlone c' o' hSole'⟩)
    · rcases eq_or_ne o' o with rfl | hNe
      · exact .inr (.inl ⟨c, hAlone c o' hOld⟩)
      · exact .inr (.inr (hEnded.frame (hSame o' hNe)))
  · intro o' hBeyond
    have hNe : o' ≠ o := by
      rintro rfl
      exact Nat.lt_irrefl _ (Nat.lt_of_lt_of_le ((h.fits c).lt_of_sole hOld) (hNext ▸ hBeyond))
    obtain ⟨hObjs, hOpens, hClosed, hFreed⟩ := hOther o' hNe
    rw [hObjs, hOpens, hClosed, hFreed]
    exact h.beyond o' (hNext ▸ hBeyond)

theorem Sound.finish (h : w.Sound users) (hOld : (w.clients c).sole = some o)
    (hClients : w'.clients = Function.update w.clients c x) (hSole : x.sole = none)
    (hHolds : x.holds = none) (hTable : w'.table = w.table) (hNext : w'.nextObj = w.nextObj)
    (hMax : w'.maxSensors = w.maxSensors)
    (hOther : ∀ o', o' ≠ o → w'.objs o' = w.objs o' ∧ w'.opens.count o' = w.opens.count o' ∧
      w'.closed.count o' = w.closed.count o' ∧ w'.freed.count o' = w.freed.count o')
    (hEnded : w'.Ended o)
    (hIntf : ∀ c', (w'.clients c').holdsIntf = true → w'.intfLock = some c')
    (hFits : w'.Fits x) (hFaults : w'.faults = w.faults) :
    w'.Sound (Function.update users o []) := by
  have hLe : w.nextObj ≤ w'.nextObj := Nat.le_of_eq hNext.symm
  have hSame : ∀ o', o' ≠ o → w.Same w'.toCamHeap o' := fun o' hNe =>
    .of_objs (hOther o' hNe).1 (hOther o' hNe).2.1 (hOther o' hNe).2.2.1 (hOther o' hNe).2.2.2
  have hListed : ∀ idx o', w.table idx = some o' → o' ≠ o := by
    rintro idx o' hTab rfl
    exact h.unlisted c _ hOld idx hTab
  refine ⟨hIntf, ?_, ?_, ?_, ?_, ?_, ?_, ?_, ?_, ?_, hFaults.trans h.faults⟩
  · refine forall_clients (P := w'.Fits) hClients hFits fun c' hNe => ?_
    refine (h.fits c').frame hLe (fun _ _ => congrFun hTable _) (fun o' hHolds' => ?_)
      fun o' hSole' => hSame o' ?_
    · refine (hSame o' ?_).myHdl
      rintro rfl
      exact hNe (h.sole_user hOld hHolds')
    · rintro rfl
      exact hNe (h.sole c' c _ hSole' hOld)
  · exact (Function.forall_update_iff users fun _ l => l.Nodup).mpr
      ⟨List.nodup_nil, fun o' _ => h.nodup o'⟩
  · intro o' c'
    rw [hClients]
    rcases eq_or_ne o' o with rfl | hNe'
    · rw [Function.update_self]
      refine iff_of_false List.not_mem_nil fun hHolds' => ?_
      rcases eq_or_ne c' c with rfl | hNe
      · rw [Function.update_self, hHolds] at hHolds'
        cases hHolds'
      · rw [Function.update_of_ne hNe] at hHolds'
        exact hNe (h.sole_user hOld hHolds')
    · rw [Function.update_of_ne hNe', h.members]
      rcases eq_or_ne c' c with rfl | hNe
      · rw [Function.update_self, hHolds]
        refine iff_of_false (fun hHolds' => ?_) nofun
        rcases CamClient.sole_of_holds hHolds' with hNone | hSome
        · cases hNone.symm.trans hOld
        · exact hNe' (Option.some.inj (hSome.symm.trans hOld))
      · rw [Function.update_of_ne hNe]
  · intro o' hNotFreed
    rcases eq_or_ne o' o with rfl | hNe
    · cases hNotFreed.symm.trans hEnded.isFreed
    · rw [Function.update_of_ne hNe]
      rw [(hOther o' hNe).1] at hNotFreed ⊢
      exact h.count o' hNotFreed
  · intro idx o' hTab
    rw [hTable] at hTab
    obtain ⟨hPublished, hUsers⟩ := h.table idx o' hTab
    have hNe := hListed idx o' hTab
    rw [Function.update_of_ne hNe]
    exact ⟨hPublished.frame (hSame o' hNe) hLe hMax, hUsers⟩
  · refine h.sole_of_update hClients fun o' hSole' => ?_
    rw [hSole] at hSole'
    cases hSole'
  · rw [hTable]
    refine forall_clients (P := fun y => ∀ o', y.sole = some o' → ∀ idx, w.table idx ≠ some o')
      hClients ?_ fun c' _ => h.unlisted c'
    intro o' hSole'
    rw [hSole] at hSole'
    cases hSole'
  · intro o' hLt
    rw [hTable]
    rcases eq_or_ne o' o with rfl | hNe
    · exact .inr (.inr hEnded)
    · rcases h.ends o' (hNext ▸ hLt) with hTab | ⟨c', hSole'⟩ | hEnded'
      · exact .inl hTab
      · have hNe' : c' ≠ c := by
          rintro rfl
          exact hNe (Option.some.inj (hSole'.symm.trans hOld))
        refine .inr (.inl ⟨c', ?_⟩)
        rw [hClients, Function.update_of_ne hNe']
        exact hSole'
      · exact .inr (.inr (hEnded'.frame (hSame o' hNe)))
  · intro o' hBeyond
    have hNe : o' ≠ o := by
      rintro rfl
      exact Nat.lt_irrefl _ (Nat.lt_of_lt_of_le ((h.fits c).lt_of_sole hOld) (hNext ▸ hBeyond))
    obtain ⟨hObjs, hOpens, hClosed, hFreed⟩ := hOther o' hNe
    rw [hObjs, hOpens, hClosed, hFreed]
    exact h.beyond o' (hNext ▸ hBeyond)

theorem same_of_refCount {n : Int} (o' : Nat)
    (hObjs : w'.objs = Function.update w.objs o { w.objs o with refCount := n })
    (hOpens : w'.opens = w.opens) (hClosed : w'.closed = w.closed) (hFreed : w'.freed = w.freed) :
    w.Same w'.toCamHeap o' := by
  refine ⟨?_, ?_, ?_, by rw [hOpens], by rw [hClosed], by rw [hFreed]⟩
  all_goals
    rw [hObjs]
    rcases eq_or_ne o' o with rfl | hNe
    · rw [Function.update_self]
    · rw [Function.update_of_ne hNe]

theorem Sound.addReference (h : w.Sound users) (hClient : w.clients c = .opening idx .reading)
    (hTab : w.table idx = some o) (hClients : w'.clients =
      Function.update w.clients c (.opening idx (.counted o)))
    (hObjs : w'.objs =
      Function.update w.objs o { w.objs o with refCount := (w.objs o).refCount + 1 })
    (hTable : w'.table = w.table) (hOpens : w'.opens = w.opens) (hClosed : w'.closed = w.closed)
    (hFreed : w'.freed = w.freed) (hNext : w'.nextObj = w.nextObj)
    (hMax : w'.maxSensors = w.maxSensors)
    (hIntf : ∀ c', (w'.clients c').holdsIntf = true → w'.intfLock = some c')
    (hFaults : w'.faults = w.faults) : w'.Sound (Function.update users o (c :: users o)) := by
  have hLe : w.nextObj ≤ w'.nextObj := Nat.le_of_eq hNext.symm
  have hSame : ∀ o', w.Same w'.toCamHeap o' := fun o' =>
    same_of_refCount o' hObjs hOpens hClosed hFreed
  have hOld : (w.clients c).holds = none := by
    rw [hClient]
    rfl
  have hNotUser : c ∉ users o := by
    rw [h.members, hOld]
    nofun
  have hLt := (h.table idx o hTab).1.living.lt
  refine ⟨hIntf, ?_, ?_, h.members_add hClients hOld rfl, ?_, ?_, ?_, ?_, ?_, ?_,
    hFaults.trans h.faults⟩
  · refine forall_clients (P := w'.Fits) hClients ((congrFun hTable idx).trans hTab) fun c' _ => ?_
    exact (h.fits c').frame hLe (fun _ _ => congrFun hTable _) (fun o' _ => (hSame o').myHdl)
      fun o' _ => hSame o'
  · exact (Function.forall_update_iff users fun _ l => l.Nodup).mpr
      ⟨List.nodup_cons.mpr ⟨hNotUser, h.nodup o⟩, fun o' _ => h.nodup o'⟩
  · intro o' hNotFreed
    have hCount := h.count o' ((hSame o').isFreed.symm.trans hNotFreed)
    rw [hObjs]
    rcases eq_or_ne o' o with rfl | hNe
    · rw [Function.update_self, Function.update_self, List.length_cons]
      show (w.objs o').refCount + 1 = _
      rw [hCount]
      rfl
    · rw [Function.update_of_ne hNe, Function.update_of_ne hNe]
      exact hCount
  · intro idx' o' hTab'
    rw [hTable] at hTab'
    obtain ⟨hPublished, hUsers⟩ := h.table idx' o' hTab'
    refine ⟨hPublished.frame (hSame o') hLe hMax, ?_⟩
    rcases eq_or_ne o' o with rfl | hNe
    · rw [Function.update_self]
      exact List.cons_ne_nil _ _
    · rw [Function.update_of_ne hNe]
      exact hUsers
  · exact h.sole_of_update hClients nofun
  · rw [hTable]
    exact forall_clients (P := fun y => ∀ o', y.sole = some o' → ∀ idx, w.table idx ≠ some o')
      hClients nofun fun c' _ => h.unlisted c'
  · intro o' hLt'
    rw [hTable]
    rcases h.ends o' (hNext ▸ hLt') with hTab' | ⟨c', hSole'⟩ | hEnded
    · exact .inl hTab'
    · have hNe : c' ≠ c := by
        rintro rfl
        rw [hClient] at hSole'
        cases hSole'
      refine .inr (.inl ⟨c', ?_⟩)
      rw [hClients, Function.update_of_ne hNe]
      exact hSole'
    · exact .inr (.inr (hEnded.frame (hSame o')))
  · intro o' hBeyond
    have hNe : o' ≠ o := by
      rintro rfl
      exact Nat.lt_irrefl _ (Nat.lt_of_lt_of_le hLt (hNext ▸ hBeyond))
    rw [hObjs, Function.update_of_ne hNe, hOpens, hClosed, hFreed]
    exact h.beyond o' (hNext ▸ hBeyond)

end CamWorld

end KiwiDevice.Camera

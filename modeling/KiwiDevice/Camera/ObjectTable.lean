import KiwiDevice.Camera.ObjectSteps

/-!
# The steps that change the table

A new object is built and published, a reference is given back, and the last one takes the object
out of the table.
-/

namespace KiwiDevice.Camera.CamWorld

variable {w w' : CamWorld} {c c' o idx hdl : Nat} {x : CamClient} {users : Nat → List Nat}

theorem Sound.dropReference (h : w.Sound users)
    (hClient : w.clients c = .closing idx o (.finding hdl)) (hMore : 0 < (w.objs o).refCount - 1)
    (hClients : w'.clients = Function.update w.clients c (.closing idx o .leaving))
    (hObjs : w'.objs =
      Function.update w.objs o { w.objs o with refCount := (w.objs o).refCount - 1 })
    (hTable : w'.table = w.table) (hOpens : w'.opens = w.opens) (hClosed : w'.closed = w.closed)
    (hFreed : w'.freed = w.freed) (hNext : w'.nextObj = w.nextObj)
    (hMax : w'.maxSensors = w.maxSensors)
    (hIntf : ∀ c', (w'.clients c').holdsIntf = true → w'.intfLock = some c')
    (hFaults : w'.faults = w.faults) :
    w'.Sound (Function.update users o ((users o).erase c)) := by
  have hLe : w.nextObj ≤ w'.nextObj := Nat.le_of_eq hNext.symm
  have hSame : ∀ o', w.Same w'.toCamHeap o' := fun o' =>
    same_of_refCount o' hObjs hOpens hClosed hFreed
  have hOld : (w.clients c).holds = some o := by
    rw [hClient]
    rfl
  have hUser : c ∈ users o := (h.members o c).mpr hOld
  have hTab : w.table idx = some o := by
    have hFits := h.fits c
    rw [hClient] at hFits
    exact hFits.1
  have hLiving := (h.table idx o hTab).1.living
  have hLength : ((users o).erase c).length = (users o).length - 1 := List.length_erase_of_mem hUser
  have hCount := h.count o hLiving.notFreed
  refine ⟨hIntf, ?_, ?_, h.members_remove hClients hOld rfl, ?_, ?_, ?_, ?_, ?_, ?_,
    hFaults.trans h.faults⟩
  · refine forall_clients (P := w'.Fits) hClients trivial fun c' _ => ?_
    exact (h.fits c').frame hLe (fun _ _ => congrFun hTable _) (fun o' _ => (hSame o').myHdl)
      fun o' _ => hSame o'
  · exact (Function.forall_update_iff users fun _ l => l.Nodup).mpr
      ⟨(h.nodup o).erase c, fun o' _ => h.nodup o'⟩
  · intro o' hNotFreed
    have hCount' := h.count o' ((hSame o').isFreed.symm.trans hNotFreed)
    rw [hObjs]
    rcases eq_or_ne o' o with rfl | hNe
    · rw [Function.update_self, Function.update_self, hLength]
      show (w.objs o').refCount - 1 = _
      omega
    · rw [Function.update_of_ne hNe, Function.update_of_ne hNe]
      exact hCount'
  · intro idx' o' hTab'
    rw [hTable] at hTab'
    obtain ⟨hPublished, hUsers⟩ := h.table idx' o' hTab'
    refine ⟨hPublished.frame (hSame o') hLe hMax, ?_⟩
    rcases eq_or_ne o' o with rfl | hNe
    · rw [Function.update_self]
      refine List.ne_nil_of_length_pos ?_
      omega
    · rw [Function.update_of_ne hNe]
      exact hUsers
  · exact h.sole_of_update hClients nofun
  · rw [hTable]
    exact forall_clients (P := fun y => ∀ o', y.sole = some o' → ∀ idx, w.table idx ≠ some o')
      hClients nofun fun c' _ => h.unlisted c'
  · intro o' hLt'
    rw [hTable]
    rcases h.ends o' (hNext ▸ hLt') with hTab' | ⟨c', hSole'⟩ | hEnded
    · exact .inl hTab'
    · have hNe : c' ≠ c := by
        rintro rfl
        rw [hClient] at hSole'
        cases hSole'
      refine .inr (.inl ⟨c', ?_⟩)
      rw [hClients, Function.update_of_ne hNe]
      exact hSole'
    · exact .inr (.inr (hEnded.frame (hSame o')))
  · intro o' hBeyond
    have hNe : o' ≠ o := by
      rintro rfl
      exact Nat.lt_irrefl _ (Nat.lt_of_lt_of_le hLiving.lt (hNext ▸ hBeyond))
    rw [hObjs, Function.update_of_ne hNe, hOpens, hClosed, hFreed]
    exact h.beyond o' (hNext ▸ hBeyond)

/-- The last reference is given back: the object leaves the table. -/
theorem Sound.unpublish (h : w.Sound users)
    (hClient : w.clients c = .closing idx o (.finding hdl)) (hLast : (w.objs o).refCount - 1 ≤ 0)
    (hClients : w'.clients = Function.update w.clients c (.closing idx o (.camLocking o)))
    (hObjs : w'.objs =
      Function.update w.objs o { w.objs o with refCount := (w.objs o).refCount - 1 })
    (hTable : w'.table = Function.update w.table idx none) (hOpens : w'.opens = w.opens)
    (hClosed : w'.closed = w.closed) (hFreed : w'.freed = w.freed) (hNext : w'.nextObj = w.nextObj)
    (hMax : w'.maxSensors = w.maxSensors)
    (hIntf : ∀ c', (w'.clients c').holdsIntf = true → w'.intfLock = some c')
    (hFaults : w'.faults = w.faults) :
    w'.Sound (Function.update users o ((users o).erase c)) := by
  have hLe : w.nextObj ≤ w'.nextObj := Nat.le_of_eq hNext.symm
  have hSame : ∀ o', w.Same w'.toCamHeap o' := fun o' =>
    same_of_refCount o' hObjs hOpens hClosed hFreed
  have hOld : (w.clients c).holds = some o := by
    rw [hClient]
    rfl
  have hIn : w.intfLock = some c := h.intf c (by rw [hClient]; rfl)
  have hUser : c ∈ users o := (h.members o c).mpr hOld
  have hTab : w.table idx = some o := by
    have hFits := h.fits c
    rw [hClient] at hFits
    exact hFits.1
  obtain ⟨hPublished, -⟩ := h.table idx o hTab
  have hLiving := hPublished.living
  have hLength : ((users o).erase c).length = (users o).length - 1 := List.length_erase_of_mem hUser
  have hCount := h.count o hLiving.notFreed
  have hOnly : ∀ c', (w.clients c').holds = some o → c' = c := by
    intro c' hHolds
    by_contra hNe
    have hMem : c' ∈ (users o).erase c := (List.mem_erase_of_ne hNe).mpr ((h.members o c').mpr hHolds)
    have hPos := List.length_pos_of_mem hMem
    omega
  -- another client with a reference has another camera, or would hold the interface lock
  have hElsewhere : ∀ c', c' ≠ c → ∀ o', (w.clients c').holds = some o' →
      w'.table (w.clients c').idx = w.table (w.clients c').idx := by
    intro c' hNe o' hHolds
    rw [hTable]
    refine Function.update_of_ne (fun hIdx => hNe ?_) ..
    rcases CamClient.sole_of_holds hHolds with hNone | hSome
    · have hTab' := (h.fits c').listed hHolds hNone
      rw [hIdx, hTab] at hTab'
      rw [← Option.some.inj hTab'] at hHolds
      exact hOnly c' hHolds
    · have hIn' := h.intf c' (CamClient.holdsIntf_of_building hHolds hSome)
      exact Option.some.inj (hIn'.symm.trans hIn)
  refine ⟨hIntf, ?_, ?_, h.members_remove hClients hOld rfl, ?_, ?_, ?_, ?_, ?_, ?_,
    hFaults.trans h.faults⟩
  · refine forall_clients (P := w'.Fits) hClients ?_ fun c' hNe => ?_
    · exact ⟨hLiving.frame (hSame o) hLe, (hSame o).lockInit.trans hPublished.lockInit⟩
    · exact (h.fits c').frame hLe (hElsewhere c' hNe) (fun o' _ => (hSame o').myHdl)
        fun o' _ => hSame o'
  · exact (Function.forall_update_iff users fun _ l => l.Nodup).mpr
      ⟨(h.nodup o).erase c, fun o' _ => h.nodup o'⟩
  · intro o' hNotFreed
    have hCount' := h.count o' ((hSame o').isFreed.symm.trans hNotFreed)
    rw [hObjs]
    rcases eq_or_ne o' o with rfl | hNe
    · have hPos := List.length_pos_of_mem hUser
      rw [Function.update_self, Function.update_self, hLength]
      show (w.objs o').refCount - 1 = _
      omega
    · rw [Function.update_of_ne hNe, Function.update_of_ne hNe]
      exact hCount'
  · intro idx' o' hTab'
    rw [hTable] at hTab'
    have hIdx : idx' ≠ idx := by
      rintro rfl
      rw [Function.update_self] at hTab'
      cases hTab'
    rw [Function.update_of_ne hIdx] at hTab'
    obtain ⟨hPublished', hUsers⟩ := h.table idx' o' hTab'
    refine ⟨hPublished'.frame (hSame o') hLe hMax, ?_⟩
    have hNe : o' ≠ o := by
      rintro rfl
      exact hIdx (hPublished'.index.symm.trans hPublished.index)
    rw [Function.update_of_ne hNe]
    exact hUsers
  · refine h.sole_of_update hClients fun o' hSole' c' _ hAlso => ?_
    cases hSole'
    exact h.unlisted c' o hAlso idx hTab
  · rw [hTable]
    refine forall_clients (P := fun y => ∀ o', y.sole = some o' →
      ∀ idx', Function.update w.table idx none idx' ≠ some o') hClients ?_ fun c' _ o' hSole' idx' => ?_
    · intro o' hSole' idx' hTab'
      cases hSole'
      rcases eq_or_ne idx' idx with rfl | hIdx
      · rw [Function.update_self] at hTab'
        cases hTab'
      · rw [Function.update_of_ne hIdx] at hTab'
        exact hIdx ((h.table idx' o hTab').1.index.symm.trans hPublished.index)
    · rcases eq_or_ne idx' idx with rfl | hIdx
      · rw [Function.update_self]
        nofun
      · rw [Function.update_of_ne hIdx]
        exact h.unlisted c' o' hSole' idx'
  · intro o' hLt'
    rcases eq_or_ne o' o with rfl | hNe
    · refine .inr (.inl ⟨c, ?_⟩)
      rw [hClients, Function.update_self]
      rfl
    · rcases h.ends o' (hNext ▸ hLt') with ⟨idx', hTab'⟩ | ⟨c', hSole'⟩ | hEnded
      · refine .inl ⟨idx', ?_⟩
        rw [hTable, Function.update_of_ne]
        · exact hTab'
        · rintro rfl
          exact hNe (Option.some.inj (hTab'.symm.trans hTab))
      · have hOther : c' ≠ c := by
          rintro rfl
          rw [hClient] at hSole'
          cases hSole'
        refine .inr (.inl ⟨c', ?_⟩)
        rw [hClients, Function.update_of_ne hOther]
        exact hSole'
      · exact .inr (.inr (hEnded.frame (hSame o')))
  · intro o' hBeyond
    have hNe : o' ≠ o := by
      rintro rfl
      exact Nat.lt_irrefl _ (Nat.lt_of_lt_of_le hLiving.lt (hNext ▸ hBeyond))
    rw [hObjs, Function.update_of_ne hNe, hOpens, hClosed, hFreed]
    exact h.beyond o' (hNext ▸ hBeyond)

theorem Sound.build (h : w.Sound users) (hClient : w.clients c = .opening idx .reading)
    (hTab : w.table idx = none)
    (hClients : w'.clients = Function.update w.clients c (.opening idx (.numbering w.nextObj)))
    (hObjs : w'.objs = Function.update w.objs w.nextObj { refCount := 1 })
    (hTable : w'.table = w.table) (hOpens : w'.opens = w.opens) (hClosed : w'.closed = w.closed)
    (hFreed : w'.freed = w.freed) (hNext : w'.nextObj = w.nextObj + 1)
    (hMax : w'.maxSensors = w.maxSensors)
    (hIntf : ∀ c', (w'.clients c').holdsIntf = true → w'.intfLock = some c')
    (hFaults : w'.faults = w.faults) :
    w'.Sound (Function.update users w.nextObj (c :: users w.nextObj)) := by
  have hLe : w.nextObj ≤ w'.nextObj := by
    rw [hNext]
    exact Nat.le_succ _
  have hSame : ∀ o', o' < w.nextObj → w.Same w'.toCamHeap o' := by
    intro o' hLt
    refine .of_objs ?_ (by rw [hOpens]) (by rw [hClosed]) (by rw [hFreed])
    rw [hObjs, Function.update_of_ne (Nat.ne_of_lt hLt)]
  have hOld : (w.clients c).holds = none := by
    rw [hClient]
    rfl
  have hNobody : users w.nextObj = [] := by
    refine List.eq_nil_iff_forall_not_mem.mpr fun c' hMem => ?_
    exact Nat.lt_irrefl _ (h.lt_of_holds ((h.members _ c').mp hMem))
  have hIdx : idx < 256 := by
    have hFits := h.fits c
    rwa [hClient] at hFits
  obtain ⟨-, hOpensNone, hClosedNone, hFreedNone⟩ := h.beyond w.nextObj (Nat.le_refl _)
  refine ⟨hIntf, ?_, ?_, h.members_add hClients hOld rfl, ?_, ?_, ?_, ?_, ?_, ?_,
    hFaults.trans h.faults⟩
  · refine forall_clients (P := w'.Fits) hClients ?_ fun c' _ => ?_
    · refine ⟨(congrFun hTable idx).trans hTab, hIdx, ?_, ?_, ?_, ?_, ?_⟩
      · rw [hObjs, Function.update_self]
      · rw [hNext]
        exact Nat.lt_succ_self _
      · rw [hOpens, hOpensNone]
      · rw [hClosed, hClosedNone]
      · rw [hFreed, hFreedNone]
    · exact (h.fits c').frame hLe (fun _ _ => congrFun hTable _)
        (fun o' hHolds => (hSame o' (h.lt_of_holds hHolds)).myHdl)
        fun o' hSole => hSame o' ((h.fits c').lt_of_sole hSole)
  · refine (Function.forall_update_iff users fun _ l => l.Nodup).mpr ⟨?_, fun o' _ => h.nodup o'⟩
    rw [hNobody]
    exact List.nodup_singleton c
  · intro o' hNotFreed
    rw [hObjs] at hNotFreed ⊢
    rcases eq_or_ne o' w.nextObj with rfl | hNe
    · rw [Function.update_self, Function.update_self, hNobody]
      rfl
    · rw [Function.update_of_ne hNe] at hNotFreed ⊢
      rw [Function.update_of_ne hNe]
      exact h.count o' hNotFreed
  · intro idx' o' hTab'
    rw [hTable] at hTab'
    obtain ⟨hPublished, hUsers⟩ := h.table idx' o' hTab'
    have hLt := hPublished.living.lt
    rw [Function.update_of_ne (Nat.ne_of_lt hLt)]
    exact ⟨hPublished.frame (hSame o' hLt) hLe hMax, hUsers⟩
  · refine h.sole_of_update hClients fun o' hSole' c' _ hAlso => ?_
    cases hSole'
    exact Nat.lt_irrefl _ ((h.fits c').lt_of_sole hAlso)
  · rw [hTable]
    refine forall_clients (P := fun y => ∀ o', y.sole = some o' → ∀ idx, w.table idx ≠ some o')
      hClients ?_ fun c' _ => h.unlisted c'
    intro o' hSole' idx' hTab'
    cases hSole'
    exact Nat.lt_irrefl _ (h.table idx' _ hTab').1.living.lt
  · intro o' hLt'
    rw [hNext] at hLt'
    rw [hTable]
    rcases Nat.eq_or_lt_of_le (Nat.le_of_lt_succ hLt') with rfl | hLt
    · refine .inr (.inl ⟨c, ?_⟩)
      rw [hClients, Function.update_self]
      rfl
    · rcases h.ends o' hLt with hTab' | ⟨c', hSole'⟩ | hEnded
      · exact .inl hTab'
      · have hNe : c' ≠ c := by
          rintro rfl
          rw [hClient] at hSole'
          cases hSole'
        refine .inr (.inl ⟨c', ?_⟩)
        rw [hClients, Function.update_of_ne hNe]
        exact hSole'
      · exact .inr (.inr (hEnded.frame (hSame o' hLt)))
  · intro o' hBeyond
    rw [hNext] at hBeyond
    rw [hObjs, Function.update_of_ne (Nat.ne_of_gt hBeyond), hOpens, hClosed, hFreed]
    exact h.beyond o' (Nat.le_of_lt hBeyond)

theorem Sound.publish (h : w.Sound users) (hClient : w.clients c = .opening idx (.devOpening o))
    (hSensor : Driver.indexByHandler (w.objs o).myHdl < w.maxSensors)
    (hClients : w'.clients = Function.update w.clients c (.opening idx (.published o)))
    (hObjs : w'.objs = w.objs) (hTable : w'.table = Function.update w.table idx (some o))
    (hOpens : w'.opens = w.opens ++ [o]) (hClosed : w'.closed = w.closed)
    (hFreed : w'.freed = w.freed) (hNext : w'.nextObj = w.nextObj)
    (hMax : w'.maxSensors = w.maxSensors)
    (hIntf : ∀ c', (w'.clients c').holdsIntf = true → w'.intfLock = some c')
    (hFaults : w'.faults = w.faults) : w'.Sound users := by
  have hLe : w.nextObj ≤ w'.nextObj := Nat.le_of_eq hNext.symm
  have hOther : ∀ o', o' ≠ o → w.Same w'.toCamHeap o' := by
    intro o' hNe
    refine .of_objs (by rw [hObjs]) ?_ (by rw [hClosed]) (by rw [hFreed])
    rw [hOpens, List.count_append, List.count_singleton, if_neg (by simpa using hNe.symm)]
    rfl
  have hIn : w.intfLock = some c := h.intf c (by rw [hClient]; rfl)
  have hOld : (w.clients c).sole = some o := by
    rw [hClient]
    rfl
  have hHolds : (w.clients c).holds = some o := by
    rw [hClient]
    rfl
  have hFits := h.fits c
  rw [hClient] at hFits
  obtain ⟨hTab, hLiving, hInit, hIndex⟩ := hFits
  have hElsewhere : ∀ c', c' ≠ c → ∀ o', (w.clients c').holds = some o' →
      w'.table (w.clients c').idx = w.table (w.clients c').idx := by
    intro c' hNe o' hHolds'
    rw [hTable]
    refine Function.update_of_ne (fun hIdx => ?_) ..
    rcases CamClient.sole_of_holds hHolds' with hNone | hSome
    · have hTab' := (h.fits c').listed hHolds' hNone
      rw [hIdx, hTab] at hTab'
      cases hTab'
    · have hIn' := h.intf c' (CamClient.holdsIntf_of_building hHolds' hSome)
      exact hNe (Option.some.inj (hIn'.symm.trans hIn))
  have hListed : ∀ idx' o', w.table idx' = some o' → idx' ≠ idx ∧ o' ≠ o := by
    refine fun idx' o' hTab' => ⟨?_, ?_⟩
    · rintro rfl
      cases hTab.symm.trans hTab'
    · rintro rfl
      exact h.unlisted c _ hOld idx' hTab'
  refine ⟨hIntf, ?_, h.nodup, ?_, ?_, ?_, ?_, ?_, ?_, ?_, hFaults.trans h.faults⟩
  · refine forall_clients (P := w'.Fits) hClients ?_ fun c' hNe => ?_
    · show w'.table idx = some o
      rw [hTable]
      exact Function.update_self ..
    · refine (h.fits c').frame hLe (hElsewhere c' hNe) (fun o' _ => by rw [hObjs])
        fun o' hSole' => hOther o' ?_
      rintro rfl
      exact hNe (h.sole c' c _ hSole' hOld)
  · intro o' c'
    rw [h.members, hClients]
    rcases eq_or_ne c' c with rfl | hNe
    · rw [Function.update_self, hHolds]
      rfl
    · rw [Function.update_of_ne hNe]
  · rw [hObjs]
    exact h.count
  · intro idx' o' hTab'
    rw [hTable] at hTab'
    rcases eq_or_ne idx' idx with rfl | hIdx
    · rw [Function.update_self] at hTab'
      cases hTab'
      refine ⟨⟨⟨?_, ?_, ?_, ?_, ?_⟩, ?_, ?_, ?_⟩, ?_⟩
      · rw [hObjs, hLiving.notFreed]
      · exact Nat.lt_of_lt_of_le hLiving.lt hLe
      · rw [hOpens, List.count_append, hLiving.opens, List.count_singleton_self]
      · rw [hClosed, hLiving.closed]
      · rw [hFreed, hLiving.freed]
      · rw [hObjs, hInit]
      · rw [hObjs, hIndex]
      · rw [hMax, ← hIndex]
        exact hSensor
      · exact List.ne_nil_of_mem ((h.members o c).mpr hHolds)
    · rw [Function.update_of_ne hIdx] at hTab'
      obtain ⟨hPublished, hUsers⟩ := h.table idx' o' hTab'
      exact ⟨hPublished.frame (hOther o' (hListed idx' o' hTab').2) hLe hMax, hUsers⟩
  · exact h.sole_of_update hClients nofun
  · rw [hTable]
    refine forall_clients (P := fun y => ∀ o', y.sole = some o' →
      ∀ idx', Function.update w.table idx (some o) idx' ≠ some o') hClients nofun
      fun c' hNe o' hSole' idx' => ?_
    rcases eq_or_ne idx' idx with rfl | hIdx
    · rw [Function.update_self]
      intro hEq
      cases hEq
      exact hNe (h.sole c' c o hSole' hOld)
    · rw [Function.update_of_ne hIdx]
      exact h.unlisted c' o' hSole' idx'
  · intro o' hLt'
    rcases eq_or_ne o' o with rfl | hNe
    · refine .inl ⟨idx, ?_⟩
      rw [hTable]
      exact Function.update_self ..
    · rcases h.ends o' (hNext ▸ hLt') with ⟨idx', hTab'⟩ | ⟨c', hSole'⟩ | hEnded
      · refine .inl ⟨idx', ?_⟩
        rw [hTable, Function.update_of_ne (hListed idx' o' hTab').1]
        exact hTab'
      · have hOther' : c' ≠ c := by
          rintro rfl
          exact hNe (Option.some.inj (hSole'.symm.trans hOld))
        refine .inr (.inl ⟨c', ?_⟩)
        rw [hClients, Function.update_of_ne hOther']
        exact hSole'
      · exact .inr (.inr (hEnded.frame (hOther o' hNe)))
  · intro o' hBeyond
    have hNe : o' ≠ o := by
      rintro rfl
      exact Nat.lt_irrefl _ (Nat.lt_of_lt_of_le hLiving.lt (hNext ▸ hBeyond))
    have hSame := hOther o' hNe
    obtain ⟨hEmpty, hCounts⟩ := h.beyond o' (hNext ▸ hBeyond)
    rw [hObjs, hSame.opens, hSame.closed, hSame.freed]
    exact ⟨hEmpty, hCounts⟩

end KiwiDevice.Camera.CamWorld

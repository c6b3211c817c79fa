import KiwiDevice.Camera.ObjectTable

/-!
# Camera objects over whole runs

Every step of every client keeps what is known about the users of the objects.
-/

namespace KiwiDevice.Camera.CamWorld

variable {w w' : CamWorld} {c c' o idx hdl : Nat} {x : CamClient} {users : Nat → List Nat}

theorem useObj_faults (h : (w.objs o).freed = false) : (w.useObj o).faults = w.faults :=
  if_neg (by rw [h]; nofun)

theorem useLock_faults (holder : Option Nat) (h : (w.objs o).freed = false)
    (hInit : (w.objs o).lockInit = true) : (w.useLock o holder).faults = w.faults :=
  if_neg (by rw [h, hInit]; nofun)

theorem Sound.intf_of_step (h : w.Sound users)
    (hHolds : x.holdsIntf = true → (w.clients c).holdsIntf = true) (c' : Nat)
    (hIn : (Function.update w.clients c x c').holdsIntf = true) : w.intfLock = some c' := by
  rcases eq_or_ne c' c with rfl | hNe
  · rw [Function.update_self] at hIn
    exact h.intf c' (hHolds hIn)
  · rw [Function.update_of_ne hNe] at hIn
    exact h.intf c' hIn

theorem Sound.intf_of_change {holder : Option Nat} (h : w.Sound users)
    (hIntf : w.intfLock = some c ∨ w.intfLock = none)
    (hHolds : x.holdsIntf = true → holder = some c)
    (c' : Nat) (hIn : (Function.update w.clients c x c').holdsIntf = true) : holder = some c' := by
  rcases eq_or_ne c' c with rfl | hNe
  · rw [Function.update_self] at hIn
    exact hHolds hIn
  · rw [Function.update_of_ne hNe] at hIn
    have hHolder := h.intf c' hIn
    rcases hIntf with hMine | hFree
    · exact absurd (Option.some.inj (hHolder.symm.trans hMine)) hNe
    · cases hHolder.symm.trans hFree

theorem Sound.found (h : w.Sound users) (hTab : w.table idx = some o) :
    w.utilGetCameraByHandler (w.objs o).myHdl = some o ∧
      w.useCandidate (w.objs o).myHdl = w.useObj o := by
  obtain ⟨hPublished, -⟩ := h.table idx o hTab
  have hCandidate : w.candidate (w.objs o).myHdl = some o := by
    rw [candidate, hPublished.index, if_pos hPublished.sensor, hTab]
  refine ⟨?_, ?_⟩
  · rw [utilGetCameraByHandler, hCandidate]
    exact if_pos (decide_eq_true rfl)
  · rw [useCandidate, hCandidate]

theorem Sound.openStep {ok : Bool} {stage : OpenStage} (h : w.Sound users)
    (hClient : w.clients c = .opening idx stage) :
    ∃ users', (w.openStep c idx ok stage).Sound users' := by
  have hFits := h.fits c
  rw [hClient] at hFits
  cases stage with
  | reading =>
    have hIn : (w.clients c).holdsIntf = true := by
      rw [hClient]
      rfl
    rw [CamWorld.openStep]
    split
    · rename_i o hTab
      exact ⟨_, h.addReference hClient hTab rfl rfl rfl rfl rfl rfl rfl rfl
        (h.intf_of_step fun _ => hIn) (useObj_faults (h.table idx o hTab).1.living.notFreed)⟩
    · rename_i hTab
      split
      · exact ⟨_, h.build hClient hTab rfl rfl rfl rfl rfl rfl rfl rfl
          (h.intf_of_step fun _ => hIn) rfl⟩
      · exact ⟨users, h.move rfl rfl (h.intf_of_step fun _ => hIn) (by rw [hClient]; rfl)
          (by rw [hClient]; rfl) trivial rfl⟩
  | counted o =>
    have hIn := h.intf c (by rw [hClient]; rfl)
    exact ⟨users, h.move rfl rfl (h.intf_of_change (.inl hIn) Bool.noConfusion)
      (by rw [hClient]; rfl) (by rw [hClient]; rfl) hFits rfl⟩
  | rereading o =>
    have hTab : w.table idx = some o := hFits
    rw [CamWorld.openStep, hTab]
    exact ⟨users, h.move rfl rfl (h.intf_of_step Bool.noConfusion) (by rw [hClient]; rfl)
      (by rw [hClient]; rfl) hFits rfl⟩
  | numbering o =>
    have hOld : (w.clients c).sole = some o := by
      rw [hClient]
      rfl
    obtain ⟨hTab, hIdx, hLiving⟩ := hFits
    have hObj : Function.update w.objs o { w.objs o with
        myHdl := utilGenerateHandler (Jpeg.nextHistoryCount w.historyCount) idx
        lockInit := true } o = _ := Function.update_self ..
    have hFreed := congrArg CameraObj.freed hObj
    have hCount := congrArg CameraObj.refCount hObj
    have hInit := congrArg CameraObj.lockInit hObj
    have hHdl := congrArg CameraObj.myHdl hObj
    refine ⟨users, h.work hOld rfl rfl (by rw [hClient]; rfl) rfl rfl rfl
      (fun o' hNe => ⟨Function.update_of_ne hNe .., rfl, rfl, rfl⟩) hFreed hCount
      (h.intf_of_step fun _ => by rw [hClient]; rfl) ⟨hTab, ?_, hInit, ?_⟩
      (useObj_faults hLiving.notFreed)⟩
    · exact ⟨hFreed.trans hLiving.notFreed, hLiving.lt, hLiving.opens, hLiving.closed,
        hLiving.freed⟩
    · exact (congrArg Driver.indexByHandler hHdl).trans (index_utilGenerateHandler _ hIdx)
  | devOpening o =>
    have hOld : (w.clients c).sole = some o := by
      rw [hClient]
      rfl
    obtain ⟨hTab, hLiving, hInit, hIndex⟩ := hFits
    rw [CamWorld.openStep]
    split
    · rename_i hOpened
      exact ⟨users, h.publish hClient hOpened.2 rfl rfl rfl rfl rfl rfl rfl rfl
        (h.intf_of_step fun _ => by rw [hClient]; rfl) (useObj_faults hLiving.notFreed)⟩
    · have hObj : Function.update w.objs o
          { w.objs o with lockInit := false, freed := true } o = _ := Function.update_self ..
      have hFreed := congrArg CameraObj.freed hObj
      refine ⟨_, h.finish (o := o) hOld rfl rfl rfl ?_ rfl rfl (fun o' hNe =>
        ⟨Function.update_of_ne hNe .., rfl, rfl, ?_⟩) ⟨hFreed, ?_, ?_, ?_⟩
        (h.intf_of_step fun _ => by rw [hClient]; rfl) trivial
        (useLock_faults none hLiving.notFreed hInit)⟩
      · exact Function.update_eq_self_iff.mpr hTab.symm
      · exact List.count_append.trans (by simp [hNe.symm])
      · exact List.count_append.trans (by rw [hLiving.freed, List.count_singleton_self])
      · exact hLiving.closed.trans hLiving.opens.symm
      · exact Nat.le_trans (Nat.le_of_eq hLiving.opens) (Nat.zero_le 1)
  | published o =>
    have hIn := h.intf c (by rw [hClient]; rfl)
    exact ⟨users, h.move rfl rfl (h.intf_of_change (.inl hIn) Bool.noConfusion)
      (by rw [hClient]; rfl) (by rw [hClient]; rfl) hFits rfl⟩
  | refused =>
    have hIn := h.intf c (by rw [hClient]; rfl)
    exact ⟨users, h.move rfl rfl (h.intf_of_change (.inl hIn) Bool.noConfusion)
      (by rw [hClient]; rfl) (by rw [hClient]; rfl) trivial rfl⟩

theorem Sound.opStep {vtbl : Nat} {stage : OpStage} (h : w.Sound users)
    (hClient : w.clients c = .op idx vtbl stage) (hStep : w.opStep c idx vtbl stage = some w') :
    w'.Sound users := by
  have hFits := h.fits c
  rw [hClient] at hFits
  have hHolds : (w.clients c).holds = some vtbl := by
    rw [hClient]
    rfl
  have hSole : (w.clients c).sole = none := by
    rw [hClient]
    rfl
  cases stage with
  | locking hdl =>
    rw [CamWorld.opStep] at hStep
    split at hStep
    · rename_i hFree
      cases hStep
      exact h.move rfl rfl (h.intf_of_change (.inr hFree) fun _ => rfl) hHolds.symm hSole.symm hFits
        rfl
    · cases hStep
  | finding hdl =>
    obtain ⟨hTab, hHdl⟩ := hFits
    obtain ⟨hFound, hUse⟩ := h.found hTab
    rw [CamWorld.opStep, hHdl, hFound, hUse] at hStep
    cases hStep
    exact h.move rfl rfl (h.intf_of_step fun _ => by rw [hClient]; rfl) hHolds.symm hSole.symm
      ⟨hTab, rfl⟩ (useObj_faults (h.table idx vtbl hTab).1.living.notFreed)
  | camLocking o =>
    obtain ⟨hTab, rfl⟩ := hFits
    obtain ⟨hPublished, -⟩ := h.table idx o hTab
    rw [CamWorld.opStep] at hStep
    split at hStep
    · cases hStep
      exact h.move rfl rfl (h.intf_of_step fun _ => by rw [hClient]; rfl) hHolds.symm hSole.symm
        ⟨hTab, rfl⟩ (useLock_faults (some c) hPublished.living.notFreed hPublished.lockInit)
    · cases hStep
  | handing o =>
    have hIn := h.intf c (by rw [hClient]; rfl)
    cases hStep
    exact h.move rfl rfl (h.intf_of_change (.inl hIn) Bool.noConfusion) hHolds.symm hSole.symm hFits
      rfl
  | running o =>
    obtain ⟨hTab, rfl⟩ := hFits
    obtain ⟨hPublished, -⟩ := h.table idx o hTab
    cases hStep
    exact h.move rfl rfl (h.intf_of_step Bool.noConfusion) hHolds.symm hSole.symm ⟨hTab, rfl⟩
      (useLock_faults none hPublished.living.notFreed hPublished.lockInit)
  | tail o =>
    cases hStep
    exact h.move rfl rfl (h.intf_of_step Bool.noConfusion) hHolds.symm hSole.symm hFits.1 rfl
  | leaving =>
    have hIn := h.intf c (by rw [hClient]; rfl)
    cases hStep
    exact h.move rfl rfl (h.intf_of_change (.inl hIn) Bool.noConfusion) hHolds.symm hSole.symm hFits
      rfl

theorem Sound.closeStep {vtbl : Nat} {stage : CloseStage} (h : w.Sound users)
    (hClient : w.clients c = .closing idx vtbl stage)
    (hStep : w.closeStep c idx vtbl stage = some w') : ∃ users', w'.Sound users' := by
  have hFits := h.fits c
  rw [hClient] at hFits
  cases stage with
  | locking hdl =>
    rw [CamWorld.closeStep] at hStep
    split at hStep
    · rename_i hFree
      cases hStep
      exact ⟨users, h.move rfl rfl (h.intf_of_change (.inr hFree) fun _ => rfl) (by rw [hClient]; rfl)
        (by rw [hClient]; rfl) hFits rfl⟩
    · cases hStep
  | finding hdl =>
    obtain ⟨hTab, hHdl⟩ := hFits
    obtain ⟨hFound, hUse⟩ := h.found hTab
    obtain ⟨hPublished, -⟩ := h.table idx vtbl hTab
    have hFaults := useObj_faults hPublished.living.notFreed
    rw [CamWorld.closeStep, hHdl, hFound, hUse] at hStep
    simp only at hStep
    split at hStep
    · rename_i hMore
      cases hStep
      exact ⟨_, h.dropReference hClient hMore rfl rfl rfl rfl rfl rfl rfl rfl
        (h.intf_of_step fun _ => by rw [hClient]; rfl) hFaults⟩
    · rename_i hLast
      cases hStep
      have hIdx : (w.objs vtbl).myHdl % 256 = idx := hPublished.index
      exact ⟨_, h.unpublish hClient (Int.not_lt.mp hLast) rfl rfl
        (congrArg (fun k => Function.update w.table k none) hIdx) rfl rfl rfl rfl rfl
        (h.intf_of_step fun _ => by rw [hClient]; rfl) hFaults⟩
  | leaving =>
    have hIn := h.intf c (by rw [hClient]; rfl)
    cases hStep
    exact ⟨users, h.move rfl rfl (h.intf_of_change (.inl hIn) Bool.noConfusion) (by rw [hClient]; rfl)
      (by rw [hClient]; rfl) trivial rfl⟩
  | camLocking o =>
    rw [CamWorld.closeStep] at hStep
    split at hStep
    · cases hStep
      exact ⟨users, h.move rfl rfl (h.intf_of_step fun _ => by rw [hClient]; rfl)
        (by rw [hClient]; rfl) (by rw [hClient]; rfl) hFits
        (useLock_faults (some c) hFits.1.notFreed hFits.2)⟩
    · cases hStep
  | handing o =>
    have hIn := h.intf c (by rw [hClient]; rfl)
    cases hStep
    exact ⟨users, h.move rfl rfl (h.intf_of_change (.inl hIn) Bool.noConfusion) (by rw [hClient]; rfl)
      (by rw [hClient]; rfl) hFits rfl⟩
  | devClosing o =>
    obtain ⟨hLiving, hInit⟩ := hFits
    cases hStep
    refine ⟨users, h.work (o := o) (by rw [hClient]; rfl) rfl rfl (by rw [hClient]; rfl) rfl rfl rfl
      (fun o' hNe => ⟨rfl, rfl, ?_, rfl⟩) rfl rfl (h.intf_of_step Bool.noConfusion)
      ⟨⟨hLiving.notFreed, hLiving.lt, hLiving.opens, ?_, hLiving.freed⟩, hInit⟩
      (useLock_faults none hLiving.notFreed hInit)⟩
    · exact List.count_append.trans (by simp [hNe.symm])
    · exact List.count_append.trans (by rw [hLiving.closed, List.count_singleton_self])
  | destroying o =>
    obtain ⟨hLiving, hInit⟩ := hFits
    have hObj : Function.update w.objs o
        { w.objs o with lockInit := false, freed := true } o = _ := Function.update_self ..
    have hFreed := congrArg CameraObj.freed hObj
    cases hStep
    refine ⟨_, h.finish (o := o) (by rw [hClient]; rfl) rfl rfl rfl rfl rfl rfl
      (fun o' hNe => ⟨Function.update_of_ne hNe .., rfl, rfl, ?_⟩) ⟨hFreed, ?_, ?_, ?_⟩
      (h.intf_of_step Bool.noConfusion) trivial (useLock_faults none hLiving.notFreed hInit)⟩
    · exact List.count_append.trans (by simp [hNe.symm])
    · exact List.count_append.trans (by rw [hLiving.freed, List.count_singleton_self])
    · exact hLiving.closed.trans hLiving.opens.symm
    · exact Nat.le_of_eq hLiving.opens

theorem Sound.step {i : Input} (h : w.Sound users) (hStep : w.step i = some w') :
    ∃ users', w'.Sound users' := by
  cases i with
  | cameraOpen c idx =>
    rw [CamWorld.step] at hStep
    split at hStep
    · rename_i hClient
      split at hStep
      · cases hStep
        exact ⟨users, h⟩
      · split at hStep
        · rename_i hFree
          cases hStep
          exact ⟨users, h.move rfl rfl (h.intf_of_change (.inr hFree) fun _ => rfl)
            (by rw [hClient]; rfl) (by rw [hClient]; rfl) idx.isLt rfl⟩
        · cases hStep
    · cases hStep
  | operation c =>
    rw [CamWorld.step] at hStep
    split at hStep
    · rename_i idx o hClient
      cases hStep
      have hFits := h.fits c
      rw [hClient] at hFits
      exact ⟨users, h.move rfl rfl (h.intf_of_step Bool.noConfusion) (by rw [hClient]; rfl)
        (by rw [hClient]; rfl) ⟨hFits, rfl⟩
        (useObj_faults (h.table idx o hFits).1.living.notFreed)⟩
    · cases hStep
  | closeCamera c =>
    rw [CamWorld.step] at hStep
    split at hStep
    · rename_i idx o hClient
      cases hStep
      have hFits := h.fits c
      rw [hClient] at hFits
      exact ⟨users, h.move rfl rfl (h.intf_of_step Bool.noConfusion) (by rw [hClient]; rfl)
        (by rw [hClient]; rfl) ⟨hFits, rfl⟩
        (useObj_faults (h.table idx o hFits).1.living.notFreed)⟩
    · cases hStep
  | touch c =>
    have hTouch : ∀ idx vtbl o, w.table idx = some vtbl ∧ o = vtbl →
        (w.useObj o).Sound users := by
      rintro idx _ o ⟨hTab, rfl⟩
      have hFaults := useObj_faults (h.table idx o hTab).1.living.notFreed
      exact ⟨h.intf, h.fits, h.nodup, h.members, h.count, h.table, h.sole, h.unlisted, h.ends,
        h.beyond, hFaults.trans h.faults⟩
    rw [CamWorld.step] at hStep
    split at hStep
    · rename_i idx vtbl o hClient
      have hFits := h.fits c
      rw [hClient] at hFits
      cases hStep
      exact ⟨users, hTouch idx vtbl o hFits⟩
    · rename_i idx vtbl o hClient
      have hFits := h.fits c
      rw [hClient] at hFits
      cases hStep
      exact ⟨users, hTouch idx vtbl o hFits⟩
    · cases hStep
  | otherHandle =>
    cases hStep
    exact ⟨users, h.intf, h.fits, h.nodup, h.members, h.count, h.table, h.sole, h.unlisted, h.ends,
      h.beyond, h.faults⟩
  | run c ok =>
    rw [CamWorld.step] at hStep
    split at hStep
    · cases hStep
    · cases hStep
    · rename_i idx stage hClient
      cases hStep
      exact h.openStep hClient
    · rename_i idx vtbl stage hClient
      exact ⟨users, h.opStep hClient hStep⟩
    · rename_i idx vtbl stage hClient
      exact h.closeStep hClient hStep

theorem sound_start {maxSensors numCam : Nat} :
    Sound { maxSensors := maxSensors, numCam := numCam } fun _ => [] where
  intf := nofun
  fits _ := trivial
  nodup _ := List.nodup_nil
  members _ _ := iff_of_false List.not_mem_nil nofun
  count _ _ := rfl
  table := nofun
  sole := nofun
  unlisted := nofun
  ends _ hLt := absurd hLt (Nat.not_lt_zero _)
  beyond _ _ := ⟨rfl, rfl, rfl, rfl⟩
  faults := rfl

end KiwiDevice.Camera.CamWorld

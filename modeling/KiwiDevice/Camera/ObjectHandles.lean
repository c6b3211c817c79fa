import KiwiDevice.Camera.ObjectRuns

/-!
# The lives of camera objects

An object lives from its `camera_open` to the close of its last user, and as long as the counter
does not wrap around, its handle is its own.
-/

namespace KiwiDevice.Camera.CamWorld

variable {w w' : CamWorld} {c o idx : Nat} {users : Nat → List Nat}

/-- What a step does to the handles: nothing, or it draws one, for an object or for something
else. -/
inductive Draws (w w' : CamWorld) : Prop where
  | none (myHdl : ∀ o, (w'.objs o).myHdl = (w.objs o).myHdl)
      (historyCount : w'.historyCount = w.historyCount) (generated : w'.generated = w.generated)
  | other (myHdl : ∀ o, (w'.objs o).myHdl = (w.objs o).myHdl)
      (historyCount : w'.historyCount = Jpeg.nextHistoryCount w.historyCount)
      (generated : w'.generated = w.generated + 1)
  | object (o idx : Nat) (lt : idx < 256)
      (drawn : (w'.objs o).myHdl =
        utilGenerateHandler (Jpeg.nextHistoryCount w.historyCount) idx)
      (myHdl : ∀ o', o' ≠ o → (w'.objs o').myHdl = (w.objs o').myHdl)
      (historyCount : w'.historyCount = Jpeg.nextHistoryCount w.historyCount)
      (generated : w'.generated = w.generated + 1)

theorem update_myHdl {obj : CameraObj} (h : obj.myHdl = (w.objs o).myHdl) (o' : Nat) :
    (Function.update w.objs o obj o').myHdl = (w.objs o').myHdl := by
  rcases eq_or_ne o' o with rfl | hNe
  · rw [Function.update_self, h]
  · rw [Function.update_of_ne hNe]

theorem Sound.openStep_draws {ok : Bool} {stage : OpenStage} (h : w.Sound users)
    (hClient : w.clients c = .opening idx stage) : Draws w (w.openStep c idx ok stage) := by
  have hFits := h.fits c
  rw [hClient] at hFits
  cases stage with
  | reading =>
    rw [CamWorld.openStep]
    split
    · exact .none (update_myHdl rfl) rfl rfl
    · split
      · refine .none (update_myHdl ?_) rfl rfl
        rw [(h.beyond w.nextObj (Nat.le_refl _)).1]
      · exact .none (fun _ => rfl) rfl rfl
  | counted | published | refused => exact .none (fun _ => rfl) rfl rfl
  | rereading =>
    rw [CamWorld.openStep]
    split
    · exact .none (fun _ => rfl) rfl rfl
    · exact .none (fun _ => rfl) rfl rfl
  | numbering o =>
    have hObj : Function.update w.objs o { w.objs o with
        myHdl := utilGenerateHandler (Jpeg.nextHistoryCount w.historyCount) idx
        lockInit := true } o = _ := Function.update_self ..
    have hHdl := congrArg CameraObj.myHdl hObj
    exact .object o idx hFits.2.1 hHdl
      (fun o' hNe => congrArg CameraObj.myHdl (Function.update_of_ne hNe ..)) rfl rfl
  | devOpening =>
    rw [CamWorld.openStep]
    split
    · exact .none (fun _ => rfl) rfl rfl
    · exact .none (update_myHdl rfl) rfl rfl

theorem useCandidate_heap (w : CamWorld) (hdl : Nat) :
    (w.useCandidate hdl).toCamHeap = w.toCamHeap ∧
    (w.useCandidate hdl).historyCount = w.historyCount ∧
    (w.useCandidate hdl).generated = w.generated := by
  rw [useCandidate]
  split
  · exact ⟨rfl, rfl, rfl⟩
  · exact ⟨rfl, rfl, rfl⟩

theorem opStep_draws {vtbl : Nat} {stage : OpStage} (hStep : w.opStep c idx vtbl stage = some w') :
    Draws w w' := by
  cases stage with
  | locking | camLocking =>
    rw [CamWorld.opStep] at hStep
    split at hStep
    · cases hStep
      exact .none (fun _ => rfl) rfl rfl
    · cases hStep
  | handing | running | tail | leaving =>
    cases hStep
    exact .none (fun _ => rfl) rfl rfl
  | finding hdl =>
    obtain ⟨hHeap, hCount, hGenerated⟩ := useCandidate_heap w hdl
    have hHdl : ∀ o, ((w.useCandidate hdl).objs o).myHdl = (w.objs o).myHdl := fun o => by rw [hHeap]
    rw [CamWorld.opStep] at hStep
    split at hStep
    · cases hStep
      exact .none hHdl hCount hGenerated
    · cases hStep
      exact .none hHdl hCount hGenerated

theorem closeStep_draws {vtbl : Nat} {stage : CloseStage}
    (hStep : w.closeStep c idx vtbl stage = some w') : Draws w w' := by
  cases stage with
  | locking | camLocking =>
    rw [CamWorld.closeStep] at hStep
    split at hStep
    · cases hStep
      exact .none (fun _ => rfl) rfl rfl
    · cases hStep
  | leaving | handing | devClosing =>
    cases hStep
    exact .none (fun _ => rfl) rfl rfl
  | destroying =>
    cases hStep
    exact .none (update_myHdl rfl) rfl rfl
  | finding hdl =>
    obtain ⟨hHeap, hCount, hGenerated⟩ := useCandidate_heap w hdl
    have hObjs : (w.useCandidate hdl).objs = w.objs := by rw [hHeap]
    have hHdl : ∀ o obj, obj.myHdl = (w.objs o).myHdl → ∀ o',
        (Function.update (w.useCandidate hdl).objs o obj o').myHdl = (w.objs o').myHdl := by
      intro o obj hSame o'
      rw [hObjs]
      exact update_myHdl hSame o'
    rw [CamWorld.closeStep] at hStep
    split at hStep
    · rename_i o hFound
      simp only at hStep
      split at hStep
      · cases hStep
        exact .none (hHdl o _ rfl) hCount hGenerated
      · cases hStep
        exact .none (hHdl o _ rfl) hCount hGenerated
    · cases hStep
      exact .none (fun o => by rw [← hObjs]; rfl) hCount hGenerated

theorem Sound.draws {i : Input} (h : w.Sound users) (hStep : w.step i = some w') : Draws w w' := by
  cases i with
  | cameraOpen c idx =>
    rw [CamWorld.step] at hStep
    split at hStep
    · split at hStep
      · cases hStep
        exact .none (fun _ => rfl) rfl rfl
      · split at hStep
        · cases hStep
          exact .none (fun _ => rfl) rfl rfl
        · cases hStep
    · cases hStep
  | operation | closeCamera =>
    rw [CamWorld.step] at hStep
    split at hStep
    · cases hStep
      exact .none (fun _ => rfl) rfl rfl
    · cases hStep
  | touch =>
    rw [CamWorld.step] at hStep
    split at hStep
    · cases hStep
      exact .none (fun _ => rfl) rfl rfl
    · cases hStep
      exact .none (fun _ => rfl) rfl rfl
    · cases hStep
  | otherHandle =>
    cases hStep
    exact .other (fun _ => rfl) rfl rfl
  | run c ok =>
    rw [CamWorld.step] at hStep
    split at hStep
    · cases hStep
    · cases hStep
    · rename_i idx stage hClient
      cases hStep
      exact h.openStep_draws hClient
    · exact opStep_draws hStep
    · exact closeStep_draws hStep

/-- Before the counter wraps around, no handle is drawn twice. -/
structure Numbered (w : CamWorld) : Prop where
  count : w.historyCount = w.generated
  drawn : ∀ o, (w.objs o).myHdl / 256 ≤ w.generated
  distinct : ∀ o o', (w.objs o).myHdl ≠ 0 → (w.objs o).myHdl = (w.objs o').myHdl → o = o'

theorem nextHistoryCount_of_lt {count : Nat} (h : count + 1 < 2 ^ 16) :
    Jpeg.nextHistoryCount count = count + 1 := by
  simp only [Jpeg.nextHistoryCount, Nat.mod_eq_of_lt h]
  exact if_neg (Nat.succ_ne_zero count)

theorem utilGenerateHandler_number {count index : Nat} (hCount : count < 2 ^ 16)
    (hIndex : index < 256) : utilGenerateHandler count index / 256 = count := by
  have hShift : count <<< 8 % 2 ^ 32 = 2 ^ 8 * count := by
    rw [Nat.shiftLeft_eq, Nat.mul_comm, Nat.mod_eq_of_lt]
    omega
  rw [utilGenerateHandler, Jpeg.generateHandler, hShift,
    ← Nat.two_pow_add_eq_or_of_lt (i := 8) hIndex count]
  omega

theorem Numbered.draws (h : w.generated < 2 ^ 16 → w.Numbered) (hDraws : Draws w w')
    (hLt : w'.generated < 2 ^ 16) : w'.Numbered := by
  cases hDraws with
  | none myHdl historyCount generated =>
    obtain ⟨hCount, hDrawn, hDistinct⟩ := h (generated ▸ hLt)
    refine ⟨?_, fun o => ?_, fun o o' => ?_⟩
    · rw [historyCount, generated, hCount]
    · rw [myHdl, generated]
      exact hDrawn o
    · rw [myHdl, myHdl]
      exact hDistinct o o'
  | other myHdl historyCount generated =>
    rw [generated] at hLt
    obtain ⟨hCount, hDrawn, hDistinct⟩ := h (by omega)
    refine ⟨?_, fun o => ?_, fun o o' => ?_⟩
    · rw [historyCount, generated, hCount, nextHistoryCount_of_lt hLt]
    · rw [myHdl, generated]
      exact Nat.le_succ_of_le (hDrawn o)
    · rw [myHdl, myHdl]
      exact hDistinct o o'
  | object o idx lt drawn myHdl historyCount generated =>
    rw [generated] at hLt
    obtain ⟨hCount, hDrawn, hDistinct⟩ := h (by omega)
    rw [hCount, nextHistoryCount_of_lt hLt] at drawn historyCount
    have hNumber : (w'.objs o).myHdl / 256 = w.generated + 1 := by
      rw [drawn]
      exact utilGenerateHandler_number hLt lt
    have hOther : ∀ o', o' ≠ o → (w'.objs o').myHdl / 256 ≤ w.generated := by
      intro o' hNe
      rw [myHdl o' hNe]
      exact hDrawn o'
    refine ⟨historyCount.trans generated.symm, fun o' => ?_, fun o₁ o₂ hPos hSame => ?_⟩
    · rw [generated]
      rcases eq_or_ne o' o with rfl | hNe
      · exact Nat.le_of_eq hNumber
      · exact Nat.le_succ_of_le (hOther o' hNe)
    · rcases eq_or_ne o₁ o with rfl | hNe₁
      · by_contra hNe
        have hLe := hOther o₂ (Ne.symm hNe)
        rw [← hSame, hNumber] at hLe
        exact Nat.not_succ_le_self _ hLe
      · rcases eq_or_ne o₂ o with rfl | hNe₂
        · have hLe := hOther o₁ hNe₁
          rw [hSame, hNumber] at hLe
          exact absurd hLe (Nat.not_succ_le_self _)
        · rw [myHdl o₁ hNe₁] at hPos hSame
          rw [myHdl o₂ hNe₂] at hSame
          exact hDistinct o₁ o₂ hPos hSame

theorem numbered_start {maxSensors numCam : Nat} :
    Numbered { maxSensors := maxSensors, numCam := numCam } where
  count := rfl
  drawn _ := Nat.le_of_eq (Nat.zero_div 256)
  distinct _ _ hPos := absurd rfl hPos

/-- The objects live as long as their users. `resolves`: the handle of a client that is opened or in
an operation leads to the object of its camera. `used`: while a client has a reference, nothing is
closed or freed. `last`: who closes or builds an object is its last and only user. `ended`: an
object without users was freed once, and closed once if it had been opened. `empty`: a camera
without users has no object. `fresh`: no two objects have one handle. -/
structure Lived (w : CamWorld) : Prop where
  resolves : ∀ c idx o, w.clients c = .opened idx o ∨ (∃ stage, w.clients c = .op idx o stage) →
    w.table idx = some o ∧ w.utilGetCameraByHandler (w.objs o).myHdl = some o
  faults : w.faults = 0
  used : ∀ c o, (w.clients c).holds = some o →
    (w.objs o).freed = false ∧ w.closed.count o = 0 ∧ w.freed.count o = 0
  last : ∀ c c' o, (w.clients c).sole = some o → (w.clients c').holds = some o → c' = c
  once : ∀ o, w.closed.count o ≤ 1 ∧ w.freed.count o ≤ 1
  ended : ∀ o, o < w.nextObj → (∃ c, (w.clients c).holds = some o ∨ (w.clients c).sole = some o) ∨
    w.freed.count o = 1 ∧ w.closed.count o = w.opens.count o
  empty : ∀ idx, (∀ c o, (w.clients c).holds = some o → (w.clients c).idx ≠ idx) →
    w.table idx = none
  fresh : w.generated < 2 ^ 16 → ∀ o o', (w.objs o).myHdl ≠ 0 →
    (w.objs o).myHdl = (w.objs o').myHdl → o = o'

theorem Sound.idx_of_user (h : w.Sound users) (hTab : w.table idx = some o)
    (hHolds : (w.clients c).holds = some o) : (w.clients c).idx = idx := by
  rcases CamClient.sole_of_holds hHolds with hNone | hSome
  · have hListed := (h.table _ o ((h.fits c).listed hHolds hNone)).1
    exact hListed.index.symm.trans (h.table idx o hTab).1.index
  · exact absurd hTab (h.unlisted c o hSome idx)

theorem Sound.counts_of_sole (h : w.Sound users) (hSole : (w.clients c).sole = some o) :
    w.closed.count o ≤ 1 ∧ w.freed.count o = 0 ∧
      ((w.clients c).holds = some o → (w.objs o).freed = false ∧ w.closed.count o = 0) := by
  have hFits := h.fits c
  have hLiving : ∀ opens closed, closed ≤ 1 → w.Living o opens closed →
      ((w.clients c).holds = some o → closed = 0) →
      w.closed.count o ≤ 1 ∧ w.freed.count o = 0 ∧
        ((w.clients c).holds = some o → (w.objs o).freed = false ∧ w.closed.count o = 0) := by
    intro opens closed hLe hLiving hNone
    refine ⟨?_, hLiving.freed, fun hHolds => ⟨hLiving.notFreed, ?_⟩⟩
    · rw [hLiving.closed]
      exact hLe
    · rw [hLiving.closed]
      exact hNone hHolds
  cases hClient : w.clients c with
  | idle | opened | op =>
    rw [hClient] at hSole
    cases hSole
  | opening idx stage =>
    rw [hClient] at hSole hFits hLiving
    cases stage with
    | numbering =>
      cases hSole
      exact hLiving 0 0 (Nat.zero_le 1) hFits.2.2 fun _ => rfl
    | devOpening =>
      cases hSole
      exact hLiving 0 0 (Nat.zero_le 1) hFits.2.1 fun _ => rfl
    | reading | counted | rereading | published | refused => cases hSole
  | closing idx vtbl stage =>
    rw [hClient] at hSole hFits hLiving
    cases stage with
    | camLocking | handing | devClosing =>
      cases hSole
      exact hLiving 1 0 (Nat.zero_le 1) hFits.1 fun _ => rfl
    | destroying =>
      cases hSole
      exact hLiving 1 1 (Nat.le_refl 1) hFits.1 nofun
    | locking | finding | leaving => cases hSole

theorem Sound.lived (h : w.Sound users) (hNumbered : w.generated < 2 ^ 16 → w.Numbered) :
    w.Lived where
  resolves c idx o hClient := by
    have hTab : w.table idx = some o := by
      have hFits := h.fits c
      rcases hClient with hOpened | ⟨stage, hOp⟩
      · rw [hOpened] at hFits
        exact hFits
      · rw [hOp] at hFits
        exact hFits.listed rfl rfl
    exact ⟨hTab, (h.found hTab).1⟩
  faults := h.faults
  used c o hHolds := by
    rcases CamClient.sole_of_holds hHolds with hNone | hSome
    · have hLiving := (h.table _ o ((h.fits c).listed hHolds hNone)).1.living
      exact ⟨hLiving.notFreed, hLiving.closed, hLiving.freed⟩
    · obtain ⟨-, hFreed, hBuilding⟩ := h.counts_of_sole hSome
      exact ⟨(hBuilding hHolds).1, (hBuilding hHolds).2, hFreed⟩
  last c c' o hSole hHolds := h.sole_user hSole hHolds
  once o := by
    rcases Nat.lt_or_ge o w.nextObj with hLt | hGe
    · rcases h.ends o hLt with ⟨idx, hTab⟩ | ⟨c, hSole⟩ | hEnded
      · have hLiving := (h.table idx o hTab).1.living
        rw [hLiving.closed, hLiving.freed]
        exact ⟨Nat.zero_le 1, Nat.zero_le 1⟩
      · obtain ⟨hClosed, hFreed, -⟩ := h.counts_of_sole hSole
        rw [hFreed]
        exact ⟨hClosed, Nat.zero_le 1⟩
      · rw [hEnded.freed, hEnded.closed]
        exact ⟨hEnded.opens, Nat.le_refl 1⟩
    · obtain ⟨-, -, hClosed, hFreed⟩ := h.beyond o hGe
      rw [hClosed, hFreed]
      exact ⟨Nat.zero_le 1, Nat.zero_le 1⟩
  ended o hLt := by
    rcases h.ends o hLt with ⟨idx, hTab⟩ | ⟨c, hSole⟩ | hEnded
    · obtain ⟨c, hUser⟩ := List.exists_mem_of_ne_nil _ (h.table idx o hTab).2
      exact .inl ⟨c, .inl ((h.members o c).mp hUser)⟩
    · exact .inl ⟨c, .inr hSole⟩
    · exact .inr ⟨hEnded.freed, hEnded.closed⟩
  empty idx hNobody := by
    cases hTab : w.table idx with
    | none => rfl
    | some o =>
      obtain ⟨c, hUser⟩ := List.exists_mem_of_ne_nil _ (h.table idx o hTab).2
      have hHolds := (h.members o c).mp hUser
      exact absurd (h.idx_of_user hTab hHolds) (hNobody c o hHolds)
  fresh hLt := (hNumbered hLt).distinct

/-- In every run, a camera object lives exactly as long as its users. -/
theorem lived_of_run {maxSensors numCam : Nat} {is : List Input} {os : List Unit}
    (run : Lib.Steps Next Lib.anyStep { maxSensors := maxSensors, numCam := numCam } is os w) :
    w.Lived := by
  have hKept : (∃ users, w.Sound users) ∧ (w.generated < 2 ^ 16 → w.Numbered) := by
    apply run.invariant (I := fun w => (∃ users, w.Sound users) ∧
      (w.generated < 2 ^ 16 → w.Numbered)) ⟨⟨_, sound_start⟩, fun _ => numbered_start⟩
    rintro _ _ w i _ w' - ⟨⟨users, hSound⟩, hNumbered⟩ hStep
    exact ⟨hSound.step hStep, .draws hNumbered (hSound.draws hStep)⟩
  obtain ⟨⟨users, hSound⟩, hNumbered⟩ := hKept
  exact hSound.lived hNumbered

/-- Two clients share an object; after the last close the next open builds another one. -/
theorem lived_of_run_reopened : ∃ w : CamWorld,
    w.closed = [0] ∧ w.freed = [0] ∧ w.table 0 = some 1 ∧ w.Lived := by
  have hRun : (List.foldlM step ({ maxSensors := 2, numCam := 1 } : CamWorld)
      ([.cameraOpen 0 0] ++ List.replicate 4 (.run 0 true) ++ [.cameraOpen 1 0] ++
        List.replicate 3 (.run 1 true) ++ [.operation 0] ++ List.replicate 4 (.run 0 true) ++
        [.touch 0] ++ List.replicate 2 (.run 0 true) ++ [.closeCamera 0] ++
        List.replicate 3 (.run 0 true) ++ [.closeCamera 1] ++ List.replicate 6 (.run 1 true) ++
        [.cameraOpen 0 0] ++ List.replicate 4 (.run 0 true))).map
      (fun w => (w.closed, w.freed, w.table 0)) = some ([0], [0], some 1) := by
    decide +kernel
  obtain ⟨w, hExec, hEq⟩ := Option.map_eq_some_iff.mp hRun
  simp only [Prod.mk.injEq] at hEq
  obtain ⟨hClosed, hFreed, hTable⟩ := hEq
  exact ⟨w, hClosed, hFreed, hTable, lived_of_run (Lib.Steps.of_silent (fun _ _ _ => id) hExec)⟩

end KiwiDevice.Camera.CamWorld

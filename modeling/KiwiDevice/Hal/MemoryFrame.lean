import KiwiDevice.Hal.CameraMemory

/-!
# What the calls leave alone

Each function of the memory changes slots of one object only. Without a pool, and when ION gives
what is asked for, the slots that were asked for are filled.
-/

namespace KiwiDevice.Hal.MemWorld

open Camera (CamStreamType)

variable {w w' w'' : MemWorld} {o i n size : Nat} {r : MemResults}

/-- The buffer in a slot. -/
abbrev ionOf (w : MemWorld) (o i : Nat) : Option Nat := ((w.objects o).memInfo i).ion

/-- The buffers in a list of the pool. -/
abbrev poolIons (w : MemWorld) (t : CamStreamType) : List (Option Nat) :=
  (w.pools t).map MemInfo.ion

/-- Only slots of the object `o` differ, and who keeps the buffers. -/
structure SlotsOf (o : Nat) (w w' : MemWorld) : Prop where
  heapMask : w'.heapMask = w.heapMask
  other : ∀ o', o' ≠ o → w'.objects o' = w.objects o'
  kind : (w'.objects o).kind = (w.objects o).kind
  cached : (w'.objects o).cached = (w.objects o).cached
  bufferCount : (w'.objects o).bufferCount = (w.objects o).bufferCount
  requested : (w'.objects o).requested = (w.objects o).requested

theorem SlotsOf.refl (o : Nat) (w : MemWorld) : SlotsOf o w w :=
  ⟨rfl, fun _ _ => rfl, rfl, rfl, rfl, rfl⟩

theorem SlotsOf.trans {w'' : MemWorld} (h : SlotsOf o w w') (h' : SlotsOf o w' w'') :
    SlotsOf o w w'' where
  heapMask := h'.heapMask.trans h.heapMask
  other o' hNe := (h'.other o' hNe).trans (h.other o' hNe)
  kind := h'.kind.trans h.kind
  cached := h'.cached.trans h.cached
  bufferCount := h'.bufferCount.trans h.bufferCount
  requested := h'.requested.trans h.requested

theorem slotsOf_of_objects (hMask : w'.heapMask = w.heapMask) (hObjects : w'.objects = w.objects) :
    SlotsOf o w w' := by
  refine ⟨hMask, fun o' _ => ?_, ?_, ?_, ?_, ?_⟩ <;> rw [hObjects]

theorem setObject_same (w : MemWorld) (o : Nat) (x : MemObject) : (w.setObject o x).objects o = x :=
  Function.update_self ..

theorem setObject_of_ne (w : MemWorld) {o o' : Nat} (h : o' ≠ o) (x : MemObject) :
    (w.setObject o x).objects o' = w.objects o' := Function.update_of_ne h ..

theorem setInfo_slotsOf (w : MemWorld) (o i : Nat) (info : MemInfo) :
    SlotsOf o w (w.setInfo o i info) := by
  refine ⟨rfl, fun o' hNe => w.setObject_of_ne hNe _, ?_, ?_, ?_, ?_⟩ <;>
    rw [setInfo, setObject_same]

theorem setMapped_slotsOf (w : MemWorld) (o i : Nat) (value : Bool) :
    SlotsOf o w (w.setMapped o i value) := by
  refine ⟨rfl, fun o' hNe => w.setObject_of_ne hNe _, ?_, ?_, ?_, ?_⟩ <;>
    rw [setMapped, setObject_same]

theorem setInfo_memInfo (w : MemWorld) (o i : Nat) (info : MemInfo) :
    ((w.setInfo o i info).objects o).memInfo i = info := by
  rw [setInfo, setObject_same]
  exact Function.update_self ..

theorem setInfo_memInfo_of_ne (w : MemWorld) {o i o' j : Nat} (info : MemInfo)
    (h : ¬ (o' = o ∧ j = i)) :
    ((w.setInfo o i info).objects o').memInfo j = (w.objects o').memInfo j := by
  rcases eq_or_ne o' o with rfl | hNe
  · rw [setInfo, setObject_same]
    exact Function.update_of_ne (fun hEq => h ⟨rfl, hEq⟩) ..
  · rw [setInfo, w.setObject_of_ne hNe]

theorem setInfo_mapped (w : MemWorld) (o i : Nat) (info : MemInfo) :
    ((w.setInfo o i info).objects o).mapped = (w.objects o).mapped := by
  rw [setInfo, setObject_same]

theorem deallocOneBuffer_objects (w : MemWorld) (info : MemInfo) :
    (w.deallocOneBuffer info).1.heapMask = w.heapMask ∧
      (w.deallocOneBuffer info).1.objects = w.objects := by
  rw [deallocOneBuffer]
  split <;> exact ⟨rfl, rfl⟩

theorem giveBack_slotsOf (w : MemWorld) (o i : Nat) : SlotsOf o w (w.giveBack o i) := by
  rw [giveBack]
  split
  · obtain ⟨hMask, hObjects⟩ := w.deallocOneBuffer_objects ((w.objects o).memInfo i)
    exact (slotsOf_of_objects hMask hObjects).trans (setInfo_slotsOf _ _ _ _)
  · exact slotsOf_of_objects rfl rfl

theorem dealloc_slotsOf (o n i : Nat) (w : MemWorld) : SlotsOf o w (dealloc o n i w) := by
  induction n generalizing i w with
  | zero => exact .refl o w
  | succ n ih => exact (w.giveBack_slotsOf o i).trans (ih (i + 1) _)

theorem markMapped_slotsOf (o : Nat) (value : Bool) (n i : Nat) (w : MemWorld) :
    SlotsOf o w (markMapped o value n i w) := by
  induction n generalizing i w with
  | zero => exact .refl o w
  | succ n ih => exact (w.setMapped_slotsOf o i value).trans (ih (i + 1) _)

theorem deallocate_objects (w : MemWorld) (o : Nat) :
    ((w.deallocate o).objects o).bufferCount = 0 ∧
      ((w.deallocate o).objects o).kind = (w.objects o).kind := by
  rw [deallocate]
  simp only [setObject_same, true_and]
  exact ((markMapped_slotsOf o false _ 0 w).trans (dealloc_slotsOf o _ 0 _)).kind

/-- The slots from `i` on that a loop over `n` of them has filled. -/
structure Filled (o i n : Nat) (w w' : MemWorld) : Prop where
  frame : SlotsOf o w w'
  mapped : (w'.objects o).mapped = (w.objects o).mapped
  live : ∀ b, w.live b = true → w'.live b = true
  other : ∀ j, ¬ (i ≤ j ∧ j < i + n) → (w'.objects o).memInfo j = (w.objects o).memInfo j
  new : ∀ j, i ≤ j → j < i + n → ∃ b, w'.ionOf o j = some b ∧ w'.live b = true

theorem Filled.empty (o i : Nat) (w : MemWorld) : Filled o i 0 w w where
  frame := .refl o w
  mapped := rfl
  live _ hLive := hLive
  other _ _ := rfl
  new _ hLow hHigh := absurd hHigh (Nat.not_lt.mpr hLow)

theorem allocSlot_filled (hPool : (w.objects o).kind.pool = none) (i size : Nat) :
    ∃ w', w.allocSlot o i size true = some w' ∧ Filled o i 1 w w' := by
  rw [allocSlot, slotBuffer]
  simp only [hPool]
  refine ⟨_, rfl, ?_⟩
  have hBuffer : SlotsOf o w (w.allocOneBuffer w.heapMask size (w.objects o).cached true).1 :=
    slotsOf_of_objects rfl rfl
  refine ⟨hBuffer.trans (setInfo_slotsOf _ _ _ _), ?_, ?_, ?_, ?_⟩
  · exact setInfo_mapped _ o i _
  · intro b hLive
    rcases eq_or_ne b w.nextIon with rfl | hNe
    · exact Function.update_self ..
    · exact (Function.update_of_ne hNe ..).trans hLive
  · intro j hOut
    refine setInfo_memInfo_of_ne _ _ ?_
    rintro ⟨-, rfl⟩
    exact hOut ⟨Nat.le_refl _, Nat.lt_succ_self _⟩
  · intro j hLow hHigh
    obtain rfl : j = i := by omega
    refine ⟨w.nextIon, ?_, Function.update_self ..⟩
    rw [ionOf, setInfo_memInfo]

theorem Filled.append {m : Nat} (h : Filled o i n w w') (h' : Filled o (i + n) m w' w'') :
    Filled o i (n + m) w w'' where
  frame := h.frame.trans h'.frame
  mapped := h'.mapped.trans h.mapped
  live b hLive := h'.live b (h.live b hLive)
  other j hOut := by
    rw [h'.other j (by omega), h.other j (by omega)]
  new j hLow hHigh := by
    by_cases hIn : j < i + n
    · obtain ⟨b, hIon, hLive⟩ := h.new j hLow hIn
      refine ⟨b, ?_, h'.live b hLive⟩
      rw [ionOf, h'.other j (by omega)]
      exact hIon
    · exact h'.new j (by omega) (by omega)

theorem allocLoop_filled (hPool : (w.objects o).kind.pool = none) (hr : ∀ i, r.ion i = true)
    (size n i : Nat) :
    (allocLoop o size r n i w).2 = true ∧ Filled o i n w (allocLoop o size r n i w).1 := by
  induction n generalizing i w with
  | zero => exact ⟨rfl, .empty o i w⟩
  | succ n ih =>
    obtain ⟨w₁, hSlot, hFilled⟩ := allocSlot_filled hPool i size
    rw [allocLoop, hr]
    simp only [hSlot]
    have hPool₁ : (w₁.objects o).kind.pool = none := by rw [hFilled.frame.kind, hPool]
    obtain ⟨hOk, hRest⟩ := ih hPool₁ (i + 1)
    refine ⟨hOk, ?_⟩
    rw [Nat.add_comm n 1]
    exact hFilled.append hRest

theorem markMapped_spec (o : Nat) (value : Bool) (n i : Nat) (w : MemWorld) :
    (markMapped o value n i w).live = w.live ∧
      ((markMapped o value n i w).objects o).memInfo = (w.objects o).memInfo ∧
      ∀ j, ((markMapped o value n i w).objects o).mapped j =
        if i ≤ j ∧ j < i + n then value else (w.objects o).mapped j := by
  induction n generalizing i w with
  | zero =>
    refine ⟨rfl, rfl, fun j => ?_⟩
    rw [if_neg (by omega)]
    rfl
  | succ n ih =>
    obtain ⟨hLive, hInfo, hMapped⟩ := ih (i + 1) (w.setMapped o i value)
    have hSet : (w.setMapped o i value).objects o =
        { w.objects o with mapped := Function.update (w.objects o).mapped i value } :=
      w.setObject_same o _
    rw [hSet] at hInfo hMapped
    refine ⟨hLive, hInfo, fun j => (hMapped j).trans ?_⟩
    dsimp only
    rcases eq_or_ne j i with rfl | hNe
    · rw [if_neg (by omega), if_pos (by omega), Function.update_self]
    · rw [Function.update_of_ne hNe]
      refine if_congr ?_ rfl rfl
      omega

/-- A call that gets everything it asks for. -/
structure Grown (o n count bufferCount : Nat) (w w' : MemWorld) : Prop where
  kind : (w'.objects o).kind = (w.objects o).kind
  bufferCount : (w'.objects o).bufferCount = bufferCount
  live : ∀ b, w.live b = true → w'.live b = true
  memInfo : ∀ j < n, (w'.objects o).memInfo j = (w.objects o).memInfo j
  new : ∀ j, n ≤ j → j < n + count → ∃ b, w'.ionOf o j = some b ∧ w'.live b = true
  mapped : ∀ j, (w'.objects o).mapped j =
    if n ≤ j ∧ j < n + count then true else (w.objects o).mapped j

theorem allocateFrom_grown {pooled : Bool} {t : CamStreamType} {count bufferCount : Nat}
    (hKind : (w.objects o).kind = .stream pooled t) (hPool : (w.objects o).kind.pool = none)
    (hr : ∀ i, r.ion i = true) (hCount : (w.objects o).bufferCount = n)
    (hRoom : n + count ≤ maxNumFrames) (size : Nat) :
    (w.allocateFrom o n count size bufferCount r).2 = true ∧
      Grown o n count bufferCount w (w.allocateFrom o n count size bufferCount r).1 := by
  obtain ⟨hOk, hFilled⟩ := allocLoop_filled hPool hr size count n
  have hAlloc : w.alloc o count size r = allocLoop o size r count n w := by
    rw [alloc]
    simp only [hCount]
    exact if_neg (Nat.not_lt.mpr hRoom)
  obtain ⟨hLive, hInfo, hMapped⟩ :=
    markMapped_spec o true count n (allocLoop o size r count n w).1
  rw [allocateFrom, hAlloc, hOk, hKind]
  refine ⟨rfl, ?_⟩
  simp only [if_true, counted]
  constructor
  · rw [setObject_same]
    exact (hFilled.frame.trans (markMapped_slotsOf o true count n _)).kind
  · rw [setObject_same]
  · intro b hBefore
    exact (congrFun hLive b).trans (hFilled.live b hBefore)
  · intro j hj
    rw [setObject_same]
    exact (congrFun hInfo j).trans (hFilled.other j (by omega))
  · intro j hLow hHigh
    obtain ⟨b, hIon, hBuffer⟩ := hFilled.new j hLow hHigh
    refine ⟨b, ?_, (congrFun hLive b).trans hBuffer⟩
    rw [ionOf, setObject_same]
    exact (congrArg MemInfo.ion (congrFun hInfo j)).trans hIon
  · intro j
    rw [setObject_same]
    exact (hMapped j).trans (by rw [hFilled.mapped])

theorem counted_bufferCount (w : MemWorld) (o n bufferCount size : Nat) :
    ((w.counted o n bufferCount size).objects o).bufferCount = bufferCount := by
  rw [counted, setObject_same]

theorem allocateFrom_bufferCount {count bufferCount : Nat}
    (h : (w.allocateFrom o n count size bufferCount r).2 = true) :
    ((w.allocateFrom o n count size bufferCount r).1.objects o).bufferCount = bufferCount := by
  rw [allocateFrom] at h ⊢
  dsimp only at h ⊢
  split at h
  · rename_i hAlloc
    rw [if_pos hAlloc]
    split at h
    · split at h
      · rename_i hMapped
        simp only [hMapped, if_true, counted_bufferCount]
      · exact Bool.noConfusion h
    · exact counted_bufferCount _ o n bufferCount size
  · exact Bool.noConfusion h

end KiwiDevice.Hal.MemWorld

import KiwiDevice.Hal.MemoryOwners

/-!
# The loops over the slots

What the loops of `alloc`, `dealloc` and of the error handling do to the owners. A slot gets a
buffer of the pool while there is one that suits, and one from ION after that.
-/

namespace KiwiDevice.Hal.MemWorld

open Camera (CamStreamType)

variable {w w' w₁ : MemWorld} {own own' : Nat → Nat → Prop} {keeper : Nat → Option Holder}
  {o i n b size : Nat} {info : MemInfo} {ok : Bool} {r : MemResults} {t : CamStreamType}

/-- The `n` slots of the object from `i` on. -/
def Slots (o i n o' j : Nat) : Prop := o' = o ∧ i ≤ j ∧ j < i + n

theorem slots_succ {o' j : Nat} : Slots o i (n + 1) o' j ↔ o' = o ∧ j = i ∨ Slots o (i + 1) n o' j := by
  rw [Slots, Slots]
  omega

/-! ### A buffer is given back -/

theorem deallocOneBuffer_buffers (w : MemWorld) (info : MemInfo) :
    (w.deallocOneBuffer info).1.pools = w.pools ∧
      (w.deallocOneBuffer info).1.nextIon = w.nextIon ∧
      ∀ b, (w.deallocOneBuffer info).1.live b = true ↔ w.live b = true ∧ info.ion ≠ some b := by
  rw [deallocOneBuffer]
  split
  · rename_i hNone
    exact ⟨rfl, rfl, fun b => (and_iff_left (by rw [hNone]; simp)).symm⟩
  · rename_i b₀ hSome
    refine ⟨rfl, rfl, fun b => ?_⟩
    rw [hSome, ne_eq, Option.some_inj]
    dsimp only
    rcases eq_or_ne b b₀ with rfl | hNe
    · rw [Function.update_self]
      exact iff_of_false Bool.false_ne_true fun hBoth => hBoth.2 rfl
    · rw [Function.update_of_ne hNe]
      exact (and_iff_left hNe.symm).symm

theorem Held.giveBack (h : Held w own keeper) (hIn : own o i) :
    ∃ keeper', Held (w.giveBack o i) (fun o' j => own o' j ∧ ¬ (o' = o ∧ j = i)) keeper' := by
  obtain ⟨b, hIon, hKeeper⟩ := h.slot o i hIn
  rw [MemWorld.giveBack]
  dsimp only
  split
  · obtain ⟨hPools, hNext, hLive⟩ := w.deallocOneBuffer_buffers ((w.objects o).memInfo i)
    obtain ⟨-, hObjects⟩ := w.deallocOneBuffer_objects ((w.objects o).memInfo i)
    have hIons : ∀ t, (w.deallocOneBuffer ((w.objects o).memInfo i)).1.poolIons t =
        w.poolIons t := fun t => congrArg (fun pools => (pools t).map MemInfo.ion) hPools
    refine ⟨Function.update keeper b none, h.give hIn (fun _ _ => Iff.rfl) hIon ?_ (by simp)
      ?_ hNext ?_ ?_ ?_⟩
    · intro o' j hOther
      refine congrArg MemInfo.ion ((setInfo_memInfo_of_ne _ _ hOther).trans ?_)
      rw [hObjects]
    · intro b'
      refine (hLive b').trans (and_congr_right fun _ => ?_)
      rw [show ((w.objects o).memInfo i).ion = some b from hIon, ne_eq, Option.some_inj]
      exact ⟨fun hNe hEq => absurd hEq.symm hNe, fun hNone hEq => hNone hEq.symm rfl⟩
    · intro t b'
      refine (iff_of_eq (congrArg (some b' ∈ ·) (hIons t))).trans ?_
      exact (or_iff_left (by simp)).symm
    · intro t
      exact (hIons t).symm ▸ h.entry t
    · intro t
      exact (hIons t).symm ▸ h.nodup t
  · rename_i t hPool
    have hAway : some b ∉ w.poolIons t := by
      intro hAmong
      cases hKeeper.symm.trans ((h.pool t b).mpr hAmong)
    refine ⟨Function.update keeper b (some (.pool t)),
      h.give hIn (fun _ _ => Iff.rfl) hIon (fun _ _ _ => rfl) (by simp) ?_ rfl ?_ ?_ ?_⟩
    · intro b'
      exact (and_iff_left (by simp)).symm
    · intro t' b'
      rw [releaseBuffer, poolIons_setPool, List.map_append]
      split
      · rename_i hSame
        subst hSame
        rw [List.mem_append, List.map_singleton, List.mem_singleton,
          show ((w.objects o).memInfo i).ion = some b from hIon, Option.some_inj]
        exact or_congr_right (and_iff_left rfl).symm
      · rename_i hNe
        refine (or_iff_left fun hBoth => hNe ?_).symm
        cases hBoth.2
        rfl
    · intro t'
      rw [releaseBuffer, poolIons_setPool, List.map_append]
      split
      · rw [List.mem_append, List.map_singleton, List.mem_singleton,
          show ((w.objects o).memInfo i).ion = some b from hIon, not_or]
        exact ⟨h.entry t, (Option.some_ne_none b).symm⟩
      · exact h.entry t'
    · intro t'
      rw [releaseBuffer, poolIons_setPool, List.map_append]
      split
      · rw [List.map_singleton, show ((w.objects o).memInfo i).ion = some b from hIon]
        refine List.nodup_append.mpr ⟨h.nodup t, List.nodup_singleton _, ?_⟩
        rintro x hAmong y hLast rfl
        rw [List.mem_singleton] at hLast
        exact hAway (hLast ▸ hAmong)
      · exact h.nodup t'

theorem rollback_slotsOf (o n : Nat) (w : MemWorld) : SlotsOf o w (rollback o n w) := by
  induction n generalizing w with
  | zero => exact .refl o w
  | succ n ih => exact (w.giveBack_slotsOf o n).trans (ih _)

/-- The error handling of `alloc` gives back every slot below `n`. -/
theorem Held.rollback (h : Held w own keeper) (hIn : ∀ j < n, own o j) :
    ∃ keeper', Held (rollback o n w) (fun o' j => own o' j ∧ ¬ Slots o 0 n o' j) keeper' := by
  induction n generalizing w own keeper with
  | zero => exact ⟨keeper, h.congr fun o' j => and_iff_left (by rw [Slots]; omega)⟩
  | succ n ih =>
    obtain ⟨keeper₁, h₁⟩ := h.giveBack (hIn n (Nat.lt_succ_self n))
    obtain ⟨keeper', h'⟩ := ih h₁ fun j hj => ⟨hIn j (Nat.lt_succ_of_lt hj), by omega⟩
    refine ⟨keeper', h'.congr fun o' j => ?_⟩
    rw [and_assoc]
    refine and_congr_right fun _ => ?_
    rw [Slots, Slots]
    omega

theorem Held.dealloc (h : Held w own keeper) (hIn : ∀ j, i ≤ j → j < i + n → own o j) :
    ∃ keeper', Held (dealloc o n i w) (fun o' j => own o' j ∧ ¬ Slots o i n o' j) keeper' := by
  induction n generalizing i w own keeper with
  | zero => exact ⟨keeper, h.congr fun o' j => and_iff_left (by rw [Slots]; omega)⟩
  | succ n ih =>
    obtain ⟨keeper₁, h₁⟩ := h.giveBack (hIn i (Nat.le_refl i) (by omega))
    obtain ⟨keeper', h'⟩ := ih (i := i + 1) h₁ fun j hLow hHigh =>
      ⟨hIn j (by omega) (by omega), by omega⟩
    refine ⟨keeper', h'.congr fun o' j => ?_⟩
    rw [and_assoc, slots_succ, not_or]

/-! ### A buffer is taken -/

/-- The entries of the pool that `findBufferLocked` takes for the object. -/
def usableCount (w : MemWorld) (o size : Nat) : Nat :=
  match (w.objects o).kind.pool with
  | none => 0
  | some t => (w.pools t).countP (usable t w.heapMask size (w.objects o).cached)

/-- The buffer in the slot is as it was asked for. -/
def Suits (w : MemWorld) (o i size : Nat) : Prop :=
  size ≤ ((w.objects o).memInfo i).size ∧ ((w.objects o).memInfo i).heapId = w.heapMask ∧
    ((w.objects o).memInfo i).cached = (w.objects o).cached

/-- `ION_IOC_ALLOC` is asked for as many bytes as the caller asked for, or more. -/
def SizeFits (size : Nat) : Prop := size + 4095 < 2 ^ 32

theorem le_alignedLen (h : SizeFits size) : size ≤ alignedLen size := by
  rw [alignedLen, Nat.mod_eq_of_lt h]
  omega

/-- Where the buffer of a slot comes from. -/
inductive SlotBuffer (w : MemWorld) (o size : Nat) (ok : Bool) : MemWorld × Option MemInfo → Prop where
  | pool {t : CamStreamType} {info : MemInfo} (hPool : (w.objects o).kind.pool = some t)
      (hFound : (w.pools t).find? (usable t w.heapMask size (w.objects o).cached) = some info) :
      SlotBuffer w o size ok
        (w.setPool t ((w.pools t).eraseP (usable t w.heapMask size (w.objects o).cached)), some info)
  | ion (hNone : w.usableCount o size = 0) :
      SlotBuffer w o size ok (w.allocOneBuffer w.heapMask size (w.objects o).cached ok)

theorem slotBuffer_cases (w : MemWorld) (o size : Nat) (ok : Bool) :
    SlotBuffer w o size ok (w.slotBuffer o size ok) := by
  rw [slotBuffer]
  split
  · rename_i hPool
    refine .ion ?_
    rw [usableCount, hPool]
  · rename_i t hPool
    rw [allocateBuffer]
    split
    · rename_i info hFound
      exact .pool hPool hFound
    · rename_i hNone
      refine .ion ?_
      rw [usableCount, hPool]
      exact List.countP_eq_zero.mpr (List.find?_eq_none.mp hNone)

theorem usableCount_congr (hMask : w'.heapMask = w.heapMask) (hPools : w'.pools = w.pools)
    (hKind : (w'.objects o).kind = (w.objects o).kind)
    (hCached : (w'.objects o).cached = (w.objects o).cached) :
    w'.usableCount o size = w.usableCount o size := by
  rw [usableCount, usableCount, hMask, hPools, hKind, hCached]

theorem usableCount_setInfo (w : MemWorld) (o i size : Nat) (info : MemInfo) :
    (w.setInfo o i info).usableCount o size = w.usableCount o size :=
  usableCount_congr rfl rfl (setInfo_slotsOf w o i info).kind (setInfo_slotsOf w o i info).cached

theorem usableCount_take (hPool : (w.objects o).kind.pool = some t)
    (hFound : (w.pools t).find? (usable t w.heapMask size (w.objects o).cached) = some info) :
    w.usableCount o size =
      (w.setPool t ((w.pools t).eraseP
        (usable t w.heapMask size (w.objects o).cached))).usableCount o size + 1 := by
  have hCount := (Lib.perm_eraseP_of_find? hFound).countP_eq
    (usable t w.heapMask size (w.objects o).cached)
  rw [List.countP_cons_of_pos (List.find?_some hFound)] at hCount
  rw [usableCount, usableCount, setPool]
  simp only [hPool, Function.update_self]
  exact hCount

theorem allocSlot_none (h : w.allocSlot o i size ok = none) :
    w.usableCount o size = 0 ∧ ok = false := by
  rw [allocSlot, Option.map_eq_none_iff] at h
  generalize hBuffer : w.slotBuffer o size ok = buffer at h
  cases hBuffer ▸ w.slotBuffer_cases o size ok with
  | pool hPool hFound => cases h
  | ion hNone =>
    refine ⟨hNone, ?_⟩
    cases ok with
    | false => rfl
    | true => cases h

theorem allocSlot_some (h : w.allocSlot o i size ok = some w') :
    (0 < w.usableCount o size ∨ ok = true) ∧
      w'.usableCount o size = w.usableCount o size - 1 := by
  rw [allocSlot, Option.map_eq_some_iff] at h
  obtain ⟨info, hInfo, rfl⟩ := h
  rw [usableCount_setInfo]
  generalize hBuffer : w.slotBuffer o size ok = buffer at hInfo ⊢
  cases hBuffer ▸ w.slotBuffer_cases o size ok with
  | pool hPool hFound =>
    rw [usableCount_take hPool hFound]
    exact ⟨.inl (Nat.succ_pos _), rfl⟩
  | ion hNone =>
    cases ok with
    | false => cases hInfo
    | true =>
      refine ⟨.inr rfl, ?_⟩
      rw [hNone]
      exact (usableCount_congr rfl rfl rfl rfl).trans hNone

theorem Held.slotBuffer (h : Held w own keeper)
    (hBuffer : w.slotBuffer o size ok = (w₁, some info)) :
    ∃ b, Obtained w w₁ keeper o b info ∧
      (0 < w.usableCount o size ∨ SizeFits size → size ≤ info.size) := by
  generalize hGot : w.slotBuffer o size ok = buffer at hBuffer
  cases hGot ▸ w.slotBuffer_cases o size ok with
  | pool hPool hFound =>
    cases hBuffer
    obtain ⟨b, hObtained, hLe⟩ := h.allocateBuffer hFound
    exact ⟨b, hObtained, fun _ => hLe⟩
  | ion hNone =>
    obtain ⟨hObtained, -, hAligned⟩ := h.allocOneBuffer hBuffer
    refine ⟨_, hObtained, fun hSize => ?_⟩
    rw [hAligned]
    exact le_alignedLen (hSize.resolve_left (by omega))

/-- The pool has buffers for `n` slots, or those of ION are not too small. -/
def Sized (w : MemWorld) (o n size : Nat) : Prop := n ≤ w.usableCount o size ∨ SizeFits size

/-- What a loop has done that got a buffer for each of `n` slots of one object. -/
structure Supplied (w w' : MemWorld) (own : Nat → Nat → Prop) (o i n size : Nat) : Prop where
  held : ∃ keeper, Held w' (fun o' j => own o' j ∨ Slots o i n o' j) keeper
  frame : SlotsOf o w w'
  usable : w'.usableCount o size = w.usableCount o size - n
  other : ∀ j, ¬ Slots o i n o j → (w'.objects o).memInfo j = (w.objects o).memInfo j
  suits : w.Sized o n size → ∀ j, Slots o i n o j → w'.Suits o j size

theorem Held.allocSlot (h : Held w own keeper) (hNot : ¬ own o i)
    (hSlot : w.allocSlot o i size ok = some w') : Supplied w w' own o i 1 size := by
  have hUsable := (allocSlot_some hSlot).2
  rw [MemWorld.allocSlot, Option.map_eq_some_iff] at hSlot
  obtain ⟨info, hInfo, rfl⟩ := hSlot
  generalize hBuffer : w.slotBuffer o size ok = buffer at hInfo hUsable ⊢
  obtain ⟨w₁, info₁⟩ := buffer
  cases hInfo
  obtain ⟨b, hObtained, hLe⟩ := h.slotBuffer hBuffer
  have hFrame : SlotsOf o w (w₁.setInfo o i info) :=
    (slotsOf_of_objects hObtained.heapMask hObtained.objects).trans (setInfo_slotsOf _ _ _ _)
  have hOther : ∀ o' j, ¬ (o' = o ∧ j = i) →
      ((w₁.setInfo o i info).objects o').memInfo j = (w.objects o').memInfo j := by
    intro o' j hNe
    rw [setInfo_memInfo_of_ne _ _ hNe, hObtained.objects]
  constructor
  · refine ⟨Function.update keeper b (some (.slot o i)), h.take hNot ?_ ?_
      (fun o' j hNe => congrArg MemInfo.ion (hOther o' j hNe)) hObtained.before hObtained.live
      hObtained.next hObtained.pools hObtained.sub⟩
    · intro o' j
      refine or_congr_right ?_
      rw [Slots]
      omega
    · rw [ionOf, setInfo_memInfo]
      exact hObtained.ion
  · exact hFrame
  · exact hUsable
  · intro j hOut
    refine hOther o j fun hSame => hOut ?_
    rw [Slots]
    omega
  · rintro hSize j ⟨-, hLow, hHigh⟩
    obtain rfl : j = i := by omega
    rw [Suits, setInfo_memInfo, hFrame.heapMask, hFrame.cached]
    exact ⟨hLe hSize, hObtained.heapId, hObtained.cached⟩

theorem Supplied.empty (h : Held w own keeper) : Supplied w w own o i 0 size where
  held := ⟨keeper, h.congr fun o' j => or_iff_left (by rw [Slots]; omega)⟩
  frame := .refl o w
  usable := rfl
  other _ _ := rfl
  suits _ j hIn := by
    rw [Slots] at hIn
    omega

theorem Supplied.cons (h : Supplied w w₁ own o i 1 size)
    (h' : Supplied w₁ w' (fun o' j => own o' j ∨ Slots o i 1 o' j) o (i + 1) n size) :
    Supplied w w' own o i (n + 1) size where
  held := by
    obtain ⟨keeper, hHeld⟩ := h'.held
    refine ⟨keeper, hHeld.congr fun o' j => ?_⟩
    rw [or_assoc]
    refine or_congr_right ?_
    rw [Slots, Slots, Slots]
    omega
  frame := h.frame.trans h'.frame
  usable := by
    rw [h'.usable, h.usable]
    omega
  other j hOut := by
    rw [Slots] at hOut
    rw [h'.other j (by rw [Slots]; omega), h.other j (by rw [Slots]; omega)]
  suits hSize j hIn := by
    rw [Slots] at hIn
    rcases Nat.eq_or_lt_of_le hIn.2.1 with rfl | hLater
    · have hSuits := h.suits (hSize.imp_left (by omega)) i ⟨rfl, Nat.le_refl i, Nat.lt_succ_self i⟩
      rw [Suits, h'.other i (by rw [Slots]; omega), h'.frame.heapMask, h'.frame.cached]
      exact hSuits
    · refine h'.suits ?_ j (by rw [Slots]; omega)
      rw [Sized, h.usable]
      exact hSize.imp_left (by omega)

/-! ### The loop of `alloc` -/

/-- Every slot gets its buffer from the pool or from ION. -/
def Answered (w : MemWorld) (o i n size : Nat) (r : MemResults) : Prop :=
  ∀ k < n, k < w.usableCount o size ∨ r.ion (i + k) = true

theorem answered_succ : w.Answered o i (n + 1) size r ↔
    (0 < w.usableCount o size ∨ r.ion i = true) ∧
      ∀ k < n, k < w.usableCount o size - 1 ∨ r.ion (i + 1 + k) = true := by
  constructor
  · intro h
    refine ⟨h 0 (Nat.succ_pos n), fun k hk => ?_⟩
    have hNext := h (k + 1) (Nat.succ_lt_succ hk)
    rw [Nat.add_assoc, Nat.add_comm 1 k]
    exact hNext.imp (by omega) id
  · rintro ⟨hFirst, hRest⟩ k hk
    cases k with
    | zero => exact hFirst
    | succ k =>
      have hNext := hRest k (Nat.lt_of_succ_lt_succ hk)
      rw [Nat.add_assoc, Nat.add_comm 1 k] at hNext
      exact hNext.imp (by omega) id

theorem allocLoop_ok_iff (o size : Nat) (r : MemResults) (n i : Nat) (w : MemWorld) :
    (allocLoop o size r n i w).2 = true ↔ w.Answered o i n size r := by
  induction n generalizing i w with
  | zero => exact iff_of_true rfl fun k hk => absurd hk (Nat.not_lt_zero k)
  | succ n ih =>
    rw [answered_succ, allocLoop]
    cases hSlot : w.allocSlot o i size (r.ion i) with
    | none =>
      obtain ⟨hNone, hIon⟩ := allocSlot_none hSlot
      rw [hNone, hIon]
      exact iff_of_false Bool.false_ne_true fun hBoth => by simp at hBoth
    | some w₁ =>
      obtain ⟨hFirst, hCount⟩ := allocSlot_some hSlot
      rw [and_iff_right hFirst, ← hCount]
      exact ih (i + 1) w₁

theorem allocLoop_supplied (h : Held w own keeper) (hNot : ∀ j, i ≤ j → j < i + n → ¬ own o j)
    (hOk : (allocLoop o size r n i w).2 = true) :
    Supplied w (allocLoop o size r n i w).1 own o i n size := by
  induction n generalizing i w own keeper with
  | zero => exact .empty h
  | succ n ih =>
    rw [allocLoop] at hOk ⊢
    cases hSlot : w.allocSlot o i size (r.ion i) with
    | none =>
      rw [hSlot] at hOk
      cases hOk
    | some w₁ =>
      rw [hSlot] at hOk
      have hFirst := h.allocSlot (hNot i (Nat.le_refl i) (by omega)) hSlot
      obtain ⟨keeper₁, h₁⟩ := hFirst.held
      refine hFirst.cons (ih h₁ (fun j hLow hHigh => ?_) hOk)
      rw [not_or, Slots]
      exact ⟨hNot j (by omega) (by omega), by omega⟩

/-- A loop of `alloc` that fails gives back every slot of the object, those that it was called with
too. -/
theorem allocLoop_failed (h : Held w own keeper) (hOwn : ∀ j, own o j ↔ j < i)
    (hFail : (allocLoop o size r n i w).2 = false) :
    SlotsOf o w (allocLoop o size r n i w).1 ∧ ∃ keeper',
      Held (allocLoop o size r n i w).1 (fun o' j => own o' j ∧ o' ≠ o) keeper' := by
  induction n generalizing i w own keeper with
  | zero => cases hFail
  | succ n ih =>
    rw [allocLoop] at hFail ⊢
    cases hSlot : w.allocSlot o i size (r.ion i) with
    | none =>
      obtain ⟨keeper', h'⟩ := h.rollback (n := i) fun j hj => (hOwn j).mpr hj
      refine ⟨rollback_slotsOf o i w, keeper', h'.congr fun o' j => and_congr_right fun hIn => ?_⟩
      rw [Slots]
      constructor
      · rintro hNe ⟨rfl, -, -⟩
        exact hNe rfl
      · rintro hNot rfl
        exact hNot ⟨rfl, Nat.zero_le j, (Nat.zero_add i).symm ▸ (hOwn j).mp hIn⟩
    | some w₁ =>
      rw [hSlot] at hFail
      have hFirst := h.allocSlot (by rw [hOwn]; exact Nat.lt_irrefl i) hSlot
      obtain ⟨keeper₁, h₁⟩ := hFirst.held
      obtain ⟨hFrame, keeper', h'⟩ := ih h₁ (i := i + 1) (fun j => by rw [hOwn, Slots]; omega) hFail
      refine ⟨hFirst.frame.trans hFrame, keeper', h'.congr fun o' j => ?_⟩
      rw [or_and_right]
      refine (or_iff_left ?_).symm
      rintro ⟨⟨rfl, -⟩, hNe⟩
      exact hNe rfl

/-! ### The pool is cleared -/

theorem freeAll_spec (infos : List MemInfo) (w : MemWorld) :
    (freeAll infos w).heapMask = w.heapMask ∧ (freeAll infos w).objects = w.objects ∧
      (freeAll infos w).pools = w.pools ∧ (freeAll infos w).nextIon = w.nextIon ∧
      ∀ b, (freeAll infos w).live b = true ↔
        w.live b = true ∧ some b ∉ infos.map MemInfo.ion := by
  induction infos generalizing w with
  | nil => exact ⟨rfl, rfl, rfl, rfl, fun b => (and_iff_left List.not_mem_nil).symm⟩
  | cons info infos ih =>
    obtain ⟨hMask, hObjects, hPools, hNext, hLive⟩ := ih (w.deallocOneBuffer info).1
    obtain ⟨hMask₁, hObjects₁⟩ := w.deallocOneBuffer_objects info
    obtain ⟨hPools₁, hNext₁, hLive₁⟩ := w.deallocOneBuffer_buffers info
    refine ⟨hMask.trans hMask₁, hObjects.trans hObjects₁, hPools.trans hPools₁,
      hNext.trans hNext₁, fun b => ?_⟩
    rw [freeAll, hLive, hLive₁, and_assoc, List.map_cons, List.mem_cons, not_or]
    exact and_congr_right fun _ => and_congr_left fun _ => ne_comm

theorem Held.clearPool (h : Held w own keeper) (t : CamStreamType) :
    ∃ keeper', Held (w.clearPool t) own keeper' := by
  obtain ⟨-, hObjects, hPools, hNext, hLive⟩ := freeAll_spec (w.pools t) w
  have hIons : ∀ t', (w.clearPool t).poolIons t' = if t' = t then [] else w.poolIons t' := by
    intro t'
    rw [MemWorld.clearPool, poolIons_setPool, poolIons, hPools]
    rfl
  have hIonOf : ∀ o j, (w.clearPool t).ionOf o j = w.ionOf o j := fun o j =>
    congrArg (fun objects : Nat → MemObject => ((objects o).memInfo j).ion) hObjects
  refine ⟨fun b => if keeper b = some (.pool t) then none else keeper b, ?_⟩
  constructor
  · intro b
    refine (hLive b).trans ?_
    rw [h.live, ← h.pool t b]
    split
    · rename_i hPool
      exact iff_of_false (fun hBoth => hBoth.2 hPool) fun hNot => hNot rfl
    · rename_i hNot
      exact and_iff_left hNot
  · intro b hKept
    refine Nat.lt_of_lt_of_eq (h.fresh b fun hNone => hKept ?_) hNext.symm
    rw [hNone]
    rfl
  · intro o j hIn
    obtain ⟨b, hIon, hKeeper⟩ := h.slot o j hIn
    refine ⟨b, (hIonOf o j).trans hIon, ?_⟩
    rw [hKeeper]
    exact if_neg (by simp)
  · intro b o j hKeeper
    split at hKeeper
    · cases hKeeper
    · rw [hIonOf]
      exact h.kept b o j hKeeper
  · intro t' b
    rw [hIons]
    rcases eq_or_ne t' t with rfl | hNe
    · rw [if_pos rfl]
      refine iff_of_false ?_ List.not_mem_nil
      split
      · exact (Option.some_ne_none _).symm
      · assumption
    · rw [if_neg hNe, ← h.pool t' b]
      split
      · rename_i hPool
        rw [hPool]
        refine iff_of_false (Option.some_ne_none _).symm fun hEq => hNe ?_
        cases hEq
        rfl
      · exact Iff.rfl
  · intro t'
    rw [hIons]
    split
    · exact List.not_mem_nil
    · exact h.entry t'
  · intro t'
    rw [hIons]
    split
    · exact List.nodup_nil
    · exact h.nodup t'

/-- `QCameraMemoryPool::clear` leaves the objects as they are. -/
theorem Held.clear (h : Held w own keeper) (types : List CamStreamType) :
    (types.foldl MemWorld.clearPool w).heapMask = w.heapMask ∧
      (types.foldl MemWorld.clearPool w).objects = w.objects ∧
      ∃ keeper', Held (types.foldl MemWorld.clearPool w) own keeper' := by
  induction types generalizing w keeper with
  | nil => exact ⟨rfl, rfl, keeper, h⟩
  | cons t types ih =>
    obtain ⟨keeper₁, h₁⟩ := h.clearPool t
    obtain ⟨hMask, hObjects, hHeld⟩ := ih h₁
    obtain ⟨hMask₁, hObjects₁, -⟩ := freeAll_spec (w.pools t) w
    exact ⟨hMask.trans hMask₁, hObjects.trans hObjects₁, hHeld⟩

end KiwiDevice.Hal.MemWorld

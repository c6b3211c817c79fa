import KiwiDevice.Hal.MemoryFrame
import KiwiDevice.Lib.Lists
import Mathlib.Data.List.Nodup

/-!
# The owner of a buffer

During a call an object also owns slots that it does not count yet. Every live buffer has one
keeper, a slot that is owned or a list of the pool.
-/

namespace KiwiDevice.Hal.MemWorld

open Camera (CamStreamType)

inductive Holder where
  | slot (o i : Nat)
  | pool (t : CamStreamType)
  deriving DecidableEq, Repr

variable {w w' w₁ : MemWorld} {own own' : Nat → Nat → Prop} {keeper : Nat → Option Holder}
  {o i b size : Nat} {info : MemInfo} {ok : Bool}

/-- The live buffers are those that somebody keeps, and a keeper has the buffer once. -/
structure Held (w : MemWorld) (own : Nat → Nat → Prop) (keeper : Nat → Option Holder) : Prop where
  live : ∀ b, w.live b = true ↔ keeper b ≠ none
  fresh : ∀ b, keeper b ≠ none → b < w.nextIon
  slot : ∀ o i, own o i → ∃ b, w.ionOf o i = some b ∧ keeper b = some (.slot o i)
  kept : ∀ b o i, keeper b = some (.slot o i) → own o i ∧ w.ionOf o i = some b
  pool : ∀ t b, keeper b = some (.pool t) ↔ some b ∈ w.poolIons t
  entry : ∀ t, none ∉ w.poolIons t
  nodup : ∀ t, (w.poolIons t).Nodup

theorem Held.congr (h : Held w own keeper) (hOwn : ∀ o i, own' o i ↔ own o i) :
    Held w own' keeper where
  live := h.live
  fresh := h.fresh
  slot o i hIn := h.slot o i ((hOwn o i).mp hIn)
  kept b o i hKeeper := ⟨(hOwn o i).mpr (h.kept b o i hKeeper).1, (h.kept b o i hKeeper).2⟩
  pool := h.pool
  entry := h.entry
  nodup := h.nodup

theorem Held.take (h : Held w own keeper) (hNot : ¬ own o i)
    (hOwn : ∀ o' j, own' o' j ↔ own o' j ∨ o' = o ∧ j = i)
    (hSlot : w'.ionOf o i = some b)
    (hOther : ∀ o' j, ¬ (o' = o ∧ j = i) → w'.ionOf o' j = w.ionOf o' j)
    (hBefore : ∀ o' j, keeper b ≠ some (.slot o' j))
    (hLive : ∀ b', w'.live b' = true ↔ w.live b' = true ∨ b' = b)
    (hNext : w.nextIon ≤ w'.nextIon ∧ b < w'.nextIon)
    (hPools : ∀ t b', some b' ∈ w'.poolIons t ↔ some b' ∈ w.poolIons t ∧ b' ≠ b)
    (hSub : ∀ t, (w'.poolIons t).Sublist (w.poolIons t)) :
    Held w' own' (Function.update keeper b (some (.slot o i))) where
  live b' := by
    rw [hLive, h.live]
    rcases eq_or_ne b' b with rfl | hNe
    · rw [Function.update_self]
      exact iff_of_true (.inr rfl) nofun
    · rw [Function.update_of_ne hNe]
      exact or_iff_left hNe
  fresh b' hKept := by
    rcases eq_or_ne b' b with rfl | hNe
    · exact hNext.2
    · rw [Function.update_of_ne hNe] at hKept
      exact Nat.lt_of_lt_of_le (h.fresh b' hKept) hNext.1
  slot o' j hIn := by
    by_cases hSame : o' = o ∧ j = i
    · obtain ⟨rfl, rfl⟩ := hSame
      exact ⟨b, hSlot, Function.update_self ..⟩
    · obtain ⟨b', hIon, hKeeper⟩ := h.slot o' j (((hOwn o' j).mp hIn).resolve_right hSame)
      have hNe : b' ≠ b := by
        rintro rfl
        exact hBefore o' j hKeeper
      exact ⟨b', (hOther o' j hSame).trans hIon, (Function.update_of_ne hNe ..).trans hKeeper⟩
  kept b' o' j hKeeper := by
    rcases eq_or_ne b' b with rfl | hNe
    · rw [Function.update_self] at hKeeper
      cases hKeeper
      exact ⟨(hOwn o i).mpr (.inr ⟨rfl, rfl⟩), hSlot⟩
    · rw [Function.update_of_ne hNe] at hKeeper
      obtain ⟨hIn, hIon⟩ := h.kept b' o' j hKeeper
      have hSame : ¬ (o' = o ∧ j = i) := by
        rintro ⟨rfl, rfl⟩
        exact hNot hIn
      exact ⟨(hOwn o' j).mpr (.inl hIn), (hOther o' j hSame).trans hIon⟩
  pool t b' := by
    rw [hPools]
    rcases eq_or_ne b' b with rfl | hNe
    · rw [Function.update_self]
      exact iff_of_false nofun fun hIn => hIn.2 rfl
    · rw [Function.update_of_ne hNe, h.pool]
      exact (and_iff_left hNe).symm
  entry t hIn := h.entry t ((hSub t).subset hIn)
  nodup t := (h.nodup t).sublist (hSub t)

theorem Held.left (h : Held w own keeper) (hIn : own o i) (hSlot : w.ionOf o i = some b) :
    keeper b = some (.slot o i) := by
  obtain ⟨b', hIon, hKeeper⟩ := h.slot o i hIn
  cases hSlot.symm.trans hIon
  exact hKeeper

theorem Held.give {holder : Option Holder} (h : Held w own keeper) (hIn : own o i)
    (hOwn : ∀ o' j, own' o' j ↔ own o' j ∧ ¬ (o' = o ∧ j = i))
    (hSlot : w.ionOf o i = some b)
    (hOther : ∀ o' j, ¬ (o' = o ∧ j = i) → w'.ionOf o' j = w.ionOf o' j)
    (hHolder : ∀ o' j, holder ≠ some (.slot o' j))
    (hLive : ∀ b', w'.live b' = true ↔ w.live b' = true ∧ (b' = b → holder ≠ none))
    (hNext : w'.nextIon = w.nextIon)
    (hPools : ∀ t b', some b' ∈ w'.poolIons t ↔
      some b' ∈ w.poolIons t ∨ b' = b ∧ holder = some (.pool t))
    (hEntry : ∀ t, none ∉ w'.poolIons t) (hNodup : ∀ t, (w'.poolIons t).Nodup) :
    Held w' own' (Function.update keeper b holder) where
  live b' := by
    rw [hLive, h.live]
    rcases eq_or_ne b' b with rfl | hNe
    · rw [Function.update_self, h.left hIn hSlot]
      exact ⟨fun hBoth => hBoth.2 rfl, fun hSome => ⟨nofun, fun _ => hSome⟩⟩
    · rw [Function.update_of_ne hNe]
      exact and_iff_left fun hEq => absurd hEq hNe
  fresh b' hKept := by
    rw [hNext]
    rcases eq_or_ne b' b with rfl | hNe
    · exact h.fresh b' (by rw [h.left hIn hSlot]; nofun)
    · rw [Function.update_of_ne hNe] at hKept
      exact h.fresh b' hKept
  slot o' j hIn' := by
    obtain ⟨hBefore, hSame⟩ := (hOwn o' j).mp hIn'
    obtain ⟨b', hIon, hKeeper⟩ := h.slot o' j hBefore
    have hNe : b' ≠ b := by
      rintro rfl
      have hEq := (h.left hIn hSlot).symm.trans hKeeper
      cases hEq
      exact hSame ⟨rfl, rfl⟩
    exact ⟨b', (hOther o' j hSame).trans hIon, (Function.update_of_ne hNe ..).trans hKeeper⟩
  kept b' o' j hKeeper := by
    rcases eq_or_ne b' b with rfl | hNe
    · rw [Function.update_self] at hKeeper
      exact absurd hKeeper (hHolder o' j)
    · rw [Function.update_of_ne hNe] at hKeeper
      obtain ⟨hBefore, hIon⟩ := h.kept b' o' j hKeeper
      have hSame : ¬ (o' = o ∧ j = i) := by
        rintro ⟨rfl, rfl⟩
        exact hNe (Option.some.inj (hIon.symm.trans hSlot))
      exact ⟨(hOwn o' j).mpr ⟨hBefore, hSame⟩, (hOther o' j hSame).trans hIon⟩
  pool t b' := by
    rw [hPools, ← h.pool]
    rcases eq_or_ne b' b with rfl | hNe
    · rw [Function.update_self, h.left hIn hSlot]
      exact ⟨fun hEq => .inr ⟨rfl, hEq⟩, fun hOr => hOr.elim nofun And.right⟩
    · rw [Function.update_of_ne hNe]
      exact (or_iff_left fun hBoth => hNe hBoth.1).symm
  entry := hEntry
  nodup := hNodup

/-- What a call gets for a slot: a buffer that no slot has, as it was asked for. -/
structure Obtained (w w₁ : MemWorld) (keeper : Nat → Option Holder) (o b : Nat) (info : MemInfo) :
    Prop where
  ion : info.ion = some b
  objects : w₁.objects = w.objects
  heapMask : w₁.heapMask = w.heapMask
  before : ∀ o' j, keeper b ≠ some (.slot o' j)
  live : ∀ b', w₁.live b' = true ↔ w.live b' = true ∨ b' = b
  next : w.nextIon ≤ w₁.nextIon ∧ b < w₁.nextIon
  pools : ∀ t b', some b' ∈ w₁.poolIons t ↔ some b' ∈ w.poolIons t ∧ b' ≠ b
  sub : ∀ t, (w₁.poolIons t).Sublist (w.poolIons t)
  heapId : info.heapId = w.heapMask
  cached : info.cached = (w.objects o).cached

theorem Held.allocOneBuffer (h : Held w own keeper)
    (hAlloc : w.allocOneBuffer w.heapMask size (w.objects o).cached ok = (w₁, some info)) :
    Obtained w w₁ keeper o w.nextIon info ∧ ok = true ∧ info.size = alignedLen size := by
  cases ok with
  | false => cases hAlloc
  | true =>
    cases hAlloc
    have hFree : keeper w.nextIon = none := by
      by_contra hKept
      exact Nat.lt_irrefl _ (h.fresh w.nextIon hKept)
    refine ⟨⟨rfl, rfl, rfl, ?_, ?_, ?_, ?_, fun _ => .refl _, rfl, rfl⟩, rfl, rfl⟩
    · rw [hFree]
      nofun
    · intro b'
      rcases eq_or_ne b' w.nextIon with rfl | hNe
      · exact iff_of_true (Function.update_self ..) (.inr rfl)
      · rw [or_iff_left hNe]
        exact Eq.congr_left (Function.update_of_ne hNe ..)
    · exact ⟨Nat.le_succ _, Nat.lt_succ_self _⟩
    · intro t b'
      refine (and_iff_left_of_imp ?_).symm
      rintro hIn rfl
      have hKept := (h.pool t _).mpr hIn
      cases hFree.symm.trans hKept

theorem mem_poolIons {t : CamStreamType} (h : info ∈ w.pools t) : info.ion ∈ w.poolIons t :=
  List.mem_map_of_mem h

theorem poolIons_setPool (w : MemWorld) (t t' : CamStreamType) (infos : List MemInfo) :
    (w.setPool t infos).poolIons t' = if t' = t then infos.map MemInfo.ion else w.poolIons t' := by
  rw [poolIons, setPool]
  dsimp only
  split
  · rename_i hSame
    rw [hSame, Function.update_self]
  · rename_i hNe
    rw [Function.update_of_ne hNe]

theorem Held.fromPool {t : CamStreamType} {p : MemInfo → Bool} (h : Held w own keeper)
    (hFound : (w.pools t).find? p = some info) :
    ∃ b, info.ion = some b ∧ keeper b = some (.pool t) ∧
      ∀ t' b', some b' ∈ (w.setPool t ((w.pools t).eraseP p)).poolIons t' ↔
        some b' ∈ w.poolIons t' ∧ b' ≠ b := by
  have hIn : info ∈ w.pools t := List.mem_of_find?_eq_some hFound
  cases hIon : info.ion with
  | none => exact absurd (hIon ▸ mem_poolIons hIn) (h.entry t)
  | some b =>
    have hKeeper : keeper b = some (.pool t) := (h.pool t b).mpr (hIon ▸ mem_poolIons hIn)
    have hPerm : (w.poolIons t).Perm (some b :: ((w.pools t).eraseP p).map MemInfo.ion) :=
      hIon ▸ (Lib.perm_eraseP_of_find? hFound).map MemInfo.ion
    have hAway : some b ∉ ((w.pools t).eraseP p).map MemInfo.ion :=
      (List.nodup_cons.mp (hPerm.nodup_iff.mp (h.nodup t))).1
    refine ⟨b, rfl, hKeeper, fun t' b' => ?_⟩
    rw [poolIons_setPool]
    split
    · rename_i hSame
      rw [hSame, hPerm.mem_iff, List.mem_cons, Option.some_inj]
      constructor
      · intro hAmong
        refine ⟨.inr hAmong, ?_⟩
        rintro rfl
        exact hAway hAmong
      · rintro ⟨hOr, hNe⟩
        exact hOr.resolve_left hNe
    · rename_i hNe
      refine (and_iff_left_of_imp ?_).symm
      rintro hAmong rfl
      have hOther := hKeeper.symm.trans ((h.pool t' b').mpr hAmong)
      cases hOther
      exact hNe rfl

theorem Held.allocateBuffer {t : CamStreamType} (h : Held w own keeper)
    (hFound : (w.pools t).find? (usable t w.heapMask size (w.objects o).cached) = some info) :
    ∃ b, Obtained w (w.setPool t ((w.pools t).eraseP (usable t w.heapMask size
      (w.objects o).cached))) keeper o b info ∧ size ≤ info.size := by
  obtain ⟨b, hIon, hKeeper, hPools⟩ := h.fromPool hFound
  have hLive : w.live b = true := (h.live b).mpr (by rw [hKeeper]; nofun)
  have hUsable : usable t w.heapMask size (w.objects o).cached info = true :=
    List.find?_some hFound
  obtain ⟨hSize, hHeap, hCached⟩ := of_decide_eq_true hUsable
  refine ⟨b, ⟨hIon, rfl, rfl, ?_, ?_, ?_, hPools, ?_, hHeap, hCached⟩, ?_⟩
  · rw [hKeeper]
    nofun
  · intro b'
    refine (or_iff_left_of_imp ?_).symm
    rintro rfl
    exact hLive
  · exact ⟨Nat.le_refl _, h.fresh b (by rw [hKeeper]; nofun)⟩
  · intro t'
    rw [poolIons_setPool]
    split
    · rename_i hSame
      rw [hSame]
      exact List.eraseP_sublist.map _
    · exact .refl _
  · split at hSize
    · exact Nat.le_of_eq hSize.symm
    · exact hSize

end KiwiDevice.Hal.MemWorld

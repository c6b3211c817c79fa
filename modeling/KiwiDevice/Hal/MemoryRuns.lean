import KiwiDevice.Hal.MemoryLoops
import KiwiDevice.Lib.Steps

/-!
# The owners of camera memory over whole runs

Heap memories and stream memories, with or without the shared pool: every live buffer has one place,
and the slots that an object counts hold what was asked for, as long as no call meets one of the
errors that `GrowsSafely` names.
-/

namespace KiwiDevice.Hal.MemWorld

open Camera (CamStreamType)

variable {w w' : MemWorld} {own : Nat → Nat → Prop} {keeper : Nat → Option Holder}
  {o n b count size : Nat} {r : MemResults}

/-! ### Places -/

theorem at_pool {t : CamStreamType} {k : Nat} :
    w.At b (.pool t k) ↔ (w.poolIons t)[k]? = some (some b) := by
  rw [At, poolIons, List.getElem?_map]
  cases (w.pools t)[k]? with
  | none => exact iff_of_false (Option.some_ne_none _).symm (Option.some_ne_none _).symm
  | some info => exact Option.some_inj.symm

theorem Held.keeper_of_at_pool (h : Held w own keeper) {t : CamStreamType} {k : Nat}
    (hAt : w.At b (.pool t k)) : keeper b = some (.pool t) :=
  (h.pool t b).mpr (List.mem_of_getElem? (at_pool.mp hAt))

theorem Held.outside_iff (h : Held w own keeper) :
    w.Outside b ↔ ∃ o j, own o j ∧ w.ionOf o j = some b := by
  constructor
  · rintro ⟨hLive, hNot⟩
    cases hKeeper : keeper b with
    | none => exact absurd hKeeper ((h.live b).mp hLive)
    | some holder =>
      cases holder with
      | slot o j => exact ⟨o, j, h.kept b o j hKeeper⟩
      | pool t =>
        obtain ⟨k, hk⟩ := List.mem_iff_getElem?.mp ((h.pool t b).mp hKeeper)
        exact absurd (at_pool.mpr hk) (hNot t k)
  · rintro ⟨o, j, hIn, hIon⟩
    have hKeeper := h.left hIn hIon
    refine ⟨(h.live b).mpr (by rw [hKeeper]; nofun), fun t k hAt => ?_⟩
    cases hKeeper.symm.trans (h.keeper_of_at_pool hAt)

/-- The slots that the objects count. -/
def Counted (w : MemWorld) (o i : Nat) : Prop := i < (w.objects o).bufferCount

/-- Every buffer has its keeper, and the slots that count are as they were asked for. -/
structure Sound (w : MemWorld) : Prop where
  held : ∃ keeper, Held w w.Counted keeper
  suits : ∀ o i, w.Counted o i → w.Suits o i ((w.objects o).requested i)

theorem Sound.oneOwner (h : w.Sound) : w.OneOwner := by
  obtain ⟨keeper, hHeld⟩ := h.held
  intro b hLive
  cases hKeeper : keeper b with
  | none => exact absurd hKeeper ((hHeld.live b).mp hLive)
  | some holder =>
    cases holder with
    | slot o i =>
      refine ⟨.slot o i, hHeld.kept b o i hKeeper, ?_⟩
      rintro (⟨o', i'⟩ | ⟨t, k⟩) hAt
      · have hSame := hKeeper.symm.trans (hHeld.left hAt.1 hAt.2)
        cases hSame
        rfl
      · cases hKeeper.symm.trans (hHeld.keeper_of_at_pool hAt)
    | pool t =>
      obtain ⟨k, hk⟩ := List.mem_iff_getElem?.mp ((hHeld.pool t b).mp hKeeper)
      refine ⟨.pool t k, at_pool.mpr hk, ?_⟩
      rintro (⟨o', i'⟩ | ⟨t', k'⟩) hAt
      · cases hKeeper.symm.trans (hHeld.left hAt.1 hAt.2)
      · have hSame := hKeeper.symm.trans (hHeld.keeper_of_at_pool hAt)
        cases hSame
        have hIn : k < (w.poolIons t).length := (List.getElem?_eq_some_iff.mp hk).1
        rw [(List.getElem?_inj hIn (hHeld.nodup t)).mp (hk.trans (at_pool.mp hAt).symm)]

theorem Sound.slotsFit (h : w.Sound) : w.SlotsFit := by
  obtain ⟨keeper, hHeld⟩ := h.held
  intro o i hIn
  obtain ⟨b, hIon, hKeeper⟩ := hHeld.slot o i hIn
  exact ⟨⟨b, hIon, (hHeld.live b).mpr (by rw [hKeeper]; nofun)⟩, h.suits o i hIn⟩

theorem Sound.unchanged (h : w.Sound) (h' : w'.Sound) (hFrame : SlotsOf o w w')
    (hInfo : ∀ i, w.Counted o i → (w'.objects o).memInfo i = (w.objects o).memInfo i) :
    Unchanged w w' o := by
  obtain ⟨keeper, hHeld⟩ := h.held
  obtain ⟨keeper', hHeld'⟩ := h'.held
  refine ⟨hFrame.bufferCount, hInfo, fun b => ?_⟩
  rw [hHeld.outside_iff, hHeld'.outside_iff]
  refine exists_congr fun o' => exists_congr fun j => ?_
  rcases eq_or_ne o' o with rfl | hNe
  · rw [Counted, Counted, hFrame.bufferCount]
    refine and_congr_right fun hIn => ?_
    rw [ionOf, ionOf, hInfo j hIn]
  · rw [Counted, Counted, ionOf, ionOf, hFrame.other o' hNe]

/-! ### Calls that take buffers -/

theorem Held.same (h : Held w own keeper) (hIon : ∀ o i, w'.ionOf o i = w.ionOf o i)
    (hLive : w'.live = w.live) (hNext : w'.nextIon = w.nextIon) (hPools : w'.pools = w.pools) :
    Held w' own keeper where
  live b := by
    rw [hLive]
    exact h.live b
  fresh b hKept := by
    rw [hNext]
    exact h.fresh b hKept
  slot o i hIn := by
    rw [hIon]
    exact h.slot o i hIn
  kept b o i hKeeper := by
    rw [hIon]
    exact h.kept b o i hKeeper
  pool t b := by
    rw [poolIons, hPools]
    exact h.pool t b
  entry t := by
    rw [poolIons, hPools]
    exact h.entry t
  nodup t := by
    rw [poolIons, hPools]
    exact h.nodup t

theorem markMapped_rest (o : Nat) (value : Bool) (n i : Nat) (w : MemWorld) :
    (markMapped o value n i w).nextIon = w.nextIon ∧ (markMapped o value n i w).pools = w.pools := by
  induction n generalizing i w with
  | zero => exact ⟨rfl, rfl⟩
  | succ n ih => exact ih (i + 1) (w.setMapped o i value)

theorem markMapped_memInfo (o : Nat) (value : Bool) (n i : Nat) (w : MemWorld) (o' j : Nat) :
    ((markMapped o value n i w).objects o').memInfo j = (w.objects o').memInfo j := by
  rcases eq_or_ne o' o with rfl | hNe
  · rw [(markMapped_spec o' value n i w).2.1]
  · rw [(markMapped_slotsOf o value n i w).other o' hNe]

theorem Held.markMapped (h : Held w own keeper) (o : Nat) (value : Bool) (n i : Nat) :
    Held (markMapped o value n i w) own keeper := by
  obtain ⟨hNext, hPools⟩ := markMapped_rest o value n i w
  exact h.same (fun o' j => congrArg MemInfo.ion (markMapped_memInfo o value n i w o' j))
    (markMapped_spec o value n i w).1 hNext hPools

/-- The mapping of a heap memory that succeeds. -/
theorem mapLoop_eq (o low : Nat) (n i : Nat) (w : MemWorld)
    (hMaps : ∀ k < n, r.mmap (i + k) = true) :
    mapLoop o low r n i w = (markMapped o true n i w, true) := by
  induction n generalizing i w with
  | zero => rfl
  | succ n ih =>
    have hFirst : r.mmap i = true := hMaps 0 (Nat.succ_pos n)
    rw [mapLoop, if_pos hFirst, ih (i + 1)]
    · rfl
    · intro k hk
      rw [Nat.add_assoc, Nat.add_comm 1 k]
      exact hMaps (k + 1) (Nat.succ_lt_succ hk)

/-- The errors that a call must not meet: a heap memory that cannot be mapped, a buffer of ION that
the page alignment has made too small, and a slot without a buffer while the object has others. -/
structure GrowsSafely (w : MemWorld) (o count size : Nat) (r : MemResults) : Prop where
  sized : w.Answered o (w.objects o).bufferCount count size r → w.Sized o count size
  mapped : w.Answered o (w.objects o).bufferCount count size r → (w.objects o).kind = .heap →
    ∀ k < count, r.mmap ((w.objects o).bufferCount + k) = true
  empty : ¬ w.Answered o (w.objects o).bufferCount count size r → (w.objects o).bufferCount = 0

/-- `alloc` without the error handling that loses buffers. -/
theorem alloc_cases (h : w.Sound) (hRoom : (w.objects o).bufferCount + count ≤ maxNumFrames)
    (hSafe : w.GrowsSafely o count size r) :
    (w.alloc o count size r).2 = true ∧ w.Sized o count size ∧
        Supplied w (w.alloc o count size r).1 w.Counted o (w.objects o).bufferCount count size ∧
        ((w.objects o).kind = .heap →
          ∀ k < count, r.mmap ((w.objects o).bufferCount + k) = true) ∨
      (w.alloc o count size r).2 = false ∧ (w.alloc o count size r).1.Sound ∧
        Unchanged w (w.alloc o count size r).1 o := by
  obtain ⟨keeper, hHeld⟩ := h.held
  have hAlloc : w.alloc o count size r =
      allocLoop o size r count (w.objects o).bufferCount w := by
    rw [alloc]
    exact if_neg (Nat.not_lt.mpr hRoom)
  have hOk := allocLoop_ok_iff o size r count (w.objects o).bufferCount w
  rw [← hAlloc] at hOk
  by_cases hAnswered : w.Answered o (w.objects o).bufferCount count size r
  · have hTrue := hOk.mpr hAnswered
    refine .inl ⟨hTrue, hSafe.sized hAnswered, ?_, hSafe.mapped hAnswered⟩
    rw [hAlloc] at hTrue ⊢
    exact allocLoop_supplied hHeld (fun j hLow _ => Nat.not_lt.mpr hLow) hTrue
  · have hFalse : (w.alloc o count size r).2 = false :=
      Bool.eq_false_of_not_eq_true fun hTrue => hAnswered (hOk.mp hTrue)
    have hZero := hSafe.empty hAnswered
    refine .inr ⟨hFalse, ?_⟩
    rw [hAlloc] at hFalse ⊢
    obtain ⟨hFrame, keeper', hHeld'⟩ := allocLoop_failed hHeld (fun _ => Iff.rfl) hFalse
    have hSound : (allocLoop o size r count (w.objects o).bufferCount w).1.Sound := by
      refine ⟨⟨keeper', hHeld'.congr fun o' i => ?_⟩, fun o' i hIn => ?_⟩
      · rcases eq_or_ne o' o with rfl | hNe
        · rw [Counted, hFrame.bufferCount, hZero]
          exact iff_of_false (Nat.not_lt_zero i) fun hBoth => hBoth.2 rfl
        · rw [Counted, hFrame.other o' hNe]
          exact (and_iff_left hNe).symm
      · rcases eq_or_ne o' o with rfl | hNe
        · rw [Counted, hFrame.bufferCount, hZero] at hIn
          exact absurd hIn (Nat.not_lt_zero i)
        · rw [Counted, hFrame.other o' hNe] at hIn
          rw [Suits, hFrame.other o' hNe, hFrame.heapMask]
          exact h.suits o' i hIn
    refine ⟨hSound, h.unchanged hSound hFrame fun i hIn => ?_⟩
    rw [Counted, hZero] at hIn
    exact absurd hIn (Nat.not_lt_zero i)

theorem counted_memInfo (w : MemWorld) (o n bufferCount size o' : Nat) :
    ((w.counted o n bufferCount size).objects o').memInfo = (w.objects o').memInfo := by
  rcases eq_or_ne o' o with rfl | hNe
  · rw [MemWorld.counted, setObject_same]
  · rw [MemWorld.counted, setObject_of_ne _ hNe]

/-- The world after a call that got its buffers. -/
theorem Sound.counted {w₁ : MemWorld} (h : w.Sound) (hCount : (w.objects o).bufferCount = n)
    (hSized : w.Sized o count size) (hSupplied : Supplied w w₁ w.Counted o n count size) :
    ((markMapped o true count n w₁).counted o n (n + count) size).Sound := by
  obtain ⟨keeper, hHeld⟩ := hSupplied.held
  have hFrame := hSupplied.frame.trans (markMapped_slotsOf o true count n w₁)
  have hInfo : ∀ o' i, (((markMapped o true count n w₁).counted o n (n + count) size).objects
      o').memInfo i = (w₁.objects o').memInfo i := fun o' i =>
    (congrFun (counted_memInfo _ o n _ size o') i).trans (markMapped_memInfo o true count n w₁ o' i)
  have hOther : ∀ o', o' ≠ o →
      ((markMapped o true count n w₁).counted o n (n + count) size).objects o' = w.objects o' :=
    fun o' hNe => (setObject_of_ne _ hNe _).trans (hFrame.other o' hNe)
  have hAfter : Held ((markMapped o true count n w₁).counted o n (n + count) size) _ keeper :=
    (hHeld.markMapped o true count n).same
      (fun o' i => congrArg MemInfo.ion (congrFun (counted_memInfo _ o n _ size o') i)) rfl rfl rfl
  refine ⟨⟨keeper, hAfter.congr fun o' i => ?_⟩, fun o' i hIn => ?_⟩
  · rcases eq_or_ne o' o with rfl | hNe
    · rw [Counted, counted_bufferCount, Counted, hCount, Slots]
      omega
    · rw [Counted, hOther o' hNe]
      exact (or_iff_left fun hSlot => hNe hSlot.1).symm
  · rcases eq_or_ne o' o with rfl | hNe
    · rw [Counted, counted_bufferCount] at hIn
      have hSuits : w₁.Suits o' i (if n ≤ i then size else (w.objects o').requested i) := by
        split
        · exact hSupplied.suits hSized i ⟨rfl, by assumption, hIn⟩
        · rename_i hBelow
          rw [Suits, hSupplied.other i (by rw [Slots]; omega), hSupplied.frame.heapMask,
            hSupplied.frame.cached]
          exact h.suits o' i (by rw [Counted, hCount]; omega)
      rw [Suits, hInfo, MemWorld.counted, setObject_same]
      dsimp only
      rw [hFrame.requested, (markMapped_slotsOf o' true count n w₁).cached]
      exact ⟨hSuits.1, hSuits.2.1.trans (markMapped_slotsOf o' true count n w₁).heapMask.symm,
        hSuits.2.2⟩
    · rw [Counted, hOther o' hNe] at hIn
      rw [Suits, hOther o' hNe]
      obtain ⟨hSize, hHeap, hCached⟩ := h.suits o' i hIn
      exact ⟨hSize, hHeap.trans hFrame.heapMask.symm, hCached⟩

/-- `allocate` and `allocateMore`, where the buffers are counted from the ones that are there. -/
theorem Sound.allocateFrom (h : w.Sound) (hCount : (w.objects o).bufferCount = n)
    {bufferCount : Nat} (hEnd : n + count ≤ maxNumFrames → bufferCount = n + count)
    (hSafe : n + count ≤ maxNumFrames → w.GrowsSafely o count size r) :
    (w.allocateFrom o n count size bufferCount r).1.Sound ∧
      ((w.allocateFrom o n count size bufferCount r).2 = false →
        Unchanged w (w.allocateFrom o n count size bufferCount r).1 o) := by
  subst hCount
  rw [MemWorld.allocateFrom]
  rcases Nat.lt_or_ge maxNumFrames ((w.objects o).bufferCount + count) with hFull | hRoom
  · have hAlloc : w.alloc o count size r = (w, false) := if_pos hFull
    rw [hAlloc, if_neg Bool.false_ne_true]
    exact ⟨h, fun _ => h.unchanged h (.refl o w) fun _ _ => rfl⟩
  · rcases alloc_cases h hRoom (hSafe hRoom) with
      ⟨hOk, hSized, hSupplied, hMaps⟩ | ⟨hFail, hSound, hSame⟩
    · have hDone := h.counted rfl hSized hSupplied
      rw [← hEnd hRoom] at hDone
      rw [if_pos hOk]
      cases hKind : (w.objects o).kind with
      | heap =>
        rw [mapLoop_eq o _ count _ _ (hMaps hKind), if_pos rfl]
        exact ⟨hDone, fun hFail => Bool.noConfusion hFail⟩
      | stream pooled streamType => exact ⟨hDone, fun hFail => Bool.noConfusion hFail⟩
    · rw [if_neg (by rw [hFail]; exact Bool.false_ne_true)]
      exact ⟨hSound, fun _ => hSame⟩

/-! ### Calls that give buffers back -/

theorem Sound.deallocate (h : w.Sound) (o : Nat) : (w.deallocate o).Sound := by
  obtain ⟨keeper, hHeld⟩ := h.held
  have hMapped := hHeld.markMapped o false (w.objects o).bufferCount 0
  obtain ⟨keeper', hHeld'⟩ := hMapped.dealloc (o := o) (i := 0) (n := (w.objects o).bufferCount)
    fun j _ hj => by rwa [Nat.zero_add] at hj
  have hAfter : Held (w.deallocate o) _ keeper' := hHeld'.same (fun o' i => by
    rcases eq_or_ne o' o with rfl | hNe
    · rw [ionOf, MemWorld.deallocate, setObject_same]
    · rw [ionOf, MemWorld.deallocate, setObject_of_ne _ hNe]) rfl rfl rfl
  have hFrame := (markMapped_slotsOf o false (w.objects o).bufferCount 0 w).trans
    (dealloc_slotsOf o (w.objects o).bufferCount 0 _)
  have hOther : ∀ o', o' ≠ o → (w.deallocate o).objects o' = w.objects o' := fun o' hNe =>
    (setObject_of_ne _ hNe _).trans (hFrame.other o' hNe)
  have hZero := (w.deallocate_objects o).1
  refine ⟨⟨keeper', hAfter.congr fun o' i => ?_⟩, fun o' i hIn => ?_⟩
  · rcases eq_or_ne o' o with rfl | hNe
    · rw [Counted, hZero, Counted, Slots]
      omega
    · rw [Counted, hOther o' hNe]
      exact (and_iff_left fun hSlot => hNe hSlot.1).symm
  · rcases eq_or_ne o' o with rfl | hNe
    · rw [Counted, hZero] at hIn
      exact absurd hIn (Nat.not_lt_zero i)
    · rw [Counted, hOther o' hNe] at hIn
      rw [Suits, hOther o' hNe]
      obtain ⟨hSize, hHeap, hCached⟩ := h.suits o' i hIn
      exact ⟨hSize, hHeap.trans hFrame.heapMask.symm, hCached⟩

theorem Sound.clear (h : w.Sound) : w.clear.Sound := by
  obtain ⟨keeper, hHeld⟩ := h.held
  obtain ⟨hMask, hObjects, keeper', hHeld'⟩ := hHeld.clear poolTypes
  refine ⟨⟨keeper', hHeld'.congr fun o i => ?_⟩, fun o i hIn => ?_⟩
  · rw [Counted, MemWorld.clear, hObjects]
    rfl
  · rw [Counted, MemWorld.clear, hObjects] at hIn
    rw [Suits, MemWorld.clear, hObjects, hMask]
    exact h.suits o i hIn

/-! ### Runs -/

/-- The condition on a call, on the state before it. -/
def Careful (w : MemWorld) : Input → Prop
  | .allocate o count size r | .allocateMore o count size r =>
    (w.objects o).bufferCount + count ≤ maxNumFrames → w.GrowsSafely o count size r
  | .deallocate _ | .clear => True

/-- The object that is called. -/
def Input.object : Input → Option Nat
  | .allocate o .. | .allocateMore o .. | .deallocate o => some o
  | .clear => none

theorem Sound.step (h : w.Sound) {i : Input} {ok : Bool} (hSafe : w.Careful i)
    (hStep : w.step i = some (w', ok)) :
    w'.Sound ∧ (ok = false → ∃ o, i.object = some o ∧ Unchanged w w' o) := by
  cases i with
  | allocate o count size r =>
    rw [MemWorld.step] at hStep
    split at hStep
    · rename_i hEmpty
      have hEnd : 0 + count.val ≤ maxNumFrames → count.val = 0 + count.val :=
        fun _ => (Nat.zero_add _).symm
      obtain ⟨hSound, hSame⟩ : (w.allocate o count size r).1.Sound ∧
          ((w.allocate o count size r).2 = false → Unchanged w (w.allocate o count size r).1 o) :=
        h.allocateFrom hEmpty hEnd fun hRoom => hSafe (by rwa [hEmpty])
      obtain ⟨rfl, rfl⟩ := Prod.mk.inj (Option.some.inj hStep)
      exact ⟨hSound, fun hFail => ⟨o, rfl, hSame hFail⟩⟩
    · cases hStep
  | allocateMore o count size r =>
    have hEnd : (w.objects o).bufferCount + count.val ≤ maxNumFrames →
        ((w.objects o).bufferCount + count.val) % 256 = (w.objects o).bufferCount + count.val :=
      fun hRoom => Nat.mod_eq_of_lt (lt_of_le_of_lt hRoom (by decide))
    obtain ⟨hSound, hSame⟩ : (w.allocateMore o count size r).1.Sound ∧
        ((w.allocateMore o count size r).2 = false →
          Unchanged w (w.allocateMore o count size r).1 o) := h.allocateFrom rfl hEnd hSafe
    obtain ⟨rfl, rfl⟩ := Prod.mk.inj (Option.some.inj hStep)
    exact ⟨hSound, fun hFail => ⟨o, rfl, hSame hFail⟩⟩
  | deallocate o =>
    obtain ⟨rfl, rfl⟩ := Prod.mk.inj (Option.some.inj hStep)
    exact ⟨h.deallocate o, nofun⟩
  | clear =>
    obtain ⟨rfl, rfl⟩ := Prod.mk.inj (Option.some.inj hStep)
    exact ⟨h.clear, nofun⟩

theorem sound_start (heapMask : Nat) (kind : Nat → MemKind) (cached : Nat → Bool) :
    (start heapMask kind cached).Sound where
  held := by
    refine ⟨fun _ => none, ?_⟩
    constructor
    · exact fun _ => iff_of_false Bool.false_ne_true fun hNot => hNot rfl
    · exact fun _ hKept => absurd rfl hKept
    · exact fun _ i hIn => absurd hIn (Nat.not_lt_zero i)
    · exact fun _ _ _ hKeeper => nomatch hKeeper
    · exact fun _ _ => iff_of_false nofun List.not_mem_nil
    · exact fun _ => List.not_mem_nil
    · exact fun _ => List.nodup_nil
  suits _ i hIn := absurd hIn (Nat.not_lt_zero i)

/-- In a run of such calls each live buffer is in one place, each slot that counts has a live buffer
as it was asked for, and a call that fails changes nothing. -/
theorem memory_owned {heapMask : Nat} {kind : Nat → MemKind} {cached : Nat → Bool}
    {is : List Input} {answers : List Bool}
    (run : Lib.Steps Next (fun _ _ w i _ => w.Careful i) (start heapMask kind cached) is answers
      w) :
    w.OneOwner ∧ w.SlotsFit ∧
      ∀ i w', w.Careful i → w.step i = some (w', false) →
        ∃ o, i.object = some o ∧ Unchanged w w' o := by
  have hSound : w.Sound := by
    refine run.invariant (sound_start heapMask kind cached) ?_
    rintro - - w i - w' hSafe hSound ⟨ok, hStep, -⟩
    exact (hSound.step hSafe hStep).1
  exact ⟨hSound.oneOwner, hSound.slotsFit,
    fun i w' hSafe hStep => (hSound.step hSafe hStep).2 rfl⟩

/-- ION has a buffer for the first slot only, and mapping succeeds. -/
def firstOnly : MemResults where
  ion i := i = 0
  mmap _ := true

def pooled : MemWorld := start 1 (fun _ => .stream true .preview) fun _ => false

/-- The second buffer of the first object is missing, so that the first one goes to the pool, where
the second object gets it. -/
def poolCalls : List Input := [.allocate 0 2 5000 firstOnly, .allocate 1 1 4096 firstOnly]

theorem memory_owned_pooled : ∃ w, Lib.Steps Next (fun _ _ w i _ => w.Careful i) pooled poolCalls
    [false, true] w ∧ (w.objects 1).bufferCount = 1 ∧ w.OneOwner ∧ w.SlotsFit := by
  have hMissing : ¬ pooled.Answered 0 0 2 5000 firstOnly := fun hAll =>
    absurd (hAll 1 (by decide)) (by decide)
  have hCareful : pooled.Careful (.allocate 0 2 5000 firstOnly) := fun _ =>
    ⟨fun hAll => absurd hAll hMissing, fun hAll => absurd hAll hMissing, fun _ => rfl⟩
  have hFirst : Lib.Steps Next (fun _ _ w i _ => w.Careful i) pooled _ ([] ++ [false])
      (pooled.allocate 0 2 5000 firstOnly).1 := .step .start hCareful ⟨false, rfl, rfl⟩
  have hCareful' : (pooled.allocate 0 2 5000 firstOnly).1.Careful (.allocate 1 1 4096 firstOnly) :=
    fun _ => ⟨fun _ => .inl (by decide), fun _ => nofun, fun _ => rfl⟩
  have hSecond := hFirst.step hCareful' ⟨true, rfl, rfl⟩
  obtain ⟨hOwner, hFit, -⟩ := memory_owned hSecond
  exact ⟨_, hSecond, rfl, hOwner, hFit⟩

/-- A heap memory with one buffer asks for another one, which ION does not have, and one whose
second buffer cannot be mapped. -/
theorem memory_lost :
    (∃ answers w, Lib.Steps Next Lib.anyStep (start 1 (fun _ => .heap) fun _ => false)
      [.allocate 0 1 4096 firstOnly, .allocateMore 0 1 4096 firstOnly] answers w ∧ ¬ w.SlotsFit) ∧
    ∃ answers w, Lib.Steps Next Lib.anyStep (start 1 (fun _ => .heap) fun _ => false)
      [.allocate 0 2 4096 ⟨fun _ => true, fun i => i = 0⟩] answers w ∧ ¬ w.OneOwner := by
  constructor
  · refine ⟨_, _, .step (.step .start trivial ⟨_, rfl, rfl⟩) trivial ⟨_, rfl, rfl⟩, fun hFit => ?_⟩
    obtain ⟨⟨b, hIon, -⟩, -⟩ := hFit 0 0 (by decide)
    cases hIon
  · refine ⟨_, _, .step .start trivial ⟨_, rfl, rfl⟩, fun hOwner => ?_⟩
    obtain ⟨p, hAt, -⟩ := hOwner 1 (by decide)
    cases p with
    | slot o i =>
      -- no object counts a slot, and the buffer of the second one is still there
      cases o with
      | zero => exact absurd hAt.1 (Nat.not_lt_zero i)
      | succ o => exact absurd hAt.1 (Nat.not_lt_zero i)
    | pool t k => cases hAt

end KiwiDevice.Hal.MemWorld

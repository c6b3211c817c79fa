import KiwiDevice.Hal.GrallocMemory
import KiwiDevice.Lib.Steps
import Mathlib.Algebra.Order.Group.Multiset
import Mathlib.Tactic.Abel

/-!
# Runs of the preview buffers

What the slots hold is what the account of the events leaves, and the owned buffers are those held
from the window.
-/

namespace KiwiDevice.Hal

namespace GrallocMemory

open Lib (Account)

def slotBuffer (s : GrallocMemory) (i : Nat) : Multiset GrallocResource :=
  if s.localFlag i then ↑((s.bufferHandle i).toList.map GrallocResource.buffer) else 0

def slotMapping (s : GrallocMemory) (i : Nat) : Multiset GrallocResource :=
  ↑((s.cameraMemory i).toList.map GrallocResource.memory) +
    {.ionHandle (s.memInfo i), .ionFd (s.memInfo i).mainIonFd}

def slot (s : GrallocMemory) (i : Nat) : Multiset GrallocResource :=
  s.slotBuffer i + s.slotMapping i

/-- What `k` slots from `lo` on hold. -/
def heldBy (s : GrallocMemory) (lo k : Nat) : Multiset GrallocResource :=
  ((List.range' lo k).map s.slot).sum

/-- The invariant, for a memory whose slots are those `k` from `lo` on. -/
structure Kept (lo k : Nat) (s : GrallocMemory) (events : List GrallocEvent) : Prop where
  account : Account GrallocEvent.effect events (s.heldBy lo k)
  owned : ∀ h, Held h events ↔ ∃ i, s.localFlag i = true ∧ s.bufferHandle i = some h
  inside : ∀ i, s.localFlag i = true → lo ≤ i ∧ i < lo + k
  full : ∀ i, lo ≤ i → i < lo + k → ∃ h m, s.bufferHandle i = some h ∧ s.cameraMemory i = some m
  distinct : ∀ i j, lo ≤ i → i < lo + k → lo ≤ j → j < lo + k →
    s.bufferHandle i = s.bufferHandle j → i = j

variable {s s' : GrallocMemory} {events o o' : List GrallocEvent} {e : GrallocEvent}
  {lo k i h fd x m n : Nat} {a : GrallocAnswers}

theorem held_snoc : Held h (events ++ [e]) ↔
    e.effect = .take (.buffer h) ∨ e.effect ≠ .give (.buffer h) ∧ Held h events := by
  rw [Held, Lib.since_snoc]
  cases e <;> simp [GrallocEvent.effect, Held]

theorem slot_congr (hFlag : s.localFlag i = s'.localFlag i)
    (hHandle : s.bufferHandle i = s'.bufferHandle i) (hInfo : s.memInfo i = s'.memInfo i)
    (hMemory : s.cameraMemory i = s'.cameraMemory i) : s.slot i = s'.slot i := by
  rw [slot, slot, slotBuffer, slotBuffer, slotMapping, slotMapping, hFlag, hHandle, hInfo, hMemory]

theorem heldBy_congr (h : ∀ i, lo ≤ i → i < lo + k → s.slot i = s'.slot i) :
    s.heldBy lo k = s'.heldBy lo k := by
  rw [heldBy, heldBy]
  congr 1
  apply List.map_congr_left
  intro i hi
  have hRange := List.mem_range'_1.mp hi
  exact h i hRange.1 hRange.2

theorem heldBy_succ (s : GrallocMemory) (lo k : Nat) :
    s.heldBy lo (k + 1) = s.slot lo + s.heldBy (lo + 1) k := by
  rw [heldBy, List.range'_succ, List.map_cons, List.sum_cons, heldBy]

theorem heldBy_append (s : GrallocMemory) (lo j k : Nat) :
    s.heldBy lo (j + k) = s.heldBy lo j + s.heldBy (lo + j) k := by
  rw [heldBy, ← List.range'_append_1, List.map_append, List.sum_append, heldBy, heldBy]

@[simp] theorem flag_self (s : GrallocMemory) (i : Nat) (b : Bool) :
    (s.setFlag i b).localFlag i = b := by
  simp only [setFlag, Function.update_self]

theorem flag_ne {b : Bool} {j : Nat} (hNe : j ≠ i) :
    (s.setFlag i b).localFlag j = s.localFlag j := Function.update_of_ne hNe _ _

theorem setFlag_slot_ne {b : Bool} {j : Nat} (hNe : j ≠ i) : (s.setFlag i b).slot j = s.slot j :=
  slot_congr (Function.update_of_ne hNe _ _) rfl rfl rfl

theorem slotBuffer_owned (hFlag : s.localFlag i = true) (hHandle : s.bufferHandle i = some h) :
    s.slotBuffer i = {.buffer h} := by
  rw [slotBuffer, if_pos hFlag, hHandle]
  rfl

theorem slotBuffer_free (hFlag : s.localFlag i = false) : s.slotBuffer i = 0 := by
  rw [slotBuffer, hFlag]
  rfl

theorem slot_setFlag (hHandle : s.bufferHandle i = some h) :
    (s.setFlag i true).slot i = .buffer h ::ₘ (s.setFlag i false).slot i := by
  rw [slot, slot, slotBuffer_owned (s.flag_self i true) hHandle,
    slotBuffer_free (s.flag_self i false), Multiset.singleton_add, Multiset.zero_add]
  rfl

theorem setFlag_self {b : Bool} (hFlag : s.localFlag i = b) : s.setFlag i b = s := by
  rw [setFlag, ← hFlag, Function.update_eq_self]

theorem heldBy_setFlag (hHandle : s.bufferHandle i = some h) (hLo : lo ≤ i) (hHi : i < lo + k) :
    (s.setFlag i true).heldBy lo k = .buffer h ::ₘ (s.setFlag i false).heldBy lo k := by
  obtain ⟨j, rfl⟩ := Nat.exists_eq_add_of_le hLo
  obtain ⟨k', rfl⟩ : ∃ k', k = j + (k' + 1) := ⟨k - j - 1, by omega⟩
  have hOthers : ∀ lo' j', (∀ i', lo' ≤ i' → i' < lo' + j' → i' ≠ lo + j) →
      (s.setFlag (lo + j) true).heldBy lo' j' = (s.setFlag (lo + j) false).heldBy lo' j' := by
    intro lo' j' hNe
    refine heldBy_congr fun i' hLo' hHi' => ?_
    rw [setFlag_slot_ne (hNe i' hLo' hHi'), setFlag_slot_ne (hNe i' hLo' hHi')]
  rw [heldBy_append _ lo j, heldBy_append _ lo j, heldBy_succ, heldBy_succ, slot_setFlag hHandle,
    hOthers lo j (by omega), hOthers (lo + j + 1) k' (by omega), Multiset.cons_add,
    Multiset.add_cons]

theorem owned_gave (hOwned : ∀ h, Held h events ↔ ∃ i, s.localFlag i = true ∧ s.bufferHandle i = some h)
    (hUnique : ∀ j, s.localFlag j = true → s.bufferHandle j = some h → j = i)
    (hHandle : s.bufferHandle i = some h) (hEvent : e.effect = .give (.buffer h)) (h' : Nat) :
    Held h' (events ++ [e]) ↔
      ∃ j, (s.setFlag i false).localFlag j = true ∧ s.bufferHandle j = some h' := by
  rw [held_snoc, hEvent, hOwned]
  constructor
  · rintro (hTake | ⟨hOther, j, hj, hjHandle⟩)
    · cases hTake
    · refine ⟨j, ?_, hjHandle⟩
      have hNe : j ≠ i := by
        rintro rfl
        rw [hHandle] at hjHandle
        cases hjHandle
        exact hOther rfl
      rwa [flag_ne hNe]
  · rintro ⟨j, hj, hjHandle⟩
    rcases eq_or_ne j i with rfl | hNe
    · rw [flag_self] at hj
      cases hj
    · rw [flag_ne hNe] at hj
      refine .inr ⟨?_, j, hj, hjHandle⟩
      intro hSame
      cases hSame
      exact hNe (hUnique j hj hjHandle)

theorem Kept.unique (hKept : Kept lo k s events) (hLo : lo ≤ i) (hHi : i < lo + k)
    (hHandle : s.bufferHandle i = some h) (j : Nat) (hj : s.localFlag j = true)
    (hjHandle : s.bufferHandle j = some h) : j = i := by
  obtain ⟨hjLo, hjHi⟩ := hKept.inside j hj
  exact hKept.distinct j i hjLo hjHi hLo hHi (hjHandle.trans hHandle.symm)

theorem Kept.gave (hKept : Kept lo k s events) (hFlag : s.localFlag i = true)
    (hHandle : s.bufferHandle i = some h) (hEvent : e.effect = .give (.buffer h)) :
    Kept lo k (s.setFlag i false) (events ++ [e]) := by
  obtain ⟨hLo, hHi⟩ := hKept.inside i hFlag
  have hHeld := heldBy_setFlag hHandle hLo hHi
  rw [setFlag_self hFlag] at hHeld
  refine ⟨.give (hHeld ▸ hKept.account) hEvent, ?_, ?_, hKept.full, hKept.distinct⟩
  · exact owned_gave hKept.owned (hKept.unique hLo hHi hHandle) hHandle hEvent
  · intro j hj
    rcases eq_or_ne j i with rfl | hNe
    · exact ⟨hLo, hHi⟩
    · rw [flag_ne hNe] at hj
      exact hKept.inside j hj

theorem Kept.took (hKept : Kept lo k s events) (hFree : ¬ Held h events)
    (hHandle : s.bufferHandle i = some h) (hLo : lo ≤ i) (hHi : i < lo + k) :
    Kept lo k (s.setFlag i true) (events ++ [.dequeued h]) := by
  have hFlag : s.localFlag i = false := by
    rw [hKept.owned] at hFree
    refine Bool.eq_false_iff.mpr fun hOn => ?_
    exact hFree ⟨i, hOn, hHandle⟩
  have hHeld := heldBy_setFlag hHandle hLo hHi
  rw [setFlag_self hFlag] at hHeld
  constructor
  · rw [hHeld]
    exact .take hKept.account rfl
  · intro h'
    rw [held_snoc, hKept.owned]
    constructor
    · rintro (hTake | ⟨-, j, hj, hjHandle⟩)
      · cases hTake
        exact ⟨i, s.flag_self i true, hHandle⟩
      · refine ⟨j, ?_, hjHandle⟩
        have hNe : j ≠ i := by
          rintro rfl
          rw [hFlag] at hj
          cases hj
        rwa [flag_ne hNe]
    · rintro ⟨j, hj, hjHandle⟩
      rcases eq_or_ne j i with rfl | hNe
      · have hSame : h = h' := Option.some.inj (hHandle.symm.trans hjHandle)
        exact .inl (by rw [hSame]; rfl)
      · rw [flag_ne hNe] at hj
        exact .inr ⟨by simp [GrallocEvent.effect], j, hj, hjHandle⟩
  · intro j hj
    rcases eq_or_ne j i with rfl | hNe
    · exact ⟨hLo, hHi⟩
    · rw [flag_ne hNe] at hj
      exact hKept.inside j hj
  · exact hKept.full
  · exact hKept.distinct

theorem fill_slot_ne {j : Nat} (hNe : j ≠ n) : (s.fill a n h fd x).slot j = s.slot j :=
  slot_congr (Function.update_of_ne hNe _ _) (Function.update_of_ne hNe _ _)
    (Function.update_of_ne hNe _ _) (Function.update_of_ne hNe _ _)

theorem fill_slot (hMemory : a.getMemory n = some m) :
    (s.fill a n h fd x).slot n =
      {.buffer h} + ({.memory m} + {.ionHandle ⟨fd, x⟩, .ionFd fd}) := by
  simp [slot, slotBuffer, slotMapping, fill, setFlag, hMemory]

theorem Kept.fill (hKept : Kept 0 n s events) (hAll : ∀ i < n, s.localFlag i = true)
    (hFree : ¬ Held h events) (hMemory : a.getMemory n = some m) :
    Kept 0 (n + 1) (s.fill a n h fd x)
      (events ++ [.dequeued h, .opened fd, .imported ⟨fd, x⟩, .obtained m]) := by
  have hSplit : events ++ [.dequeued h, .opened fd, .imported ⟨fd, x⟩, .obtained m] =
      events ++ [.dequeued h] ++ [.opened fd] ++ [.imported ⟨fd, x⟩] ++ [.obtained m] := by simp
  have hFlag : ∀ i, (s.fill a n h fd x).localFlag i = true ↔ i = n ∨ s.localFlag i = true := by
    intro i
    rcases eq_or_ne i n with rfl | hNe
    · simp [GrallocMemory.fill]
    · simp [GrallocMemory.fill, flag_ne hNe, hNe]
  have hNew : (s.fill a n h fd x).bufferHandle n = some h := Function.update_self ..
  have hOld : ∀ i, i ≠ n → (s.fill a n h fd x).bufferHandle i = s.bufferHandle i :=
    fun i hNe => Function.update_of_ne hNe ..
  have hOther : ∀ i, i < n → s.bufferHandle i ≠ some h := fun i hi hSame =>
    hFree ((hKept.owned h).mpr ⟨i, hAll i hi, hSame⟩)
  rw [hSplit]
  constructor
  · have hSlots : (s.fill a n h fd x).heldBy 0 (n + 1) =
        .memory m ::ₘ .ionHandle ⟨fd, x⟩ ::ₘ .ionFd fd ::ₘ .buffer h ::ₘ s.heldBy 0 n := by
      rw [heldBy_append, heldBy_succ, Nat.zero_add, fill_slot hMemory,
        heldBy_congr fun i _ hi => fill_slot_ne (by omega)]
      simp only [heldBy, List.range'_zero, List.map_nil, List.sum_nil, add_zero,
        ← Multiset.singleton_add, Multiset.insert_eq_cons]
      abel
    rw [hSlots]
    exact .take (.take (.take (.take hKept.account rfl) rfl) rfl) rfl
  · intro h'
    rw [held_snoc, held_snoc, held_snoc, held_snoc, hKept.owned]
    simp only [GrallocEvent.effect, reduceCtorEq, false_or, ne_eq, not_false_eq_true, true_and,
      Lib.Effect.take.injEq, GrallocResource.buffer.injEq]
    constructor
    · rintro (rfl | ⟨i, hi, hHandle⟩)
      · exact ⟨n, (hFlag n).mpr (.inl rfl), hNew⟩
      · have hInside := hKept.inside i hi
        exact ⟨i, (hFlag i).mpr (.inr hi), (hOld i (by omega)).trans hHandle⟩
    · rintro ⟨i, hi, hHandle⟩
      rcases eq_or_ne i n with rfl | hNe
      · exact .inl (Option.some.inj (hNew.symm.trans hHandle))
      · exact .inr ⟨i, ((hFlag i).mp hi).resolve_left hNe, (hOld i hNe).symm.trans hHandle⟩
  · intro i hi
    rcases (hFlag i).mp hi with rfl | hi
    · omega
    · have hInside := hKept.inside i hi
      omega
  · intro i _ hi
    rcases eq_or_ne i n with rfl | hNe
    · exact ⟨h, m, hNew, (Function.update_self ..).trans hMemory⟩
    · obtain ⟨h', m', hHandle, hMem⟩ := hKept.full i (Nat.zero_le _) (by omega)
      exact ⟨h', m', (hOld i hNe).trans hHandle, (Function.update_of_ne hNe ..).trans hMem⟩
  · intro i j _ hi _ hj hSame
    rcases eq_or_ne i n with rfl | hiNe
    · rcases eq_or_ne j i with rfl | hjNe
      · rfl
      · rw [hNew, hOld j hjNe] at hSame
        exact absurd hSame.symm (hOther j (by omega))
    · rcases eq_or_ne j n with rfl | hjNe
      · rw [hNew, hOld i hiNe] at hSame
        exact absurd hSame (hOther i (by omega))
      · rw [hOld i hiNe, hOld j hjNe] at hSame
        exact hKept.distinct i j (Nat.zero_le _) (by omega) (Nat.zero_le _) (by omega) hSame

/-- Nothing that the loop of `allocate` asks for the buffer `i` is refused. -/
def Granted (a : GrallocAnswers) (i : Nat) : Prop :=
  (a.dequeue i).isSome ∧ (a.openIon i).isSome ∧ (a.importIon i).isSome ∧ (a.getMemory i).isSome

theorem allocLoop_succ (hRoom : n < maxNumFrames) (hGranted : Granted a n) (k : Nat)
    (s : GrallocMemory) :
    ∃ h fd x m, a.getMemory n = some m ∧ allocLoop a (k + 1) n s =
      (allocLoop a k (n + 1) (s.fill a n h fd x)).map fun rest =>
        (rest.1, [.dequeued h, .opened fd, .imported ⟨fd, x⟩, .obtained m] ++ rest.2.1,
          rest.2.2) := by
  obtain ⟨hDequeue, hOpen, hImport, hMemory⟩ := hGranted
  obtain ⟨h, hDequeue⟩ := Option.isSome_iff_exists.mp hDequeue
  obtain ⟨fd, hOpen⟩ := Option.isSome_iff_exists.mp hOpen
  obtain ⟨x, hImport⟩ := Option.isSome_iff_exists.mp hImport
  obtain ⟨m, hMemory⟩ := Option.isSome_iff_exists.mp hMemory
  refine ⟨h, fd, x, m, hMemory, ?_⟩
  rw [allocLoop, if_neg (Nat.not_le_of_lt hRoom), hDequeue, hOpen, hImport, hMemory]
  rfl

theorem allocLoop_returns (a : GrallocAnswers) (k n : Nat) (s : GrallocMemory)
    (hRoom : n + k ≤ maxNumFrames) (hGranted : ∀ i, n ≤ i → i < n + k → Granted a i) :
    ∃ s' o, allocLoop a k n s = some (s', o, true) ∧ s'.hasWindow = s.hasWindow := by
  induction k generalizing n s with
  | zero => exact ⟨s, [], rfl, rfl⟩
  | succ k ih =>
    obtain ⟨h, fd, x, m, -, hLoop⟩ :=
      allocLoop_succ (by omega) (hGranted n (Nat.le_refl _) (by omega)) k s
    obtain ⟨s', o, hRest, hSame⟩ := ih (n + 1) (s.fill a n h fd x) (by omega)
      fun i hLo hHi => hGranted i (by omega) (by omega)
    exact ⟨s', _, by rw [hLoop, hRest]; rfl, hSame⟩

theorem WindowOk.tail (h : WindowOk events (o ++ o')) : WindowOk (events ++ o) o' := by
  rintro earlier b later rfl
  have hTail := h (o ++ earlier) b later (List.append_assoc ..).symm
  rwa [← List.append_assoc] at hTail

theorem WindowOk.start (h : WindowOk events (o ++ o')) : WindowOk events o := by
  rintro earlier b later rfl
  exact h earlier b (later ++ o') (by rw [List.append_assoc, List.cons_append])

theorem WindowOk.head {b : Nat} (h : WindowOk events (.dequeued b :: o)) : ¬ Held b events := by
  have hHead := h [] b o rfl
  rwa [List.append_nil] at hHead

/-- The loop of `allocate`, when nothing is refused. -/
theorem Kept.allocLoop (hKept : Kept 0 n s events) (hAll : ∀ i < n, s.localFlag i = true)
    (hRoom : n + k ≤ maxNumFrames) (hGranted : ∀ i, n ≤ i → i < n + k → Granted a i)
    (hLoop : allocLoop a k n s = some (s', o, true)) (hWindow : WindowOk events o) :
    Kept 0 (n + k) s' (events ++ o) ∧ ∀ i < n + k, s'.localFlag i = true := by
  induction k generalizing n s events o with
  | zero =>
    cases hLoop
    rw [List.append_nil]
    exact ⟨hKept, hAll⟩
  | succ k ih =>
    obtain ⟨h, fd, x, m, hMemory, hTurn⟩ :=
      allocLoop_succ (by omega) (hGranted n (Nat.le_refl _) (by omega)) k s
    obtain ⟨rest, hRest, hEnd⟩ := Option.map_eq_some_iff.mp (hTurn.symm.trans hLoop)
    obtain ⟨s₁, o₁, ok⟩ := rest
    cases hEnd
    have hNext : Kept 0 (n + 1) (s.fill a n h fd x)
        (events ++ [.dequeued h, .opened fd, .imported ⟨fd, x⟩, .obtained m]) :=
      hKept.fill hAll hWindow.head hMemory
    have hFilled : ∀ i < n + 1, (s.fill a n h fd x).localFlag i = true := by
      intro i hi
      rcases eq_or_ne i n with rfl | hNe
      · exact s.flag_self i true
      · exact (flag_ne hNe).trans (hAll i (by omega))
    have hIh := ih hNext hFilled (by omega) (fun i hLo hHi => hGranted i (by omega) (by omega))
      hRest hWindow.tail
    rwa [List.append_assoc, Nat.add_assoc, Nat.add_comm 1] at hIh

theorem giveBack_eq {event : Nat → GrallocEvent} (hHandle : s.bufferHandle i = some h) :
    s.giveBack event true i = [event h] := by
  rw [giveBack, hHandle]
  rfl

theorem Kept.cancelLoop {cancel : Nat → Bool} (hKept : Kept 0 k s events)
    (hRoom : i + n ≤ k) (hFrames : k ≤ maxNumFrames)
    (hFlags : ∀ j, i ≤ j → j < i + n → s.localFlag j = true)
    (hCancel : ∀ j, i ≤ j → j < i + n → cancel j = true) :
    ∃ s' o, cancelLoop cancel n i s = some (s', o) ∧ s'.hasWindow = s.hasWindow ∧
      s'.bufferCount = s.bufferCount ∧ Kept 0 k s' (events ++ o) := by
  induction n generalizing i s events with
  | zero => exact ⟨s, [], rfl, rfl, rfl, by rwa [List.append_nil]⟩
  | succ n ih =>
    obtain ⟨h, m, hHandle, -⟩ := hKept.full i (Nat.zero_le _) (by omega)
    have hNext := hKept.gave (e := .cancelled h) (hFlags i (Nat.le_refl _) (by omega)) hHandle rfl
    obtain ⟨s', o, hLoop, hSame, hCount, hEnd⟩ := ih hNext (by omega)
      (fun j hLo hHi => (flag_ne (Nat.ne_of_gt hLo)).trans (hFlags j (by omega) (by omega)))
      (fun j hLo hHi => hCancel j (by omega) (by omega))
    refine ⟨s', [.cancelled h] ++ o, ?_, hSame, hCount, ?_⟩
    · rw [GrallocMemory.cancelLoop, if_neg (by omega), hLoop,
        hCancel i (Nat.le_refl _) (by omega), giveBack_eq hHandle]
      rfl
    · rwa [List.append_assoc] at hEnd

/-- A turn of the loop of `deallocate`. -/
theorem Kept.release (hKept : Kept lo (k + 1) s events) (hHandle : s.bufferHandle lo = some h)
    (hMemory : s.cameraMemory lo = some m) :
    Kept (lo + 1) k (s.setFlag lo false)
      (events ++ ([.released m, .freed (s.memInfo lo), .closed (s.memInfo lo).mainIonFd] ++
        if s.localFlag lo then [.cancelled h] else [])) := by
  have hHi : lo < lo + (k + 1) := by omega
  have hRest : s.heldBy (lo + 1) k = (s.setFlag lo false).heldBy (lo + 1) k :=
    heldBy_congr fun i hi _ => (setFlag_slot_ne (by omega)).symm
  have hSlots : s.heldBy lo (k + 1) =
      .memory m ::ₘ .ionHandle (s.memInfo lo) ::ₘ .ionFd (s.memInfo lo).mainIonFd ::ₘ
        (s.slotBuffer lo + (s.setFlag lo false).heldBy (lo + 1) k) := by
    rw [heldBy_succ, slot, slotMapping, hMemory, hRest]
    simp only [Option.toList_some, List.map_cons, List.map_nil, ← Multiset.singleton_add,
      Multiset.coe_singleton, Multiset.insert_eq_cons]
    abel
  have hMapping : Account GrallocEvent.effect
      (events ++ [.released m] ++ [.freed (s.memInfo lo)] ++ [.closed (s.memInfo lo).mainIonFd])
      (s.slotBuffer lo + (s.setFlag lo false).heldBy (lo + 1) k) :=
    .give (.give (.give (hSlots ▸ hKept.account) rfl) rfl) rfl
  have hOwned : ∀ h', Held h' (events ++ [.released m] ++ [.freed (s.memInfo lo)] ++
      [.closed (s.memInfo lo).mainIonFd]) ↔
        ∃ i, s.localFlag i = true ∧ s.bufferHandle i = some h' := by
    intro h'
    rw [held_snoc, held_snoc, held_snoc, hKept.owned]
    simp [GrallocEvent.effect]
  have hInside : ∀ j, (s.setFlag lo false).localFlag j = true → lo + 1 ≤ j ∧ j < lo + 1 + k := by
    intro j hj
    rcases eq_or_ne j lo with rfl | hNe
    · rw [flag_self] at hj
      cases hj
    · rw [flag_ne hNe] at hj
      have hOld := hKept.inside j hj
      omega
  have hFull : ∀ i, lo + 1 ≤ i → i < lo + 1 + k →
      ∃ h m, s.bufferHandle i = some h ∧ s.cameraMemory i = some m :=
    fun i hLo hHi => hKept.full i (by omega) (by omega)
  have hDistinct : ∀ i j, lo + 1 ≤ i → i < lo + 1 + k → lo + 1 ≤ j → j < lo + 1 + k →
      s.bufferHandle i = s.bufferHandle j → i = j :=
    fun i j hi hi' hj hj' => hKept.distinct i j (by omega) (by omega) (by omega) (by omega)
  have hThree : [GrallocEvent.released m, .freed (s.memInfo lo), .closed (s.memInfo lo).mainIonFd] =
      [.released m] ++ [.freed (s.memInfo lo)] ++ [.closed (s.memInfo lo).mainIonFd] := rfl
  rw [hThree, ← List.append_assoc, ← List.append_assoc, ← List.append_assoc]
  cases hFlag : s.localFlag lo with
  | false =>
    rw [slotBuffer_free hFlag, zero_add] at hMapping
    rw [if_neg Bool.false_ne_true, List.append_nil]
    refine ⟨hMapping, ?_, hInside, hFull, hDistinct⟩
    rwa [setFlag_self hFlag]
  | true =>
    rw [slotBuffer_owned hFlag hHandle, Multiset.singleton_add] at hMapping
    rw [if_pos rfl]
    exact ⟨.give hMapping rfl,
      owned_gave hOwned (hKept.unique (Nat.le_refl _) hHi hHandle) hHandle rfl, hInside, hFull,
      hDistinct⟩

/-- The loop of `deallocate`, when no buffer is refused. -/
theorem Kept.releaseLoop {cancel : Nat → Bool} (hKept : Kept i n s events)
    (hWindow : s.hasWindow = true)
    (hCancel : ∀ j, i ≤ j → j < i + n → s.localFlag j = true → cancel j = true) :
    ∃ s' o, releaseLoop cancel n i s = some (s', o) ∧ s'.hasWindow = true ∧
      Kept (i + n) 0 s' (events ++ o) := by
  induction n generalizing i s events with
  | zero => exact ⟨s, [], rfl, hWindow, by rwa [List.append_nil]⟩
  | succ n ih =>
    obtain ⟨h, m, hHandle, hMemory⟩ := hKept.full i (Nat.le_refl _) (by omega)
    have hNext : ∀ j, i + 1 ≤ j → j < i + 1 + n → (s.setFlag i false).localFlag j = true →
        cancel j = true := by
      intro j hLo hHi hFlag
      rw [flag_ne (Nat.ne_of_gt hLo)] at hFlag
      exact hCancel j (by omega) (by omega) hFlag
    have hGiven : (if s.localFlag i ∧ s.hasWindow then s.giveBack .cancelled (cancel i) i else []) =
        if s.localFlag i then [.cancelled h] else [] := by
      cases hFlag : s.localFlag i with
      | false => rfl
      | true =>
        rw [hWindow, hCancel i (Nat.le_refl _) (by omega) hFlag, giveBack_eq hHandle]
        rfl
    obtain ⟨s', o, hLoop, hSame, hEnd⟩ := ih (hKept.release hHandle hMemory) hWindow hNext
    refine ⟨s', [.released m, .freed (s.memInfo i), .closed (s.memInfo i).mainIonFd] ++
      ((if s.localFlag i then [.cancelled h] else []) ++ o), ?_, hSame, ?_⟩
    · rw [GrallocMemory.releaseLoop, hMemory, hLoop, hGiven]
      rfl
    · rw [List.append_assoc, List.append_assoc] at hEnd
      rwa [Nat.add_assoc, Nat.add_comm 1] at hEnd

theorem cancelLoop_returns (cancel : Nat → Bool) (n i : Nat) (s : GrallocMemory)
    (hRoom : i + n ≤ maxNumFrames) :
    ∃ s' o, GrallocMemory.cancelLoop cancel n i s = some (s', o) := by
  induction n generalizing i s with
  | zero => exact ⟨s, [], rfl⟩
  | succ n ih =>
    obtain ⟨s', o, hRest⟩ := ih (i + 1) (s.setFlag i false) (by omega)
    refine ⟨s', s.giveBack .cancelled (cancel i) i ++ o, ?_⟩
    rw [GrallocMemory.cancelLoop, if_neg (by omega), hRest]
    rfl

theorem Kept.pass (hKept : Kept lo k s events) (hEvent : e.effect = .pass) :
    Kept lo k s (events ++ [e]) := by
  refine ⟨.pass hKept.account hEvent, ?_, hKept.inside, hKept.full, hKept.distinct⟩
  intro h
  rw [held_snoc, hEvent, hKept.owned]
  simp

/-- The invariant of a run. -/
structure Sound (events : List GrallocEvent) (s : GrallocMemory) : Prop where
  kept : Kept 0 s.bufferCount s events
  room : s.bufferCount ≤ maxNumFrames
  window : 0 < s.bufferCount → s.hasWindow = true

theorem Kept.empty (hKept : Kept lo 0 s events) (hFlags : s'.localFlag = s.localFlag) :
    Kept 0 0 s' events := by
  have hNone : ∀ i, s.localFlag i ≠ true := fun i hi => by
    have hInside := hKept.inside i hi
    omega
  refine ⟨hKept.account, ?_, ?_, by omega, by omega⟩
  · intro h
    rw [hKept.owned, hFlags]
    constructor
    · rintro ⟨i, hi, -⟩
      exact absurd hi (hNone i)
    · rintro ⟨i, hi, -⟩
      exact absurd hi (hNone i)
  · intro i hi
    rw [hFlags] at hi
    exact absurd hi (hNone i)

theorem Sound.empty (hSound : Sound events s) (hCount : s.bufferCount = 0)
    (hFlags : s'.localFlag = s.localFlag) (hSame : s'.bufferCount = 0) : Sound events s' := by
  have hKept := hSound.kept
  rw [hCount] at hKept
  refine ⟨?_, ?_, ?_⟩
  · rw [hSame]
    exact hKept.empty hFlags
  · omega
  · omega

theorem Sound.accounted (hSound : Sound events s) : Accounted events s := by
  have hKept := hSound.kept
  refine ⟨?_, ?_, ?_⟩
  · intro i hi
    constructor
    · intro hFlag
      obtain ⟨h, m, hHandle, -⟩ := hKept.full i (Nat.zero_le _) (by omega)
      exact ⟨h, hHandle, (hKept.owned h).mpr ⟨i, hFlag, hHandle⟩⟩
    · rintro ⟨h, hHandle, hHeld⟩
      obtain ⟨j, hj, hjHandle⟩ := (hKept.owned h).mp hHeld
      rwa [← hKept.unique (Nat.zero_le _) (by omega) hHandle j hj hjHandle]
  · intro i hi
    refine Bool.eq_false_iff.mpr fun hFlag => ?_
    have hInside := hKept.inside i hFlag
    omega
  · intro hCount
    rw [hCount] at hKept
    exact hKept.account

theorem Sound.fillAll {count minimum : Nat} (hSound : Sound events s) (hCount : s.bufferCount = 0)
    (hWindow : s.hasWindow = true) (hRoom : count ≤ maxNumFrames)
    (hGranted : ∀ i < count, Granted a i) (hMinimum : minimum ≤ count)
    (hCancel : ∀ i < minimum, a.cancel i = true) :
    ∃ s₁ o₁ s₂ o₂, allocLoop a count 0 s = some (s₁, o₁, true) ∧
      GrallocMemory.cancelLoop a.cancel minimum 0 { s₁ with bufferCount := count } =
        some (s₂, o₂) ∧
      (WindowOk events (o₁ ++ o₂) → Sound (events ++ (o₁ ++ o₂)) s₂) := by
  obtain ⟨s₁, o₁, hLoop, hSame⟩ := allocLoop_returns a count 0 s (by omega)
    fun i _ hi => hGranted i (by omega)
  obtain ⟨s₂, o₂, hCancelled⟩ := cancelLoop_returns a.cancel minimum 0
    { s₁ with bufferCount := count } (by omega)
  refine ⟨s₁, o₁, s₂, o₂, hLoop, hCancelled, fun hOk => ?_⟩
  have hKept := hSound.kept
  rw [hCount] at hKept
  obtain ⟨hFilled, hFlags⟩ := hKept.allocLoop (by omega) (by omega)
    (fun i _ hi => hGranted i (by omega)) hLoop hOk.start
  rw [Nat.zero_add] at hFilled hFlags
  have hCounted : Kept 0 count { s₁ with bufferCount := count } (events ++ o₁) :=
    ⟨hFilled.account, hFilled.owned, hFilled.inside, hFilled.full, hFilled.distinct⟩
  obtain ⟨s₃, o₃, hAgain, hWindow₃, hCount₃, hEnd⟩ := hCounted.cancelLoop (i := 0) (n := minimum)
    (by omega) hRoom (fun j _ hj => hFlags j (by omega))
    (fun j _ hj => hCancel j (by omega))
  obtain ⟨rfl, rfl⟩ := Prod.mk.inj (Option.some.inj (hAgain.symm.trans hCancelled))
  rw [← List.append_assoc]
  refine ⟨?_, ?_, fun _ => hWindow₃.trans (hSame.trans hWindow)⟩
  · rw [hCount₃]
    exact hEnd
  · rw [hCount₃]
    exact hRoom

theorem Sound.allocate_step {count : Nat} (hSound : Sound events s)
    (hOrdered : Ordered s (.allocate count a)) (hSpared : Spared s (.allocate count a)) :
    ∃ s' o rc, s.allocate count a = some (s', o, rc) ∧
      (WindowOk events o → Sound (events ++ o) s') := by
  obtain ⟨hCount, hMinimum⟩ := hOrdered
  rw [allocate]
  split
  · rename_i hWindow
    cases hMin : a.minUndequeued with
    | none => exact ⟨s, [], unknownError, rfl, fun _ => by rwa [List.append_nil]⟩
    | some minimum =>
      have hStart : Sound events { s with minUndequeued := minimum } :=
        hSound.empty hCount rfl hCount
      dsimp only
      split
      · rename_i hSetup
        rcases hSpared hWindow (by rw [hMin]; rfl) hSetup with
          ⟨hPos, hNone⟩ | ⟨hRoom, hGranted, hCancel⟩
        · obtain ⟨k, rfl⟩ := Nat.exists_eq_add_of_lt hPos
          have hFlag : s.localFlag 0 = false := by
            refine Bool.eq_false_iff.mpr fun hOn => ?_
            have hInside := hSound.kept.inside 0 hOn
            omega
          refine ⟨({ s with minUndequeued := minimum }.setFlag 0 false).clearInfo, [], unknownError,
            ?_, fun _ => ?_⟩
          · rw [Nat.zero_add, GrallocMemory.allocLoop, if_neg (by decide), hNone]
            rfl
          · rw [List.append_nil]
            have hSame : (s.setFlag 0 false).localFlag = s.localFlag :=
              congrArg localFlag (setFlag_self hFlag)
            exact hStart.empty hCount hSame hCount
        · obtain ⟨s₁, o₁, s₂, o₂, hLoop, hCancelled, hEnd⟩ := hStart.fillAll hCount hWindow hRoom
            hGranted (hMinimum minimum (by rw [hMin]; rfl)) (hCancel minimum (by rw [hMin]; rfl))
          refine ⟨s₂, o₁ ++ o₂, 0, ?_, hEnd⟩
          rw [hLoop, Option.bind_eq_bind, Option.bind_some, if_pos rfl, hCancelled]
          rfl
      · exact ⟨_, [], unknownError, rfl, fun _ => by rwa [List.append_nil]⟩
  · exact ⟨s, [], invalidOperation, rfl, fun _ => by rwa [List.append_nil]⟩

theorem bufferIndex_of_mem (hi : i < s.bufferCount) (hHandle : s.bufferHandle i = some h) :
    ∃ j, s.bufferIndex h = some j ∧ j < s.bufferCount ∧ s.bufferHandle j = some h := by
  cases hFind : s.bufferIndex h with
  | none =>
    have hOther := List.find?_eq_none.mp hFind i (List.mem_range.mpr hi)
    exact absurd (decide_eq_true hHandle) hOther
  | some j =>
    rw [bufferIndex] at hFind
    have hMem := List.mem_range.mp (List.mem_of_find?_eq_some hFind)
    have hFound := List.find?_some hFind
    exact ⟨j, rfl, hMem, of_decide_eq_true hFound⟩

theorem Sound.display_step {enqueue : Bool} {dequeue : Option Nat} (hSound : Sound events s)
    (hOrdered : Ordered s (.displayBuffer i enqueue dequeue))
    (hSpared : Spared s (.displayBuffer i enqueue dequeue)) :
    ∃ s' o rc, s.displayBuffer i enqueue dequeue = some (s', o, rc) ∧
      (WindowOk events o → Sound (events ++ o) s') := by
  have hKept := hSound.kept
  have hFlag : s.localFlag i = true := hOrdered
  have hInside := (hKept.inside i hFlag).2
  have hRoom := hSound.room
  obtain ⟨h, m, hHandle, -⟩ := hKept.full i (Nat.zero_le _) hInside
  -- the state and the events after the buffer was enqueued
  obtain ⟨s₁, o₁, hState, hGiven, hCount, hHandles, hWindow, hNext⟩ :
      ∃ s₁ o₁, (if enqueue then s.setFlag i false else s) = s₁ ∧
        s.giveBack .enqueued enqueue i = o₁ ∧ s₁.bufferCount = s.bufferCount ∧
        s₁.bufferHandle = s.bufferHandle ∧ s₁.hasWindow = s.hasWindow ∧
        Kept 0 s.bufferCount s₁ (events ++ o₁) := by
    cases enqueue with
    | false =>
      refine ⟨s, [.refused h], rfl, ?_, rfl, rfl, rfl, hKept.pass rfl⟩
      rw [giveBack, hHandle]
      rfl
    | true =>
      exact ⟨s.setFlag i false, [.enqueued h], rfl, giveBack_eq hHandle, rfl, rfl, rfl,
        hKept.gave hFlag hHandle rfl⟩
  rw [displayBuffer, if_neg (by omega), if_pos hFlag, hState, hGiven]
  cases dequeue with
  | none =>
    refine ⟨s₁, o₁, badIndex, rfl, fun _ => ⟨?_, ?_, ?_⟩⟩
    · rwa [hCount]
    · rwa [hCount]
    · rw [hCount, hWindow]
      exact hSound.window
  | some h' =>
    obtain ⟨j, hj, hjHandle⟩ := hSpared h' rfl
    obtain ⟨j', hIndex, hj', hjHandle'⟩ := bufferIndex_of_mem (s := s₁) (h := h') (i := j)
      (by rwa [hCount]) (by rwa [hHandles])
    rw [hCount] at hj'
    dsimp only
    rw [hIndex]
    refine ⟨s₁.setFlag j' true, o₁ ++ [.dequeued h'], j', rfl, fun hOk => ?_⟩
    have hFree := hOk.tail.head
    rw [← List.append_assoc]
    have hTook := hNext.took hFree hjHandle' (Nat.zero_le _) (by omega)
    refine ⟨?_, ?_, ?_⟩
    · rwa [← hCount] at hTook
    · exact hCount.le.trans hRoom
    · intro hPos
      exact hWindow.trans (hSound.window (hCount ▸ hPos))

theorem Sound.deallocate_step {cancel : Nat → Bool} (hSound : Sound events s)
    (hSpared : Spared s (.deallocate cancel)) :
    ∃ s' o rc, s.deallocate cancel = some (s', o, rc) ∧ Sound (events ++ o) s' := by
  have hKept := hSound.kept
  rw [deallocate]
  rcases Nat.eq_zero_or_pos s.bufferCount with hNone | hPos
  · rw [hNone]
    refine ⟨_, [], 0, rfl, ?_⟩
    rw [List.append_nil]
    exact hSound.empty hNone rfl rfl
  · obtain ⟨s', o, hLoop, -, hEnd⟩ := hKept.releaseLoop (hSound.window hPos)
      fun j _ hj hFlag => hSpared j (by omega) hFlag
    rw [hLoop]
    refine ⟨_, o, 0, rfl, hEnd.empty rfl, Nat.zero_le _, fun h => absurd h (Nat.lt_irrefl 0)⟩

theorem Sound.step {c : GrallocCall} (hSound : Sound events s) (hOrdered : Ordered s c)
    (hSpared : Spared s c) :
    ∃ s' o rc, s.call c = some (s', o, rc) ∧ (WindowOk events o → Sound (events ++ o) s') := by
  cases c with
  | allocate count a => exact hSound.allocate_step hOrdered hSpared
  | displayBuffer i enqueue dequeue => exact hSound.display_step hOrdered hSpared
  | deallocate cancel =>
    obtain ⟨s', o, rc, hCall, hNext⟩ := hSound.deallocate_step hSpared
    exact ⟨s', o, rc, hCall, fun _ => hNext⟩

/-- The calls of a run in which nothing is lost, for a window that keeps its promise. -/
def sparedCall (_ : List GrallocCall) (events : List GrallocEvent) (s : GrallocMemory)
    (c : GrallocCall) (o : List GrallocEvent) : Prop :=
  (Ordered s c ∧ Spared s c) ∧ WindowOk events o

theorem Sound.of_run {calls : List GrallocCall} {hasWindow : Bool}
    (run : Lib.Steps Next sparedCall { hasWindow } calls events s) : Sound events s := by
  refine run.history (I := fun _ events s => Sound events s) ?_ ?_
  · refine ⟨⟨.start, ?_, nofun, fun i _ hi => absurd hi (Nat.not_lt_zero i),
      fun i _ _ hi => absurd hi (Nat.not_lt_zero i)⟩, Nat.zero_le _,
      fun h => absurd h (Nat.lt_irrefl 0)⟩
    intro h
    constructor
    · exact fun hHeld => absurd hHeld Lib.not_since_nil
    · rintro ⟨i, hi, -⟩
      cases hi
  · rintro calls events s c o s' ⟨⟨hOrdered, hSpared⟩, hOk⟩ hSound ⟨rc, hNext⟩
    obtain ⟨s'', o', rc', hCall, hStep⟩ := hSound.step hOrdered hSpared
    cases hCall.symm.trans hNext
    exact hStep hOk

/-- In a run in which nothing is lost all is accounted for, and the next such call returns. -/
theorem gralloc_accounts_for_buffers {calls : List GrallocCall} {hasWindow : Bool}
    (run : Lib.Steps Next sparedCall { hasWindow } calls events s) :
    Accounted events s ∧
      ∀ c, Ordered s c → Spared s c → ∃ o s', Next s c o s' := by
  have hSound := Sound.of_run run
  refine ⟨hSound.accounted, fun c hOrdered hSpared => ?_⟩
  obtain ⟨s', o, rc, hCall, -⟩ := hSound.step hOrdered hSpared
  exact ⟨o, s', rc, hCall⟩

theorem windowOk_of_nodup (h : (events ++ o).Nodup) : WindowOk events o := by
  rintro earlier b later rfl ⟨before, e, since, hSplit, rfl, -⟩
  rw [← List.append_assoc, List.nodup_append] at h
  have hMem : .dequeued b ∈ events ++ earlier := by
    rw [hSplit]
    exact List.mem_append_right _ List.mem_cons_self
  exact h.2.2 _ hMem _ List.mem_cons_self rfl

/-- Two buffers, of which the window keeps one. -/
def twoBuffers : GrallocAnswers where
  minUndequeued := some 1
  setBufferCount := true
  setGeometry := true
  setCrop := true
  setUsage := true
  dequeue := fun i => some (10 + i)
  openIon := fun i => some (20 + i)
  importIon := fun i => some (30 + i)
  getMemory := fun i => some (40 + i)
  cancel := fun _ => true

instance (s : GrallocMemory) : DecidablePred s.Ordered
  | .allocate count a =>
    inferInstanceAs (Decidable (s.bufferCount = 0 ∧ ∀ minimum ∈ a.minUndequeued, minimum ≤ count))
  | .displayBuffer index _ _ => inferInstanceAs (Decidable (s.localFlag index = true))
  | .deallocate _ => inferInstanceAs (Decidable True)

instance (count : Nat) (a : GrallocAnswers) : Decidable (AllocationSpared count a) :=
  inferInstanceAs (Decidable (_ ∨ _))

instance (s : GrallocMemory) : DecidablePred s.Spared
  | .allocate count a =>
    inferInstanceAs (Decidable (s.hasWindow = true → a.minUndequeued.isSome →
      a.setBufferCount && a.setGeometry && a.setCrop && a.setUsage → AllocationSpared count a))
  | .displayBuffer _ _ dequeue =>
    inferInstanceAs (Decidable (∀ h ∈ dequeue, ∃ i < s.bufferCount, s.bufferHandle i = some h))
  | .deallocate cancel =>
    inferInstanceAs (Decidable (∀ i < s.bufferCount, s.localFlag i = true → cancel i = true))

/-- A call in order at a window that gives out no buffer twice, and one that loses nothing
if `spared`. -/
def checkedStep (spared : Bool) (_ : List GrallocCall) (before : List GrallocEvent)
    (s : GrallocMemory) (c : GrallocCall) : Option (GrallocMemory × List GrallocEvent) :=
  (s.call c).bind fun r =>
    if (Ordered s c ∧ (spared = true → Spared s c)) ∧ (before ++ r.2.1).Nodup then some (r.1, r.2.1)
    else none

theorem checkedStep_eq {spared : Bool} {calls : List GrallocCall} {c : GrallocCall}
    (h : checkedStep spared calls events s c = some (s', o)) :
    Next s c o s' ∧ (Ordered s c ∧ (spared = true → Spared s c)) ∧ WindowOk events o := by
  obtain ⟨⟨s'', o', rc⟩, hCall, hRest⟩ := Option.bind_eq_some_iff.mp h
  split at hRest
  · rename_i hOk
    cases hRest
    exact ⟨⟨rc, hCall⟩, hOk.1, windowOk_of_nodup hOk.2⟩
  · cases hRest

theorem gralloc_accounts_for_two_buffers : ∃ calls events s,
    Lib.Steps Next sparedCall { hasWindow := true } calls events s ∧
      (.enqueued 11 ∈ events ∧ .cancelled 10 ∈ events) ∧ Accounted events s := by
  have hRun : (Lib.exec (checkedStep true) [] [] { hasWindow := true }
      [.allocate 2 twoBuffers, .displayBuffer 1 true none, .deallocate fun _ => true]).map
        (fun r => decide (.enqueued 11 ∈ r.2 ∧ .cancelled 10 ∈ r.2)) = some true := by
    decide +kernel
  obtain ⟨r, hExec, hEvents⟩ := Option.map_eq_some_iff.mp hRun
  have run := Lib.Steps.of_exec Next sparedCall
    (fun _ _ _ _ _ _ _ h => ⟨(checkedStep_eq h).1, ⟨(checkedStep_eq h).2.1.1,
      (checkedStep_eq h).2.1.2 rfl⟩, (checkedStep_eq h).2.2⟩) hExec
  exact ⟨_, _, _, run, of_decide_eq_true hEvents, (gralloc_accounts_for_buffers run).1⟩

/-- The ION device cannot be opened for the only buffer. -/
theorem buffer_lost_without_ion : ¬ ∀ (calls : List GrallocCall) (hasWindow : Bool)
    (events : List GrallocEvent) (s : GrallocMemory),
    Lib.Steps Next (fun _ before s c o => Ordered s c ∧ WindowOk before o) { hasWindow } calls
      events s → Accounted events s := by
  intro hClaim
  have hRun : (Lib.exec (checkedStep false) [] [] { hasWindow := true }
      [.allocate 1 { twoBuffers with minUndequeued := some 0, openIon := fun _ => none }]).map
        (fun r => (r.1.bufferCount, r.2)) = some (0, [.dequeued 10]) := by
    decide +kernel
  obtain ⟨r, hExec, hEnd⟩ := Option.map_eq_some_iff.mp hRun
  have run := Lib.Steps.of_exec Next (fun _ before s c o => Ordered s c ∧ WindowOk before o)
    (fun _ _ _ _ _ _ _ h => ⟨(checkedStep_eq h).1, (checkedStep_eq h).2.1.1,
      (checkedStep_eq h).2.2⟩) hExec
  obtain ⟨hCount, hEvents⟩ := Prod.mk.inj hEnd
  have hSettled := (hClaim _ _ _ _ run).2.2 hCount
  rw [hEvents] at hSettled
  exact absurd (hSettled.count (.buffer 10)) (by decide)

end GrallocMemory

end KiwiDevice.Hal

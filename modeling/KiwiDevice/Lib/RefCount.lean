import Mathlib.Data.Finset.Card
import Mathlib.Data.Fintype.Basic

/-!
# Reference counts

Some parties share an object. Each drops its reference once, under a mutex, in steps of one access,
and the one that drops the last reference deletes the object after it has left the mutex.
-/

namespace KiwiDevice.Lib

universe u

/-- How far a party has come. -/
inductive RefPhase where
  | holding
  | locked
  | writing (count : Int)
  | leaving (last : Bool)
  | deleting
  | gone
  deriving DecidableEq

namespace RefPhase

def holds : RefPhase → Bool
  | holding => true
  | locked => true
  | writing _ => true
  | _ => false

def inMutex : RefPhase → Bool
  | locked => true
  | writing _ => true
  | leaving _ => true
  | _ => false

def deletes : RefPhase → Bool
  | leaving last => last
  | deleting => true
  | _ => false

end RefPhase

structure RefCount (ι : Type u) where
  count : Int
  mutex : Option ι
  live : Bool
  phase : ι → RefPhase

namespace RefCount

variable {ι : Type u}

def holders [Fintype ι] (r : RefCount ι) : Finset ι :=
  Finset.univ.filter fun i => (r.phase i).holds = true

structure Sound [Fintype ι] (r : RefCount ι) : Prop where
  count : r.count = r.holders.card
  mutex : ∀ i, r.mutex = some i ↔ (r.phase i).inMutex = true
  writing : ∀ i v, r.phase i = .writing v → v = r.count
  live : r.live = true ↔ 0 < r.count ∨ ∃ i, (r.phase i).deletes = true
  deletes : ∀ i, (r.phase i).deletes = true → r.count = 0
  single : ∀ i j, (r.phase i).deletes = true → (r.phase j).deletes = true → i = j
  shared : ∀ i, r.phase i = .leaving false → 0 < r.count

section

variable [Fintype ι] {r r' : RefCount ι} {i j : ι}

theorem mem_holders : i ∈ r.holders ↔ (r.phase i).holds = true := by
  simp [holders]

theorem Sound.count_pos (h : r.Sound) (hi : (r.phase i).holds = true) : 0 < r.count := by
  have hCard := Finset.card_pos.mpr ⟨i, mem_holders.mpr hi⟩
  have hCount := h.count
  omega

theorem holders_congr (h : ∀ j, (r'.phase j).holds = (r.phase j).holds) :
    r'.holders = r.holders := by
  ext j
  rw [mem_holders, mem_holders, h]

/-- Whoever is in the mutex is alone there. -/
theorem Sound.alone (h : r.Sound) (hi : (r.phase i).inMutex = true)
    (hj : (r.phase j).inMutex = true) :
    i = j :=
  Option.some.inj (((h.mutex i).mpr hi).symm.trans ((h.mutex j).mpr hj))

/-- A step that drops no reference and deletes nothing. -/
theorem Sound.keep (h : r.Sound) (hCount : r'.count = r.count) (hLive : r'.live = r.live)
    (hHolds : ∀ j, (r'.phase j).holds = (r.phase j).holds)
    (hDeletes : ∀ j, (r'.phase j).deletes = (r.phase j).deletes)
    (hMutex : ∀ j, r'.mutex = some j ↔ (r'.phase j).inMutex = true)
    (hWriting : ∀ j v, r'.phase j = .writing v → v = r.count)
    (hShared : ∀ j, r'.phase j = .leaving false → r.phase j = .leaving false) : r'.Sound := by
  constructor
  · rw [hCount, holders_congr hHolds]
    exact h.count
  · exact hMutex
  · rw [hCount]
    exact hWriting
  · simp only [hLive, hCount, hDeletes]
    exact h.live
  · simp only [hDeletes, hCount]
    exact h.deletes
  · simp only [hDeletes]
    exact h.single
  · rw [hCount]
    exact fun j hj => h.shared j (hShared j hj)

/-- The object is there for everyone who is not done with it. -/
theorem Sound.live_of (h : r.Sound) (hi : r.phase i ≠ .gone) : r.live = true := by
  rw [h.live]
  cases hPhase : r.phase i with
  | holding => exact Or.inl (h.count_pos (by rw [hPhase]; rfl))
  | locked => exact Or.inl (h.count_pos (by rw [hPhase]; rfl))
  | writing v => exact Or.inl (h.count_pos (by rw [hPhase]; rfl))
  | leaving last =>
    cases last with
    | false => exact Or.inl (h.shared i hPhase)
    | true => exact Or.inr ⟨i, by rw [hPhase]; rfl⟩
  | deleting => exact Or.inr ⟨i, by rw [hPhase]; rfl⟩
  | gone => exact absurd hPhase hi

theorem Sound.deleted (h : r.Sound) (hGone : ∀ i, r.phase i = .gone) : r.live = false := by
  have hNone : r.holders = ∅ := by
    simp [holders, hGone, RefPhase.holds]
  have hCount := h.count
  rw [hNone, Finset.card_empty] at hCount
  rw [← Bool.not_eq_true, h.live]
  simp [hGone, RefPhase.deletes, hCount]

end

variable [DecidableEq ι]

def setPhase (r : RefCount ι) (i : ι) (p : RefPhase) : RefCount ι :=
  { r with phase := Function.update r.phase i p }

inductive Step (i : ι) (r : RefCount ι) : RefCount ι → Prop where
  | lock (h : r.phase i = .holding) (free : r.mutex = none) :
      Step i r { r.setPhase i .locked with mutex := some i }
  | read (h : r.phase i = .locked) : Step i r (r.setPhase i (.writing r.count))
  | write {v : Int} (h : r.phase i = .writing v) :
      Step i r { r.setPhase i (.leaving (v = 1)) with count := v - 1 }
  | unlock {last : Bool} (h : r.phase i = .leaving last) :
      Step i r { r.setPhase i (if last then .deleting else .gone) with mutex := none }
  | delete (h : r.phase i = .deleting) : Step i r { r.setPhase i .gone with live := false }

section

variable {r : RefCount ι} {i j : ι} {p : RefPhase}

theorem setPhase_self (r : RefCount ι) (i : ι) (p : RefPhase) : (r.setPhase i p).phase i = p := by
  rw [setPhase]
  exact Function.update_self ..

theorem setPhase_ne (h : j ≠ i) (p : RefPhase) : (r.setPhase i p).phase j = r.phase j := by
  rw [setPhase]
  exact Function.update_of_ne h ..

/-- A statement about all phases, after one of them has changed. -/
theorem forall_setPhase {P : ι → RefPhase → Prop} (hSelf : P i p)
    (h : ∀ j, j ≠ i → P j (r.phase j)) : ∀ j, P j ((r.setPhase i p).phase j) := by
  intro j
  obtain rfl | hj := eq_or_ne j i
  · rwa [setPhase_self]
  · rw [setPhase_ne hj]
    exact h j hj

/-- What the new phase has in common with the old one does not change for anyone. -/
theorem map_setPhase {f : RefPhase → Bool} (h : f p = f (r.phase i)) :
    ∀ j, f ((r.setPhase i p).phase j) = f (r.phase j) :=
  forall_setPhase (P := fun j q => f q = f (r.phase j)) h fun _ _ => rfl

end

variable [Fintype ι] {r r' : RefCount ι} {i j : ι} {p : RefPhase} {last : Bool} {v : Int}

theorem holders_drop (h : p.holds = false) : (r.setPhase i p).holders = r.holders.erase i := by
  ext j
  rw [Finset.mem_erase, mem_holders, mem_holders]
  obtain rfl | hj := eq_or_ne j i
  · simp [setPhase_self, h]
  · simp [setPhase_ne hj, hj]

theorem Sound.lock (h : r.Sound) (hi : r.phase i = .holding) (hFree : r.mutex = none) :
    Sound { r.setPhase i .locked with mutex := some i } := by
  have hOut : ∀ j, (r.phase j).inMutex = false := by
    intro j
    rw [← Bool.not_eq_true, ← h.mutex, hFree]
    exact Option.some_ne_none j |>.symm
  apply h.keep
  · rfl
  · rfl
  · exact map_setPhase (by rw [hi]; rfl)
  · exact map_setPhase (by rw [hi]; rfl)
  · apply forall_setPhase (P := fun j q => some i = some j ↔ q.inMutex = true)
    · exact ⟨fun _ => rfl, fun _ => rfl⟩
    · intro j hj
      simp [hOut, Ne.symm hj]
  · apply forall_setPhase (P := fun _ q => ∀ v, q = .writing v → v = r.count)
    · exact fun _ hEq => by cases hEq
    · exact fun j _ => h.writing j
  · apply forall_setPhase (P := fun j q => q = .leaving false → r.phase j = .leaving false)
    · exact fun hEq => by cases hEq
    · exact fun _ _ hEq => hEq

theorem Sound.read (h : r.Sound) (hi : r.phase i = .locked) :
    Sound (r.setPhase i (.writing r.count)) := by
  apply h.keep
  · rfl
  · rfl
  · exact map_setPhase (by rw [hi]; rfl)
  · exact map_setPhase (by rw [hi]; rfl)
  · apply forall_setPhase (P := fun j q => r.mutex = some j ↔ q.inMutex = true)
    · rw [h.mutex, hi]
      rfl
    · exact fun j _ => h.mutex j
  · apply forall_setPhase (P := fun _ q => ∀ v, q = .writing v → v = r.count)
    · exact fun v hEq => by cases hEq; rfl
    · exact fun j _ => h.writing j
  · apply forall_setPhase (P := fun j q => q = .leaving false → r.phase j = .leaving false)
    · exact fun hEq => by cases hEq
    · exact fun _ _ hEq => hEq

theorem Sound.unlock (h : r.Sound) (hi : r.phase i = .leaving last) :
    Sound { r.setPhase i (if last then .deleting else .gone) with mutex := none } := by
  have hIn : (r.phase i).inMutex = true := by
    rw [hi]
    rfl
  apply h.keep
  · rfl
  · rfl
  · exact map_setPhase (by rw [hi]; cases last <;> rfl)
  · exact map_setPhase (by rw [hi]; cases last <;> rfl)
  · apply forall_setPhase (P := fun j q => none = some j ↔ q.inMutex = true)
    · cases last <;> simp [RefPhase.inMutex]
    · intro j hj
      have hOut : (r.phase j).inMutex ≠ true := fun hMem => hj (h.alone hMem hIn)
      simp [hOut]
  · apply forall_setPhase (P := fun _ q => ∀ v, q = .writing v → v = r.count)
    · cases last <;> exact fun _ hEq => by cases hEq
    · exact fun j _ => h.writing j
  · apply forall_setPhase (P := fun j q => q = .leaving false → r.phase j = .leaving false)
    · cases last <;> exact fun hEq => by cases hEq
    · exact fun _ _ hEq => hEq

/-- The reference is dropped. -/
theorem Sound.write (h : r.Sound) (hi : r.phase i = .writing v) :
    Sound { r.setPhase i (.leaving (v = 1)) with count := v - 1 } := by
  have hv := h.writing i v hi
  have hIn : (r.phase i).inMutex = true := by
    rw [hi]
    rfl
  have hHolds : (r.phase i).holds = true := by
    rw [hi]
    rfl
  have hPos := h.count_pos hHolds
  have hNone : ∀ j, (r.phase j).deletes = false := by
    intro j
    rw [← Bool.not_eq_true]
    intro hDeletes
    have hZero := h.deletes j hDeletes
    omega
  have hLast : ∀ j, ((r.setPhase i (.leaving (v = 1))).phase j).deletes = true → j = i ∧ v = 1 := by
    apply forall_setPhase (P := fun j q => q.deletes = true → j = i ∧ v = 1)
    · exact fun hEq => ⟨rfl, of_decide_eq_true hEq⟩
    · intro j _ hEq
      rw [hNone] at hEq
      cases hEq
  constructor
  · show v - 1 = ((r.setPhase i (.leaving (v = 1))).holders.card : Int)
    rw [holders_drop rfl, Finset.card_erase_of_mem (mem_holders.mpr hHolds), hv, h.count]
    have hCard := Finset.card_pos.mpr ⟨i, mem_holders.mpr hHolds⟩
    omega
  · apply forall_setPhase (P := fun j q => r.mutex = some j ↔ q.inMutex = true)
    · rw [h.mutex, hi]
      rfl
    · exact fun j _ => h.mutex j
  · apply forall_setPhase (P := fun _ q => ∀ w, q = .writing w → w = v - 1)
    · exact fun _ hEq => by cases hEq
    · intro j hj w hEq
      have hMem : (r.phase j).inMutex = true := by
        rw [hEq]
        rfl
      exact absurd (h.alone hMem hIn) hj
  · have hLive : r.live = true := h.live.mpr (Or.inl hPos)
    refine ⟨fun _ => ?_, fun _ => hLive⟩
    by_cases hOne : v = 1
    · refine Or.inr ⟨i, ?_⟩
      show ((r.setPhase i (.leaving (v = 1))).phase i).deletes = true
      rw [setPhase_self]
      exact decide_eq_true hOne
    · refine Or.inl ?_
      show 0 < v - 1
      omega
  · intro j hDeletes
    have hOne := (hLast j hDeletes).2
    show v - 1 = 0
    omega
  · intro j k hj hk
    rw [(hLast j hj).1, (hLast k hk).1]
  · apply forall_setPhase (P := fun _ q => q = .leaving false → 0 < v - 1)
    · intro hEq
      have hNot : ¬ v = 1 := by simpa using hEq
      omega
    · intro j hj hEq
      have hMem : (r.phase j).inMutex = true := by
        rw [hEq]
        rfl
      exact absurd (h.alone hMem hIn) hj

theorem Sound.delete (h : r.Sound) (hi : r.phase i = .deleting) :
    Sound { r.setPhase i .gone with live := false } := by
  have hDeletes : (r.phase i).deletes = true := by
    rw [hi]
    rfl
  have hZero := h.deletes i hDeletes
  have hNone : ∀ j, ((r.setPhase i .gone).phase j).deletes = false := by
    apply forall_setPhase (P := fun _ q => q.deletes = false)
    · rfl
    · intro j hj
      rw [← Bool.not_eq_true]
      exact fun hOther => hj (h.single j i hOther hDeletes)
  constructor
  · show r.count = ((r.setPhase i .gone).holders.card : Int)
    rw [holders_congr (map_setPhase (by rw [hi]; rfl))]
    exact h.count
  · apply forall_setPhase (P := fun j q => r.mutex = some j ↔ q.inMutex = true)
    · rw [h.mutex, hi]
      rfl
    · exact fun j _ => h.mutex j
  · apply forall_setPhase (P := fun _ q => ∀ w, q = .writing w → w = r.count)
    · exact fun _ hEq => by cases hEq
    · exact fun j _ => h.writing j
  · constructor
    · exact fun hLive => by cases hLive
    · rintro (hPos | ⟨j, hj⟩)
      · have hCount : 0 < r.count := hPos
        omega
      · rw [hNone] at hj
        cases hj
  · intro j hEq
    rw [hNone] at hEq
    cases hEq
  · intro j k hEq
    rw [hNone] at hEq
    cases hEq
  · apply forall_setPhase (P := fun _ q => q = .leaving false → 0 < r.count)
    · exact fun hEq => by cases hEq
    · exact fun j _ => h.shared j

theorem Sound.step (h : r.Sound) (hStep : Step i r r') : r'.Sound := by
  cases hStep with
  | lock hi hFree => exact h.lock hi hFree
  | read hi => exact h.read hi
  | write hi => exact h.write hi
  | unlock hi => exact h.unlock hi
  | delete hi => exact h.delete hi

end RefCount

end KiwiDevice.Lib

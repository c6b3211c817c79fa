import KiwiDevice.Lib.Ring
import KiwiDevice.Lib.Steps

/-!
# The circular queue of sensor events

One writer polls events into a region of the array that it got from `getWritableRegion`, outside
the lock, and marks them as written afterwards; one reader peeks and dequeues in between. `mData` is
the memory from the array on, so that a write out of bounds is a write like any other, and the
arithmetic is that of `int` where it does not overflow.
-/

namespace KiwiDevice.Sensors

universe u

structure SensorEventQueue (α : Type u) where
  mCapacity : Int
  mStart : Int
  mSize : Int
  mData : Int → α

namespace SensorEventQueue

variable {α : Type u}

def new (capacity : Int) (memory : Int → α) : SensorEventQueue α where
  mCapacity := capacity
  mStart := 0
  mSize := 0
  mData := memory

def firstWritable (q : SensorEventQueue α) : Int := (q.mStart + q.mSize).tmod q.mCapacity

def lastWritable (q : SensorEventQueue α) (requestedLength : Int) : Int :=
  let last := q.firstWritable + requestedLength - 1
  let last := if last > q.mCapacity - 1 then q.mCapacity - 1 else last
  if q.firstWritable < q.mStart ∧ last ≥ q.mStart then q.mStart - 1 else last

/-- The index `*out` points to, and the length of the region. -/
def getWritableRegion (q : SensorEventQueue α) (requestedLength : Int) : Option Int × Int :=
  if q.mSize = q.mCapacity ∨ requestedLength ≤ 0 then (none, 0)
  else (some q.firstWritable, q.lastWritable requestedLength - q.firstWritable + 1)

def markAsWritten (q : SensorEventQueue α) (count : Int) : SensorEventQueue α :=
  { q with mSize := q.mSize + count }

def peek (q : SensorEventQueue α) : Option α :=
  if q.mSize = 0 then none else some (q.mData q.mStart)

/-- The flag says whether `mSpaceAvailableCondition` is broadcast. -/
def dequeue (q : SensorEventQueue α) : SensorEventQueue α × Bool :=
  if q.mSize = 0 then (q, false)
  else
    ({ q with mSize := q.mSize - 1, mStart := (q.mStart + 1).tmod q.mCapacity },
      decide (q.mSize = q.mCapacity))

def write (q : SensorEventQueue α) (i : Int) (e : α) : SensorEventQueue α :=
  { q with mData := fun k => if k = i then e else q.mData k }

/-- The events between `mStart` and the last one marked as written. -/
def readable (q : SensorEventQueue α) : List α :=
  Lib.Ring.window q.mCapacity q.mData q.mStart q.mSize.toNat

/-- The index is that of a readable event. -/
def Readable (q : SensorEventQueue α) (i : Int) : Prop :=
  ∃ j, 0 ≤ j ∧ j < q.mSize ∧ i = Lib.Ring.slot q.mCapacity q.mStart j

end SensorEventQueue

/-- `slots j` is what is at the `j`th place of the region as far as the writer knows. -/
inductive Writer (α : Type u) where
  | running
  | waiting
  | filling (first length : Int) (slots : Int → α)

/-- `written` are the events the writer has marked as written, in the order of its regions. -/
structure QueueWorld (α : Type u) where
  queue : SensorEventQueue α
  writer : Writer α
  written : List α

inductive QueueInput (α : Type u) where
  | waitForSpace
  | getWritableRegion (requestedLength : Int)
  | write (j : Int) (e : α)
  | markAsWritten (count : Int)
  | peek
  | dequeue

namespace QueueWorld

variable {α : Type u}

def start (capacity : Int) (memory : Int → α) : QueueWorld α where
  queue := .new capacity memory
  writer := .running
  written := []

/-- A writer that waits is back before its check of `mSize` once the condition is broadcast. -/
def woken (w : Writer α) (broadcast : Bool) : Writer α :=
  match w, broadcast with
  | .waiting, true => .running
  | w, _ => w

/-- One step of the writer or of the reader; it emits the event that is dequeued. -/
def step (s : QueueWorld α) : QueueInput α → Option (QueueWorld α × List α)
  | .waitForSpace =>
    match s.writer with
    | .running =>
      if s.queue.mSize = s.queue.mCapacity then some ({ s with writer := .waiting }, [])
      else some (s, [])
    | _ => none
  | .getWritableRegion requestedLength =>
    match s.writer, s.queue.getWritableRegion requestedLength with
    | .running, (some first, length) =>
      some ({ s with writer := .filling first length fun j => s.queue.mData (first + j) }, [])
    | .running, (none, _) => some (s, [])
    | _, _ => none
  | .write j e =>
    match s.writer with
    | .filling first length slots =>
      if 0 ≤ j ∧ j < length then
        some ({ s with
          queue := s.queue.write (first + j) e
          writer := .filling first length fun k => if k = j then e else slots k }, [])
      else none
    | _ => none
  | .markAsWritten count =>
    match s.writer with
    | .filling _ length slots =>
      if 0 ≤ count ∧ count ≤ length then
        some ({ s with
          queue := s.queue.markAsWritten count
          writer := .running
          written := s.written ++ (List.range count.toNat).map fun j : Nat => slots j }, [])
      else none
    | _ => none
  | .peek => some (s, [])
  | .dequeue =>
    some ({ s with
      queue := s.queue.dequeue.1
      writer := woken s.writer s.queue.dequeue.2 }, s.queue.peek.toList)

def Next (s : QueueWorld α) (i : QueueInput α) (o : List α) (s' : QueueWorld α) : Prop :=
  s.step i = some (s', o)

/-- The index is in the region the writer holds. -/
def InRegion (s : QueueWorld α) (i : Int) : Prop :=
  ∃ first length slots, s.writer = .filling first length slots ∧
    first ≤ i ∧ i < first + length

end QueueWorld

/-!
### No sensor event is lost, repeated or overwritten

The region of the writer starts at the slot just behind the readable window. Dequeuing moves the
start and shortens the window by the same step, so this stays true of a region handed out earlier.
-/

variable {α : Type u}

namespace SensorEventQueue

variable {q : SensorEventQueue α}

structure WellFormed (q : SensorEventQueue α) : Prop where
  capacity_pos : 0 < q.mCapacity
  start_nonneg : 0 ≤ q.mStart
  start_lt : q.mStart < q.mCapacity
  size_nonneg : 0 ≤ q.mSize
  size_le : q.mSize ≤ q.mCapacity

theorem WellFormed.firstWritable_eq (h : q.WellFormed) :
    q.firstWritable = Lib.Ring.slot q.mCapacity q.mStart q.mSize := by
  have hSum : 0 ≤ q.mStart + q.mSize := Int.add_nonneg h.start_nonneg h.size_nonneg
  rw [firstWritable, Int.tmod_eq_emod_of_nonneg hSum, Lib.Ring.slot]

/-- What a call for a region of a queue with space returns. -/
structure FreeRegion (q : SensorEventQueue α) (requestedLength first length : Int) : Prop where
  first_eq : first = Lib.Ring.slot q.mCapacity q.mStart q.mSize
  length_pos : 0 < length
  length_le : length ≤ requestedLength
  fits_space : q.mSize + length ≤ q.mCapacity
  fits_array : first + length ≤ q.mCapacity

/-- The four relative positions of the writable region: in front of or behind `mStart`, cut off
by the request or by the end of the array or of the free space. -/
theorem WellFormed.freeRegion (h : q.WellFormed) {requestedLength : Int}
    (hSpace : q.mSize ≠ q.mCapacity) (hRequest : 0 < requestedLength) :
    q.FreeRegion requestedLength q.firstWritable
      (q.lastWritable requestedLength - q.firstWritable + 1) := by
  obtain ⟨hCap, hStart, hLt, hSize, hLe⟩ := h
  have hFirst := WellFormed.firstWritable_eq ⟨hCap, hStart, hLt, hSize, hLe⟩
  have hSizeLt : q.mSize < q.mCapacity := by omega
  rcases Lib.Ring.slot_cases hStart hLt hSize hSizeLt with ⟨hBefore, hSlot⟩ | ⟨hTurn, hSlot⟩
  · rw [hSlot] at hFirst
    refine ⟨hFirst.trans hSlot.symm, ?_, ?_, ?_, ?_⟩ <;> simp only [lastWritable] <;> grind
  · rw [hSlot] at hFirst
    refine ⟨hFirst.trans hSlot.symm, ?_, ?_, ?_, ?_⟩ <;> simp only [lastWritable] <;> grind

theorem getWritableRegion_of_space {requestedLength : Int} (hSpace : q.mSize ≠ q.mCapacity)
    (hRequest : 0 < requestedLength) : q.getWritableRegion requestedLength
      = (some q.firstWritable, q.lastWritable requestedLength - q.firstWritable + 1) := by
  rw [getWritableRegion, if_neg]
  rintro (hFull | hNone)
  · exact hSpace hFull
  · omega

theorem getWritableRegion_some {requestedLength first length : Int}
    (h : q.getWritableRegion requestedLength = (some first, length)) :
    q.mSize ≠ q.mCapacity ∧ 0 < requestedLength ∧ first = q.firstWritable ∧
      length = q.lastWritable requestedLength - q.firstWritable + 1 := by
  rw [getWritableRegion] at h
  split at h
  · cases h
  · rename_i hSpace
    cases h
    refine ⟨fun hFull => hSpace (.inl hFull), ?_, rfl, rfl⟩
    by_contra hNone
    exact hSpace (.inr (by omega))

theorem WellFormed.readable_dequeue (h : q.WellFormed) :
    q.readable = q.peek.toList ++ q.dequeue.1.readable := by
  rw [peek, dequeue]
  split
  · rfl
  · rename_i hSome
    obtain ⟨hCap, hStart, hLt, hSize, hLe⟩ := h
    have hNat : q.mSize.toNat = (q.mSize - 1).toNat + 1 := by omega
    have hNext : (q.mStart + 1).tmod q.mCapacity = Lib.Ring.slot q.mCapacity q.mStart 1 := by
      rw [Int.tmod_eq_emod_of_nonneg (by omega), Lib.Ring.slot]
    rw [readable, hNat, Lib.Ring.window_succ, Lib.Ring.slot_zero hStart hLt]
    simp only [readable, Option.toList_some, List.singleton_append]
    rw [hNext]

theorem WellFormed.dequeue (h : q.WellFormed) : q.dequeue.1.WellFormed := by
  rw [SensorEventQueue.dequeue]
  split
  · exact h
  · rename_i hSome
    obtain ⟨hCap, hStart, hLt, hSize, hLe⟩ := h
    have hNext : (q.mStart + 1).tmod q.mCapacity = (q.mStart + 1) % q.mCapacity :=
      Int.tmod_eq_emod_of_nonneg (by omega)
    constructor
    · exact hCap
    · exact hNext ▸ Int.emod_nonneg _ hCap.ne'
    · exact hNext ▸ Int.emod_lt_of_pos _ hCap
    · show 0 ≤ q.mSize - 1
      omega
    · show q.mSize - 1 ≤ q.mCapacity
      omega

theorem WellFormed.slot_dequeue (h : q.WellFormed) :
    Lib.Ring.slot q.dequeue.1.mCapacity q.dequeue.1.mStart q.dequeue.1.mSize
      = Lib.Ring.slot q.mCapacity q.mStart q.mSize := by
  rw [SensorEventQueue.dequeue]
  split
  · rfl
  · have hStart := h.start_nonneg
    have hNext : (q.mStart + 1).tmod q.mCapacity = Lib.Ring.slot q.mCapacity q.mStart 1 := by
      rw [Int.tmod_eq_emod_of_nonneg (by omega), Lib.Ring.slot]
    show Lib.Ring.slot q.mCapacity ((q.mStart + 1).tmod q.mCapacity) (q.mSize - 1) = _
    rw [hNext, Lib.Ring.slot_slot, add_sub_cancel]

@[simp] theorem dequeue_mCapacity : q.dequeue.1.mCapacity = q.mCapacity := by
  rw [dequeue]
  split <;> rfl

@[simp] theorem dequeue_mData : q.dequeue.1.mData = q.mData := by
  rw [dequeue]
  split <;> rfl

theorem dequeue_mSize_le : q.dequeue.1.mSize ≤ q.mSize := by
  rw [dequeue]
  split
  · exact le_rfl
  · show q.mSize - 1 ≤ q.mSize
    omega

theorem dequeue_full (hCap : 0 < q.mCapacity) (hFull : q.mSize = q.mCapacity) :
    q.dequeue.2 = true := by
  rw [dequeue, if_neg (by omega)]
  exact decide_eq_true hFull

theorem readable_write {i : Int} (e : α) (h : ¬ q.Readable i) (hSize : 0 ≤ q.mSize) :
    (q.write i e).readable = q.readable := by
  apply Lib.Ring.window_congr
  intro j hj hjLt
  have hInside : j < q.mSize := by
    have hSame : (j : Int) < q.mSize.toNat := hjLt
    omega
  show (if _ = i then e else _) = _
  rw [if_neg]
  intro hEq
  exact h ⟨j, hj, hInside, hEq.symm⟩

theorem not_readable {j : Int} (hj : q.mSize ≤ j) (hjLt : j < q.mCapacity) (hSize : 0 ≤ q.mSize) :
    ¬ q.Readable (Lib.Ring.slot q.mCapacity q.mStart j) := by
  rintro ⟨k, hk, hkLt, hEq⟩
  have hSame := Lib.Ring.slot_inj (by omega) hjLt hk (by omega) hEq
  omega

theorem readable_head (h : q.WellFormed) : q.peek = q.readable.head? := by
  rw [peek]
  split
  · rename_i hNone
    rw [readable, hNone]
    rfl
  · rename_i hSome
    have hSize := h.size_nonneg
    have hNat : q.mSize.toNat = (q.mSize - 1).toNat + 1 := by omega
    rw [readable, hNat, Lib.Ring.window_succ, Lib.Ring.slot_zero h.start_nonneg h.start_lt]
    rfl

end SensorEventQueue

namespace QueueWorld

open SensorEventQueue

/-- The region the writer holds is the free part of the array behind the readable window, and holds
what the writer put there. -/
structure Holds (q : SensorEventQueue α) (first length : Int) (slots : Int → α) : Prop where
  first_eq : first = Lib.Ring.slot q.mCapacity q.mStart q.mSize
  length_nonneg : 0 ≤ length
  fits_space : q.mSize + length ≤ q.mCapacity
  fits_array : first + length ≤ q.mCapacity
  content : ∀ j, 0 ≤ j → j < length → q.mData (first + j) = slots j

/-- The invariant of all runs on an array of `capacity` events, `memory` being what was there and
around it before, after the events `os` have been dequeued. -/
structure Ordered (capacity : Int) (memory : Int → α) (os : List α) (s : QueueWorld α) :
    Prop where
  wellFormed : s.queue.WellFormed
  capacity_eq : s.queue.mCapacity = capacity
  written_eq : s.written = os ++ s.queue.readable
  holds : ∀ first length slots, s.writer = .filling first length slots →
    Holds s.queue first length slots
  waits_full : s.writer = .waiting → s.queue.mSize = s.queue.mCapacity
  outside : ∀ i, i < 0 ∨ capacity ≤ i → s.queue.mData i = memory i

variable {capacity : Int} {memory : Int → α} {os o : List α} {s s' : QueueWorld α}

theorem Holds.slot_eq {q : SensorEventQueue α} {first length j : Int} {slots : Int → α}
    (h : Holds q first length slots) (hCap : 0 < q.mCapacity) (hj : 0 ≤ j) (hjLt : j < length) :
    first + j = Lib.Ring.slot q.mCapacity q.mStart (q.mSize + j) := by
  have hFits := h.fits_array
  have hFirst := h.first_eq
  rw [Lib.Ring.slot_add_of_lt hCap hj (by omega), ← hFirst]

theorem Holds.not_readable {q : SensorEventQueue α} {first length j : Int} {slots : Int → α}
    (h : Holds q first length slots) (hq : q.WellFormed) (hj : 0 ≤ j) (hjLt : j < length) :
    ¬ q.Readable (first + j) := by
  have hSpace := h.fits_space
  rw [h.slot_eq hq.capacity_pos hj hjLt]
  exact SensorEventQueue.not_readable (by omega) (by omega) hq.size_nonneg

theorem ordered_start (hCap : 0 < capacity) (memory : Int → α) :
    Ordered capacity memory [] (start capacity memory) where
  wellFormed := ⟨hCap, le_rfl, hCap, le_rfl, hCap.le⟩
  capacity_eq := rfl
  written_eq := rfl
  holds _ _ _ h := by cases h
  waits_full h := by cases h
  outside _ _ := rfl

theorem Ordered.waitForSpace (h : Ordered capacity memory os s)
    (hStep : s.step .waitForSpace = some (s', o)) : Ordered capacity memory (os ++ o) s' := by
  rw [step] at hStep
  split at hStep
  · rename_i hRunning
    split at hStep
    · rename_i hFull
      cases hStep
      rw [List.append_nil]
      refine ⟨h.wellFormed, h.capacity_eq, h.written_eq, ?_, fun _ => hFull, h.outside⟩
      intro _ _ _ hFilling
      cases hFilling
    · cases hStep
      rwa [List.append_nil]
  · cases hStep

theorem Ordered.getWritableRegion (h : Ordered capacity memory os s) {requestedLength : Int}
    (hStep : s.step (.getWritableRegion requestedLength) = some (s', o)) :
    Ordered capacity memory (os ++ o) s' := by
  rw [step] at hStep
  split at hStep
  · rename_i first length hRunning hRegion
    obtain ⟨hSpace, hRequest, hFirst, hLength⟩ := getWritableRegion_some hRegion
    have hFree := h.wellFormed.freeRegion hSpace hRequest
    rw [← hLength, ← hFirst] at hFree
    cases hStep
    rw [List.append_nil]
    refine ⟨h.wellFormed, h.capacity_eq, h.written_eq, ?_, ?_, h.outside⟩
    · rintro _ _ _ hFilling
      cases hFilling
      exact ⟨hFree.first_eq, hFree.length_pos.le, hFree.fits_space, hFree.fits_array,
        fun _ _ _ => rfl⟩
    · intro hWaiting
      cases hWaiting
  · cases hStep
    rwa [List.append_nil]
  · cases hStep

theorem Ordered.write (h : Ordered capacity memory os s) {j : Int} {e : α}
    (hStep : s.step (.write j e) = some (s', o)) : Ordered capacity memory (os ++ o) s' := by
  rw [step] at hStep
  split at hStep
  · rename_i first length slots hFilling
    split at hStep
    · rename_i hInside
      obtain ⟨hj, hjLt⟩ := hInside
      have hHolds := h.holds first length slots hFilling
      have hFree := hHolds.not_readable h.wellFormed hj hjLt
      have hFirst : 0 ≤ first := by
        rw [hHolds.first_eq]
        exact Lib.Ring.slot_nonneg h.wellFormed.capacity_pos _ _
      cases hStep
      rw [List.append_nil]
      refine ⟨⟨h.wellFormed.1, h.wellFormed.2, h.wellFormed.3, h.wellFormed.4, h.wellFormed.5⟩,
        h.capacity_eq, ?_, ?_, ?_, ?_⟩
      · rw [h.written_eq]
        exact congrArg (os ++ ·) (readable_write e hFree h.wellFormed.size_nonneg).symm
      · rintro _ _ _ hSame
        cases hSame
        refine ⟨hHolds.first_eq, hHolds.length_nonneg, hHolds.fits_space, hHolds.fits_array, ?_⟩
        intro k hk hkLt
        show (if first + k = first + j then e else s.queue.mData (first + k))
          = if k = j then e else slots k
        rcases eq_or_ne k j with rfl | hNe
        · rw [if_pos rfl, if_pos rfl]
        · rw [if_neg hNe, if_neg (by omega), hHolds.content k hk hkLt]
      · intro hWaiting
        cases hWaiting
      · intro i hi
        have hCap := h.capacity_eq
        have hFits := hHolds.fits_array
        show (if i = first + j then e else s.queue.mData i) = memory i
        rw [if_neg (by omega), h.outside i hi]
    · cases hStep
  · cases hStep

theorem Ordered.markAsWritten (h : Ordered capacity memory os s) {count : Int}
    (hStep : s.step (.markAsWritten count) = some (s', o)) :
    Ordered capacity memory (os ++ o) s' := by
  rw [step] at hStep
  split at hStep
  · rename_i first length slots hFilling
    split at hStep
    · rename_i hCount
      obtain ⟨hNonneg, hLe⟩ := hCount
      have hHolds := h.holds first length slots hFilling
      obtain ⟨hCap, hStart, hLt, hSize, hSizeLe⟩ := h.wellFormed
      have hSpace := hHolds.fits_space
      cases hStep
      rw [List.append_nil]
      refine ⟨⟨hCap, hStart, hLt, ?_, ?_⟩, h.capacity_eq, ?_, ?_, ?_, h.outside⟩
      · show 0 ≤ s.queue.mSize + count
        omega
      · show s.queue.mSize + count ≤ s.queue.mCapacity
        omega
      · -- the marked slots of the region are the next slots of the window
        have hNat : (s.queue.mSize + count).toNat = s.queue.mSize.toNat + count.toNat := by omega
        show _ = os ++ Lib.Ring.window _ s.queue.mData _ (s.queue.mSize + count).toNat
        rw [hNat, Lib.Ring.window_add, h.written_eq, List.append_assoc]
        refine congrArg (fun l => os ++ (s.queue.readable ++ l)) ?_
        apply List.map_congr_left
        intro j hj
        have hjLt := List.mem_range.mp hj
        have hSlot := hHolds.slot_eq hCap (j := j) (by omega) (by omega)
        rw [← hHolds.content j (by omega) (by omega), hSlot, Int.toNat_of_nonneg hSize]
        rfl
      · rintro _ _ _ hSame
        cases hSame
      · intro hWaiting
        cases hWaiting
    · cases hStep
  · cases hStep

theorem Ordered.dequeue (h : Ordered capacity memory os s)
    (hStep : s.step .dequeue = some (s', o)) : Ordered capacity memory (os ++ o) s' := by
  rw [step] at hStep
  cases hStep
  refine ⟨h.wellFormed.dequeue, ?_, ?_, ?_, ?_, ?_⟩
  · rw [dequeue_mCapacity, h.capacity_eq]
  · rw [h.written_eq, h.wellFormed.readable_dequeue, List.append_assoc]
  · intro first length slots hFilling
    have hHeld : s.writer = .filling first length slots := by
      cases hWriter : s.writer with
      | filling => rw [hWriter] at hFilling; exact hFilling
      | running => rw [hWriter] at hFilling; cases hFilling
      | waiting =>
        rw [hWriter] at hFilling
        cases hWake : s.queue.dequeue.2 <;> rw [hWake] at hFilling <;> cases hFilling
    obtain ⟨hFirst, hLength, hSpace, hArray, hContent⟩ := h.holds first length slots hHeld
    have hLess := dequeue_mSize_le (q := s.queue)
    refine ⟨?_, hLength, ?_, ?_, ?_⟩
    · rw [h.wellFormed.slot_dequeue, hFirst]
    · show s.queue.dequeue.1.mSize + length ≤ s.queue.dequeue.1.mCapacity
      rw [dequeue_mCapacity]
      omega
    · rw [dequeue_mCapacity]
      exact hArray
    · rw [dequeue_mData]
      exact hContent
  · -- a queue with a waiting writer is full, so the condition is broadcast
    intro hWaiting
    exfalso
    cases hWriter : s.writer with
    | filling => rw [hWriter] at hWaiting; cases hWaiting
    | running => rw [hWriter] at hWaiting; cases hWaiting
    | waiting =>
      have hWake := dequeue_full h.wellFormed.capacity_pos (h.waits_full hWriter)
      rw [hWriter, hWake] at hWaiting
      cases hWaiting
  · rw [dequeue_mData]
    exact h.outside

theorem Ordered.next (h : Ordered capacity memory os s) {i : QueueInput α}
    (hNext : Next s i o s') : Ordered capacity memory (os ++ o) s' := by
  cases i with
  | waitForSpace => exact h.waitForSpace hNext
  | getWritableRegion requestedLength => exact h.getWritableRegion hNext
  | write j e => exact h.write hNext
  | markAsWritten count => exact h.markAsWritten hNext
  | peek =>
    cases hNext
    rwa [List.append_nil]
  | dequeue => exact h.dequeue hNext

theorem ordered_of_run (hCap : 0 < capacity) {is : List (QueueInput α)}
    (run : Lib.Steps Next Lib.anyStep (start capacity memory) is os s) :
    Ordered capacity memory os s := by
  refine run.history (I := fun _ os s => Ordered capacity memory os s)
    (ordered_start hCap memory) ?_
  intro _ _ _ _ _ _ _ h hNext
  exact h.next hNext

/-- What the queue promises once the events `dequeued` have been taken out of it. -/
structure EventsKept (capacity : Int) (memory : Int → α) (dequeued : List α)
    (s : QueueWorld α) : Prop where
  dequeued_prefix : dequeued <+: s.written
  written_eq : s.written = dequeued ++ s.queue.readable
  peek_eq : s.queue.peek = s.queue.readable.head?
  region_free : ∀ i, s.InRegion i → ¬ s.queue.Readable i
  region_in_array : ∀ i, s.InRegion i → 0 ≤ i ∧ i < capacity
  memory_kept : ∀ i, i < 0 ∨ capacity ≤ i → s.queue.mData i = memory i
  size_nonneg : 0 ≤ s.queue.mSize
  size_le : s.queue.mSize ≤ capacity
  waits_full : s.writer = .waiting → s.queue.mSize = capacity
  region_of_space : s.queue.mSize ≠ capacity → ∀ requestedLength, 0 < requestedLength →
    ∃ first length, s.queue.getWritableRegion requestedLength = (some first, length) ∧
      1 ≤ length ∧ length ≤ requestedLength ∧ s.queue.mSize + length ≤ capacity

/-- Whatever the capacity, the sizes asked for, the events written and the moments the reader
chooses, the reader gets the events of the writer, each once and in order. -/
theorem events_kept_of_run (hCap : 0 < capacity) {is : List (QueueInput α)}
    (run : Lib.Steps Next Lib.anyStep (start capacity memory) is os s) :
    EventsKept capacity memory os s := by
  have h := ordered_of_run hCap run
  have hSize := h.capacity_eq
  refine ⟨⟨_, h.written_eq.symm⟩, h.written_eq, readable_head h.wellFormed, ?_, ?_, h.outside,
    h.wellFormed.size_nonneg, hSize ▸ h.wellFormed.size_le, fun hw => hSize ▸ h.waits_full hw, ?_⟩
  · rintro i ⟨first, length, slots, hFilling, hGe, hLt⟩
    have hFree := (h.holds first length slots hFilling).not_readable (j := i - first)
      h.wellFormed (by omega) (by omega)
    rwa [add_sub_cancel] at hFree
  · rintro i ⟨first, length, slots, hFilling, hGe, hLt⟩
    have hHolds := h.holds first length slots hFilling
    have hFirst : 0 ≤ first := by
      rw [hHolds.first_eq]
      exact Lib.Ring.slot_nonneg h.wellFormed.capacity_pos _ _
    have hFits := hHolds.fits_array
    constructor <;> omega
  · intro hSpace requestedLength hRequest
    have hNotFull : s.queue.mSize ≠ s.queue.mCapacity := hSize ▸ hSpace
    have hFree := h.wellFormed.freeRegion hNotFull hRequest
    exact ⟨_, _, getWritableRegion_of_space hNotFull hRequest, hFree.length_pos, hFree.length_le,
      hSize ▸ hFree.fits_space⟩

theorem events_kept_of_run_wrapping : ∃ s : QueueWorld Nat,
    s.written = [5, 7, 9, 11] ∧ EventsKept 3 (fun _ => 0) [5, 7] s := by
  have run : Lib.Steps Next Lib.anyStep (start 3 fun _ => 0)
      [.getWritableRegion 3, .write 0 5, .write 1 7, .markAsWritten 2, .getWritableRegion 3,
        .dequeue, .write 0 9, .markAsWritten 1, .getWritableRegion 3, .dequeue, .write 0 11,
        .markAsWritten 1] _ _ :=
    Lib.Steps.of_exec Next Lib.anyStep (f := fun _ _ s i => s.step i)
      (fun _ _ _ _ _ _ _ h => ⟨h, trivial⟩) rfl
  exact ⟨_, rfl, events_kept_of_run (by decide) run⟩

end QueueWorld

end KiwiDevice.Sensors

import KiwiDevice.Hal.CameraQueue
import KiwiDevice.Lib.Steps
import Mathlib.Algebra.GroupWithZero.Nat

/-!
# Runs of calls on the queue of the camera HAL

Every call on a `QCameraQueue` is one on the list it holds, and what is put in is in the queue, was
given back or was freed.
-/

namespace KiwiDevice.Hal

open Camera CameraQueue

universe u v w x

/-- With the answer of `malloc`, or the match function and its data. -/
inductive CameraQueueOp (A : Type u) (D : Type v) (U : Type w) (M : Type x) where
  | enqueue (node : Option A) (data : D)
  | enqueueWithPriority (node : Option A) (data : D)
  | dequeue (bFromHead : Bool)
  | flush
  | flushNodes (match? : Option (D → U → Bool))
  | flushNodesData (match? : Option (D → U → M → Bool)) (matchData : M)

inductive CameraQueueResult (D : Type v) where
  | ok (b : Bool)
  | data (data : D)
  | void
  deriving DecidableEq

def CameraQueueOp.node {A : Type u} {D : Type v} {U : Type w} {M : Type x} :
    CameraQueueOp A D U M → Option A
  | .enqueue node _ => node
  | .enqueueWithPriority node _ => node
  | _ => none

section Calls

variable {A : Type u} {D : Type v} {U : Type w} {M : Type x} {q q' : CameraQueue A D U}
  {head a : A} {data : D} {items : List D} {userData : U} {dataRelFn : Bool}
  {op : CameraQueueOp A D U M} {ops : List (CameraQueueOp A D U M)}
  {out outs : List (CameraQueueResult D)}

/-- The data of the calls that put one into the queue. -/
def enqueued (ops : List (CameraQueueOp A D U M)) : List D :=
  ops.flatMap fun op =>
    match op with
    | .enqueue (some _) data => [data]
    | .enqueueWithPriority (some _) data => [data]
    | _ => []

theorem enqueued_append : enqueued (ops ++ [op]) = enqueued ops ++ enqueued [op] := by
  simp [enqueued]

variable [Zero D]

theorem filter_conserves (isMatch : D → Bool) (hNull : 0 ∉ items) :
    (items ++ []).Perm ((items.filter fun data => !isMatch data) ++ [] ++ items.filter isMatch) ∧
      0 ∉ items.filter fun data => !isMatch data := by
  constructor
  · have hPerm := List.filter_append_perm isMatch items
    simpa using (List.perm_append_comm.trans hPerm).symm
  · intro hMem
    exact hNull (List.mem_of_mem_filter hMem)

/-- The list with both ends open. -/
def dequeCall (userData : U) (items : List D) :
    CameraQueueOp A D U M → CameraQueueResult D × List D
  | .enqueue none _ => (.ok false, items)
  | .enqueue (some _) data => (.ok true, items ++ [data])
  | .enqueueWithPriority none _ => (.ok false, items)
  | .enqueueWithPriority (some _) data => (.ok true, data :: items)
  | .dequeue true => (.data (items.headD 0), items.tail)
  | .dequeue false => (.data (items.getLastD 0), items.dropLast)
  | .flush => (.void, [])
  | .flushNodes none => (.void, items)
  | .flushNodes (some f) => (.void, items.filter fun data => !f data userData)
  | .flushNodesData none _ => (.void, items)
  | .flushNodesData (some f) m => (.void, items.filter fun data => !f data userData m)

/-- What a flush takes out of the list. -/
def flushed (userData : U) (items : List D) : CameraQueueOp A D U M → List D
  | .flush => items
  | .flushNodes (some f) => items.filter fun data => f data userData
  | .flushNodesData (some f) m => items.filter fun data => f data userData m
  | _ => []

/-- The results of some calls, the list after them and what was flushed out of it. -/
structure DequeRun (D : Type v) where
  results : List (CameraQueueResult D)
  items : List D
  flushed : List D

def dequeCalls (userData : U) (ops : List (CameraQueueOp A D U M)) : DequeRun D :=
  ops.foldl
    (fun s op =>
      { results := s.results ++ [(dequeCall userData s.items op).1]
        items := (dequeCall userData s.items op).2
        flushed := s.flushed ++ Hal.flushed userData s.items op })
    ⟨[], [], []⟩

theorem dequeCalls_append :
    dequeCalls userData (ops ++ [op]) =
      { results := (dequeCalls userData ops).results ++
          [(dequeCall userData (dequeCalls userData ops).items op).1]
        items := (dequeCall userData (dequeCalls userData ops).items op).2
        flushed := (dequeCalls userData ops).flushed ++
          flushed userData (dequeCalls userData ops).items op } := by
  simp [dequeCalls]

variable [DecidableEq D]

/-- The data that were given back. -/
def returned (outs : List (CameraQueueResult D)) : List D :=
  outs.flatMap fun out =>
    match out with
    | .data data => if data = 0 then [] else [data]
    | _ => []

theorem returned_append (result : CameraQueueResult D) :
    returned (outs ++ [result]) = returned outs ++ returned [result] := by
  simp [returned]

theorem dequeue_conserves (bFromHead : Bool) (hNull : 0 ∉ items) :
    (items ++ []).Perm
        ((dequeCall userData items (.dequeue bFromHead : CameraQueueOp A D U M)).2 ++
          returned [(dequeCall userData items (.dequeue bFromHead : CameraQueueOp A D U M)).1] ++
          []) ∧
      0 ∉ (dequeCall userData items (.dequeue bFromHead : CameraQueueOp A D U M)).2 := by
  cases bFromHead with
  | true =>
    cases items with
    | nil => simp [dequeCall, returned]
    | cons data items =>
      rw [List.mem_cons, not_or] at hNull
      have hPerm := List.perm_append_singleton data items
      simpa [dequeCall, returned, Ne.symm hNull.1, hNull.2] using hPerm.symm
  | false =>
    induction items using List.reverseRecOn with
    | nil => simp [dequeCall, returned]
    | append_singleton items data _ =>
      rw [List.mem_append, List.mem_singleton, not_or] at hNull
      simp [dequeCall, returned, Ne.symm hNull.2, hNull.1]

/-- Nothing is lost or doubled by a call. -/
theorem call_conserves (userData : U) (hNull : 0 ∉ items) (hNew : 0 ∉ enqueued [op]) :
    (items ++ enqueued [op]).Perm ((dequeCall userData items op).2 ++
        returned [(dequeCall userData items op).1] ++ flushed userData items op) ∧
      0 ∉ (dequeCall userData items op).2 := by
  cases op with
  | enqueue node data =>
    cases node with
    | none => simpa [enqueued, dequeCall, returned, flushed] using hNull
    | some a =>
      simp only [enqueued, List.flatMap_cons, List.flatMap_nil, List.append_nil] at hNew
      simp [enqueued, dequeCall, returned, flushed, hNull, List.mem_singleton.not.mp hNew]
  | enqueueWithPriority node data =>
    cases node with
    | none => simpa [enqueued, dequeCall, returned, flushed] using hNull
    | some a =>
      simp only [enqueued, List.flatMap_cons, List.flatMap_nil, List.append_nil] at hNew
      simp [enqueued, dequeCall, returned, flushed, hNull, List.mem_singleton.not.mp hNew,
        List.perm_append_singleton]
  | dequeue bFromHead => exact dequeue_conserves bFromHead hNull
  | flush => simp [enqueued, dequeCall, returned, flushed]
  | flushNodes match? =>
    cases match? with
    | none => simpa [enqueued, dequeCall, returned, flushed] using hNull
    | some f => exact filter_conserves (fun data => f data userData) hNull
  | flushNodesData match? m =>
    cases match? with
    | none => simpa [enqueued, dequeCall, returned, flushed] using hNull
    | some f => exact filter_conserves (fun data => f data userData m) hNull

variable [DecidableEq A]

/-- A call that returns. -/
def CameraQueueCall (head : A) (q : CameraQueue A D U) (op : CameraQueueOp A D U M)
    (out : List (CameraQueueResult D)) (q' : CameraQueue A D U) : Prop :=
  match op with
  | .enqueue node data =>
    out = [.ok (q.enqueue head node data).1] ∧ q' = (q.enqueue head node data).2
  | .enqueueWithPriority node data =>
    out = [.ok (q.enqueueWithPriority head node data).1] ∧
      q' = (q.enqueueWithPriority head node data).2
  | .dequeue bFromHead =>
    out = [.data (q.dequeue head bFromHead).1] ∧ q' = (q.dequeue head bFromHead).2
  | .flush => out = [.void] ∧ q.Flush head q'
  | .flushNodes match? => out = [.void] ∧ q.FlushNodes head match? q'
  | .flushNodesData match? matchData =>
    out = [.void] ∧ q.FlushNodesData head match? matchData q'

/-- `malloc` gives fresh nodes, and no null pointer is put into the queue. -/
def CameraMallocs (head : A) :
    List (CameraQueueOp A D U M) → List (CameraQueueResult D) → CameraQueue A D U →
      CameraQueueOp A D U M → List (CameraQueueResult D) → Prop :=
  fun _ _ q op _ => q.nodes.Malloc head op.node ∧ 0 ∉ enqueued [op]

theorem call_after (hRep : q.Represents head items) (hNull : 0 ∉ items)
    (hReleased : q.Released dataRelFn userData) (hMalloc : q.nodes.Malloc head op.node)
    (hCall : CameraQueueCall head q op out q') :
    out = [(dequeCall userData items op).1] ∧
      q.After q' head (dequeCall userData items op).2 (flushed userData items op) dataRelFn
        userData := by
  cases op with
  | enqueue node data =>
    obtain ⟨rfl, rfl⟩ := hCall
    cases node with
    | none => exact ⟨rfl, hRep, hReleased, by simp [flushed, enqueue]⟩
    | some a =>
      exact ⟨rfl, enqueue_represents hRep hMalloc, ⟨hReleased.1, hReleased.2, hReleased.3⟩,
        by simp [flushed, enqueue]⟩
  | enqueueWithPriority node data =>
    obtain ⟨rfl, rfl⟩ := hCall
    cases node with
    | none => exact ⟨rfl, hRep, hReleased, by simp [flushed, enqueueWithPriority]⟩
    | some a =>
      exact ⟨rfl, enqueueWithPriority_represents hRep hMalloc,
        ⟨hReleased.1, hReleased.2, hReleased.3⟩, by simp [flushed, enqueueWithPriority]⟩
  | dequeue bFromHead =>
    obtain ⟨rfl, rfl⟩ := hCall
    obtain ⟨hKept, hFreed⟩ := dequeue_kept bFromHead hReleased
    cases bFromHead with
    | false =>
      obtain ⟨hData, hRep'⟩ := dequeue_last hRep
      rw [hData]
      exact ⟨rfl, hRep', hKept, by simpa [flushed] using hFreed⟩
    | true =>
      obtain ⟨hData, hRep'⟩ := dequeue_first hRep
      rw [hData]
      exact ⟨rfl, hRep', hKept, by simpa [flushed] using hFreed⟩
  | flush =>
    obtain ⟨rfl, hFlush⟩ := hCall
    exact ⟨rfl, flush_after hRep hNull hReleased hFlush⟩
  | flushNodes match? =>
    obtain ⟨rfl, hFlush⟩ := hCall
    cases match? with
    | none =>
      cases hFlush
      exact ⟨rfl, hRep, hReleased, by simp [flushed]⟩
    | some f =>
      have hAfter := flushMatching_after _ hRep hNull hReleased hFlush
      rw [hReleased.user] at hAfter
      exact ⟨rfl, hAfter⟩
  | flushNodesData match? m =>
    obtain ⟨rfl, hFlush⟩ := hCall
    cases match? with
    | none =>
      cases hFlush
      exact ⟨rfl, hRep, hReleased, by simp [flushed]⟩
    | some f =>
      have hAfter := flushMatching_after _ hRep hNull hReleased hFlush
      rw [hReleased.user] at hAfter
      exact ⟨rfl, hAfter⟩

theorem call_returns (op : CameraQueueOp A D U M) (hRep : q.Represents head items)
    (hNull : 0 ∉ items)
    (hReleased : q.Released dataRelFn userData) :
    ∃ out q', CameraQueueCall head q op out q' := by
  cases op with
  | flush =>
    obtain ⟨q', hFlush⟩ := flush_returns hRep hNull hReleased
    exact ⟨_, q', rfl, hFlush⟩
  | flushNodes match? =>
    cases match? with
    | none => exact ⟨_, q, rfl, rfl⟩
    | some f =>
      obtain ⟨q', hFlush⟩ := flushMatching_returns _ hRep hNull hReleased
      exact ⟨_, q', rfl, hFlush⟩
  | flushNodesData match? m =>
    cases match? with
    | none => exact ⟨_, q, rfl, rfl⟩
    | some f =>
      obtain ⟨q', hFlush⟩ := flushMatching_returns _ hRep hNull hReleased
      exact ⟨_, q', rfl, hFlush⟩
  | _ => exact ⟨_, _, rfl, rfl⟩

/-- What holds after every run. -/
structure RunState (head : A) (dataRelFn : Bool) (userData : U)
    (ops : List (CameraQueueOp A D U M)) (outs : List (CameraQueueResult D))
    (q : CameraQueue A D U) : Prop where
  results : outs = (dequeCalls userData ops).results
  represents : q.Represents head (dequeCalls userData ops).items
  released : q.Released dataRelFn userData
  freedData : q.freedData = (dequeCalls userData ops).flushed
  notNull : 0 ∉ (dequeCalls userData ops).items
  conserved : (enqueued ops).Perm
    ((dequeCalls userData ops).items ++ returned outs ++ (dequeCalls userData ops).flushed)

theorem qCameraQueue_state {memory : QueueNodes A D} (hLive : memory.live = []) :
    RunState head dataRelFn userData ([] : List (CameraQueueOp A D U M)) []
      (qCameraQueue memory head dataRelFn userData) where
  results := rfl
  represents := by
    constructor
    · refine ⟨[], ⟨camListInit_ring, ?_⟩, rfl⟩
      simp [qCameraQueue, QueueNodes.relink, hLive]
    · rfl
  released := by
    constructor
    · rfl
    · rfl
    · simp [qCameraQueue]
  freedData := rfl
  notNull := by simp [dequeCalls]
  conserved := .nil

theorem call_state (hState : RunState head dataRelFn userData ops outs q)
    (hMalloc : q.nodes.Malloc head op.node) (hNew : 0 ∉ enqueued [op])
    (hCall : CameraQueueCall head q op out q') :
    RunState head dataRelFn userData (ops ++ [op]) (outs ++ out) q' := by
  obtain ⟨rfl, hAfter⟩ :=
    call_after hState.represents hState.notNull hState.released hMalloc hCall
  obtain ⟨hPerm, hNull⟩ := call_conserves userData hState.notNull hNew
  constructor
  · rw [dequeCalls_append, hState.results]
  · rw [dequeCalls_append]
    exact hAfter.represents
  · exact hAfter.released
  · rw [dequeCalls_append, hAfter.freedData, hState.freedData]
  · rw [dequeCalls_append]
    exact hNull
  · rw [dequeCalls_append, enqueued_append, returned_append, List.perm_iff_count]
    intro data
    have hBefore := hState.conserved.count_eq data
    have hCount := hPerm.count_eq data
    simp only [List.count_append] at hBefore hCount ⊢
    omega

/-- After every run of calls the queue, its results and its logs are those of the list, what was put
in is in the queue, was given back or was freed, and the next call returns. -/
theorem cameraQueue_refines_deque {memory : QueueNodes A D} (hLive : memory.live = [])
    (run : Lib.Steps (CameraQueueCall head) (CameraMallocs head)
      (qCameraQueue memory head dataRelFn userData) ops outs q) :
    outs = (dequeCalls userData ops).results ∧
      q.Represents head (dequeCalls userData ops).items ∧
      q.freedData = (dequeCalls userData ops).flushed ∧
      q.dataFnCalls = (if dataRelFn then q.freedData.map fun data => (data, userData) else []) ∧
      (enqueued ops).Perm ((dequeCalls userData ops).items ++ returned outs ++ q.freedData) ∧
      ∀ op : CameraQueueOp A D U M, q.nodes.Malloc head op.node → ∃ q', CameraQueueCall head q op
        [(dequeCall userData (dequeCalls userData ops).items op).1] q' := by
  have hState : RunState head dataRelFn userData ops outs q := by
    apply run.history (I := RunState head dataRelFn userData)
    · exact qCameraQueue_state hLive
    · rintro ops outs q op out q' ⟨hMalloc, hNew⟩ hBefore hCall
      exact call_state hBefore hMalloc hNew hCall
  refine ⟨hState.results, hState.represents, hState.freedData, hState.released.calls, ?_, ?_⟩
  · rw [hState.freedData]
    exact hState.conserved
  · intro op hMalloc
    obtain ⟨out, q', hCall⟩ :=
      call_returns op hState.represents hState.notNull hState.released
    obtain ⟨rfl, -⟩ :=
      call_after hState.represents hState.notNull hState.released hMalloc hCall
    exact ⟨q', hCall⟩

def noMemory : QueueNodes Nat Nat where
  list := { next := id, prev := id }
  data := fun _ => 0
  live := []
  freed := []

def threeOps : List (CameraQueueOp Nat Nat Unit Unit) :=
  [.enqueue (some 1) 5, .enqueueWithPriority (some 2) 6, .dequeue false]

def afterOne : CameraQueue Nat Nat Unit :=
  ((qCameraQueue noMemory 0 true ()).enqueue 0 (some 1) 5).2

def afterTwo : CameraQueue Nat Nat Unit := (afterOne.enqueueWithPriority 0 (some 2) 6).2

theorem three_run :
    Lib.Steps (CameraQueueCall 0) (CameraMallocs 0) (qCameraQueue noMemory 0 true ()) threeOps
      [.ok true, .ok true, .data 5] (afterTwo.dequeue 0 false).2 := by
  have hStart : Lib.Steps (CameraQueueCall (M := Unit) 0) (CameraMallocs 0)
      (qCameraQueue noMemory 0 true ()) [] [] (qCameraQueue noMemory 0 true ()) := .start
  have hOne : Lib.Steps (CameraQueueCall (M := Unit) 0) (CameraMallocs 0)
      (qCameraQueue noMemory 0 true ()) [.enqueue (some 1) 5] [.ok true] afterOne := by
    refine hStart.step ⟨?_, by simp [enqueued]⟩ ⟨rfl, rfl⟩
    rintro a ⟨⟩
    decide
  have hTwo : Lib.Steps (CameraQueueCall (M := Unit) 0) (CameraMallocs 0)
      (qCameraQueue noMemory 0 true ()) [.enqueue (some 1) 5, .enqueueWithPriority (some 2) 6]
      [.ok true, .ok true] afterTwo := by
    refine hOne.step ⟨?_, by simp [enqueued]⟩ ⟨rfl, rfl⟩
    rintro a ⟨⟩
    decide
  refine hTwo.step ⟨?_, by simp [enqueued]⟩ ⟨rfl, rfl⟩
  rintro a ⟨⟩

theorem cameraQueue_refines_deque_three :
    ∃ q : CameraQueue Nat Nat Unit, q.Represents 0 [6] ∧ q.freedData = [] ∧
      (enqueued threeOps).Perm ([6] ++ [5] ++ q.freedData) := by
  have hLive : noMemory.live = [] := rfl
  obtain ⟨-, hRep, hFreed, -, hPerm, -⟩ := cameraQueue_refines_deque hLive three_run
  exact ⟨_, hRep, hFreed, hPerm⟩

end Calls

end KiwiDevice.Hal

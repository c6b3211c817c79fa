import KiwiDevice.Camera.CamList
import KiwiDevice.Lib.Loop
import KiwiDevice.Lib.Steps
import Mathlib.Algebra.GroupWithZero.Nat

/-!
# The queue of jobs and buffers

`mm_jpeg_queue` against the list it stands for. `mm_jpeg_queue_flush` reads the link of a node after
it was taken out and freed; `mm_jpeg_queue_deq` and the flush of the camera's queue read it before.
-/

namespace KiwiDevice.Jpeg

open Camera
open Lib.Loop (Exits Spins spins_of_invariant)

universe u v

structure MmJpegQueue (A : Type u) (D : Type v) where
  nodes : QueueNodes A D
  size : BitVec 32

/-- With the answer of `malloc`. -/
inductive JpegQueueOp (A : Type u) (D : Type v) where
  | enq (node : Option A) (data : D)
  | enqHead (node : Option A) (data : D)
  | deq
  | peek
  | flush
  | getSize

inductive JpegQueueResult (D : Type v) where
  | rc (rc : Int)
  | data (data : D)
  | size (size : BitVec 32)
  deriving DecidableEq

/-- The local state of the loop of `mm_jpeg_queue_flush`, and the data freed so far. -/
structure JpegFlush (A : Type u) (D : Type v) where
  queue : MmJpegQueue A D
  pos : A
  freedData : List D

def JpegQueueOp.node {A : Type u} {D : Type v} : JpegQueueOp A D → Option A
  | .enq node _ => node
  | .enqHead node _ => node
  | _ => none

section Queue

variable {A : Type u} {D : Type v} {queue queue' : MmJpegQueue A D} {head : A} {data : D}
  {items : List D} {op : JpegQueueOp A D} {ops : List (JpegQueueOp A D)}
  {out outs : List (JpegQueueResult D)}

/-- The queue holds the items, and its size counts them. -/
structure MmJpegQueue.Represents (queue : MmJpegQueue A D) (head : A) (items : List D) : Prop where
  contents : queue.nodes.Contents head items
  size : queue.size = BitVec.ofNat 32 items.length

def JpegMallocs (head : A) :
    List (JpegQueueOp A D) → List (JpegQueueResult D) → MmJpegQueue A D → JpegQueueOp A D →
      List (JpegQueueResult D) → Prop :=
  fun _ _ queue op _ => queue.nodes.Malloc head op.node

variable [DecidableEq A]

def mmJpegQueueInit (queue : MmJpegQueue A D) (head : A) : MmJpegQueue A D where
  nodes := queue.nodes.relink fun l => camListInit l head
  size := 0

def mmJpegQueueEnq (queue : MmJpegQueue A D) (head : A) (node : Option A) (data : D) :
    Int × MmJpegQueue A D :=
  match node with
  | none => (-1, queue)
  | some node =>
    (0, { nodes := (queue.nodes.new node data).relink fun l => camListAddTailNode l node head
          size := queue.size + 1 })

def mmJpegQueueEnqHead (queue : MmJpegQueue A D) (head : A) (node : Option A) (data : D) :
    Int × MmJpegQueue A D :=
  match node with
  | none => (-1, queue)
  | some node =>
    let pos := queue.nodes.list.next head
    (0, { nodes := (queue.nodes.new node data).relink fun l => camListInsertBeforeNode l node pos
          size := queue.size + 1 })

def mmJpegQueueGetSize (queue : MmJpegQueue A D) : BitVec 32 := queue.size

theorem init_represents (hLive : queue.nodes.live = []) :
    (mmJpegQueueInit queue head).Represents head [] := by
  constructor
  · refine ⟨[], ?_, rfl⟩
    constructor
    · exact camListInit_ring
    · simp [mmJpegQueueInit, QueueNodes.relink, hLive]
  · rfl

theorem enq_represents (hRep : queue.Represents head items) {a : A}
    (hMalloc : queue.nodes.Malloc head (some a)) :
    (mmJpegQueueEnq queue head (some a) data).2.Represents head (items ++ [data]) := by
  constructor
  · exact hRep.contents.add_tail hMalloc
  · simp [mmJpegQueueEnq, hRep.size, BitVec.ofNat_add]

theorem enqHead_represents (hRep : queue.Represents head items) {a : A}
    (hMalloc : queue.nodes.Malloc head (some a)) :
    (mmJpegQueueEnqHead queue head (some a) data).2.Represents head (data :: items) := by
  constructor
  · obtain ⟨-, hNe, hPrev⟩ := hRep.contents.next_head_fresh hMalloc
    have hLinks := camListInsertBeforeNode_eq (l := queue.nodes.list) hNe
    rw [hPrev] at hLinks
    exact hRep.contents.insert_first hMalloc data
      (f := fun l => camListInsertBeforeNode l a (queue.nodes.list.next head)) hLinks
  · simp [mmJpegQueueEnqHead, hRep.size, BitVec.ofNat_add]

variable [Zero D]

def mmJpegQueueDeq (queue : MmJpegQueue A D) (head : A) : D × MmJpegQueue A D :=
  let pos := queue.nodes.list.next head
  if pos ≠ head then
    let nodes := queue.nodes.relink fun l => camListDelNode l pos
    (nodes.data pos, { nodes := nodes.free pos, size := queue.size - 1 })
  else
    (0, queue)

def mmJpegQueuePeek (queue : MmJpegQueue A D) (head : A) : D :=
  let pos := queue.nodes.list.next head
  if pos ≠ head then queue.nodes.data pos else 0

theorem mmJpegQueueDeq_eq (hNe : queue.nodes.list.next head ≠ head) :
    mmJpegQueueDeq queue head =
      (queue.nodes.data (queue.nodes.list.next head),
        { nodes := (queue.nodes.relink fun l => camListDelNode l (queue.nodes.list.next head)).free
            (queue.nodes.list.next head)
          size := queue.size - 1 }) := by
  rw [mmJpegQueueDeq]
  exact if_pos hNe

theorem deq_represents (hRep : queue.Represents head items) :
    (mmJpegQueueDeq queue head).1 = items.headD 0 ∧
      (mmJpegQueueDeq queue head).2.Represents head items.tail := by
  cases items with
  | nil =>
    have hNext := hRep.contents.next_head
    simp only [mmJpegQueueDeq, hNext]
    exact ⟨by simp, by simpa using hRep⟩
  | cons data items =>
    obtain ⟨hNe, hData, hContents⟩ := hRep.contents.delete_first
    rw [mmJpegQueueDeq_eq hNe]
    constructor
    · exact hData
    · constructor
      · exact hContents
      · simp [hRep.size, BitVec.ofNat_add, BitVec.add_sub_cancel]

theorem peek_represents (hRep : queue.Represents head items) :
    mmJpegQueuePeek queue head = items.headD 0 := by
  cases items with
  | nil => simp [mmJpegQueuePeek, hRep.contents.next_head]
  | cons data items =>
    obtain ⟨hNe, hData, -⟩ := hRep.contents.delete_first
    simp [mmJpegQueuePeek, hNe, hData]

/-- The list with both ends open. -/
def listCall (items : List D) : JpegQueueOp A D → JpegQueueResult D × List D
  | .enq none _ => (.rc (-1), items)
  | .enq (some _) data => (.rc 0, items ++ [data])
  | .enqHead none _ => (.rc (-1), items)
  | .enqHead (some _) data => (.rc 0, data :: items)
  | .deq => (.data (items.headD 0), items.tail)
  | .peek => (.data (items.headD 0), items)
  | .flush => (.rc 0, [])
  | .getSize => (.size (BitVec.ofNat 32 items.length), items)

/-- The results and the list after some calls. -/
def listCalls (ops : List (JpegQueueOp A D)) : List (JpegQueueResult D) × List D :=
  ops.foldl (fun s op => (s.1 ++ [(listCall s.2 op).1], (listCall s.2 op).2)) ([], [])

omit [DecidableEq A] in
theorem listCalls_append :
    listCalls (ops ++ [op]) =
      ((listCalls ops).1 ++ [(listCall (listCalls ops).2 op).1],
        (listCall (listCalls ops).2 op).2) := by
  simp [listCalls]

variable [DecidableEq D]

def flushPass (head : A) (f : JpegFlush A D) : Option (JpegFlush A D) :=
  if f.pos ≠ head then
    let node := f.pos
    let nodes := f.queue.nodes.relink fun l => camListDelNode l node
    let data := nodes.data node
    some
      { queue := { nodes := nodes.free node, size := f.queue.size - 1 }
        -- read from the freed node
        pos := (nodes.free node).list.next node
        freedData := if data ≠ 0 then f.freedData ++ [data] else f.freedData }
  else
    none

def MmJpegQueueFlush (queue : MmJpegQueue A D) (head : A) (rc : Int) (queue' : MmJpegQueue A D) :
    Prop :=
  ∃ r, Exits (flushPass head) ⟨queue, queue.nodes.list.next head, []⟩ r ∧
    rc = 0 ∧ queue' = { r.queue with size := 0 }

/-- A call that returns. -/
def JpegQueueCall (head : A) (queue : MmJpegQueue A D) (op : JpegQueueOp A D)
    (out : List (JpegQueueResult D)) (queue' : MmJpegQueue A D) : Prop :=
  match op with
  | .enq node data =>
    out = [.rc (mmJpegQueueEnq queue head node data).1] ∧
      queue' = (mmJpegQueueEnq queue head node data).2
  | .enqHead node data =>
    out = [.rc (mmJpegQueueEnqHead queue head node data).1] ∧
      queue' = (mmJpegQueueEnqHead queue head node data).2
  | .deq =>
    out = [.data (mmJpegQueueDeq queue head).1] ∧ queue' = (mmJpegQueueDeq queue head).2
  | .peek => out = [.data (mmJpegQueuePeek queue head)] ∧ queue' = queue
  | .flush => ∃ rc, out = [.rc rc] ∧ MmJpegQueueFlush queue head rc queue'
  | .getSize => out = [.size (mmJpegQueueGetSize queue)] ∧ queue' = queue

/-- The node that was taken out is linked to itself. -/
theorem flushPass_stays {f f' : JpegFlush A D} (hPass : flushPass head f = some f') :
    f'.pos = f.pos ∧ f'.queue.nodes.freed = f.queue.nodes.freed ++ [f.pos] := by
  rw [flushPass] at hPass
  split at hPass
  · cases hPass
    simp [QueueNodes.free, QueueNodes.relink, camListDelNode, Lib.Links.setNext,
      Lib.Links.setPrev]
  · cases hPass

theorem flush_spins (hNe : queue.nodes.list.next head ≠ head) :
    Spins (flushPass head) ⟨queue, queue.nodes.list.next head, []⟩ := by
  apply spins_of_invariant (I := fun f => f.pos ≠ head)
  · intro f f' hPos hPass
    rwa [(flushPass_stays hPass).1]
  · intro f hPos
    simp [flushPass, hPos]
  · exact hNe

theorem flush_represents (hRep : queue.Represents head []) :
    MmJpegQueueFlush queue head 0 { queue with size := 0 } := by
  refine ⟨_, .done ?_, rfl, rfl⟩
  simp [flushPass, hRep.contents.next_head]

theorem flush_empty {rc : Int} (hRep : queue.Represents head items)
    (hFlush : MmJpegQueueFlush queue head rc queue') :
    items = [] ∧ rc = 0 ∧ queue'.Represents head [] := by
  obtain ⟨r, hExits, hRc, rfl⟩ := hFlush
  cases items with
  | nil =>
    have hDone : Exits (flushPass head) ⟨queue, queue.nodes.list.next head, []⟩
        ⟨queue, queue.nodes.list.next head, []⟩ := by
      apply Exits.done
      simp [flushPass, hRep.contents.next_head]
    cases hExits.unique hDone
    refine ⟨rfl, hRc, ?_⟩
    constructor
    · exact hRep.contents
    · rfl
  | cons data items =>
    obtain ⟨hNe, -⟩ := hRep.contents.delete_first
    exact absurd hExits (flush_spins hNe r)

/-- A call that returns gives the result of the list and leaves the list. -/
theorem call_represents (hRep : queue.Represents head items)
    (hMalloc : queue.nodes.Malloc head op.node) (hCall : JpegQueueCall head queue op out queue') :
    out = [(listCall items op).1] ∧ queue'.Represents head (listCall items op).2 := by
  cases op with
  | enq node data =>
    obtain ⟨rfl, rfl⟩ := hCall
    cases node with
    | none => exact ⟨rfl, hRep⟩
    | some a => exact ⟨rfl, enq_represents hRep hMalloc⟩
  | enqHead node data =>
    obtain ⟨rfl, rfl⟩ := hCall
    cases node with
    | none => exact ⟨rfl, hRep⟩
    | some a => exact ⟨rfl, enqHead_represents hRep hMalloc⟩
  | deq =>
    obtain ⟨rfl, rfl⟩ := hCall
    obtain ⟨hData, hRep'⟩ := deq_represents hRep
    rw [hData]
    exact ⟨rfl, hRep'⟩
  | peek =>
    obtain ⟨rfl, rfl⟩ := hCall
    rw [peek_represents hRep]
    exact ⟨rfl, hRep⟩
  | flush =>
    obtain ⟨rc, rfl, hFlush⟩ := hCall
    obtain ⟨hEmpty, rfl, hRep'⟩ := flush_empty hRep hFlush
    exact ⟨rfl, hRep'⟩
  | getSize =>
    obtain ⟨rfl, rfl⟩ := hCall
    rw [mmJpegQueueGetSize, hRep.size]
    exact ⟨rfl, hRep⟩

theorem call_returns (hRep : queue.Represents head items) (hFlush : op = .flush → items = []) :
    ∃ out queue', JpegQueueCall head queue op out queue' := by
  cases op with
  | flush =>
    cases hFlush rfl
    exact ⟨_, _, 0, rfl, flush_represents hRep⟩
  | _ => exact ⟨_, _, rfl, rfl⟩

theorem run_represents (hLive : queue.nodes.live = [])
    (run : Lib.Steps (JpegQueueCall head) (JpegMallocs head) (mmJpegQueueInit queue head) ops outs
      queue') :
    outs = (listCalls ops).1 ∧ queue'.Represents head (listCalls ops).2 := by
  refine run.history (I := fun ops outs queue' =>
    outs = (listCalls ops).1 ∧ queue'.Represents head (listCalls ops).2) ?_ ?_
  · exact ⟨rfl, init_represents hLive⟩
  · intro ops outs q op out q' hMalloc hBefore hCall
    obtain ⟨hOuts, hRep⟩ := hBefore
    obtain ⟨hOut, hRep'⟩ := call_represents hRep hMalloc hCall
    rw [listCalls_append, hOuts, hOut]
    exact ⟨rfl, hRep'⟩

/-- Every call returns as it does on the list, but for a flush of a queue with nodes: that one does
not return. -/
theorem queue_refines_list (hLive : queue.nodes.live = [])
    (run : Lib.Steps (JpegQueueCall head) (JpegMallocs head) (mmJpegQueueInit queue head) ops outs
      queue') :
    outs = (listCalls ops).1 ∧ queue'.Represents head (listCalls ops).2 ∧
      ∀ op, queue'.nodes.Malloc head op.node →
        ((∃ q, JpegQueueCall head queue' op [(listCall (listCalls ops).2 op).1] q ∧
          q.Represents head (listCall (listCalls ops).2 op).2) ↔
            (op = .flush → (listCalls ops).2 = [])) := by
  obtain ⟨hOuts, hRep⟩ := run_represents hLive run
  refine ⟨hOuts, hRep, ?_⟩
  intro op hMalloc
  constructor
  · rintro ⟨q, hCall, -⟩ rfl
    obtain ⟨rc, -, hFlush⟩ := hCall
    exact (flush_empty hRep hFlush).1
  · intro hFlush
    obtain ⟨out, q, hCall⟩ := call_returns hRep hFlush
    obtain ⟨rfl, hRep'⟩ := call_represents hRep hMalloc hCall
    exact ⟨q, hCall, hRep'⟩

/-- Queue memory with nothing in it; the head is at address 0. -/
def noNodes : MmJpegQueue Nat Nat where
  nodes := { list := { next := id, prev := id }, data := fun _ => 0, live := [], freed := [] }
  size := 0

theorem enq_run (a d : Nat) (hNe : a ≠ 0) :
    Lib.Steps (JpegQueueCall 0) (JpegMallocs 0) (mmJpegQueueInit noNodes 0) [.enq (some a) d]
      [.rc 0] (mmJpegQueueEnq (mmJpegQueueInit noNodes 0) 0 (some a) d).2 := by
  have hStart : Lib.Steps (JpegQueueCall 0) (JpegMallocs 0) (mmJpegQueueInit noNodes 0) [] []
      (mmJpegQueueInit noNodes 0) := .start
  refine hStart.step ?_ ⟨rfl, rfl⟩
  rintro b ⟨⟩
  exact ⟨hNe, by simp [mmJpegQueueInit, noNodes, QueueNodes.relink]⟩

/-- A flush of one node. -/
theorem flush_of_one_spins :
    ∃ queue : MmJpegQueue Nat Nat,
      Lib.Steps (JpegQueueCall 0) (JpegMallocs 0) (mmJpegQueueInit noNodes 0) [.enq (some 1) 5]
        [.rc 0] queue ∧ ∀ out q, ¬ JpegQueueCall 0 queue .flush out q := by
  refine ⟨_, enq_run 1 5 (by decide), ?_⟩
  rintro out q ⟨rc, -, r, hExits, -, -⟩
  refine flush_spins ?_ r hExits
  decide

theorem queue_refines_list_enq :
    ([.rc 0] : List (JpegQueueResult Nat)) =
        (listCalls ([.enq (some 1) 5] : List (JpegQueueOp Nat Nat))).1 ∧
      (mmJpegQueueEnq (mmJpegQueueInit noNodes 0) 0 (some 1) 5).2.Represents 0
        (listCalls ([.enq (some 1) 5] : List (JpegQueueOp Nat Nat))).2 := by
  have hLive : noNodes.nodes.live = [] := rfl
  obtain ⟨hOuts, hRep, -⟩ := queue_refines_list hLive (enq_run 1 5 (by decide))
  exact ⟨hOuts, hRep⟩

end Queue

end KiwiDevice.Jpeg

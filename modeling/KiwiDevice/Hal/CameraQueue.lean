import KiwiDevice.Camera.CamList
import KiwiDevice.Lib.Loop

/-!
# The queue of the camera HAL

`QCameraQueue` against the list it stands for. `enqueueWithPriority` links its node by hand, the
other calls use the helpers of the list. The flushes step to the next node before they take one out.
-/

namespace KiwiDevice.Hal

open Camera
open Lib.Loop (Exits)

universe u v w x

/-- With the calls of the release function and of `free` so far. Of the release function it matters
whether there is one. -/
structure CameraQueue (A : Type u) (D : Type v) (U : Type w) where
  nodes : QueueNodes A D
  mSize : BitVec 32
  mDataFn : Bool
  mUserData : U
  dataFnCalls : List (D × U)
  freedData : List D

/-- The local state of the loops of the flushes. -/
structure CameraFlush (A : Type u) (D : Type v) (U : Type w) where
  queue : CameraQueue A D U
  pos : A

namespace CameraQueue

variable {A : Type u} {D : Type v} {U : Type w} {M : Type x} {q q' : CameraQueue A D U}
  {head a : A} {xs ys nodes : List A} {data : D} {items : List D} {userData : U}
  {dataRelFn : Bool}

/-- The queue is made of the nodes, and its size counts them. -/
structure Linked (q : CameraQueue A D U) (head : A) (nodes : List A) : Prop where
  holds : q.nodes.Holds head nodes
  size : q.mSize = BitVec.ofNat 32 nodes.length

structure Represents (q : CameraQueue A D U) (head : A) (items : List D) : Prop where
  contents : q.nodes.Contents head items
  size : q.mSize = BitVec.ofNat 32 items.length

/-- The release function was called with the data that were freed, if there is one. -/
structure Released (q : CameraQueue A D U) (dataRelFn : Bool) (userData : U) :
    Prop where
  dataFn : q.mDataFn = dataRelFn
  user : q.mUserData = userData
  calls : q.dataFnCalls = if dataRelFn then q.freedData.map fun data => (data, userData) else []

theorem represents_iff :
    q.Represents head items ↔ ∃ nodes, q.Linked head nodes ∧ nodes.map q.nodes.data = items := by
  constructor
  · rintro ⟨⟨nodes, hHolds, rfl⟩, hSize⟩
    rw [List.length_map] at hSize
    exact ⟨nodes, ⟨hHolds, hSize⟩, rfl⟩
  · rintro ⟨nodes, ⟨hHolds, hSize⟩, rfl⟩
    rw [← List.length_map q.nodes.data] at hSize
    exact ⟨⟨nodes, hHolds, rfl⟩, hSize⟩

variable [DecidableEq A]

/-- The constructors; the one without arguments has no release function. -/
def qCameraQueue (memory : QueueNodes A D) (head : A) (dataRelFn : Bool) (userData : U) :
    CameraQueue A D U where
  nodes := memory.relink fun l => camListInit l head
  mSize := 0
  mDataFn := dataRelFn
  mUserData := userData
  dataFnCalls := []
  freedData := []

def enqueue (q : CameraQueue A D U) (head : A) (node : Option A) (data : D) :
    Bool × CameraQueue A D U :=
  match node with
  | none => (false, q)
  | some node =>
    (true,
      { q with
        nodes := (q.nodes.new node data).relink fun l => camListAddTailNode l node head
        mSize := q.mSize + 1 })

/-- The links of `enqueueWithPriority`. -/
def linkFirst (head node : A) (l : Lib.Links A) : Lib.Links A :=
  let pNext := l.next head
  (((l.setNext head node).setPrev pNext node).setNext node pNext).setPrev node head

def enqueueWithPriority (q : CameraQueue A D U) (head : A) (node : Option A) (data : D) :
    Bool × CameraQueue A D U :=
  match node with
  | none => (false, q)
  | some node =>
    (true,
      { q with
        nodes := (q.nodes.new node data).relink (linkFirst head node)
        mSize := q.mSize + 1 })

theorem linkFirst_eq (hNe : a ≠ head) (l : Lib.Links A) :
    linkFirst head a l = l.insertBetween head a (l.next head) := by
  ext b
  · simp [linkFirst, Lib.Links.insertBetween, Lib.Links.setNext, Lib.Links.setPrev,
      Function.update_comm hNe]
  · simp [linkFirst, Lib.Links.insertBetween, Lib.Links.setNext, Lib.Links.setPrev]

theorem enqueue_represents (hRep : q.Represents head items)
    (hMalloc : q.nodes.Malloc head (some a)) :
    (q.enqueue head (some a) data).2.Represents head (items ++ [data]) := by
  constructor
  · exact hRep.contents.add_tail hMalloc
  · simp [enqueue, hRep.size, BitVec.ofNat_add]

theorem enqueueWithPriority_represents (hRep : q.Represents head items)
    (hMalloc : q.nodes.Malloc head (some a)) :
    (q.enqueueWithPriority head (some a) data).2.Represents head (data :: items) := by
  constructor
  · exact hRep.contents.insert_first hMalloc data
      (linkFirst_eq (hRep.contents.next_head_fresh hMalloc).1 _)
  · simp [enqueueWithPriority, hRep.size, BitVec.ofNat_add]

variable [Zero D]

def dequeue (q : CameraQueue A D U) (head : A) (bFromHead : Bool) : D × CameraQueue A D U :=
  let pos := if bFromHead then q.nodes.list.next head else q.nodes.list.prev head
  if pos ≠ head then
    let nodes := q.nodes.relink fun l => camListDelNode l pos
    (nodes.data pos, { q with nodes := nodes.free pos, mSize := q.mSize - 1 })
  else
    (0, q)

theorem dequeue_eq (bFromHead : Bool) (pos : A)
    (hPos : (if bFromHead then q.nodes.list.next head else q.nodes.list.prev head) = pos)
    (hNe : pos ≠ head) :
    q.dequeue head bFromHead =
      (q.nodes.data pos,
        { q with
          nodes := (q.nodes.relink fun l => camListDelNode l pos).free pos
          mSize := q.mSize - 1 }) := by
  simp only [dequeue, hPos]
  exact if_pos hNe

theorem dequeue_first (hRep : q.Represents head items) :
    (q.dequeue head true).1 = items.headD 0 ∧
      (q.dequeue head true).2.Represents head items.tail := by
  cases items with
  | nil =>
    have hNext := hRep.contents.next_head
    simp only [dequeue, hNext]
    exact ⟨by simp, by simpa using hRep⟩
  | cons data items =>
    obtain ⟨hNe, hData, hContents⟩ := hRep.contents.delete_first
    rw [dequeue_eq true _ rfl hNe]
    constructor
    · exact hData
    · constructor
      · exact hContents
      · simp [hRep.size, BitVec.ofNat_add, BitVec.add_sub_cancel]

theorem dequeue_last (hRep : q.Represents head items) :
    (q.dequeue head false).1 = items.getLastD 0 ∧
      (q.dequeue head false).2.Represents head items.dropLast := by
  induction items using List.reverseRecOn with
  | nil =>
    have hPrev := hRep.contents.prev_head
    simp only [dequeue, hPrev]
    exact ⟨by simp, by simpa using hRep⟩
  | append_singleton items data _ =>
    obtain ⟨hNe, hData, hContents⟩ := hRep.contents.delete_last
    rw [dequeue_eq false _ rfl hNe, List.getLastD_concat, List.dropLast_concat]
    constructor
    · exact hData
    · constructor
      · exact hContents
      · simp [hRep.size, BitVec.ofNat_add, BitVec.add_sub_cancel]

theorem dequeue_kept (bFromHead : Bool) (hReleased : q.Released dataRelFn userData) :
    (q.dequeue head bFromHead).2.Released dataRelFn userData ∧
      (q.dequeue head bFromHead).2.freedData = q.freedData := by
  rw [dequeue]
  generalize (if bFromHead then q.nodes.list.next head else q.nodes.list.prev head) = pos
  dsimp only
  split
  · exact ⟨⟨hReleased.dataFn, hReleased.user, hReleased.calls⟩, rfl⟩
  · exact ⟨hReleased, rfl⟩

variable [DecidableEq D]

/-- A node is taken out, its data released and freed, and then the node. -/
def drop (q : CameraQueue A D U) (node : A) : CameraQueue A D U :=
  let nodes := q.nodes.relink fun l => camListDelNode l node
  let data := nodes.data node
  { q with
    nodes := nodes.free node
    mSize := q.mSize - 1
    dataFnCalls :=
      if data ≠ 0 ∧ q.mDataFn then q.dataFnCalls ++ [(data, q.mUserData)] else q.dataFnCalls
    freedData := if data ≠ 0 then q.freedData ++ [data] else q.freedData }

def flushPass (head : A) (f : CameraFlush A D U) : Option (CameraFlush A D U) :=
  if f.pos ≠ head then
    some { queue := f.queue.drop f.pos, pos := f.queue.nodes.list.next f.pos }
  else
    none

def Flush (q : CameraQueue A D U) (head : A) (q' : CameraQueue A D U) : Prop :=
  ∃ r, Exits (flushPass head) ⟨q, q.nodes.list.next head⟩ r ∧ q' = { r.queue with mSize := 0 }

def flushNodesPass (head : A) (isMatch : D → Bool) (f : CameraFlush A D U) :
    Option (CameraFlush A D U) :=
  if f.pos ≠ head then
    some
      { queue := if isMatch (f.queue.nodes.data f.pos) then f.queue.drop f.pos else f.queue
        pos := f.queue.nodes.list.next f.pos }
  else
    none

/-- The body of both overloads, after the check of the match function. -/
def FlushMatching (q : CameraQueue A D U) (head : A) (isMatch : D → Bool)
    (q' : CameraQueue A D U) : Prop :=
  ∃ r, Exits (flushNodesPass head isMatch) ⟨q, q.nodes.list.next head⟩ r ∧ q' = r.queue

def FlushNodes (q : CameraQueue A D U) (head : A) (match? : Option (D → U → Bool))
    (q' : CameraQueue A D U) : Prop :=
  match match? with
  | none => q' = q
  | some f => q.FlushMatching head (fun data => f data q.mUserData) q'

def FlushNodesData (q : CameraQueue A D U) (head : A) (match? : Option (D → U → M → Bool))
    (matchData : M) (q' : CameraQueue A D U) : Prop :=
  match match? with
  | none => q' = q
  | some f => q.FlushMatching head (fun data => f data q.mUserData matchData) q'

@[simp] theorem drop_data : (q.drop a).nodes.data = q.nodes.data := rfl

theorem drop_linked (hLinked : q.Linked head (xs ++ a :: ys)) :
    (q.drop a).Linked head (xs ++ ys) := by
  constructor
  · exact hLinked.holds.delete
  · simp [drop, hLinked.size, BitVec.ofNat_add, ← BitVec.add_assoc, BitVec.add_sub_cancel]

theorem drop_freedData (hNull : q.nodes.data a ≠ 0) :
    (q.drop a).freedData = q.freedData ++ [q.nodes.data a] :=
  if_pos hNull

theorem drop_released (hReleased : q.Released dataRelFn userData) :
    (q.drop a).Released dataRelFn userData := by
  constructor
  · exact hReleased.dataFn
  · exact hReleased.user
  · have hCalls := hReleased.calls
    simp only [drop, QueueNodes.relink, hReleased.dataFn, hReleased.user]
    by_cases hNull : q.nodes.data a = 0
    · simpa [hNull] using hCalls
    · cases dataRelFn
      · simpa using hCalls
      · simpa [hNull] using hCalls

theorem flushPass_eq : flushPass head = flushNodesPass (D := D) (U := U) head fun _ => true := by
  funext f
  simp [flushPass, flushNodesPass]

/-- From the node after the kept ones `xs` to the end. -/
theorem flushNodes_exits (isMatch : D → Bool) (hLinked : q.Linked head (xs ++ ys))
    (hNull : 0 ∉ ys.map q.nodes.data) :
    ∃ r, Exits (flushNodesPass head isMatch) ⟨q, ys.headD head⟩ r ∧
      r.queue.Linked head (xs ++ ys.filter fun a => !isMatch (q.nodes.data a)) ∧
      r.queue.nodes.data = q.nodes.data ∧
      r.queue.freedData = q.freedData ++ (ys.map q.nodes.data).filter isMatch := by
  induction ys generalizing xs q with
  | nil =>
    refine ⟨_, .done ?_, by simpa using hLinked, rfl, by simp⟩
    simp [flushNodesPass]
  | cons a ys ih =>
    have hHead : a ≠ head := by
      have hNodup := hLinked.holds.ring.nodup
      grind
    have hNext := hLinked.holds.ring.next
    rw [List.map_cons, List.mem_cons, not_or] at hNull
    cases hMatch : isMatch (q.nodes.data a) with
    | true =>
      obtain ⟨r, hExits, hLinked', hData, hFreed⟩ := ih (drop_linked hLinked) hNull.2
      refine ⟨r, .next ?_ hExits, ?_, hData, ?_⟩
      · simp [flushNodesPass, hHead, hMatch, hNext]
      · simpa [hMatch] using hLinked'
      · rw [hFreed, drop_freedData (Ne.symm hNull.1)]
        simp [hMatch]
    | false =>
      rw [← List.singleton_append, ← List.append_assoc] at hLinked
      obtain ⟨r, hExits, hLinked', hData, hFreed⟩ := ih hLinked hNull.2
      refine ⟨r, .next ?_ hExits, ?_, hData, ?_⟩
      · simp [flushNodesPass, hHead, hMatch, hNext]
      · simpa [hMatch] using hLinked'
      · simpa [hMatch] using hFreed

theorem flushNodesPass_released {isMatch : D → Bool} {f f' : CameraFlush A D U}
    (hReleased : f.queue.Released dataRelFn userData)
    (hPass : flushNodesPass head isMatch f = some f') :
    f'.queue.Released dataRelFn userData := by
  rw [flushNodesPass] at hPass
  split at hPass
  · cases hPass
    split
    · exact drop_released hReleased
    · exact hReleased
  · cases hPass

/-- The one loop of all flushes. -/
theorem flushMatching_spec (isMatch : D → Bool) (hRep : q.Represents head items)
    (hNull : 0 ∉ items) (hReleased : q.Released dataRelFn userData) :
    ∃ r, Exits (flushNodesPass head isMatch) ⟨q, q.nodes.list.next head⟩ r ∧
      r.queue.Represents head (items.filter fun data => !isMatch data) ∧
      r.queue.Released dataRelFn userData ∧
      r.queue.freedData = q.freedData ++ items.filter isMatch := by
  obtain ⟨nodes, hLinked, rfl⟩ := represents_iff.mp hRep
  rw [hLinked.holds.ring.next_sentinel]
  have hAll : q.Linked head ([] ++ nodes) := hLinked
  obtain ⟨r, hExits, hLinked', hData, hFreed⟩ := flushNodes_exits isMatch hAll hNull
  refine ⟨r, hExits, ?_, ?_, hFreed⟩
  · refine represents_iff.mpr ⟨_, hLinked', ?_⟩
    rw [hData, List.nil_append, List.filter_map]
    rfl
  · exact hExits.invariant (fun f => f.queue.Released dataRelFn userData)
      (fun f f' hBefore hPass => flushNodesPass_released hBefore hPass) hReleased

/-- What the queue and its logs are after a call on `items`. -/
structure After (q q' : CameraQueue A D U) (head : A) (items flushed : List D)
    (dataRelFn : Bool) (userData : U) : Prop where
  represents : q'.Represents head items
  released : q'.Released dataRelFn userData
  freedData : q'.freedData = q.freedData ++ flushed

theorem flushMatching_after (isMatch : D → Bool) (hRep : q.Represents head items)
    (hNull : 0 ∉ items) (hReleased : q.Released dataRelFn userData)
    (hFlush : q.FlushMatching head isMatch q') :
    q.After q' head (items.filter fun data => !isMatch data) (items.filter isMatch) dataRelFn
      userData := by
  obtain ⟨r, hExits, hRep', hReleased', hFreed⟩ := flushMatching_spec isMatch hRep hNull hReleased
  obtain ⟨r', hExits', rfl⟩ := hFlush
  cases hExits.unique hExits'
  exact ⟨hRep', hReleased', hFreed⟩

theorem flush_after (hRep : q.Represents head items) (hNull : 0 ∉ items)
    (hReleased : q.Released dataRelFn userData) (hFlush : q.Flush head q') :
    q.After q' head [] items dataRelFn userData := by
  obtain ⟨r, hExits, rfl⟩ := hFlush
  rw [flushPass_eq] at hExits
  obtain ⟨hRep', hReleased', hFreed⟩ :=
    flushMatching_after _ hRep hNull hReleased ⟨r, hExits, rfl⟩
  constructor
  · constructor
    · simpa using hRep'.contents
    · rfl
  · constructor
    · exact hReleased'.dataFn
    · exact hReleased'.user
    · exact hReleased'.calls
  · simpa using hFreed

theorem flushMatching_returns (isMatch : D → Bool) (hRep : q.Represents head items)
    (hNull : 0 ∉ items) (hReleased : q.Released dataRelFn userData) :
    ∃ q', q.FlushMatching head isMatch q' := by
  obtain ⟨r, hExits, -⟩ := flushMatching_spec isMatch hRep hNull hReleased
  exact ⟨r.queue, r, hExits, rfl⟩

theorem flush_returns (hRep : q.Represents head items) (hNull : 0 ∉ items)
    (hReleased : q.Released dataRelFn userData) : ∃ q', q.Flush head q' := by
  obtain ⟨r, hExits, -⟩ := flushMatching_spec (fun _ => true) hRep hNull hReleased
  rw [← flushPass_eq] at hExits
  exact ⟨_, r, hExits, rfl⟩

end CameraQueue

end KiwiDevice.Hal

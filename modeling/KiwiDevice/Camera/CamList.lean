import KiwiDevice.Lib.CircularList

/-!
# Nodes of the queues

The helpers of `cam_list.h`, and the nodes of a queue whose lists they link: what `malloc`, the
helpers and `free` do to the nodes that are linked from the head. `free` leaves the node as it is.
-/

namespace KiwiDevice.Camera

open Lib (Links)

universe u v

section CamList

variable {A : Type u} [DecidableEq A]

def camListInit (l : Links A) (ptr : A) : Links A := (l.setNext ptr ptr).setPrev ptr ptr

def camListAddTailNode (l : Links A) (item head : A) : Links A :=
  let prev := l.prev head
  (((l.setPrev head item).setNext item head).setPrev item prev).setNext prev item

def camListInsertBeforeNode (l : Links A) (item node : A) : Links A :=
  let l₁ := l.setNext item node
  let l₂ := l₁.setPrev item (l₁.prev node)
  let l₃ := l₂.setNext (l₂.prev item) item
  l₃.setPrev node item

def camListDelNode (l : Links A) (ptr : A) : Links A :=
  let prev := l.prev ptr
  let next := l.next ptr
  let l₁ := l.setPrev next (l.prev ptr)
  let l₂ := l₁.setNext prev (l₁.next ptr)
  (l₂.setNext ptr ptr).setPrev ptr ptr

variable {l : Links A} {item head node ptr : A}

theorem camListInit_ring : (camListInit l ptr).Ring ptr [] := by
  constructor
  · simp
  · simp [Links.Linked, camListInit, Links.setNext, Links.setPrev]

theorem camListAddTailNode_eq :
    camListAddTailNode l item head = l.insertBetween (l.prev head) item head := rfl

theorem camListInsertBeforeNode_eq (hNe : item ≠ node) :
    camListInsertBeforeNode l item node = l.insertBetween (l.prev node) item node := by
  ext a
  · simp [camListInsertBeforeNode, Links.insertBetween, Links.setNext, Links.setPrev]
  · simp [camListInsertBeforeNode, Links.insertBetween, Links.setNext, Links.setPrev,
      Function.update_comm hNe]

theorem camListDelNode_eq : camListDelNode l ptr = l.unlink ptr := rfl

end CamList

/-- The nodes that were allocated and are not freed, and those that were freed. -/
structure QueueNodes (A : Type u) (D : Type v) where
  list : Links A
  data : A → D
  live : List A
  freed : List A

namespace QueueNodes

variable {A : Type u} {D : Type v} {q : QueueNodes A D} {head a : A} {nodes xs ys : List A}
  {items : List D}

/-- `malloc` gives a node that is in use nowhere. -/
def Malloc (q : QueueNodes A D) (head : A) (node : Option A) : Prop :=
  ∀ a, node = some a → a ≠ head ∧ a ∉ q.live

/-- The nodes linked from the head, in order. -/
structure Holds (q : QueueNodes A D) (head : A) (nodes : List A) : Prop where
  ring : q.list.Ring head nodes
  live : q.live.Perm nodes

/-- The data of the linked nodes, in order. -/
def Contents (q : QueueNodes A D) (head : A) (items : List D) : Prop :=
  ∃ nodes, q.Holds head nodes ∧ nodes.map q.data = items

theorem Holds.fresh (hHolds : q.Holds head nodes) (hMalloc : q.Malloc head (some a)) :
    a ∉ head :: nodes := by
  obtain ⟨hHead, hLive⟩ := hMalloc a rfl
  rw [hHolds.live.mem_iff] at hLive
  simp [hHead, hLive]

theorem Holds.next_head_ne (hHolds : q.Holds head (a :: nodes)) :
    q.list.next head = a ∧ a ≠ head := by
  have hNodup := hHolds.ring.nodup
  refine ⟨(hHolds.ring.next_first rfl).1, ?_⟩
  grind

theorem Holds.next_head (hHolds : q.Holds head []) : q.list.next head = head :=
  (hHolds.ring.next_first rfl).1

theorem Holds.prev_head_ne (hHolds : q.Holds head (nodes ++ [a])) :
    q.list.prev head = a ∧ a ≠ head := by
  have hNodup := hHolds.ring.nodup
  refine ⟨(hHolds.ring.prev_last (head :: nodes) rfl).2, ?_⟩
  grind

theorem Holds.prev_head (hHolds : q.Holds head []) : q.list.prev head = head :=
  (hHolds.ring.prev_last [] rfl).2

/-- A new node is neither the head nor the node after it, which is linked back to the head. -/
theorem Contents.next_head_fresh (hContents : q.Contents head items)
    (hMalloc : q.Malloc head (some a)) :
    a ≠ head ∧ a ≠ q.list.next head ∧ q.list.prev (q.list.next head) = head := by
  obtain ⟨nodes, hHolds, -⟩ := hContents
  have hFresh := hHolds.fresh hMalloc
  obtain ⟨first, back, hFirst⟩ := Links.exists_first nodes head
  obtain ⟨hNext, hPrev⟩ := hHolds.ring.next_first hFirst
  have hMem : first ∈ nodes ++ [head] := by
    rw [hFirst]
    exact List.mem_cons_self
  rw [hNext]
  refine ⟨?_, ?_, hPrev⟩
  · rintro rfl
    exact hFresh List.mem_cons_self
  · rintro rfl
    grind

theorem Contents.next_head (hContents : q.Contents head []) : q.list.next head = head := by
  obtain ⟨nodes, hHolds, hMap⟩ := hContents
  rw [List.map_eq_nil_iff.mp hMap] at hHolds
  exact hHolds.next_head

theorem Contents.prev_head (hContents : q.Contents head []) : q.list.prev head = head := by
  obtain ⟨nodes, hHolds, hMap⟩ := hContents
  rw [List.map_eq_nil_iff.mp hMap] at hHolds
  exact hHolds.prev_head

variable [DecidableEq A] {data : D}

def new (q : QueueNodes A D) (node : A) (data : D) : QueueNodes A D :=
  { q with data := Function.update q.data node data, live := node :: q.live }

def free (q : QueueNodes A D) (node : A) : QueueNodes A D :=
  { q with live := q.live.erase node, freed := q.freed ++ [node] }

def relink (q : QueueNodes A D) (f : Links A → Links A) : QueueNodes A D :=
  { q with list := f q.list }

theorem Holds.map_new (hHolds : q.Holds head nodes) (hMalloc : q.Malloc head (some a))
    (data : D) :
    nodes.map (q.new a data).data = nodes.map q.data := by
  have hFresh := hHolds.fresh hMalloc
  apply List.map_congr_left
  intro b hMem
  have hNe : b ≠ a := by
    rintro rfl
    exact hFresh (List.mem_cons_of_mem _ hMem)
  simp [new, hNe]

theorem Holds.add_tail (hHolds : q.Holds head nodes) (hMalloc : q.Malloc head (some a)) :
    ((q.new a data).relink fun l => camListAddTailNode l a head).Holds head (nodes ++ [a]) := by
  have hFresh := hHolds.fresh hMalloc
  obtain ⟨front, last, hLast⟩ := Links.exists_last head nodes
  have hPlace : Links.Place head nodes [] front [] last head :=
    ⟨hLast, rfl, by simpa using hHolds.ring.nodup⟩
  constructor
  · rw [relink, camListAddTailNode_eq]
    simp only [new]
    rw [(hHolds.ring.prev_last front hLast).2]
    exact Links.Ring.insert (by simpa using hHolds.ring) (by simpa using hFresh) hPlace
  · simp only [relink, new]
    exact (hHolds.live.cons a).trans (List.perm_append_singleton a nodes).symm

/-- Between the head and the first node. -/
theorem Holds.insert_first (hHolds : q.Holds head nodes) (hMalloc : q.Malloc head (some a))
    {f : Links A → Links A} (hEq : f q.list = q.list.insertBetween head a (q.list.next head)) :
    ((q.new a data).relink f).Holds head (a :: nodes) := by
  have hFresh := hHolds.fresh hMalloc
  obtain ⟨first, back, hFirst⟩ := Links.exists_first nodes head
  have hPlace : Links.Place head [] nodes [] back head first :=
    ⟨rfl, hFirst, by simpa using hHolds.ring.nodup⟩
  constructor
  · simp only [relink, new]
    rw [hEq, (hHolds.ring.next_first hFirst).1]
    have hRing : q.list.Ring head ([] ++ nodes) := hHolds.ring
    exact hRing.insert hFresh hPlace
  · exact hHolds.live.cons a

/-- A node is taken out and freed. -/
theorem Holds.delete (hHolds : q.Holds head (xs ++ a :: ys)) :
    ((q.relink fun l => camListDelNode l a).free a).Holds head (xs ++ ys) := by
  constructor
  · rw [free, relink, camListDelNode_eq]
    exact hHolds.ring.unlink
  · have hNodup : a ∉ xs := by
      have hNodup := hHolds.ring.nodup
      grind
    simp only [free, relink]
    have hPerm := hHolds.live.erase a
    rwa [List.erase_append_right _ hNodup, List.erase_cons_head] at hPerm

theorem Contents.add_tail (hContents : q.Contents head items)
    (hMalloc : q.Malloc head (some a)) :
    ((q.new a data).relink fun l => camListAddTailNode l a head).Contents head
      (items ++ [data]) := by
  obtain ⟨nodes, hHolds, rfl⟩ := hContents
  refine ⟨nodes ++ [a], hHolds.add_tail hMalloc, ?_⟩
  have hMap := hHolds.map_new hMalloc data
  rw [List.map_append]
  simpa [relink, new] using hMap

theorem Contents.insert_first (hContents : q.Contents head items)
    (hMalloc : q.Malloc head (some a)) (data : D) {f : Links A → Links A}
    (hEq : f q.list = q.list.insertBetween head a (q.list.next head)) :
    ((q.new a data).relink f).Contents head (data :: items) := by
  obtain ⟨nodes, hHolds, rfl⟩ := hContents
  refine ⟨a :: nodes, hHolds.insert_first hMalloc hEq, ?_⟩
  have hMap := hHolds.map_new hMalloc data
  rw [List.map_cons]
  simpa [relink, new] using hMap

theorem Contents.delete_first (hContents : q.Contents head (data :: items)) :
    q.list.next head ≠ head ∧ q.data (q.list.next head) = data ∧
      ((q.relink fun l => camListDelNode l (q.list.next head)).free (q.list.next head)).Contents
        head items := by
  obtain ⟨nodes, hHolds, hMap⟩ := hContents
  obtain ⟨a, nodes, rfl, hData, rfl⟩ := List.map_eq_cons_iff.mp hMap
  obtain ⟨hNext, hNe⟩ := hHolds.next_head_ne
  rw [hNext]
  have hFirst : q.Holds head ([] ++ a :: nodes) := hHolds
  exact ⟨hNe, hData, nodes, hFirst.delete, rfl⟩

theorem Contents.delete_last (hContents : q.Contents head (items ++ [data])) :
    q.list.prev head ≠ head ∧ q.data (q.list.prev head) = data ∧
      ((q.relink fun l => camListDelNode l (q.list.prev head)).free (q.list.prev head)).Contents
        head items := by
  obtain ⟨nodes, hHolds, hMap⟩ := hContents
  obtain ⟨nodes, last, rfl, rfl, hLast⟩ := List.map_eq_append_iff.mp hMap
  obtain ⟨a, rfl, hData⟩ := List.map_eq_singleton_iff.mp hLast
  obtain ⟨hPrev, hNe⟩ := hHolds.prev_head_ne
  rw [hPrev]
  refine ⟨hNe, hData, nodes, ?_, rfl⟩
  have hLast : q.Holds head (nodes ++ a :: []) := hHolds
  simpa using hLast.delete

end QueueNodes

end KiwiDevice.Camera

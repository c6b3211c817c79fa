import KiwiDevice.Camera.Types
import KiwiDevice.Lib.Loop

/-!
# The superbuf queue

The queue operations of `mm_camera_channel.c` that take superbufs off the list: the internal
dequeue, the two trimming loops and the two flushes. `Moves` collects everything these can do to a
queue; what is proved of one move is then proved of all of them.
-/

namespace KiwiDevice.Camera

open Lib

namespace QueueNode

/-- `mm_channel_qbuf` for every entry with `NULL != buf`. -/
def releaseBufs (node : QueueNode) : List Event :=
  node.superBuf.filterMap fun s => s.buf.map fun b => .qbuf (some b)

/-- `mm_channel_qbuf` for every entry with `frame_idx != 0`. -/
def releaseFilled (node : QueueNode) : List Event :=
  (node.superBuf.filter fun s => s.frameIdx ≠ 0).map fun s => .qbuf s.buf

/-- The release of `mm_channel_superbuf_flush`: every type for `default`, else one type only. -/
def releaseType (camType : CamStreamType) (node : QueueNode) : List Event :=
  node.superBuf.filterMap fun s =>
    match s.buf with
    | some b => if .default = camType ∨ camType = b.streamType then some (.qbuf (some b)) else none
    | none => none

theorem releaseBufs_noFlush (node : QueueNode) : .flush ∉ node.releaseBufs := by
  simp [releaseBufs]

theorem releaseFilled_noFlush (node : QueueNode) : .flush ∉ node.releaseFilled := by
  simp [releaseFilled]

theorem releaseType_noFlush (camType : CamStreamType) (node : QueueNode) :
    .flush ∉ node.releaseType camType := by
  intro hMem
  obtain ⟨s, _, hs⟩ := List.mem_filterMap.mp hMem
  split at hs
  · split at hs <;> cases hs
  · cases hs

theorem releaseType_default (node : QueueNode) : node.releaseType .default = node.releaseBufs := by
  unfold releaseType releaseBufs
  congr 1
  funext s
  cases s.buf <;> simp

end QueueNode

namespace ChannelQueue

def numStreams (q : ChannelQueue) : Nat := q.bundledStreams.length

/-- The queue without its first node. -/
def removeHead (q : ChannelQueue) (superBuf : QueueNode) (rest : List QueueNode) : ChannelQueue :=
  { q with
    nodes := rest
    size := sub32 q.size 1
    matchCnt := if superBuf.matched then sub32 q.matchCnt 1 else q.matchCnt }

/-- `mm_channel_superbuf_dequeue_internal`. -/
def superbufDequeueInternal (q : ChannelQueue) (matchedOnly : Bool) :
    Option QueueNode × ChannelQueue :=
  match q.nodes with
  | [] => (none, q)
  | superBuf :: rest =>
    if matchedOnly = true ∧ superBuf.matched = false then (none, q)
    else (some superBuf, q.removeHead superBuf rest)

/-- `mm_channel_superbuf_dequeue`. -/
def superbufDequeue (q : ChannelQueue) : Option QueueNode × ChannelQueue :=
  q.superbufDequeueInternal true

/-- The dequeue loop of the two flushes, for at most as many nodes as the bound says. -/
def drain (matchedOnly : Bool) (release : QueueNode → List Event) :
    Nat → ChannelQueue → ChannelQueue × List Event
  | 0, q => (q, [])
  | n + 1, q =>
    match q.superbufDequeueInternal matchedOnly with
    | (none, _) => (q, [])
    | (some superBuf, q') =>
      let rest := drain matchedOnly release n q'
      (rest.1, release superBuf ++ rest.2)

/-- `mm_channel_superbuf_flush`. -/
def superbufFlush (q : ChannelQueue) (camType : CamStreamType) : ChannelQueue × List Event :=
  let drained := drain false (QueueNode.releaseType camType) q.nodes.length q
  (drained.1, drained.2 ++ [.flush])

/-- `mm_channel_superbuf_flush_matched`. -/
def superbufFlushMatched (q : ChannelQueue) : ChannelQueue × List Event :=
  drain true QueueNode.releaseBufs q.nodes.length q

/-- One pass of `while (queue->match_cnt > limit)`, the loop of the overflow and of
the look-back. -/
def trimPass (limit : Nat) (s : ChannelQueue × List Event) : Option (ChannelQueue × List Event) :=
  if s.1.matchCnt > limit then
    match s.1.superbufDequeueInternal true with
    | (some superBuf, q') => some (q', s.2 ++ superBuf.releaseBufs)
    | (none, q') => some (q', s.2)
  else none

def superbufTrim (q : ChannelQueue) (limit : Nat) : Except Fault (ChannelQueue × List Event) :=
  if q.attr.notifyMode = .continuous then .ok (q, [])
  else
    match Loop.exec (trimPass limit) (q.nodes.length + 1) (q, []) with
    | some r => .ok r
    | none => .error .spin

/-- `mm_channel_superbuf_bufdone_overflow`. -/
def superbufBufdoneOverflow (q : ChannelQueue) : Except Fault (ChannelQueue × List Event) :=
  q.superbufTrim q.attr.waterMark.toNat

/-- `mm_channel_superbuf_skip`. -/
def superbufSkip (q : ChannelQueue) : Except Fault (ChannelQueue × List Event) :=
  q.superbufTrim q.attr.lookBack.toNat

@[simp] theorem removeHead_nodes (q : ChannelQueue) (n : QueueNode) (rest : List QueueNode) :
    (q.removeHead n rest).nodes = rest := rfl

@[simp] theorem removeHead_attr (q : ChannelQueue) (n : QueueNode) (rest : List QueueNode) :
    (q.removeHead n rest).attr = q.attr := rfl

@[simp] theorem removeHead_bundledStreams (q : ChannelQueue) (n : QueueNode)
    (rest : List QueueNode) : (q.removeHead n rest).bundledStreams = q.bundledStreams := rfl

@[simp] theorem removeHead_expectedFrameId (q : ChannelQueue) (n : QueueNode)
    (rest : List QueueNode) : (q.removeHead n rest).expectedFrameId = q.expectedFrameId := rfl

theorem superbufDequeueInternal_cases (q : ChannelQueue) (matchedOnly : Bool) :
    q.superbufDequeueInternal matchedOnly = (none, q) ∧
        (∀ n rest, q.nodes = n :: rest → matchedOnly = true ∧ n.matched = false) ∨
      ∃ n rest, q.nodes = n :: rest ∧ (matchedOnly = true → n.matched = true) ∧
        q.superbufDequeueInternal matchedOnly = (some n, q.removeHead n rest) := by
  unfold superbufDequeueInternal
  split
  · rename_i hNil
    exact .inl ⟨rfl, fun n rest h => by rw [hNil] at h; cases h⟩
  · rename_i n rest hCons
    split
    · rename_i hKeep
      refine .inl ⟨rfl, fun n' rest' h => ?_⟩
      rw [hCons] at h
      cases h
      exact hKeep
    · rename_i hTake
      refine .inr ⟨n, rest, hCons, fun hOnly => ?_, rfl⟩
      cases hM : n.matched with
      | true => rfl
      | false => exact absurd ⟨hOnly, hM⟩ hTake

/-- A pass that finds no matched head leaves the locals as they were: the loop then spins. -/
theorem trimPass_stuck {limit : Nat} {s : ChannelQueue × List Event} (hCnt : s.1.matchCnt > limit)
    (hHead : ∀ n rest, s.1.nodes = n :: rest → n.matched = false) :
    trimPass limit s = some s := by
  rw [trimPass, if_pos hCnt]
  rcases superbufDequeueInternal_cases s.1 true with ⟨hDeq, _⟩ | ⟨n, rest, hCons, hM, _⟩
  · rw [hDeq]
  · have hFalse := hHead n rest hCons
    rw [hM rfl] at hFalse
    cases hFalse

theorem trimPass_shrinks {limit : Nat} {s s' : ChannelQueue × List Event}
    (h : trimPass limit s = some s') : s' = s ∨ s'.1.nodes.length < s.1.nodes.length := by
  unfold trimPass at h
  split at h
  · rcases superbufDequeueInternal_cases s.1 true with ⟨hDeq, _⟩ | ⟨n, rest, hCons, _, hDeq⟩
    · rw [hDeq] at h
      cases h
      exact .inl rfl
    · rw [hDeq] at h
      cases h
      exact .inr (by simp [hCons])
  · cases h

/-- The trimming call reports `spin` exactly when its loop is never left. -/
theorem superbufTrim_spin_iff (q : ChannelQueue) (limit : Nat) :
    q.superbufTrim limit = .error .spin ↔
      q.attr.notifyMode ≠ .continuous ∧ Loop.Spins (trimPass limit) (q, []) := by
  unfold superbufTrim
  split
  · rename_i hMode
    simp [hMode]
  · rename_i hMode
    split
    · rename_i r hExec
      simp only [reduceCtorEq, false_iff, not_and]
      intro _ hSpins
      exact hSpins r (Loop.exec_exits hExec)
    · rename_i hExec
      simp only [true_iff]
      exact ⟨hMode, Loop.exec_none_spins (fun s => s.1.nodes.length)
        (fun _ _ h => trimPass_shrinks h) (Nat.lt_succ_self _) hExec⟩

end ChannelQueue

/-- Which allocations succeed while one command is handled; the callback nodes are numbered by the
passes of the dispatch loop. -/
structure Alloc where
  node : Bool
  cbNode : Nat → Bool
  cbEnq : Nat → Bool

def Alloc.succeeds : Alloc := ⟨true, fun _ => true, fun _ => true⟩

/-- The ways in which a superbuf leaves the head of the queue. -/
inductive Leaves (camType : CamStreamType) (alloc : Alloc) (n : QueueNode) : List Event → Prop where
  | released : Leaves camType alloc n n.releaseBufs
  | flushed : Leaves camType alloc n (n.releaseType camType)
  | dispatched (hM : n.matched = true) (zsl : List Event) (hz : ∀ e ∈ zsl, e = .stopZslSnapshot) :
      Leaves camType alloc n
        (.dequeued n.frameIdx :: (zsl ++ [.dispatch (n.superBuf.map Slot.buf)]))
  | returned (hM : n.matched = true) (zsl : List Event) (hz : ∀ e ∈ zsl, e = .stopZslSnapshot) :
      Leaves camType alloc n
        (.dequeued n.frameIdx :: (zsl ++ n.superBuf.map fun s => .qbuf s.buf))
  | lost (hM : n.matched = true) (zsl : List Event) (hz : ∀ e ∈ zsl, e = .stopZslSnapshot)
      (pass : Nat) (hEnq : alloc.cbEnq pass = false) :
      Leaves camType alloc n (.dequeued n.frameIdx :: zsl)

/-- The two queues hold the same superbufs under the same limits. -/
structure SameSuperbufs (q q' : ChannelQueue) : Prop where
  nodes : q'.nodes = q.nodes
  size : q'.size = q.size
  matchCnt : q'.matchCnt = q.matchCnt
  bundledStreams : q'.bundledStreams = q.bundledStreams
  maxUnmatchedFrames : q'.attr.maxUnmatchedFrames = q.attr.maxUnmatchedFrames
  postFrameSkip : q'.attr.postFrameSkip = q.attr.postFrameSkip

/-- Events that concern no superbuf. -/
def Event.isMark : Event → Prop
  | .startZslSnapshot | .stopZslSnapshot => True
  | _ => False

inductive Moves (camType : CamStreamType) (alloc : Alloc) :
    ChannelQueue → List Event → ChannelQueue → Prop where
  | retarget {q q' : ChannelQueue} (h : SameSuperbufs q q') : Moves camType alloc q [] q'
  | mark {q : ChannelQueue} {e : Event} (h : e.isMark) : Moves camType alloc q [e] q
  | flushed {q : ChannelQueue} (h : q.nodes = []) : Moves camType alloc q [.flush] q
  | leave {q : ChannelQueue} {n : QueueNode} {rest : List QueueNode} {es : List Event}
      (h : q.nodes = n :: rest) (hl : Leaves camType alloc n es) :
      Moves camType alloc q es (q.removeHead n rest)
  | trans {q q' q'' : ChannelQueue} {es es' : List Event} (h : Moves camType alloc q es q')
      (h' : Moves camType alloc q' es' q'') : Moves camType alloc q (es ++ es') q''

namespace Moves

variable {camType : CamStreamType} {alloc : Alloc}

theorem refl (q : ChannelQueue) : Moves camType alloc q [] q :=
  .retarget ⟨rfl, rfl, rfl, rfl, rfl, rfl⟩

end Moves

namespace ChannelQueue

variable {camType : CamStreamType} {alloc : Alloc}

theorem drain_moves (matchedOnly : Bool) (release : QueueNode → List Event)
    (hRelease : ∀ n, Leaves camType alloc n (release n)) (n : Nat) (q : ChannelQueue) :
    Moves camType alloc q (drain matchedOnly release n q).2 (drain matchedOnly release n q).1 := by
  induction n generalizing q with
  | zero => exact .refl q
  | succ n ih =>
    rw [drain]
    rcases q.superbufDequeueInternal_cases matchedOnly with ⟨hDeq, _⟩ | ⟨m, rest, hCons, _, hDeq⟩
    · rw [hDeq]
      exact .refl q
    · rw [hDeq]
      exact .trans (.leave hCons (hRelease m)) (ih _)

/-- The drain takes every node it may: afterwards the head is missing or not to be taken. -/
theorem drain_done (matchedOnly : Bool) (release : QueueNode → List Event) (n : Nat)
    (q : ChannelQueue) (hn : q.nodes.length ≤ n) :
    ∀ m rest, (drain matchedOnly release n q).1.nodes = m :: rest →
      matchedOnly = true ∧ m.matched = false := by
  induction n generalizing q with
  | zero =>
    intro m rest h
    have hNil : q.nodes = [] := List.length_eq_zero_iff.mp (Nat.le_zero.mp hn)
    rw [drain, hNil] at h
    cases h
  | succ n ih =>
    rw [drain]
    rcases q.superbufDequeueInternal_cases matchedOnly with ⟨hDeq, hStop⟩ | ⟨m, rest, hCons, _, hDeq⟩
    · rw [hDeq]
      exact hStop
    · rw [hDeq]
      have hLength : rest.length ≤ n := by
        rw [hCons, List.length_cons] at hn
        omega
      exact ih (q.removeHead m rest) hLength

theorem superbufFlush_nodes (q : ChannelQueue) (t : CamStreamType) :
    (q.superbufFlush t).1.nodes = [] := by
  cases h : (q.superbufFlush t).1.nodes with
  | nil => rfl
  | cons m rest => exact absurd (drain_done false _ _ q (Nat.le_refl _) m rest h).1 (by decide)

theorem superbufFlush_moves (q : ChannelQueue) :
    Moves camType alloc q (q.superbufFlush camType).2 (q.superbufFlush camType).1 :=
  (drain_moves false _ (fun _ => .flushed) q.nodes.length q).trans
    (.flushed (q.superbufFlush_nodes camType))

theorem superbufFlushMatched_moves (q : ChannelQueue) :
    Moves camType alloc q q.superbufFlushMatched.2 q.superbufFlushMatched.1 :=
  drain_moves true _ (fun _ => .released) q.nodes.length q

/-- What every superbuf that a trimming call takes off the head keeps, the call keeps. -/
theorem superbufTrim_invariant {P : ChannelQueue × List Event → Prop} {q : ChannelQueue}
    {limit : Nat} {r : ChannelQueue × List Event} (hStart : P (q, []))
    (hLeave : ∀ s n rest, P s → s.1.nodes = n :: rest →
      P (s.1.removeHead n rest, s.2 ++ n.releaseBufs))
    (h : q.superbufTrim limit = .ok r) : P r := by
  unfold superbufTrim at h
  split at h
  · cases h
    exact hStart
  · split at h
    · rename_i r' hExec
      cases h
      refine (Loop.exec_exits hExec).invariant P ?_ hStart
      intro s s' hs hPass
      unfold trimPass at hPass
      split at hPass
      · rcases superbufDequeueInternal_cases s.1 true with ⟨hDeq, _⟩ | ⟨n, rest, hCons, _, hDeq⟩
        · rw [hDeq] at hPass
          cases hPass
          exact hs
        · rw [hDeq] at hPass
          cases hPass
          exact hLeave s n rest hs hCons
      · cases hPass
    · cases h

theorem superbufTrim_limit {q : ChannelQueue} {limit : Nat} {r : ChannelQueue × List Event}
    (h : q.superbufTrim limit = .ok r) (hMode : q.attr.notifyMode ≠ .continuous) :
    r.1.matchCnt ≤ limit := by
  rw [superbufTrim, if_neg hMode] at h
  split at h
  · rename_i r' hExec
    cases h
    have hGuard := (Loop.exec_exits hExec).guard
    unfold trimPass at hGuard
    split at hGuard
    · split at hGuard <;> cases hGuard
    · omega
  · cases h

/-- A trimming call that returns has only taken superbufs off the head, and has brought the count
down to the limit unless the channel notifies continuously. -/
theorem superbufTrim_ok (camType : CamStreamType) (alloc : Alloc) {q : ChannelQueue} {limit : Nat}
    {r : ChannelQueue × List Event} (h : q.superbufTrim limit = .ok r) :
    Moves camType alloc q r.2 r.1 ∧ .flush ∉ r.2 ∧
      r.1.expectedFrameId = q.expectedFrameId ∧
      (q.attr.notifyMode ≠ .continuous → r.1.matchCnt ≤ limit) := by
  have hKept : Moves camType alloc q r.2 r.1 ∧ .flush ∉ r.2 ∧
      r.1.expectedFrameId = q.expectedFrameId := by
    refine superbufTrim_invariant (P := fun s => Moves camType alloc q s.2 s.1 ∧ .flush ∉ s.2 ∧
      s.1.expectedFrameId = q.expectedFrameId) ⟨.refl q, by simp, rfl⟩ ?_ h
    rintro s n rest ⟨hMoves, hNoFlush, hExpected⟩ hCons
    refine ⟨hMoves.trans (.leave hCons .released), ?_, hExpected⟩
    rw [List.mem_append]
    exact fun h => h.elim hNoFlush n.releaseBufs_noFlush
  exact ⟨hKept.1, hKept.2.1, hKept.2.2, superbufTrim_limit h⟩

end ChannelQueue

end KiwiDevice.Camera

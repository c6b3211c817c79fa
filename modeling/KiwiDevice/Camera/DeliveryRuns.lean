import KiwiDevice.Camera.Conservation
import KiwiDevice.Camera.QueueRuns

/-!
# Buffer conservation along the command thread

A property of buffers and of the entries they are stored in holds of everything in the queue once it
holds of every buffer that is stored. A run is followed together with the keys delivered since the
last flush. As long as no key is delivered twice between two flushes, every buffer that the run has
delivered is in exactly one place.
-/

namespace KiwiDevice.Camera

/-! ## What the queue holds -/

section Entries

/-- Every filled entry of the queue satisfies `P`. -/
def ChannelQueue.Entries (P : Nat → BufInfo → Prop) (q : ChannelQueue) : Prop :=
  ∀ n ∈ q.nodes, ∀ k info, n.superBuf[k]? = some (some info) → P k info

variable {P Q : Nat → BufInfo → Prop} {q q' : ChannelQueue}

theorem ChannelQueue.Entries.mono (h : q.Entries P) (hPQ : ∀ k info, P k info → Q k info) :
    q.Entries Q :=
  fun n hn k info hk => hPQ k info (h n hn k info hk)

theorem ChannelQueue.entries_nil (h : q.nodes = []) : q.Entries P := by
  intro n hn
  rw [h] at hn
  cases hn

theorem Moves.entries {camType : CamStreamType} {alloc : Alloc} {es : List Event}
    (h : Moves camType alloc q es q') (hq : q.Entries P) : q'.Entries P :=
  fun n hn => hq n (h.suffix.subset hn)

namespace QueueNode

variable {n : QueueNode} {bufSIdx k : Nat} {b info : BufInfo}

theorem set_entry {slots : List Slot} (h : (slots.set bufSIdx (some b))[k]? = some (some info)) :
    slots[k]? = some (some info) ∨ k = bufSIdx ∧ info = b := by
  by_cases hSame : bufSIdx = k
  · subst hSame
    have hMem := h
    rw [List.getElem?_set_self'] at hMem
    obtain ⟨_, _, hEq⟩ := Option.map_eq_some_iff.mp hMem
    exact .inr ⟨rfl, (Option.some.inj hEq).symm⟩
  · rw [List.getElem?_set_ne hSame] at h
    exact .inl h

theorem store_entry (h : (n.store bufSIdx b).superBuf[k]? = some (some info)) :
    n.superBuf[k]? = some (some info) ∨ k = bufSIdx ∧ info = b :=
  set_entry h

theorem ofBuf_entry (numStreams : Nat)
    (h : (QueueNode.ofBuf numStreams bufSIdx b).superBuf[k]? = some (some info)) :
    k = bufSIdx ∧ info = b := by
  rcases set_entry h with hOld | hNew
  · have hNone := (List.mem_replicate.mp (List.mem_of_getElem? hOld)).2
    cases hNone
  · exact hNew

end QueueNode

theorem Enqueue.entries {ch ch' : MmChannel} {nodeAlloc : Bool} {bufSIdx : Nat} {b : BufInfo}
    {es : List Event} (h : Enqueue ch nodeAlloc bufSIdx b ch' es) (hq : ch.queue.Entries P)
    (hb : P bufSIdx b) : ch'.queue.Entries P := by
  refine h.forall_nodes hq (fun n hn _ k info hk => ?_) (fun _ k info hk => ?_)
    (fun _ k info hk => ?_)
  · rcases QueueNode.store_entry hk with hOld | ⟨rfl, rfl⟩
    · exact hq n hn k info hOld
    · exact hb
  · obtain ⟨rfl, rfl⟩ := QueueNode.ofBuf_entry 1 hk
    exact hb
  · obtain ⟨rfl, rfl⟩ := QueueNode.ofBuf_entry _ hk
    exact hb

end Entries

/-! ## What the run has delivered -/

open Lib

/-- The buffers that a command delivers. -/
def Cmd.delivered : Cmd → List BufInfo
  | .dataCb buf => [buf]
  | _ => []

/-- The stream and the frame of a buffer. -/
def BufInfo.key (info : BufInfo) : Nat × Nat := (info.streamId, info.frameIdx)

/-- The keys delivered since the last flush; a buffer whose own metadata flushes the queue is stored
after that flush. -/
def keysSinceFlush (keys : List (Nat × Nat)) (cmd : Cmd) (es : List Event) : List (Nat × Nat) :=
  cmd.delivered.map BufInfo.key ++ if .flush ∈ es then [] else keys

/-- A step of the command thread together with the keys. -/
def KeyedStep (s : MmChannel × List (Nat × Nat)) (i : Alloc × Cmd) (es : List Event)
    (s' : MmChannel × List (Nat × Nat)) : Prop :=
  MmChannel.CmdStep s.1 i es s'.1 ∧ s'.2 = keysSinceFlush s.2 i.2 es

/-- Allocation succeeds, a flush is for every type, and a delivered buffer is from a bundled stream,
has a frame id and a key that was not delivered since the last flush. -/
def freshDeliveries (_ : List (Alloc × Cmd)) (_ : List Event) (s : MmChannel × List (Nat × Nat))
    (i : Alloc × Cmd) (es : List Event) : Prop :=
  i.1 = .succeeds ∧ i.2.flushType = .default ∧
    ∀ b ∈ i.2.delivered, b.frameIdx ≠ 0 ∧ b.streamId ∈ s.1.queue.bundledStreams ∧
      (.flush ∈ es ∨ b.key ∉ s.2)

theorem Leaves.noFlush {camType : CamStreamType} {alloc : Alloc} {n : QueueNode} {es : List Event}
    (h : Leaves camType alloc n es) : .flush ∉ es := by
  cases h with
  | released => exact n.releaseBufs_noFlush
  | flushed => exact n.releaseType_noFlush camType
  | dispatched _ zsl hz =>
    have hNot : Event.flush ∉ zsl := fun hMem => by cases hz _ hMem
    simpa using hNot
  | returned _ zsl hz =>
    have hNot : Event.flush ∉ zsl := fun hMem => by cases hz _ hMem
    simpa using hNot
  | lost _ zsl hz _ _ =>
    have hNot : Event.flush ∉ zsl := fun hMem => by cases hz _ hMem
    simpa using hNot

theorem Moves.nodes_of_flush {camType : CamStreamType} {alloc : Alloc} {q q' : ChannelQueue}
    {es : List Event} (h : Moves camType alloc q es q') (hFlush : .flush ∈ es) : q'.nodes = [] := by
  induction h with
  | retarget _ => cases hFlush
  | mark h =>
    cases List.mem_singleton.mp hFlush
    exact h.elim
  | flushed h => exact h
  | leave _ hl => exact absurd hFlush hl.noFlush
  | trans _ h' ih ih' =>
    rcases List.mem_append.mp hFlush with hFlush | hFlush
    · have hSuffix := h'.suffix
      rw [ih hFlush] at hSuffix
      exact List.suffix_nil.mp hSuffix
    · exact ih' hFlush

theorem Enqueue.noFlush {ch ch' : MmChannel} {nodeAlloc : Bool} {bufSIdx : Nat} {b : BufInfo}
    {es : List Event} (h : Enqueue ch nodeAlloc bufSIdx b ch' es) : .flush ∉ es := by
  have hReleased : ∀ nodes : List QueueNode, .flush ∉ nodes.flatMap QueueNode.releaseFilled := by
    intro nodes hMem
    obtain ⟨n, _, hn⟩ := List.mem_flatMap.mp hMem
    exact n.releaseFilled_noFlush hn
  cases h with
  | completes => simpa using hReleased _
  | joins => simp
  | refuses => simp
  | starts => exact hReleased _
  | startsMatched => simpa using hReleased _
  | noMemory => simpa using hReleased _

/-- The queue of a run that delivers no key twice between two flushes. -/
structure Keyed (q : ChannelQueue) (keys : List (Nat × Nat)) : Prop where
  inv : SuperbufInv q
  filled : ∀ n ∈ q.nodes, n.WellFilled q.numStreams
  entries : q.Entries fun k info => q.bundledStreams[k]? = some info.streamId ∧ info.key ∈ keys

namespace Keyed

variable {camType : CamStreamType} {alloc : Alloc} {q q' : ChannelQueue} {es : List Event}
  {keys : List (Nat × Nat)}

theorem moves (hq : Keyed q keys) (h : Moves camType alloc q es q') :
    Keyed q' (if .flush ∈ es then [] else keys) where
  inv := h.inv hq.inv
  filled := fun n hn => by
    rw [ChannelQueue.numStreams, h.bundledStreams]
    exact hq.filled n (h.suffix.subset hn)
  entries := by
    split
    · rename_i hFlush
      exact ChannelQueue.entries_nil (h.nodes_of_flush hFlush)
    · rw [h.bundledStreams]
      exact h.entries hq.entries

theorem free (hq : Keyed q keys) {bufSIdx : Nat} {b : BufInfo}
    (hIdx : q.bundledStreams[bufSIdx]? = some b.streamId) (hKey : b.key ∉ keys) :
    ∀ n ∈ q.nodes, n.frameIdx = b.frameIdx → n.superBuf[bufSIdx]? = some none := by
  intro n hn hFrame
  have hLt : bufSIdx < n.superBuf.length := by
    rw [(hq.filled n hn).length]
    exact (List.getElem?_eq_some_iff.mp hIdx).1
  cases hSlot : n.superBuf[bufSIdx] with
  | none => rw [List.getElem?_eq_getElem hLt, hSlot]
  | some info =>
    have hGet : n.superBuf[bufSIdx]? = some (some info) := by
      rw [List.getElem?_eq_getElem hLt, hSlot]
    obtain ⟨hStream, hDelivered⟩ := hq.entries n hn bufSIdx info hGet
    have hSame : info.key = b.key := by
      rw [hIdx] at hStream
      rw [BufInfo.key, BufInfo.key, ← Option.some.inj hStream,
        (hq.filled n hn).frame info (List.mem_of_getElem? hGet), hFrame]
    exact absurd (hSame ▸ hDelivered) hKey

theorem enqueue {ch ch' : MmChannel} {bufSIdx : Nat} {b : BufInfo} {nodeAlloc : Bool}
    (hq : Keyed ch.queue keys) (hb : b.frameIdx ≠ 0)
    (hIdx : ch.queue.bundledStreams[bufSIdx]? = some b.streamId)
    (h : Enqueue ch nodeAlloc bufSIdx b ch' es) : Keyed ch'.queue (b.key :: keys) where
  inv := hq.inv.enqueue h
  filled := by
    rw [ChannelQueue.numStreams, h.frame.1]
    exact h.wellFilled hb (List.getElem?_eq_some_iff.mp hIdx).1 hq.filled
  entries := by
    rw [h.frame.1]
    refine h.entries ?_ ⟨hIdx, List.mem_cons_self⟩
    exact hq.entries.mono fun k info hInfo => ⟨hInfo.1, List.mem_cons_of_mem _ hInfo.2⟩

end Keyed

/-- The buffers that a command brings into the queue. -/
def Cmd.deliveredBufs (cmd : Cmd) : Multiset (Option BufDef) :=
  (cmd.delivered.map fun b => some b.buf : List (Option BufDef))

/-- The buffers that a run has brought into the queue. -/
def deliveredBufs (is : List (Alloc × Cmd)) : Multiset (Option BufDef) :=
  (is.map fun i => i.2.deliveredBufs).sum

theorem KeyedStep.accounts {s s' : MmChannel × List (Nat × Nat)} {i : Alloc × Cmd}
    {is : List (Alloc × Cmd)} {os es : List Event} (hAllowed : freshDeliveries is os s i es)
    (hq : Keyed s.1.queue s.2) (h : KeyedStep s i es s') :
    Keyed s'.1.queue s'.2 ∧
      Accounts (s.1.queue.held + i.2.deliveredBufs) s'.1.queue.held es := by
  obtain ⟨alloc, cmd⟩ := i
  obtain ⟨hAlloc, hType, hFresh⟩ := hAllowed
  obtain ⟨hStep, hKeys⟩ := h
  obtain rfl : alloc = .succeeds := hAlloc
  obtain ⟨ch₁, es₁, es₂, hHandled, hEs, hTrail, hNoFlush, _⟩ :=
    MmChannel.processStreamBuf_trail hStep
  have hFlush : .flush ∈ es ↔ .flush ∈ es₁ := by simp [hEs, hNoFlush]
  simp only [keysSinceFlush, hFlush] at hKeys
  simp only [hFlush] at hFresh
  rcases MmChannel.handleCmd_ok hHandled with ⟨b, rfl, hDelivered⟩ | ⟨hNot, hMoves⟩
  · obtain ⟨hb, hBundled, hKey⟩ := hFresh b List.mem_cons_self
    rcases hDelivered.outcome hq.inv.order with ⟨hForeign, _⟩ |
      ⟨ch₂, es₃, es₄, bufSIdx, rfl, hIdx, _, hMeta, hEnqueue, _⟩
    · exact absurd hBundled hForeign
    · have hKey' : b.key ∉ if .flush ∈ es₃ then [] else s.2 := by
        simp only [List.mem_append, hEnqueue.noFlush, or_false] at hKey
        split
        · simp
        · rename_i hNone
          exact hKey.resolve_left hNone
      have hq₂ := hq.moves hMeta
      rw [← hMeta.bundledStreams] at hIdx
      have hq₁ := (hq₂.enqueue hb hIdx hEnqueue).moves hTrail
      have hMetaAccounts := (hMeta.accounts hq.filled).add {some b.buf}
      have hStored := hEnqueue.accounts (List.getElem?_eq_some_iff.mp hIdx).1 hq₂.filled
        (hq₂.free hIdx hKey')
      have hTrailAccounts := hTrail.accounts (hq₂.enqueue hb hIdx hEnqueue).filled
      refine ⟨?_, ?_⟩
      · rw [if_neg hNoFlush] at hq₁
        simpa [hKeys, Cmd.delivered, hEnqueue.noFlush] using hq₁
      · rw [hEs]
        exact (hMetaAccounts.trans hStored).trans hTrailAccounts
  · have hNone : cmd.delivered = [] := by
      cases cmd with
      | dataCb b => exact absurd rfl (hNot b)
      | _ => rfl
    have hMoves' : Moves .default .succeeds s.1.queue es s'.1.queue := by
      rw [hEs]
      exact (hType ▸ hMoves).trans hTrail
    refine ⟨?_, ?_⟩
    · have hMoved := hq.moves hMoves'
      rw [hKeys, hNone]
      simpa only [hFlush, List.map_nil, List.nil_append] using hMoved
    · have hAccounts := hMoves'.accounts hq.filled
      simpa [Cmd.deliveredBufs, hNone] using hAccounts

/-- From an empty queue every buffer delivered is held in the queue, has been given back or has been
dispatched, and a buffer delivered once is in exactly one of these places, once. -/
theorem buffers_conserved {ch : MmChannel} {is : List (Alloc × Cmd)} {es : List Event}
    {s : MmChannel × List (Nat × Nat)} (hNodes : ch.queue.nodes = []) (hSize : ch.queue.size = 0)
    (hCnt : ch.queue.matchCnt = 0) (run : Steps KeyedStep freshDeliveries (ch, []) is es s) :
    deliveredBufs is =
        s.1.queue.held + returnedBufs es + dispatchedBufs es ∧
      ∀ buf, (deliveredBufs is).count buf = 1 →
        s.1.queue.held.count buf = 1 ∧ (returnedBufs es).count buf = 0 ∧
            (dispatchedBufs es).count buf = 0 ∨
          s.1.queue.held.count buf = 0 ∧ (returnedBufs es).count buf = 1 ∧
            (dispatchedBufs es).count buf = 0 ∨
          s.1.queue.held.count buf = 0 ∧ (returnedBufs es).count buf = 0 ∧
            (dispatchedBufs es).count buf = 1 := by
  have hRun := run.history (I := fun is es s => Keyed s.1.queue s.2 ∧
    Accounts (deliveredBufs is) s.1.queue.held es) ?_ ?_
  · have hEq := hRun.2
    refine ⟨hEq, fun buf hOnce => ?_⟩
    rw [hEq, Multiset.count_add, Multiset.count_add] at hOnce
    omega
  · refine ⟨⟨⟨?_, ?_, ?_, ?_⟩, ?_, ChannelQueue.entries_nil hNodes⟩, ?_⟩ <;>
      simp [hNodes, hSize, hCnt, Accounts, ChannelQueue.held, deliveredBufs]
  · rintro is es s i o s' hAllowed ⟨hKeyed, hAccounts⟩ hStep
    obtain ⟨hKeyed', hStepAccounts⟩ := hStep.accounts hAllowed hKeyed
    refine ⟨hKeyed', ?_⟩
    have hSum := hAccounts.add i.2.deliveredBufs
    rw [deliveredBufs, List.map_append, List.sum_append, List.map_singleton, List.sum_singleton]
    exact hSum.trans hStepAccounts

/-- The keyed step as a function, for the runs that deliver no key twice. -/
def keyedNext (s : MmChannel × List (Nat × Nat)) (i : Alloc × Cmd) :
    Option ((MmChannel × List (Nat × Nat)) × List Event) :=
  match MmChannel.processStreamBuf i.1 s.1 i.2 with
  | .error _ => none
  | .ok (ch', es) =>
    if ∀ b ∈ i.2.delivered, b.frameIdx ≠ 0 ∧ b.streamId ∈ s.1.queue.bundledStreams ∧
        (.flush ∈ es ∨ b.key ∉ s.2) then
      some ((ch', keysSinceFlush s.2 i.2 es), es)
    else none

theorem keyedNext_step {s s' : MmChannel × List (Nat × Nat)} {i : Alloc × Cmd} {es : List Event}
    (is : List (Alloc × Cmd)) (os : List Event) (hAlloc : i.1 = .succeeds)
    (hType : i.2.flushType = .default) (h : keyedNext s i = some (s', es)) :
    KeyedStep s i es s' ∧ freshDeliveries is os s i es := by
  unfold keyedNext at h
  split at h
  · cases h
  · rename_i hStep
    split at h
    · rename_i hFresh
      cases h
      exact ⟨⟨hStep, rfl⟩, hAlloc, hType, hFresh⟩
    · cases h

theorem pairCmds_plain : ∀ i ∈ pairCmds, i.1 = .succeeds ∧ i.2.flushType = .default := by
  intro i hi
  obtain ⟨b, _, rfl⟩ := List.mem_map.mp hi
  exact ⟨rfl, rfl⟩

/-- The pair run holds the two buffers of the second frame and has given back that of the first. -/
theorem buffers_conserved_pairRun :
    ∃ es s, Steps KeyedStep freshDeliveries (pairChannel, []) pairCmds es s ∧
      deliveredBufs pairCmds = s.1.queue.held + returnedBufs es + dispatchedBufs es ∧
      s.1.queue.held.card = 2 ∧ (returnedBufs es).card = 1 := by
  obtain ⟨r, hRun, hCards⟩ := Option.map_eq_some_iff.mp
    (show (exec (fun _ _ => keyedNext) [] [] (pairChannel, []) pairCmds).map
        (fun r => (r.1.1.queue.held.card, (returnedBufs r.2).card)) = some (2, 1) by
      decide +kernel)
  have run : Steps KeyedStep freshDeliveries (pairChannel, []) pairCmds r.2 r.1 := by
    refine Steps.of_exec _ _ (fun i hi is' os' c c' o hStep => ?_) hRun
    obtain ⟨hAlloc, hType⟩ := pairCmds_plain i hi
    exact keyedNext_step is' os' hAlloc hType hStep
  exact ⟨r.2, r.1, run, (buffers_conserved rfl rfl rfl run).1, congrArg Prod.fst hCards,
    congrArg Prod.snd hCards⟩

end KiwiDevice.Camera

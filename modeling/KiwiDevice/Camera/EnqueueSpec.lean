import KiwiDevice.Camera.Matching
import KiwiDevice.Lib.Lists

/-!
# What storing a buffer does to an ordered queue

In a queue whose matched superbufs come first and whose unmatched ones have increasing frame ids,
the search of `mm_channel_superbuf_comp_and_enqueue` splits the list into matched superbufs, older
unmatched ones and the rest. `Enqueue` lists the five outcomes in terms of that split.
-/

namespace KiwiDevice.Camera

open Lib

/-- The order of two superbufs in the list: matched ones first, then by frame. -/
def QueueNode.Precedes (a b : QueueNode) : Prop :=
  a.matched = true ∨ b.matched = false ∧ a.frameIdx < b.frameIdx

theorem exists_split {nodes : List QueueNode} (h : nodes.Pairwise QueueNode.Precedes)
    (frameIdx : Nat) :
    ∃ ms lo hi, nodes = ms ++ (lo ++ hi) ∧ (∀ n ∈ ms, n.matched = true) ∧
      (∀ n ∈ lo, n.matched = false ∧ n.frameIdx < frameIdx) ∧
      (∀ n ∈ hi, n.matched = false ∧ frameIdx ≤ n.frameIdx) := by
  let us := nodes.dropWhile QueueNode.matched
  let older : QueueNode → Bool := fun n => n.frameIdx < frameIdx
  have hUnmatched : ∀ n ∈ us, n.matched = false := by
    apply forall_dropWhile (R := QueueNode.Precedes) _ h
    rintro a b (hMatched | ⟨hb, _⟩) ha
    · rw [ha] at hMatched
      cases hMatched
    · exact hb
  have hOrder : us.Pairwise QueueNode.Precedes := h.sublist (List.dropWhile_sublist _)
  have hFrames : us.Pairwise (fun a b => a.frameIdx < b.frameIdx) := by
    apply hOrder.imp_of_mem
    rintro a b ha _ (hMatched | ⟨_, hLt⟩)
    · rw [hUnmatched a ha] at hMatched
      cases hMatched
    · exact hLt
  refine ⟨nodes.takeWhile QueueNode.matched, us.takeWhile older, us.dropWhile older, ?_, ?_, ?_, ?_⟩
  · rw [List.takeWhile_append_dropWhile, List.takeWhile_append_dropWhile]
  · exact fun n hn => List.mem_takeWhile_imp hn
  · intro n hn
    exact ⟨hUnmatched n (List.takeWhile_sublist _ |>.subset hn),
      by simpa [older] using List.mem_takeWhile_imp hn⟩
  · intro n hn
    have hNot := forall_dropWhile (p := older) (fun a b hab ha => by
      simp only [older, decide_eq_false_iff_not, Nat.not_lt] at ha ⊢
      omega) hFrames n hn
    exact ⟨hUnmatched n (List.dropWhile_sublist _ |>.subset hn),
      by simpa [older] using hNot⟩

namespace Search

variable {frameIdx : Nat}

theorem from_matched (pos : Nat) (st : Search) {ms : List QueueNode}
    (hms : ∀ n ∈ ms, n.matched = true) (us : List QueueNode) :
    Search.from frameIdx pos st (ms ++ us) = Search.from frameIdx (pos + ms.length) st us := by
  induction ms generalizing pos with
  | nil => rfl
  | cons m ms ih =>
    rw [List.cons_append, Search.from, if_pos (hms m List.mem_cons_self),
      ih _ fun n hn => hms n (List.mem_cons_of_mem _ hn), List.length_cons]
    congr 1
    omega

theorem from_older (pos : Nat) (st : Search) {lo : List QueueNode}
    (hlo : ∀ n ∈ lo, n.matched = false ∧ n.frameIdx < frameIdx) (hi : List QueueNode)
    (hCnt : st.unmatchedBundles < 2 ^ 8) :
    Search.from frameIdx pos st (lo ++ hi) =
      Search.from frameIdx (pos + lo.length)
        { st with
          unmatchedBundles := (st.unmatchedBundles + lo.length) % 2 ^ 8
          lastBuf := if lo = [] then st.lastBuf else st.lastBuf.or (some pos) } hi := by
  induction lo generalizing pos st with
  | nil => rw [List.nil_append, List.length_nil, Nat.add_zero, Nat.add_zero, Nat.mod_eq_of_lt hCnt, if_pos rfl]
  | cons m lo ih =>
    obtain ⟨hM, hLt⟩ := hlo m List.mem_cons_self
    have hNe : ¬ frameIdx = m.frameIdx := by omega
    have hNotGt : ¬ m.frameIdx > frameIdx := by omega
    rw [List.cons_append, Search.from, hM, if_neg (by simp), if_neg hNe,
      ih (pos + 1) _ (fun n hn => hlo n (List.mem_cons_of_mem _ hn)) (Nat.mod_lt _ (by decide))]
    have hPos : pos + 1 + lo.length = pos + (m :: lo).length := by
      simp only [List.length_cons]
      omega
    have hSum : ((st.unmatchedBundles + 1) % 2 ^ 8 + lo.length) % 2 ^ 8 =
        (st.unmatchedBundles + (m :: lo).length) % 2 ^ 8 := by
      simp only [List.length_cons]
      omega
    rw [hPos]
    simp only [hSum, hLt, hNotGt, and_true, and_false, if_false]
    cases hLast : st.lastBuf <;> cases lo <;> simp

theorem from_newer (pos : Nat) (st : Search) {hi : List QueueNode}
    (hhi : ∀ n ∈ hi, n.matched = false ∧ frameIdx < n.frameIdx)
    (hCnt : st.unmatchedBundles < 2 ^ 8) :
    Search.from frameIdx pos st hi =
      { st with
        unmatchedBundles := (st.unmatchedBundles + hi.length) % 2 ^ 8
        insertBeforeBuf :=
          if hi = [] then st.insertBeforeBuf else st.insertBeforeBuf.or (some pos) } := by
  induction hi generalizing pos st with
  | nil => rw [Search.from, List.length_nil, Nat.add_zero, Nat.mod_eq_of_lt hCnt, if_pos rfl]
  | cons m hi ih =>
    obtain ⟨hM, hLt⟩ := hhi m List.mem_cons_self
    have hNe : ¬ frameIdx = m.frameIdx := by omega
    have hNotLt : ¬ m.frameIdx < frameIdx := by omega
    rw [Search.from, hM, if_neg (by simp), if_neg hNe,
      ih (pos + 1) _ (fun n hn => hhi n (List.mem_cons_of_mem _ hn)) (Nat.mod_lt _ (by decide))]
    have hSum : ((st.unmatchedBundles + 1) % 2 ^ 8 + hi.length) % 2 ^ 8 =
        (st.unmatchedBundles + (m :: hi).length) % 2 ^ 8 := by
      simp only [List.length_cons]
      omega
    simp only [hSum, gt_iff_lt, hLt, hNotLt, and_true, and_false, if_false]
    cases hIns : st.insertBeforeBuf <;> cases hi <;> simp

theorem from_split {ms lo : List QueueNode} (hi : List QueueNode) (hms : ∀ n ∈ ms, n.matched = true)
    (hlo : ∀ n ∈ lo, n.matched = false ∧ n.frameIdx < frameIdx) :
    Search.from frameIdx 0 {} (ms ++ (lo ++ hi)) =
      Search.from frameIdx (ms.length + lo.length)
        { unmatchedBundles := lo.length % 2 ^ 8
          lastBuf := if lo = [] then none else some ms.length } hi := by
  rw [from_matched 0 {} hms, from_older _ _ hlo _ (by decide)]
  simp

end Search

/-- `size` after the nodes in `gone` were taken out. -/
def ChannelQueue.sizeWithout (q : ChannelQueue) (gone : List QueueNode) : Nat :=
  if gone = [] then q.size else sub32 q.size gone.length

theorem ChannelQueue.releaseNodes_split {q : ChannelQueue} {ms gone rest : List QueueNode}
    (h : q.nodes = ms ++ (gone ++ rest)) :
    q.releaseNodes ms.length gone.length =
      ({ q with nodes := ms ++ rest, size := sub32 q.size gone.length },
        gone.flatMap QueueNode.releaseFilled) := by
  have hGone : (q.nodes.drop ms.length).take gone.length = gone := by
    rw [h, List.drop_left, List.take_left]
  have hRest : q.nodes.drop (ms.length + gone.length) = rest := by
    rw [h, ← List.drop_drop, List.drop_left, List.drop_left]
  have hKept : q.nodes.take ms.length = ms := by rw [h, List.take_left]
  simp only [releaseNodes, hGone, hRest, hKept]

/-- The queue with these nodes left after the ones in `gone` were taken out. -/
def ChannelQueue.without (q : ChannelQueue) (gone nodes : List QueueNode) : ChannelQueue :=
  { q with nodes, size := q.sizeWithout gone }

namespace ChannelQueue

theorem insertNew_cases {q : ChannelQueue} {front back : List QueueNode} (bufSIdx : Nat)
    (b : BufInfo) (hq : q.nodes = front ++ back) :
    q.numStreams = 1 ∧ q.insertNew (some front.length) bufSIdx b =
        ({ q with
            nodes := front ++ { QueueNode.ofBuf 1 bufSIdx b with matched := true } :: back
            size := add32 q.size 1
            expectedFrameId := add32 b.frameIdx q.attr.postFrameSkip.toNat
            matchCnt := add32 q.matchCnt 1 },
          [.matched b.frameIdx]) ∨
      q.numStreams ≠ 1 ∧ q.insertNew (some front.length) bufSIdx b =
        ({ q with
            nodes := front ++ QueueNode.ofBuf q.numStreams bufSIdx b :: back
            size := add32 q.size 1 },
          []) := by
  by_cases hOne : q.numStreams = 1
  · refine .inl ⟨hOne, ?_⟩
    have hOne' : ({ q with
        nodes := front ++ { QueueNode.ofBuf 1 bufSIdx b with matched := true } :: back
        size := add32 q.size 1 } : ChannelQueue).numStreams = 1 := hOne
    simp only [insertNew, hOne, if_true, Option.getD_some, hq, List.take_left, List.drop_left, hOne']
  · refine .inr ⟨hOne, ?_⟩
    have hNot : ¬ ({ q with
        nodes := front ++ QueueNode.ofBuf q.numStreams bufSIdx b :: back
        size := add32 q.size 1 } : ChannelQueue).numStreams = 1 := hOne
    simp only [insertNew, hOne, if_false, Option.getD_some, hq, List.take_left, List.drop_left, hNot]

end ChannelQueue

/-- The outcomes of `compSuperbuf` on an ordered queue. -/
inductive Enqueue (ch : MmChannel) (nodeAlloc : Bool) (bufSIdx : Nat) (b : BufInfo) :
    MmChannel → List Event → Prop where
  /-- The buffer completes its superbuf; the older unmatched ones are released. -/
  | completes {ms lo rest : List QueueNode} {n : QueueNode}
      (hNodes : ch.queue.nodes = ms ++ (lo ++ n :: rest))
      (hms : ∀ m ∈ ms, m.matched = true) (hlo : ∀ m ∈ lo, m.matched = false)
      (hn : n.matched = false)
      (hFrame : n.frameIdx = b.frameIdx) (hAll : (n.store bufSIdx b).matched = true) :
      Enqueue ch nodeAlloc bufSIdx b
        ({ ch with isFlashBracketingEnabled := false }.setQueue { ch.queue with
          nodes := ms ++ n.store bufSIdx b :: rest
          size := ch.queue.sizeWithout lo
          expectedFrameId :=
            if ch.isFlashBracketingEnabled then ch.queue.expectedFrameIdWithoutLed
            else add32 b.frameIdx ch.queue.attr.postFrameSkip.toNat
          matchCnt := add32 ch.queue.matchCnt 1 })
        (.matched b.frameIdx :: lo.flatMap QueueNode.releaseFilled)
  /-- The buffer joins a superbuf that still misses others. -/
  | joins {ms rest : List QueueNode} {n : QueueNode} (hNodes : ch.queue.nodes = ms ++ n :: rest)
      (hn : n.matched = false) (hFrame : n.frameIdx = b.frameIdx)
      (hMissing : (n.store bufSIdx b).matched = false) :
      Enqueue ch nodeAlloc bufSIdx b
        (ch.setQueue { ch.queue with nodes := ms ++ n.store bufSIdx b :: rest }) []
  /-- Too many unmatched superbufs, all newer: the buffer is given back. -/
  | refuses : Enqueue ch nodeAlloc bufSIdx b ch [.qbuf (some b.buf)]
  /-- A new superbuf is put between the older and the newer ones, in place of the oldest unmatched
  one when there are too many. -/
  | starts {ms gone lo hi : List QueueNode}
      (hNodes : ch.queue.nodes = ms ++ (gone ++ (lo ++ hi)))
      (hms : ∀ m ∈ ms, m.matched = true)
      (hgone : ∀ m ∈ gone, m.matched = false)
      (hlo : ∀ m ∈ lo, m.matched = false ∧ m.frameIdx < b.frameIdx)
      (hhi : ∀ m ∈ hi, m.matched = false ∧ b.frameIdx < m.frameIdx)
      (hRoom : ¬ ch.queue.attr.maxUnmatchedFrames.toNat <
          (gone.length + lo.length + hi.length) % 2 ^ 8 ∨ gone.length = 1)
      (hSeveral : ch.queue.numStreams ≠ 1) :
      Enqueue ch nodeAlloc bufSIdx b
        (ch.setQueue { ch.queue with
          nodes := (ms ++ lo) ++ QueueNode.ofBuf ch.queue.numStreams bufSIdx b :: hi
          size := add32 (ch.queue.sizeWithout gone) 1 })
        (gone.flatMap QueueNode.releaseFilled)
  /-- The same with a single stream: the new superbuf is matched at once. -/
  | startsMatched {ms gone lo hi : List QueueNode}
      (hNodes : ch.queue.nodes = ms ++ (gone ++ (lo ++ hi)))
      (hms : ∀ m ∈ ms, m.matched = true)
      (hgone : ∀ m ∈ gone, m.matched = false)
      (hlo : ∀ m ∈ lo, m.matched = false ∧ m.frameIdx < b.frameIdx)
      (hhi : ∀ m ∈ hi, m.matched = false ∧ b.frameIdx < m.frameIdx)
      (hRoom : ¬ ch.queue.attr.maxUnmatchedFrames.toNat <
          (gone.length + lo.length + hi.length) % 2 ^ 8 ∨ gone.length = 1)
      (hOne : ch.queue.numStreams = 1) :
      Enqueue ch nodeAlloc bufSIdx b
        (ch.setQueue { ch.queue with
          nodes := (ms ++ lo) ++ { QueueNode.ofBuf 1 bufSIdx b with matched := true } :: hi
          size := add32 (ch.queue.sizeWithout gone) 1
          expectedFrameId := add32 b.frameIdx ch.queue.attr.postFrameSkip.toNat
          matchCnt := add32 ch.queue.matchCnt 1 })
        (gone.flatMap QueueNode.releaseFilled ++ [.matched b.frameIdx])
  /-- The same without memory for the new superbuf. -/
  | noMemory {ms gone rest : List QueueNode} (hNodes : ch.queue.nodes = ms ++ (gone ++ rest))
      (hgone : ∀ m ∈ gone, m.matched = false) (hAlloc : nodeAlloc = false) :
      Enqueue ch nodeAlloc bufSIdx b
        (ch.setQueue (ch.queue.without gone (ms ++ rest)))
        (gone.flatMap QueueNode.releaseFilled ++ [.qbuf (some b.buf)])

namespace MmChannel

variable {ch : MmChannel} {nodeAlloc : Bool} {bufSIdx : Nat} {b : BufInfo}

theorem joinSuperbuf_enqueue {ms lo rest : List QueueNode} {n : QueueNode} {search : Search}
    (hNodes : ch.queue.nodes = ms ++ (lo ++ n :: rest)) (hms : ∀ m ∈ ms, m.matched = true)
    (hlo : ∀ m ∈ lo, m.matched = false) (hn : n.matched = false) (hFrame : n.frameIdx = b.frameIdx)
    (hLast : search.lastBuf = if lo = [] then none else some ms.length) :
    Enqueue ch nodeAlloc bufSIdx b
      (ch.joinSuperbuf search (ms.length + lo.length) n bufSIdx b).1
      (ch.joinSuperbuf search (ms.length + lo.length) n bufSIdx b).2 := by
  have hSet : ch.queue.nodes.set (ms.length + lo.length) (n.store bufSIdx b) =
      ms ++ (lo ++ n.store bufSIdx b :: rest) := by
    rw [hNodes]
    simp
  have hStored : (n.store bufSIdx b).frameIdx = b.frameIdx := hFrame
  cases hAll : (n.store bufSIdx b).matched with
  | false =>
    have hNodes' : ch.queue.nodes = (ms ++ lo) ++ n :: rest := by rw [hNodes, List.append_assoc]
    have h : Enqueue ch nodeAlloc bufSIdx b _ _ := .joins hNodes' hn hFrame hAll
    rw [List.append_assoc, ← hSet] at h
    simpa only [joinSuperbuf, hAll, Bool.false_eq_true, if_false] using h
  | true =>
    have h : Enqueue ch nodeAlloc bufSIdx b _ _ := .completes hNodes hms hlo hn hFrame hAll
    by_cases hEmpty : lo = []
    · subst hEmpty
      rw [List.nil_append] at hSet
      simpa only [joinSuperbuf, hAll, if_true, hSet, hLast, hStored, ChannelQueue.sizeWithout,
        List.flatMap_nil] using h
    · rw [if_neg hEmpty] at hLast
      have hSub : ms.length + lo.length - ms.length = lo.length := by omega
      simp only [joinSuperbuf, hAll, if_true, hSet, hLast, hStored, hSub]
      rw [ChannelQueue.releaseNodes_split rfl]
      simpa only [ChannelQueue.sizeWithout, if_neg hEmpty] using h

/-- `insertBeforeBuf` is `NULL` only when nothing is newer, and then the tail is that place. -/
theorem insertNew_tail {q : ChannelQueue} {ms lo hi : List QueueNode}
    (hq : q.nodes = ms ++ (lo ++ hi)) :
    q.insertNew (if hi = [] then none else some (ms.length + lo.length)) bufSIdx b =
      q.insertNew (some (ms.length + lo.length)) bufSIdx b := by
  split
  · rename_i hEmpty
    subst hEmpty
    have hLength : q.nodes.length = ms.length + lo.length := by rw [hq]; simp
    simp only [ChannelQueue.insertNew, Option.getD_none, Option.getD_some, hLength]
  · rfl

theorem enqueueNew_enqueue {ms lo hi : List QueueNode} (gone : List QueueNode)
    (hNodes : ch.queue.nodes = ms ++ (gone ++ (lo ++ hi))) (hms : ∀ m ∈ ms, m.matched = true)
    (hgone : ∀ m ∈ gone, m.matched = false)
    (hlo : ∀ m ∈ lo, m.matched = false ∧ m.frameIdx < b.frameIdx)
    (hhi : ∀ m ∈ hi, m.matched = false ∧ b.frameIdx < m.frameIdx)
    (hRoom : ¬ ch.queue.attr.maxUnmatchedFrames.toNat <
      (gone.length + lo.length + hi.length) % 2 ^ 8 ∨ gone.length = 1)
    {q : ChannelQueue} {ins : Option Nat}
    (hq : q = ch.queue.without gone (ms ++ (lo ++ hi)))
    (hIns : ins = if hi = [] then none else some (ms.length + lo.length)) :
    Enqueue ch nodeAlloc bufSIdx b (ch.enqueueNew nodeAlloc q ins bufSIdx b).1
      (gone.flatMap QueueNode.releaseFilled ++ (ch.enqueueNew nodeAlloc q ins bufSIdx b).2) := by
  cases nodeAlloc with
  | true =>
    have hTail : q.insertNew ins bufSIdx b = q.insertNew (some (ms.length + lo.length)) bufSIdx b := by
      rw [hIns]
      exact insertNew_tail (by rw [hq]; rfl)
    rw [enqueueNew, if_pos rfl, hTail, hq, ← List.length_append]
    rcases ChannelQueue.insertNew_cases bufSIdx b
        (q := ch.queue.without gone (ms ++ (lo ++ hi))) (List.append_assoc ms lo hi).symm with
      ⟨hOne, hNew⟩ | ⟨hSeveral, hNew⟩
    · rw [hNew]
      exact .startsMatched hNodes hms hgone hlo hhi hRoom hOne
    · rw [hNew, List.append_nil]
      exact .starts hNodes hms hgone hlo hhi hRoom hSeveral
  | false =>
    subst hq
    exact .noMemory hNodes hgone rfl

theorem startSuperbuf_enqueue {ms lo hi : List QueueNode}
    (hNodes : ch.queue.nodes = ms ++ (lo ++ hi)) (hms : ∀ m ∈ ms, m.matched = true)
    (hlo : ∀ m ∈ lo, m.matched = false ∧ m.frameIdx < b.frameIdx)
    (hhi : ∀ m ∈ hi, m.matched = false ∧ b.frameIdx < m.frameIdx) {search : Search}
    (hCnt : search.unmatchedBundles = (lo.length + hi.length) % 2 ^ 8)
    (hLast : search.lastBuf = if lo = [] then none else some ms.length)
    (hIns : search.insertBeforeBuf = if hi = [] then none else some (ms.length + lo.length)) :
    Enqueue ch nodeAlloc bufSIdx b (ch.startSuperbuf nodeAlloc search bufSIdx b).1
      (ch.startSuperbuf nodeAlloc search bufSIdx b).2 := by
  unfold startSuperbuf
  rw [hCnt]
  by_cases hFull : ch.queue.attr.maxUnmatchedFrames.toNat < (lo.length + hi.length) % 2 ^ 8
  · cases lo with
    | nil =>
      rw [if_pos ⟨hFull, hLast⟩]
      exact .refuses
    | cons old lo =>
      rw [if_neg (by simp [hLast])]
      have hOld : ch.queue.nodes = ms ++ ([old] ++ (lo ++ hi)) := by rw [hNodes]; rfl
      have hRelease := ChannelQueue.releaseNodes_split hOld
      rw [List.length_singleton] at hRelease
      have hPos : search.insertBeforeBuf.map (fun pos => if ms.length < pos then pos - 1 else pos) =
          if hi = [] then none else some (ms.length + lo.length) := by
        rw [hIns]
        split
        · rfl
        · rw [Option.map_some, if_pos (by simp), List.length_cons]
          rfl
      have hGone : ∀ m ∈ [old], m.matched = false := by
        intro m hm
        rw [List.mem_singleton.mp hm]
        exact (hlo old List.mem_cons_self).1
      have hWithout : ch.queue.without [old] (ms ++ (lo ++ hi)) =
          { ch.queue with nodes := ms ++ (lo ++ hi), size := sub32 ch.queue.size 1 } := by
        simp only [ChannelQueue.without, ChannelQueue.sizeWithout, reduceCtorEq, if_false,
          List.length_singleton]
      have hRoom : ch.queue.releaseOldest search =
          (ch.queue.without [old] (ms ++ (lo ++ hi)),
            if hi = [] then none else some (ms.length + lo.length),
            [old].flatMap QueueNode.releaseFilled) := by
        simp only [ChannelQueue.releaseOldest, hLast, reduceCtorEq, if_false, hCnt, if_pos hFull,
          hRelease, hPos, hWithout]
      rw [hRoom]
      exact enqueueNew_enqueue [old] hOld hms hGone (fun m hm => hlo m (List.mem_cons_of_mem _ hm)) hhi
        (.inr rfl) rfl rfl
  · rw [if_neg (fun h => hFull h.1)]
    have hRoom : ch.queue.releaseOldest search = (ch.queue, search.insertBeforeBuf, []) := by
      unfold ChannelQueue.releaseOldest
      split
      · rw [hCnt, if_neg hFull]
      · rfl
    rw [hRoom]
    exact enqueueNew_enqueue [] hNodes hms (by simp) hlo hhi
      (.inl (by simpa using hFull)) (by rw [← hNodes]; rfl) hIns

theorem compSuperbuf_enqueue (hOrder : ch.queue.nodes.Pairwise QueueNode.Precedes) :
    Enqueue ch nodeAlloc bufSIdx b (ch.compSuperbuf nodeAlloc bufSIdx b).1
      (ch.compSuperbuf nodeAlloc bufSIdx b).2 := by
  obtain ⟨ms, lo, hi, hNodes, hms, hlo, hhi⟩ := exists_split hOrder b.frameIdx
  have hSearch := Search.from_split hi hms hlo
  rw [← hNodes] at hSearch
  unfold compSuperbuf
  -- either the first of the rest carries the frame itself, or all of the rest is newer
  by_cases hFound : ∃ n rest, hi = n :: rest ∧ n.frameIdx = b.frameIdx
  · obtain ⟨n, rest, rfl, hFrame⟩ := hFound
    have hn := (hhi n List.mem_cons_self).1
    rw [Search.from, hn, if_neg (by simp), if_pos hFrame.symm] at hSearch
    rw [hSearch]
    exact joinSuperbuf_enqueue hNodes hms (fun m hm => (hlo m hm).1) hn hFrame rfl
  · have hNewer : ∀ m ∈ hi, m.matched = false ∧ b.frameIdx < m.frameIdx := by
      cases hi with
      | nil => simp
      | cons n rest =>
        have hNe : n.frameIdx ≠ b.frameIdx := fun h => hFound ⟨n, rest, rfl, h⟩
        have hLe := (hhi n List.mem_cons_self).2
        have hRest : (n :: rest).Pairwise QueueNode.Precedes := by
          rw [hNodes] at hOrder
          exact (List.pairwise_append.mp (List.pairwise_append.mp hOrder).2.1).2.1
        intro m hm
        refine ⟨(hhi m hm).1, ?_⟩
        rcases List.mem_cons.mp hm with rfl | hm
        · omega
        · rcases List.rel_of_pairwise_cons hRest hm with hMatched | ⟨_, hLt⟩
          · rw [(hhi n List.mem_cons_self).1] at hMatched
            cases hMatched
          · omega
    rw [Search.from_newer _ _ hNewer (Nat.mod_lt _ (by decide))] at hSearch
    rw [hSearch]
    exact startSuperbuf_enqueue hNodes hms hlo hNewer (by simp) rfl (by simp)

end MmChannel

end KiwiDevice.Camera

import KiwiDevice.Camera.LinkedBuffers
import KiwiDevice.Lib.Lists

/-!
# When borrowed streams get their buffers back

The exact condition for `mm_channel_stop` and for the error handling of `mm_channel_start`.
-/

namespace KiwiDevice.Camera

namespace MmChannel

/-- The first flush of the loop over the stream objects whose command can be allocated: its type,
and the slots of borrowed streams that are cleared before it. -/
def firstFlush (ch : MmChannel) (flushType : MmStream → Option CamStreamType)
    (alloc : Nat → Bool) : List Nat → Option (CamStreamType × List Nat)
  | [] => none
  | k :: rest =>
    match ch.streams[k]? with
    | none => none
    | some s =>
      if ch.isOwn s then firstFlush ch flushType alloc rest
      else if alloc k then (flushType s).map fun streamType => (streamType, [])
      else (firstFlush ch flushType alloc rest).map fun f => (f.1, k :: f.2)

/-- The slot of the buffer's stream is not among these. -/
def slotNotIn (ch : MmChannel) (cleared : List Nat) (buf : BufDef) : Bool :=
  cleared.all fun k => ch.utilGetStreamSlot buf.streamId != some k

/-- The buffer finds its way back in this flush. -/
def flushedIn (ch : MmChannel) (flush : CamStreamType × List Nat) (buf : BufDef) : Bool :=
  buf.flushedBy flush.1 && ch.slotNotIn flush.2 buf

/-- The flush that the loop over the stream objects runs first, if any. -/
def loopFlush (ch : MmChannel) (flushType : MmStream → Option CamStreamType) (alloc : Nat → Bool)
    (sObjs : List Nat) : Option (CamStreamType × List Nat) :=
  if ch.bundle.isActive then ch.firstFlush flushType alloc sObjs else none

/-- The held buffers that the loop gives back. -/
def returnedBufs (ch : MmChannel) : Option (CamStreamType × List Nat) → List BufDef
  | none => []
  | some flush => ch.heldBufs.filter (ch.flushedIn flush)

/-- Every held buffer of a borrowed stream finds its way back in the first flush. -/
def FlushReturns (ch : MmChannel) : Option (CamStreamType × List Nat) → Prop
  | none => ∀ buf ∈ ch.heldBufs, ch.route buf = none
  | some flush => ∀ buf ∈ ch.heldBufs, ch.route buf ≠ none → ch.flushedIn flush buf = true

variable {ch ch' : MmChannel} {flushType : MmStream → Option CamStreamType} {alloc : Nat → Bool}

theorem Unlinked.firstFlush_eq {cleared : List Nat} (h : Unlinked ch ch' cleared)
    (hType : ∀ s s', MmStream.SameStream s s' → flushType s' = flushType s) (ks : List Nat)
    (hKept : ∀ k ∈ ks, k ∉ cleared) :
    ch'.firstFlush flushType alloc ks = ch.firstFlush flushType alloc ks := by
  induction ks with
  | nil => rfl
  | cons k rest ih =>
    have hRest := ih fun j hj => hKept j (List.mem_cons_of_mem k hj)
    rw [firstFlush, firstFlush, hRest]
    cases hs : ch.streams[k]? with
    | none =>
      cases hs' : ch'.streams[k]? with
      | none => rfl
      | some s' =>
        obtain ⟨s, hSome⟩ := h.of_slot hs'
        cases hs.symm.trans hSome
    | some s =>
      obtain ⟨s', hs'⟩ := h.to_slot hs
      have hSame := h.stays k s s' (hKept k List.mem_cons_self) hs hs'
      simp only [hs', h.isOwn_eq hSame, hType s s' hSame]

end MmChannel

namespace ChannelWorld

variable {w w' : ChannelWorld} {r : ChannelResults} {own : ChannelWorld → Nat → ChannelWorld}
  {flushType : MmStream → Option CamStreamType}

/-- Every held buffer of a borrowed stream lost one reference. -/
def LinkedReturned (w w' : ChannelWorld) : Prop :=
  ∀ p idx, w'.refcnt p idx + w.ch.heldBufs.countP (goesTo w.ch p idx) = w.refcnt p idx

/-- Every held buffer of a borrowed stream is counted there. -/
def LinkedCounted (w : ChannelWorld) : Prop :=
  ∀ p idx, w.ch.heldBufs.countP (goesTo w.ch p idx) ≤ w.refcnt p idx

/-- What the unlinking of one borrowed stream does. -/
structure UnlinkEffect (w : ChannelWorld) (k : Nat) (flush : Option CamStreamType)
    (w' : ChannelWorld) : Prop where
  slots : MmChannel.Unlinked w.ch w'.ch [k]
  isActive : w'.ch.bundle.isActive = w.ch.bundle.isActive
  state : ∀ p, (w'.linked p).1.state = (w.linked p).1.state
  held : w'.ch.heldBufs = if flush.isSome then [] else w.ch.heldBufs
  count : ∀ p idx, w'.refcnt p idx +
    (flush.elim [] fun t => w.ch.heldBufs.filter (BufDef.flushedBy t)).countP (goesTo w.ch p idx) =
      w.refcnt p idx

theorem unlinkStream_effect {k : Nat} {s : MmStream} {streamType : CamStreamType}
    (hActive : w.LinkedActive) (hDistinct : w.ch.DistinctHandles) (hCounted : w.LinkedCounted)
    (h : w.unlinkStream r k s streamType = .ok w') :
    UnlinkEffect w k
      (if w.ch.bundle.isActive ∧ r.flushAlloc k then some streamType else none) w' := by
  rw [unlinkStream] at h
  split at h
  · cases h
  · rename_i p₀ hLinked
    cases h
    -- the flags of the borrowed stream are no part of what is tracked
    generalize hUnlinked : w.setLinked p₀
      ({ (w.linked p₀).1 with isLinked := false, linkedObj := none }, (w.linked p₀).2) = u
    have hCh : u.ch = w.ch := by rw [← hUnlinked]; rfl
    have hStream : ∀ p, (u.linked p).1.state = (w.linked p).1.state ∧
        ∀ idx, u.refcnt p idx = w.refcnt p idx := by
      intro p
      rw [← hUnlinked]
      by_cases hp : p = p₀
      · subst hp
        simp only [refcnt, setLinked, Function.update_self]
        exact ⟨trivial, fun _ => rfl⟩
      · simp only [refcnt, setLinked, Function.update_of_ne hp]
        exact ⟨trivial, fun _ => trivial⟩
    by_cases hRuns : w.ch.bundle.isActive = true ∧ r.flushAlloc k = true
    · rw [if_pos hRuns]
      obtain ⟨hBundle, hAlloc⟩ := hRuns
      rw [hCh, if_pos hBundle, hAlloc, flushSuperBufQueue_eq, hCh]
      have hTo : MmChannel.Unlinked w.ch ((w.ch.setExpected 0).superbufFlush streamType).1 [] :=
        ⟨rfl, rfl, (MmChannel.Unlinked.refl w.ch).gone, (MmChannel.Unlinked.refl w.ch).stays⟩
      have hActiveTo : ((w.ch.setExpected 0).superbufFlush streamType).1.bundle.isActive =
          w.ch.bundle.isActive := rfl
      have hHeld : ((w.ch.setExpected 0).superbufFlush streamType).1.heldBufs = [] := by
        have hNodes : ((w.ch.setExpected 0).superbufFlush streamType).1.queue.nodes = [] :=
          ChannelQueue.superbufFlush_nodes _ streamType
        rw [MmChannel.heldBufs, hNodes]
        rfl
      generalize ((w.ch.setExpected 0).superbufFlush streamType).1 = flushed at hTo hActiveTo hHeld ⊢
      have hGoes : ∀ p idx, goesTo flushed p idx = goesTo w.ch p idx := by
        intro p idx
        funext buf
        rw [goesTo, goesTo, hTo.route_eq hDistinct]
      have hEnough : ∀ p idx, (w.ch.heldBufs.filter (BufDef.flushedBy streamType)).countP
          (goesTo flushed p idx) ≤ u.refcnt p idx := by
        intro p idx
        rw [hGoes, (hStream p).2]
        exact Nat.le_trans (List.filter_sublist.countP_le) (hCounted p idx)
      obtain ⟨hSame, hSlots, hState, hCount⟩ := qbufs_effect (w := { u with ch := flushed }) r
        (w.ch.heldBufs.filter (BufDef.flushedBy streamType))
        (fun buf p hRoute => ((hStream p).1).trans
          (hActive buf p (by rwa [← hTo.route_eq hDistinct])))
        (hTo.distinct hDistinct) hEnough
      refine ⟨?_, ?_, fun p => (hState p).trans (hStream p).1, ?_, fun p idx => ?_⟩
      · exact (hTo.trans_same hSlots).clear k
      · exact (congrArg ChannelBundle.isActive hSame).trans hActiveTo
      · exact (MmChannel.heldBufs_of_bundle hSame).trans hHeld
      · have h := hCount p idx
        rw [hGoes] at h
        exact h.trans ((hStream p).2 idx)
    · rw [if_neg hRuns]
      have hNoFlush : (if u.ch.bundle.isActive = true then
          u.flushSuperBufQueue r (r.flushAlloc k) streamType else u) = u := by
        rw [hCh]
        split
        · rename_i hBundle
          rw [flushSuperBufQueue, if_neg fun hAlloc => hRuns ⟨hBundle, hAlloc⟩]
        · rfl
      rw [hNoFlush]
      refine ⟨?_, ?_, fun p => (hStream p).1, ?_, fun p idx => (hStream p).2 idx⟩
      · rw [setStream, hCh]
        exact (MmChannel.Unlinked.refl w.ch).clear k
      · rw [setStream, hCh]
      · rw [setStream, hCh]
        rfl

/-- What the loop over the stream objects does to the borrowed streams. -/
structure LoopEffect (w : ChannelWorld) (ks : List Nat) (flush : Option (CamStreamType × List Nat))
    (w' : ChannelWorld) : Prop where
  slots : ∀ k ∈ ks, ∃ s, w.ch.streams[k]? = some s ∧ (w.ch.isOwn s = false → s.linkedStream ≠ none)
  count : ∀ p idx, w'.refcnt p idx + (w.ch.returnedBufs flush).countP (goesTo w.ch p idx) =
    w.refcnt p idx

/-- A later flush gives back what it would have given back at first, except for the slots cleared in
between. -/
theorem returned_count {ch ch' : MmChannel} {cleared : List Nat}
    (h : MmChannel.Unlinked ch ch' cleared) (hDistinct : ch.DistinctHandles)
    (hHeld : ch'.heldBufs = ch.heldBufs) (flush : Option (CamStreamType × List Nat)) (p idx : Nat) :
    (ch'.returnedBufs flush).countP (goesTo ch' p idx) =
      (ch.returnedBufs (flush.map fun f => (f.1, cleared ++ f.2))).countP (goesTo ch p idx) := by
  cases flush with
  | none => rfl
  | some f =>
    rw [Option.map_some, MmChannel.returnedBufs, MmChannel.returnedBufs, hHeld, List.countP_filter,
      List.countP_filter]
    refine List.countP_congr fun buf _ => ?_
    simp only [goesTo, MmChannel.flushedIn, MmChannel.slotNotIn, Bool.and_eq_true, beq_iff_eq,
      List.all_eq_true, bne_iff_ne, ne_eq, h.route_iff hDistinct, h.slot_iff hDistinct]
    constructor
    · rintro ⟨⟨⟨hRoute, hKept⟩, hIdx⟩, hType, hNot⟩
      refine ⟨⟨hRoute, hIdx⟩, hType, ?_⟩
      intro k hk hSlot
      obtain hk | hk := List.mem_append.mp hk
      · exact hKept k hk hSlot
      · exact hNot k hk ⟨fun hCleared => hKept k hCleared hSlot, hSlot⟩
    · rintro ⟨⟨hRoute, hIdx⟩, hType, hNot⟩
      refine ⟨⟨⟨hRoute, ?_⟩, hIdx⟩, hType, ?_⟩
      · exact fun k hk hSlot => hNot k (List.mem_append_left _ hk) hSlot
      · exact fun k hk hSlot => hNot k (List.mem_append_right _ hk) hSlot.2

theorem LoopEffect.cons_own {w₁ : ChannelWorld} {k : Nat} {rest : List Nat} {s : MmStream}
    (h : LoopEffect w₁ rest (w₁.ch.loopFlush flushType r.flushAlloc rest) w')
    (hs : w.ch.streams[k]? = some s) (hIsOwn : w.ch.isOwn s = true) (hFrame : OwnFrame w w₁)
    (hDistinct : w.ch.DistinctHandles)
    (hType : ∀ s s', MmStream.SameStream s s' → flushType s' = flushType s) :
    LoopEffect w (k :: rest) (w.ch.loopFlush flushType r.flushAlloc (k :: rest)) w' := by
  obtain ⟨hLinked, hBundle, hSlots⟩ := hFrame
  refine ⟨?_, fun p idx => ?_⟩
  · intro j hj
    obtain rfl | hj := List.mem_cons.mp hj
    · exact ⟨s, hs, fun hNot => absurd hIsOwn (by rw [hNot]; decide)⟩
    · obtain ⟨t', ht', hTo⟩ := h.slots j hj
      obtain ⟨t, ht⟩ := hSlots.of_slot ht'
      have hSame := hSlots.stays j t t' List.not_mem_nil ht ht'
      rw [hSlots.isOwn_eq hSame, hSame.linkedStream] at hTo
      exact ⟨t, ht, hTo⟩
  · have hFlush : w₁.ch.loopFlush flushType r.flushAlloc rest =
        w.ch.loopFlush flushType r.flushAlloc (k :: rest) := by
      rw [MmChannel.loopFlush, MmChannel.loopFlush, hBundle, MmChannel.firstFlush, hs,
        hSlots.firstFlush_eq hType rest fun _ _ => List.not_mem_nil]
      simp only [hIsOwn, if_true]
    have hKeep := h.count p idx
    have hRefcnt : w₁.refcnt p idx = w.refcnt p idx := by rw [refcnt, refcnt, hLinked]
    rw [returned_count hSlots hDistinct (MmChannel.heldBufs_of_bundle hBundle), hRefcnt,
      hFlush] at hKeep
    simpa using hKeep

/-- After the unlinking of a borrowed stream the other borrowed streams still count what is held. -/
theorem UnlinkEffect.counted {w₁ : ChannelWorld} {k : Nat} {flush : Option CamStreamType}
    (h : UnlinkEffect w k flush w₁) (hDistinct : w.ch.DistinctHandles)
    (hCounted : w.LinkedCounted) : w₁.LinkedCounted := by
  intro p idx
  have hKeep := h.count p idx
  have hBound := hCounted p idx
  rw [h.held]
  cases flush with
  | some streamType => exact Nat.zero_le _
  | none =>
    have hMono : w.ch.heldBufs.countP (goesTo w₁.ch p idx) ≤
        w.ch.heldBufs.countP (goesTo w.ch p idx) := by
      refine List.countP_mono_left fun buf _ hGoes => ?_
      rw [goesTo, Bool.and_eq_true, beq_iff_eq] at hGoes ⊢
      exact ⟨((h.slots.route_iff hDistinct).mp hGoes.1).1, hGoes.2⟩
    change w.ch.heldBufs.countP (goesTo w₁.ch p idx) ≤ _
    rw [Option.elim, List.countP_nil] at hKeep
    omega

/-- The loop goes on after a borrowed stream. A slot that it has cleared does not come again, since
there is no stream to unlink in it. -/
theorem LoopEffect.cons_borrowed {w₁ : ChannelWorld} {k : Nat} {rest : List Nat} {s : MmStream}
    {streamType : CamStreamType}
    (h : LoopEffect w₁ rest (w₁.ch.loopFlush flushType r.flushAlloc rest) w')
    (hs : w.ch.streams[k]? = some s) (hIsOwn : ¬ w.ch.isOwn s = true)
    (hTo : s.linkedStream ≠ none) (hStreamType : flushType s = some streamType)
    (hUnlink : UnlinkEffect w k
      (if w.ch.bundle.isActive ∧ r.flushAlloc k then some streamType else none) w₁)
    (hDistinct : w.ch.DistinctHandles)
    (hType : ∀ s s', MmStream.SameStream s s' → flushType s' = flushType s) :
    LoopEffect w (k :: rest) (w.ch.loopFlush flushType r.flushAlloc (k :: rest)) w' := by
  obtain ⟨hSlots, hBundle, _, hHeld, hCount₁⟩ := hUnlink
  have hSlotsRest : ∀ j ∈ rest, j ∉ [k] ∧ ∃ t, w.ch.streams[j]? = some t ∧
      (w.ch.isOwn t = false → t.linkedStream ≠ none) := by
    intro j hj
    obtain ⟨t', ht', hLink⟩ := h.slots j hj
    obtain ⟨t, ht⟩ := hSlots.of_slot ht'
    by_cases hjk : j ∈ [k]
    · have hGone := hSlots.gone j t' hjk ht'
      have hNotOwn : w₁.ch.isOwn t' = false := by
        rw [MmChannel.isOwn, hGone.chObj]
        rfl
      exact absurd hGone.linkedStream (hLink hNotOwn)
    · have hSame := hSlots.stays j t t' hjk ht ht'
      rw [hSlots.isOwn_eq hSame, hSame.linkedStream] at hLink
      exact ⟨hjk, t, ht, hLink⟩
  refine ⟨?_, fun p idx => ?_⟩
  · intro j hj
    obtain rfl | hj := List.mem_cons.mp hj
    · exact ⟨s, hs, fun _ => hTo⟩
    · exact (hSlotsRest j hj).2
  · have hKeep := h.count p idx
    have hKeep₁ := hCount₁ p idx
    have hFlush : w.ch.loopFlush flushType r.flushAlloc (k :: rest) =
        if w.ch.bundle.isActive ∧ r.flushAlloc k then some (streamType, [])
        else (w₁.ch.loopFlush flushType r.flushAlloc rest).map fun f => (f.1, [k] ++ f.2) := by
      have hFirst : w₁.ch.firstFlush flushType r.flushAlloc rest =
          w.ch.firstFlush flushType r.flushAlloc rest :=
        hSlots.firstFlush_eq hType rest fun j hj => (hSlotsRest j hj).1
      rw [MmChannel.loopFlush, MmChannel.loopFlush, hBundle, hFirst, MmChannel.firstFlush, hs]
      simp only [hIsOwn, hStreamType, Option.map_some]
      cases w.ch.bundle.isActive with
      | false => rfl
      | true => cases r.flushAlloc k <;> rfl
    rw [hFlush]
    by_cases hRuns : w.ch.bundle.isActive = true ∧ r.flushAlloc k = true
    · rw [if_pos hRuns] at hHeld hKeep₁ ⊢
      have hNothing : w₁.ch.returnedBufs (w₁.ch.loopFlush flushType r.flushAlloc rest) = [] := by
        rw [MmChannel.returnedBufs.eq_def]
        split
        · rfl
        · rw [hHeld]
          rfl
      have hAll : w.ch.returnedBufs (some (streamType, [])) =
          w.ch.heldBufs.filter (BufDef.flushedBy streamType) := by
        rw [MmChannel.returnedBufs]
        congr 1
        funext buf
        exact Bool.and_true _
      rw [hNothing] at hKeep
      rw [hAll, ← hKeep₁, ← hKeep]
      rfl
    · rw [if_neg hRuns] at hHeld hKeep₁ ⊢
      rw [returned_count hSlots hDistinct hHeld] at hKeep
      exact hKeep.trans hKeep₁

theorem forStreams_effect (hOwn : ∀ w k, OwnFrame w (own w k))
    (hType : ∀ s s', MmStream.SameStream s s' → flushType s' = flushType s) (ks : List Nat)
    (hActive : w.LinkedActive) (hDistinct : w.ch.DistinctHandles) (hCounted : w.LinkedCounted)
    (h : forStreams own flushType r ks w = .ok w') :
    LoopEffect w ks (w.ch.loopFlush flushType r.flushAlloc ks) w' := by
  induction ks generalizing w with
  | nil =>
    have hSame : w = w' := Except.ok.inj h
    subst hSame
    refine ⟨fun k hk => absurd hk List.not_mem_nil, fun p idx => ?_⟩
    have hNone : w.ch.loopFlush flushType r.flushAlloc [] = none := by
      rw [MmChannel.loopFlush]
      split <;> rfl
    rw [hNone]
    rfl
  | cons k rest ih =>
    rw [forStreams] at h
    split at h
    · cases h
    · rename_i s hs
      split at h
      · rename_i hIsOwn
        have hFrame := hOwn w k
        have hRoute := hFrame.slots.route_eq hDistinct
        have hGoes : ∀ p idx, goesTo (own w k).ch p idx = goesTo w.ch p idx := by
          intro p idx
          funext buf
          rw [goesTo, goesTo, hRoute]
        have hCounted' : (own w k).LinkedCounted := by
          intro p idx
          rw [hGoes, MmChannel.heldBufs_of_bundle hFrame.bundle, refcnt, hFrame.linked]
          exact hCounted p idx
        have hActive' : (own w k).LinkedActive := by
          intro buf p hTo
          rw [hFrame.linked]
          exact hActive buf p (by rwa [← hRoute])
        have hRest := ih hActive' (hFrame.slots.distinct hDistinct) hCounted' h
        exact hRest.cons_own hs hIsOwn hFrame hDistinct hType
      · rename_i hIsOwn
        split at h
        · cases h
        · rename_i streamType hStreamType
          split at h
          · cases h
          · rename_i w₁ hUnlink
            have hEffect := unlinkStream_effect hActive hDistinct hCounted hUnlink
            have hTo : s.linkedStream ≠ none := by
              intro hNone
              rw [unlinkStream, hNone] at hUnlink
              cases hUnlink
            have hActive' : w₁.LinkedActive := fun buf p hRoute =>
              (hEffect.state p).trans
                (hActive buf p ((hEffect.slots.route_iff hDistinct).mp hRoute).1)
            have hRest := ih hActive' (hEffect.slots.distinct hDistinct)
              (hEffect.counted hDistinct hCounted) h
            exact hRest.cons_borrowed hs hIsOwn hTo hStreamType hEffect hDistinct hType

/-- The borrowed streams get all their held buffers back iff the first flush gives them back. -/
theorem LoopEffect.returned_iff {ks : List Nat} {flush : Option (CamStreamType × List Nat)}
    (h : LoopEffect w ks flush w') : LinkedReturned w w' ↔ w.ch.FlushReturns flush := by
  have hCounts : LinkedReturned w w' ↔ ∀ p idx, (w.ch.returnedBufs flush).countP (goesTo w.ch p idx) =
      w.ch.heldBufs.countP (goesTo w.ch p idx) := by
    constructor
    · intro hReturned p idx
      have hKeep := h.count p idx
      have hLost := hReturned p idx
      omega
    · intro hEq p idx
      rw [← hEq p idx]
      exact h.count p idx
  have hGoes : ∀ buf p, w.ch.route buf = some p ↔ goesTo w.ch p buf.bufIdx buf = true := by
    intro buf p
    rw [goesTo, beq_self_eq_true, Bool.and_true, beq_iff_eq]
  have hRouted : ∀ {p idx buf}, goesTo w.ch p idx buf = true → w.ch.route buf = some p := by
    intro p idx buf hTo
    rw [goesTo, Bool.and_eq_true, beq_iff_eq] at hTo
    exact hTo.1
  rw [hCounts]
  cases flush with
  | none =>
    constructor
    · intro hZero buf hBuf
      cases hRoute : w.ch.route buf with
      | none => rfl
      | some p =>
        have hNot := List.countP_eq_zero.mp (hZero p buf.bufIdx).symm buf hBuf
        exact absurd ((hGoes buf p).mp hRoute) hNot
    · intro hNone p idx
      refine (List.countP_eq_zero.mpr fun buf hBuf hTo => ?_).symm
      cases (hNone buf hBuf).symm.trans (hRouted hTo)
  | some f =>
    simp only [MmChannel.returnedBufs, Lib.countP_filter_eq_iff]
    constructor
    · intro hIn buf hBuf hRoute
      obtain ⟨p, hTo⟩ := Option.ne_none_iff_exists'.mp hRoute
      exact hIn p buf.bufIdx buf hBuf ((hGoes buf p).mp hTo)
    · intro hIn p idx buf hBuf hTo
      exact hIn buf hBuf (by rw [hRouted hTo]; exact Option.some_ne_none p)

theorem putOwns_linked (r : ChannelResults) (ks : List Nat) (w : ChannelWorld) (p idx : Nat) :
    (putOwns r ks w).refcnt p idx = w.refcnt p idx := by
  rw [refcnt, (putOwns_frame r ks w).linked, refcnt]

/-- When `mm_channel_stop` returns, and when the error handling of `mm_channel_start` returns, each
held buffer of a borrowed stream lost its reference exactly if the first flush that runs is of its
type and its slot was not cleared before that flush. -/
theorem stop_returns_linked_iff (w : ChannelWorld) (r : ChannelResults)
    (hDistinct : w.ch.DistinctHandles) (hActive : w.LinkedActive) (hCounted : w.LinkedCounted) :
    (∀ sObjs w', w.ch.stopOrder = .ok sObjs → w.stop r = .ok w' →
      (LinkedReturned w w' ↔ w.ch.FlushReturns (w.ch.loopFlush
        (fun s => s.streamInfo.map StreamInfo.streamType) r.flushAlloc sObjs))) ∧
    ∀ sObjs i w', w.startErrorHandling r sObjs i = .ok w' →
      (LinkedReturned w w' ↔ w.ch.FlushReturns (w.ch.loopFlush
        (fun _ => w.failedType sObjs i) r.flushAlloc (sObjs.take (i + 1)))) := by
  constructor
  · intro sObjs w' hOrder h
    rw [stop, hOrder] at h
    simp only at h
    split at h
    · cases h
    · rename_i w₁ hLoop
      cases h
      have hEffect := forStreams_effect (stopOwn_frame r) (fun s s' hSame => hSame.streamType)
        sObjs hActive hDistinct hCounted hLoop
      rw [← hEffect.returned_iff]
      have hLinked : ∀ p idx, (putOwns r sObjs { w₁ with ch := w₁.ch.releaseBundle }).refcnt p idx =
          w₁.refcnt p idx := fun p idx => putOwns_linked r sObjs _ p idx
      simp only [LinkedReturned, hLinked]
  · intro sObjs i w' h
    rw [startErrorHandling] at h
    split at h
    · cases h
    · rename_i w₁ hLoop
      cases h
      have hUndo : ∀ w k, OwnFrame w (putOwn r (stopOwn r w k) k) := fun w k =>
        (stopOwn_frame r w k).trans (putOwn_frame r _ k)
      exact (forStreams_effect hUndo (fun _ _ _ => rfl) _ hActive hDistinct hCounted
        hLoop).returned_iff

/-- A stream of another channel with one buffer, held once. -/
def heldStream (p : Nat) : MmStream where
  myHdl := p
  state := .active
  bufNum := 1
  bufStatus := some [{ bufRefcnt := 1 }]

/-- The slot of a borrowed stream. -/
def borrowedSlot (p : Nat) (streamType : CamStreamType) : MmStream :=
  { heldStream p with
    streamInfo := some { streamType, numBufs := 1 }
    chObj := some 0x200
    linkedStream := some p }

/-- The held buffer of a borrowed stream. -/
def heldBuf (p : Nat) (streamType : CamStreamType) : BufDef := ⟨p, streamType, 0, 1, none⟩

/-- A channel that borrows a preview stream and a second stream, with a buffer of each in a
superbuf, while no allocation fails. -/
def twoBorrowed (second : CamStreamType) : ChannelWorld where
  ch :=
    { myHdl := 0x300
      state := .active
      streams := [borrowedSlot 0x100 .preview, borrowedSlot 0x101 second]
      bundle :=
        { isActive := true
          superBufNotifyCb := some 1
          superbufQueue :=
            { nodes := [{
                superBuf := [some ⟨0x100, 1, heldBuf 0x100 .preview⟩,
                  some ⟨0x101, 1, heldBuf 0x101 second⟩]
                matched := true
                frameIdx := 1 }]
              size := 1
              matchCnt := 1
              bundledStreams := [0x100, 0x101] } } }
  driver := ⟨fun _ => 0, fun _ => 0⟩
  linked := fun p => (heldStream p, ⟨fun _ => 1, fun _ => 0⟩)

/-- Everything that is asked of the outside succeeds. -/
def allGood : ChannelResults where
  streams := fun _ => ⟨none, true, true, fun _ => .queued, true⟩
  linked := fun _ => ⟨none, true, true, fun _ => .queued, true⟩
  flushAlloc := fun _ => true

theorem twoBorrowed_distinct (second : CamStreamType) :
    (twoBorrowed second).ch.DistinctHandles := by
  rintro (_ | _ | i) (_ | _ | j) s t hs ht _ _ hHdl
  all_goals cases hs
  all_goals cases ht
  · rfl
  · cases hHdl
  · cases hHdl
  · rfl

theorem twoBorrowed_active (second : CamStreamType) : (twoBorrowed second).LinkedActive :=
  fun _ _ _ => rfl

theorem twoBorrowed_counted (second : CamStreamType) : (twoBorrowed second).LinkedCounted := by
  intro p idx
  have hHeld : (twoBorrowed second).ch.heldBufs =
      [heldBuf 0x100 .preview, heldBuf 0x101 second] := rfl
  have hPreview : (twoBorrowed second).ch.route (heldBuf 0x100 .preview) = some 0x100 := rfl
  have hSecond : (twoBorrowed second).ch.route (heldBuf 0x101 second) = some 0x101 := rfl
  rw [hHeld]
  cases idx with
  | succ idx =>
    have hNone : [heldBuf 0x100 .preview, heldBuf 0x101 second].countP
        (goesTo (twoBorrowed second).ch p (idx + 1)) = 0 := by
      rw [List.countP_eq_zero]
      intro buf hBuf hTo
      obtain rfl | rfl := List.mem_pair.mp hBuf
      all_goals
        rw [goesTo, Bool.and_eq_true, beq_iff_eq, beq_iff_eq] at hTo
        cases hTo.2
    rw [hNone]
    exact Nat.zero_le _
  | zero =>
    change _ ≤ 1
    rw [List.countP_cons, List.countP_singleton, goesTo, goesTo, hPreview, hSecond]
    by_cases hp : p = 0x100
    · subst hp
      exact Nat.le_refl 1
    · have hNe : (some 0x100 == some p) = false := by
        rw [beq_eq_false_iff_ne]
        rintro ⟨⟩
        exact hp rfl
      rw [hNe]
      split <;> simp

/-- Two borrowed streams of one type get their buffers back. -/
theorem stop_returns_linked_iff_preview : ∃ w', (twoBorrowed .preview).stop allGood = .ok w' ∧
    LinkedReturned (twoBorrowed .preview) w' := by
  refine ⟨_, rfl, ?_⟩
  have h := (stop_returns_linked_iff (twoBorrowed .preview) allGood
    (twoBorrowed_distinct .preview) (twoBorrowed_active .preview)
    (twoBorrowed_counted .preview)).1 [1, 0] _ rfl rfl
  refine h.mpr ?_
  intro buf hBuf _
  obtain rfl | rfl := List.mem_pair.mp (show buf ∈ [heldBuf 0x100 .preview, heldBuf 0x101 .preview]
    from hBuf) <;> rfl

/-- Of two borrowed streams of different types the one that is not flushed first keeps its buffer
counted for ever. -/
theorem stop_loses_preview : ∃ w w' : ChannelWorld, ∃ r : ChannelResults,
    w.ch.state = .active ∧ w.ch.DistinctHandles ∧ w.LinkedActive ∧ w.LinkedCounted ∧
      w.stop r = .ok w' ∧ ¬ LinkedReturned w w' := by
  refine ⟨twoBorrowed .video, _, allGood, rfl, twoBorrowed_distinct .video,
    twoBorrowed_active .video, twoBorrowed_counted .video, rfl, ?_⟩
  intro hReturned
  exact absurd (hReturned 0x100 0) (by decide)

end ChannelWorld

end KiwiDevice.Camera

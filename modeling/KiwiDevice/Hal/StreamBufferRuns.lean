import KiwiDevice.Hal.StreamBuffers

/-!
# Acquired buffers of a stream

A loop that maps buffers has mapped those before the one at which it fails. While the buffers are
there no mapped index is above the count, so a release unmaps them all.
-/

namespace KiwiDevice.Hal

open Lib (Account)

variable {i j k n first : Nat} {e : StreamEvent} {es events : List StreamEvent} {m : StreamMemory}
  {map : Nat → Int} {a : AcquireAnswers} {held : Multiset StreamResource}

theorem stillMapped_snoc :
    StillMapped i (es ++ [e]) ↔ e = .mapped i ∨ e ≠ .unmapped i ∧ StillMapped i es :=
  Lib.since_snoc

theorem stillMapped_append (h : StillMapped i (es ++ events)) :
    StillMapped i es ∨ .mapped i ∈ events := by
  induction events generalizing es with
  | nil => exact .inl (by rwa [List.append_nil] at h)
  | cons e events ih =>
    rw [List.append_cons] at h
    rcases ih h with hBefore | hLater
    · rcases stillMapped_snoc.mp hBefore with rfl | ⟨-, hMapped⟩
      · exact .inr List.mem_cons_self
      · exact .inl hMapped
    · exact .inr (List.mem_cons_of_mem _ hLater)

namespace QCameraStream

theorem unmapAll_succ (n : Nat) : unmapAll (n + 1) = unmapAll n ++ [.unmapped n] := by
  rw [unmapAll, List.range_succ, List.map_append]
  rfl

theorem stillMapped_unmapAll (h : StillMapped i (es ++ unmapAll n)) : n ≤ i ∧ StillMapped i es := by
  induction n with
  | zero => exact ⟨Nat.zero_le i, by rwa [unmapAll, List.range_zero, List.map_nil, List.append_nil] at h⟩
  | succ n ih =>
    rw [unmapAll_succ, ← List.append_assoc, stillMapped_snoc] at h
    rcases h with h | ⟨hNe, h⟩
    · cases h
    · obtain ⟨hLe, hRest⟩ := ih h
      refine ⟨Nat.lt_of_le_of_ne hLe ?_, hRest⟩
      rintro rfl
      exact hNe rfl

/-! ## The mapping loop -/

/-- What the loop does when it maps `k` of its `n` buffers. -/
structure Maps (map : Nat → Int) (n i k : Nat) (r : List StreamEvent × MapResult) : Prop where
  events : r.1 = (List.range' i k).map .mapped
  mapped : ∀ j, i ≤ j → j < i + k → 0 ≤ map j
  result : k = n ∧ r.2 = .all ∨ k < n ∧ map (i + k) < 0 ∧ r.2 = .failed (i + k)

theorem getSize_ne (hRoom : i < m.bufferCount) : m.getSize i ≠ StreamMemory.badIndex := by
  rw [StreamMemory.getSize, if_neg (Nat.not_le_of_lt hRoom), StreamMemory.badIndex]
  omega

theorem mapLoop_spec (m : StreamMemory) (map : Nat → Int) (n i : Nat)
    (hRoom : i + n ≤ m.bufferCount) : ∃ k, Maps map n i k (mapLoop m map n i) := by
  induction n generalizing i with
  | zero => exact ⟨0, rfl, by omega, .inl ⟨rfl, rfl⟩⟩
  | succ n ih =>
    rw [mapLoop, if_neg (getSize_ne (by omega))]
    split
    · rename_i hFail
      exact ⟨0, rfl, by omega, .inr ⟨Nat.succ_pos n, hFail, rfl⟩⟩
    · rename_i hOk
      obtain ⟨k, hEvents, hMapped, hResult⟩ := ih (i + 1) (by omega)
      refine ⟨k + 1, ?_, ?_, ?_⟩
      · rw [List.range'_succ, List.map_cons, ← hEvents]
      · intro j hLo hHi
        rcases Nat.eq_or_lt_of_le hLo with rfl | hLt
        · exact Int.not_lt.mp hOk
        · exact hMapped j hLt (by omega)
      · rw [Nat.add_assoc, Nat.add_comm 1] at hResult
        rcases hResult with ⟨rfl, hAll⟩ | ⟨hLt, hFail, hFailed⟩
        · exact .inl ⟨rfl, hAll⟩
        · exact .inr ⟨Nat.succ_lt_succ hLt, hFail, hFailed⟩

/-- The resources of `k` mapped buffers. -/
def mappings (k : Nat) : Multiset StreamResource := Multiset.ofList ((List.range k).map .mapping)

/-- The account after the mapping of the buffers before `k`. -/
theorem account_mapped (k : Nat) : Account StreamEvent.effect
    (.allocated :: (List.range' 0 k).map .mapped) (mappings k + {.memory}) := by
  rw [← List.range_eq_range']
  have hMemory : Account StreamEvent.effect [.allocated] {.memory} := Account.start.take rfl
  exact hMemory.takes (f := .mapped) (g := .mapping) (List.range k) fun _ => rfl

theorem account_unmapped (h : Account StreamEvent.effect es (mappings n + held)) :
    Account StreamEvent.effect (es ++ unmapAll n) held :=
  h.gives (List.range n) fun _ => rfl

theorem account_failed (k : Nat) : Account StreamEvent.effect
    (.allocated :: ((List.range' 0 k).map .mapped ++ (unmapAll k ++ [.deallocated]))) 0 := by
  have hUnmapped : Account StreamEvent.effect
      (.allocated :: (List.range' 0 k).map .mapped ++ unmapAll k) (.memory ::ₘ 0) :=
    account_unmapped (account_mapped k)
  have hReturned := hUnmapped.give (e := .deallocated) rfl
  rwa [List.append_assoc] at hReturned

theorem account_noBufDefs (n : Nat) : Account StreamEvent.effect
    (.allocated :: ((List.range' 0 n).map .mapped ++
      (.regFlagsAllocated :: (unmapAll n ++ [.deallocated, .regFlagsFreed])))) 0 := by
  have hTaken := (account_mapped n).take (e := .regFlagsAllocated) rfl
  rw [← Multiset.add_cons] at hTaken
  have hSwap : (.regFlags ::ₘ {.memory} : Multiset StreamResource) = .memory ::ₘ .regFlags ::ₘ 0 := by
    decide
  have hUnmapped := account_unmapped hTaken
  rw [hSwap] at hUnmapped
  have hReturned := (hUnmapped.give (e := .deallocated) rfl).give (e := .regFlagsFreed) rfl
  simpa only [List.append_assoc, List.cons_append, List.nil_append] using hReturned

theorem account_noRegFlags (n : Nat) : Account StreamEvent.effect
    (.allocated :: ((List.range' 0 n).map .mapped ++ (.regFlagsAllocated :: .bufDefsAllocated ::
      (unmapAll n ++ [.deallocated, .bufDefsFreed, .regFlagsFreed])))) 0 := by
  have hTaken := ((account_mapped n).take (e := .regFlagsAllocated) rfl).take
    (e := .bufDefsAllocated) rfl
  rw [← Multiset.add_cons, ← Multiset.add_cons] at hTaken
  have hSwap : (.bufDefs ::ₘ .regFlags ::ₘ {.memory} : Multiset StreamResource) =
      .memory ::ₘ .bufDefs ::ₘ .regFlags ::ₘ 0 := by
    decide
  have hUnmapped := account_unmapped hTaken
  rw [hSwap] at hUnmapped
  have hReturned := ((hUnmapped.give (e := .deallocated) rfl).give (e := .bufDefsFreed) rfl).give
    (e := .regFlagsFreed) rfl
  simpa only [List.append_assoc, List.cons_append, List.nil_append] using hReturned

/-- The arrays after a mapping of all buffers: either everything is given back, or they
are there. -/
theorem arrays_spec (a : AcquireAnswers) (n : Nat) :
    ((arrays a n).2 < 0 ∧ Account StreamEvent.effect
      (.allocated :: ((List.range' 0 n).map .mapped ++ (arrays a n).1)) 0) ∨
    ((arrays a n).2 = 0 ∧ (arrays a n).1 = [.regFlagsAllocated, .bufDefsAllocated]) := by
  have hInvalid : invalidOperation < 0 := by decide
  have hMemory : noMemory < 0 := by decide
  rw [arrays]
  split
  · split
    · split
      · exact .inl ⟨hInvalid, account_noRegFlags n⟩
      · exact .inr ⟨rfl, rfl⟩
    · exact .inl ⟨hInvalid, account_noBufDefs n⟩
  · exact .inl ⟨hMemory, account_failed n⟩

/-! ## The acquisitions -/

variable {s s' : QCameraStream} {c : Acquire} {opsTbl : Bool}

/-- What an acquisition leaves: everything given back, or buffers below the count mapped. -/
structure Acquired (events : List StreamEvent) (s : QCameraStream) : Prop where
  streamBufs : s.streamBufs.isSome
  bufDefs : s.bufDefs = true
  inside : ∀ i, StillMapped i events → i < s.numBufs

theorem mapped_inside (hMapped : StillMapped i
    (.allocated :: ((List.range' 0 n).map .mapped ++ [.regFlagsAllocated, .bufDefsAllocated]))) :
    i < n := by
  obtain ⟨before, e, since, hSplit, rfl, -⟩ := hMapped
  have hMem : StreamEvent.mapped i ∈ StreamEvent.allocated ::
      ((List.range' 0 n).map .mapped ++ [.regFlagsAllocated, .bufDefsAllocated]) := by
    rw [hSplit]
    exact List.mem_append_right _ List.mem_cons_self
  simpa using hMem

theorem split_spec (s : QCameraStream) :
    s.split.2 + s.split.1.numBufsNeedAlloc = s.numBufs ∧ s.split.1.bufDefs = s.bufDefs := by
  rw [split]
  split
  · split
    · exact ⟨Nat.add_zero _, rfl⟩
    · rename_i hRoom
      exact ⟨Nat.add_sub_cancel' (Nat.le_of_not_lt hRoom), rfl⟩
  · exact ⟨Nat.add_zero _, rfl⟩

theorem Acquired.startThread {create : Bool} (h : Acquired events s) :
    Acquired events (s.startThread create) := by
  rw [QCameraStream.startThread]
  split
  · exact ⟨h.streamBufs, h.bufDefs, h.inside⟩
  · exact h

theorem getBufs_spec (hIdle : s.Idle) (opsTbl : Bool) (a : AcquireAnswers) :
    ((s.getBufs opsTbl a).2.2 < 0 ∧
      RolledBack (s.getBufs opsTbl a).2.1 (s.getBufs opsTbl a).1) ∨
    ((s.getBufs opsTbl a).2.2 = 0 ∧
      Acquired (s.getBufs opsTbl a).2.1 (s.getBufs opsTbl a).1) := by
  have hInvalid : invalidOperation < 0 := by decide
  have hMemory : noMemory < 0 := by decide
  obtain ⟨hSum, hDefs⟩ := s.split_spec
  have hCount : (s.split.2 + s.split.1.numBufsNeedAlloc) % 256 = s.numBufs := by
    rw [hSum, Nat.mod_eq_of_lt hIdle.numBufs]
  have hLe : s.split.2 ≤ s.numBufs := by omega
  have hNone := hDefs.trans hIdle.bufDefs
  rw [getBufs]
  dsimp only
  rw [hCount]
  split
  · cases a.allocate with
    | none => exact .inl ⟨hMemory, .start, rfl, hNone⟩
    | some size =>
      dsimp only
      obtain ⟨k, hEvents, -, hResult⟩ := mapLoop_spec ⟨s.split.2, size⟩ a.map s.split.2 0
        (Nat.zero_add _).le
      rw [hEvents]
      rcases hResult with ⟨rfl, hAll⟩ | ⟨-, -, hFailed⟩
      · rw [hAll]
        dsimp only
        rcases arrays_spec a s.split.2 with ⟨hLess, hAccount⟩ | ⟨hOk, hArrays⟩
        · rw [if_pos hLess]
          exact .inl ⟨hLess, hAccount, rfl, hNone⟩
        · rw [if_neg (by omega), hArrays]
          refine .inr ⟨rfl, Acquired.startThread ⟨rfl, rfl, fun i hi => ?_⟩⟩
          exact Nat.lt_of_lt_of_le (mapped_inside hi) hLe
      · rw [hFailed, Nat.zero_add]
        exact .inl ⟨hInvalid, account_failed k, rfl, hNone⟩
  · exact .inl ⟨hInvalid, .start, hIdle.streamBufs, hIdle.bufDefs⟩

/-- The buffer that the cleanup unmaps instead of the first one leaves the first one mapped. -/
theorem not_account_replicate (hPos : 0 < k) : ¬ Account StreamEvent.effect (.allocated ::
    ((List.range' 0 k).map .mapped ++ (List.replicate k (.unmapped k) ++ [.deallocated]))) 0 := by
  intro hAccount
  have hFirst : StreamEvent.mapped 0 ∈ StreamEvent.allocated ::
      ((List.range' 0 k).map .mapped ++ (List.replicate k (.unmapped k) ++ [.deallocated])) := by
    simp [hPos]
  obtain ⟨e, hMem, hGive⟩ := hAccount.given hFirst rfl
  cases e <;> cases hGive
  simp at hMem
  omega

theorem allocateBuffers_spec (hIdle : s.Idle) (a : AcquireAnswers) :
    ((s.allocateBuffers a).2.2 < 0 ∧
      (RolledBack (s.allocateBuffers a).2.1 (s.allocateBuffers a).1 ↔
        s.Spared (.allocateBuffers a))) ∨
    ((s.allocateBuffers a).2.2 = 0 ∧
      Acquired (s.allocateBuffers a).2.1 (s.allocateBuffers a).1 ∧
        s.Spared (.allocateBuffers a)) := by
  have hInvalid : invalidOperation < 0 := by decide
  have hMemory : noMemory < 0 := by decide
  rw [allocateBuffers, Spared]
  cases a.allocate with
  | none =>
    refine .inl ⟨hMemory, fun _ h => ?_, fun _ => ⟨.start, rfl, hIdle.bufDefs⟩⟩
    cases h
  | some size =>
    dsimp only
    obtain ⟨k, hEvents, hMapped, hResult⟩ := mapLoop_spec ⟨s.numBufs, size⟩ a.map s.numBufs 0
      (Nat.zero_add _).le
    rw [hEvents]
    rcases hResult with ⟨rfl, hAll⟩ | ⟨hLt, hFail, hFailed⟩
    · have hSpared : a.map 0 < 0 ∨ ∀ i < s.numBufs, 0 ≤ a.map i :=
        .inr fun i hi => hMapped i (Nat.zero_le i) (by omega)
      rw [hAll]
      dsimp only
      rcases arrays_spec a s.numBufs with ⟨hLess, hAccount⟩ | ⟨hOk, hArrays⟩
      · rw [if_pos hLess]
        exact .inl ⟨hLess, fun _ _ => hSpared, fun _ => ⟨hAccount, rfl, hIdle.bufDefs⟩⟩
      · rw [if_neg (by omega), hArrays]
        exact .inr ⟨rfl, ⟨rfl, rfl, fun i hi => mapped_inside hi⟩, fun _ => hSpared⟩
    · rw [hFailed]
      rw [Nat.zero_add] at hFail hMapped ⊢
      refine .inl ⟨hInvalid, ?_⟩
      rcases Nat.eq_zero_or_pos k with rfl | hPos
      · exact ⟨fun _ _ => .inl hFail, fun _ => ⟨account_failed 0, rfl, hIdle.bufDefs⟩⟩
      · constructor
        · exact fun h => absurd h.1 (not_account_replicate hPos)
        · intro hSpared
          rcases hSpared rfl with hFirst | hAll
          · have hFine := hMapped 0 (Nat.zero_le 0) hPos
            omega
          · have hFine := hAll k hLt
            omega

end QCameraStream

end KiwiDevice.Hal

import KiwiDevice.Lib.Steps

/-!
# Linked streams of a HAL channel

`QCameraChannel` keeps pointers to its own streams and to streams of other channels in one list.
-/

namespace KiwiDevice.Hal

/-- What a channel reads of a `QCameraStream`. -/
structure HalStream where
  handle : Nat
  channelHandle : Nat
  serverId : Nat
  isMetadata : Bool := false
  deriving DecidableEq, Repr

inductive StreamCall where
  | start
  | stop
  | setParameter
  | condSignal
  | bufDone (bufIdx : Nat)
  deriving DecidableEq, Repr

/-- `added` are the own streams in the order they were added; the program does not keep it. -/
structure HalChannel where
  handle : Nat
  isActive : Bool := false
  streams : List HalStream := []
  added : List HalStream := []

/-- The answers of `m_camOps` and of the streams to one start. -/
structure StartResults where
  bundleInfo : Option (List Nat)
  setParameter : HalStream → Bool
  startChannel : Bool

namespace HalChannel

/-- `addStream` makes a stream of the channel, `linkStream` borrows one of another channel. A buffer
of `bufDone` has its stream and its index. -/
inductive Input where
  | addStream (handle serverId : Nat) (isMetadata initialised : Bool)
  | linkStream (s : HalStream) (linked : Bool)
  | start (r : StartResults)
  | stop
  | bufDone (bufs : List (Option (Nat × Nat)))

abbrev Event := HalStream × StreamCall

variable (c : HalChannel)

def isOwn (s : HalStream) : Bool := c.handle = s.channelHandle

/-- `MAX_STREAM_NUM_IN_BUNDLE`. -/
def maxStreams : Nat := 4

def addStream (s : HalStream) (initialised : Bool) : HalChannel :=
  if maxStreams ≤ c.streams.length then c
  else if initialised then { c with streams := c.streams ++ [s], added := c.added ++ [s] }
  else c

def linkStream (s : HalStream) (linked : Bool) : HalChannel :=
  if c.handle = 0 then c
  else if linked then { c with streams := c.streams ++ [s] }
  else c

/-- The loop that tells the streams of the bundle, and whether it gets through. -/
def setBundleInfo (r : StartResults) : List Nat → List Event × Bool
  | [] => ([], true)
  | serverId :: rest =>
    match c.streams.find? (·.serverId = serverId) with
    | none => setBundleInfo r rest
    | some s =>
      if s.isMetadata then setBundleInfo r rest
      else if r.setParameter s then
        let told := setBundleInfo r rest
        ((s, .setParameter) :: told.1, told.2)
      else ([(s, .setParameter)], false)

/-- The part of `start` for a channel with more than one stream. -/
def bundle (r : StartResults) : List Event × Bool :=
  if 1 < c.streams.length then
    match r.bundleInfo with
    | none => ([], false)
    | some ids => if 1 < ids.length then c.setBundleInfo r ids else ([], true)
  else ([], true)

def ownCalls (call : StreamCall) : List Event := (c.streams.filter c.isOwn).map (·, call)

def start (r : StartResults) : HalChannel × List Event :=
  let told := c.bundle r
  if told.2 then
    if r.startChannel then
      ({ c with isActive := true },
        told.1 ++ c.ownCalls .start ++ c.streams.map (·, .condSignal))
    else (c, told.1 ++ c.ownCalls .start ++ c.ownCalls .stop)
  else (c, told.1)

/-- `linkedIdx` after the scan of these streams, which begin at the index `i`. -/
def linkedIdx : List HalStream → Nat → Int → Int
  | [], _, idx => idx
  | s :: rest, i, idx => linkedIdx rest (i + 1) (if c.isOwn s then idx else i)

def stop : HalChannel × List Event :=
  let idx := c.linkedIdx c.streams 0 (-1)
  ({ c with
      streams := if 0 < idx then c.streams.eraseIdx idx.toNat else c.streams
      isActive := false }, c.ownCalls .stop)

def bufDone : List (Option (Nat × Nat)) → List Event
  | [] => []
  | none :: rest => bufDone rest
  | some (streamId, bufIdx) :: rest =>
    match c.streams.find? (·.handle = streamId) with
    | some s => (s, .bufDone bufIdx) :: bufDone rest
    | none => bufDone rest

def step (c : HalChannel) : Input → Option (HalChannel × List Event)
  | .addStream handle serverId isMetadata initialised =>
    some (c.addStream ⟨handle, c.handle, serverId, isMetadata⟩ initialised, [])
  | .linkStream s linked => if c.isOwn s then none else some (c.linkStream s linked, [])
  | .start r => some (c.start r)
  | .stop => some c.stop
  | .bufDone bufs => some (c, c.bufDone bufs)

def Next (c : HalChannel) (i : Input) (events : List Event) (c' : HalChannel) : Prop :=
  c.step i = some (c', events)

/-- The steps after which no other stream has come in. -/
def Unlinking (_ : List Input) (_ : List Event) (_ : HalChannel) (i : Input) (_ : List Event) :
    Prop := ∀ s linked, i ≠ .linkStream s linked

/-- The list is what was added, and however the channel is used without a new link, it calls its own
streams only. -/
def Forgets (c : HalChannel) : Prop :=
  c.streams = c.added ∧
    ∀ inputs events c', Lib.Steps Next Unlinking c inputs events c' →
      ∀ e ∈ events, c.isOwn e.1 = true

/-- At most one linked stream, and not as the first. -/
def Removable (c : HalChannel) : Prop :=
  c.streams.countP (fun s => !c.isOwn s) ≤ 1 ∧ ∀ s, c.streams.head? = some s → c.isOwn s = true

variable {c c' : HalChannel} {events : List Event} {i : Input}

/-- The own streams of the list are the added ones. -/
def Sound (c : HalChannel) : Prop := c.streams.filter c.isOwn = c.added

theorem isOwn_eq (h : c'.handle = c.handle) : c'.isOwn = c.isOwn := by
  funext s
  rw [isOwn, isOwn, h]

theorem linkedIdx_spec (c : HalChannel) (ss : List HalStream) (i : Nat) (idx : Int) :
    (∀ s ∈ ss, c.isOwn s = true) ∧ c.linkedIdx ss i idx = idx ∨
      ∃ front s back, ss = front ++ s :: back ∧ c.isOwn s = false ∧
        (∀ s' ∈ back, c.isOwn s' = true) ∧ c.linkedIdx ss i idx = (i + front.length : Nat) := by
  induction ss generalizing i idx with
  | nil => exact .inl ⟨nofun, rfl⟩
  | cons s rest ih =>
    rw [linkedIdx]
    rcases ih (i + 1) (if c.isOwn s then idx else i) with ⟨hOwn, hIdx⟩ | ⟨front, s', back, hRest⟩
    · cases hS : c.isOwn s with
      | true =>
        refine .inl ⟨fun s' hIn => ?_, ?_⟩
        · rcases List.mem_cons.mp hIn with rfl | hIn
          · exact hS
          · exact hOwn s' hIn
        · rw [hS] at hIdx
          exact hIdx
      | false =>
        rw [hS] at hIdx
        exact .inr ⟨[], s, rest, rfl, hS, hOwn, hIdx⟩
    · obtain ⟨hList, hLinked, hOwn, hIdx⟩ := hRest
      refine .inr ⟨s :: front, s', back, by rw [hList]; rfl, hLinked, hOwn, ?_⟩
      rw [hIdx, List.length_cons]
      omega

theorem filter_eq_of_all {ss : List HalStream} (h : ∀ s ∈ ss, c.isOwn s = true) :
    ss.filter c.isOwn = ss := List.filter_eq_self.mpr h

theorem countP_eq_zero_of_all {ss : List HalStream} (h : ∀ s ∈ ss, c.isOwn s = true) :
    ss.countP (fun s => !c.isOwn s) = 0 := by
  refine List.countP_eq_zero.mpr fun s hIn => ?_
  rw [h s hIn]
  exact Bool.false_ne_true

theorem filter_eq_iff_all {ss : List HalStream} :
    ss.filter c.isOwn = ss ↔ ss.countP (fun s => !c.isOwn s) = 0 := by
  rw [List.filter_eq_self, List.countP_eq_zero]
  refine forall₂_congr fun s _ => ?_
  cases c.isOwn s with
  | true => exact iff_of_true rfl Bool.false_ne_true
  | false => exact iff_of_false Bool.false_ne_true fun hNot => hNot rfl

theorem stop_streams_iff (h : c.Sound) : c.stop.1.streams = c.added ↔ c.Removable := by
  rw [← h, stop, Removable]
  simp only
  rcases c.linkedIdx_spec c.streams 0 (-1) with ⟨hOwn, hIdx⟩ | ⟨front, s, back, hList, hLinked, hOwn, hIdx⟩
  · rw [hIdx, if_neg (by decide)]
    refine iff_of_true (filter_eq_of_all hOwn).symm ⟨?_, fun s hHead => ?_⟩
    · rw [countP_eq_zero_of_all hOwn]
      exact Nat.zero_le 1
    · exact hOwn s (List.mem_of_head? hHead)
  · rw [hIdx, hList, Nat.zero_add, Int.toNat_natCast, List.countP_append, List.countP_cons,
      countP_eq_zero_of_all hOwn, hLinked, List.filter_append, List.filter_cons_of_neg (by rw [hLinked]; exact Bool.false_ne_true),
      filter_eq_of_all hOwn]
    cases front with
    | nil =>
      refine iff_of_false (fun hEq => ?_) fun hBoth => ?_
      · have hLength := congrArg List.length hEq
        simp at hLength
      · have hHead := hBoth.2 s rfl
        rw [hLinked] at hHead
        cases hHead
    | cons t front =>
      have hPos : (0 : Int) < ((t :: front).length : Nat) := Int.natCast_pos.mpr (Nat.succ_pos _)
      rw [if_pos hPos, List.eraseIdx_append_of_length_le (Nat.le_refl _), Nat.sub_self,
        List.eraseIdx_zero, List.tail_cons, List.append_left_inj, eq_comm, filter_eq_iff_all]
      constructor
      · intro hFront
        rw [hFront]
        refine ⟨Nat.le_refl 1, fun s' hHead => ?_⟩
        cases hHead
        exact List.filter_eq_self.mp (filter_eq_iff_all.mpr hFront) t List.mem_cons_self
      · rintro ⟨hCount, -⟩
        have hOne : (if (!false) = true then 1 else 0) = 1 := rfl
        rw [hOne] at hCount
        omega

/-- The list has own streams only. -/
def OwnOnly (c : HalChannel) : Prop := ∀ s ∈ c.streams, c.isOwn s = true

theorem ownCalls_own (c : HalChannel) (call : StreamCall) :
    ∀ e ∈ c.ownCalls call, c.isOwn e.1 = true := by
  intro e hIn
  obtain ⟨s, hMem, rfl⟩ := List.mem_map.mp hIn
  exact (List.mem_filter.mp hMem).2

theorem OwnOnly.setBundleInfo (h : c.OwnOnly) (r : StartResults) (ids : List Nat) :
    ∀ e ∈ (c.setBundleInfo r ids).1, c.isOwn e.1 = true := by
  induction ids with
  | nil => nofun
  | cons serverId rest ih =>
    rw [HalChannel.setBundleInfo]
    split
    · exact ih
    · rename_i s hFound
      have hOwn := h s (List.mem_of_find?_eq_some hFound)
      split
      · exact ih
      · split
        · intro e hIn
          rcases List.mem_cons.mp hIn with rfl | hIn
          · exact hOwn
          · exact ih e hIn
        · intro e hIn
          cases List.mem_singleton.mp hIn
          exact hOwn

theorem OwnOnly.start (h : c.OwnOnly) (r : StartResults) :
    ∀ e ∈ (c.start r).2, c.isOwn e.1 = true := by
  have hBundle : ∀ e ∈ (c.bundle r).1, c.isOwn e.1 = true := by
    rw [bundle]
    split
    · split
      · nofun
      · split
        · exact h.setBundleInfo r _
        · nofun
    · nofun
  have hAll : ∀ e ∈ c.streams.map (·, StreamCall.condSignal), c.isOwn e.1 = true := by
    intro e hIn
    obtain ⟨s, hMem, rfl⟩ := List.mem_map.mp hIn
    exact h s hMem
  rw [HalChannel.start]
  split
  · split
    · exact List.forall_mem_append.mpr
        ⟨List.forall_mem_append.mpr ⟨hBundle, c.ownCalls_own .start⟩, hAll⟩
    · exact List.forall_mem_append.mpr
        ⟨List.forall_mem_append.mpr ⟨hBundle, c.ownCalls_own .start⟩, c.ownCalls_own .stop⟩
  · exact hBundle

theorem OwnOnly.bufDone (h : c.OwnOnly) (bufs : List (Option (Nat × Nat))) :
    ∀ e ∈ c.bufDone bufs, c.isOwn e.1 = true := by
  induction bufs with
  | nil => nofun
  | cons buf rest ih =>
    cases buf with
    | none => exact ih
    | some buf =>
      rw [HalChannel.bufDone]
      split
      · rename_i s hFound
        intro e hIn
        rcases List.mem_cons.mp hIn with rfl | hIn
        · exact h s (List.mem_of_find?_eq_some hFound)
        · exact ih e hIn
      · exact ih

theorem start_streams (c : HalChannel) (r : StartResults) :
    (c.start r).1.streams = c.streams ∧ (c.start r).1.added = c.added ∧
      (c.start r).1.handle = c.handle := by
  rw [start]
  split
  · split <;> exact ⟨rfl, rfl, rfl⟩
  · exact ⟨rfl, rfl, rfl⟩

theorem stop_subset (c : HalChannel) : ∀ s ∈ c.stop.1.streams, s ∈ c.streams := by
  rw [stop]
  split
  · exact fun s hIn => List.mem_of_mem_eraseIdx hIn
  · exact fun s hIn => hIn

theorem own_new (c : HalChannel) (handle serverId : Nat) (isMetadata : Bool) :
    c.isOwn ⟨handle, c.handle, serverId, isMetadata⟩ = true := decide_eq_true rfl

theorem addStream_handle (c : HalChannel) (s : HalStream) (initialised : Bool) :
    (c.addStream s initialised).handle = c.handle := by
  rw [addStream]
  split
  · rfl
  · split <;> rfl

theorem OwnOnly.addStream {s : HalStream} (h : c.OwnOnly) (hs : c.isOwn s = true)
    (initialised : Bool) : (c.addStream s initialised).OwnOnly := by
  rw [HalChannel.addStream]
  split
  · exact h
  · split
    · exact List.forall_mem_append.mpr ⟨h, List.forall_mem_singleton.mpr hs⟩
    · exact h

theorem OwnOnly.step (h : c.OwnOnly) (hUnlinking : ∀ s linked, i ≠ .linkStream s linked)
    (hStep : c.step i = some (c', events)) :
    c'.OwnOnly ∧ c'.handle = c.handle ∧ ∀ e ∈ events, c.isOwn e.1 = true := by
  cases i with
  | addStream handle serverId isMetadata initialised =>
    cases hStep
    exact ⟨h.addStream (c.own_new _ _ _) initialised, c.addStream_handle _ _, nofun⟩
  | linkStream s linked => exact absurd rfl (hUnlinking s linked)
  | start r =>
    obtain ⟨hStreams, -, hHandle⟩ := c.start_streams r
    have hDone : c.start r = (c', events) := Option.some.inj hStep
    have hCalls := h.start r
    rw [hDone] at hStreams hHandle hCalls
    refine ⟨fun s hIn => ?_, hHandle, hCalls⟩
    rw [isOwn_eq hHandle]
    exact h s (hStreams ▸ hIn)
  | stop =>
    cases hStep
    exact ⟨fun s hIn => h s (c.stop_subset s hIn), rfl, c.ownCalls_own .stop⟩
  | bufDone bufs =>
    cases hStep
    exact ⟨h, rfl, h.bufDone bufs⟩

theorem OwnOnly.run (h : c.OwnOnly) {inputs : List Input}
    (run : Lib.Steps Next Unlinking c inputs events c') : ∀ e ∈ events, c.isOwn e.1 = true := by
  have hAll : c'.OwnOnly ∧ c'.handle = c.handle ∧ ∀ e ∈ events, c.isOwn e.1 = true := by
    refine run.history (I := fun _ events c' =>
      c'.OwnOnly ∧ c'.handle = c.handle ∧ ∀ e ∈ events, c.isOwn e.1 = true) ⟨h, rfl, nofun⟩ ?_
    rintro _ events c₁ i new c₂ hUnlinking ⟨hOwn, hHandle, hEvents⟩ hNext
    obtain ⟨hOwn', hHandle', hNew⟩ := hOwn.step hUnlinking hNext
    rw [isOwn_eq hHandle] at hNew
    exact ⟨hOwn', hHandle'.trans hHandle, List.forall_mem_append.mpr ⟨hEvents, hNew⟩⟩
  exact hAll.2.2

theorem sound_of_streams (hHandle : c'.handle = c.handle)
    (hStreams : c'.streams.filter c.isOwn = c'.added) : c'.Sound := by
  rw [Sound, isOwn_eq hHandle, hStreams]

theorem stop_filter (c : HalChannel) :
    c.stop.1.streams.filter c.isOwn = c.streams.filter c.isOwn := by
  rw [stop]
  rcases c.linkedIdx_spec c.streams 0 (-1) with ⟨-, hIdx⟩ | ⟨front, s, back, hList, hLinked, -, hIdx⟩
  · rw [hIdx, if_neg (by decide)]
  · rw [hIdx, Nat.zero_add, Int.toNat_natCast]
    split
    · have hNot : ¬ c.isOwn s = true := by
        rw [hLinked]
        exact Bool.false_ne_true
      rw [hList, List.eraseIdx_append_of_length_le (Nat.le_refl _), Nat.sub_self,
        List.eraseIdx_zero, List.tail_cons, List.filter_append, List.filter_append,
        List.filter_cons_of_neg hNot]
    · rfl

theorem Sound.step (h : c.Sound) (hStep : c.step i = some (c', events)) : c'.Sound := by
  cases i with
  | addStream handle serverId isMetadata initialised =>
    cases hStep
    rw [addStream]
    split
    · exact h
    · split
      · refine sound_of_streams (c := c) rfl ?_
        rw [List.filter_append, h, List.filter_cons_of_pos (c.own_new _ _ _)]
        rfl
      · exact h
  | linkStream s linked =>
    rw [HalChannel.step] at hStep
    split at hStep
    · cases hStep
    · rename_i hLinked
      cases hStep
      rw [linkStream]
      split
      · exact h
      · split
        · refine sound_of_streams (c := c) rfl ?_
          rw [List.filter_append, h, List.filter_cons_of_neg hLinked]
          exact List.append_nil _
        · exact h
  | start r =>
    obtain ⟨hStreams, hAdded, hHandle⟩ := c.start_streams r
    have hDone : c.start r = (c', events) := Option.some.inj hStep
    rw [hDone] at hStreams hAdded hHandle
    refine sound_of_streams hHandle ?_
    rw [hStreams, hAdded]
    exact h
  | stop =>
    cases hStep
    exact sound_of_streams (c := c) rfl (c.stop_filter.trans h)
  | bufDone bufs =>
    cases hStep
    exact h

theorem Sound.forgets_iff (h : c.Sound) : c.Forgets ↔ c.streams = c.added := by
  refine ⟨fun hForgets => hForgets.1, fun hList => ⟨hList, fun _ _ _ run => ?_⟩⟩
  have hOwn : c.OwnOnly := fun s hIn => (List.mem_filter.mp ((hList.trans h.symm) ▸ hIn)).2
  exact hOwn.run run

/-- After a stop the channel has forgotten all linked streams exactly if there was at most one, and
not as the first stream. -/
theorem stop_forgets_iff {handle : Nat} {inputs : List Input}
    (run : Lib.Steps Next Lib.anyStep { handle } inputs events c) :
    c.stop.1.Forgets ↔ c.Removable := by
  have hStart : Sound { handle } := rfl
  have hSound : c.Sound := run.invariant (I := Sound) hStart
    fun _ _ _ _ _ _ _ hSound hNext => hSound.step hNext
  have hStopped : c.stop.1.Sound := hSound.step (i := .stop) rfl
  exact hStopped.forgets_iff.trans (stop_streams_iff hSound)

/-- A stream of the channel 2. -/
def metadataStream : HalStream := ⟨512, 2, 7, true⟩

theorem reaches_of_step {c₀ : HalChannel} {inputs : List Input}
    (run : Lib.Steps Next Lib.anyStep c₀ inputs [] c) (hStep : c.step i = some (c', [])) :
    Lib.Steps Next Lib.anyStep c₀ (inputs ++ [i]) [] c' := run.step trivial hStep

/-- An own stream, and the metadata stream linked behind it. -/
theorem stop_forgets_iff_linked_last : ∃ inputs c,
    Lib.Steps Next Lib.anyStep { handle := 1 } inputs [] c ∧ metadataStream ∈ c.streams ∧
      c.stop.1.Forgets := by
  have run := reaches_of_step
    (reaches_of_step .start (i := .addStream 256 5 false true) (c := { handle := 1 }) rfl)
    (i := .linkStream metadataStream true) rfl
  refine ⟨_, _, run, by decide, (stop_forgets_iff run).mpr ⟨by decide, ?_⟩⟩
  rintro s hHead
  cases hHead
  rfl

/-- The metadata stream, linked first, is still in the list after the stop. -/
theorem stop_keeps_first : ∃ inputs c,
    Lib.Steps Next Lib.anyStep { handle := 1 } inputs [] c ∧ metadataStream ∈ c.stop.1.streams ∧
      ¬ c.stop.1.Forgets := by
  have run := reaches_of_step
    (reaches_of_step .start (i := .linkStream metadataStream true) (c := { handle := 1 }) rfl)
    (i := .addStream 256 5 false true) rfl
  exact ⟨_, _, run, by decide, fun hForgets => absurd hForgets.1 (by decide)⟩

end HalChannel

end KiwiDevice.Hal

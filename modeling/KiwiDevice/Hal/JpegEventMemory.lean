import KiwiDevice.Hal.JpegEvents

/-!
# The memory of a JPEG event

A memory that an event brings is released once unless an early exit forgets it, one is made up from
a buffer without one, or a failed notification releases it twice.
-/

namespace KiwiDevice.Hal.JpegPostProc

/-! ### What a run shows -/

def begun (os : List JpegEvent) : List JpegData :=
  os.filterMap fun e =>
    match e with
    | .started job jobId => some ⟨job, jobId⟩
    | _ => none

/-- The jobs whose events were handled, each with the jobs that were removed for it. -/
def flushes (os : List JpegEvent) : List (Nat × List Nat) :=
  os.filterMap fun e =>
    match e with
    | .flushed job removed => some (job, removed)
    | _ => none

def freed (os : List JpegEvent) : List Nat :=
  os.filterMap fun e =>
    match e with
    | .freed job => some job
    | _ => none

def taken (os : List JpegEvent) : List Nat :=
  os.filterMap fun e =>
    match e with
    | .taken mem => some mem
    | _ => none

def released (os : List JpegEvent) : List Nat :=
  os.filterMap fun e =>
    match e with
    | .released mem => some mem
    | _ => none

/-- The handling of the event gets to the picture: somebody is there for it, and there is one. -/
def Arrives (evt : JpegEvt) (p : JpegParent) : Prop :=
  p.mBIntEvtPending = false ∧ p.mDataCb = true ∧ p.compressedImageEnabled = true ∧
    evt.status = .done

/-- A memory that comes with the event is not left behind by an early exit, none is made up from a
buffer without one, and a notification that has its arguments is accepted. -/
structure Settles (s : JpegPostProc) (evt : JpegEvt) (p : JpegParent) (r : JpegResults) : Prop where
  left : ¬ Arrives evt p → s.mJpegMemOpt = true → evt.memHdl = none
  madeUp : Arrives evt p → p.refocusIncomplete = true → s.mJpegMemOpt = false → evt.memHdl = none
  twice : Arrives evt p → p.refocusIncomplete = false → r.dataArgm = true →
    r.notifyCallback = true ∨ (if s.mJpegMemOpt then evt.memHdl else r.getMemory) = none

/-- The same for an event that is saved. -/
structure SettlesSaved (s : JpegPostProc) (evt : JpegEvt) (r : JpegResults) : Prop where
  left : s.mJpegMemOpt = true → evt.memHdl = none
  argm : s.isActive = true → r.getMemory ≠ none → r.dataArgm = true

/-- There is memory for the queues, the id of a job is stored before its event is handled, and the
memory of the event is settled. -/
def Meets (s : JpegPostProc) : JpegInput → Prop
  | .nextJob node => node = true
  | .jpegEvt evt p r =>
    if s.mUseSaveProc && p.isLongshotEnabled then r.saveData = true
    else s.encoder ≠ .started evt.job evt.jobId ∧ s.Settles evt p r
  | .saveNext r =>
    ∀ evt ∈ s.inputSaveQ.head?, s.encoder ≠ .started evt.job evt.jobId ∧ s.SettlesSaved evt r
  | _ => True

variable {os o o' : List JpegEvent} {s s' : JpegPostProc} {i : JpegInput} {evt : JpegEvt}
  {p : JpegParent} {r : JpegResults}

@[simp] theorem begun_append : begun (os ++ o) = begun os ++ begun o := List.filterMap_append

@[simp] theorem flushes_append : flushes (os ++ o) = flushes os ++ flushes o :=
  List.filterMap_append

@[simp] theorem freed_append : freed (os ++ o) = freed os ++ freed o := List.filterMap_append

@[simp] theorem taken_append : taken (os ++ o) = taken os ++ taken o := List.filterMap_append

@[simp] theorem released_append : released (os ++ o) = released os ++ released o :=
  List.filterMap_append

/-- The events are not about jobs. -/
structure Aside (o : List JpegEvent) : Prop where
  begun : begun o = []
  flushes : flushes o = []
  freed : freed o = []

theorem Aside.append (h : Aside o) (h' : Aside o') : Aside (o ++ o') where
  begun := by rw [begun_append, h.begun, h'.begun, List.append_nil]
  flushes := by rw [flushes_append, h.flushes, h'.flushes, List.append_nil]
  freed := by rw [freed_append, h.freed, h'.freed, List.append_nil]

theorem aside_nil : Aside [] := ⟨rfl, rfl, rfl⟩

theorem aside_release (mem : Option Nat) : Aside (release mem) := by
  cases mem <;> exact ⟨rfl, rfl, rfl⟩

theorem aside_take (mem : Option Nat) : Aside (take mem) := by
  cases mem <;> exact ⟨rfl, rfl, rfl⟩

@[simp] theorem released_release (mem : Option Nat) : released (release mem) = mem.toList := by
  cases mem <;> rfl

@[simp] theorem taken_release (mem : Option Nat) : taken (release mem) = [] := by
  cases mem <;> rfl

@[simp] theorem taken_take (mem : Option Nat) : taken (take mem) = mem.toList := by
  cases mem <;> rfl

@[simp] theorem released_take (mem : Option Nat) : released (take mem) = [] := by
  cases mem <;> rfl

/-! ### The memory of an event -/

/-- The state differs in its notifications only. -/
def Keeps (s s' : JpegPostProc) : Prop := s' = { s with notified := s'.notified }

theorem sendDataNotify_keeps (s : JpegPostProc) (data : Option Nat) (r : JpegResults) :
    Keeps s (s.sendDataNotify data r).1 ∧ Aside (s.sendDataNotify data r).2.2 := by
  rw [sendDataNotify]
  split
  · split
    · exact ⟨rfl, aside_nil⟩
    · exact ⟨rfl, aside_release data⟩
  · exact ⟨rfl, aside_nil⟩

theorem sendJpeg_keeps (s : JpegPostProc) (mem : Option Nat) (r : JpegResults) :
    Keeps s (s.sendJpeg mem r).1 ∧ Aside (s.sendJpeg mem r).2 := by
  obtain ⟨hKeeps, hAside⟩ := s.sendDataNotify_keeps mem r
  refine ⟨hKeeps, hAside.append ?_⟩
  split
  · exact aside_nil
  · exact .append (o := [.errorNotified]) ⟨rfl, rfl, rfl⟩ (aside_release mem)

theorem deliverJpeg_keeps (s : JpegPostProc) (evt : JpegEvt) (p : JpegParent) (r : JpegResults) :
    Keeps s (s.deliverJpeg evt p r).1 ∧ Aside (s.deliverJpeg evt p r).2 := by
  rw [deliverJpeg]
  split
  · exact ⟨rfl, aside_nil⟩
  split
  · exact ⟨rfl, rfl, rfl, rfl⟩
  split
  · exact ⟨rfl, aside_nil⟩
  split
  · exact ⟨rfl, aside_release _⟩
  split
  · exact s.sendJpeg_keeps _ r
  split
  · exact ⟨rfl, rfl, rfl, rfl⟩
  · rename_i mem _
    obtain ⟨hKeeps, hAside⟩ := s.sendJpeg_keeps (some mem) r
    exact ⟨hKeeps, .append (o := [.taken mem]) ⟨rfl, rfl, rfl⟩ hAside⟩

theorem perm_double_iff {mem : Option Nat} {l : List Nat} :
    (mem.toList ++ mem.toList ++ l).Perm (mem.toList ++ l) ↔ mem = none := by
  constructor
  · intro hPerm
    have hLength := hPerm.length_eq
    cases mem with
    | none => rfl
    | some mem => simp at hLength
  · rintro rfl
    exact .refl _

/-- A notification that has its arguments and is not accepted releases the picture twice. -/
theorem sendJpeg_balanced (s : JpegPostProc) (mem : Option Nat) (r : JpegResults) :
    (released (s.sendJpeg mem r).2 ++ (s.sendJpeg mem r).1.notified).Perm
        (mem.toList ++ s.notified) ↔
      (r.dataArgm = true → r.notifyCallback = true ∨ mem = none) := by
  have hEnd : released (.errorNotified :: release mem) = mem.toList := released_release mem
  rw [sendJpeg, sendDataNotify]
  cases r.dataArgm with
  | false =>
    refine iff_of_true ?_ fun hArgm => Bool.noConfusion hArgm
    exact .of_eq (congrArg (· ++ s.notified) hEnd)
  | true =>
    cases r.notifyCallback with
    | true =>
      refine iff_of_true ?_ fun _ => .inl rfl
      exact (List.perm_append_comm : (s.notified ++ mem.toList).Perm _)
    | false =>
      have hTwice : released (release mem ++ .errorNotified :: release mem) =
          mem.toList ++ mem.toList := by
        rw [released_append, hEnd, released_release]
      simp only [if_true, Bool.false_eq_true, if_false, hTwice, perm_double_iff, true_imp_iff,
        false_or]

/-- The memory that comes with an event. -/
def brought (s : JpegPostProc) (evt : JpegEvt) : List Nat :=
  if s.mJpegMemOpt then evt.memHdl.toList else []

theorem toList_perm_nil_iff {mem : Option Nat} {l : List Nat} :
    l.Perm (mem.toList ++ l) ↔ mem = none := by
  constructor
  · intro hPerm
    have hLength := hPerm.length_eq
    cases mem with
    | none => rfl
    | some mem => simp at hLength
  · rintro rfl
    exact .refl _

theorem taken_sendJpeg (s : JpegPostProc) (mem : Option Nat) (r : JpegResults) :
    taken (s.sendJpeg mem r).2 = [] := by
  have hEnd : taken (.errorNotified :: release mem) = [] := taken_release mem
  rw [sendJpeg, sendDataNotify]
  cases r.dataArgm with
  | false => exact hEnd
  | true =>
    cases r.notifyCallback with
    | true => rfl
    | false => exact (taken_append.trans (congrArg₂ _ (taken_release mem) hEnd))

theorem deliverJpeg_early (h : ¬ Arrives evt p) : (s.deliverJpeg evt p r).1 = s ∧
    released (s.deliverJpeg evt p r).2 = [] ∧ taken (s.deliverJpeg evt p r).2 = [] := by
  rw [deliverJpeg]
  split
  · exact ⟨rfl, rfl, rfl⟩
  rename_i hHere
  split
  · exact ⟨rfl, rfl, rfl⟩
  rename_i hDone
  split
  · exact ⟨rfl, rfl, rfl⟩
  rename_i hPending
  refine absurd ?_ h
  cases hStatus : evt.status with
  | error => exact absurd hStatus hDone
  | done => simp_all [Arrives]

theorem deliverJpeg_arrives (h : Arrives evt p) : s.deliverJpeg evt p r =
    if p.refocusIncomplete then (s, release evt.memHdl)
    else if s.mJpegMemOpt then s.sendJpeg evt.memHdl r
    else
      match r.getMemory with
      | none => (s, [.errorNotified])
      | some mem => ((s.sendJpeg (some mem) r).1, .taken mem :: (s.sendJpeg (some mem) r).2) := by
  obtain ⟨hPending, hCb, hEnabled, hDone⟩ := h
  have hHere : ¬ (!p.mBIntEvtPending && (!p.mDataCb || !p.compressedImageEnabled)) = true := by
    rw [hCb, hEnabled]
    simp
  have hNoError : evt.status ≠ .error := by
    rw [hDone]
    decide
  have hNotPending : ¬ p.mBIntEvtPending = true := by
    rw [hPending]
    decide
  rw [deliverJpeg]
  exact (if_neg hHere).trans ((if_neg hNoError).trans (if_neg hNotPending))

/-- The memory of an event is released once exactly when it is settled. -/
theorem deliverJpeg_balanced (s : JpegPostProc) (evt : JpegEvt) (p : JpegParent)
    (r : JpegResults) :
    (released (s.deliverJpeg evt p r).2 ++ (s.deliverJpeg evt p r).1.notified).Perm
        (s.brought evt ++ taken (s.deliverJpeg evt p r).2 ++ s.notified) ↔ s.Settles evt p r := by
  by_cases hArrives : Arrives evt p
  · have hIff : s.Settles evt p r ↔
        (p.refocusIncomplete = true → s.mJpegMemOpt = false → evt.memHdl = none) ∧
        (p.refocusIncomplete = false → r.dataArgm = true → r.notifyCallback = true ∨
          (if s.mJpegMemOpt then evt.memHdl else r.getMemory) = none) :=
      ⟨fun hSettles => ⟨hSettles.madeUp hArrives, hSettles.twice hArrives⟩,
        fun ⟨hMadeUp, hTwice⟩ => ⟨fun hNot => absurd hArrives hNot, fun _ => hMadeUp,
          fun _ => hTwice⟩⟩
    rw [deliverJpeg_arrives hArrives, brought, hIff]
    cases hRefocus : p.refocusIncomplete with
    | true =>
      cases hOpt : s.mJpegMemOpt with
      | true => simp
      | false => simpa [List.perm_comm] using toList_perm_nil_iff
    | false =>
      cases hOpt : s.mJpegMemOpt with
      | true =>
        have hBalanced := s.sendJpeg_balanced evt.memHdl r
        simpa [taken_sendJpeg] using hBalanced
      | false =>
        cases hMem : r.getMemory with
        | none => simp [released, taken]
        | some mem =>
          have hBalanced := s.sendJpeg_balanced (some mem) r
          have hTaken : taken (.taken mem :: (s.sendJpeg (some mem) r).2) = [mem] :=
            congrArg (mem :: ·) (taken_sendJpeg s (some mem) r)
          have hReleased : released (.taken mem :: (s.sendJpeg (some mem) r).2) =
              released (s.sendJpeg (some mem) r).2 := rfl
          simp only [Bool.false_eq_true, if_false, hTaken, hReleased]
          simpa using hBalanced
  · obtain ⟨hSame, hReleased, hTaken⟩ := deliverJpeg_early (s := s) (r := r) hArrives
    rw [hSame, hReleased, hTaken, brought]
    have hIff : s.Settles evt p r ↔ (s.mJpegMemOpt = true → evt.memHdl = none) :=
      ⟨fun hSettles => hSettles.left hArrives, fun hNone => ⟨fun _ => hNone,
        fun hIn => absurd hIn hArrives, fun hIn => absurd hIn hArrives⟩⟩
    rw [hIff]
    cases s.mJpegMemOpt with
    | true => simpa using toList_perm_nil_iff
    | false => simp

theorem sendDataNotify_balanced {m : Nat} (hArgm : r.dataArgm = true) :
    (released (s.sendDataNotify (some m) r).2.2 ++
      (s.sendDataNotify (some m) r).1.notified).Perm (m :: s.notified) ∧
        taken (s.sendDataNotify (some m) r).2.2 = [] := by
  rw [sendDataNotify, if_pos hArgm]
  split
  · exact ⟨(List.perm_append_comm : (s.notified ++ [m]).Perm _), rfl⟩
  · exact ⟨.refl _, rfl⟩

/-- What `saveJpeg` does after the flush. -/
theorem saveJpeg_eq (s : JpegPostProc) (evt : JpegEvt) (r : JpegResults) : ∃ s' o,
    s.saveJpeg evt r = (s', (s.flushJob evt).2 ++ o) ∧ Keeps (s.flushJob evt).1 s' ∧ Aside o ∧
      (s.SettlesSaved evt r → (released o ++ s'.notified).Perm (taken o ++ s.notified)) := by
  have hNothing : ∃ s' o, s.flushJob evt = (s', (s.flushJob evt).2 ++ o) ∧
      Keeps (s.flushJob evt).1 s' ∧ Aside o ∧
        (s.SettlesSaved evt r → (released o ++ s'.notified).Perm (taken o ++ s.notified)) :=
    ⟨(s.flushJob evt).1, [], by rw [List.append_nil], rfl, aside_nil, fun _ => .refl _⟩
  rw [saveJpeg]
  split
  · rename_i hActive
    split
    · exact hNothing
    · rename_i mem hMem
      obtain ⟨hKeeps, hAside⟩ := (s.flushJob evt).1.sendDataNotify_keeps (some mem) r
      refine ⟨_, _, rfl, hKeeps, .append (o := [.taken mem]) ⟨rfl, rfl, rfl⟩ hAside, ?_⟩
      intro hSettles
      have hArgm := hSettles.argm hActive (by rw [hMem]; exact Option.some_ne_none mem)
      obtain ⟨hPerm, hTaken⟩ :=
        sendDataNotify_balanced (s := (s.flushJob evt).1) (m := mem) hArgm
      have hOne : taken (.taken mem :: ((s.flushJob evt).1.sendDataNotify (some mem) r).2.2) =
          [mem] := congrArg (mem :: ·) hTaken
      rw [hOne]
      exact hPerm
  · exact hNothing

end KiwiDevice.Hal.JpegPostProc

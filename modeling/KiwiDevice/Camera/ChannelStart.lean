import KiwiDevice.Camera.SlotFrame

/-!
# Starting a channel

`mm_channel_start` with the events it sends to each own stream, and which of them fails for given
answers of the outside.
-/

namespace KiwiDevice.Camera

/-- What `mm_channel_start` fails at: `GET_BUF`, `VIDIOC_REQBUFS`, the `VIDIOC_QBUF` of a buffer, or
`VIDIOC_STREAMON`. -/
inductive StartFailure where
  | getBuf | reqbufs | qbuf | streamOn
  deriving DecidableEq, Repr

/-- The step at which the start of a configured stream fails. -/
def StreamResults.startFailure (r : StreamResults) : Option StartFailure :=
  match r.getBufs with
  | none => some .getBuf
  | some regFlags =>
    if r.statusAlloc = false then some .getBuf
    else if regFlags.length > MmStream.maxNumFrames ∨ r.reqbufs = false then some .reqbufs
    else if ∃ i ∈ List.range regFlags.length, regFlags[i]? = some true ∧ r.qbuf i ≠ .queued then
      some .qbuf
    else if r.streamOn = false then some .streamOn
    else none

namespace Driver

/-- The driver has changed for the stream of this handle only. -/
structure Apart (handler : Nat) (d d' : Driver) : Prop where
  requested : ∀ h, h ≠ handler → d'.requested h = d.requested h
  polls : ∀ h, h ≠ handler → 0 < h → d'.Polls h → d.Polls h

variable {handler : Nat} {d d' d'' : Driver}

theorem Apart.refl (handler : Nat) (d : Driver) : Apart handler d d :=
  ⟨fun _ _ => rfl, fun _ _ _ hPolls => hPolls⟩

theorem Apart.trans (h : Apart handler d d') (h' : Apart handler d' d'') :
    Apart handler d d'' where
  requested := fun i hi => (h'.requested i hi).trans (h.requested i hi)
  polls := fun i hi hPos hPolls => h.polls i hi hPos (h'.polls i hi hPos hPolls)

theorem apart_setEntry (d : Driver) {value : Nat} (hValue : value = handler ∨ value = 0) :
    Apart handler d { d with
      pollEntries := Function.update d.pollEntries (indexByHandler handler) value } := by
  refine ⟨fun _ _ => rfl, ?_⟩
  rintro h hOther hPos ⟨hIndex, hEntry⟩
  refine ⟨hIndex, ?_⟩
  rcases eq_or_ne (indexByHandler h) (indexByHandler handler) with hSame | hNe
  · simp only [hSame, Function.update_self] at hEntry
    rcases hValue with hValue | hValue
    · exact absurd (hEntry.symm.trans hValue) hOther
    · exact absurd (hEntry.symm.trans hValue) (Nat.ne_of_gt hPos)
  · simpa only [Function.update_of_ne hNe] using hEntry

theorem addPollFd_apart (d : Driver) (handler : Nat) : Apart handler d (d.addPollFd handler) := by
  simp only [addPollFd]
  split
  · exact d.apart_setEntry (.inl rfl)
  · exact .refl handler d

theorem delPollFd_apart (d : Driver) (handler : Nat) : Apart handler d (d.delPollFd handler) := by
  simp only [delPollFd]
  split
  · exact d.apart_setEntry (.inr rfl)
  · exact .refl handler d

theorem reqbufs_apart (d : Driver) (handler count : Nat) :
    Apart handler d (d.reqbufs handler count) := by
  refine ⟨?_, fun _ _ _ hPolls => hPolls⟩
  intro h hOther
  exact Function.update_of_ne hOther _ _

@[simp] theorem addPollFd_requested (d : Driver) (handler : Nat) :
    (d.addPollFd handler).requested = d.requested := by
  simp only [addPollFd]
  split <;> rfl

@[simp] theorem delPollFd_requested (d : Driver) (handler : Nat) :
    (d.delPollFd handler).requested = d.requested := by
  simp only [delPollFd]
  split <;> rfl

theorem delPollFd_not_polls (d : Driver) (hPos : 0 < handler) :
    ¬ (d.delPollFd handler).Polls handler := by
  simp only [delPollFd]
  split
  · rintro ⟨_, hEntry⟩
    simp only [Function.update_self] at hEntry
    exact absurd hEntry (Nat.ne_of_lt hPos)
  · rename_i hNone
    rintro ⟨hIndex, hEntry⟩
    exact hNone ⟨hIndex, hEntry.symm⟩

end Driver

namespace MmStream

open Driver (Apart)

variable {s : MmStream} {d d' : Driver} {r : StreamResults}

theorem qbuf_apart (s : MmStream) (d : Driver) (result : QbufResult) :
    Apart s.myHdl d (s.qbuf d result).2.1 := by
  cases result with
  | notInvalidated => exact .refl _ d
  | queued =>
    simp only [qbuf]
    split
    · exact d.addPollFd_apart _
    · exact .refl _ d
  | refused =>
    have hAdd : Apart s.myHdl d (if s.queuedBufferCount + 1 = 1 then d.addPollFd s.myHdl else d) := by
      split
      · exact d.addPollFd_apart _
      · exact .refl _ d
    simp only [qbuf]
    split
    · exact hAdd.trans (Driver.delPollFd_apart _ _)
    · exact hAdd

@[simp] theorem qbuf_requested (s : MmStream) (d : Driver) (result : QbufResult) :
    (s.qbuf d result).2.1.requested = d.requested := by
  cases result <;> simp only [qbuf] <;> (repeat' split) <;> simp

theorem bufDone_apart (s : MmStream) (d : Driver) (frame : BufDef) (result : QbufResult) :
    Apart s.myHdl d (s.bufDone d frame result).2.1 := by
  simp only [bufDone]
  split
  · exact .refl _ d
  · split
    · have hQueued := (s.setStatus frame.bufIdx { s.status frame.bufIdx with
        bufRefcnt := (s.status frame.bufIdx).bufRefcnt - 1 }).qbuf_apart d result
      split
      · exact hQueued
      · exact hQueued
    · exact .refl _ d

theorem regBufs_apart (r : StreamResults) (is : List Nat) (s : MmStream) (d : Driver) :
    Apart s.myHdl d (regBufs r is s d).2.1 := by
  induction is generalizing s d with
  | nil => exact .refl _ d
  | cons i rest ih =>
    simp only [regBufs]
    have hQueued := s.qbuf_apart d (r.qbuf i)
    have hHdl := (s.qbuf_same d (r.qbuf i)).myHdl
    split
    · split
      · refine hQueued.trans ?_
        have hRest := ih ((s.qbuf d (r.qbuf i)).1.setStatus i
          { s.status i with bufRefcnt := 0, inKernel := true }) (s.qbuf d (r.qbuf i)).2.1
        rwa [(setStatus_same _ _ _).myHdl, hHdl] at hRest
      · exact hQueued
    · exact ih (s.setStatus i { s.status i with bufRefcnt := 1, inKernel := false }) d

theorem regBuf_apart (s : MmStream) (d : Driver) (r : StreamResults) :
    Apart s.myHdl d (s.regBuf d r).2.1 := by
  rw [regBuf]
  split
  · exact .refl _ d
  · exact (d.reqbufs_apart s.myHdl s.bufNum).trans
      (regBufs_apart r _ { s with queuedBufferCount := 0 } _)

theorem fsmFn_apart (s : MmStream) (d : Driver) (evt : StreamEvt) (r : StreamResults) :
    Apart s.myHdl d (s.fsmFn d evt r).2.1 := by
  simp only [fsmFn]
  split
  · exact .refl _ d
  · split <;> exact .refl _ d
  · exact .refl _ d
  · split <;> exact s.regBuf_apart d r
  · exact d.reqbufs_apart _ 0
  · simp only [startStream]
    split
    · exact .refl _ d
    · exact d.delPollFd_apart _
  · exact s.bufDone_apart d _ _
  · exact d.delPollFd_apart _
  · exact .refl _ d

/-- `GET_BUF`, `REG_BUF` and `START`, up to the first that fails. -/
def startUp (s : MmStream) (d : Driver) (r : StreamResults) : MmStream × Driver × Bool :=
  let got := s.fsmFn d .getBuf r
  if got.2.2 then
    let reg := got.1.fsmFn got.2.1 .regBuf r
    if reg.2.2 then reg.1.fsmFn reg.2.1 .start r else reg
  else got

/-- `STOP`, `UNREG_BUF` and `PUT_BUF`, of the error handling. -/
def tearDown (s : MmStream) (d : Driver) (r : StreamResults) : MmStream × Driver :=
  let stopped := s.fsmFn d .stop r
  let unreg := stopped.1.fsmFn stopped.2.1 .unregBuf r
  let put := unreg.1.fsmFn unreg.2.1 .putBuf r
  (put.1, put.2.1)

theorem startUp_same (s : MmStream) (d : Driver) (r : StreamResults) :
    SameStream s (s.startUp d r).1 := by
  have hGot := s.fsmFn_same d .getBuf r
  simp only [startUp]
  split
  · split
    · exact (hGot.trans (fsmFn_same _ _ _ _)).trans (fsmFn_same _ _ _ _)
    · exact hGot.trans (fsmFn_same _ _ _ _)
  · exact hGot

theorem tearDown_same (s : MmStream) (d : Driver) (r : StreamResults) :
    SameStream s (s.tearDown d r).1 :=
  ((s.fsmFn_same d .stop r).trans (fsmFn_same _ _ _ _)).trans (fsmFn_same _ _ _ _)

theorem Apart.fsmFn {s₀ : MmStream} (h : Apart s₀.myHdl d d') (hSame : SameStream s₀ s)
    (evt : StreamEvt) (r : StreamResults) : Apart s₀.myHdl d (s.fsmFn d' evt r).2.1 := by
  refine h.trans ?_
  rw [← hSame.myHdl]
  exact s.fsmFn_apart d' evt r

theorem startUp_apart (s : MmStream) (d : Driver) (r : StreamResults) :
    Apart s.myHdl d (s.startUp d r).2.1 := by
  have hGot := s.fsmFn_apart d .getBuf r
  have hSame := s.fsmFn_same d .getBuf r
  simp only [startUp]
  split
  · have hReg := Apart.fsmFn hGot hSame .regBuf r
    split
    · exact Apart.fsmFn hReg (hSame.trans (fsmFn_same _ _ _ _)) .start r
    · exact hReg
  · exact hGot

theorem tearDown_apart (s : MmStream) (d : Driver) (r : StreamResults) :
    Apart s.myHdl d (s.tearDown d r).2 := by
  have hStopped := s.fsmFn_apart d .stop r
  have hSame := s.fsmFn_same d .stop r
  have hUnreg := Apart.fsmFn hStopped hSame .unregBuf r
  exact Apart.fsmFn hUnreg (hSame.trans (fsmFn_same _ _ _ _)) .putBuf r

/-- A configured stream with nothing requested from the kernel and no poll entry. -/
structure AtRest (s : MmStream) (d : Driver) : Prop where
  cfg : s.state = .cfg
  notRequested : d.requested s.myHdl = 0
  notPolled : ¬ d.Polls s.myHdl

/-- How a stream at rest is left by a start that ends in this failure, or in none. -/
def AfterStart (s : MmStream) (d : Driver) : Option StartFailure → Prop
  | none => s.state = .active
  | some .getBuf => AtRest s d
  | some .reqbufs => s.state = .buffed ∧ d.requested s.myHdl = 0 ∧ ¬ d.Polls s.myHdl
  | some .qbuf => s.state = .buffed ∧ d.requested s.myHdl ≠ 0
  | some .streamOn => s.state = .reg ∧ ¬ d.Polls s.myHdl

theorem initBufs_state (s : MmStream) (r : StreamResults) : (s.initBufs r).1.state = s.state := by
  have hDeinit : ∀ t : MmStream, t.deinitBufs.state = t.state := by
    intro t
    rw [deinitBufs]
    split <;> rfl
  simp only [initBufs]
  split <;> split <;> (try split) <;> simp only [hDeinit, setBufs]

theorem initBufs_ok (s : MmStream) (r : StreamResults) :
    (s.initBufs r).2 = true ↔ r.getBufs ≠ none ∧ r.statusAlloc = true := by
  simp only [initBufs]
  split
  · rename_i hNone
    simp [hNone]
  · rename_i regFlags hBufs
    split
    · rename_i hAlloc
      simp [hBufs, hAlloc]
    · rename_i hAlloc
      simp [hAlloc]

/-- The buffers after a successful `GET_BUF`. -/
theorem initBufs_bufs (s : MmStream) {regFlags : List Bool} (hBufs : r.getBufs = some regFlags)
    (hAlloc : r.statusAlloc = true) : (s.initBufs r).1.bufNum = regFlags.length ∧
      ∀ i, ((s.initBufs r).1.status i).initialRegFlag = true ↔ regFlags[i]? = some true := by
  simp only [initBufs, hBufs, hAlloc]
  refine ⟨rfl, ?_⟩
  intro i
  simp only [status, if_true, Option.bind_some, List.getElem?_map]
  cases regFlags[i]? with
  | none => simp
  | some flag => simp

theorem status_setStatus_flag (s : MmStream) (i j : Nat) {st : BufStatus}
    (hFlag : st.initialRegFlag = (s.status i).initialRegFlag) :
    ((s.setStatus i st).status j).initialRegFlag = (s.status j).initialRegFlag := by
  rw [status, status, setStatus]
  cases hList : s.bufStatus with
  | none => rfl
  | some l =>
    simp only [Option.map_some, Option.bind_some, List.getElem?_set]
    split
    · rename_i hSame
      subst hSame
      split
      · rename_i hLt
        rw [status, hList] at hFlag
        exact hFlag
      · rename_i hOut
        rw [List.getElem?_eq_none (Nat.le_of_not_lt hOut)]
    · rfl

theorem regBufs_ok (r : StreamResults) (is : List Nat) (s : MmStream) (d : Driver) :
    (regBufs r is s d).2.2 = true ↔
      ∀ i ∈ is, (s.status i).initialRegFlag = true → r.qbuf i = .queued := by
  induction is generalizing s d with
  | nil => simp [regBufs]
  | cons i rest ih =>
    rw [List.forall_mem_cons]
    simp only [regBufs]
    split
    · rename_i hFlag
      have hKept : ∀ j, (((s.qbuf d (r.qbuf i)).1.setStatus i
          { s.status i with bufRefcnt := 0, inKernel := true }).status j).initialRegFlag
            = (s.status j).initialRegFlag := by
        intro j
        rw [status_setStatus_flag, qbuf_status]
        rw [qbuf_status]
      split
      · rename_i hQueued
        rw [ih]
        simp only [hKept]
        exact ⟨fun h => ⟨fun _ => (s.qbuf_ok d _).mp hQueued, h⟩, fun h => h.2⟩
      · rename_i hNot
        rw [s.qbuf_ok] at hNot ⊢
        exact ⟨fun h => absurd h hNot, fun h => absurd (h.1 hFlag) hNot⟩
    · rename_i hFlag
      rw [ih]
      have hKept : ∀ j, ((s.setStatus i { s.status i with bufRefcnt := 1, inKernel := false }).status
          j).initialRegFlag = (s.status j).initialRegFlag :=
        fun j => s.status_setStatus_flag i j rfl
      simp only [hKept]
      exact ⟨fun h => ⟨fun h' => absurd h' hFlag, h⟩, fun h => h.2⟩

theorem regBufs_requested (r : StreamResults) (is : List Nat) (s : MmStream) (d : Driver) :
    (regBufs r is s d).2.1.requested = d.requested := by
  induction is generalizing s d with
  | nil => rfl
  | cons i rest ih =>
    simp only [regBufs]
    split
    · split
      · rw [ih, qbuf_requested]
      · exact s.qbuf_requested d _
    · exact ih _ d

theorem regBufs_state (r : StreamResults) (is : List Nat) (s : MmStream) (d : Driver) :
    (regBufs r is s d).1.state = s.state := by
  induction is generalizing s d with
  | nil => rfl
  | cons i rest ih =>
    simp only [regBufs]
    split
    · split
      · rw [ih, setStatus]
        exact s.qbuf_state d _
      · exact s.qbuf_state d _
    · exact ih _ d

/-- `REG_BUF` in the state that `GET_BUF` leaves. -/
theorem regBuf_spec (s : MmStream) (d : Driver) (r : StreamResults) :
    ((s.regBuf d r).2.2 = true ↔ (s.bufNum ≤ maxNumFrames ∧ r.reqbufs = true) ∧
      ∀ i ∈ List.range s.bufNum, (s.status i).initialRegFlag = true → r.qbuf i = .queued) ∧
    (s.regBuf d r).1.state = s.state ∧
    (s.bufNum > maxNumFrames ∨ r.reqbufs = false → (s.regBuf d r).2.1 = d) ∧
    (s.bufNum ≤ maxNumFrames ∧ r.reqbufs = true →
      (s.regBuf d r).2.1.requested s.myHdl = s.bufNum) := by
  have hTook : ¬ (s.bufNum > maxNumFrames ∨ r.reqbufs = false) ↔
      s.bufNum ≤ maxNumFrames ∧ r.reqbufs = true := by
    rw [not_or, Nat.not_lt, Bool.not_eq_false]
  rw [regBuf]
  split
  · rename_i hNot
    have hNo := fun hTaken => hTook.mpr hTaken hNot
    exact ⟨⟨Bool.noConfusion, fun h => absurd h.1 hNo⟩, rfl, fun _ => rfl, fun h => absurd h hNo⟩
  · rename_i hTaken
    refine ⟨?_, regBufs_state .., fun h => absurd h hTaken, fun _ => ?_⟩
    · rw [regBufs_ok]
      exact ⟨fun h => ⟨hTook.mp hTaken, h⟩, fun h => h.2⟩
    · rw [regBufs_requested]
      exact Function.update_self ..

theorem fsmFn_getBuf (h : s.state = .cfg) (d : Driver) (r : StreamResults) :
    s.fsmFn d .getBuf r = if (s.initBufs r).2 then
      ({ (s.initBufs r).1 with state := .buffed }, d, true) else ((s.initBufs r).1, d, false) := by
  simp only [fsmFn, h]

theorem fsmFn_regBuf (h : s.state = .buffed) (d : Driver) (r : StreamResults) :
    s.fsmFn d .regBuf r = if (s.regBuf d r).2.2 then
      ({ (s.regBuf d r).1 with state := .reg }, (s.regBuf d r).2.1, true) else s.regBuf d r := by
  simp only [fsmFn, h]

theorem startUp_noBufs (h : AtRest s d) (hNot : (s.initBufs r).2 = false) :
    (s.startUp d r).2.2 = false ∧ AtRest (s.startUp d r).1 (s.startUp d r).2.1 := by
  have hGot : s.fsmFn d .getBuf r = ((s.initBufs r).1, d, false) := by
    rw [fsmFn_getBuf h.cfg, hNot]
    rfl
  have hHdl := (s.initBufs_same r).myHdl
  simp only [startUp, hGot]
  refine ⟨rfl, (s.initBufs_state r).trans h.cfg, ?_, ?_⟩
  · exact hHdl ▸ h.notRequested
  · exact hHdl ▸ h.notPolled

theorem startUp_bufs {t : MmStream} (hGot : s.fsmFn d .getBuf r = (t, d, true))
    (hBuffed : t.state = .buffed) : s.startUp d r = if (t.regBuf d r).2.2 then
      ({ (t.regBuf d r).1 with state := .reg } : MmStream).startStream (t.regBuf d r).2.1 r
    else t.regBuf d r := by
  simp only [startUp, hGot, if_true, fsmFn_regBuf hBuffed]
  cases hReg : (t.regBuf d r).2.2 with
  | false => simp only [hReg, Bool.false_eq_true, if_false]
  | true => rfl

theorem startStream_spec (s : MmStream) (d : Driver) (r : StreamResults) :
    (s.startStream d r).2.2 = r.streamOn ∧
      (r.streamOn = true → (s.startStream d r).1.state = .active) ∧
      (r.streamOn = false → (s.startStream d r).1.state = .reg ∧
        (s.startStream d r).2.1 = d.delPollFd s.myHdl ∧
        (s.startStream d r).1.myHdl = s.myHdl) := by
  simp only [startStream]
  cases r.streamOn with
  | true => exact ⟨rfl, fun _ => rfl, Bool.noConfusion⟩
  | false => exact ⟨rfl, Bool.noConfusion, fun _ => ⟨rfl, rfl, rfl⟩⟩

theorem startUp_spec (h : AtRest s d) (hPos : 0 < s.myHdl) (r : StreamResults) :
    ((s.startUp d r).2.2 = true ↔ r.startFailure = none) ∧
      AfterStart (s.startUp d r).1 (s.startUp d r).2.1 r.startFailure := by
  have hOk := s.initBufs_ok r
  rw [StreamResults.startFailure.eq_def]
  split
  · rename_i hNone
    have hNot : (s.initBufs r).2 = false := by
      rw [Bool.eq_false_iff]
      exact fun hGot => (hOk.mp hGot).1 hNone
    obtain ⟨hFails, hRest⟩ := startUp_noBufs h hNot
    exact ⟨⟨fun hUp => absurd hUp (by rw [hFails]; decide), nofun⟩, hRest⟩
  rename_i regFlags hBufs
  cases hAlloc : r.statusAlloc with
  | false =>
    have hNot : (s.initBufs r).2 = false := by
      rw [Bool.eq_false_iff]
      exact fun hGot => absurd (hOk.mp hGot).2 (by rw [hAlloc]; decide)
    obtain ⟨hFails, hRest⟩ := startUp_noBufs h hNot
    exact ⟨⟨fun hUp => absurd hUp (by rw [hFails]; decide), nofun⟩, hRest⟩
  | true =>
    obtain ⟨hNum, hFlags⟩ := s.initBufs_bufs hBufs hAlloc
    have hHdl := (s.initBufs_same r).myHdl
    have hGot : s.fsmFn d .getBuf r = ({ (s.initBufs r).1 with state := .buffed }, d, true) := by
      rw [fsmFn_getBuf h.cfg, if_pos (hOk.mpr ⟨by rw [hBufs]; nofun, hAlloc⟩)]
    generalize hT : ({ (s.initBufs r).1 with state := .buffed } : MmStream) = t at hGot
    have hBuffed : t.state = .buffed := by rw [← hT]
    have hHdlT : t.myHdl = s.myHdl := by rw [← hHdl, ← hT]
    have hNumT : t.bufNum = regFlags.length := by rw [← hNum, ← hT]
    have hFlagsT : ∀ i, (t.status i).initialRegFlag = true ↔ regFlags[i]? = some true := by
      rw [← hT]
      exact hFlags
    obtain ⟨hReg, hState, hSkip, hAsked⟩ := t.regBuf_spec d r
    have hRegHdl : (t.regBuf d r).1.myHdl = s.myHdl := (t.regBuf_same d r).myHdl.trans hHdlT
    rw [hNumT] at hReg hSkip hAsked
    rw [hHdlT] at hAsked
    rw [startUp_bufs hGot hBuffed, if_neg (show ¬ true = false by decide)]
    by_cases hTooMany : regFlags.length > maxNumFrames ∨ r.reqbufs = false
    · have hFails : (t.regBuf d r).2.2 = false := by
        rw [Bool.eq_false_iff]
        intro hUp
        obtain ⟨⟨hLe, hTaken⟩, _⟩ := hReg.mp hUp
        rcases hTooMany with hMany | hRefused
        · exact absurd hMany (Nat.not_lt.mpr hLe)
        · exact absurd hTaken (by rw [hRefused]; decide)
      rw [if_pos hTooMany, hFails, if_neg Bool.noConfusion]
      refine ⟨⟨fun hUp => absurd hUp (by rw [hFails]; decide), nofun⟩,
        hState.trans hBuffed, ?_, ?_⟩
      · rw [hSkip hTooMany, hRegHdl]
        exact h.notRequested
      · rw [hSkip hTooMany, hRegHdl]
        exact h.notPolled
    rw [if_neg hTooMany]
    rw [not_or, Nat.not_lt, Bool.not_eq_false] at hTooMany
    by_cases hRefused : ∃ i ∈ List.range regFlags.length, regFlags[i]? = some true ∧
        r.qbuf i ≠ .queued
    · have hFails : (t.regBuf d r).2.2 = false := by
        obtain ⟨i, hi, hFlag, hNot⟩ := hRefused
        rw [Bool.eq_false_iff]
        intro hUp
        exact hNot ((hReg.mp hUp).2 i hi ((hFlagsT i).mpr hFlag))
      rw [if_pos hRefused, hFails, if_neg Bool.noConfusion]
      refine ⟨⟨fun hUp => absurd hUp (by rw [hFails]; decide), nofun⟩,
        hState.trans hBuffed, ?_⟩
      obtain ⟨i, hi, _, _⟩ := hRefused
      rw [hRegHdl, hAsked hTooMany]
      exact Nat.ne_of_gt (Nat.zero_lt_of_lt (List.mem_range.mp hi))
    · have hUp : (t.regBuf d r).2.2 = true := by
        refine hReg.mpr ⟨hTooMany, ?_⟩
        intro i hi hFlag
        by_contra hNot
        exact hRefused ⟨i, hi, (hFlagsT i).mp hFlag, hNot⟩
      rw [if_neg hRefused, hUp, if_pos rfl]
      obtain ⟨hRet, hOn, hOff⟩ := startStream_spec
        { (t.regBuf d r).1 with state := .reg } (t.regBuf d r).2.1 r
      rw [hRet]
      cases hStream : r.streamOn with
      | true => exact ⟨⟨fun _ => rfl, fun _ => rfl⟩, hOn hStream⟩
      | false =>
        obtain ⟨hStateReg, hDriver, hSameHdl⟩ := hOff hStream
        refine ⟨⟨nofun, nofun⟩, hStateReg, ?_⟩
        rw [hDriver, hSameHdl]
        refine Driver.delPollFd_not_polls _ ?_
        exact hRegHdl ▸ hPos

theorem fsmFn_stop (h : s.state = .active) (d : Driver) (r : StreamResults) :
    s.fsmFn d .stop r = ((s.stopStream d).1, (s.stopStream d).2, true) := by
  simp only [fsmFn, h]

theorem fsmFn_unregBuf (h : s.state = .reg) (d : Driver) (r : StreamResults) :
    s.fsmFn d .unregBuf r
      = ({ (s.unregBuf d).1 with state := .buffed }, (s.unregBuf d).2, true) := by
  simp only [fsmFn, h]

theorem fsmFn_putBuf (h : s.state = .buffed) (d : Driver) (r : StreamResults) :
    s.fsmFn d .putBuf r = ({ s.deinitBufs with state := .cfg }, d, true) := by
  simp only [fsmFn, h]

theorem fsmFn_ignored (evt : StreamEvt) (d : Driver) (r : StreamResults)
    (h : s.state = .cfg ∧ (evt = .stop ∨ evt = .unregBuf ∨ evt = .putBuf) ∨
      s.state = .buffed ∧ (evt = .stop ∨ evt = .unregBuf) ∨ s.state = .reg ∧ evt = .stop) :
    s.fsmFn d evt r = (s, d, true) := by
  rcases h with ⟨hState, rfl | rfl | rfl⟩ | ⟨hState, rfl | rfl⟩ | ⟨hState, rfl⟩ <;>
    simp only [fsmFn, hState]

theorem deinitBufs_myHdl (s : MmStream) : s.deinitBufs.myHdl = s.myHdl := s.deinitBufs_same.myHdl

theorem tearDown_cfg (h : s.state = .cfg) (d : Driver) (r : StreamResults) :
    s.tearDown d r = (s, d) := by
  have hStop := fsmFn_ignored .stop d r (.inl ⟨h, .inl rfl⟩)
  have hUnreg := fsmFn_ignored .unregBuf d r (.inl ⟨h, .inr (.inl rfl)⟩)
  have hPut := fsmFn_ignored .putBuf d r (.inl ⟨h, .inr (.inr rfl)⟩)
  simp only [tearDown, hStop, hUnreg, hPut]

theorem tearDown_buffed (h : s.state = .buffed) (d : Driver) (r : StreamResults) :
    s.tearDown d r = ({ s.deinitBufs with state := .cfg }, d) := by
  have hStop := fsmFn_ignored .stop d r (.inr (.inl ⟨h, .inl rfl⟩))
  have hUnreg := fsmFn_ignored .unregBuf d r (.inr (.inl ⟨h, .inr rfl⟩))
  simp only [tearDown, hStop, hUnreg, fsmFn_putBuf h]

theorem tearDown_reg (h : s.state = .reg) (d : Driver) (r : StreamResults) :
    s.tearDown d r = ({ ({ (s.unregBuf d).1 with state := .buffed } : MmStream).deinitBufs with
      state := .cfg }, (s.unregBuf d).2) := by
  have hStop := fsmFn_ignored .stop d r (.inr (.inr ⟨h, rfl⟩))
  simp only [tearDown, hStop, fsmFn_unregBuf h, fsmFn_putBuf]

theorem tearDown_active (h : s.state = .active) (d : Driver) (r : StreamResults) :
    s.tearDown d r = (s.stopStream d).1.tearDown (s.stopStream d).2 r := by
  have hReg : (s.stopStream d).1.state = .reg := rfl
  have hAgain := fsmFn_ignored .stop (s.stopStream d).2 r (.inr (.inr ⟨hReg, rfl⟩))
  simp only [tearDown, fsmFn_stop h, hAgain]

theorem atRest_of_reg (h : s.state = .reg) (hPolls : ¬ d.Polls s.myHdl) (r : StreamResults) :
    AtRest (s.tearDown d r).1 (s.tearDown d r).2 := by
  rw [tearDown_reg h]
  refine ⟨rfl, ?_, ?_⟩
  · simp only [deinitBufs_myHdl]
    exact Function.update_self ..
  · simp only [deinitBufs_myHdl]
    exact hPolls

/-- The rollback works from wherever a start stops, except between `VIDIOC_REQBUFS` and the last
`VIDIOC_QBUF`. -/
theorem tearDown_atRest {f : Option StartFailure} (h : AfterStart s d f) (hNot : f ≠ some .qbuf)
    (hPos : 0 < s.myHdl) (r : StreamResults) :
    AtRest (s.tearDown d r).1 (s.tearDown d r).2 := by
  match f, h with
  | none, hActive =>
    have hReg : (s.stopStream d).1.state = .reg := rfl
    have hPolls : ¬ (s.stopStream d).2.Polls (s.stopStream d).1.myHdl := d.delPollFd_not_polls hPos
    rw [tearDown_active hActive]
    exact atRest_of_reg hReg hPolls r
  | some .getBuf, hRest =>
    rw [tearDown_cfg hRest.cfg]
    exact hRest
  | some .reqbufs, ⟨hBuffed, hNone, hPolls⟩ =>
    rw [tearDown_buffed hBuffed]
    refine ⟨rfl, ?_, ?_⟩
    · simpa only [deinitBufs_myHdl] using hNone
    · simpa only [deinitBufs_myHdl] using hPolls
  | some .qbuf, _ => exact absurd rfl hNot
  | some .streamOn, ⟨hReg, hPolls⟩ => exact atRest_of_reg hReg hPolls r

/-- In the state `BUFFED`, `UNREG_BUF` is ignored, so what was requested stays so. -/
theorem tearDown_requested (h : AfterStart s d (some .qbuf)) (r : StreamResults) :
    (s.tearDown d r).2.requested (s.tearDown d r).1.myHdl ≠ 0 := by
  obtain ⟨hBuffed, hAsked⟩ := h
  rw [tearDown_buffed hBuffed]
  simpa only [deinitBufs_myHdl] using hAsked

theorem AfterStart.apart {f : Option StartFailure} (h : AfterStart s d f) {handler : Nat}
    (hApart : Apart handler d d') (hNe : s.myHdl ≠ handler) (hPos : 0 < s.myHdl) :
    AfterStart s d' f := by
  have hSame := hApart.requested s.myHdl hNe
  have hPolls : ¬ d.Polls s.myHdl → ¬ d'.Polls s.myHdl :=
    fun hNot hPolls => hNot (hApart.polls s.myHdl hNe hPos hPolls)
  match f, h with
  | none, hActive => exact hActive
  | some .getBuf, ⟨hCfg, hNone, hNot⟩ => exact ⟨hCfg, hSame.trans hNone, hPolls hNot⟩
  | some .reqbufs, ⟨hBuffed, hNone, hNot⟩ => exact ⟨hBuffed, hSame.trans hNone, hPolls hNot⟩
  | some .qbuf, ⟨hBuffed, hAsked⟩ => exact ⟨hBuffed, hSame ▸ hAsked⟩
  | some .streamOn, ⟨hReg, hNot⟩ => exact ⟨hReg, hPolls hNot⟩

end MmStream

namespace ChannelWorld

/-- The stream in a slot and the driver after events of that stream. -/
def setOwn (w : ChannelWorld) (k : Nat) (s : MmStream) (d : Driver) : ChannelWorld :=
  { w.setStream k s with driver := d }

/-- The loop of `mm_channel_start`, from the stream object at `i` on, with the position of the one
that fails. -/
def startStreams (r : ChannelResults) : List Nat → Nat → ChannelWorld →
    Except Fault (ChannelWorld × Option Nat)
  | [], _, w => .ok (w, none)
  | k :: rest, i, w =>
    match w.ch.streams[k]? with
    | none => .error .nullDereference
    | some s =>
      if w.ch.isOwn s then
        if s.state = .active then .ok (w, some i)
        else
          let up := s.startUp w.driver (r.streams k)
          let started := w.setOwn k up.1 up.2.1
          if up.2.2 then startStreams r rest (i + 1) started else .ok (started, some i)
      else
        match s.linkedStream with
        | none => .error .nullDereference
        | some p =>
          startStreams r rest (i + 1) (w.setLinked p
            ({ (w.linked p).1 with linkedObj := some w.ch.myHdl, isLinked := true },
              (w.linked p).2))

/-- `mm_channel_start`, and whether it succeeds. -/
def start (w : ChannelWorld) (r : ChannelResults) : Except Fault (ChannelWorld × Bool) :=
  match w.ch.startOrder with
  | .error fault => .error fault
  | .ok sObjs =>
    match startStreams r sObjs 0 { w with ch := w.ch.startBundle sObjs } with
    | .error fault => .error fault
    | .ok (w', none) => .ok (w', true)
    | .ok (w', some i) =>
      match w'.startErrorHandling r sObjs i with
      | .error fault => .error fault
      | .ok w'' => .ok (w'', false)

/-- The `START` event of `mm_channel_fsm_stopped`. -/
def fsmStoppedStart (w : ChannelWorld) (r : ChannelResults) :
    Except Fault (ChannelWorld × Bool) :=
  match w.start r with
  | .error fault => .error fault
  | .ok (w', false) => .ok (w', false)
  | .ok (w', true) => .ok ({ w' with ch := { w'.ch with state := .active } }, true)

end ChannelWorld

end KiwiDevice.Camera

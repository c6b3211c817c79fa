import KiwiDevice.Camera.PollSound
import Mathlib.Data.List.Infix

/-!
# Updates take effect before a synchronous call returns

The commands are processed in the order of their writes, and each update copies the entries after
its own store; so the answer to a command comes after the copies for all the stores before it.
-/

namespace KiwiDevice.Camera.PollThread

universe u

namespace PollState

variable {τ : Type u}

/-! ### What has happened -/

def sends (os : List (PollEvent τ)) : List (τ × PipeCmd) :=
  os.filterMap fun e =>
    match e with
    | .sent n cmd => some (n, cmd)
    | _ => none

def processed (os : List (PollEvent τ)) : List (τ × PipeCmd) :=
  os.filterMap fun e =>
    match e with
    | .processed n cmd => some (n, cmd)
    | _ => none

def storesAt (i : Nat) (os : List (PollEvent τ)) : List Int :=
  os.filterMap fun e =>
    match e with
    | .stored _ j fd => if j = i then some fd else none
    | _ => none

/-- The descriptor in the entry after the events. -/
def entryAt (i : Nat) (os : List (PollEvent τ)) : Int := ((storesAt i os).getLast?).getD 0

/-- A descriptor that is not positive stands for none. -/
def Reflects (fd pollFd : Int) : Prop := pollFd = fd ∨ fd ≤ 0 ∧ pollFd = -1

/-- The call `n'` had written its command and returned when the call `n` began. -/
def Precedes (os : List (PollEvent τ)) (n' n : τ) : Prop :=
  ∃ os₁ c os₂ cmd rc, os = os₁ ++ .called n c :: os₂ ∧ .sent n' cmd ∈ os₁ ∧ .returned n' rc ∈ os₁

/-- The commands up to that of the call are processed, and each descriptor that is polled is that of
the entry after the stores of the call and of the calls before it. -/
structure TakesEffect (os : List (PollEvent τ)) (n : τ) (s : PollState τ) : Prop where
  processed : ∀ before cmd after, sends os = before ++ (n, cmd) :: after →
    before ++ [(n, cmd)] <+: PollState.processed os
  slots : ∀ i < MAX_STREAM_NUM_IN_BUNDLE, ∃ m ≤ os.length,
    Reflects (entryAt i (os.take m)) (s.pollFds (i + 1)) ∧
      ∀ n', n' = n ∨ Precedes os n' n → ∀ k fd, os[k]? = some (.stored n' i fd) → k < m

/-! ### The invariant -/

/-- How far a call has come. -/
def stage : CallPc → Nat
  | .checkHandler => 0
  | .setFd => 1
  | .setHandler => 2
  | .lock => 3
  | .write => 4
  | .check => 5
  | .wait => 6
  | .unlock => 7
  | .done => 8

/-- The thread has copied the entry for this command. -/
def Copied : WorkerPc τ → Nat → τ × PipeCmd → Prop
  | .poll, _, _ => False
  | .testFd cmd j, i, cmd' => cmd' = cmd ∧ i < j
  | .copyFd cmd j, i, cmd' => cmd' = cmd ∧ i < j
  | .sigDone cmd, _, cmd' => cmd' = cmd

def Covered (os : List (PollEvent τ)) (s : PollState τ) (i : Nat) (cmd : τ × PipeCmd) : Prop :=
  cmd ∈ processed os ∨ Copied s.worker i cmd

/-- What the slot holds was copied after the stores of the commands that are covered. -/
def SlotSound (os : List (PollEvent τ)) (s : PollState τ) (i : Nat) : Prop :=
  ∃ m ≤ os.length, Reflects (entryAt i (os.take m)) (s.pollFds (i + 1)) ∧
    ∀ cmd, Covered os s i cmd → ∀ k fd, os[k]? = some (.stored cmd.1 i fd) → k < m

structure Recorded (os : List (PollEvent τ)) (s : PollState τ) : Prop where
  entries : ∀ i, (s.pollEntries i).fd = entryAt i os
  fifo : sends os = processed os ++ s.unprocessed
  sent : ∀ n cmd, .sent n cmd ∈ os →
    ∃ c pc, s.calls n = some (c, pc) ∧ c.cmd = cmd ∧ 5 ≤ stage pc
  stored : ∀ n i fd, .stored n i fd ∈ os →
    ∃ c pc, s.calls n = some (c, pc) ∧ c.cmd ≠ .commit ∧ 2 ≤ stage pc
  called : ∀ os₁ n c os₂, os = os₁ ++ .called n c :: os₂ → ∀ cmd, .sent n cmd ∉ os₁
  updating : ∀ n c pc, s.calls n = some (c, pc) → stage pc ≤ 2 → c.cmd ≠ .commit
  slots : ∀ i < MAX_STREAM_NUM_IN_BUNDLE, SlotSound os s i

variable {pipe : PollPipe} {os o : List (PollEvent τ)} {s s' s₁ : PollState τ} {n m : τ}
  {c : PollCall} {pc pc' : CallPc} {cmd : τ × PipeCmd} {i : Nat}

@[simp] theorem sends_append : sends (os ++ o) = sends os ++ sends o := List.filterMap_append

@[simp] theorem processed_append : processed (os ++ o) = processed os ++ processed o :=
  List.filterMap_append

theorem mem_sends : cmd ∈ sends os ↔ .sent cmd.1 cmd.2 ∈ os := by
  rw [sends, List.mem_filterMap]
  constructor
  · rintro ⟨e, hMem, hEq⟩
    cases e <;> simp at hEq
    rw [← hEq]
    exact hMem
  · exact fun hMem => ⟨_, hMem, rfl⟩

theorem entryAt_append_of_not (h : ∀ n fd, .stored n i fd ∉ o) :
    entryAt i (os ++ o) = entryAt i os := by
  have hNone : storesAt i o = [] := by
    apply List.filterMap_eq_nil_iff.mpr
    intro e hMem
    cases e with
    | stored n j fd =>
      have hNe : j ≠ i := by
        rintro rfl
        exact h n fd hMem
      simp [hNe]
    | _ => rfl
  rw [entryAt, storesAt, List.filterMap_append]
  change (((storesAt i os) ++ storesAt i o).getLast?).getD 0 = _
  rw [hNone, List.append_nil, entryAt]

theorem entryAt_stored (n : τ) (fd : Int) : entryAt i (os ++ [.stored n i fd]) = fd := by
  simp [entryAt, storesAt, List.filterMap_append]

theorem recorded_init (pipe : PollPipe) : Recorded [] (init pipe : PollState τ) where
  entries := fun _ => rfl
  fifo := rfl
  sent := by simp
  stored := by simp
  called := by simp
  updating := by simp [init]
  slots := by
    intro i hi
    refine ⟨0, le_rfl, Or.inl ?_, by simp⟩
    simp [init, entryAt, storesAt]

/-- The calls are not taken back. -/
def Later (s s' : PollState τ) : Prop :=
  ∀ n c pc, s.calls n = some (c, pc) → ∃ pc', s'.calls n = some (c, pc') ∧ stage pc ≤ stage pc'

/-- A covered command has been written. -/
theorem Recorded.sent_of_covered (h : Recorded os s) (hCovered : Covered os s i cmd) :
    .sent cmd.1 cmd.2 ∈ os := by
  rw [← mem_sends, h.fifo, List.mem_append]
  rcases hCovered with hMem | hCopied
  · exact Or.inl hMem
  · refine Or.inr (List.mem_append_left _ ?_)
    cases hAt : s.worker with
    | poll =>
      rw [hAt] at hCopied
      exact hCopied.elim
    | testFd cmd' j =>
      rw [hAt] at hCopied
      exact List.mem_singleton.mpr hCopied.1
    | copyFd cmd' j =>
      rw [hAt] at hCopied
      exact List.mem_singleton.mpr hCopied.1
    | sigDone cmd' =>
      rw [hAt] at hCopied
      exact List.mem_singleton.mpr hCopied

/-- What a step has to show; the rest stays as it was. -/
theorem Recorded.append (h : Recorded os s) (hLater : Later s s')
    (hEntries : ∀ i, (s'.pollEntries i).fd = entryAt i (os ++ o))
    (hFifo : sends (os ++ o) = processed (os ++ o) ++ s'.unprocessed)
    (hSent : ∀ n cmd, .sent n cmd ∈ o →
      ∃ c pc, s'.calls n = some (c, pc) ∧ c.cmd = cmd ∧ 5 ≤ stage pc)
    (hStored : ∀ n i fd, .stored n i fd ∈ o →
      ∃ c pc, s'.calls n = some (c, pc) ∧ c.cmd ≠ .commit ∧ 2 ≤ stage pc)
    (hCalled : ∀ o₁ n c o₂, o = o₁ ++ .called n c :: o₂ → s.calls n = none ∧ o₁ = [])
    (hUpdating : ∀ n c pc, s'.calls n = some (c, pc) → stage pc ≤ 2 → c.cmd ≠ .commit)
    (hSlots : ∀ i < MAX_STREAM_NUM_IN_BUNDLE, SlotSound (os ++ o) s' i) :
    Recorded (os ++ o) s' where
  entries := hEntries
  fifo := hFifo
  sent := by
    intro n cmd hMem
    rcases List.mem_append.mp hMem with hOld | hNew
    · obtain ⟨c, pc, hCall, hCmd, hStage⟩ := h.sent n cmd hOld
      obtain ⟨pc', hCall', hLe⟩ := hLater n c pc hCall
      exact ⟨c, pc', hCall', hCmd, hStage.trans hLe⟩
    · exact hSent n cmd hNew
  stored := by
    intro n i fd hMem
    rcases List.mem_append.mp hMem with hOld | hNew
    · obtain ⟨c, pc, hCall, hCmd, hStage⟩ := h.stored n i fd hOld
      obtain ⟨pc', hCall', hLe⟩ := hLater n c pc hCall
      exact ⟨c, pc', hCall', hCmd, hStage.trans hLe⟩
    · exact hStored n i fd hNew
  called := by
    intro os₁ n c os₂ hSplit cmd
    rcases List.append_eq_append_iff.mp hSplit with ⟨o₁, rfl, hNew⟩ | ⟨rest, rfl, hRest⟩
    · obtain ⟨hNone, rfl⟩ := hCalled o₁ n c os₂ hNew
      intro hMem
      rw [List.append_nil] at hMem
      obtain ⟨c', pc, hCall, -⟩ := h.sent n cmd hMem
      rw [hNone] at hCall
      cases hCall
    · cases rest with
      | nil =>
        obtain ⟨hNone, -⟩ := hCalled [] n c os₂ hRest.symm
        intro hMem
        obtain ⟨c', pc, hCall, -⟩ := h.sent n cmd (List.mem_append_left _ hMem)
        rw [hNone] at hCall
        cases hCall
      | cons e rest =>
        obtain ⟨rfl, -⟩ := List.cons.inj hRest
        exact h.called os₁ n c rest rfl cmd
  updating := hUpdating
  slots := hSlots

/-- A slot that is left alone. -/
theorem SlotSound.frame (h : SlotSound os s i) (hFd : s'.pollFds (i + 1) = s.pollFds (i + 1))
    (hCovered : ∀ cmd, Covered (os ++ o) s' i cmd →
      ∀ k fd, (os ++ o)[k]? = some (.stored cmd.1 i fd) → k < os.length ∧ Covered os s i cmd) :
    SlotSound (os ++ o) s' i := by
  obtain ⟨m, hLe, hReflects, hBefore⟩ := h
  refine ⟨m, ?_, ?_, ?_⟩
  · rw [List.length_append]
    exact hLe.trans (Nat.le_add_right _ _)
  · rw [hFd, List.take_append_of_le_length hLe]
    exact hReflects
  · intro cmd hNew k fd hAt
    obtain ⟨hLt, hOld⟩ := hCovered cmd hNew k fd hAt
    rw [List.getElem?_append_left hLt] at hAt
    exact hBefore cmd hOld k fd hAt

/-- A slot that has just been copied. -/
theorem SlotSound.copied (hReflects : Reflects (entryAt i os) (s'.pollFds (i + 1)))
    (hNone : ∀ n fd, .stored n i fd ∉ o) : SlotSound (os ++ o) s' i := by
  refine ⟨os.length, ?_, ?_, ?_⟩
  · rw [List.length_append]
    exact Nat.le_add_right _ _
  · rwa [List.take_left]
  · intro cmd _ k fd hAt
    by_contra hNot
    rw [List.getElem?_append_right (Nat.le_of_not_lt hNot)] at hAt
    exact hNone _ _ (List.mem_of_getElem? hAt)

/-! ### The loop over the entries -/

/-- The events of the thread. -/
def AllProcessed (o : List (PollEvent τ)) : Prop := ∀ e ∈ o, ∃ n cmd, e = .processed n cmd

theorem SlotStep.allProcessed {wpc : WorkerPc τ} (h : SlotStep cmd i wpc o) : AllProcessed o := by
  cases h <;> simp [AllProcessed]

theorem SlotStep.unprocessed_eq {wpc : WorkerPc τ} (h : SlotStep cmd i wpc o) :
    [cmd] = processed o ++ current wpc := by
  cases h <;> rfl

theorem AllProcessed.sends_eq (h : AllProcessed o) : sends o = [] := by
  apply List.filterMap_eq_nil_iff.mpr
  intro e hMem
  obtain ⟨n, cmd, rfl⟩ := h e hMem
  rfl

theorem AllProcessed.not_stored (h : AllProcessed o) (n : τ) (fd : Int) : .stored n i fd ∉ o := by
  intro hMem
  obtain ⟨_, _, hEq⟩ := h _ hMem
  cases hEq

theorem AllProcessed.lt_of_stored (h : AllProcessed o) {k : Nat} {fd : Int}
    (hAt : (os ++ o)[k]? = some (.stored n i fd)) : k < os.length := by
  by_contra hNot
  rw [List.getElem?_append_right (Nat.le_of_not_lt hNot)] at hAt
  exact h.not_stored n fd (List.mem_of_getElem? hAt)

/-- A command that only asks for an answer comes from a call without a store. -/
theorem Recorded.not_stored_of_commit (h : Recorded os s) (hMem : cmd ∈ s.unprocessed)
    (hCommit : cmd.2 = .commit) (i : Nat) (fd : Int) : .stored cmd.1 i fd ∉ os := by
  intro hStored
  have hSent : .sent cmd.1 cmd.2 ∈ os := by
    rw [← mem_sends, h.fifo]
    exact List.mem_append_right _ hMem
  obtain ⟨c, pc, hCall, hCmd, -⟩ := h.sent _ _ hSent
  obtain ⟨c', pc', hCall', hNot, -⟩ := h.stored _ _ _ hStored
  rw [hCall] at hCall'
  cases hCall'
  exact hNot (hCmd.trans hCommit)

/-- One pass of the loop over the entries. -/
theorem Recorded.slot {j : Nat} {fd : Int} {wpc : WorkerPc τ} (h : Recorded os s)
    (hNum : s.numFds = j + 1) (hReflects : Reflects (s.pollEntries j).fd fd)
    (hCopied : ∀ i, i < j → Copied s.worker i cmd) (hSlot : SlotStep cmd j wpc o)
    (hi : i < MAX_STREAM_NUM_IN_BUNDLE) :
    SlotSound (os ++ o) { s.setPollFd fd with worker := wpc } i := by
  have hEvents := hSlot.allProcessed
  rcases eq_or_ne i j with rfl | hNe
  · refine SlotSound.copied ?_ hEvents.not_stored
    rw [← h.entries]
    simpa [setPollFd, hNum] using hReflects
  · refine (h.slots i hi).frame ?_ ?_
    · simp [setPollFd, hNum, hNe]
    · intro cmd' hCovered k fd' hAt
      refine ⟨hEvents.lt_of_stored hAt, ?_⟩
      rw [Covered, processed_append, List.mem_append, or_assoc] at hCovered
      rcases hCovered with hOld | hNew
      · exact Or.inl hOld
      · have hThis : cmd' = cmd ∧ i < j := by
          cases hSlot with
          | next hMore =>
            rcases hNew with hIn | ⟨hSame, hLt⟩
            · exact absurd hIn List.not_mem_nil
            · exact ⟨hSame, by omega⟩
          | async hLast hAsync =>
            rcases hNew with hIn | hIn
            · exact ⟨List.mem_singleton.mp hIn, by omega⟩
            · exact hIn.elim
          | sync hLast hNotAsync =>
            rcases hNew with hIn | hSame
            · exact absurd hIn List.not_mem_nil
            · exact ⟨hSame, by omega⟩
        rw [hThis.1]
        exact Or.inr (hCopied i hThis.2)

/-! ### The steps of a call -/

/-- The event is about the end of a call only. -/
def Closing : PollEvent τ → Prop
  | .writeFailed _ => True
  | .returned _ _ => True
  | _ => False

theorem sends_closing (h : ∀ e ∈ o, Closing e) : sends o = [] := by
  apply List.filterMap_eq_nil_iff.mpr
  intro e hMem
  have hClosing := h e hMem
  cases e <;> first | rfl | exact hClosing.elim

theorem processed_closing (h : ∀ e ∈ o, Closing e) : processed o = [] := by
  apply List.filterMap_eq_nil_iff.mpr
  intro e hMem
  have hClosing := h e hMem
  cases e <;> first | rfl | exact hClosing.elim

/-- The covered commands stay the same, and none of their calls stores anything. -/
theorem SlotSound.frame_same (h : SlotSound os s i) (hFds : s'.pollFds = s.pollFds)
    (hWorker : s'.worker = s.worker) (hProcessed : processed o = [])
    (hStored : ∀ cmd fd, Covered os s i cmd → .stored cmd.1 i fd ∉ o) :
    SlotSound (os ++ o) s' i := by
  refine h.frame (by rw [hFds]) ?_
  intro cmd hCovered k fd hAt
  rw [Covered, processed_append, hProcessed, List.append_nil, hWorker] at hCovered
  refine ⟨?_, hCovered⟩
  by_contra hNot
  rw [List.getElem?_append_right (Nat.le_of_not_lt hNot)] at hAt
  exact hStored cmd fd hCovered (List.mem_of_getElem? hAt)

variable [DecidableEq τ] {ok : Bool} {pick : Option τ}

theorem CallStep.stage_lt (h : CallStep pipe s n c pc ok pc' s₁ o) : stage pc < stage pc' := by
  cases h with
  | sent => cases c.sync <;> decide
  | _ => decide

theorem later_goto (hCalls : s₁.calls = s.calls) (hCall : s.calls n = some (c, pc))
    (hLt : stage pc < stage pc') : Later s (s₁.goto n c pc') := by
  intro m c' pc'' hAt
  rcases eq_or_ne m n with rfl | hNe
  · rw [hCall] at hAt
    cases hAt
    exact ⟨pc', calls_goto_self, hLt.le⟩
  · exact ⟨pc'', by rw [calls_goto_of_ne hNe, hCalls, hAt], le_rfl⟩

theorem updating_goto (hCalls : s₁.calls = s.calls)
    (hOld : ∀ n c pc, s.calls n = some (c, pc) → stage pc ≤ 2 → c.cmd ≠ .commit)
    (hNew : stage pc' ≤ 2 → c.cmd ≠ .commit) :
    ∀ m c' pc'', (s₁.goto n c pc').calls m = some (c', pc'') → stage pc'' ≤ 2 →
      c'.cmd ≠ .commit := by
  intro m c' pc'' hAt hStage
  rcases eq_or_ne m n with rfl | hNe
  · rw [calls_goto_self] at hAt
    cases hAt
    exact hNew hStage
  · rw [calls_goto_of_ne hNe, hCalls] at hAt
    exact hOld m c' pc'' hAt hStage

theorem Recorded.goto_quiet (h : Recorded os s) (hCall : s.calls n = some (c, pc))
    (hLt : stage pc < stage pc') (hCalls : s₁.calls = s.calls)
    (hEntries : ∀ i, (s₁.pollEntries i).fd = (s.pollEntries i).fd) (hFds : s₁.pollFds = s.pollFds)
    (hWorker : s₁.worker = s.worker) (hPipe : s₁.pipe = s.pipe) (hO : ∀ e ∈ o, Closing e) :
    Recorded (os ++ o) (s₁.goto n c pc') := by
  have hUnprocessed : (s₁.goto n c pc').unprocessed = s.unprocessed := by
    change current s₁.worker ++ s₁.pipe = _
    rw [hWorker, hPipe]
    rfl
  apply h.append (later_goto hCalls hCall hLt)
  · intro i
    refine (hEntries i).trans ?_
    rw [h.entries, entryAt_append_of_not]
    exact fun m fd hMem => hO _ hMem
  · rw [sends_append, processed_append, sends_closing hO, processed_closing hO, List.append_nil,
      List.append_nil, h.fifo, hUnprocessed]
  · exact fun m cmd hMem => (hO _ hMem).elim
  · exact fun m i fd hMem => (hO _ hMem).elim
  · intro o₁ m c' o₂ hSplit
    exact (hO (.called m c') (by simp [hSplit])).elim
  · refine updating_goto hCalls h.updating ?_
    exact fun hStage => h.updating n c pc hCall (hLt.le.trans hStage)
  · intro i hi
    refine (h.slots i hi).frame_same hFds hWorker (processed_closing hO) ?_
    exact fun cmd fd _ hMem => hO _ hMem

theorem Recorded.setFd (h : Recorded os s) (hCall : s.calls n = some (c, .setFd)) :
    Recorded (os ++ [.stored n c.idx c.entry.fd])
      ((s.setEntry c.idx { s.pollEntries c.idx with fd := c.entry.fd }).goto n c .setHandler) := by
  have hCmd := h.updating n c _ hCall (by decide)
  have hLater : Later s ((s.setEntry c.idx
      { s.pollEntries c.idx with fd := c.entry.fd }).goto n c .setHandler) :=
    later_goto rfl hCall (by decide)
  apply h.append hLater
  · intro i
    rcases eq_or_ne i c.idx with rfl | hNe
    · rw [entryAt_stored]
      simp [PollState.goto, setEntry]
    · rw [entryAt_append_of_not (by simp [hNe]), ← h.entries]
      simp [PollState.goto, setEntry, hNe]
  · rw [sends_append, processed_append]
    simp only [sends, processed, List.filterMap_cons, List.filterMap_nil, List.append_nil]
    exact h.fifo
  · simp
  · intro m i fd hMem
    cases List.mem_singleton.mp hMem
    exact ⟨c, _, calls_goto_self, hCmd, by decide⟩
  · intro o₁ m c' o₂ hSplit
    cases o₁ <;> simp at hSplit
  · exact updating_goto rfl h.updating fun _ => hCmd
  · intro i hi
    refine (h.slots i hi).frame_same rfl rfl rfl ?_
    intro cmd fd hCovered hMem
    cases List.mem_singleton.mp hMem
    obtain ⟨c', pc, hAt, -, hStage⟩ := h.sent _ _ (h.sent_of_covered hCovered)
    rw [hCall] at hAt
    cases hAt
    exact absurd hStage (by decide)

theorem Recorded.send (h : Recorded os s) (hCall : s.calls n = some (c, .write)) :
    Recorded (os ++ [.sent n c.cmd])
      (PollState.goto { s with pipe := s.pipe ++ [(n, c.cmd)] } n c
        (if c.sync then .check else .unlock)) := by
  have hStage : 5 ≤ stage (if c.sync then .check else .unlock) := by cases c.sync <;> decide
  have hLater : Later s (PollState.goto { s with pipe := s.pipe ++ [(n, c.cmd)] } n c
      (if c.sync then .check else .unlock)) :=
    later_goto rfl hCall (lt_of_lt_of_le (by decide) hStage)
  apply h.append hLater
  · intro i
    rw [entryAt_append_of_not (by simp)]
    exact h.entries i
  · have hUnprocessed : unprocessed { s with pipe := s.pipe ++ [(n, c.cmd)] } =
        s.unprocessed ++ [(n, c.cmd)] := unprocessed_sent
    rw [sends_append, processed_append, h.fifo]
    change _ ++ [(n, c.cmd)] = processed os ++ [] ++
      unprocessed { s with pipe := s.pipe ++ [(n, c.cmd)] }
    rw [hUnprocessed, List.append_nil, List.append_assoc]
  · intro m cmd hMem
    cases List.mem_singleton.mp hMem
    exact ⟨c, _, calls_goto_self, rfl, hStage⟩
  · simp
  · intro o₁ m c' o₂ hSplit
    cases o₁ <;> simp at hSplit
  · exact updating_goto rfl h.updating fun hLe => absurd (hStage.trans hLe) (by decide)
  · intro i hi
    refine (h.slots i hi).frame_same rfl rfl rfl ?_
    simp

theorem Recorded.caller (h : Recorded os s) (hStep : s.callStep pipe n ok = some (s', o)) :
    Recorded (os ++ o) s' := by
  obtain ⟨c, pc, pc', s₁, hCall, hCase, rfl⟩ := callStep_cases hStep
  have hLt := hCase.stage_lt
  cases hCase with
  | setFd => exact h.setFd hCall
  | sent hRoom => exact h.send hCall
  | setHandler =>
    refine h.goto_quiet hCall hLt rfl ?_ rfl rfl rfl (by simp)
    intro i
    rcases eq_or_ne i c.idx with rfl | hNe
    · simp [setEntry]
    · simp [setEntry, hNe]
  | notFound => exact h.goto_quiet hCall hLt rfl (fun _ => rfl) rfl rfl rfl (by simp [Closing])
  | writeFailed => exact h.goto_quiet hCall hLt rfl (fun _ => rfl) rfl rfl rfl (by simp [Closing])
  | returned => exact h.goto_quiet hCall hLt rfl (fun _ => rfl) rfl rfl rfl (by simp [Closing])
  | _ => exact h.goto_quiet hCall hLt rfl (fun _ => rfl) rfl rfl rfl (by simp)

/-! ### The steps of the thread -/

theorem WorkerStep.allProcessed {wpc : WorkerPc τ} (h : WorkerStep pipe s pick wpc s' o) :
    AllProcessed o := by
  cases h with
  | invalid _ hSlot => exact hSlot.allProcessed
  | copied hSlot => exact hSlot.allProcessed
  | _ => simp [AllProcessed]

/-- What the thread has dealt with is taken off the front. -/
theorem WorkerStep.unprocessed_eq {wpc : WorkerPc τ} (h : WorkerStep pipe s pick wpc s' o) :
    current wpc ++ s.pipe = processed o ++ s'.unprocessed := by
  cases h with
  | commit hReadable =>
    rw [hReadable]
    rfl
  | update hReadable =>
    rw [hReadable]
    rfl
  | valid => rfl
  | invalid _ hSlot =>
    rw [unprocessed, ← List.append_assoc, ← hSlot.unprocessed_eq]
    rfl
  | copied hSlot =>
    rw [unprocessed, ← List.append_assoc, ← hSlot.unprocessed_eq]
    rfl
  | sigDone => rfl

theorem WorkerStep.calls_eq {wpc : WorkerPc τ} (h : WorkerStep pipe s pick wpc s' o) :
    s'.calls = s.calls := by
  cases h <;> rfl

theorem WorkerStep.pollEntries_eq {wpc : WorkerPc τ} (h : WorkerStep pipe s pick wpc s' o) :
    s'.pollEntries = s.pollEntries := by
  cases h <;> rfl

theorem Recorded.workerSlots (h : Recorded os s) (hSound : s.Sound)
    (hCase : WorkerStep pipe s pick s.worker s' o) (hi : i < MAX_STREAM_NUM_IN_BUNDLE) :
    SlotSound (os ++ o) s' i := by
  have hEvents := hCase.allProcessed
  have hWorker := hSound.worker
  have hMem {cmd : τ × PipeCmd} (hAt : cmd ∈ current s.worker ++ s.pipe) : cmd ∈ s.unprocessed := hAt
  generalize hWpc : s.worker = wpc at hCase hWorker hMem
  have hKeep (hProcessed : processed o = []) (hCopied : ∀ cmd, Copied s'.worker i cmd →
      Copied wpc i cmd) (hFds : s'.pollFds (i + 1) = s.pollFds (i + 1)) :
      SlotSound (os ++ o) s' i := by
    refine (h.slots i hi).frame hFds ?_
    intro cmd hCovered k fd hAt
    refine ⟨hEvents.lt_of_stored hAt, ?_⟩
    rw [Covered, processed_append, hProcessed, List.append_nil] at hCovered
    rw [Covered, hWpc]
    exact hCovered.imp_right (hCopied cmd)
  cases hCase with
  | commit hReadable hCommit =>
    refine (h.slots i hi).frame rfl ?_
    intro cmd' hCovered k fd hAt
    rw [List.append_nil] at hAt hCovered
    rcases hCovered with hOld | hSame
    · exact ⟨(List.getElem?_eq_some_iff.mp hAt).1, Or.inl hOld⟩
    · obtain rfl : cmd' = _ := hSame
      refine absurd (List.mem_of_getElem? hAt) (h.not_stored_of_commit (hMem ?_) hCommit i fd)
      rw [hReadable]
      exact List.mem_cons_self
  | update hReadable hNotCommit =>
    refine hKeep rfl ?_ ?_
    · rintro cmd ⟨-, hLt⟩
      exact absurd hLt (Nat.not_lt_zero i)
    · simp [setPollFd]
  | valid => exact hKeep rfl (fun _ hCopied => hCopied) rfl
  | invalid hRemoved hSlot =>
    refine h.slot hWorker.2.2 (Or.inr ⟨hRemoved, rfl⟩) ?_ hSlot hi
    intro i hLt
    rw [hWpc]
    exact ⟨rfl, hLt⟩
  | copied hSlot =>
    refine h.slot hWorker.2.2 (Or.inl rfl) ?_ hSlot hi
    intro i hLt
    rw [hWpc]
    exact ⟨rfl, hLt⟩
  | sigDone hFree hSignal =>
    refine (h.slots i hi).frame rfl ?_
    intro cmd' hCovered k fd hAt
    refine ⟨hEvents.lt_of_stored hAt, ?_⟩
    rw [Covered, processed_append, List.mem_append, or_assoc] at hCovered
    rcases hCovered with hOld | hNew | hNone
    · exact Or.inl hOld
    · obtain rfl := List.mem_singleton.mp hNew
      refine Or.inr ?_
      rw [hWpc]
      rfl
    · exact hNone.elim

theorem Recorded.work (h : Recorded os s) (hSound : s.Sound)
    (hStep : s.workerStep pipe pick = some (s', o)) : Recorded (os ++ o) s' := by
  have hCase := workerStep_cases hStep
  have hEvents := hCase.allProcessed
  have hCalls := hCase.calls_eq
  apply h.append
  · intro n c pc hCall
    exact ⟨pc, by rw [hCalls, hCall], le_rfl⟩
  · intro i
    rw [hCase.pollEntries_eq, h.entries, entryAt_append_of_not hEvents.not_stored]
  · rw [sends_append, processed_append, hEvents.sends_eq, List.append_nil, h.fifo, unprocessed,
      hCase.unprocessed_eq, List.append_assoc]
  · intro n cmd hMem
    obtain ⟨_, _, hEq⟩ := hEvents _ hMem
    cases hEq
  · exact fun n i fd hMem => absurd hMem (hEvents.not_stored n fd)
  · intro o₁ n c o₂ hSplit
    obtain ⟨_, _, hEq⟩ := hEvents (.called n c) (by simp [hSplit])
    cases hEq
  · rw [hCalls]
    exact h.updating
  · exact fun i hi => h.workerSlots hSound hCase hi

/-! ### Runs -/

theorem cmd_ne_of_start (h : stage c.start ≤ 2) : c.cmd ≠ .commit := by
  cases c with
  | addPollFd handler fd sync => cases sync <;> simp [PollCall.cmd]
  | delPollFd handler sync => cases sync <;> simp [PollCall.cmd]
  | commitUpdates => exact absurd h (by decide)
  | notifyEntriesUpdated => exact absurd h (by decide)

theorem Recorded.start (h : Recorded os s) (hCall : s.calls n = none)
    (hO : o = .called n c :: if c.start = .done then [.returned n (-1)] else []) :
    Recorded (os ++ o) (s.goto n c c.start) := by
  have hEvents : ∀ e ∈ o, e = .called n c ∨ e = .returned n (-1) := by
    subst hO
    split <;> simp
  have hStored : ∀ i m fd, .stored m i fd ∉ o := by
    intro i m fd hMem
    rcases hEvents _ hMem with hEq | hEq <;> cases hEq
  have hSends : sends o = [] ∧ processed o = [] := by
    subst hO
    split <;> exact ⟨rfl, rfl⟩
  have hOther {m : τ} (hNe : s.calls m ≠ none) : m ≠ n := by
    rintro rfl
    exact hNe hCall
  apply h.append
  · intro m c' pc hAt
    exact ⟨pc, by rw [calls_goto_of_ne (hOther (by simp [hAt])), hAt], le_rfl⟩
  · intro i
    rw [entryAt_append_of_not (hStored i)]
    exact h.entries i
  · rw [sends_append, processed_append, hSends.1, hSends.2, List.append_nil, List.append_nil]
    exact h.fifo
  · intro m cmd hMem
    rcases hEvents _ hMem with hEq | hEq <;> cases hEq
  · exact fun m i fd hMem => absurd hMem (hStored i m fd)
  · intro o₁ m c' o₂ hSplit
    subst hO
    cases o₁ with
    | nil =>
      cases (List.cons.inj hSplit).1
      exact ⟨hCall, rfl⟩
    | cons e o₁ =>
      have hRest := (List.cons.inj hSplit).2
      split at hRest
      · cases o₁ <;> simp at hRest
      · cases o₁ <;> simp at hRest
  · intro m c' pc hAt hStage
    rcases eq_or_ne m n with rfl | hNe
    · rw [calls_goto_self] at hAt
      cases hAt
      exact cmd_ne_of_start hStage
    · rw [calls_goto_of_ne hNe] at hAt
      exact h.updating m c' pc hAt hStage
  · intro i hi
    exact (h.slots i hi).frame_same rfl rfl hSends.2 fun cmd fd _ => hStored i cmd.1 fd

theorem Recorded.next {input : PollInput τ} (h : Recorded os s) (hSound : s.Sound)
    (hNext : Next pipe s input o s') : Recorded (os ++ o) s' := by
  cases input with
  | call n c =>
    obtain ⟨hCall, rfl, hO⟩ := call_cases hNext
    exact h.start hCall hO
  | caller n ok => exact h.caller hNext
  | worker pick => exact h.work hSound hNext
  | data =>
    obtain ⟨rfl, rfl⟩ := data_cases hNext
    rwa [List.append_nil]

theorem recorded_of_run {is : List (PollInput τ)} (run : PollRun pipe is os s) :
    Recorded os s ∧ s.Sound := by
  refine Lib.Steps.history (I := fun _ os s => Recorded os s ∧ s.Sound)
    ⟨recorded_init pipe, sound_init pipe⟩ ?_ run
  rintro _ os s input o s' hOne ⟨hRecorded, hSound⟩ hNext
  exact ⟨hRecorded.next hSound hNext, hSound.next hOne hNext⟩

theorem returned_cases {input : PollInput τ} (hNext : Next pipe s input o s')
    (hReturned : .returned n 0 ∈ o) :
    ∃ c, s.calls n = some (c, .unlock) ∧ s' = PollState.goto { s with mutex := none } n c .done ∧
      o = [.returned n 0] := by
  cases input with
  | call m c =>
    obtain ⟨-, -, rfl⟩ := call_cases hNext
    split at hReturned <;> simp at hReturned
  | caller m ok =>
    obtain ⟨c, pc, pc', s₁, hCall, hCase, rfl⟩ := callStep_cases hNext
    cases hCase with
    | returned =>
      cases List.mem_singleton.mp hReturned
      exact ⟨c, hCall, rfl, rfl⟩
    | _ => simp at hReturned
  | worker pick =>
    obtain ⟨_, _, hEq⟩ := (workerStep_cases hNext).allProcessed _ hReturned
    cases hEq
  | data =>
    obtain ⟨-, rfl⟩ := data_cases hNext
    exact absurd hReturned List.not_mem_nil

/-- A synchronous call whose command was written returns when the updates before it have effect. -/
theorem takesEffect_of_returned {input : PollInput τ} (h : Recorded os s) (hSound : s.Sound)
    (hNext : Next pipe s input o s') (hReturned : .returned n 0 ∈ o)
    (hSync : ∀ c pc, s.calls n = some (c, pc) → c.sync = true) (hSent : ∃ cmd, .sent n cmd ∈ os) :
    TakesEffect (os ++ o) n s' := by
  obtain ⟨c, hCall, rfl, rfl⟩ := returned_cases hNext hReturned
  obtain ⟨kind, hSent⟩ := hSent
  have hNot {k : PipeCmd} : (n, k) ∉ s.unprocessed :=
    hSound.not_mem_of_unlock hCall (hSync c _ hCall)
  have hSends : sends (os ++ [.returned n 0]) = PollState.processed os ++ s.unprocessed := by
    rw [sends_append, h.fifo]
    exact List.append_nil _
  have hProcessed : PollState.processed (os ++ [.returned n 0]) = PollState.processed os := by
    rw [processed_append]
    exact List.append_nil _
  have hOwn : (n, kind) ∈ PollState.processed os := by
    have hMem : (n, kind) ∈ sends os := mem_sends.mpr hSent
    rw [h.fifo, List.mem_append] at hMem
    exact hMem.resolve_right hNot
  constructor
  · intro before cmd after hSplit
    rw [hProcessed]
    rw [hSends] at hSplit
    rcases List.append_eq_append_iff.mp hSplit with ⟨rest, -, hRest⟩ | ⟨rest, hFront, hRest⟩
    · exact absurd (hRest ▸ List.mem_append_right _ List.mem_cons_self) hNot
    · cases rest with
      | nil => exact absurd (hRest ▸ List.mem_cons_self) hNot
      | cons e rest =>
        obtain ⟨rfl, -⟩ := List.cons.inj hRest
        exact ⟨rest, by rw [hFront, List.append_assoc]; rfl⟩
  · intro i hi
    obtain ⟨m, hLe, hReflects, hBefore⟩ := h.slots i hi
    refine ⟨m, ?_, ?_, ?_⟩
    · rw [List.length_append]
      exact hLe.trans (Nat.le_add_right _ _)
    · rwa [List.take_append_of_le_length hLe]
    · intro n' hWho k fd hAt
      have hLt : k < os.length := by
        by_contra hFar
        rw [List.getElem?_append_right (Nat.le_of_not_lt hFar)] at hAt
        simpa using List.mem_of_getElem? hAt
      rw [List.getElem?_append_left hLt] at hAt
      rcases hWho with rfl | ⟨os₁, c', os₂, cmd', rc, hSplit, hSent', -⟩
      · exact hBefore (n', kind) (Or.inl hOwn) k fd hAt
      · refine hBefore (n', cmd') (Or.inl ?_) k fd hAt
        have hOrder := congrArg sends hSplit
        rw [hSends, sends_append] at hOrder
        rcases List.append_eq_append_iff.mp hOrder with ⟨rest, hFront, -⟩ | ⟨rest, hFront, -⟩
        · have hEarly : (n, kind) ∈ sends os₁ := hFront ▸ List.mem_append_left _ hOwn
          exact absurd (mem_sends.mp hEarly)
            ((h.next hSound hNext).called os₁ n c' os₂ hSplit kind)
        · rw [hFront]
          exact List.mem_append_left _ (mem_sends.mpr hSent')

end PollState

end KiwiDevice.Camera.PollThread

import KiwiDevice.Hal.JpegEventMemory
import Mathlib.Data.List.Nodup

/-!
# Runs of JPEG jobs and events

An event that comes after the id of its job is stored removes and frees that job alone.
-/

namespace KiwiDevice.Hal.JpegPostProc

variable {os o : List JpegEvent} {s s' : JpegPostProc} {i : JpegInput} {evt : JpegEvt}
  {p : JpegParent} {r : JpegResults}

/-- `once`: a job is in the queue or was freed, once. `entry`: an unfinished job has its entry, which
has its id once the id is stored. `stored`: an id in the queue is that of an unfinished job. -/
structure Sound (os : List JpegEvent) (s : JpegPostProc) : Prop where
  once : (freed os ++ s.ongoingJpegQ.map JpegData.job).Perm (List.range s.jobs)
  encoding : ∀ job, s.encoder = .encoding job → s.ongoingJpegQ.getLast? = some ⟨job, 0⟩
  current : ∀ job jobId, s.encoder = .started job jobId →
    ⟨job, 0⟩ ∈ s.ongoingJpegQ ∧ ⟨job, jobId⟩ ∈ s.unfinished
  ids : (s.unfinished.map JpegData.jobId).Nodup
  positive : ∀ d ∈ s.unfinished, d.jobId ≠ 0
  entry : ∀ d ∈ s.unfinished, d ∈ s.ongoingJpegQ ∨ s.encoder = .started d.job d.jobId
  stored : ∀ d ∈ s.ongoingJpegQ, d.jobId ≠ 0 → d ∈ s.unfinished
  ended : ∀ d ∈ begun os, d.job ∈ freed os ∨ d ∈ s.unfinished
  alone : ∀ f ∈ flushes os, f.2 = [f.1]
  memory : (released os ++ s.notified).Perm (taken os)

theorem sound_start (mUseSaveProc mJpegMemOpt isActive : Bool) :
    Sound [] (start mUseSaveProc mJpegMemOpt isActive) := by
  constructor <;> simp [start, freed, begun, flushes, released, taken, unfinished]

theorem Sound.nodup (h : Sound os s) : (s.ongoingJpegQ.map JpegData.job).Nodup :=
  (List.nodup_append.mp (h.once.nodup_iff.mpr List.nodup_range)).2.1

/-- What was given back and what is lent make up what was taken. -/
theorem perm_account {α : Type} {back back' lent lent' all new : List α}
    (h : (back ++ lent).Perm all) (hStep : (back' ++ lent').Perm (new ++ lent)) :
    (back ++ back' ++ lent').Perm (all ++ new) := by
  rw [List.append_assoc]
  refine (hStep.append_left back).trans ?_
  refine (List.perm_append_comm_assoc back new lent).trans ?_
  exact (h.append_left new).trans List.perm_append_comm

/-- A step that leaves the jobs alone. -/
theorem Sound.aside (h : Sound os s) (hKeeps : Keeps s s') (hAside : Aside o)
    (hMemory : (released o ++ s'.notified).Perm (taken o ++ s.notified)) : Sound (os ++ o) s' := by
  obtain ⟨hBegun, hFlushes, hFreed⟩ := hAside
  rw [hKeeps] at hMemory ⊢
  constructor
  · rw [freed_append, hFreed, List.append_nil]
    exact h.once
  · exact h.encoding
  · exact h.current
  · exact h.ids
  · exact h.positive
  · exact h.entry
  · exact h.stored
  · rw [begun_append, freed_append, hBegun, hFreed, List.append_nil, List.append_nil]
    exact h.ended
  · rw [flushes_append, hFlushes, List.append_nil]
    exact h.alone
  · rw [released_append, taken_append]
    exact perm_account h.memory hMemory

theorem mem_filter_matchJobId {jobId : Nat} {l : List JpegData} {d : JpegData} :
    d ∈ l.filter (fun d => !matchJobId jobId d) ↔ d ∈ l ∧ d.jobId ≠ jobId := by
  simp [matchJobId]

/-- The event of a job whose id is stored finds its entry and no other. -/
theorem Sound.matched (h : Sound os s) {d : JpegData} (hUnfinished : d ∈ s.unfinished)
    (hStored : s.encoder ≠ .started d.job d.jobId) :
    s.ongoingJpegQ.filter (matchJobId d.jobId) = [d] := by
  have hIn := (h.entry d hUnfinished).resolve_right hStored
  have hOnly : ∀ d' ∈ s.ongoingJpegQ.filter (matchJobId d.jobId), d' = d := by
    intro d' hIn'
    obtain ⟨hAmong, hMatch⟩ := List.mem_filter.mp hIn'
    have hSame : d'.jobId = d.jobId := of_decide_eq_true hMatch
    have hNe : d'.jobId ≠ 0 := by
      rw [hSame]
      exact h.positive d hUnfinished
    exact List.inj_on_of_nodup_map h.ids (h.stored d' hAmong hNe) hUnfinished hSame
  have hNodup : (s.ongoingJpegQ.filter (matchJobId d.jobId)).Nodup :=
    (List.Nodup.of_map _ h.nodup).filter _
  have hMem : d ∈ s.ongoingJpegQ.filter (matchJobId d.jobId) :=
    List.mem_filter.mpr ⟨hIn, decide_eq_true rfl⟩
  refine List.perm_singleton.mp ?_
  refine (List.perm_ext_iff_of_nodup hNodup (List.nodup_singleton d)).mpr fun d' => ?_
  rw [List.mem_singleton]
  constructor
  · exact hOnly d'
  · rintro rfl
    exact hMem

/-- The event of a job takes the job out. -/
theorem Sound.flush (h : Sound os s) {d : JpegData}
    (hUnfinished : s.unfinished.Perm (d :: s'.unfinished))
    (hStored : s.encoder ≠ .started d.job d.jobId)
    (hQueue : s'.ongoingJpegQ = s.ongoingJpegQ.filter fun d' => !matchJobId d.jobId d')
    (hEncoder : s'.encoder = s.encoder) (hJobs : s'.jobs = s.jobs) (hBegun : begun o = [])
    (hFlushes : flushes o = [(d.job, [d.job])]) (hFreed : freed o = [d.job])
    (hMemory : (released o ++ s'.notified).Perm (taken o ++ s.notified)) : Sound (os ++ o) s' := by
  have hMatched := h.matched (hUnfinished.mem_iff.mpr List.mem_cons_self) hStored
  have hSplit : (d :: s'.ongoingJpegQ).Perm s.ongoingJpegQ := by
    rw [hQueue, ← List.singleton_append, ← hMatched]
    exact List.filter_append_perm _ _
  have hKept : ∀ d', d' ∈ s'.ongoingJpegQ ↔ d' ∈ s.ongoingJpegQ ∧ d'.jobId ≠ d.jobId := by
    intro d'
    rw [hQueue, mem_filter_matchJobId]
  have hIds := (hUnfinished.map JpegData.jobId).nodup_iff.mp h.ids
  rw [List.map_cons, List.nodup_cons] at hIds
  have hPositive := h.positive d (hUnfinished.mem_iff.mpr List.mem_cons_self)
  have hLeft : ∀ d' ∈ s'.unfinished, d' ∈ s.unfinished := fun d' hIn =>
    hUnfinished.mem_iff.mpr (List.mem_cons_of_mem d hIn)
  constructor
  · rw [freed_append, hFreed, hJobs, List.append_assoc]
    exact ((hSplit.map JpegData.job).append_left _).trans h.once
  · intro job hEncoding
    rw [hEncoder] at hEncoding
    obtain ⟨rest, hLast⟩ := List.getLast?_eq_some_iff.mp (h.encoding job hEncoding)
    rw [hQueue, hLast, List.filter_append]
    simp [matchJobId, Ne.symm hPositive]
  · intro job jobId hStarted
    rw [hEncoder] at hStarted
    obtain ⟨hIn, hAmong⟩ := h.current job jobId hStarted
    refine ⟨(hKept _).mpr ⟨hIn, Ne.symm hPositive⟩, ?_⟩
    refine (List.mem_cons.mp (hUnfinished.mem_iff.mp hAmong)).resolve_left ?_
    rintro rfl
    exact hStored hStarted
  · exact hIds.2
  · exact fun d' hIn => h.positive d' (hLeft d' hIn)
  · intro d' hIn
    rw [hEncoder]
    refine (h.entry d' (hLeft d' hIn)).imp_left fun hQueued => (hKept d').mpr ⟨hQueued, ?_⟩
    intro hSame
    exact hIds.1 (hSame ▸ List.mem_map_of_mem hIn)
  · intro d' hIn hNe
    obtain ⟨hQueued, hOther⟩ := (hKept d').mp hIn
    refine (List.mem_cons.mp (hUnfinished.mem_iff.mp (h.stored d' hQueued hNe))).resolve_left ?_
    rintro rfl
    exact hOther rfl
  · intro d' hIn
    rw [begun_append, hBegun, List.append_nil] at hIn
    rw [freed_append, hFreed, List.mem_append, List.mem_singleton]
    rcases h.ended d' hIn with hFreed | hAmong
    · exact .inl (.inl hFreed)
    · rcases List.mem_cons.mp (hUnfinished.mem_iff.mp hAmong) with rfl | hStill
      · exact .inl (.inr rfl)
      · exact .inr hStill
  · rw [flushes_append, hFlushes]
    intro f hIn
    rcases List.mem_append.mp hIn with hBefore | hNew
    · exact h.alone f hBefore
    · rw [List.mem_singleton.mp hNew]
  · rw [released_append, taken_append]
    exact perm_account h.memory hMemory

theorem freed_map (jobs : List Nat) : freed (jobs.map .freed) = jobs := by
  rw [freed, List.filterMap_map]
  exact List.filterMap_some

theorem events_freed (jobs : List Nat) : begun (jobs.map .freed) = [] ∧
    flushes (jobs.map .freed) = [] ∧ released (jobs.map .freed) = [] ∧
      taken (jobs.map .freed) = [] := by
  refine ⟨?_, ?_, ?_, ?_⟩ <;> exact List.filterMap_eq_nil_iff.mpr (by simp)

theorem flushJob_events (s : JpegPostProc) (evt : JpegEvt) :
    let removed := (s.ongoingJpegQ.filter (matchJobId evt.jobId)).map JpegData.job
    begun (s.flushJob evt).2 = [] ∧ flushes (s.flushJob evt).2 = [(evt.job, removed)] ∧
      freed (s.flushJob evt).2 = removed ∧ released (s.flushJob evt).2 = [] ∧
        taken (s.flushJob evt).2 = s.brought evt := by
  intro removed
  obtain ⟨hBegun, hFlushes, hReleased, hTaken⟩ := events_freed removed
  have hMems : Aside (if s.mJpegMemOpt then take evt.memHdl else []) ∧
      released (if s.mJpegMemOpt then take evt.memHdl else []) = [] ∧
        taken (if s.mJpegMemOpt then take evt.memHdl else []) = s.brought evt := by
    rw [brought]
    split
    · exact ⟨aside_take _, released_take _, taken_take _⟩
    · exact ⟨aside_nil, rfl, rfl⟩
  obtain ⟨hAside, hNone, hBrought⟩ := hMems
  have hEvents : (s.flushJob evt).2 = [.flushed evt.job removed] ++ removed.map .freed ++
      if s.mJpegMemOpt then take evt.memHdl else [] := rfl
  rw [hEvents]
  refine ⟨?_, ?_, ?_, ?_, ?_⟩
  · rw [begun_append, begun_append, hBegun, hAside.begun]
    rfl
  · rw [flushes_append, flushes_append, hFlushes, hAside.flushes]
    rfl
  · rw [freed_append, freed_append, freed_map, hAside.freed, List.append_nil]
    rfl
  · rw [released_append, released_append, hReleased, hNone]
    rfl
  · rw [taken_append, taken_append, hTaken, hBrought]
    rfl

/-- The handling of an event, of which `s₁` is the state before the flush. -/
theorem Sound.handled (h : Sound os s) (s₁ : JpegPostProc)
    (hSame : s₁ = { s with awaiting := s₁.awaiting, inputSaveQ := s₁.inputSaveQ })
    (hUnfinished : s.unfinished.Perm (⟨evt.job, evt.jobId⟩ :: s₁.unfinished))
    (hStored : s.encoder ≠ .started evt.job evt.jobId) (hKeeps : Keeps (s₁.flushJob evt).1 s')
    (hAside : Aside o)
    (hMemory : (released o ++ s'.notified).Perm (s₁.brought evt ++ taken o ++ s.notified)) :
    Sound (os ++ ((s₁.flushJob evt).2 ++ o)) s' := by
  have hMatched := h.matched (hUnfinished.mem_iff.mpr List.mem_cons_self) hStored
  have hQueue : s₁.ongoingJpegQ = s.ongoingJpegQ := by rw [hSame]
  obtain ⟨hBegun, hFlushes, hFreed, hReleased, hTaken⟩ := s₁.flushJob_events evt
  rw [hQueue, hMatched] at hFlushes hFreed
  apply h.flush (d := ⟨evt.job, evt.jobId⟩) _ hStored
  · rw [hKeeps]
    exact congrArg (List.filter _) hQueue
  · rw [hKeeps, hSame]
    rfl
  · rw [hKeeps, hSame]
    rfl
  · rw [begun_append, hBegun, hAside.begun]
    rfl
  · rw [flushes_append, hFlushes, hAside.flushes]
    rfl
  · rw [freed_append, hFreed, hAside.freed]
    rfl
  · rw [released_append, taken_append, hReleased, hTaken]
    exact hMemory
  · rw [hKeeps]
    exact hUnfinished

theorem Sound.reorder (h : Sound os s) (hUnfinished : s'.unfinished.Perm s.unfinished)
    (hQueue : s'.ongoingJpegQ = s.ongoingJpegQ) (hEncoder : s'.encoder = s.encoder)
    (hNotified : s'.notified = s.notified) (hJobs : s'.jobs = s.jobs) : Sound os s' where
  once := by
    rw [hQueue, hJobs]
    exact h.once
  encoding := by
    rw [hQueue, hEncoder]
    exact h.encoding
  current job jobId hStarted := by
    rw [hEncoder] at hStarted
    rw [hQueue, hUnfinished.mem_iff]
    exact h.current job jobId hStarted
  ids := (hUnfinished.map JpegData.jobId).nodup_iff.mpr h.ids
  positive d hIn := h.positive d (hUnfinished.mem_iff.mp hIn)
  entry d hIn := by
    rw [hQueue, hEncoder]
    exact h.entry d (hUnfinished.mem_iff.mp hIn)
  stored d hIn hNe := by
    rw [hQueue] at hIn
    exact hUnfinished.mem_iff.mpr (h.stored d hIn hNe)
  ended d hIn := (h.ended d hIn).imp_right hUnfinished.mem_iff.mpr
  alone := h.alone
  memory := by
    rw [hNotified]
    exact h.memory

theorem Sound.nextJob (h : Sound os s) (hIdle : s.encoder = .idle) :
    Sound (os ++ []) { s with
      ongoingJpegQ := s.ongoingJpegQ ++ [⟨s.jobs, 0⟩]
      encoder := .encoding s.jobs
      jobs := s.jobs + 1 } where
  once := by
    rw [List.append_nil, List.map_append, ← List.append_assoc, List.range_succ]
    exact h.once.append_right _
  encoding job hEncoding := by
    cases hEncoding
    exact List.getLast?_concat
  current job jobId hStarted := by cases hStarted
  ids := h.ids
  positive := h.positive
  entry d hIn := by
    refine .inl (List.mem_append_left _ ((h.entry d hIn).resolve_right ?_))
    rw [hIdle]
    exact JpegEncoder.noConfusion
  stored d hIn hNe := by
    refine h.stored d ((List.mem_append.mp hIn).resolve_right ?_) hNe
    rw [List.mem_singleton]
    rintro rfl
    exact hNe rfl
  ended := by
    rw [List.append_nil]
    exact h.ended
  alone := by
    rw [List.append_nil]
    exact h.alone
  memory := by
    rw [List.append_nil]
    exact h.memory

theorem Sound.startJob (h : Sound os s) {job jobId : Nat} (hEncoding : s.encoder = .encoding job)
    (hPositive : jobId ≠ 0) (hFresh : jobId ∉ s.unfinished.map JpegData.jobId) :
    Sound (os ++ [.started job jobId]) { s with
      encoder := .started job jobId
      awaiting := s.awaiting ++ [⟨job, jobId⟩] } := by
  have hUnfinished : (unfinished { s with
      encoder := .started job jobId
      awaiting := s.awaiting ++ [⟨job, jobId⟩] }).Perm (⟨job, jobId⟩ :: s.unfinished) := by
    rw [unfinished, List.append_assoc]
    exact List.perm_middle
  have hMem : ∀ d, d ∈ unfinished { s with
      encoder := .started job jobId
      awaiting := s.awaiting ++ [⟨job, jobId⟩] } ↔ d = ⟨job, jobId⟩ ∨ d ∈ s.unfinished :=
    fun d => hUnfinished.mem_iff.trans List.mem_cons
  have hFreed : freed (os ++ [.started job jobId]) = freed os :=
    freed_append.trans (List.append_nil _)
  constructor
  · rw [hFreed]
    exact h.once
  · intro job' hOther
    cases hOther
  · intro job' jobId' hStarted
    cases hStarted
    exact ⟨List.mem_of_getLast? (h.encoding job hEncoding), (hMem _).mpr (.inl rfl)⟩
  · refine (hUnfinished.map JpegData.jobId).nodup_iff.mpr ?_
    rw [List.map_cons, List.nodup_cons]
    exact ⟨hFresh, h.ids⟩
  · intro d hIn
    rcases (hMem d).mp hIn with rfl | hBefore
    · exact hPositive
    · exact h.positive d hBefore
  · intro d hIn
    rcases (hMem d).mp hIn with rfl | hBefore
    · exact .inr rfl
    · refine .inl ((h.entry d hBefore).resolve_right ?_)
      rw [hEncoding]
      exact JpegEncoder.noConfusion
  · exact fun d hIn hNe => (hMem d).mpr (.inr (h.stored d hIn hNe))
  · intro d hIn
    rw [begun_append] at hIn
    rw [hFreed, hMem]
    rcases List.mem_append.mp hIn with hBefore | hNew
    · exact (h.ended d hBefore).imp_right .inr
    · exact .inr (.inl (List.mem_singleton.mp hNew))
  · rw [flushes_append, show flushes [.started job jobId] = [] from rfl, List.append_nil]
    exact h.alone
  · rw [released_append, taken_append]
    exact perm_account h.memory (.refl _)

/-- The last entry is the job that failed. -/
theorem Sound.encodeFailed (h : Sound os s) {job : Nat} (hEncoding : s.encoder = .encoding job) :
    Sound (os ++ [.freed job, .errorNotified])
      { s with ongoingJpegQ := s.ongoingJpegQ.dropLast, encoder := .idle } := by
  obtain ⟨rest, hLast⟩ := List.getLast?_eq_some_iff.mp (h.encoding job hEncoding)
  have hFreed : freed (os ++ [.freed job, .errorNotified]) = freed os ++ [job] := freed_append
  have hDrop : s.ongoingJpegQ.dropLast = rest := by rw [hLast, List.dropLast_concat]
  rw [hDrop]
  constructor
  · have hOnce := h.once
    rw [hLast, List.map_append, ← List.append_assoc] at hOnce
    rw [hFreed, List.append_assoc]
    refine .trans ?_ hOnce
    rw [List.append_assoc]
    exact List.perm_append_comm.append_left _
  · intro job' hOther
    cases hOther
  · intro job' jobId hOther
    cases hOther
  · exact h.ids
  · exact h.positive
  · intro d hIn
    refine .inl ?_
    have hQueued : d ∈ s.ongoingJpegQ := by
      refine (h.entry d hIn).resolve_right ?_
      rw [hEncoding]
      exact JpegEncoder.noConfusion
    rw [hLast] at hQueued
    refine (List.mem_append.mp hQueued).resolve_right ?_
    rw [List.mem_singleton]
    rintro rfl
    exact h.positive _ hIn rfl
  · intro d hIn hNe
    refine h.stored d ?_ hNe
    rw [hLast]
    exact List.mem_append_left _ hIn
  · intro d hIn
    have hBegun : begun (os ++ [.freed job, .errorNotified]) = begun os :=
      begun_append.trans (List.append_nil _)
    rw [hBegun] at hIn
    rw [hFreed]
    exact (h.ended d hIn).imp_left (List.mem_append_left _)
  · rw [flushes_append, show flushes [.freed job, .errorNotified] = [] from rfl, List.append_nil]
    exact h.alone
  · rw [released_append, taken_append]
    exact perm_account h.memory (.refl _)

theorem Sound.storeJobId (h : Sound os s) {job jobId : Nat}
    (hStarted : s.encoder = .started job jobId) :
    Sound (os ++ []) { s with
      ongoingJpegQ := s.ongoingJpegQ.map fun d => if d.job = job then { d with jobId } else d
      encoder := .idle } := by
  obtain ⟨hIn, hUnfinished⟩ := h.current job jobId hStarted
  -- the only entry of the job is the one without an id
  have hOnly : ∀ d ∈ s.ongoingJpegQ, d.job = job → d = ⟨job, 0⟩ := fun d hAmong hSame =>
    List.inj_on_of_nodup_map h.nodup hAmong hIn hSame
  have hMem : ∀ d, d ∈ s.ongoingJpegQ.map (fun d => if d.job = job then { d with jobId } else d) ↔
      d = ⟨job, jobId⟩ ∨ d ∈ s.ongoingJpegQ ∧ d.job ≠ job := by
    intro d
    rw [List.mem_map]
    constructor
    · rintro ⟨d', hAmong, rfl⟩
      split
      · rename_i hSame
        exact .inl (by rw [hSame])
      · exact .inr ⟨hAmong, ‹_›⟩
    · rintro (rfl | ⟨hAmong, hOther⟩)
      · exact ⟨_, hIn, if_pos rfl⟩
      · exact ⟨d, hAmong, if_neg hOther⟩
  rw [List.append_nil]
  constructor
  · have hJobs : (s.ongoingJpegQ.map fun d => if d.job = job then { d with jobId } else d).map
        JpegData.job = s.ongoingJpegQ.map JpegData.job := by
      rw [List.map_map]
      refine List.map_congr_left fun d _ => ?_
      simp only [Function.comp_apply]
      split <;> rfl
    rw [hJobs]
    exact h.once
  · intro job' hOther
    cases hOther
  · intro job' jobId' hOther
    cases hOther
  · exact h.ids
  · exact h.positive
  · intro d hAmong
    refine .inl ((hMem d).mpr ?_)
    rcases h.entry d hAmong with hQueued | hThis
    · by_cases hSame : d.job = job
      · have hZero := hOnly d hQueued hSame
        rw [hZero] at hAmong
        exact absurd rfl (h.positive _ hAmong)
      · exact .inr ⟨hQueued, hSame⟩
    · cases hStarted.symm.trans hThis
      exact .inl rfl
  · intro d hAmong hNe
    rcases (hMem d).mp hAmong with rfl | ⟨hQueued, -⟩
    · exact hUnfinished
    · exact h.stored d hQueued hNe
  · exact h.ended
  · exact h.alone
  · exact h.memory

/-- A job that is not encoded stays in the queue. -/
theorem Sound.rawImage (h : Sound os s) {job : Nat} (hEncoding : s.encoder = .encoding job) :
    Sound (os ++ []) { s with encoder := .idle } := by
  rw [List.append_nil]
  constructor
  · exact h.once
  · intro job' hOther
    cases hOther
  · intro job' jobId hOther
    cases hOther
  · exact h.ids
  · exact h.positive
  · intro d hIn
    refine .inl ((h.entry d hIn).resolve_right ?_)
    rw [hEncoding]
    exact JpegEncoder.noConfusion
  · exact h.stored
  · exact h.ended
  · exact h.alone
  · exact h.memory

theorem Sound.deferred (h : Sound os s) (hAwaiting : ⟨evt.job, evt.jobId⟩ ∈ s.awaiting) :
    Sound (os ++ [.doNextJob]) { s with
      awaiting := s.awaiting.erase ⟨evt.job, evt.jobId⟩
      inputSaveQ := s.inputSaveQ ++ [evt] } := by
  have hUnfinished : (unfinished { s with
      awaiting := s.awaiting.erase ⟨evt.job, evt.jobId⟩
      inputSaveQ := s.inputSaveQ ++ [evt] }).Perm s.unfinished := by
    rw [unfinished, unfinished, List.map_append]
    refine .trans ?_ ((List.perm_cons_erase hAwaiting).symm.append_right _)
    refine .trans (List.perm_append_comm.append_left _) ?_
    exact List.perm_middle
  have hSound : Sound os { s with
      awaiting := s.awaiting.erase ⟨evt.job, evt.jobId⟩
      inputSaveQ := s.inputSaveQ ++ [evt] } := h.reorder hUnfinished rfl rfl rfl rfl
  exact hSound.aside rfl ⟨rfl, rfl, rfl⟩ (.refl _)

theorem Sound.jpegEvt (h : Sound os s) (hAwaiting : ⟨evt.job, evt.jobId⟩ ∈ s.awaiting)
    (hMeets : Meets s (.jpegEvt evt p r)) :
    let handled := ({ s with awaiting := s.awaiting.erase ⟨evt.job, evt.jobId⟩ } :
      JpegPostProc).processJpegEvt evt p r
    Sound (os ++ handled.2) handled.1 := by
  rw [Meets] at hMeets
  dsimp only
  rw [processJpegEvt]
  split at hMeets
  · rename_i hSave
    rw [if_pos hSave, if_pos hMeets]
    exact h.deferred hAwaiting
  · rename_i hSave
    obtain ⟨hStored, hSettles⟩ := hMeets
    rw [if_neg hSave]
    generalize hBefore : ({ s with awaiting := s.awaiting.erase ⟨evt.job, evt.jobId⟩ } :
      JpegPostProc) = s₁
    have hMemory := ((s₁.flushJob evt).1.deliverJpeg_balanced evt p r).mpr (by
      rw [← hBefore]
      exact ⟨hSettles.left, hSettles.madeUp, hSettles.twice⟩)
    obtain ⟨hKeeps, hAside⟩ := (s₁.flushJob evt).1.deliverJpeg_keeps evt p r
    have hMore : Aside (if 0 < p.inputPPSize then [.doNextJob] else []) ∧
        released (if 0 < p.inputPPSize then [.doNextJob] else []) = [] ∧
          taken (if 0 < p.inputPPSize then [.doNextJob] else []) = [] := by
      split
      · exact ⟨⟨rfl, rfl, rfl⟩, rfl, rfl⟩
      · exact ⟨aside_nil, rfl, rfl⟩
    obtain ⟨hAsideMore, hReleased, hTaken⟩ := hMore
    dsimp only
    rw [List.append_assoc, List.append_assoc]
    apply h.handled s₁ _ _ hStored hKeeps
    · exact hAsideMore.append (hAside.append ⟨rfl, rfl, rfl⟩)
    · rw [released_append, released_append, taken_append, taken_append, hReleased, hTaken,
        show released [.doNextJob] = [] from rfl, show taken [.doNextJob] = [] from rfl,
        List.nil_append, List.nil_append, List.append_nil, List.append_nil]
      rw [← hBefore] at hMemory ⊢
      exact hMemory
    · rw [← hBefore]
    · rw [← hBefore]
      exact (List.perm_cons_erase hAwaiting).append_right _

theorem Sound.saveNext (h : Sound os s) {inputSaveQ : List JpegEvt}
    (hQueue : s.inputSaveQ = evt :: inputSaveQ) (hMeets : Meets s (.saveNext r)) :
    let saved := ({ s with inputSaveQ } : JpegPostProc).saveJpeg evt r
    Sound (os ++ saved.2) saved.1 := by
  obtain ⟨hStored, hSettles⟩ := hMeets evt (by rw [hQueue]; rfl)
  obtain ⟨s', o, hSaved, hKeeps, hAside, hMemory⟩ :=
    saveJpeg_eq ({ s with inputSaveQ } : JpegPostProc) evt r
  dsimp only
  rw [hSaved]
  have hNone : brought ({ s with inputSaveQ } : JpegPostProc) evt = [] := by
    rw [brought]
    split
    · rename_i hOpt
      rw [hSettles.left hOpt]
      rfl
    · rfl
  apply h.handled { s with inputSaveQ } rfl _ hStored hKeeps hAside
  · rw [hNone]
    exact hMemory ⟨hSettles.left, hSettles.argm⟩
  · rw [unfinished, hQueue]
    exact List.perm_middle

theorem Sound.next (h : Sound os s) (hMeets : Meets s i) (hNext : Next s i o s') :
    Sound (os ++ o) s' := by
  cases i with
  | nextJob node =>
    cases hMeets
    rw [Next, step] at hNext
    split at hNext
    · cases hNext
      exact h.nextJob ‹_›
    · cases hNext
  | startJob jobId =>
    rw [Next, step] at hNext
    split at hNext
    · split at hNext
      · rename_i hFresh
        cases hNext
        exact h.startJob ‹_› hFresh.1 hFresh.2
      · cases hNext
    · cases hNext
  | encodeFailed =>
    rw [Next, step] at hNext
    split at hNext
    · cases hNext
      exact h.encodeFailed ‹_›
    · cases hNext
  | rawImage =>
    rw [Next, step] at hNext
    split at hNext
    · cases hNext
      exact h.rawImage ‹_›
    · cases hNext
  | storeJobId =>
    rw [Next, step] at hNext
    split at hNext
    · cases hNext
      exact h.storeJobId ‹_›
    · cases hNext
  | jpegEvt evt p r =>
    rw [Next, step] at hNext
    split at hNext
    · rename_i hAwaiting
      have hSound := h.jpegEvt hAwaiting hMeets
      rw [Option.some.inj hNext] at hSound
      exact hSound
    · cases hNext
  | saveNext r =>
    rw [Next, step] at hNext
    split at hNext
    · cases hNext
    · rename_i evt inputSaveQ hQueue
      have hSound := h.saveNext hQueue hMeets
      rw [Option.some.inj hNext] at hSound
      exact hSound
  | releaseCb mem =>
    rw [Next, step] at hNext
    split at hNext
    · rename_i hIn
      cases hNext
      refine h.aside rfl ⟨rfl, rfl, rfl⟩ ?_
      exact (List.perm_cons_erase hIn).symm
    · cases hNext

/-! ### Runs -/

/-- The runs whose steps all meet the condition. -/
abbrev MeetingRun (mUseSaveProc mJpegMemOpt isActive : Bool) (is : List JpegInput)
    (os : List JpegEvent) (s : JpegPostProc) : Prop :=
  Lib.Steps Next (fun _ _ s i _ => Meets s i) (start mUseSaveProc mJpegMemOpt isActive) is os s

theorem sound_of_run {mUseSaveProc mJpegMemOpt isActive : Bool} {is : List JpegInput}
    (run : MeetingRun mUseSaveProc mJpegMemOpt isActive is os s) : Sound os s := by
  apply run.history (I := fun _ os s => Sound os s) (sound_start _ _ _)
  intro is os s i o s' hMeets h hNext
  exact h.next hMeets hNext

/-- In every run whose steps meet the condition, handling the event of a job removes that job alone;
a job is in the queue or was freed, once, and when its event is handled it was freed; and a memory
is with a notification or was released, once. -/
theorem events_find_jobs {mUseSaveProc mJpegMemOpt isActive : Bool} {is : List JpegInput}
    (run : MeetingRun mUseSaveProc mJpegMemOpt isActive is os s) :
    (∀ f ∈ flushes os, f.2 = [f.1]) ∧
    (freed os ++ s.ongoingJpegQ.map JpegData.job).Nodup ∧
    (∀ d ∈ begun os, d.job ∈ freed os ∨ d ∈ s.unfinished) ∧
    (released os ++ s.notified).Perm (taken os) := by
  have h := sound_of_run run
  exact ⟨h.alone, h.once.nodup_iff.mpr List.nodup_range, h.ended, h.memory⟩

theorem MeetingRun.next {mUseSaveProc mJpegMemOpt isActive : Bool} {is : List JpegInput}
    {q : JpegPostProc × List JpegEvent}
    (run : MeetingRun mUseSaveProc mJpegMemOpt isActive is os s) (i : JpegInput)
    (hMeets : Meets s i) (h : s.step i = some q) :
    MeetingRun mUseSaveProc mJpegMemOpt isActive (is ++ [i]) (os ++ q.2) q.1 :=
  run.step hMeets h

/-- Somebody takes the picture. -/
def shown : JpegParent where
  isLongshotEnabled := false
  inputPPSize := 0
  mBIntEvtPending := false
  mDataCb := true
  compressedImageEnabled := true
  isUbiRefocus := false
  isMTFRefocus := false
  outputImageCount := 1
  ufOutputCount := 0
  mtfOutputCount := 0

def granted : JpegResults := ⟨true, some 8, true, true⟩

/-- One job and its event. -/
theorem events_find_jobs_one : ∃ (os : List JpegEvent) (s : JpegPostProc),
    begun os = [⟨0, 5⟩] ∧ flushes os = [(0, [0])] ∧ freed os = [0] ∧ taken os = [7] ∧
      (freed os ++ s.ongoingJpegQ.map JpegData.job).Nodup ∧
        (released os ++ s.notified).Perm (taken os) := by
  have run₀ : MeetingRun false true true [] [] (start false true true) := .start
  have run₁ := run₀.next (.nextJob true) rfl rfl
  have run₂ := run₁.next (.startJob 5) trivial rfl
  have run₃ := run₂.next .storeJobId trivial rfl
  have run₄ := run₃.next (.jpegEvt ⟨0, 5, .done, some 7⟩ shown granted)
    ⟨by decide, ⟨fun hNot => absurd ⟨rfl, rfl, rfl, rfl⟩ hNot, fun _ hRefocus => absurd hRefocus
      (by decide), fun _ _ _ => .inl rfl⟩⟩ rfl
  have run₅ := run₄.next (.releaseCb 7) trivial rfl
  obtain ⟨-, hNodup, -, hMemory⟩ := events_find_jobs run₅
  exact ⟨_, _, rfl, rfl, rfl, rfl, hNodup, hMemory⟩

abbrev AnyRun (mJpegMemOpt : Bool) (is : List JpegInput) (os : List JpegEvent) (s : JpegPostProc) :
    Prop :=
  Lib.Steps Next Lib.anyStep (start false mJpegMemOpt true) is os s

theorem AnyRun.next {mJpegMemOpt : Bool} {is : List JpegInput} {q : JpegPostProc × List JpegEvent}
    (run : AnyRun mJpegMemOpt is os s) (i : JpegInput) (h : s.step i = some q) :
    AnyRun mJpegMemOpt (is ++ [i]) (os ++ q.2) q.1 :=
  run.step trivial h

/-- The event of a job comes before its id is stored, and the job stays in the queue. A notification
is not accepted, and the picture is released twice; nobody takes the picture, and it is never
released; a part of a refocus set comes without an output buffer of the HAL, and a memory that is
made up from the picture is released. -/
theorem event_misses_job :
    (∃ (is : List JpegInput) (os : List JpegEvent) (s : JpegPostProc), AnyRun true is os s ∧
      begun os = [⟨0, 5⟩] ∧ s.unfinished = [] ∧ flushes os = [(0, [])] ∧
        s.ongoingJpegQ = [⟨0, 5⟩]) ∧
    (∃ (is : List JpegInput) (os : List JpegEvent) (s : JpegPostProc), AnyRun true is os s ∧
      taken os = [7] ∧ released os = [7, 7]) ∧
    (∃ (is : List JpegInput) (os : List JpegEvent) (s : JpegPostProc), AnyRun true is os s ∧
      taken os = [7] ∧ released os = [] ∧ s.notified = []) ∧
    ∃ (is : List JpegInput) (os : List JpegEvent) (s : JpegPostProc), AnyRun false is os s ∧
      taken os = [] ∧ released os = [9] := by
  have started : ∀ mJpegMemOpt, ∃ is os s, AnyRun mJpegMemOpt is os s ∧
      os = [.started 0 5] ∧ s = { start false mJpegMemOpt true with
        ongoingJpegQ := [⟨0, 0⟩]
        encoder := .started 0 5
        awaiting := [⟨0, 5⟩]
        jobs := 1 } := by
    intro mJpegMemOpt
    have run₀ : AnyRun mJpegMemOpt [] [] (start false mJpegMemOpt true) := .start
    have run₁ := run₀.next (.nextJob true) rfl
    have run₂ := run₁.next (.startJob 5) rfl
    exact ⟨_, _, _, run₂, rfl, rfl⟩
  obtain ⟨isOpt, _, _, runOpt, rfl, rfl⟩ := started true
  obtain ⟨is, _, _, run, rfl, rfl⟩ := started false
  have storedOpt := runOpt.next .storeJobId rfl
  have stored := run.next .storeJobId rfl
  refine ⟨?_, ?_, ?_, ?_⟩
  · have run₁ := runOpt.next (.jpegEvt ⟨0, 5, .done, some 7⟩ shown granted) rfl
    have run₂ := run₁.next .storeJobId rfl
    exact ⟨_, _, _, run₂, rfl, rfl, rfl, rfl⟩
  · have run₁ := storedOpt.next (.jpegEvt ⟨0, 5, .done, some 7⟩ shown
      { granted with notifyCallback := false }) rfl
    exact ⟨_, _, _, run₁, rfl, rfl⟩
  · have run₁ := storedOpt.next (.jpegEvt ⟨0, 5, .done, some 7⟩ { shown with mDataCb := false }
      granted) rfl
    exact ⟨_, _, _, run₁, rfl, rfl, rfl⟩
  · have run₁ := stored.next (.jpegEvt ⟨0, 5, .done, some 9⟩
      { shown with isUbiRefocus := true, ufOutputCount := 2 } granted) rfl
    exact ⟨_, _, _, run₁, rfl, rfl⟩

end KiwiDevice.Hal.JpegPostProc

import KiwiDevice.Jpeg.JobManager

/-!
# The job manager does not sleep on runnable work

An encode session without a free OMX session has a job in `ongoing_job_q`, whose end posts the
semaphore. Two ways of losing a job break this: aborting one that is running, and taking an OMX
session for one that finds no output buffer.
-/

namespace KiwiDevice.Jpeg

theorem keyOf_sessionIdOf {k : Nat} (h : k < 2 ^ 16) : keyOf (sessionIdOf k) = k := by
  rw [keyOf, sessionIdOf, Nat.or_mod_two_pow, Nat.mod_eq_of_lt h]
  exact Nat.zero_or k

theorem keyOf_jobIdOf {k : Nat} (h : k < 2 ^ 16) (jobHist : Nat) :
    keyOf (jobIdOf (sessionIdOf k) jobHist) = k := by
  have hKey := keyOf_sessionIdOf h
  rw [keyOf] at hKey
  rw [keyOf, jobIdOf, Nat.or_mod_two_pow, hKey, Nat.shiftLeft_eq, Nat.mul_mod_left, Nat.or_zero]

theorem sessionIdOf_inj {k k' : Nat} (h : k < 2 ^ 16) (h' : k' < 2 ^ 16)
    (hSame : sessionIdOf k = sessionIdOf k') : k = k' := by
  rw [← keyOf_sessionIdOf h, hSame, keyOf_sessionIdOf h']

namespace JpegJobs

/-- What the links between sessions, queues and jobs depend on. -/
def links (session : JobSession) : Bool × Nat × Bool × EncodeJobInfo :=
  (session.active, session.queues, session.started, session.encodeJob)

/-- A session is linked into the encode session `k`. -/
structure InChain (w : JpegJobs) (s k : Nat) : Prop where
  active : (w.sessions s).active = true
  queues : (w.sessions s).queues = k

/-- Sessions, chains and jobs refer to each other as they should, and an encode session whose OMX
sessions are all taken has a job in `ongoing_job_q`. -/
structure Linked (w : JpegJobs) : Prop where
  key_lt : ∀ k e, w.chains k = some e → k < 2 ^ 16
  head_mem : ∀ k e, w.chains k = some e → k ∈ e.omxSessions
  inChain : ∀ k e, w.chains k = some e → ∀ s ∈ e.omxSessions, w.InChain s k
  handles : ∀ k e, w.chains k = some e → ∀ s ∈ e.sessionHandleQ, s ∈ e.omxSessions
  queued : ∀ job ∈ w.jobQueue, (∃ e, w.chains (keyOf job.jobId) = some e) ∧
    job.sessionId = sessionIdOf (keyOf job.jobId)
  ongoing : ∀ o ∈ w.ongoingJobQ, keyOf o.job.jobId < 2 ^ 16 ∧
    o.job.sessionId = sessionIdOf (keyOf o.job.jobId)
  started : ∀ s, (w.sessions s).active = true → (w.sessions s).started = true →
    keyOf (w.sessions s).encodeJob.jobId = (w.sessions s).queues ∧
      ∃ e, w.chains (w.sessions s).queues = some e ∧ s ∈ e.omxSessions
  busy : ∀ k e, w.chains k = some e → e.sessionHandleQ = [] →
    ∃ o ∈ w.ongoingJobQ, keyOf o.job.jobId = k

variable {w w' : JpegJobs} {s k : Nat}

theorem Linked.congr (h : Linked w) (hSessions : ∀ s, links (w'.sessions s) = links (w.sessions s))
    (hChains : w'.chains = w.chains) (hQueue : ∀ job ∈ w'.jobQueue, job ∈ w.jobQueue)
    (hOngoing : w'.ongoingJobQ = w.ongoingJobQ) : Linked w' := by
  have hActive : ∀ s, (w'.sessions s).active = (w.sessions s).active :=
    fun s => congrArg (fun l => l.1) (hSessions s)
  have hQueues : ∀ s, (w'.sessions s).queues = (w.sessions s).queues :=
    fun s => congrArg (fun l => l.2.1) (hSessions s)
  have hStarted : ∀ s, (w'.sessions s).started = (w.sessions s).started :=
    fun s => congrArg (fun l => l.2.2.1) (hSessions s)
  have hJob : ∀ s, (w'.sessions s).encodeJob = (w.sessions s).encodeJob :=
    fun s => congrArg (fun l => l.2.2.2) (hSessions s)
  constructor
  · rw [hChains]
    exact h.key_lt
  · rw [hChains]
    exact h.head_mem
  · intro k e hChain s hs
    rw [hChains] at hChain
    obtain ⟨hIn, hOwn⟩ := h.inChain k e hChain s hs
    exact ⟨(hActive s).trans hIn, (hQueues s).trans hOwn⟩
  · rw [hChains]
    exact h.handles
  · intro job hMem
    rw [hChains]
    exact h.queued job (hQueue job hMem)
  · rw [hOngoing]
    exact h.ongoing
  · intro s hs hStart
    rw [hActive] at hs
    rw [hStarted] at hStart
    rw [hJob, hQueues, hChains]
    exact h.started s hs hStart
  · rw [hChains, hOngoing]
    exact h.busy

theorem links_setSession {session : JobSession} (h : links session = links (w.sessions s))
    (s' : Nat) : links ((w.setSession s session).sessions s') = links (w.sessions s') := by
  rcases eq_or_ne s' s with rfl | hNe
  · rw [setSession_self, h]
  · rw [setSession_of_ne _ hNe]

theorem sessionAbort_same (l : List Nat) : ∀ w : JpegJobs,
    (∀ s, links ((w.sessionAbort l).sessions s) = links (w.sessions s)) ∧
      (w.sessionAbort l).chains = w.chains := by
  induction l with
  | nil =>
    intro w
    exact ⟨fun _ => rfl, rfl⟩
  | cons s rest ih =>
    intro w
    rw [sessionAbort]
    split
    · exact ⟨fun _ => rfl, rfl⟩
    · obtain ⟨hSessions, hChains⟩ :=
        ih (w.setSession s { w.sessions s with abortState := .done })
      refine ⟨fun s' => (hSessions s').trans ?_, hChains⟩
      refine links_setSession ?_ s'
      rfl

theorem sessionAbort_phase (l : List Nat) : ∀ w : JpegJobs, (w.sessionAbort l).phase = w.phase := by
  induction l with
  | nil =>
    intro w
    rfl
  | cons s rest ih =>
    intro w
    rw [sessionAbort]
    split
    · rfl
    · rw [ih]
      rfl

theorem Linked.setSession (h : Linked w) {session : JobSession}
    (hSession : links session = links (w.sessions s)) : Linked (w.setSession s session) :=
  h.congr (links_setSession hSession) rfl (fun _ hJob => hJob) rfl

theorem Linked.report (h : Linked w) (s : Nat) : Linked (w.report s) := by
  rw [JpegJobs.report]
  split
  · exact h.congr (fun _ => rfl) rfl (fun _ hJob => hJob) rfl
  · exact h

@[simp] theorem report_sessions (w : JpegJobs) (s : Nat) :
    (w.report s).sessions = w.sessions := by
  rw [report]
  split <;> rfl

@[simp] theorem report_phase (w : JpegJobs) (s : Nat) : (w.report s).phase = w.phase := by
  rw [report]
  split <;> rfl

/-- `mm_jpegenc_job_done` for a session of a live chain. -/
theorem jobDone_eq {e : EncodeSession} (hChain : w.chains (w.sessions s).queues = some e) :
    w.jobDone s = { (w.setSession s { w.sessions s with encoding := false }).setChain
        (w.sessions s).queues { e with
          sessionHandleQ := e.sessionHandleQ ++ [s]
          outBufQ := if (w.sessions s).autoOutBuf = true then
              e.outBufQ ++ [((w.sessions s).encodeJob.dstIndex + 1).toNat]
            else e.outBufQ } with
      ongoingJobQ := w.ongoingJobQ.eraseP
        fun o => o.job.jobId = (w.sessions s).encodeJob.jobId
      jobSem := w.jobSem + 1 } := by
  simp only [jobDone, hChain]
  rfl

theorem inChain_setChain {e e' : EncodeSession} (hChain : w.chains k = some e)
    (hOmx : e'.omxSessions = e.omxSessions) {k' : Nat} {e'' : EncodeSession}
    (h : (w.setChain k e').chains k' = some e'') :
    ∃ e₀, w.chains k' = some e₀ ∧ e₀.omxSessions = e''.omxSessions := by
  rcases eq_or_ne k' k with rfl | hNe
  · rw [setChain_self] at h
    cases h
    exact ⟨e, hChain, hOmx.symm⟩
  · rw [setChain_of_ne _ hNe] at h
    exact ⟨e'', h, rfl⟩

/-- Jobs may leave `ongoing_job_q` for a chain that has a free OMX session. -/
theorem Linked.setChain (h : Linked w) {e e' : EncodeSession} (hChain : w.chains k = some e)
    (hOmx : e'.omxSessions = e.omxSessions)
    (hHandles : ∀ s ∈ e'.sessionHandleQ, s ∈ e.omxSessions) {ongoing : List OngoingJob}
    (hSub : ∀ o ∈ ongoing, o ∈ w.ongoingJobQ ∨
      keyOf o.job.jobId = k ∧ o.job.sessionId = sessionIdOf k)
    (hKept : ∀ o ∈ w.ongoingJobQ, keyOf o.job.jobId ≠ k → o ∈ ongoing)
    (hBusy : e'.sessionHandleQ = [] → ∃ o ∈ ongoing, keyOf o.job.jobId = k) :
    Linked { w.setChain k e' with ongoingJobQ := ongoing } := by
  constructor
  · intro k' e'' hSome
    obtain ⟨e₀, hOld, _⟩ := inChain_setChain hChain hOmx hSome
    exact h.key_lt k' e₀ hOld
  · intro k' e'' hSome
    obtain ⟨e₀, hOld, hSame⟩ := inChain_setChain hChain hOmx hSome
    exact hSame ▸ h.head_mem k' e₀ hOld
  · intro k' e'' hSome s hs
    obtain ⟨e₀, hOld, hSame⟩ := inChain_setChain hChain hOmx hSome
    obtain ⟨hActive, hQueues⟩ := h.inChain k' e₀ hOld s (hSame ▸ hs)
    exact ⟨hActive, hQueues⟩
  · intro k' e'' hSome s hs
    change (w.setChain k e').chains k' = some e'' at hSome
    rcases eq_or_ne k' k with rfl | hNe
    · rw [setChain_self] at hSome
      cases hSome
      exact hOmx ▸ hHandles s hs
    · rw [setChain_of_ne _ hNe] at hSome
      exact h.handles k' e'' hSome s hs
  · intro job hMem
    obtain ⟨⟨e₀, hOld⟩, hId⟩ := h.queued job hMem
    refine ⟨?_, hId⟩
    show ∃ e, (w.setChain k e').chains _ = some e
    rcases eq_or_ne (keyOf job.jobId) k with hKey | hNe
    · rw [hKey, setChain_self]
      exact ⟨e', rfl⟩
    · rw [setChain_of_ne _ hNe]
      exact ⟨e₀, hOld⟩
  · intro o hMem
    rcases hSub o hMem with hOld | ⟨hKey, hId⟩
    · exact h.ongoing o hOld
    · rw [hKey]
      exact ⟨h.key_lt k e hChain, hId⟩
  · intro s hs hStart
    obtain ⟨hKey, e₀, hOld, hMem⟩ := h.started s hs hStart
    refine ⟨hKey, ?_⟩
    show ∃ e, (w.setChain k e').chains (w.sessions s).queues = some e ∧ _
    rcases eq_or_ne (w.sessions s).queues k with hSame | hNe
    · rw [hSame] at hOld ⊢
      cases hChain.symm.trans hOld
      rw [setChain_self]
      exact ⟨e', rfl, hOmx ▸ hMem⟩
    · rw [setChain_of_ne _ hNe]
      exact ⟨e₀, hOld, hMem⟩
  · intro k' e'' hSome hNone
    change (w.setChain k e').chains k' = some e'' at hSome
    rcases eq_or_ne k' k with rfl | hNe
    · rw [setChain_self] at hSome
      cases hSome
      exact hBusy hNone
    · rw [setChain_of_ne _ hNe] at hSome
      obtain ⟨o, hMem, hKey⟩ := h.busy k' e'' hSome hNone
      exact ⟨o, hKept o hMem (hKey ▸ hNe), hKey⟩

/-- What a finished job takes out of `ongoing_job_q` belongs to the chain that gets its OMX session
back. -/
theorem Linked.jobDone (h : Linked w) (hActive : (w.sessions s).active = true)
    (hStarted : (w.sessions s).started = true) : Linked (w.jobDone s) := by
  obtain ⟨hKey, e, hChain, hMem⟩ := h.started s hActive hStarted
  have hSame : Linked (w.setSession s { w.sessions s with encoding := false }) :=
    h.setSession rfl
  have hOmx : ({ e with
      sessionHandleQ := e.sessionHandleQ ++ [s]
      outBufQ := if (w.sessions s).autoOutBuf = true then
          e.outBufQ ++ [((w.sessions s).encodeJob.dstIndex + 1).toNat]
        else e.outBufQ } : EncodeSession).omxSessions = e.omxSessions := rfl
  rw [jobDone_eq hChain]
  refine (hSame.setChain hChain hOmx ?_ ?_ ?_ ?_).congr (fun _ => rfl) rfl
    (fun _ hJob => hJob) rfl
  · intro s' hs'
    rcases List.mem_append.mp hs' with hs' | hs'
    · exact h.handles _ e hChain s' hs'
    · cases List.mem_singleton.mp hs'
      exact hMem
  · intro o ho
    exact .inl (List.mem_of_mem_eraseP ho)
  · intro o ho hOther
    rw [List.mem_eraseP_of_neg]
    · exact ho
    · intro hId
      exact hOther ((congrArg keyOf (of_decide_eq_true hId)).trans hKey)
  · intro hNone
    simp at hNone

theorem Linked.takeJob (h : Linked w) {e : EncodeSession} (hChain : w.chains k = some e)
    (hMem : s ∈ e.omxSessions) {session : JobSession} (hActive : session.active = true)
    (hQueues : session.queues = k) (hKey : keyOf session.encodeJob.jobId = k) :
    Linked (w.setSession s session) := by
  refine ⟨h.key_lt, h.head_mem, ?_, h.handles, h.queued, h.ongoing, ?_, h.busy⟩
  · intro k' e' hSome s' hs'
    obtain ⟨hOldActive, hOldQueues⟩ := h.inChain k' e' hSome s' hs'
    rcases eq_or_ne s' s with rfl | hNe
    · refine ⟨?_, ?_⟩
      · rw [setSession_self, hActive]
      · rw [setSession_self, hQueues, ← hOldQueues, (h.inChain k e hChain s' hMem).queues]
    · exact ⟨by rw [setSession_of_ne _ hNe, hOldActive], by rw [setSession_of_ne _ hNe, hOldQueues]⟩
  · intro s' hs' hStart
    rcases eq_or_ne s' s with rfl | hNe
    · rw [setSession_self, hQueues, hKey]
      exact ⟨rfl, e, hChain, hMem⟩
    · rw [setSession_of_ne _ hNe] at hs' hStart ⊢
      exact h.started s' hs' hStart

theorem Linked.beginEncode (h : Linked w) {e e' : EncodeSession} (hChain : w.chains k = some e)
    (hOmx : e'.omxSessions = e.omxSessions)
    (hHandles : ∀ s' ∈ e'.sessionHandleQ, s' ∈ e.omxSessions) (hMem : s ∈ e.omxSessions)
    {job : EncodeJobInfo} (hKey : keyOf job.jobId = k) (hId : job.sessionId = sessionIdOf k)
    (asked : Bool) : Linked (w.beginEncode k e' job s asked) := by
  obtain ⟨hActive, hQueues⟩ := h.inChain k e hChain s hMem
  have hOngoing : Linked { w.setChain k e' with
      ongoingJobQ := w.ongoingJobQ ++ [⟨job, s, asked⟩] } := by
    refine h.setChain hChain hOmx hHandles ?_ ?_ ?_
    · intro o ho
      rcases List.mem_append.mp ho with ho | ho
      · exact .inl ho
      · cases List.mem_singleton.mp ho
        exact .inr ⟨hKey, hId⟩
    · intro o ho _
      exact List.mem_append_left _ ho
    · intro _
      refine ⟨⟨job, s, asked⟩, List.mem_append_right _ List.mem_cons_self, hKey⟩
  have hTaken : Linked (JpegJobs.setSession { w.setChain k e' with
      ongoingJobQ := w.ongoingJobQ ++ [⟨job, s, asked⟩] } s { w.sessions s with
        encoding := false, abortState := .none, autoOutBuf := asked, encodeJob := job
        started := true }) := by
    refine hOngoing.takeJob (setChain_self w k e') ?_ ?_ ?_ ?_
    · rw [hOmx]
      exact hMem
    · exact hActive
    · exact hQueues
    · exact hKey
  exact hTaken.congr (fun _ => rfl) rfl (fun _ hJob => hJob) rfl

/-- What `mm_jpeg_create_session` does: `k` heads a new chain of sessions that were inactive. -/
structure Created (w w' : JpegJobs) (k : Nat) (chain : EncodeSession) : Prop where
  head_mem : k ∈ chain.omxSessions
  nodup : chain.omxSessions.Nodup
  handles_eq : chain.sessionHandleQ = chain.omxSessions
  free : ∀ s ∈ chain.omxSessions, s < 2 ^ 16 ∧ (w.sessions s).active = false
  chains_eq : w'.chains = Function.update w.chains k (some chain)
  mine : ∀ s ∈ chain.omxSessions, w'.sessions s = (w.sessions s).create k
  other : ∀ s, s ∉ chain.omxSessions → w'.sessions s = w.sessions s
  rest_eq : w' = { w with sessions := w'.sessions, chains := w'.chains }

theorem created_of_createSession {omxSessions : List Nat} {jpegCb : Bool}
    {numSrcBufs numDstBufs jobHist : Nat}
    (hCreate : w.createSession omxSessions jpegCb numSrcBufs numDstBufs jobHist = some w') :
    ∃ k, Created w w' k (.new omxSessions jpegCb numSrcBufs numDstBufs jobHist) := by
  rw [JpegJobs.createSession.eq_def] at hCreate
  split at hCreate
  · cases hCreate
  · rename_i k rest
    split at hCreate
    · rename_i hNew
      cases hCreate
      refine ⟨k, List.mem_cons_self, hNew.1, rfl, hNew.2, rfl, ?_, ?_, rfl⟩
      · intro s hs
        exact if_pos hs
      · intro s hs
        exact if_neg hs
    · cases hCreate

theorem Created.apart {chain e : EncodeSession} {k' : Nat} (c : Created w w' k chain) (h : Linked w)
    (hChain : w.chains k' = some e) {s : Nat} (hs : s ∈ e.omxSessions) :
    s ∉ chain.omxSessions := by
  intro hIn
  have hActive := (h.inChain k' e hChain s hs).active
  rw [(c.free s hIn).2] at hActive
  cases hActive

theorem Created.ne {chain e : EncodeSession} {k' : Nat} (c : Created w w' k chain) (h : Linked w)
    (hChain : w.chains k' = some e) : k' ≠ k := by
  rintro rfl
  exact c.apart h hChain (h.head_mem k' e hChain) c.head_mem

theorem Created.chain_cases {chain e : EncodeSession} {k' : Nat} (c : Created w w' k chain)
    (hSome : w'.chains k' = some e) : k' = k ∧ e = chain ∨ w.chains k' = some e := by
  rw [c.chains_eq] at hSome
  rcases eq_or_ne k' k with rfl | hNe
  · rw [Function.update_self] at hSome
    cases hSome
    exact .inl ⟨rfl, rfl⟩
  · rw [Function.update_of_ne hNe] at hSome
    exact .inr hSome

theorem Created.chain_old {chain e : EncodeSession} {k' : Nat} (c : Created w w' k chain)
    (h : Linked w) (hChain : w.chains k' = some e) : w'.chains k' = some e := by
  rw [c.chains_eq, Function.update_of_ne (c.ne h hChain), hChain]

theorem Created.linked {chain : EncodeSession} (c : Created w w' k chain) (h : Linked w) :
    Linked w' := by
  have hQueue : w'.jobQueue = w.jobQueue := by rw [c.rest_eq]
  have hOngoing : w'.ongoingJobQ = w.ongoingJobQ := by rw [c.rest_eq]
  constructor
  · intro k' e hSome
    rcases c.chain_cases hSome with ⟨rfl, rfl⟩ | hOld
    · exact (c.free k' c.head_mem).1
    · exact h.key_lt k' e hOld
  · intro k' e hSome
    rcases c.chain_cases hSome with ⟨rfl, rfl⟩ | hOld
    · exact c.head_mem
    · exact h.head_mem k' e hOld
  · intro k' e hSome s hs
    rcases c.chain_cases hSome with ⟨rfl, rfl⟩ | hOld
    · exact ⟨by rw [c.mine s hs]; rfl, by rw [c.mine s hs]; rfl⟩
    · obtain ⟨hActive, hQueues⟩ := h.inChain k' e hOld s hs
      have hSame := c.other s (c.apart h hOld hs)
      exact ⟨by rw [hSame, hActive], by rw [hSame, hQueues]⟩
  · intro k' e hSome s hs
    rcases c.chain_cases hSome with ⟨rfl, rfl⟩ | hOld
    · rwa [c.handles_eq] at hs
    · exact h.handles k' e hOld s hs
  · intro job hMem
    rw [hQueue] at hMem
    obtain ⟨⟨e, hOld⟩, hId⟩ := h.queued job hMem
    exact ⟨⟨e, c.chain_old h hOld⟩, hId⟩
  · rw [hOngoing]
    exact h.ongoing
  · intro s hs hStart
    rcases Decidable.em (s ∈ chain.omxSessions) with hIn | hOut
    · rw [c.mine s hIn] at hStart
      cases hStart
    · rw [c.other s hOut] at hs hStart ⊢
      obtain ⟨hKey, e, hOld, hMem⟩ := h.started s hs hStart
      exact ⟨hKey, e, c.chain_old h hOld, hMem⟩
  · intro k' e hSome hEmpty
    rw [hOngoing]
    rcases c.chain_cases hSome with ⟨rfl, rfl⟩ | hOld
    · rw [c.handles_eq] at hEmpty
      exact absurd hEmpty (List.ne_nil_of_mem c.head_mem)
    · exact h.busy k' e hOld hEmpty

/-- What `mm_jpeg_destroy_session` does: the chain and all its jobs are gone. -/
structure Destroyed (w w' : JpegJobs) (k : Nat) (chain : EncodeSession) : Prop where
  chain_eq : w.chains k = some chain
  chains_eq : w'.chains = Function.update w.chains k none
  mine : ∀ s ∈ chain.omxSessions, (w'.sessions s).active = false
  other : ∀ s, s ∉ chain.omxSessions → links (w'.sessions s) = links (w.sessions s)
  jobQueue_eq : w'.jobQueue = w.jobQueue.filter fun job => job.sessionId ≠ sessionIdOf k
  ongoing_eq : w'.ongoingJobQ = w.ongoingJobQ.filter fun o => o.job.sessionId ≠ sessionIdOf k
  phase_eq : w'.phase = w.phase
  sem_pos : 0 < w'.jobSem

theorem destroyed_of_destroySession (hDestroy : w.destroySession k = some w') :
    ∃ chain, Destroyed w w' k chain := by
  obtain ⟨chain, hChain, rfl⟩ := Option.map_eq_some_iff.mp hDestroy
  refine ⟨chain, hChain, rfl, ?_, ?_, rfl, rfl, sessionAbort_phase _ w, Nat.succ_pos _⟩
  · intro s hs
    simp only [if_pos hs]
  · intro s hs
    simp only [if_neg hs]
    exact (sessionAbort_same chain.omxSessions w).1 s

theorem Destroyed.chain_cases {chain e : EncodeSession} {k' : Nat} (d : Destroyed w w' k chain)
    (hSome : w'.chains k' = some e) : k' ≠ k ∧ w.chains k' = some e := by
  rw [d.chains_eq] at hSome
  rcases eq_or_ne k' k with rfl | hNe
  · rw [Function.update_self] at hSome
    cases hSome
  · rw [Function.update_of_ne hNe] at hSome
    exact ⟨hNe, hSome⟩

theorem Destroyed.chain_old {chain e : EncodeSession} {k' : Nat} (d : Destroyed w w' k chain)
    (hNe : k' ≠ k) (hChain : w.chains k' = some e) : w'.chains k' = some e := by
  rw [d.chains_eq, Function.update_of_ne hNe, hChain]

theorem Destroyed.linked {chain : EncodeSession} (d : Destroyed w w' k chain) (h : Linked w) :
    Linked w' := by
  have hApart : ∀ k' e, w.chains k' = some e → k' ≠ k → ∀ s ∈ e.omxSessions,
      s ∉ chain.omxSessions := by
    intro k' e hSome hNe s hs hIn
    have hOwn := (h.inChain k chain d.chain_eq s hIn).queues
    rw [(h.inChain k' e hSome s hs).queues] at hOwn
    exact hNe hOwn
  constructor
  · intro k' e hSome
    exact h.key_lt k' e (d.chain_cases hSome).2
  · intro k' e hSome
    exact h.head_mem k' e (d.chain_cases hSome).2
  · intro k' e hSome s hs
    obtain ⟨hNe, hOld⟩ := d.chain_cases hSome
    have hSame := d.other s (hApart k' e hOld hNe s hs)
    obtain ⟨hActive, hQueues⟩ := h.inChain k' e hOld s hs
    exact ⟨(congrArg (fun l => l.1) hSame).trans hActive,
      (congrArg (fun l => l.2.1) hSame).trans hQueues⟩
  · intro k' e hSome
    exact h.handles k' e (d.chain_cases hSome).2
  · intro job hMem
    rw [d.jobQueue_eq] at hMem
    obtain ⟨hIn, hLeft⟩ := List.mem_filter.mp hMem
    obtain ⟨⟨e, hOld⟩, hId⟩ := h.queued job hIn
    have hNe : keyOf job.jobId ≠ k := by
      intro hSame
      rw [hSame] at hId
      simp [hId] at hLeft
    exact ⟨⟨e, d.chain_old hNe hOld⟩, hId⟩
  · intro o hMem
    rw [d.ongoing_eq] at hMem
    exact h.ongoing o (List.mem_filter.mp hMem).1
  · intro s hs hStart
    rcases Decidable.em (s ∈ chain.omxSessions) with hIn | hOut
    · rw [d.mine s hIn] at hs
      cases hs
    · have hSame := d.other s hOut
      have hActive : (w'.sessions s).active = (w.sessions s).active :=
        congrArg (fun l => l.1) hSame
      have hQueues : (w'.sessions s).queues = (w.sessions s).queues :=
        congrArg (fun l => l.2.1) hSame
      have hStarted : (w'.sessions s).started = (w.sessions s).started :=
        congrArg (fun l => l.2.2.1) hSame
      have hJob : (w'.sessions s).encodeJob = (w.sessions s).encodeJob :=
        congrArg (fun l => l.2.2.2) hSame
      rw [hActive] at hs
      rw [hStarted] at hStart
      rw [hJob, hQueues]
      obtain ⟨hKey, e, hOld, hMem⟩ := h.started s hs hStart
      refine ⟨hKey, e, d.chain_old ?_ hOld, hMem⟩
      intro hOwn
      rw [hOwn, d.chain_eq] at hOld
      cases hOld
      exact hOut hMem
  · intro k' e hSome hEmpty
    obtain ⟨hNe, hOld⟩ := d.chain_cases hSome
    obtain ⟨o, hMem, hKey⟩ := h.busy k' e hOld hEmpty
    rw [d.ongoing_eq]
    refine ⟨o, List.mem_filter.mpr ⟨hMem, ?_⟩, hKey⟩
    have hId := (h.ongoing o hMem).2
    have hLt := h.key_lt k' e hOld
    rw [hId, hKey, decide_eq_true_eq]
    exact fun hSame => hNe (sessionIdOf_inj hLt (h.key_lt k chain d.chain_eq) hSame)

/-- The job next in turn, if it asks for an output buffer and has an OMX session, finds one. -/
def FindsBuffer (w : JpegJobs) : Prop :=
  ∀ job ∈ w.jobQueue.head?, ∀ e ∈ w.chains (keyOf job.jobId), e.sessionHandleQ ≠ [] →
    job.dstIndex < 0 → e.outBufQ ≠ []

/-- The job is not running: it waits in `job_queue`, or there is none of that id. -/
def NotRunning (w : JpegJobs) (jobId : Nat) : Prop :=
  (∃ job ∈ w.jobQueue, job.jobId = jobId) ∨ ∀ o ∈ w.ongoingJobQ, o.job.jobId ≠ jobId

instance (w : JpegJobs) : Decidable w.FindsBuffer :=
  inferInstanceAs (Decidable (∀ job ∈ w.jobQueue.head?, ∀ e ∈ w.chains (keyOf job.jobId),
    e.sessionHandleQ ≠ [] → job.dstIndex < 0 → e.outBufQ ≠ []))

instance (w : JpegJobs) (jobId : Nat) : Decidable (w.NotRunning jobId) :=
  inferInstanceAs (Decidable ((∃ job ∈ w.jobQueue, job.jobId = jobId) ∨
    ∀ o ∈ w.ongoingJobQ, o.job.jobId ≠ jobId))

/-- The conditions on a step. A job that is aborted waits in `job_queue` (or is nowhere), a job
that asks for an output buffer finds one, and an error comes from an OMX session that was given a
job. -/
def KeepsWaking (w : JpegJobs) : Input → Prop
  | .abortJob jobId => w.NotRunning jobId
  | .process => w.FindsBuffer
  | .eventHandler s _ => (w.sessions s).encoding = true → (w.sessions s).started = true
  | _ => True

instance (w : JpegJobs) : (i : Input) → Decidable (w.KeepsWaking i)
  | .abortJob jobId => inferInstanceAs (Decidable (w.NotRunning jobId))
  | .process => inferInstanceAs (Decidable w.FindsBuffer)
  | .eventHandler s _ => inferInstanceAs (Decidable
      ((w.sessions s).encoding = true → (w.sessions s).started = true))
  | .createSession .. | .startJob .. | .destroySession _ | .semWait | .checkOngoing
  | .encodingStarts | .encodeReturns _ | .fbd _ => .isTrue trivial

/-- The session an encode call is about. -/
def MgrPhase.session : MgrPhase → Option Nat
  | .configuring s | .submitting s => some s
  | _ => none

/-- The invariant of all runs that meet the conditions. -/
structure Wakes (w : JpegJobs) : Prop where
  linked : Linked w
  inPhase : ∀ s, MgrPhase.session w.phase = some s →
    (w.sessions s).active = true ∧ (w.sessions s).started = true
  awake : w.phase ≠ .woken → w.phase ≠ .ready → w.jobQueue ≠ [] →
    0 < w.jobSem ∨ w.ongoingJobQ ≠ []

theorem wakes_start : Wakes start where
  linked := by
    constructor
    · intro _ _ h
      cases h
    · intro _ _ h
      cases h
    · intro _ _ h
      cases h
    · intro _ _ h
      cases h
    · intro _ h
      cases h
    · intro _ h
      cases h
    · intro _ h
      cases h
    · intro _ _ h
      cases h
  inPhase _ h := by cases h
  awake _ _ h := absurd rfl h

theorem jobDone_jobSem (w : JpegJobs) (s : Nat) : 0 < (w.jobDone s).jobSem := by
  simp only [jobDone]
  split <;> exact Nat.succ_pos _

theorem jobDone_phase (w : JpegJobs) (s : Nat) : (w.jobDone s).phase = w.phase := by
  simp only [jobDone]
  split <;> rfl

theorem jobDone_sessions (w : JpegJobs) (s : Nat) : (w.jobDone s).sessions
    = (w.setSession s { w.sessions s with encoding := false }).sessions := by
  simp only [jobDone]
  split <;> rfl

theorem jobDone_links (w : JpegJobs) (s s' : Nat) :
    links ((w.jobDone s).sessions s') = links (w.sessions s') := by
  rw [jobDone_sessions]
  refine links_setSession ?_ s'
  rfl

theorem Wakes.jobDone (h : Wakes w) (hActive : (w.sessions s).active = true)
    (hStarted : (w.sessions s).started = true) : Wakes ((w.report s).jobDone s) := by
  have hLinks : ∀ s', links (((w.report s).jobDone s).sessions s') = links (w.sessions s') := by
    intro s'
    rw [jobDone_links, report_sessions]
  refine ⟨?_, ?_, fun _ _ _ => .inl (jobDone_jobSem _ s)⟩
  · refine (h.linked.report s).jobDone ?_ ?_
    · rw [report_sessions, hActive]
    · rw [report_sessions, hStarted]
  · intro s' hs'
    rw [jobDone_phase, report_phase] at hs'
    obtain ⟨hIn, hStart⟩ := h.inPhase s' hs'
    exact ⟨(congrArg (fun l => l.1) (hLinks s')).trans hIn,
      (congrArg (fun l => l.2.2.1) (hLinks s')).trans hStart⟩

theorem Wakes.sleep (h : Linked w) (hAwake : w.jobQueue ≠ [] → 0 < w.jobSem ∨ w.ongoingJobQ ≠ []) :
    Wakes { w with phase := .blocked } where
  linked := h.congr (fun _ => rfl) rfl (fun _ hJob => hJob) rfl
  inPhase _ hs := by cases hs
  awake _ _ := hAwake

theorem Wakes.processEncodingJob (h : Linked w) {job : EncodeJobInfo} {rest : List EncodeJobInfo}
    (hQueue : w.jobQueue = job :: rest)
    (hBuffer : ∀ e, w.chains (keyOf job.jobId) = some e → e.sessionHandleQ ≠ [] →
      job.dstIndex < 0 → e.outBufQ ≠ []) :
    Wakes (JpegJobs.processEncodingJob { w with jobQueue := rest } job) := by
  have hMem : job ∈ w.jobQueue := by
    rw [hQueue]
    exact List.mem_cons_self
  have hRest : Linked { w with jobQueue := rest } := by
    refine h.congr (fun _ => rfl) rfl ?_ rfl
    intro job' hJob
    rw [hQueue]
    exact List.mem_cons_of_mem _ hJob
  obtain ⟨⟨e, hChain⟩, hId⟩ := h.queued job hMem
  have hHandles := h.handles _ e hChain
  rw [JpegJobs.processEncodingJob]
  simp only [hChain]
  split
  · -- all OMX sessions are taken, so one of them runs a job
    rename_i hTaken
    obtain ⟨o, hOngoing, _⟩ := h.busy _ e hChain hTaken
    have hBack : Linked { w with jobQueue := job :: rest } :=
      h.congr (fun _ => rfl) rfl (fun _ hJob => hQueue ▸ hJob) rfl
    exact Wakes.sleep hBack fun _ => .inr (List.ne_nil_of_mem hOngoing)
  · rename_i s free hFree
    have hIn : s ∈ e.omxSessions := hHandles s (hFree ▸ List.mem_cons_self)
    have hLeft : ∀ s' ∈ free, s' ∈ e.omxSessions :=
      fun s' hs' => hHandles s' (hFree ▸ List.mem_cons_of_mem s hs')
    have hStarts : ∀ (e' : EncodeSession) (job' : EncodeJobInfo) (asked : Bool),
        e'.omxSessions = e.omxSessions → e'.sessionHandleQ = free →
        job'.jobId = job.jobId → job'.sessionId = job.sessionId →
        Wakes (JpegJobs.beginEncode { w with jobQueue := rest } (keyOf job.jobId) e' job' s
          asked) := by
      intro e' job' asked hOmx hFree' hSame hSameId
      refine ⟨?_, ?_, fun _ _ _ => .inr ?_⟩
      · refine hRest.beginEncode hChain hOmx ?_ hIn ?_ ?_ asked
        · rw [hFree']
          exact hLeft
        · rw [hSame]
        · rw [hSameId, hId]
      · intro s' hs'
        cases hs'
        refine ⟨?_, ?_⟩
        · show ((JpegJobs.setSession _ s _).sessions s).active = true
          rw [setSession_self]
          exact (h.inChain _ e hChain s hIn).active
        · show ((JpegJobs.setSession _ s _).sessions s).started = true
          rw [setSession_self]
      · exact List.ne_nil_of_mem (List.mem_append_right _ List.mem_cons_self)
    split
    · rename_i hAsks
      split
      · rename_i hEmpty
        exact absurd hEmpty (hBuffer e hChain (by simp [hFree]) hAsks)
      · exact hStarts _ _ true rfl rfl rfl rfl
    · exact hStarts _ _ false rfl rfl rfl rfl

theorem Wakes.startJob (h : Wakes w) {k : Nat} {srcIndex dstIndex : Int} {buffersOk : Bool} :
    Wakes (w.startJob k srcIndex dstIndex buffersOk) := by
  rw [JpegJobs.startJob]
  split
  · exact h
  · rename_i e hChain
    split
    · have hLt := h.linked.key_lt k e hChain
      have hOmx : ({ e with jobHist := e.jobHist + 1 } : EncodeSession).omxSessions
          = e.omxSessions := rfl
      have hCounted : Linked { w.setChain k { e with jobHist := e.jobHist + 1 } with
          ongoingJobQ := w.ongoingJobQ } :=
        h.linked.setChain hChain hOmx (h.linked.handles k e hChain) (fun _ ho => .inl ho)
          (fun _ ho _ => ho) (h.linked.busy k e hChain)
      refine ⟨⟨hCounted.key_lt, hCounted.head_mem, ?_, hCounted.handles, ?_, hCounted.ongoing,
        hCounted.started, hCounted.busy⟩, h.inPhase, fun _ _ _ => .inl (Nat.succ_pos _)⟩
      · intro k' e' hSome s hs
        obtain ⟨hActive, hQueues⟩ := hCounted.inChain k' e' hSome s hs
        exact ⟨hActive, hQueues⟩
      · intro job hJob
        rcases List.mem_append.mp hJob with hOld | hNew
        · exact hCounted.queued job hOld
        · cases List.mem_singleton.mp hNew
          rw [keyOf_jobIdOf hLt]
          exact ⟨⟨_, setChain_self w k _⟩, rfl⟩
    · exact h

theorem Wakes.abortJob (h : Wakes w) {jobId : Nat} (hKeeps : w.KeepsWaking (.abortJob jobId)) :
    Wakes (w.abortJob jobId) := by
  rw [JpegJobs.abortJob]
  split
  · refine ⟨h.linked.congr (fun _ => rfl) rfl ?_ rfl, h.inPhase, ?_⟩
    · intro job hJob
      exact List.mem_of_mem_eraseP hJob
    · intro hWoken hReady hSome
      refine h.awake hWoken hReady ?_
      intro hNone
      rw [hNone] at hSome
      exact hSome rfl
  · rename_i hNotQueued
    split
    · rename_i o hOngoing
      exfalso
      have hFound := List.find?_some hOngoing
      rcases hKeeps with ⟨job, hJob, hId⟩ | hNot
      · have hOut := List.find?_eq_none.mp hNotQueued job hJob
        exact hOut (decide_eq_true hId)
      · exact hNot o (List.mem_of_find?_eq_some hOngoing) (of_decide_eq_true hFound)
    · exact h

theorem Wakes.createSession (h : Wakes w) {omxSessions : List Nat} {jpegCb : Bool}
    {numSrcBufs numDstBufs jobHist : Nat}
    (hCreate : w.createSession omxSessions jpegCb numSrcBufs numDstBufs jobHist = some w') :
    Wakes w' := by
  obtain ⟨k, c⟩ := created_of_createSession hCreate
  refine ⟨c.linked h.linked, ?_, ?_⟩
  · intro s hs
    have hPhase : w'.phase = w.phase := by rw [c.rest_eq]
    rw [hPhase] at hs
    obtain ⟨hActive, hStarted⟩ := h.inPhase s hs
    have hOut : s ∉ (EncodeSession.new omxSessions jpegCb numSrcBufs numDstBufs
        jobHist).omxSessions := by
      intro hIn
      rw [(c.free s hIn).2] at hActive
      cases hActive
    rw [c.other s hOut]
    exact ⟨hActive, hStarted⟩
  · rw [c.rest_eq]
    exact h.awake

theorem Wakes.destroySession (h : Wakes w) (hFree : w.lockFree = true)
    (hDestroy : w.destroySession k = some w') : Wakes w' := by
  obtain ⟨chain, d⟩ := destroyed_of_destroySession hDestroy
  refine ⟨d.linked h.linked, ?_, fun _ _ _ => .inl d.sem_pos⟩
  intro s hs
  have hPhase := d.phase_eq
  rw [hPhase] at hs
  cases hNow : w.phase <;> rw [hNow] at hs <;> simp [MgrPhase.session] at hs <;>
    simp [lockFree, hNow] at hFree

theorem Wakes.changeSession (h : Wakes w) {session : JobSession}
    (hSession : links session = links (w.sessions s)) : Wakes (w.setSession s session) := by
  refine ⟨h.linked.setSession hSession, ?_, h.awake⟩
  intro s' hs'
  obtain ⟨hActive, hStarted⟩ := h.inPhase s' hs'
  have hSame := links_setSession hSession s'
  exact ⟨(congrArg (fun l => l.1) hSame).trans hActive,
    (congrArg (fun l => l.2.2.1) hSame).trans hStarted⟩

theorem Wakes.fbd (h : Wakes w) (hActive : (w.sessions s).active = true)
    (hStarted : (w.sessions s).started = true) : Wakes (w.fbd s) := by
  rw [JpegJobs.fbd]
  split
  · exact h.changeSession rfl
  · split
    · exact h.jobDone hActive hStarted
    · exact h

theorem Wakes.eventHandler (h : Wakes w) {isError : Bool} (hActive : (w.sessions s).active = true)
    (hKeeps : (w.sessions s).encoding = true → (w.sessions s).started = true) :
    Wakes (w.eventHandler s isError) := by
  rw [JpegJobs.eventHandler]
  split
  · exact h.changeSession rfl
  · split
    · rename_i hError
      exact h.jobDone hActive (hKeeps hError.2)
    · exact h

/-- The job of an encode call that returns is in `ongoing_job_q`, or its end has posted the
semaphore, unless it is finished here. -/
theorem Wakes.encodeReturns (h : Wakes w) {ok : Bool}
    (hStep : w.step (.encodeReturns ok) = some w') : Wakes w' := by
  have hFinish : ∀ s, MgrPhase.session w.phase = some s →
      Wakes { (w.report s).jobDone s with phase := .blocked } := by
    intro s hs
    obtain ⟨hActive, hStarted⟩ := h.inPhase s hs
    exact Wakes.sleep (h.jobDone hActive hStarted).linked fun _ => .inl (jobDone_jobSem _ s)
  rw [step] at hStep
  split at hStep
  · rename_i s hPhase
    split at hStep
    · cases hStep
    · cases hStep
      exact hFinish s (by rw [hPhase]; rfl)
  · rename_i s hPhase
    cases hStep
    cases ok with
    | false => exact hFinish s (by rw [hPhase]; rfl)
    | true =>
      refine Wakes.sleep h.linked ?_
      exact h.awake (by rw [hPhase]; simp) (by rw [hPhase]; simp)
  · cases hStep

theorem Wakes.next (h : Wakes w) {i : Input} {o : List Unit} (hKeeps : w.KeepsWaking i)
    (hNext : Next w i o w') : Wakes w' := by
  cases i with
  | createSession omxSessions jpegCb numSrcBufs numDstBufs jobHist => exact h.createSession hNext
  | startJob k srcIndex dstIndex buffersOk =>
    cases hNext
    exact h.startJob
  | abortJob jobId =>
    rw [Next, step] at hNext
    split at hNext
    · cases hNext
      exact h.abortJob hKeeps
    · cases hNext
  | destroySession k =>
    rw [Next, step] at hNext
    split at hNext
    · rename_i hFree
      exact h.destroySession hFree hNext
    · cases hNext
  | semWait =>
    rw [Next, step] at hNext
    split at hNext
    · cases hNext
      refine ⟨h.linked.congr (fun _ => rfl) rfl (fun _ hJob => hJob) rfl, ?_, ?_⟩
      · intro s hs
        cases hs
      · intro hWoken
        exact absurd rfl hWoken
    · cases hNext
  | checkOngoing =>
    rw [Next, step] at hNext
    split at hNext
    · cases hNext
      split
      · -- at the limit there are ongoing jobs
        rename_i hLimit
        refine Wakes.sleep h.linked fun _ => .inr ?_
        intro hNone
        rw [hNone] at hLimit
        exact absurd hLimit (by decide)
      · refine ⟨h.linked.congr (fun _ => rfl) rfl (fun _ hJob => hJob) rfl, ?_, ?_⟩
        · intro s hs
          cases hs
        · intro _ hReady
          exact absurd rfl hReady
    · cases hNext
  | process =>
    rw [Next, step] at hNext
    split at hNext
    · split at hNext
      · rename_i hNone
        cases hNext
        exact Wakes.sleep h.linked fun hSome => absurd hNone hSome
      · rename_i job rest hQueue
        cases hNext
        exact Wakes.processEncodingJob h.linked hQueue fun e => hKeeps job (by rw [hQueue]; rfl) e
    · cases hNext
  | encodingStarts =>
    rw [Next, step] at hNext
    split at hNext
    · rename_i s hPhase
      cases hNext
      have hInPhase := h.inPhase s (by rw [hPhase]; rfl)
      have hChanged : Wakes (w.setSession s { w.sessions s with encoding := true }) :=
        h.changeSession rfl
      refine ⟨hChanged.linked.congr (fun _ => rfl) rfl (fun _ hJob => hJob) rfl, ?_, ?_⟩
      · intro s' hs'
        refine hChanged.inPhase s' ?_
        show MgrPhase.session w.phase = some s'
        rw [hPhase]
        exact hs'
      · intro _ _
        exact h.awake (by rw [hPhase]; simp) (by rw [hPhase]; simp)
    · cases hNext
  | encodeReturns ok => exact h.encodeReturns hNext
  | fbd s =>
    rw [Next, step] at hNext
    split at hNext
    · rename_i hLive
      cases hNext
      exact h.fbd hLive.1 hLive.2
    · cases hNext
  | eventHandler s isError =>
    rw [Next, step] at hNext
    split at hNext
    · rename_i hLive
      cases hNext
      exact h.eventHandler hLive hKeeps
    · cases hNext

/-- In a run whose steps meet the conditions, a job manager that sleeps without a token while jobs
wait has a job in `ongoing_job_q`. -/
theorem ongoing_of_run {is : List Input} {os : List Unit}
    (run : Lib.Steps Next (fun _ _ w i _ => w.KeepsWaking i) start is os w)
    (hBlocked : w.phase = .blocked) (hSem : w.jobSem = 0) (hWaiting : w.jobQueue ≠ []) :
    w.ongoingJobQ ≠ [] := by
  have h : Wakes w := by
    refine run.invariant wakes_start ?_
    intro _ _ _ _ _ _ hKeeps h hNext
    exact h.next hKeeps hNext
  have hAwake := h.awake (by rw [hBlocked]; simp) (by rw [hBlocked]; simp) hWaiting
  rw [hSem] at hAwake
  exact hAwake.resolve_left (Nat.lt_irrefl 0)

/-- One OMX session; the second job finds it taken. -/
def secondWaits : List Input :=
  [.createSession [0] true 1 1 0, .startJob 0 0 0 true, .startJob 0 0 0 true, .semWait,
    .checkOngoing, .process, .encodingStarts, .encodeReturns true, .semWait, .checkOngoing,
    .process]

def execJobs (_ : List Input) (_ : List Unit) (w : JpegJobs) (i : Input) :
    Option (JpegJobs × List Unit) :=
  (w.step i).map fun w' => (w', [])

theorem next_of_execJobs {is : List Input} {os o : List Unit} {i : Input}
    (h : execJobs is os w i = some (w', o)) : Next w i o w' := by
  obtain ⟨_, hStep, hEq⟩ := Option.map_eq_some_iff.mp h
  cases hEq
  exact hStep

theorem ongoing_of_run_secondWaits : ∃ w, Lib.Steps Next (fun _ _ w i _ => w.KeepsWaking i) start
    secondWaits [] w ∧ w.ongoingJobQ ≠ [] := by
  have run : Lib.Steps Next (fun _ _ w i _ => w.KeepsWaking i) start secondWaits _ _ :=
    Lib.Steps.of_exec Next (fun _ _ w i _ => w.KeepsWaking i)
      (f := fun is os w i => if w.KeepsWaking i then execJobs is os w i else none)
      (fun i _ is os w w' o h => by
        split at h
        · rename_i hKeeps
          exact ⟨next_of_execJobs h, hKeeps⟩
        · cases h) rfl
  exact ⟨_, run, ongoing_of_run run rfl rfl (by decide)⟩

/-- The running job is aborted: the second stays in `job_queue` and nothing runs. -/
theorem aborted_sleeps : ∃ w, Lib.Steps Next Lib.anyStep start
    (secondWaits ++ [.abortJob (jobIdOf (sessionIdOf 0) 0)]) [] w ∧ w.phase = .blocked ∧
    w.jobSem = 0 ∧ w.jobQueue.length = 1 ∧ w.ongoingJobQ = [] := by
  have run : Lib.Steps Next Lib.anyStep start
      (secondWaits ++ [.abortJob (jobIdOf (sessionIdOf 0) 0)]) _ _ :=
    Lib.Steps.of_exec Next Lib.anyStep (f := execJobs)
      (fun _ _ _ _ _ _ _ h => ⟨next_of_execJobs h, trivial⟩) rfl
  exact ⟨_, run, rfl, rfl, rfl, rfl⟩

end JpegJobs

end KiwiDevice.Jpeg

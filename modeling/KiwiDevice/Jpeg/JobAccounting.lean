import KiwiDevice.Jpeg.JobWakeup
import KiwiDevice.Lib.Lists
import Mathlib.Data.List.Basic

/-!
# Where OMX sessions, output buffers and jobs are

An encoding session runs exactly one job, so its end, whichever path it takes, gives back the
session, the buffer and the job once. A second end for one job, and an abort of a running one,
break this.
-/

namespace KiwiDevice.Jpeg

/-- A running job that was given the output buffer `i` of the encode session `k`. -/
def OngoingJob.uses (o : OngoingJob) (k i : Nat) : Bool :=
  o.asked && decide (keyOf o.job.jobId = k) && decide (o.job.dstIndex = i)

namespace JpegJobs

/-- In how many places the job of serial number `n` is. -/
def places (w : JpegJobs) (n : Nat) : Nat :=
  w.jobQueue.countP (fun job => job.serial = n)
    + w.ongoingJobQ.countP (fun o => o.job.serial = n) + w.reported.count n + w.aborted.count n

/-- Each OMX session, output buffer and accepted job is in one place, and no running job has had
its OMX session aborted or given to another job. -/
structure Accounted (w : JpegJobs) : Prop where
  sessions : ∀ k e, w.chains k = some e → ∀ s ∈ e.omxSessions,
    e.sessionHandleQ.count s + w.ongoingJobQ.countP (fun o => o.runsOn = s) = 1
  buffers : ∀ k e, w.chains k = some e → ∀ i < e.numDstBufs,
    e.outBufQ.count (i + 1) + w.ongoingJobQ.countP (fun o => o.uses k i) = 1
  jobs : ∀ n < w.nextSerial, w.places n = 1
  running : ∀ o ∈ w.ongoingJobQ, (w.sessions o.runsOn).encodeJob = o.job ∧
    (w.sessions o.runsOn).abortState = .none

def jobIds (w : JpegJobs) : List Nat :=
  w.jobQueue.map EncodeJobInfo.jobId ++ w.ongoingJobQ.map fun o => o.job.jobId

/-- The OMX session of a running job belongs to the job's chain and carries the job. -/
structure Carries (w : JpegJobs) (o : OngoingJob) : Prop where
  chain : ∃ e, w.chains (keyOf o.job.jobId) = some e ∧ o.runsOn ∈ e.omxSessions
  encodeJob : (w.sessions o.runsOn).encodeJob = o.job
  asked : (w.sessions o.runsOn).autoOutBuf = o.asked
  notAborted : (w.sessions o.runsOn).abortState = .none
  started : (w.sessions o.runsOn).started = true

structure Balanced (w : JpegJobs) : Prop where
  sessions : ∀ k e, w.chains k = some e → ∀ s ∈ e.omxSessions,
    e.sessionHandleQ.count s + w.ongoingJobQ.countP (fun o => o.runsOn = s) = 1
  buffers : ∀ k e, w.chains k = some e → ∀ i < e.numDstBufs,
    e.outBufQ.count (i + 1) + w.ongoingJobQ.countP (fun o => o.uses k i) = 1
  places : ∀ n, w.places n = if n < w.nextSerial then 1 else 0
  carries : ∀ o ∈ w.ongoingJobQ, w.Carries o
  encoding : ∀ s, (w.sessions s).encoding = true → ∃ o ∈ w.ongoingJobQ, o.runsOn = s
  ids : w.jobIds.Nodup

variable {w w' : JpegJobs} {s k : Nat}

theorem Balanced.accounted (h : Balanced w) : w.Accounted where
  sessions := h.sessions
  buffers := h.buffers
  jobs n hn := by rw [h.places, if_pos hn]
  running o ho := ⟨(h.carries o ho).encodeJob, (h.carries o ho).notAborted⟩

theorem Balanced.congr (h : Balanced w) (hSessions : w'.sessions = w.sessions)
    (hChains : w'.chains = w.chains) (hQueue : w'.jobQueue = w.jobQueue)
    (hOngoing : w'.ongoingJobQ = w.ongoingJobQ) (hReported : w'.reported = w.reported)
    (hAborted : w'.aborted = w.aborted) (hSerial : w'.nextSerial = w.nextSerial) :
    Balanced w' := by
  obtain ⟨sessions, chains, jobQueue, ongoingJobQ, sem, phase, nextSerial, reported, aborted⟩ := w'
  cases hSessions
  cases hChains
  cases hQueue
  cases hOngoing
  cases hReported
  cases hAborted
  cases hSerial
  exact ⟨h.sessions, h.buffers, h.places, fun o ho => ⟨(h.carries o ho).chain,
    (h.carries o ho).encodeJob, (h.carries o ho).asked, (h.carries o ho).notAborted,
    (h.carries o ho).started⟩, h.encoding, h.ids⟩

/-- What `mm_jpegenc_job_done` does at the end of the job `o`. -/
structure Finished (w w' : JpegJobs) (o : OngoingJob) (e : EncodeSession) : Prop where
  chain_eq : w.chains (keyOf o.job.jobId) = some e
  runs : o.runsOn ∈ e.omxSessions
  chains_eq : w'.chains = Function.update w.chains (keyOf o.job.jobId) (some { e with
    sessionHandleQ := e.sessionHandleQ ++ [o.runsOn]
    outBufQ :=
      if o.asked = true then e.outBufQ ++ [(o.job.dstIndex + 1).toNat] else e.outBufQ })
  sessions_eq : w'.sessions = Function.update w.sessions o.runsOn
    { w.sessions o.runsOn with encoding := false }
  ongoing_eq : ∃ front back, w.ongoingJobQ = front ++ o :: back ∧ w'.ongoingJobQ = front ++ back
  jobQueue_eq : w'.jobQueue = w.jobQueue
  reported_eq : w'.reported = w.reported ++ [o.job.serial]
  aborted_eq : w'.aborted = w.aborted
  nextSerial_eq : w'.nextSerial = w.nextSerial

theorem Finished.keeps {o o' : OngoingJob} {e : EncodeSession} (f : Finished w w' o e)
    (ho' : o' ∈ w.ongoingJobQ) (hNe : o'.runsOn ≠ o.runsOn) : o' ∈ w'.ongoingJobQ := by
  obtain ⟨front, back, hSplit, hLeft⟩ := f.ongoing_eq
  rw [hSplit] at ho'
  rw [hLeft]
  rcases List.mem_append.mp ho' with hFront | hRest
  · exact List.mem_append_left _ hFront
  · rcases List.mem_cons.mp hRest with rfl | hBack
    · exact absurd rfl hNe
    · exact List.mem_append_right _ hBack

theorem Balanced.ongoing_nodup (h : Balanced w) :
    (w.ongoingJobQ.map fun o => o.job.jobId).Nodup :=
  h.ids.sublist (List.sublist_append_right _ _)

theorem finished_of_jobDone (h : Balanced w) (hl : Linked w) {o : OngoingJob}
    (ho : o ∈ w.ongoingJobQ) (hCb : w.hasCb o.runsOn = true) :
    ∃ e, Finished w ((w.report o.runsOn).jobDone o.runsOn) o e := by
  obtain ⟨⟨e, hChain, hMem⟩, hJob, hAsked, _, _⟩ := h.carries o ho
  have hQueues := (hl.inChain _ e hChain o.runsOn hMem).queues
  have hReport : w.report o.runsOn
      = { w with reported := w.reported ++ [(w.sessions o.runsOn).encodeJob.serial] } := by
    rw [report, if_pos hCb]
  obtain ⟨front, back, hSplit, hErase⟩ := Lib.exists_eraseP_of_nodup h.ongoing_nodup ho
  rw [hReport, jobDone_eq (by rw [hQueues]; exact hChain)]
  refine ⟨e, hChain, hMem, ?_, rfl, ⟨front, back, hSplit, ?_⟩, rfl, ?_, rfl, rfl⟩
  · simp only [setChain, setSession, hQueues, hJob, hAsked]
  · simp only [hJob]
    exact hErase
  · simp only [hJob, setChain, setSession]

theorem Finished.balanced {o : OngoingJob} {e : EncodeSession} (f : Finished w w' o e)
    (h : Balanced w) (hl : Linked w) : Balanced w' := by
  obtain ⟨front, back, hSplit, hLeft⟩ := f.ongoing_eq
  have hOld : ∀ o' ∈ w'.ongoingJobQ, o' ∈ w.ongoingJobQ := by
    intro o' ho'
    rw [hSplit]
    rw [hLeft] at ho'
    exact Lib.mem_append_skip [o] ho'
  have hCount : ∀ p : OngoingJob → Bool, w.ongoingJobQ.countP p
      = w'.ongoingJobQ.countP p + if p o = true then 1 else 0 := by
    intro p
    rw [hSplit, hLeft, List.countP_append, List.countP_cons, List.countP_append]
    omega
  have hKept : ∀ s', links (w'.sessions s') = links (w.sessions s') ∧
      (w'.sessions s').autoOutBuf = (w.sessions s').autoOutBuf ∧
      (w'.sessions s').abortState = (w.sessions s').abortState := by
    intro s'
    rw [f.sessions_eq]
    rcases eq_or_ne s' o.runsOn with rfl | hNe
    · rw [Function.update_self]
      exact ⟨rfl, rfl, rfl⟩
    · rw [Function.update_of_ne hNe]
      exact ⟨rfl, rfl, rfl⟩
  constructor
  · intro k e' hSome s hs
    rw [f.chains_eq] at hSome
    have hGone := hCount fun o' => o'.runsOn = s
    rcases eq_or_ne k (keyOf o.job.jobId) with rfl | hNe
    · rw [Function.update_self] at hSome
      cases hSome
      have hBefore := h.sessions _ e f.chain_eq s hs
      rw [List.count_append, List.count_singleton]
      simp only [decide_eq_true_eq, beq_iff_eq] at hGone ⊢
      omega
    · rw [Function.update_of_ne hNe] at hSome
      have hBefore := h.sessions k e' hSome s hs
      have hOther : o.runsOn ≠ s := by
        rintro rfl
        have hOwn := (hl.inChain _ e f.chain_eq _ f.runs).queues
        rw [(hl.inChain k e' hSome _ hs).queues] at hOwn
        exact hNe hOwn
      rw [if_neg (by simpa using hOther)] at hGone
      omega
  · intro k e' hSome i hi
    rw [f.chains_eq] at hSome
    have hGone := hCount fun o' => o'.uses k i
    rcases eq_or_ne k (keyOf o.job.jobId) with rfl | hNe
    · rw [Function.update_self] at hSome
      cases hSome
      have hBefore := h.buffers _ e f.chain_eq i hi
      cases hAsked : o.asked with
      | false =>
        simp [OngoingJob.uses, hAsked] at hGone hBefore ⊢
        omega
      | true =>
        have hIndex : (o.job.dstIndex + 1).toNat = i + 1 ↔ o.job.dstIndex = i := by omega
        simp [OngoingJob.uses, hAsked, List.count_singleton, hIndex] at hGone hBefore ⊢
        omega
    · rw [Function.update_of_ne hNe] at hSome
      have hBefore := h.buffers k e' hSome i hi
      rw [if_neg (by simp [OngoingJob.uses, hNe.symm])] at hGone
      omega
  · intro n
    have hBefore := h.places n
    have hGone := hCount fun o' => o'.job.serial = n
    rw [JpegJobs.places] at hBefore ⊢
    rw [f.jobQueue_eq, f.reported_eq, f.aborted_eq, f.nextSerial_eq, List.count_append,
      List.count_singleton]
    simp only [decide_eq_true_eq, beq_iff_eq] at hGone ⊢
    omega
  · intro o' ho'
    obtain ⟨⟨e', hChain, hMem⟩, hJob, hAsked, hAbort, hStart⟩ := h.carries o' (hOld o' ho')
    obtain ⟨hLinks, hAuto, hState⟩ := hKept o'.runsOn
    refine ⟨?_, (congrArg (fun l => l.2.2.2) hLinks).trans hJob, hAuto.trans hAsked,
      hState.trans hAbort, (congrArg (fun l => l.2.2.1) hLinks).trans hStart⟩
    rw [f.chains_eq]
    rcases eq_or_ne (keyOf o'.job.jobId) (keyOf o.job.jobId) with hSame | hNe
    · rw [hSame, f.chain_eq] at hChain
      cases hChain
      rw [hSame, Function.update_self]
      exact ⟨_, rfl, hMem⟩
    · rw [Function.update_of_ne hNe]
      exact ⟨e', hChain, hMem⟩
  · intro s hs
    rw [f.sessions_eq] at hs
    rcases eq_or_ne s o.runsOn with rfl | hNe
    · rw [Function.update_self] at hs
      cases hs
    · rw [Function.update_of_ne hNe] at hs
      obtain ⟨o', ho', rfl⟩ := h.encoding s hs
      exact ⟨o', f.keeps ho' hNe, rfl⟩
  · refine h.ids.sublist ?_
    rw [jobIds, jobIds, f.jobQueue_eq, hLeft, hSplit]
    refine (List.Sublist.map _ ?_).append_left _
    exact (List.sublist_cons_self o back).append_left front

theorem Balanced.beginEncode (h : Balanced w) (hl : Linked w) {job : EncodeJobInfo}
    {rest : List EncodeJobInfo} (hQueue : w.jobQueue = job :: rest) {e e' : EncodeSession}
    (hChain : w.chains (keyOf job.jobId) = some e) (hOmx : e'.omxSessions = e.omxSessions)
    (hBufs : e'.numDstBufs = e.numDstBufs)
    (hFree : e.sessionHandleQ = s :: e'.sessionHandleQ) {job' : EncodeJobInfo} {asked : Bool}
    (hId : job'.jobId = job.jobId) (hSerial : job'.serial = job.serial)
    (hOut : ∀ i : Nat, e.outBufQ.count (i + 1) = e'.outBufQ.count (i + 1)
      + if asked = true ∧ job'.dstIndex = i then 1 else 0) :
    Balanced (JpegJobs.beginEncode { w with jobQueue := rest } (keyOf job.jobId) e' job' s
      asked) := by
  have hIn : s ∈ e.omxSessions := hl.handles _ e hChain s (hFree ▸ List.mem_cons_self)
  have hIdle : ∀ o ∈ w.ongoingJobQ, o.runsOn ≠ s := by
    have hOne := h.sessions _ e hChain s hIn
    rw [hFree, List.count_cons_self] at hOne
    have hNone : w.ongoingJobQ.countP (fun o => o.runsOn = s) = 0 := by omega
    intro o ho hRuns
    exact List.countP_eq_zero.mp hNone o ho (decide_eq_true hRuns)
  constructor
  · intro k e'' hSome s' hs'
    change (w.setChain (keyOf job.jobId) e').chains k = some e'' at hSome
    show _ + (w.ongoingJobQ ++ [(⟨job', s, asked⟩ : OngoingJob)]).countP _ = 1
    rw [List.countP_append, List.countP_singleton]
    simp only [decide_eq_true_eq]
    rcases eq_or_ne k (keyOf job.jobId) with rfl | hNe
    · rw [setChain_self] at hSome
      cases hSome
      have hBefore := h.sessions _ e hChain s' (hOmx ▸ hs')
      rw [hFree, List.count_cons] at hBefore
      simp only [beq_iff_eq] at hBefore
      omega
    · rw [setChain_of_ne _ hNe] at hSome
      have hBefore := h.sessions k e'' hSome s' hs'
      have hOther : s ≠ s' := by
        rintro rfl
        have hOwn := (hl.inChain _ e hChain s hIn).queues
        rw [(hl.inChain k e'' hSome s hs').queues] at hOwn
        exact hNe hOwn
      rw [if_neg hOther]
      omega
  · intro k e'' hSome i hi
    change (w.setChain (keyOf job.jobId) e').chains k = some e'' at hSome
    show _ + (w.ongoingJobQ ++ [(⟨job', s, asked⟩ : OngoingJob)]).countP _ = 1
    rw [List.countP_append, List.countP_singleton]
    rcases eq_or_ne k (keyOf job.jobId) with rfl | hNe
    · rw [setChain_self] at hSome
      cases hSome
      have hBefore := h.buffers _ e hChain i (hBufs ▸ hi)
      rw [hOut i] at hBefore
      simp only [OngoingJob.uses, hId, Bool.and_eq_true, decide_eq_true_eq, and_true]
        at hBefore ⊢
      omega
    · rw [setChain_of_ne _ hNe] at hSome
      have hBefore := h.buffers k e'' hSome i hi
      rw [if_neg (by simp [OngoingJob.uses, hId, hNe.symm])]
      omega
  · intro n
    refine Eq.trans ?_ (h.places n)
    simp only [JpegJobs.places, JpegJobs.beginEncode, setSession, setChain, hQueue,
      List.countP_cons, List.countP_append, List.countP_nil, hSerial, decide_eq_true_eq]
    omega
  · intro o ho
    rcases List.mem_append.mp ho with ho | ho
    · obtain ⟨⟨e₀, hOld, hMem⟩, hJob, hAsked, hAbort, hStart⟩ := h.carries o ho
      have hSame : (JpegJobs.beginEncode { w with jobQueue := rest } (keyOf job.jobId) e' job' s
          asked).sessions o.runsOn = w.sessions o.runsOn :=
        Function.update_of_ne (hIdle o ho) _ _
      refine ⟨?_, by rw [hSame, hJob], by rw [hSame, hAsked], by rw [hSame, hAbort],
        by rw [hSame, hStart]⟩
      show ∃ e, (w.setChain _ e').chains _ = some e ∧ _
      rcases eq_or_ne (keyOf o.job.jobId) (keyOf job.jobId) with hKey | hNe
      · rw [hKey, hChain] at hOld
        cases hOld
        rw [hKey, setChain_self]
        exact ⟨e', rfl, hOmx ▸ hMem⟩
      · rw [setChain_of_ne _ hNe]
        exact ⟨e₀, hOld, hMem⟩
    · cases List.mem_singleton.mp ho
      have hNew : (JpegJobs.beginEncode { w with jobQueue := rest } (keyOf job.jobId) e' job' s
          asked).sessions s = { w.sessions s with
            encoding := false, abortState := .none, autoOutBuf := asked, encodeJob := job'
            started := true } := Function.update_self ..
      refine ⟨?_, by rw [hNew], by rw [hNew], by rw [hNew], by rw [hNew]⟩
      show ∃ e, (w.setChain _ e').chains (keyOf job'.jobId) = some e ∧ _
      rw [hId, setChain_self]
      exact ⟨e', rfl, hOmx ▸ hIn⟩
  · intro s' hs'
    rcases eq_or_ne s' s with rfl | hNe
    · have hOff : (JpegJobs.beginEncode { w with jobQueue := rest } (keyOf job.jobId) e' job' s'
          asked).sessions s' = { w.sessions s' with
            encoding := false, abortState := .none, autoOutBuf := asked, encodeJob := job'
            started := true } := Function.update_self ..
      rw [hOff] at hs'
      cases hs'
    · have hSame : (JpegJobs.beginEncode { w with jobQueue := rest } (keyOf job.jobId) e' job' s
          asked).sessions s' = w.sessions s' := Function.update_of_ne hNe _ _
      rw [hSame] at hs'
      obtain ⟨o, ho, hRuns⟩ := h.encoding s' hs'
      exact ⟨o, List.mem_append_left _ ho, hRuns⟩
  · have hIds := h.ids
    rw [jobIds, hQueue, List.map_cons, List.cons_append] at hIds
    refine (List.Perm.nodup_iff ?_).mp hIds
    show (_ :: (rest.map _ ++ _)).Perm
      (rest.map _ ++ (w.ongoingJobQ ++ [(⟨job', s, asked⟩ : OngoingJob)]).map _)
    rw [List.map_append, ← List.append_assoc, List.map_singleton, hId]
    exact (List.perm_append_singleton _ _).symm

theorem Balanced.processEncodingJob (h : Balanced w) (hl : Linked w) {job : EncodeJobInfo}
    {rest : List EncodeJobInfo} (hQueue : w.jobQueue = job :: rest) (hFinds : w.FindsBuffer) :
    Balanced (JpegJobs.processEncodingJob { w with jobQueue := rest } job) := by
  obtain ⟨⟨e, hChain⟩, _⟩ := hl.queued job (hQueue ▸ List.mem_cons_self)
  rw [JpegJobs.processEncodingJob]
  simp only [hChain]
  split
  · exact h.congr rfl rfl hQueue.symm rfl rfl rfl rfl
  · rename_i s free hFree
    split
    · rename_i hAsks
      split
      · rename_i hEmpty
        refine absurd hEmpty (hFinds job ?_ e hChain ?_ hAsks)
        · rw [hQueue]
          rfl
        · rw [hFree]
          exact List.cons_ne_nil _ _
      · rename_i bufIdx out hBuf
        have hOmx : ({ e with sessionHandleQ := free, outBufQ := out } :
            EncodeSession).omxSessions = e.omxSessions := rfl
        refine h.beginEncode hl hQueue hChain hOmx rfl hFree rfl rfl ?_
        intro i
        have hIndex : (bufIdx : Int) - 1 = i ↔ bufIdx = i + 1 := by omega
        rw [hBuf, List.count_cons]
        simp [hIndex]
    · have hOmx : ({ e with sessionHandleQ := free } : EncodeSession).omxSessions
          = e.omxSessions := rfl
      refine h.beginEncode hl hQueue hChain hOmx rfl hFree rfl rfl ?_
      intro i
      simp

theorem Balanced.startJob (h : Balanced w) {srcIndex dstIndex : Int} {buffersOk : Bool}
    (hNew : ∀ e ∈ w.chains k, jobIdOf (sessionIdOf k) e.jobHist ∉ w.jobIds) :
    Balanced (w.startJob k srcIndex dstIndex buffersOk) := by
  rw [JpegJobs.startJob]
  split
  · exact h
  · rename_i e hChain
    split
    · have hChains : ∀ k' e', (w.setChain k { e with jobHist := e.jobHist + 1 }).chains k' = some e' →
          ∃ e₀, w.chains k' = some e₀ ∧ e' = { e₀ with jobHist := e'.jobHist } := by
        intro k' e' hSome
        rcases eq_or_ne k' k with rfl | hNe
        · rw [setChain_self] at hSome
          cases hSome
          exact ⟨e, hChain, rfl⟩
        · rw [setChain_of_ne _ hNe] at hSome
          exact ⟨e', hSome, rfl⟩
      constructor
      · intro k' e' hSome s hs
        obtain ⟨e₀, hOld, hSame⟩ := hChains k' e' hSome
        rw [hSame] at hs ⊢
        exact h.sessions k' e₀ hOld s hs
      · intro k' e' hSome i hi
        obtain ⟨e₀, hOld, hSame⟩ := hChains k' e' hSome
        rw [hSame] at hi ⊢
        exact h.buffers k' e₀ hOld i hi
      · intro n
        have hBefore := h.places n
        simp only [JpegJobs.places] at hBefore
        simp only [JpegJobs.places, setChain, List.countP_append, List.countP_singleton,
          decide_eq_true_eq]
        split at hBefore <;> split <;> split <;> omega
      · intro o ho
        obtain ⟨⟨e₀, hOld, hMem⟩, hJob, hAsked, hAbort, hStart⟩ := h.carries o ho
        refine ⟨?_, hJob, hAsked, hAbort, hStart⟩
        show ∃ e', (w.setChain k _).chains _ = some e' ∧ _
        rcases eq_or_ne (keyOf o.job.jobId) k with hKey | hNe
        · rw [hKey, hChain] at hOld
          cases hOld
          rw [hKey, setChain_self]
          exact ⟨_, rfl, hMem⟩
        · rw [setChain_of_ne _ hNe]
          exact ⟨e₀, hOld, hMem⟩
      · exact h.encoding
      · have hFresh := hNew e hChain
        have hPerm : (jobIdOf (sessionIdOf k) e.jobHist :: w.jobIds).Perm
            ((w.jobQueue.map EncodeJobInfo.jobId ++ [jobIdOf (sessionIdOf k) e.jobHist])
              ++ w.ongoingJobQ.map fun o => o.job.jobId) := by
          rw [List.append_assoc]
          exact List.perm_middle.symm
        simp only [jobIds, setChain, List.map_append, List.map_singleton]
        exact hPerm.nodup_iff.mp (List.nodup_cons.mpr ⟨hFresh, h.ids⟩)
    · exact h

theorem Balanced.abortJob (h : Balanced w) {jobId : Nat} (hNot : w.NotRunning jobId) :
    Balanced (w.abortJob jobId) := by
  rw [JpegJobs.abortJob]
  split
  · rename_i job hFound
    have hMem := List.mem_of_find?_eq_some hFound
    have hHit := List.find?_some hFound
    have hId : job.jobId = jobId := of_decide_eq_true hHit
    have hQueued : (w.jobQueue.map EncodeJobInfo.jobId).Nodup :=
      h.ids.sublist (List.sublist_append_left _ _)
    obtain ⟨front, back, hSplit, hErase⟩ := Lib.exists_eraseP_of_nodup hQueued hMem
    rw [hId] at hErase
    refine ⟨h.sessions, h.buffers, ?_, ?_, h.encoding, ?_⟩
    · intro n
      refine Eq.trans ?_ (h.places n)
      simp only [JpegJobs.places]
      rw [hErase, hSplit, List.countP_append, List.countP_append, List.countP_cons,
        List.count_append, List.count_singleton]
      simp only [decide_eq_true_eq, beq_iff_eq]
      omega
    · intro o ho
      exact ⟨(h.carries o ho).chain, (h.carries o ho).encodeJob, (h.carries o ho).asked,
        (h.carries o ho).notAborted, (h.carries o ho).started⟩
    · refine h.ids.sublist ?_
      exact (List.eraseP_sublist.map _).append_right _
  · rename_i hNotQueued
    split
    · rename_i o hOngoing
      exfalso
      have hHit := List.find?_some hOngoing
      rcases hNot with ⟨job, hJob, hId⟩ | hNone
      · exact List.find?_eq_none.mp hNotQueued job hJob (decide_eq_true hId)
      · exact hNone o (List.mem_of_find?_eq_some hOngoing) (of_decide_eq_true hHit)
    · exact h

theorem Created.balanced {omxSessions : List Nat} {jpegCb : Bool}
    {numSrcBufs numDstBufs jobHist : Nat}
    (c : Created w w' k (.new omxSessions jpegCb numSrcBufs numDstBufs jobHist))
    (h : Balanced w) (hl : Linked w) : Balanced w' := by
  have hOngoing : w'.ongoingJobQ = w.ongoingJobQ := by rw [c.rest_eq]
  have hRuns : ∀ o ∈ w.ongoingJobQ, ∃ e, w.chains (keyOf o.job.jobId) = some e ∧
      o.runsOn ∈ e.omxSessions := fun o ho => (h.carries o ho).chain
  constructor
  · intro k' e hSome s hs
    rw [hOngoing]
    rcases c.chain_cases hSome with ⟨rfl, rfl⟩ | hOld
    · have hIdle : w.ongoingJobQ.countP (fun o => o.runsOn = s) = 0 := by
        refine List.countP_eq_zero.mpr ?_
        intro o ho hOn
        obtain ⟨e, hChain, hMem⟩ := hRuns o ho
        rw [of_decide_eq_true hOn] at hMem
        exact c.apart hl hChain hMem hs
      rw [hIdle, c.handles_eq]
      exact List.count_eq_one_of_mem c.nodup hs
    · exact h.sessions k' e hOld s hs
  · intro k' e hSome i hi
    rw [hOngoing]
    rcases c.chain_cases hSome with ⟨rfl, rfl⟩ | hOld
    · have hUnused : w.ongoingJobQ.countP (fun o => o.uses k' i) = 0 := by
        refine List.countP_eq_zero.mpr ?_
        intro o ho hUses
        obtain ⟨e, hChain, _⟩ := hRuns o ho
        have hKey : keyOf o.job.jobId = k' := by
          simp only [OngoingJob.uses, Bool.and_eq_true, decide_eq_true_eq] at hUses
          exact hUses.1.2
        rw [hKey] at hChain
        exact c.ne hl hChain rfl
      have hRange : i + 1 ∈ List.range' 1 numDstBufs := by
        rw [List.mem_range'_1]
        exact ⟨Nat.le_add_left 1 i, by rw [Nat.add_comm]; exact Nat.add_lt_add_left hi 1⟩
      rw [hUnused]
      exact List.count_eq_one_of_mem (List.nodup_range' ..) hRange
    · exact h.buffers k' e hOld i hi
  · rw [c.rest_eq]
    exact h.places
  · intro o ho
    rw [hOngoing] at ho
    obtain ⟨⟨e, hOld, hMem⟩, hJob, hAsked, hAbort, hStart⟩ := h.carries o ho
    have hSame := c.other o.runsOn (c.apart hl hOld hMem)
    exact ⟨⟨e, c.chain_old hl hOld, hMem⟩, by rw [hSame, hJob], by rw [hSame, hAsked],
      by rw [hSame, hAbort], by rw [hSame, hStart]⟩
  · intro s hs
    rw [hOngoing]
    refine h.encoding s ?_
    rcases Decidable.em (s ∈ omxSessions) with hIn | hOut
    · rw [c.mine s hIn] at hs
      exact hs
    · rw [c.other s hOut] at hs
      exact hs
  · rw [c.rest_eq]
    exact h.ids

/-- An encode call that fails ends a job of a client that takes callbacks, and no callback has ended
that job before. -/
def FailsOnce (w : JpegJobs) : MgrPhase → Prop
  | .configuring s => w.hasCb s = true
  | .submitting s => w.hasCb s = true ∧ (w.sessions s).encoding = true
  | _ => True

instance (w : JpegJobs) : (phase : MgrPhase) → Decidable (w.FailsOnce phase)
  | .configuring s => inferInstanceAs (Decidable (w.hasCb s = true))
  | .submitting s => inferInstanceAs (Decidable
      (w.hasCb s = true ∧ (w.sessions s).encoding = true))
  | .blocked | .woken | .ready => .isTrue trivial

/-- The conditions on a step. A new job gets an id that no unfinished job has, and a callback or a
failure that ends a job is the first to do so; see `KeepsWaking` for the other two. -/
def KeepsCount (w : JpegJobs) : Input → Prop
  | .startJob k _ _ _ => ∀ e ∈ w.chains k, jobIdOf (sessionIdOf k) e.jobHist ∉ w.jobIds
  | .abortJob jobId => w.NotRunning jobId
  | .destroySession _ => False
  | .process => w.FindsBuffer
  | .encodeReturns ok => ok = false → w.FailsOnce w.phase
  | .fbd s => w.hasCb s = true → (w.sessions s).encoding = true
  | .eventHandler s isError =>
    isError = true → (w.sessions s).encoding = true → w.hasCb s = true
  | _ => True

/-- The job that is being configured has not ended. -/
def Configures (w : JpegJobs) : Prop :=
  ∀ s, w.phase = .configuring s → (w.sessions s).encoding = false ∧
    ∃ o ∈ w.ongoingJobQ, o.runsOn = s

instance (w : JpegJobs) : (i : Input) → Decidable (w.KeepsCount i)
  | .startJob k _ _ _ => inferInstanceAs (Decidable
      (∀ e ∈ w.chains k, jobIdOf (sessionIdOf k) e.jobHist ∉ w.jobIds))
  | .abortJob jobId => inferInstanceAs (Decidable (w.NotRunning jobId))
  | .destroySession _ => .isFalse not_false
  | .process => inferInstanceAs (Decidable w.FindsBuffer)
  | .encodeReturns ok => inferInstanceAs (Decidable (ok = false → w.FailsOnce w.phase))
  | .fbd s => inferInstanceAs (Decidable (w.hasCb s = true → (w.sessions s).encoding = true))
  | .eventHandler s isError => inferInstanceAs (Decidable
      (isError = true → (w.sessions s).encoding = true → w.hasCb s = true))
  | .createSession .. | .semWait | .checkOngoing | .encodingStarts => .isTrue trivial

/-- The invariant of all runs that meet the conditions. -/
structure Accounts (w : JpegJobs) : Prop where
  wakes : Wakes w
  balanced : Balanced w
  configuring : Configures w

theorem accounts_start : Accounts start where
  wakes := wakes_start
  balanced := by
    constructor
    · intro _ _ h
      cases h
    · intro _ _ h
      cases h
    · intro n
      rfl
    · intro _ h
      cases h
    · intro _ h
      cases h
    · exact List.nodup_nil
  configuring _ h := by cases h

theorem Balanced.started (h : Balanced w) (hs : (w.sessions s).encoding = true) :
    (w.sessions s).started = true := by
  obtain ⟨o, ho, rfl⟩ := h.encoding s hs
  exact (h.carries o ho).started

theorem Balanced.keepsWaking (h : Balanced w) {i : Input} (hKeeps : w.KeepsCount i) :
    w.KeepsWaking i := by
  cases i with
  | abortJob jobId => exact hKeeps
  | process => exact hKeeps
  | eventHandler s isError => exact h.started
  | _ => trivial

theorem Balanced.finish (h : Balanced w) (hl : Linked w) (hCb : w.hasCb s = true)
    (hRuns : ∃ o ∈ w.ongoingJobQ, o.runsOn = s) : Balanced ((w.report s).jobDone s) := by
  obtain ⟨o, ho, rfl⟩ := hRuns
  obtain ⟨e, f⟩ := finished_of_jobDone h hl ho hCb
  exact f.balanced h hl

theorem Balanced.changeSession (h : Balanced w) {session : JobSession}
    (hJob : session.encodeJob = (w.sessions s).encodeJob)
    (hAuto : session.autoOutBuf = (w.sessions s).autoOutBuf)
    (hStarted : session.started = (w.sessions s).started)
    (hAbort : session.abortState = (w.sessions s).abortState ∨ ∀ o ∈ w.ongoingJobQ, o.runsOn ≠ s)
    (hEncoding : session.encoding = true → ∃ o ∈ w.ongoingJobQ, o.runsOn = s) :
    Balanced (w.setSession s session) := by
  refine ⟨h.sessions, h.buffers, h.places, ?_, ?_, h.ids⟩
  · intro o ho
    obtain ⟨hChain, hOwn, hAsked, hNot, hStart⟩ := h.carries o ho
    rcases eq_or_ne o.runsOn s with hRuns | hNe
    · rw [hRuns] at hOwn hAsked hNot hStart
      have hState := hAbort.resolve_right fun hIdle => hIdle o ho hRuns
      refine ⟨hChain, ?_, ?_, ?_, ?_⟩ <;> rw [hRuns, setSession_self]
      · rw [hJob, hOwn]
      · rw [hAuto, hAsked]
      · rw [hState, hNot]
      · rw [hStarted, hStart]
    · refine ⟨hChain, ?_, ?_, ?_, ?_⟩ <;> rw [setSession_of_ne _ hNe]
      · exact hOwn
      · exact hAsked
      · exact hNot
      · exact hStart
  · intro s' hs'
    rcases eq_or_ne s' s with rfl | hNe
    · rw [setSession_self] at hs'
      exact hEncoding hs'
    · rw [setSession_of_ne _ hNe] at hs'
      exact h.encoding s' hs'

theorem Balanced.idle_of_aborted (h : Balanced w) (hAborted : (w.sessions s).abortState ≠ .none) :
    ∀ o ∈ w.ongoingJobQ, o.runsOn ≠ s := by
  rintro o ho rfl
  exact hAborted (h.carries o ho).notAborted

theorem Balanced.fbd (h : Balanced w) (hl : Linked w)
    (hKeeps : w.hasCb s = true → (w.sessions s).encoding = true) : Balanced (w.fbd s) := by
  rw [JpegJobs.fbd]
  split
  · rename_i hAborted
    exact h.changeSession rfl rfl rfl (.inr (h.idle_of_aborted hAborted)) (h.encoding s)
  · split
    · rename_i hCb
      exact h.finish hl hCb (h.encoding s (hKeeps hCb))
    · exact h

theorem Balanced.eventHandler (h : Balanced w) (hl : Linked w) {isError : Bool}
    (hKeeps : isError = true → (w.sessions s).encoding = true → w.hasCb s = true) :
    Balanced (w.eventHandler s isError) := by
  rw [JpegJobs.eventHandler]
  split
  · rename_i hInit
    have hAborted : (w.sessions s).abortState ≠ .none := by
      rw [hInit]
      exact AbortState.noConfusion
    exact h.changeSession rfl rfl rfl (.inr (h.idle_of_aborted hAborted)) (h.encoding s)
  · split
    · rename_i hError
      exact h.finish hl (hKeeps hError.1 hError.2) (h.encoding s hError.2)
    · exact h

theorem Balanced.next (h : Accounts w) {i : Input} {o : List Unit} (hKeeps : w.KeepsCount i)
    (hNext : Next w i o w') : Balanced w' := by
  have hBalanced := h.balanced
  have hLinked := h.wakes.linked
  cases i with
  | createSession omxSessions jpegCb numSrcBufs numDstBufs jobHist =>
    obtain ⟨k, c⟩ := created_of_createSession hNext
    exact c.balanced hBalanced hLinked
  | startJob k srcIndex dstIndex buffersOk =>
    cases hNext
    exact hBalanced.startJob hKeeps
  | abortJob jobId =>
    rw [Next, step] at hNext
    split at hNext
    · cases hNext
      exact hBalanced.abortJob hKeeps
    · cases hNext
  | destroySession k => exact hKeeps.elim
  | semWait =>
    rw [Next, step] at hNext
    split at hNext
    · cases hNext
      exact hBalanced.congr rfl rfl rfl rfl rfl rfl rfl
    · cases hNext
  | checkOngoing =>
    rw [Next, step] at hNext
    split at hNext
    · cases hNext
      exact hBalanced.congr rfl rfl rfl rfl rfl rfl rfl
    · cases hNext
  | process =>
    rw [Next, step] at hNext
    split at hNext
    · split at hNext
      · cases hNext
        exact hBalanced.congr rfl rfl rfl rfl rfl rfl rfl
      · rename_i job rest hQueue
        cases hNext
        exact hBalanced.processEncodingJob hLinked hQueue hKeeps
    · cases hNext
  | encodingStarts =>
    rw [Next, step] at hNext
    split at hNext
    · rename_i s hPhase
      cases hNext
      have hRuns := (h.configuring s hPhase).2
      have hChanged : Balanced (w.setSession s { w.sessions s with encoding := true }) :=
        hBalanced.changeSession rfl rfl rfl (.inl rfl) fun _ => hRuns
      exact hChanged.congr rfl rfl rfl rfl rfl rfl rfl
    · cases hNext
  | encodeReturns ok =>
    rw [Next, step] at hNext
    split at hNext
    · rename_i s hPhase
      split at hNext
      · cases hNext
      · rename_i hFails
        cases hNext
        have hOnce := hKeeps (Bool.eq_false_iff.mpr hFails)
        rw [hPhase] at hOnce
        have hDone := hBalanced.finish hLinked hOnce (h.configuring s hPhase).2
        exact hDone.congr rfl rfl rfl rfl rfl rfl rfl
    · rename_i s hPhase
      cases hNext
      cases ok with
      | true => exact hBalanced.congr rfl rfl rfl rfl rfl rfl rfl
      | false =>
        have hOnce := hKeeps rfl
        rw [hPhase] at hOnce
        have hDone := hBalanced.finish hLinked hOnce.1 (hBalanced.encoding s hOnce.2)
        exact hDone.congr rfl rfl rfl rfl rfl rfl rfl
    · cases hNext
  | fbd s =>
    rw [Next, step] at hNext
    split at hNext
    · cases hNext
      exact hBalanced.fbd hLinked hKeeps
    · cases hNext
  | eventHandler s isError =>
    rw [Next, step] at hNext
    split at hNext
    · cases hNext
      exact hBalanced.eventHandler hLinked hKeeps
    · cases hNext

theorem Accounts.configures_finish (h : Accounts w) (hCb : w.hasCb s = true)
    (hEncoding : (w.sessions s).encoding = true) : Configures ((w.report s).jobDone s) := by
  intro s' hPhase
  rw [jobDone_phase, report_phase] at hPhase
  obtain ⟨hOff, o', ho', rfl⟩ := h.configuring s' hPhase
  obtain ⟨o, ho, rfl⟩ := h.balanced.encoding s hEncoding
  obtain ⟨e, f⟩ := finished_of_jobDone h.balanced h.wakes.linked ho hCb
  have hNe : o'.runsOn ≠ o.runsOn := by
    intro hSame
    rw [hSame, hEncoding] at hOff
    cases hOff
  refine ⟨?_, o', f.keeps ho' hNe, rfl⟩
  rw [f.sessions_eq, Function.update_of_ne hNe]
  exact hOff

theorem Configures.changeSession (h : Configures w) {session : JobSession}
    (hSame : session.encoding = (w.sessions s).encoding) : Configures (w.setSession s session) := by
  intro s' hPhase
  obtain ⟨hOff, hRuns⟩ := h s' hPhase
  refine ⟨?_, hRuns⟩
  rcases eq_or_ne s' s with rfl | hNe
  · rw [setSession_self, hSame, hOff]
  · rw [setSession_of_ne _ hNe, hOff]

theorem configures_of_phase (hPhase : ∀ s, w.phase ≠ .configuring s) : Configures w :=
  fun s hs => absurd hs (hPhase s)

theorem Created.encoding {chain : EncodeSession} (c : Created w w' k chain) (s : Nat) :
    (w'.sessions s).encoding = (w.sessions s).encoding := by
  rcases Decidable.em (s ∈ chain.omxSessions) with hIn | hOut
  · rw [c.mine s hIn]
    rfl
  · rw [c.other s hOut]

theorem processEncodingJob_cases (w : JpegJobs) (job : EncodeJobInfo) :
    (w.processEncodingJob job).phase = .blocked ∨ ∃ k e job' s asked,
      w.processEncodingJob job = w.beginEncode k e job' s asked := by
  simp only [processEncodingJob]
  split
  · exact .inl rfl
  · split
    · exact .inl rfl
    · split
      · split
        · exact .inl rfl
        · exact .inr ⟨_, _, _, _, _, rfl⟩
      · exact .inr ⟨_, _, _, _, _, rfl⟩

theorem configures_processEncodingJob (w : JpegJobs) (job : EncodeJobInfo) :
    Configures (w.processEncodingJob job) := by
  rcases w.processEncodingJob_cases job with hBlocked | ⟨k, e, job', s, asked, hBegin⟩
  · refine configures_of_phase ?_
    intro s hPhase
    rw [hBlocked] at hPhase
    cases hPhase
  · rw [hBegin]
    intro s hPhase
    cases hPhase
    refine ⟨?_, ⟨job', s, asked⟩, List.mem_append_right _ List.mem_cons_self, rfl⟩
    show ((JpegJobs.setSession _ s _).sessions s).encoding = false
    rw [setSession_self]

theorem abortJob_phase (w : JpegJobs) (jobId : Nat) : (w.abortJob jobId).phase = w.phase := by
  rw [JpegJobs.abortJob]
  split
  · rfl
  · split
    · exact sessionAbort_phase _ w
    · rfl

theorem Accounts.next (h : Accounts w) {i : Input} {o : List Unit} (hKeeps : w.KeepsCount i)
    (hNext : Next w i o w') : Accounts w' := by
  refine ⟨h.wakes.next (h.balanced.keepsWaking hKeeps) hNext, Balanced.next h hKeeps hNext, ?_⟩
  cases i with
  | createSession omxSessions jpegCb numSrcBufs numDstBufs jobHist =>
    obtain ⟨k, c⟩ := created_of_createSession hNext
    intro s hPhase
    have hRest := c.rest_eq
    rw [hRest] at hPhase
    rw [c.encoding, hRest]
    exact h.configuring s hPhase
  | startJob k srcIndex dstIndex buffersOk =>
    cases hNext
    rw [JpegJobs.startJob]
    split
    · exact h.configuring
    · split
      · exact h.configuring
      · exact h.configuring
  | abortJob jobId =>
    rw [Next, step] at hNext
    split at hNext
    · rename_i hFree
      cases hNext
      refine configures_of_phase ?_
      intro s hPhase
      rw [abortJob_phase] at hPhase
      rw [lockFree, hPhase] at hFree
      cases hFree
    · cases hNext
  | destroySession k => exact hKeeps.elim
  | semWait =>
    rw [Next, step] at hNext
    split at hNext
    · cases hNext
      exact configures_of_phase fun _ => MgrPhase.noConfusion
    · cases hNext
  | checkOngoing =>
    rw [Next, step] at hNext
    split at hNext
    · cases hNext
      split
      · exact configures_of_phase fun _ => MgrPhase.noConfusion
      · exact configures_of_phase fun _ => MgrPhase.noConfusion
    · cases hNext
  | process =>
    rw [Next, step] at hNext
    split at hNext
    · split at hNext
      · cases hNext
        exact configures_of_phase fun _ => MgrPhase.noConfusion
      · cases hNext
        exact configures_processEncodingJob _ _
    · cases hNext
  | encodingStarts =>
    rw [Next, step] at hNext
    split at hNext
    · cases hNext
      exact configures_of_phase fun _ => MgrPhase.noConfusion
    · cases hNext
  | encodeReturns ok =>
    rw [Next, step] at hNext
    split at hNext
    · split at hNext
      · cases hNext
      · cases hNext
        exact configures_of_phase fun _ => MgrPhase.noConfusion
    · cases hNext
      exact configures_of_phase fun _ => MgrPhase.noConfusion
    · cases hNext
  | fbd s =>
    rw [Next, step] at hNext
    split at hNext
    · cases hNext
      rw [JpegJobs.fbd]
      split
      · exact h.configuring.changeSession rfl
      · split
        · rename_i hCb
          exact h.configures_finish hCb (hKeeps hCb)
        · exact h.configuring
    · cases hNext
  | eventHandler s isError =>
    rw [Next, step] at hNext
    split at hNext
    · cases hNext
      rw [JpegJobs.eventHandler]
      split
      · exact h.configuring.changeSession rfl
      · split
        · rename_i hError
          exact h.configures_finish (hKeeps hError.1 hError.2) hError.2
        · exact h.configuring
    · cases hNext

/-- Two OMX sessions. The first job is encoded, the second ends in an error of its OMX session, the
third fails to start and the fourth is aborted in the queue. -/
def fourEnds : List Input :=
  [.createSession [0, 1] true 1 2 0, .startJob 0 0 (-1) true, .startJob 0 0 (-1) true,
    .startJob 0 0 1 true, .semWait, .checkOngoing, .process, .encodingStarts,
    .encodeReturns true, .semWait, .checkOngoing, .process, .encodingStarts, .encodeReturns true,
    .fbd 0, .eventHandler 1 true, .semWait, .checkOngoing, .process, .encodeReturns false,
    .startJob 0 0 0 true, .abortJob (jobIdOf (sessionIdOf 0) 3)]

end JpegJobs

end KiwiDevice.Jpeg

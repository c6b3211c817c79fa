import KiwiDevice.Hal.FrameAccount
import Mathlib.Data.List.Nodup

/-!
# Every frame has one owner

A superbuf that was accepted is in one queue or with one notification, or it was freed once.
-/

namespace KiwiDevice.Hal.Frames

namespace PostProcessor

variable {os o : List Event} {s s' : PostProcessor} {i : Input} {f : SuperBuf}
  {fs ks : List SuperBuf}

/-! ### One step -/

/-- A raw superbuf stays with its notification, or it is given back. -/
def RawReturned (s : PostProcessor) (f : SuperBuf) (p : Parent) (r : RawResults) : Prop :=
  if s.hasRawMem f r then
    p.mDataCb = true ∧ p.compressedImageEnabled = true ∧
      if s.zslChannelUsed f p then r.notifyCallback = true
      else r.notifyCallback = false ∧ s.hasChannel f.chId = true
  else s.hasChannel f.chId = true

/-- What the flushes of `STOP_DATA_PROC` find, and no notification has a superbuf. -/
structure Stops (s : PostProcessor) : Prop where
  ongoing : ∀ job ∈ s.ongoingJpegQ, s.JobFound job
  reprocess : ∀ job ∈ s.ongoingPPQ, job.reprocFrameRelease = false →
    job.srcFrame.chId ∈ s.channels
  encode : ∀ job ∈ s.inputJpegQ, job.srcFrame.chId ∈ s.channels ∧
    (job.reprocFrameRelease = false → ∀ f ∈ job.srcReprocFrame, f.chId ∈ s.channels)
  frames : ∀ f ∈ s.inputPPQ ++ s.inputRawQ, f.chId ∈ s.channels
  notified : s.notified = []

/-- The channels of the superbufs that the step releases are there, and a raw superbuf is given back
or has a notification. -/
def Meets (s : PostProcessor) : Input → Prop
  | .processPPData _ p => p.generateThumbFromMain = false → p.isNVPictureFormat = true →
    ∀ job ∈ s.ongoingPPQ.head?, s.hasChannel job.srcFrame.chId = true
  | .jpegEvt jobId isLongshotEnabled => (s.mUseSaveProc && isLongshotEnabled) = false →
    ∀ job ∈ s.ongoingJpegQ, job.jobId = jobId → s.JobFound job
  | .saveNext => ∀ jobId ∈ s.inputSaveQ.head?,
    ∀ job ∈ s.ongoingJpegQ, job.jobId = jobId → s.JobFound job
  | .encodeFailed => ∀ job ∈ s.ongoingJpegQ.getLast?, s.JobFound job
  | .nextRaw p r => ∀ f ∈ s.inputRawQ.head?, s.RawReturned f p r
  | .nextPP _ => ∀ f ∈ s.inputPPQ.head?, s.canReprocess f = false → s.hasChannel f.chId = true
  | .reprocessFailed => ∀ job ∈ s.ongoingPPQ.getLast?, s.hasChannel job.srcFrame.chId = true
  | .releaseCb f => s.hasChannel f.chId = true
  | .stop => s.Stops
  | _ => True

/-- The job that the data thread is at is the last of its queue, and there is a job for each
reprocessed superbuf that is to come. -/
structure Ready (s : PostProcessor) : Prop where
  encoding : ∀ job, s.thread = .encoding job → s.ongoingJpegQ.getLast? = some job ∧ job.jobId = 0
  reprocessing : ∀ f, s.thread = .reprocessing f false → ∃ front job,
    s.ongoingPPQ = front ++ [job] ∧ job.srcFrame = f ∧ s.reprocessed ≤ front.length
  reprocessed : s.reprocessed ≤ s.ongoingPPQ.length
  fresh : ∀ job ∈ s.inputJpegQ, job.jobId = 0
  ids : ∀ jobId ∈ s.awaiting ++ s.inputSaveQ, jobId ≠ 0

structure Going (os : List Event) (s : PostProcessor) : Prop where
  account : Account os s.held s.keeps s.frames
  ready : s.Ready
  running : s.stopped = false

theorem going_start (mUseSaveProc : Bool) (channels : List Nat)
    (reprocChannel dualReprocChannel : Option ReprocessChannel) :
    Going [] (start mUseSaveProc channels reprocChannel dualReprocChannel) where
  account := .nil
  ready := by constructor <;> simp [start]
  running := rfl

/-- A step that moves superbufs between the queues. -/
theorem Going.move (h : Going os s) (hHeld : s'.held.Perm s.held) (hKeeps : s'.keeps ⊆ s.keeps)
    (hFrames : s'.frames = s.frames) (hReady : s'.Ready) (hStopped : s'.stopped = s.stopped) :
    Going (os ++ []) s' where
  account := by
    rw [List.append_nil, hFrames]
    exact h.account.move hHeld hKeeps
  ready := hReady
  running := hStopped.trans h.running

/-- A step that gives the superbufs `fs` back. -/
theorem Going.free (h : Going os s) (hFrees : Frees o fs ks) (hHeld : (fs ++ s'.held).Perm s.held)
    (hKept : ks ⊆ s.keeps) (hKeeps : s'.keeps ⊆ s.keeps) (hFrames : s'.frames = s.frames)
    (hReady : s'.Ready) (hStopped : s'.stopped = s.stopped) : Going (os ++ o) s' where
  account := by
    rw [hFrames]
    exact h.account.free hFrees hHeld hKept hKeeps
  ready := hReady
  running := hStopped.trans h.running

theorem processRawData_held (s : PostProcessor) (f : SuperBuf) :
    (s.processRawData f).held.Perm (f :: s.held) := by
  refine List.perm_iff_count.mpr fun g => ?_
  simp only [held, processRawData, List.count_append, List.count_cons, List.count_nil]
  omega

theorem Ready.processRawData (h : s.Ready) (f : SuperBuf) : (s.processRawData f).Ready :=
  ⟨h.encoding, h.reprocessing, h.reprocessed, h.fresh, h.ids⟩

/-- A job without an id at the end of `m_inputJpegQ`. -/
theorem Ready.encode (h : s.Ready) {job : JpegData} (hNew : job.jobId = 0) :
    Ready { s with inputJpegQ := s.inputJpegQ ++ [job] } := by
  refine ⟨h.encoding, h.reprocessing, h.reprocessed, ?_, h.ids⟩
  intro job' hIn
  rcases List.mem_append.mp hIn with hBefore | hLast
  · exact h.fresh job' hBefore
  · rw [List.mem_singleton.mp hLast]
    exact hNew

theorem encode_held (s : PostProcessor) (job : JpegData) :
    (held { s with inputJpegQ := s.inputJpegQ ++ [job] }).Perm (jobFrames job ++ s.held) := by
  refine List.perm_iff_count.mpr fun g => ?_
  simp only [held, List.flatMap_append, List.flatMap_singleton, List.count_append]
  omega

theorem encode_keeps (s : PostProcessor) (job : JpegData) :
    keeps { s with inputJpegQ := s.inputJpegQ ++ [job] } ⊆ jobKept job ++ s.keeps := by
  intro g hIn
  simp only [keeps, List.flatMap_append, List.flatMap_singleton, List.mem_append] at hIn ⊢
  tauto

/-- `processData` puts the superbuf into one queue. -/
theorem processData_adds (h : s.Ready) (f : SuperBuf) (p : Parent) :
    (s.processData f p).held.Perm (f :: s.held) ∧ (s.processData f p).keeps ⊆ s.keeps ∧
      (s.processData f p).Ready ∧ (s.processData f p).stopped = s.stopped := by
  rw [processData]
  split
  · refine ⟨List.perm_iff_count.mpr fun g => ?_, List.Subset.refl _,
      ⟨h.encoding, h.reprocessing, h.reprocessed, h.fresh, h.ids⟩, rfl⟩
    simp only [held, List.count_append, List.count_cons, List.count_nil]
    omega
  split
  · exact ⟨s.processRawData_held f, List.Subset.refl _, h.processRawData f, rfl⟩
  · exact ⟨s.encode_held _, s.encode_keeps _, h.encode rfl, rfl⟩

theorem Going.acceptData (h : Going os s) (chId : Nat) (p : Parent) :
    Going (os ++ (s.acceptData chId p).2) (s.acceptData chId p).1 := by
  obtain ⟨hHeld, hKeeps, hReady, hStopped⟩ := processData_adds h.ready (s.next chId) p
  refine ⟨(h.account.accept chId).move hHeld hKeeps, ?_, hStopped.trans h.running⟩
  exact ⟨hReady.encoding, hReady.reprocessing, hReady.reprocessed, hReady.fresh, hReady.ids⟩

theorem Going.processRawData (h : Going os s) (chId : Nat) :
    Going (os ++ [.accepted (s.next chId)])
      { s.processRawData (s.next chId) with frames := s.frames + 1 } where
  account := (h.account.accept chId).move (s.processRawData_held _) (List.Subset.refl _)
  ready := ⟨h.ready.encoding, h.ready.reprocessing, h.ready.reprocessed, h.ready.fresh, h.ready.ids⟩
  running := h.running

/-- The first job is not the one that the data thread is at, while a reprocessed superbuf is to
come. -/
theorem Ready.dequeuePP (h : s.Ready) (hPos : 0 < s.reprocessed) : ∃ job ongoingPPQ,
    s.ongoingPPQ = job :: ongoingPPQ ∧
      Ready { s with ongoingPPQ, reprocessed := s.reprocessed - 1 } := by
  obtain ⟨hEncoding, hReprocessing, hReprocessed, hFresh, hIds⟩ := h
  cases hQueue : s.ongoingPPQ with
  | nil =>
    rw [hQueue] at hReprocessed
    exact absurd hReprocessed (Nat.not_le.mpr hPos)
  | cons job ongoingPPQ =>
    refine ⟨job, ongoingPPQ, rfl, ⟨hEncoding, ?_, ?_, hFresh, hIds⟩⟩
    · intro f hThread
      obtain ⟨front, last, hLast, hSame, hLe⟩ := hReprocessing f hThread
      rw [hQueue] at hLast
      cases front with
      | nil => exact absurd hLe (Nat.not_le.mpr hPos)
      | cons first front =>
        obtain ⟨-, hRest⟩ := List.cons.inj hLast
        exact ⟨front, last, hRest, hSame, Nat.sub_le_of_le_add hLe⟩
    · rw [hQueue] at hReprocessed
      exact Nat.sub_le_of_le_add hReprocessed

theorem acceptPPData_eq {job : PPData} {ongoingPPQ : List PPData}
    (hQueue : s.ongoingPPQ = job :: ongoingPPQ) (chId : Nat) (p : Parent) :
    s.acceptPPData chId p =
      if !p.generateThumbFromMain && p.isNVPictureFormat then
        ({ ({ s with ongoingPPQ } : PostProcessor).processRawData (s.next chId) with
          frames := s.frames + 1 }, .accepted (s.next chId) :: s.giveBack job.srcFrame)
      else
        ({ s with
          ongoingPPQ
          inputJpegQ := s.inputJpegQ ++
            [⟨0, s.next chId, some job.srcFrame, job.reprocFrameRelease⟩]
          frames := s.frames + 1 }, [.accepted (s.next chId)]) := by
  rw [acceptPPData, processPPData, hQueue]
  cases !p.generateThumbFromMain && p.isNVPictureFormat <;> rfl

/-- The superbuf of a job goes on with the reprocessed one, or it is given back. -/
theorem Going.acceptPPData (hAccount : Account os s.held s.keeps s.frames)
    (hRunning : s.stopped = false) {job : PPData} {ongoingPPQ : List PPData}
    (hQueue : s.ongoingPPQ = job :: ongoingPPQ) (hReady : Ready { s with ongoingPPQ })
    (chId : Nat) (p : Parent) (hMeets : Meets s (.processPPData chId p)) :
    Going (os ++ (s.acceptPPData chId p).2) (s.acceptPPData chId p).1 := by
  have hAccepted := hAccount.accept chId
  rw [acceptPPData_eq hQueue]
  split
  · rename_i hRaw
    obtain ⟨hThumb, hFormat⟩ := Bool.and_eq_true_iff.mp hRaw
    have hFound := hMeets (by simpa using hThumb) hFormat job (by rw [hQueue]; rfl)
    dsimp only
    rw [← List.singleton_append, ← List.append_assoc]
    refine ⟨hAccepted.free (frees_giveBack hFound) ?_ (List.nil_subset _) ?_, ?_, hRunning⟩
    · refine List.perm_iff_count.mpr fun g => ?_
      simp only [held, hQueue, PostProcessor.processRawData, next, List.map_cons,
        List.count_append, List.count_cons, List.count_nil]
      omega
    · intro g hIn
      simp only [keeps, hQueue, PostProcessor.processRawData, List.flatMap_cons,
        List.mem_append] at hIn ⊢
      tauto
    · exact ⟨hReady.encoding, hReady.reprocessing, hReady.reprocessed, hReady.fresh, hReady.ids⟩
  · have hEncode := hReady.encode (rfl : (⟨0, s.next chId, some job.srcFrame,
      job.reprocFrameRelease⟩ : JpegData).jobId = 0)
    refine ⟨hAccepted.move ?_ ?_, ?_, hRunning⟩
    · refine List.perm_iff_count.mpr fun g => ?_
      simp only [held, hQueue, next, jobFrames, Option.toList_some, List.map_cons,
        List.flatMap_append, List.flatMap_singleton, List.count_append, List.count_cons,
        List.count_nil]
      omega
    · intro g hIn
      simp only [keeps, hQueue, jobKept, ppKept, Option.toList_some, List.flatMap_cons,
        List.flatMap_append, List.flatMap_nil, List.mem_append] at hIn ⊢
      tauto
    · exact ⟨hEncode.encoding, hEncode.reprocessing, hEncode.reprocessed, hEncode.fresh,
        hEncode.ids⟩

theorem filter_getLast? {α : Type} {l : List α} {x : α} {q : α → Bool} (h : l.getLast? = some x)
    (hKeep : q x = true) : (l.filter q).getLast? = some x := by
  obtain ⟨front, rfl⟩ := List.getLast?_eq_some_iff.mp h
  rw [List.filter_append, List.filter_cons_of_pos hKeep]
  exact List.getLast?_concat

/-- The event of a job, or of none. -/
theorem Going.flushJob (h : Going os s) {jobId : Nat} (hNe : jobId ≠ 0)
    (hFound : ∀ job ∈ s.ongoingJpegQ, job.jobId = jobId → s.JobFound job) :
    Going (os ++ (s.flushJob jobId).2) (s.flushJob jobId).1 := by
  obtain ⟨hEncoding, hReprocessing, hReprocessed, hFresh, hIds⟩ := h.ready
  have hSplit := List.filter_append_perm (fun job : JpegData => decide (job.jobId = jobId))
    s.ongoingJpegQ
  have hFrees : Frees (s.flushJob jobId).2 _ _ := .flatMap fun job hIn =>
    frees_releaseJpegJobData (hFound job (List.mem_filter.mp hIn).1
      (of_decide_eq_true (List.mem_filter.mp hIn).2))
  refine h.free hFrees ?_ ?_ ?_ rfl ?_ rfl
  · refine List.perm_iff_count.mpr fun g => ?_
    have hCount := (hSplit.flatMap_right jobFrames).count_eq g
    rw [List.flatMap_append, List.count_append] at hCount
    simp only [held, PostProcessor.flushJob, List.count_append]
    omega
  · intro g hIn
    obtain ⟨job, hAmong, hJob⟩ := List.mem_flatMap.mp hIn
    exact List.mem_append_right _ (List.mem_flatMap.mpr ⟨job, (List.mem_filter.mp hAmong).1, hJob⟩)
  · intro g hIn
    rcases List.mem_append.mp hIn with hBefore | hAfter
    · exact List.mem_append_left _ hBefore
    · obtain ⟨job, hAmong, hJob⟩ := List.mem_flatMap.mp hAfter
      exact List.mem_append_right _
        (List.mem_flatMap.mpr ⟨job, (List.mem_filter.mp hAmong).1, hJob⟩)
  · refine ⟨?_, hReprocessing, hReprocessed, hFresh, hIds⟩
    intro job hThread
    obtain ⟨hLast, hZero⟩ := hEncoding job hThread
    refine ⟨filter_getLast? hLast ?_, hZero⟩
    simpa [hZero] using Ne.symm hNe

theorem Going.jpegEvt (h : Going os s) {jobId : Nat} {isLongshotEnabled : Bool}
    (hAwaiting : jobId ∈ s.awaiting) (hMeets : Meets s (.jpegEvt jobId isLongshotEnabled))
    (hNext : Next s (.jpegEvt jobId isLongshotEnabled) o s') : Going (os ++ o) s' := by
  obtain ⟨hEncoding, hReprocessing, hReprocessed, hFresh, hIds⟩ := h.ready
  have hNe : jobId ≠ 0 := hIds jobId (List.mem_append_left _ hAwaiting)
  rw [Next, step, if_neg (by rw [h.running]; decide), stepStarted, if_pos hAwaiting] at hNext
  split at hNext
  · cases hNext
    refine h.move (.refl _) (List.Subset.refl _) rfl
      ⟨hEncoding, hReprocessing, hReprocessed, hFresh, ?_⟩ rfl
    intro id hIn
    rcases List.mem_append.mp hIn with hLeft | hSaved
    · exact hIds id (List.mem_append_left _ (List.mem_of_mem_erase hLeft))
    · rcases List.mem_append.mp hSaved with hBefore | hLast
      · exact hIds id (List.mem_append_right _ hBefore)
      · rw [List.mem_singleton.mp hLast]
        exact hNe
  · rename_i hSave
    have hFound := hMeets (Bool.eq_false_iff.mpr hSave)
    have hGoing : Going os { s with awaiting := s.awaiting.erase jobId } := by
      refine ⟨h.account, ⟨hEncoding, hReprocessing, hReprocessed, hFresh, ?_⟩, h.running⟩
      intro id hIn
      rcases List.mem_append.mp hIn with hLeft | hSaved
      · exact hIds id (List.mem_append_left _ (List.mem_of_mem_erase hLeft))
      · exact hIds id (List.mem_append_right _ hSaved)
    cases hNext
    exact hGoing.flushJob hNe hFound

theorem Going.saveNext (h : Going os s) {jobId : Nat} {inputSaveQ : List Nat}
    (hQueue : s.inputSaveQ = jobId :: inputSaveQ) (hMeets : Meets s .saveNext) :
    Going (os ++ (({ s with inputSaveQ } : PostProcessor).flushJob jobId).2)
      (({ s with inputSaveQ } : PostProcessor).flushJob jobId).1 := by
  obtain ⟨hEncoding, hReprocessing, hReprocessed, hFresh, hIds⟩ := h.ready
  rw [hQueue] at hIds
  have hGoing : Going os { s with inputSaveQ } := by
    refine ⟨h.account, ⟨hEncoding, hReprocessing, hReprocessed, hFresh, ?_⟩, h.running⟩
    intro id hIn
    refine hIds id ?_
    rcases List.mem_append.mp hIn with hAwaiting | hSaved
    · exact List.mem_append_left _ hAwaiting
    · exact List.mem_append_right _ (List.mem_cons_of_mem _ hSaved)
  refine hGoing.flushJob (hIds jobId (List.mem_append_right _ List.mem_cons_self)) ?_
  exact hMeets jobId (by rw [hQueue]; rfl)

theorem Going.nextJpeg (h : Going os s) {job : JpegData} {inputJpegQ : List JpegData}
    (hQueue : s.inputJpegQ = job :: inputJpegQ) :
    Going (os ++ []) { s with
      inputJpegQ
      ongoingJpegQ := s.ongoingJpegQ ++ [job]
      thread := .encoding job } := by
  have hFresh := h.ready.fresh
  rw [hQueue] at hFresh
  refine h.move ?_ ?_ rfl ?_ rfl
  · refine List.perm_iff_count.mpr fun g => ?_
    simp only [held, hQueue, List.flatMap_cons, List.flatMap_append, List.flatMap_nil,
      List.append_nil, List.count_append]
    omega
  · intro g hIn
    simp only [keeps, hQueue, List.flatMap_cons, List.flatMap_append, List.flatMap_nil,
      List.append_nil, List.mem_append] at hIn ⊢
    tauto
  · refine ⟨?_, fun f hThread => DataThread.noConfusion hThread, h.ready.reprocessed, ?_,
      h.ready.ids⟩
    · intro job' hThread
      cases hThread
      exact ⟨List.getLast?_concat, hFresh job List.mem_cons_self⟩
    · exact fun job' hIn => hFresh job' (List.mem_cons_of_mem job hIn)

theorem Going.startJob (h : Going os s) {job : JpegData} {jobId : Nat} (hNe : jobId ≠ 0) :
    Going (os ++ []) { s with
      awaiting := s.awaiting ++ [jobId]
      thread := .started job.srcFrame.frame jobId } := by
  refine h.move (.refl _) (List.Subset.refl _) rfl ?_ rfl
  refine ⟨fun _ hThread => DataThread.noConfusion hThread,
    fun _ hThread => DataThread.noConfusion hThread, h.ready.reprocessed, h.ready.fresh, ?_⟩
  intro id hIn
  rcases List.mem_append.mp hIn with hAwaiting | hSaved
  · rcases List.mem_append.mp hAwaiting with hBefore | hLast
    · exact h.ready.ids id (List.mem_append_left _ hBefore)
    · rw [List.mem_singleton.mp hLast]
      exact hNe
  · exact h.ready.ids id (List.mem_append_right _ hSaved)

/-- The data thread has no job. -/
theorem Ready.idle (h : s.Ready) : Ready { s with thread := .idle } :=
  ⟨fun _ hThread => DataThread.noConfusion hThread,
    fun _ hThread => DataThread.noConfusion hThread, h.reprocessed, h.fresh, h.ids⟩

theorem flatMap_stored {α : Type} (g : JpegData → List α)
    (hSame : ∀ (job : JpegData) (jobId : Nat), g { job with jobId } = g job) (frame jobId : Nat)
    (l : List JpegData) :
    (l.map fun job => if job.srcFrame.frame = frame then { job with jobId } else job).flatMap g =
      l.flatMap g := by
  rw [List.flatMap_map]
  congr 1
  funext job
  split
  · exact hSame job jobId
  · rfl

theorem Going.storeJobId (h : Going os s) (frame jobId : Nat) :
    Going (os ++ []) { s with
      ongoingJpegQ := s.ongoingJpegQ.map fun job =>
        if job.srcFrame.frame = frame then { job with jobId } else job
      thread := .idle } := by
  have hFrames := flatMap_stored jobFrames (fun _ _ => rfl) frame jobId s.ongoingJpegQ
  have hKept := flatMap_stored jobKept (fun _ _ => rfl) frame jobId s.ongoingJpegQ
  refine h.move ?_ ?_ rfl ?_ rfl
  · rw [held, held, hFrames]
  · rw [keeps, keeps, hKept]
    exact List.Subset.refl _
  · exact ⟨fun job hThread => DataThread.noConfusion hThread,
      fun f hThread => DataThread.noConfusion hThread, h.ready.reprocessed, h.ready.fresh,
      h.ready.ids⟩

/-- The last entry is the job that failed. -/
theorem Going.encodeFailed (h : Going os s) {job : JpegData} (hThread : s.thread = .encoding job)
    (hMeets : Meets s .encodeFailed) :
    Going (os ++ s.releaseJpegJobData job)
      { s with ongoingJpegQ := s.ongoingJpegQ.dropLast, thread := .idle } := by
  obtain ⟨hLast, -⟩ := h.ready.encoding job hThread
  obtain ⟨front, hQueue⟩ := List.getLast?_eq_some_iff.mp hLast
  have hDrop : s.ongoingJpegQ.dropLast = front := by rw [hQueue, List.dropLast_concat]
  have hFrees := frees_releaseJpegJobData (hMeets job hLast)
  rw [hDrop]
  refine h.free hFrees ?_ ?_ ?_ rfl ?_ rfl
  · refine List.perm_iff_count.mpr fun g => ?_
    simp only [held, hQueue, List.flatMap_append, List.flatMap_singleton, List.count_append]
    omega
  · intro g hIn
    simp only [keeps, hQueue, List.flatMap_append, List.flatMap_singleton, List.mem_append]
    tauto
  · intro g hIn
    simp only [keeps, hQueue, List.flatMap_append, List.flatMap_singleton,
      List.mem_append] at hIn ⊢
    tauto
  · exact ⟨fun job hOther => DataThread.noConfusion hOther,
      fun f hOther => DataThread.noConfusion hOther, h.ready.reprocessed, h.ready.fresh,
      h.ready.ids⟩

theorem RawReturned.processRawImageImpl {p : Parent} {r : RawResults} (h : s.RawReturned f p r) :
    (s.processRawImageImpl f p r = (s, false, []) ∧ s.hasChannel f.chId = true) ∨
      s.processRawImageImpl f p r = ({ s with notified := s.notified ++ [f] }, true, []) := by
  rw [RawReturned] at h
  rw [PostProcessor.processRawImageImpl]
  cases hMem : s.hasRawMem f r with
  | false =>
    rw [hMem] at h
    exact .inl ⟨rfl, h⟩
  | true =>
    rw [hMem] at h
    obtain ⟨hCb, hEnabled, hNotified⟩ := h
    rw [hCb, hEnabled]
    cases hZsl : s.zslChannelUsed f p with
    | false =>
      rw [hZsl] at hNotified
      obtain ⟨hNotify, hFound⟩ := hNotified
      rw [hNotify]
      exact .inl ⟨rfl, hFound⟩
    | true =>
      rw [hZsl] at hNotified
      have hNotify : r.notifyCallback = true := hNotified
      rw [hNotify]
      exact .inr rfl

/-- A superbuf of `m_inputRawQ` is with a notification now, or it was given back. -/
theorem Going.nextRaw (h : Going os s) {inputRawQ : List SuperBuf} {p : Parent} {r : RawResults}
    (hQueue : s.inputRawQ = f :: inputRawQ) (hMeets : Meets s (.nextRaw p r)) :
    let sent := ({ s with inputRawQ } : PostProcessor).processRawImageImpl f p r
    Going (os ++ (sent.2.2 ++ if sent.2.1 then [] else s.giveBack f)) sent.1 := by
  have hReturned : RawReturned { s with inputRawQ } f p r := hMeets f (by rw [hQueue]; rfl)
  have hReady : ∀ notified, Ready { s with inputRawQ, notified } := fun _ =>
    ⟨h.ready.encoding, h.ready.reprocessing, h.ready.reprocessed, h.ready.fresh, h.ready.ids⟩
  dsimp only
  rcases hReturned.processRawImageImpl with ⟨hBack, hFound⟩ | hSent
  · rw [hBack]
    refine h.free (frees_giveBack hFound) ?_ (List.nil_subset _) (List.Subset.refl _) rfl
      (hReady _) rfl
    refine List.perm_iff_count.mpr fun g => ?_
    simp only [held, hQueue, List.count_append, List.count_cons, List.count_nil]
    omega
  · rw [hSent]
    refine h.move ?_ (List.Subset.refl _) rfl (hReady _) rfl
    refine List.perm_iff_count.mpr fun g => ?_
    simp only [held, hQueue, List.count_append, List.count_cons, List.count_nil]
    omega

/-- A superbuf of `m_inputPPQ` is with a job now, or it was given back. -/
theorem Going.nextPP (h : Going os s) {inputPPQ : List SuperBuf} {p : Parent}
    (hQueue : s.inputPPQ = f :: inputPPQ) (hMeets : Meets s (.nextPP p))
    (hNext : (if s.canReprocess f then
      some ({ s with
        inputPPQ
        ongoingPPQ := s.ongoingPPQ ++ [⟨f, p.isRegularCapture⟩]
        thread := .reprocessing f false }, if p.isRegularCapture then [.offline f] else [])
      else some ({ s with inputPPQ }, s.giveBack f)) = some (s', o)) : Going (os ++ o) s' := by
  obtain ⟨hEncoding, hReprocessing, hReprocessed, hFresh, hIds⟩ := h.ready
  split at hNext
  · cases hNext
    have hHeld : (held { s with
        inputPPQ
        ongoingPPQ := s.ongoingPPQ ++ [⟨f, p.isRegularCapture⟩]
        thread := .reprocessing f false }).Perm s.held := by
      refine List.perm_iff_count.mpr fun g => ?_
      simp only [held, hQueue, List.map_append, List.map_cons, List.map_nil, List.count_append,
        List.count_cons, List.count_nil]
      omega
    have hReady : Ready { s with
        inputPPQ
        ongoingPPQ := s.ongoingPPQ ++ [⟨f, p.isRegularCapture⟩]
        thread := .reprocessing f false } := by
      refine ⟨fun _ hThread => DataThread.noConfusion hThread, ?_, ?_, hFresh, hIds⟩
      · intro f' hThread
        cases hThread
        exact ⟨s.ongoingPPQ, _, rfl, rfl, hReprocessed⟩
      · rw [List.length_append]
        exact Nat.le_add_right_of_le hReprocessed
    cases hOffline : p.isRegularCapture with
    | false =>
      rw [hOffline] at hHeld hReady
      refine h.move hHeld ?_ rfl hReady rfl
      intro g hIn
      simp only [keeps, ppKept, List.flatMap_append, List.flatMap_cons, List.flatMap_nil,
        List.append_nil, Bool.false_eq_true, if_false] at hIn ⊢
      exact hIn
    | true =>
      rw [hOffline] at hHeld hReady
      refine ⟨(h.account.reprocessOffline f).move hHeld ?_, hReady, h.running⟩
      intro g hIn
      simp only [keeps, ppKept, List.flatMap_append, List.flatMap_cons, List.flatMap_nil,
        List.append_nil, if_true, List.mem_append, List.mem_cons, List.not_mem_nil,
        or_false] at hIn ⊢
      tauto
  · rename_i hNone
    cases hNext
    have hFound := hMeets f (by rw [hQueue]; rfl) (Bool.eq_false_iff.mpr hNone)
    refine h.free (frees_giveBack hFound) ?_ (List.nil_subset _) (List.Subset.refl _) rfl
      ⟨hEncoding, hReprocessing, hReprocessed, hFresh, hIds⟩ rfl
    refine List.perm_iff_count.mpr fun g => ?_
    simp only [held, hQueue, List.count_append, List.count_cons, List.count_nil]
    omega

theorem Going.reprocessAccepted (h : Going os s) (hThread : s.thread = .reprocessing f false) :
    Going (os ++ []) { s with
      reprocessed := s.reprocessed + 1
      thread := .reprocessing f true } := by
  refine h.move (.refl _) (List.Subset.refl _) rfl ?_ rfl
  obtain ⟨front, job, hQueue, -, hLe⟩ := h.ready.reprocessing f hThread
  refine ⟨fun _ hOther => DataThread.noConfusion hOther, ?_, ?_, h.ready.fresh, h.ready.ids⟩
  · intro f' hOther
    cases hOther
  · rw [hQueue, List.length_append]
    exact Nat.succ_le_succ hLe

/-- The last entry is the job that failed, and no reprocessed superbuf is to come for it. -/
theorem Going.reprocessFailed (h : Going os s) (hThread : s.thread = .reprocessing f false)
    (hMeets : Meets s .reprocessFailed) :
    Going (os ++ s.giveBack f)
      { s with ongoingPPQ := s.ongoingPPQ.dropLast, thread := .idle } := by
  obtain ⟨front, job, hQueue, rfl, hLe⟩ := h.ready.reprocessing f hThread
  have hDrop : s.ongoingPPQ.dropLast = front := by rw [hQueue, List.dropLast_concat]
  have hFound := hMeets job (by rw [hQueue]; exact List.getLast?_concat)
  rw [hDrop]
  refine h.free (frees_giveBack hFound) ?_ (List.nil_subset _) ?_ rfl ?_ rfl
  · refine List.perm_iff_count.mpr fun g => ?_
    simp only [held, hQueue, List.map_append, List.map_cons, List.map_nil, List.count_append,
      List.count_cons, List.count_nil]
    omega
  · intro g hIn
    simp only [keeps, hQueue, List.flatMap_append, List.mem_append] at hIn ⊢
    tauto
  · exact ⟨fun _ hOther => DataThread.noConfusion hOther,
      fun _ hOther => DataThread.noConfusion hOther, hLe, h.ready.fresh, h.ready.ids⟩

theorem Going.releaseCb (h : Going os s) (hIn : f ∈ s.notified)
    (hFound : s.hasChannel f.chId = true) :
    Going (os ++ s.giveBack f) { s with notified := s.notified.erase f } := by
  refine h.free (frees_giveBack hFound) ?_ (List.nil_subset _) (List.Subset.refl _) rfl
    ⟨h.ready.encoding, h.ready.reprocessing, h.ready.reprocessed, h.ready.fresh, h.ready.ids⟩ rfl
  refine List.perm_iff_count.mpr fun g => ?_
  have hCount := (List.perm_cons_erase hIn).count_eq g
  rw [List.count_cons] at hCount
  simp only [held, List.count_append, List.count_cons, List.count_nil]
  omega

theorem hasChannel_of_mem {chId : Nat} (h : chId ∈ s.channels) : s.hasChannel chId = true := by
  simp [hasChannel, h]

theorem frees_giveBack_all {l : List SuperBuf} (h : ∀ f ∈ l, s.hasChannel f.chId = true) :
    Frees (l.flatMap s.giveBack) l [] := by
  have hFrees : Frees (l.flatMap s.giveBack) (l.flatMap fun f => [f]) (l.flatMap fun _ => []) :=
    .flatMap fun f hIn => frees_giveBack (h f hIn)
  rw [List.flatMap_singleton', List.flatMap_eq_nil_iff.mpr fun _ _ => rfl] at hFrees
  exact hFrees

/-- `STOP_DATA_PROC` has given everything back. -/
structure Ended (os : List Event) (s : PostProcessor) : Prop where
  account : Account os s.held s.keeps s.frames
  stopped : s.stopped = true
  nothing : s.held = []

theorem Going.stop (h : Going os s) (hMeets : s.Stops) :
    Ended (os ++ s.stopDataProc.2) s.stopDataProc.1 := by
  obtain ⟨hOngoing, hReprocess, hEncode, hFrames, hNotified⟩ := hMeets
  have hNothing : s.stopDataProc.1.held = [] := hNotified
  refine ⟨?_, rfl, hNothing⟩
  have hLeft : ∀ chId, chId ∈ s.channels → s.tearDown.hasChannel chId = true :=
    fun _ hIn => hasChannel_of_mem hIn
  have hJobs : Frees (s.ongoingJpegQ.flatMap s.releaseJpegJobData)
      (s.ongoingJpegQ.flatMap jobFrames) (s.ongoingJpegQ.flatMap jobKept) :=
    .flatMap fun job hIn => frees_releaseJpegJobData (hOngoing job hIn)
  have hPP : Frees (s.ongoingPPQ.flatMap s.tearDown.releaseOngoingPPData)
      (s.ongoingPPQ.flatMap fun job => [job.srcFrame]) (s.ongoingPPQ.flatMap ppKept) :=
    .flatMap fun job hIn => frees_releaseOngoingPPData fun hRelease =>
      hLeft _ (hReprocess job hIn hRelease)
  have hJpeg : Frees (s.inputJpegQ.flatMap s.tearDown.releaseJpegJobData)
      (s.inputJpegQ.flatMap jobFrames) (s.inputJpegQ.flatMap jobKept) :=
    .flatMap fun job hIn => frees_releaseJpegJobData ⟨hLeft _ (hEncode job hIn).1,
      fun hRelease f hSrc => hLeft _ ((hEncode job hIn).2 hRelease f hSrc)⟩
  have hInput : Frees (s.inputPPQ.flatMap s.tearDown.giveBack) s.inputPPQ [] :=
    frees_giveBack_all fun f hIn => hLeft _ (hFrames f (List.mem_append_left _ hIn))
  have hRaw : Frees (s.inputRawQ.flatMap s.tearDown.giveBack) s.inputRawQ [] :=
    frees_giveBack_all fun f hIn => hLeft _ (hFrames f (List.mem_append_right _ hIn))
  have hFrees := (((hJobs.append hPP).append hJpeg).append hInput).append hRaw
  refine h.account.free hFrees ?_ ?_ (List.nil_subset _)
  · rw [hNothing, List.append_nil, ← List.map_eq_flatMap]
    refine List.perm_iff_count.mpr fun g => ?_
    simp only [held, hNotified, List.count_append, List.count_nil]
    omega
  · intro g hIn
    simp only [keeps, List.append_nil, List.mem_append] at hIn ⊢
    tauto

theorem Going.next (h : Going os s) (hMeets : Meets s i) (hNext : Next s i o s') :
    Going (os ++ o) s' ∨ Ended (os ++ o) s' := by
  have hReady := h.ready
  have hStep := hNext
  rw [Next, step, if_neg (by rw [h.running]; decide)] at hStep
  cases i with
  | processData chId p =>
    rw [stepStarted] at hStep
    cases hStep
    exact .inl (h.acceptData chId p)
  | processRawData chId =>
    rw [stepStarted] at hStep
    cases hStep
    exact .inl (h.processRawData chId)
  | processPPData chId p =>
    rw [stepStarted] at hStep
    split at hStep
    · rename_i hPos
      obtain ⟨job, ongoingPPQ, hQueue, hLess⟩ := hReady.dequeuePP hPos
      have hGoing := Going.acceptPPData (s := { s with reprocessed := s.reprocessed - 1 }) h.account
        h.running hQueue hLess chId p hMeets
      rw [Option.some.inj hStep] at hGoing
      exact .inl hGoing
    · cases hStep
  | reprocessAgain chId p =>
    rw [stepStarted] at hStep
    split at hStep
    · cases hStep
      have hFewer : Going os { s with reprocessed := s.reprocessed - 1 } := by
        refine ⟨h.account, ⟨hReady.encoding, fun f hThread => ?_,
          Nat.le_trans (Nat.sub_le _ _) hReady.reprocessed, hReady.fresh, hReady.ids⟩, h.running⟩
        obtain ⟨front, job, hQueue, hSame, hLe⟩ := hReady.reprocessing f hThread
        exact ⟨front, job, hQueue, hSame, Nat.le_trans (Nat.sub_le _ _) hLe⟩
      exact .inl (hFewer.acceptData chId p)
    · cases hStep
  | jpegEvt jobId isLongshotEnabled =>
    rw [stepStarted] at hStep
    split at hStep
    · exact .inl (h.jpegEvt ‹_› hMeets hNext)
    · cases hStep
  | saveNext =>
    rw [stepStarted] at hStep
    split at hStep
    · cases hStep
    · cases hStep
      exact .inl (h.saveNext ‹_› hMeets)
  | nextJpeg =>
    rw [stepStarted] at hStep
    split at hStep
    · cases hStep
      exact .inl (h.nextJpeg ‹_›)
    · cases hStep
  | startJob jobId =>
    rw [stepStarted] at hStep
    split at hStep
    · split at hStep
      · cases hStep
        exact .inl (h.startJob ‹_›)
      · cases hStep
    · cases hStep
  | storeJobId =>
    rw [stepStarted] at hStep
    split at hStep
    · cases hStep
      exact .inl (h.storeJobId _ _)
    · cases hStep
  | depthMap =>
    rw [stepStarted] at hStep
    split at hStep
    · cases hStep
      exact .inl (h.move (.refl _) (List.Subset.refl _) rfl hReady.idle rfl)
    · cases hStep
  | encodeFailed =>
    rw [stepStarted] at hStep
    split at hStep
    · cases hStep
      exact .inl (h.encodeFailed ‹_› hMeets)
    · cases hStep
  | nextRaw p r =>
    rw [stepStarted] at hStep
    split at hStep
    · cases hStep
      exact .inl (h.nextRaw ‹_› hMeets)
    · cases hStep
  | nextPP p =>
    rw [stepStarted] at hStep
    split at hStep
    · exact .inl (h.nextPP ‹_› hMeets hStep)
    · cases hStep
  | reprocessAccepted =>
    rw [stepStarted] at hStep
    split at hStep
    · cases hStep
      exact .inl (h.reprocessAccepted ‹_›)
    · cases hStep
  | reprocessDone =>
    rw [stepStarted] at hStep
    split at hStep
    · cases hStep
      exact .inl (h.move (.refl _) (List.Subset.refl _) rfl hReady.idle rfl)
    · cases hStep
  | reprocessFailed =>
    rw [stepStarted] at hStep
    split at hStep
    · cases hStep
      exact .inl (h.reprocessFailed ‹_› hMeets)
    · cases hStep
  | releaseCb f =>
    rw [stepStarted] at hStep
    split at hStep
    · cases hStep
      exact .inl (h.releaseCb ‹_› hMeets)
    · cases hStep
  | delChannel chId =>
    rw [stepStarted] at hStep
    cases hStep
    exact .inl (h.move (.refl _) (List.Subset.refl _) rfl ⟨hReady.encoding, hReady.reprocessing,
      hReady.reprocessed, hReady.fresh, hReady.ids⟩ rfl)
  | stop =>
    rw [stepStarted] at hStep
    split at hStep
    · have hEnded := h.stop hMeets
      rw [Option.some.inj hStep] at hEnded
      exact .inr hEnded
    · cases hStep

/-! ### Runs -/

/-- The runs whose steps all meet the condition. -/
abbrev MeetingRun (s₀ : PostProcessor) (is : List Input) (os : List Event) (s : PostProcessor) :
    Prop :=
  Lib.Steps Next (fun _ _ s i _ => Meets s i) s₀ is os s

theorem sound_of_run {mUseSaveProc : Bool} {channels : List Nat}
    {reprocChannel dualReprocChannel : Option ReprocessChannel} {is : List Input}
    (run : MeetingRun (start mUseSaveProc channels reprocChannel dualReprocChannel) is os s) :
    Going os s ∨ Ended os s := by
  apply run.history (I := fun _ os s => Going os s ∨ Ended os s) (.inl (going_start _ _ _ _))
  intro is os s i o s' hMeets h hNext
  rcases h with hGoing | hEnded
  · exact hGoing.next hMeets hNext
  · rw [Next, step, if_pos hEnded.stopped] at hNext
    cases hNext

/-- In every run whose steps meet the condition, a superbuf that was accepted is held by one entry
or was freed once; it was released to its channel once when it was freed, or an offline reprocess
keeps it; and `STOP_DATA_PROC` leaves nothing. -/
theorem frames_conserved {mUseSaveProc : Bool} {channels : List Nat}
    {reprocChannel dualReprocChannel : Option ReprocessChannel} {is : List Input}
    (run : MeetingRun (start mUseSaveProc channels reprocChannel dualReprocChannel) is os s) :
    (freed os ++ s.held).Perm (accepted os) ∧
    (freed os ++ s.held).Nodup ∧
    (released os ++ kept os).Perm (freed os) ∧
    (∀ f ∈ kept os, f ∈ offline os) ∧
    notFound os = [] ∧
    (s.stopped = true → s.held = []) := by
  have h : Account os s.held s.keeps s.frames ∧ (s.stopped = true → s.held = []) := by
    rcases sound_of_run run with hGoing | hEnded
    · exact ⟨hGoing.account, fun hStopped => absurd hStopped (by rw [hGoing.running]; decide)⟩
    · exact ⟨hEnded.account, fun _ => hEnded.nothing⟩
  obtain ⟨hAccount, hStopped⟩ := h
  have hNodup : (accepted os).Nodup := by
    refine List.Nodup.of_map SuperBuf.frame ?_
    rw [hAccount.numbered]
    exact List.nodup_range
  exact ⟨hAccount.once, hAccount.once.nodup_iff.mpr hNodup, hAccount.returned,
    fun f hIn => hAccount.offline f (List.mem_append_left _ hIn), hAccount.found, hStopped⟩

theorem MeetingRun.next {s₀ : PostProcessor} {is : List Input} {q : PostProcessor × List Event}
    (run : MeetingRun s₀ is os s) (i : Input) (hMeets : Meets s i) (h : s.step i = some q) :
    MeetingRun s₀ (is ++ [i]) (os ++ q.2) q.1 :=
  run.step hMeets h

/-- A picture of a ZSL channel that is reprocessed and goes to the encoder. -/
def zslJpeg : Parent where
  needReprocess := true
  isNVPictureFormat := false
  generateThumbFromMain := false
  isRegularCapture := false
  isZSLMode := true
  mDataCb := true
  compressedImageEnabled := true

/-- The superbuf 0 of channel 1 is reprocessed, and the superbuf 1 of channel 2 is encoded. -/
theorem frames_conserved_picture : ∃ (os : List Event) (s : PostProcessor),
    accepted os = [⟨0, 1⟩, ⟨1, 2⟩] ∧ freed os = [⟨0, 1⟩, ⟨1, 2⟩] ∧ s.stopped = true ∧
      (freed os ++ s.held).Perm (accepted os) ∧ (released os ++ kept os).Perm (freed os) ∧
        (s.stopped = true → s.held = []) := by
  have run₀ : MeetingRun (start false [1] (some ⟨2, 1⟩) none) [] [] _ := .start
  have run₁ := run₀.next (.processData 1 zslJpeg) trivial rfl
  have run₂ := run₁.next (.nextPP zslJpeg) (fun f hIn _ => by cases hIn; rfl) rfl
  have run₃ := run₂.next .reprocessAccepted trivial rfl
  have run₄ := run₃.next (.processPPData 2 zslJpeg)
    (fun _ hFormat => absurd hFormat (by decide)) rfl
  have run₅ := run₄.next .reprocessDone trivial rfl
  have run₆ := run₅.next .nextJpeg trivial rfl
  have run₇ := run₆.next (.startJob 5) trivial rfl
  have run₈ := run₇.next .storeJobId trivial rfl
  have run₉ := run₈.next (.jpegEvt 5 false)
    (fun _ job hIn _ => by
      rw [List.mem_singleton.mp hIn]
      exact ⟨rfl, fun _ f hSrc => by cases hSrc; rfl⟩) rfl
  have hNone : ∀ {α : Type} {p : α → Prop} (x : α), x ∈ ([] : List α) → p x :=
    fun _ hIn => absurd hIn List.not_mem_nil
  have run₁₀ := run₉.next .stop ⟨hNone, hNone, hNone, hNone, rfl⟩ rfl
  obtain ⟨hOnce, -, hReturned, -, -, hStopped⟩ := frames_conserved run₁₀
  exact ⟨_, _, rfl, rfl, rfl, hOnce, hReturned, hStopped⟩

abbrev AnyRun (s₀ : PostProcessor) (is : List Input) (os : List Event) (s : PostProcessor) : Prop :=
  Lib.Steps Next Lib.anyStep s₀ is os s

theorem AnyRun.next {s₀ : PostProcessor} {is : List Input} {q : PostProcessor × List Event}
    (run : AnyRun s₀ is os s) (i : Input) (h : s.step i = some q) :
    AnyRun s₀ (is ++ [i]) (os ++ q.2) q.1 :=
  run.step trivial h

def rawTaken : RawResults := ⟨true, true, true, true⟩

/-- A raw superbuf without ZSL is neither held nor given back when its picture is delivered; one of
a ZSL channel is given back twice when the notification is not accepted; and a reprocessed superbuf
that waits for the encoder does not find its channel when `STOP_DATA_PROC` flushes it. -/
theorem frame_lost :
    (∃ (is : List Input) (os : List Event) (s : PostProcessor),
      AnyRun (start false [1] none none) is os s ∧ accepted os = [⟨0, 1⟩] ∧ freed os = [] ∧
        s.held = []) ∧
    (∃ (is : List Input) (os : List Event) (s : PostProcessor),
      AnyRun (start false [1] none none) is os s ∧ accepted os = [⟨0, 1⟩] ∧
        released os = [⟨0, 1⟩, ⟨0, 1⟩] ∧ freed os = [⟨0, 1⟩, ⟨0, 1⟩]) ∧
    ∃ (is : List Input) (os : List Event) (s : PostProcessor),
      AnyRun (start false [1] (some ⟨2, 1⟩) none) is os s ∧
        accepted os = [⟨0, 1⟩, ⟨1, 2⟩] ∧ s.stopped = true ∧ notFound os = [⟨1, 2⟩] := by
  refine ⟨?_, ?_, ?_⟩
  · have run₀ : AnyRun (start false [1] none none) [] [] _ := .start
    have run₁ := run₀.next (.processRawData 1) rfl
    have run₂ := run₁.next (.nextRaw { zslJpeg with isZSLMode := false } rawTaken) rfl
    exact ⟨_, _, _, run₂, rfl, rfl, rfl⟩
  · have run₀ : AnyRun (start false [1] none none) [] [] _ := .start
    have run₁ := run₀.next (.processRawData 1) rfl
    have run₂ := run₁.next (.nextRaw zslJpeg { rawTaken with notifyCallback := false }) rfl
    exact ⟨_, _, _, run₂, rfl, rfl, rfl⟩
  · have run₀ : AnyRun (start false [1] (some ⟨2, 1⟩) none) [] [] _ := .start
    have run₁ := run₀.next (.processData 1 zslJpeg) rfl
    have run₂ := run₁.next (.nextPP zslJpeg) rfl
    have run₃ := run₂.next .reprocessAccepted rfl
    have run₄ := run₃.next .reprocessDone rfl
    have run₅ := run₄.next (.processPPData 2 zslJpeg) rfl
    have run₆ := run₅.next .stop rfl
    exact ⟨_, _, _, run₆, rfl, rfl, rfl⟩

end PostProcessor

end KiwiDevice.Hal.Frames

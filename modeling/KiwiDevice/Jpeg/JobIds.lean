import KiwiDevice.Jpeg.Clients
import KiwiDevice.Jpeg.JobWakeup
import KiwiDevice.Lib.Words

/-!
# The ids of encode jobs

`mm_jpeg_start_job` composes the id of a job from the session id and the history counter of the
session, and `mm_jpeg_abort_job` looks a job up by it. The magic byte of the session id is bit 24,
which is bit 8 of the counter after the shift.
-/

namespace KiwiDevice.Jpeg

def MM_JPEG_MAX_SESSION : Nat := 10

def GET_CLIENT_IDX (x : Nat) : Nat := x &&& 0xff
def GET_SESSION_IDX (x : Nat) : Nat := (x >>> 8) &&& 0xff

/-- The part of a session that `mm_jpeg_start_job` reads and writes for the id. -/
structure JobSlot where
  sessionIdx : Nat
  clientIdx : Nat
  active : Bool
  numSrcBufs : Nat
  numDstBufs : Nat
  jobHist : BitVec 32

/-- A call of `mm_jpeg_start_job`: whether the work buffers are ready and the node is allocated. -/
structure StartCall where
  buffersOk : Bool
  srcIndex : Int
  dstIndex : Int
  nodeOk : Bool

namespace JobSlot

variable (slot : JobSlot)

def key : Nat := slot.sessionIdx <<< 8 ||| slot.clientIdx

/-- The session id as `mm_jpeg_create_session` composes it. -/
def sessionId : Nat := sessionIdOf slot.key

def Accepts (call : StartCall) : Prop :=
  call.buffersOk = true ∧ slot.active = true ∧
    call.srcIndex < slot.numSrcBufs ∧ call.dstIndex < slot.numDstBufs ∧ call.nodeOk = true

instance (call : StartCall) : Decidable (slot.Accepts call) :=
  inferInstanceAs (Decidable (_ ∧ _))

/-- The id is given out whether or not `mm_jpeg_queue_enq` then finds room for its node, and
`job_hist++` wraps at the width of an `unsigned int`. -/
def startJob (call : StartCall) : Option Nat × JobSlot :=
  if slot.Accepts call then
    (some (jobIdOf slot.sessionId slot.jobHist.toNat), { slot with jobHist := slot.jobHist + 1 })
  else (none, slot)

/-- The ids that a run of calls gives out, in order. -/
def startJobs (slot : JobSlot) : List StartCall → List Nat
  | [] => []
  | call :: calls =>
    (slot.startJob call).1.toList ++ startJobs (slot.startJob call).2 calls

/-- Both indices are inside the tables of the object. -/
structure InRange : Prop where
  session : slot.sessionIdx < MM_JPEG_MAX_SESSION
  client : slot.clientIdx < MAX_JPEG_CLIENT_NUM

end JobSlot

/-- A node of `job_queue`: the number of the job in its run, and its id. -/
structure QueuedJob where
  serial : Nat
  jobId : Nat
deriving DecidableEq

def removeJobByJobId (queue : List QueuedJob) (jobId : Nat) : Option QueuedJob × List QueuedJob :=
  (queue.find? fun job => job.jobId = jobId, queue.eraseP fun job => job.jobId = jobId)

/-- The job is one of the `JOB_HIST_MAX` jobs from `start` on. -/
structure InWindow (ids : List Nat) (start : Nat) (job : QueuedJob) : Prop where
  from_start : start ≤ job.serial
  to_end : job.serial < start + JOB_HIST_MAX
  id_eq : ids[job.serial]? = some job.jobId

/-- What the ids of a run are for. The queue may hold jobs of other sessions too. -/
structure IdentifyJobs (slot : JobSlot) (ids : List Nat) : Prop where
  distinct : ∀ i j a b, i < j → j < i + JOB_HIST_MAX → ids[i]? = some a → ids[j]? = some b → a ≠ b
  session : ∀ a ∈ ids, GET_SESSION_IDX a = slot.sessionIdx
  client : ∀ a ∈ ids, GET_CLIENT_IDX a = slot.clientIdx
  removes : ∀ start queue,
    (∀ job ∈ queue, InWindow ids start job ∨ keyOf job.jobId ≠ slot.key) →
    ∀ job ∈ queue, InWindow ids start job →
      removeJobByJobId queue job.jobId = (some job, queue.erase job)

/-- Bit 8 of the reduced counter is clear, and the next 256 jobs pass neither `JOB_HIST_MAX` nor the
width of the counter: the 256th of them differs in that bit only. -/
structure Repeats (hist : Nat) : Prop where
  bit_clear : hist % 2 ^ 32 % JOB_HIST_MAX / 256 % 2 = 0
  below_max : hist % 2 ^ 32 % JOB_HIST_MAX + 256 < JOB_HIST_MAX
  below_width : hist % 2 ^ 32 + 256 < 2 ^ 32

/-! ### The fields of an id -/

section Fields

variable {slot : JobSlot} {h h' : Nat}

theorem JobSlot.key_eq (hRange : slot.InRange) :
    slot.key = slot.sessionIdx * 256 + slot.clientIdx := by
  have hClient : slot.clientIdx < 2 ^ 8 := lt_trans hRange.client (by decide)
  rw [JobSlot.key, ← Nat.shiftLeft_add_eq_or_of_lt hClient, Nat.shiftLeft_eq]

theorem JobSlot.key_lt (hRange : slot.InRange) : slot.key < 2 ^ 16 := by
  have hSession : slot.sessionIdx < 10 := hRange.session
  have hClient : slot.clientIdx < 8 := hRange.client
  rw [JobSlot.key_eq hRange]
  omega

theorem getClientIdx_eq (x : Nat) : GET_CLIENT_IDX x = keyOf x % 256 := by
  rw [GET_CLIENT_IDX, keyOf, Nat.and_two_pow_sub_one_eq_mod x 8]
  omega

theorem getSessionIdx_eq (x : Nat) : GET_SESSION_IDX x = keyOf x / 256 := by
  rw [GET_SESSION_IDX, keyOf, Nat.and_two_pow_sub_one_eq_mod _ 8, Nat.shiftRight_eq_div_pow]
  omega

theorem getClientIdx_jobIdOf (hRange : slot.InRange) (h : Nat) :
    GET_CLIENT_IDX (jobIdOf slot.sessionId h) = slot.clientIdx := by
  have hClient : slot.clientIdx < 8 := hRange.client
  rw [getClientIdx_eq, JobSlot.sessionId, keyOf_jobIdOf (JobSlot.key_lt hRange),
    JobSlot.key_eq hRange]
  omega

theorem getSessionIdx_jobIdOf (hRange : slot.InRange) (h : Nat) :
    GET_SESSION_IDX (jobIdOf slot.sessionId h) = slot.sessionIdx := by
  have hClient : slot.clientIdx < 8 := hRange.client
  rw [getSessionIdx_eq, JobSlot.sessionId, keyOf_jobIdOf (JobSlot.key_lt hRange),
    JobSlot.key_eq hRange]
  omega

/-- The magic byte hides bit 8 of the reduced counter. -/
theorem testBit_jobIdOf {k : Nat} (hKey : k < 2 ^ 16) (h i : Nat) :
    (jobIdOf (sessionIdOf k) h).testBit (16 + i) =
      (decide (i = 8) || (h % JOB_HIST_MAX).testBit i) := by
  have hHigh : k.testBit (16 + i) = false :=
    Nat.testBit_lt_two_pow (lt_of_lt_of_le hKey (Nat.pow_le_pow_right (by decide) (by omega)))
  have hMagic : (1 <<< 24 : Nat).testBit (16 + i) = decide (i = 8) := by
    rw [Nat.one_shiftLeft, Nat.testBit_two_pow]
    exact decide_eq_decide.mpr (by omega)
  rw [jobIdOf, sessionIdOf, Nat.testBit_or, Nat.testBit_or, hMagic, hHigh, Nat.testBit_shiftLeft,
    Nat.add_sub_cancel_left]
  simp

theorem jobIdOf_eq_iff {k : Nat} (hKey : k < 2 ^ 16) :
    jobIdOf (sessionIdOf k) h = jobIdOf (sessionIdOf k) h' ↔
      h % JOB_HIST_MAX % 2 ^ 8 = h' % JOB_HIST_MAX % 2 ^ 8 ∧
        h % JOB_HIST_MAX / 2 ^ 9 = h' % JOB_HIST_MAX / 2 ^ 9 := by
  rw [← Lib.testBit_eq_of_ne_iff]
  constructor
  · intro hSame i hNe
    have hBit := testBit_jobIdOf hKey h i
    rw [hSame, testBit_jobIdOf hKey h' i] at hBit
    simpa [hNe] using hBit.symm
  · intro hBits
    apply Nat.eq_of_testBit_eq
    intro i
    rcases lt_or_ge i 16 with hBelow | hAbove
    · have hKeys := (keyOf_jobIdOf hKey h).trans (keyOf_jobIdOf hKey h').symm
      have hBit := congrArg (fun n => n.testBit i) hKeys
      simpa only [keyOf, Nat.testBit_mod_two_pow, hBelow, decide_true, Bool.true_and] using hBit
    · obtain ⟨i, rfl⟩ := Nat.exists_eq_add_of_le hAbove
      rw [testBit_jobIdOf hKey, testBit_jobIdOf hKey]
      by_cases hMagic : i = 8
      · simp [hMagic]
      · rw [hBits i hMagic]

end Fields

/-! ### Counters of a run -/

/-- The reduced counters of two jobs differ in bit 8 at most. -/
def SameId (h h' : Nat) : Prop :=
  h % 2 ^ 32 % JOB_HIST_MAX % 2 ^ 8 = h' % 2 ^ 32 % JOB_HIST_MAX % 2 ^ 8 ∧
    h % 2 ^ 32 % JOB_HIST_MAX / 2 ^ 9 = h' % 2 ^ 32 % JOB_HIST_MAX / 2 ^ 9

theorem Repeats.sameId {h : Nat} (hRepeats : Repeats h) : SameId h (h + 256) := by
  obtain ⟨hBit, hMax, hWidth⟩ := hRepeats
  simp only [SameId, JOB_HIST_MAX] at *
  omega

theorem repeats_of_residue {h v : Nat} (hValue : h % 2 ^ 32 = v) (hWidth : v + 256 < 2 ^ 32)
    (hResidue : v % JOB_HIST_MAX = 0 ∨ v % JOB_HIST_MAX = 512) : Repeats h := by
  constructor
  · rcases hResidue with hZero | hBlock
    · rw [hValue, hZero]
    · rw [hValue, hBlock]
  · rcases hResidue with hZero | hBlock
    · rw [hValue, hZero]
      decide
    · rw [hValue, hBlock]
      decide
  · rwa [hValue]

theorem mod_add_of_lt {h t : Nat} (hIn : h % 2 ^ 32 + t < 2 ^ 32) :
    (h + t) % 2 ^ 32 = h % 2 ^ 32 + t := by
  omega

theorem mod_add_of_le {h t d : Nat} (hLe : t + 256 ≤ d) (hIn : h % 2 ^ 32 + d < 2 ^ 32) :
    (h + t) % 2 ^ 32 = h % 2 ^ 32 + t ∧ h % 2 ^ 32 + t + 256 < 2 ^ 32 := by
  omega

/-- Past `JOB_HIST_MAX` the residue comes back lower, by 256 in nearly a whole window only. -/
theorem window_of_residue {r d : Nat} (hWindow : d < 10000) (hPast : 10000 ≤ r + d)
    (hLow : r % 2 ^ 8 = (r + d - 10000) % 2 ^ 8) (hHigh : r / 2 ^ 9 = (r + d - 10000) / 2 ^ 9) :
    d = 9744 := by
  omega

theorem exists_residue {v : Nat} : ∃ t, t + 256 ≤ 9744 ∧
    (v % 10000 ≤ 512 → (v + t) % 10000 = 512) ∧ (512 < v % 10000 → (v + t) % 10000 = 0) := by
  rcases le_or_gt (v % 10000) 512 with hStart | hStart
  · obtain ⟨t, hT⟩ : ∃ t, v % 10000 + t = 512 := ⟨_, Nat.add_sub_cancel' hStart⟩
    exact ⟨t, by omega, by omega, by omega⟩
  · obtain ⟨t, hT⟩ : ∃ t, v % 10000 + t = 10000 :=
      ⟨_, Nat.add_sub_cancel' (Nat.mod_lt _ (by decide)).le⟩
    exact ⟨t, by omega, by omega, by omega⟩

/-- Two jobs of one window share an id only if jobs 256 apart do. -/
theorem SameId.repeats {h d : Nat} (hPos : 0 < d) (hWindow : d < JOB_HIST_MAX)
    (hSame : SameId h (h + d)) : ∃ t, t + 256 ≤ d ∧ Repeats (h + t) := by
  obtain ⟨hLow, hHigh⟩ := hSame
  simp only [JOB_HIST_MAX] at hLow hHigh hWindow
  rcases lt_or_ge (h % 2 ^ 32 + d) (2 ^ 32) with hIn | hWrap
  · rw [mod_add_of_lt hIn] at hLow hHigh
    rcases lt_or_ge (h % 2 ^ 32 % 10000 + d) 10000 with hBelow | hPast
    · have hResidue : (h % 2 ^ 32 + d) % 10000 = h % 2 ^ 32 % 10000 + d := by omega
      rw [hResidue] at hLow hHigh
      have hNear : d = 256 ∧ h % 2 ^ 32 % 10000 / 256 % 2 = 0 := by omega
      rw [hNear.1] at hIn hBelow
      exact ⟨0, hNear.1.ge, hNear.2, hBelow, hIn⟩
    · have hResidue : (h % 2 ^ 32 + d) % 10000 = h % 2 ^ 32 % 10000 + d - 10000 := by omega
      rw [hResidue] at hLow hHigh
      have hFar := window_of_residue hWindow hPast hLow hHigh
      obtain ⟨t, hRoom, hBlock, hZero⟩ := exists_residue (v := h % 2 ^ 32)
      have hLe : t + 256 ≤ d := hRoom.trans hFar.ge
      obtain ⟨hValue, hWidth⟩ := mod_add_of_le hLe hIn
      refine ⟨t, hLe, repeats_of_residue hValue hWidth ?_⟩
      exact (le_or_gt (h % 2 ^ 32 % 10000) 512).elim (fun hLe => Or.inr (hBlock hLe))
        fun hGt => Or.inl (hZero hGt)
  · have hLater : (h + d) % 2 ^ 32 + 2 ^ 32 = h % 2 ^ 32 + d := by omega
    rcases le_or_gt 256 ((h + d) % 2 ^ 32) with hRoom | hShort
    · obtain ⟨t, hT⟩ : ∃ t, h % 2 ^ 32 + t = 2 ^ 32 :=
        ⟨_, Nat.add_sub_cancel' (Nat.mod_lt _ (by decide)).le⟩
      have hStart : (h + t) % 2 ^ 32 = 0 := by omega
      exact ⟨t, by omega, repeats_of_residue hStart (by decide) (Or.inl rfl)⟩
    · have hResidue : (h + d) % 2 ^ 32 % 10000 = (h + d) % 2 ^ 32 := by omega
      rw [hResidue] at hLow hHigh
      have hStart : h % 2 ^ 32 % 10000 ≤ 512 := by omega
      obtain ⟨t, hT⟩ : ∃ t, h % 2 ^ 32 % 10000 + t = 512 := ⟨_, Nat.add_sub_cancel' hStart⟩
      have hLe : t + 256 ≤ d := by omega
      have hWidth : h % 2 ^ 32 + t + 256 < 2 ^ 32 := by omega
      have hBlock : (h % 2 ^ 32 + t) % 10000 = 512 := by omega
      exact ⟨t, hLe, repeats_of_residue (mod_add_of_lt (by omega)) hWidth (Or.inr hBlock)⟩

/-! ### Runs of calls -/

namespace JobSlot

variable {slot : JobSlot}

/-- The `t`-th job of a run draws the `t`-th value of the counter. -/
theorem startJobs_eq (slot : JobSlot) (calls : List StartCall) :
    slot.startJobs calls =
      (List.range (calls.countP fun call => slot.Accepts call)).map fun t =>
        jobIdOf slot.sessionId ((slot.jobHist.toNat + t) % 2 ^ 32) := by
  induction calls generalizing slot with
  | nil => rfl
  | cons call calls ih =>
    rw [startJobs, ih, List.countP_cons]
    by_cases hAccepts : slot.Accepts call
    · have hNext (t : Nat) :
          ((slot.jobHist + 1).toNat + t) % 2 ^ 32 = (slot.jobHist.toNat + (t + 1)) % 2 ^ 32 := by
        rw [BitVec.toNat_add, Nat.mod_add_mod, Nat.add_assoc, Nat.add_comm t 1]
        rfl
      have hFirst : (slot.jobHist.toNat + 0) % 2 ^ 32 = slot.jobHist.toNat :=
        Nat.mod_eq_of_lt slot.jobHist.isLt
      have hSame : (slot.startJob call).2 = { slot with jobHist := slot.jobHist + 1 } := by
        rw [startJob, if_pos hAccepts]
      rw [hSame, startJob, if_pos hAccepts, if_pos (decide_eq_true hAccepts),
        List.range_succ_eq_map, List.map_cons, List.map_map, hFirst]
      apply congrArg (_ :: ·)
      apply List.map_congr_left
      intro t _
      exact congrArg (jobIdOf slot.sessionId) (hNext t)
    · simp [startJob, hAccepts]

theorem getElem?_startJobs {calls : List StartCall} {i a : Nat} :
    (slot.startJobs calls)[i]? = some a ↔
      i < calls.countP (fun call => slot.Accepts call) ∧
        jobIdOf slot.sessionId ((slot.jobHist.toNat + i) % 2 ^ 32) = a := by
  rw [startJobs_eq, List.getElem?_map]
  rcases lt_or_ge i (calls.countP fun call => slot.Accepts call) with hIn | hOut
  · simp [hIn]
  · simp [hOut.not_gt]

theorem startJobs_ids {calls : List StartCall} {a : Nat} (hMem : a ∈ slot.startJobs calls) :
    ∃ h, a = jobIdOf slot.sessionId h := by
  rw [startJobs_eq] at hMem
  obtain ⟨t, -, rfl⟩ := List.mem_map.mp hMem
  exact ⟨_, rfl⟩

end JobSlot

/-- A lookup by an id that no other node of the queue has. -/
theorem removeJobByJobId_eq {queue : List QueuedJob} {job : QueuedJob} (hMem : job ∈ queue)
    (hOnly : ∀ other ∈ queue, other.jobId = job.jobId → other = job) :
    removeJobByJobId queue job.jobId = (some job, queue.erase job) := by
  induction queue with
  | nil => cases hMem
  | cons first rest ih =>
    by_cases hFirst : first = job
    · subst hFirst
      simp [removeJobByJobId]
    · have hNe : first.jobId ≠ job.jobId := fun hSame =>
        hFirst (hOnly first List.mem_cons_self hSame)
      have hRest := ih ((List.mem_cons.mp hMem).resolve_left (Ne.symm hFirst))
        fun other hOther => hOnly other (List.mem_cons_of_mem _ hOther)
      rw [removeJobByJobId, Prod.mk.injEq] at hRest
      rw [removeJobByJobId, List.find?_cons_of_neg (by simpa using hNe),
        List.eraseP_cons_of_neg (by simpa using hNe), hRest.1, hRest.2,
        List.erase_cons_tail (by simpa using hFirst)]

theorem identifyJobs_iff (slot : JobSlot) (hRange : slot.InRange) (calls : List StartCall) :
    IdentifyJobs slot (slot.startJobs calls) ↔
      ∀ t, t + 256 < calls.countP (fun call => slot.Accepts call) →
        ¬Repeats (slot.jobHist.toNat + t) := by
  have hKey := JobSlot.key_lt hRange
  constructor
  · intro hIdentify t hCount hRepeats
    have hWindow : t + 256 < t + JOB_HIST_MAX := by
      rw [JOB_HIST_MAX]
      omega
    have hFirst := JobSlot.getElem?_startJobs.mpr
      ⟨lt_of_le_of_lt (Nat.le_add_right t 256) hCount, rfl⟩
    have hSecond := JobSlot.getElem?_startJobs.mpr ⟨hCount, rfl⟩
    have hSame := hRepeats.sameId
    rw [Nat.add_assoc] at hSame
    exact hIdentify.distinct t (t + 256) _ _ (Nat.lt_add_of_pos_right (by decide)) hWindow
      hFirst hSecond ((jobIdOf_eq_iff hKey).mpr hSame)
  · intro hNever
    have hDistinct : ∀ i j a b, i < j → j < i + JOB_HIST_MAX →
        (slot.startJobs calls)[i]? = some a → (slot.startJobs calls)[j]? = some b → a ≠ b := by
      intro i j a b hLt hWindow hFirst hSecond hSame
      obtain ⟨-, rfl⟩ := JobSlot.getElem?_startJobs.mp hFirst
      obtain ⟨hCount, rfl⟩ := JobSlot.getElem?_startJobs.mp hSecond
      obtain ⟨d, rfl⟩ := Nat.exists_eq_add_of_lt hLt
      have hSameId : SameId (slot.jobHist.toNat + i) (slot.jobHist.toNat + i + (d + 1)) := by
        rw [show slot.jobHist.toNat + i + (d + 1) = slot.jobHist.toNat + (i + d + 1) by omega]
        exact (jobIdOf_eq_iff hKey).mp hSame
      obtain ⟨t, hIn, hRepeats⟩ := hSameId.repeats (by omega) (by omega)
      apply hNever (i + t) (by omega)
      rwa [← Nat.add_assoc]
    constructor
    · exact hDistinct
    · intro a hMem
      obtain ⟨h, rfl⟩ := JobSlot.startJobs_ids hMem
      exact getSessionIdx_jobIdOf hRange h
    · intro a hMem
      obtain ⟨h, rfl⟩ := JobSlot.startJobs_ids hMem
      exact getClientIdx_jobIdOf hRange h
    · intro start queue hQueue job hMem hIn
      apply removeJobByJobId_eq hMem
      intro other hOther hSame
      rcases hQueue other hOther with hOtherIn | hForeign
      · have hSerial : other.serial = job.serial := by
          rcases lt_trichotomy other.serial job.serial with hLt | hEq | hGt
          · exact absurd hSame (hDistinct _ _ _ _ hLt
              (by have := hIn.to_end; have := hOtherIn.from_start; omega)
              hOtherIn.id_eq hIn.id_eq)
          · exact hEq
          · exact absurd hSame.symm (hDistinct _ _ _ _ hGt
              (by have := hOtherIn.to_end; have := hIn.from_start; omega)
              hIn.id_eq hOtherIn.id_eq)
        cases other
        cases job
        simp_all
      · obtain ⟨h, hId⟩ := JobSlot.startJobs_ids (List.mem_of_getElem? hIn.id_eq)
        rw [hSame, hId] at hForeign
        exact absurd (keyOf_jobIdOf hKey h) hForeign

/-- The first session of the first client, before its first job. -/
def freshSlot : JobSlot where
  sessionIdx := 0
  clientIdx := 0
  active := true
  numSrcBufs := 1
  numDstBufs := 1
  jobHist := 0

def firstBuffers : StartCall where
  buffersOk := true
  srcIndex := 0
  dstIndex := 0
  nodeOk := true

theorem freshSlot_inRange : freshSlot.InRange where
  session := by decide
  client := by decide

theorem identifyJobs_of_two :
    IdentifyJobs freshSlot (freshSlot.startJobs [firstBuffers, firstBuffers]) :=
  (identifyJobs_iff freshSlot freshSlot_inRange [firstBuffers, firstBuffers]).mpr
    fun t hCount => absurd hCount (by
      simp [JobSlot.Accepts, freshSlot, firstBuffers])

/-- The first job and the 257th have the id `0x01000000`. -/
theorem first_job_repeated : ¬∀ slot : JobSlot, slot.InRange →
    ∀ calls, IdentifyJobs slot (slot.startJobs calls) := by
  intro hAll
  have hIdentify := hAll freshSlot freshSlot_inRange (List.replicate 257 firstBuffers)
  have hCount : (List.replicate 257 firstBuffers).countP (fun call => freshSlot.Accepts call) =
      257 := by
    rw [List.countP_replicate, if_pos (by decide)]
  exact hIdentify.distinct 0 256 _ _ (by decide) (by decide)
    (JobSlot.getElem?_startJobs.mpr ⟨by rw [hCount]; decide, rfl⟩)
    (JobSlot.getElem?_startJobs.mpr ⟨by rw [hCount]; decide, rfl⟩) (by decide)

end KiwiDevice.Jpeg

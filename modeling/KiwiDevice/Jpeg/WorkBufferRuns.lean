import KiwiDevice.Jpeg.WorkBuffers

/-!
# Jobs with work buffers that are too small

The work buffers are kept as long as the area of the pictures stays the same, so a job can find a
buffer that was made for another shape, and a failed allocation leaves a counted buffer behind. A
call that meets neither keeps every unfinished job on a buffer of its size.
-/

namespace KiwiDevice.Jpeg

open Lib (roundUp)

def EncodeJob.workSize (job : EncodeJob) : Nat :=
  roundUp job.width.toNat 64 * roundUp job.height.toNat 64 * 3 / 2

/-- The sizes that the call computes stay within 32 bits. -/
structure EncodeJob.NoOverflow (job : EncodeJob) : Prop where
  width : job.width.toNat + 63 < 2 ^ 32
  height : job.height.toNat + 63 < 2 ^ 32
  size : roundUp job.width.toNat 64 * roundUp job.height.toNat 64 * 3 < 2 ^ 32

namespace JobEncoder

/-- The allocation behind the buffer has not been released. -/
def allocated (obj : JobEncoder) (buffer : WorkBuffer) : Bool := buffer.alloc.any obj.isLive

/-- The session of the job has a buffer that is there and large enough. -/
def Suits (obj : JobEncoder) (job : EncodeJob) (size : Nat) : Prop :=
  obj.allocated (obj.sessionOf job).workBuffer = true ∧ size ≤ (obj.sessionOf job).workBuffer.size

/-- The entries of `ionBuffer` are those below `work_buf_cnt`, and every unfinished job without a
buffer of the HAL has a buffer of its size. -/
structure BuffersSound (build : JpegBuild) (obj : JobEncoder) : Prop where
  count : obj.workBufCnt = ((List.range build.concurrentSessions).filter fun i =>
    obj.allocated (obj.ionBuffer i)).length
  below : ∀ i < build.concurrentSessions,
    obj.allocated (obj.ionBuffer i) = true ↔ i < obj.workBufCnt
  jobs : ∀ node ∈ obj.jobs, node.encodeJob.workBuf.bufVaddr = 0 →
    obj.Suits node.encodeJob node.encodeJob.workSize

end JobEncoder

/-! ### What a call finds -/

section Finds

variable (build : JpegBuild) (obj : JobEncoder) (job : EncodeJob)

def Checks : Prop := job.workBuf.bufVaddr = 0 ∨ obj.workBufsNeed build job ≠ 0

def Refuses : Prop := Checks build obj job ∧ obj.workBufsNeed build job < obj.workBufCnt

/-- The area is not the one of the previous job, and no buffer is missing. -/
def Releases : Prop :=
  Checks build obj job ∧ obj.workBufCnt = obj.workBufsNeed build job ∧
    job.width * job.height ≠ obj.prevW * obj.prevH

instance : Decidable (Checks build obj job) := inferInstanceAs (Decidable (_ ∨ _))

instance : Decidable (Refuses build obj job) := inferInstanceAs (Decidable (_ ∧ _))

instance : Decidable (Releases build obj job) := inferInstanceAs (Decidable (_ ∧ _))

def keptBuffers : Nat := if Releases build obj job then 0 else obj.workBufCnt

/-- A buffer of this size is what the session has afterwards: a new one is made for the job, else
the first entry is taken unless the HAL has brought one. -/
def LeavesRoom (size : Nat) : Prop :=
  if keptBuffers build obj job < obj.workBufsNeed build job then size ≤ job.workSize
  else job.workBuf.bufVaddr = 0 ∧ size ≤ (obj.ionBuffer 0).size

/-- The checks that follow the allocations succeed. -/
structure Queued (answers : StartAnswers) : Prop where
  not_refused : ¬ Refuses build obj job
  active : (obj.sessionOf job).active = true
  src : job.srcIndex < Lib.toInt (obj.sessionOf job).params.numSrcBufs
  dst : job.dstIndex < Lib.toInt (obj.sessionOf job).params.numDstBufs
  node : answers.nodeOk = true
  enq : answers.enqOk = true

end Finds

def SameSession (job job' : EncodeJob) : Prop :=
  job'.clientIdx = job.clientIdx ∧ job'.sessionIdx = job.sessionIdx

/-- Every allocation of the call succeeds, a call that releases the buffers finds no unfinished job
on another session, and what it leaves to its session is enough for the jobs there. -/
structure KeepsBuffers (build : JpegBuild) (obj : JobEncoder) (job : EncodeJob)
    (answers : StartAnswers) : Prop where
  allocated : ∀ i, keptBuffers build obj job ≤ i → i < obj.workBufsNeed build job →
    answers.addr i ≠ 0
  released : Releases build obj job → ∀ node ∈ obj.jobs,
    node.encodeJob.workBuf.bufVaddr = 0 → SameSession job node.encodeJob
  room : ∀ node ∈ obj.jobs, node.encodeJob.workBuf.bufVaddr = 0 →
    SameSession job node.encodeJob → LeavesRoom build obj job node.encodeJob.workSize
  self : job.workBuf.bufVaddr = 0 → Queued build obj job answers →
    LeavesRoom build obj job job.workSize

/-- The session of the job is in the table; otherwise the call does nothing. -/
def EncodeJob.Valid (job : EncodeJob) : Prop :=
  job.sessionIdx < MM_JPEG_MAX_SESSION ∧ job.clientIdx < MAX_JPEG_CLIENT_NUM

def JobInput.NoOverflow : JobInput → Prop
  | .start (some job) _ => job.NoOverflow
  | _ => True

/-- The condition on a step of a run. -/
def MeetsBuffers (build : JpegBuild) (obj : JobEncoder) : JobInput → Prop
  | .start (some job) answers => job.Valid → KeepsBuffers build obj job answers
  | _ => True

/-! ### The buffers -/

/-- What the entries and the sessions refer to has been given out, and the entries below
`work_buf_cnt` are there. -/
structure Buffers (build : JpegBuild) (obj : JobEncoder) : Prop where
  le : obj.workBufCnt ≤ build.concurrentSessions
  below : ∀ i < build.concurrentSessions,
    obj.allocated (obj.ionBuffer i) = true ↔ i < obj.workBufCnt
  entry : ∀ i a, (obj.ionBuffer i).alloc = some a → a < obj.nextAlloc
  session : ∀ c i a, (obj.session c i).workBuffer.alloc = some a → a < obj.nextAlloc

/-- Only the work buffer of the session of the job differs. -/
structure SameJobs (job : EncodeJob) (obj obj' : JobEncoder) : Prop where
  jobs : obj'.jobs = obj.jobs
  other : ∀ job', ¬ SameSession job job' → obj'.sessionOf job' = obj.sessionOf job'
  own : ∃ buffer, obj'.sessionOf job = { obj.sessionOf job with workBuffer := buffer }

def Keeps (obj obj' : JobEncoder) : Prop :=
  ∀ buffer, obj.allocated buffer = true → obj'.allocated buffer = true

section Frames

variable {build : JpegBuild} {job : EncodeJob} {obj obj' obj'' : JobEncoder} {buffer : WorkBuffer}

theorem SameJobs.trans (h : SameJobs job obj obj') (h' : SameJobs job obj' obj'') :
    SameJobs job obj obj'' where
  jobs := h'.jobs.trans h.jobs
  other := fun job' hOther => (h'.other job' hOther).trans (h.other job' hOther)
  own := by
    obtain ⟨_, hOwn⟩ := h.own
    obtain ⟨buffer, hOwn'⟩ := h'.own
    exact ⟨buffer, by rw [hOwn', hOwn]⟩

namespace JobEncoder

theorem sessionOf_eq_of_same {job' : EncodeJob} (hSame : SameSession job job') :
    obj.sessionOf job' = obj.sessionOf job := by
  rw [sessionOf, sessionOf, hSame.1, hSame.2]

theorem sessionOf_modifySession (f : EncoderSession → EncoderSession) :
    (obj.modifySession job f).sessionOf job = f (obj.sessionOf job) := by
  simp [sessionOf, modifySession, Encoder.modify]

variable (obj job) in
theorem session_modifySession (f : EncoderSession → EncoderSession) (c i : Nat) :
    (obj.modifySession job f).session c i = obj.session c i ∨
      (obj.modifySession job f).session c i = f (obj.session c i) := by
  simp only [modifySession, Encoder.modify]
  split <;> simp

theorem sessionOf_modifySession_of_not {job' : EncodeJob} {f : EncoderSession → EncoderSession}
    (hOther : ¬ SameSession job job') :
    (obj.modifySession job f).sessionOf job' = obj.sessionOf job' := by
  rw [SameSession] at hOther
  simp [sessionOf, modifySession, Encoder.modify, hOther]

theorem sameJobs_setWorkBuffer : SameJobs job obj (obj.setWorkBuffer job buffer) where
  jobs := rfl
  other := fun _ hOther => sessionOf_modifySession_of_not hOther
  own := ⟨buffer, sessionOf_modifySession _⟩

theorem workBuffer_setWorkBuffer :
    ((obj.setWorkBuffer job buffer).sessionOf job).workBuffer = buffer := by
  rw [setWorkBuffer, sessionOf_modifySession]

theorem setWorkBuffer_setWorkBuffer (buffer' : WorkBuffer) :
    (obj.setWorkBuffer job buffer).setWorkBuffer job buffer' = obj.setWorkBuffer job buffer' := by
  simp only [setWorkBuffer, modifySession, Encoder.modify]
  congr
  funext c i
  split <;> rfl

variable (obj job) in
theorem takeWorkBuf_eq :
    ∃ buffer, buffer.alloc = none ∧ obj.takeWorkBuf job = obj.setWorkBuffer job buffer := by
  refine ⟨⟨job.workBuf.bufVaddr, job.workBuf.bufSize, (obj.sessionOf job).workBuffer.ionFd,
    job.workBuf.fd, none⟩, rfl, ?_⟩
  simp only [takeWorkBuf, setWorkBuffer, modifySession, Encoder.modify, sessionOf]
  congr
  funext c i
  split
  · rename_i hOwn
    rw [hOwn.1, hOwn.2]
  · rfl

end JobEncoder

open JobEncoder

variable (job) in
theorem Buffers.setWorkBuffer (h : Buffers build obj)
    (hFresh : ∀ a, buffer.alloc = some a → a < obj.nextAlloc) :
    Buffers build (obj.setWorkBuffer job buffer) where
  le := h.le
  below := h.below
  entry := h.entry
  session := by
    intro c i a hAlloc
    rcases session_modifySession job obj (fun s => { s with workBuffer := buffer }) c i with
      hSame | hSet
    · exact h.session c i a (by rwa [JobEncoder.setWorkBuffer, hSame] at hAlloc)
    · rw [JobEncoder.setWorkBuffer, hSet] at hAlloc
      exact hFresh a hAlloc

end Frames

/-! ### Allocations and releases -/

section Allocations

variable {build : JpegBuild} {obj : JobEncoder} {job : EncodeJob} {answers : StartAnswers}
  {size : Nat}

/-- The state after one pass of the loop that allocates. -/
def JobEncoder.addBuffer (obj : JobEncoder) (answers : StartAnswers) (job : EncodeJob)
    (size : Nat) : JobEncoder :=
  let i := obj.workBufCnt
  let obj := { obj.bufferAllocate answers i size with workBufCnt := i + 1 }
  obj.setWorkBuffer job (obj.ionBuffer i)

theorem keeps_addBuffer : Keeps obj (obj.addBuffer answers job size) := by
  intro buffer hLive
  rw [JobEncoder.allocated, Option.any_eq_true] at hLive ⊢
  obtain ⟨a, hAlloc, hIs⟩ := hLive
  refine ⟨a, hAlloc, ?_⟩
  simp only [JobEncoder.addBuffer, JobEncoder.setWorkBuffer, JobEncoder.modifySession,
    JobEncoder.bufferAllocate]
  split
  · exact hIs
  · by_cases hNew : a = obj.nextAlloc <;> simp [hNew, hIs]

theorem sameJobs_addBuffer : SameJobs job obj (obj.addBuffer answers job size) := by
  have hCount : SameJobs job obj { obj.bufferAllocate answers obj.workBufCnt size with
      workBufCnt := obj.workBufCnt + 1 } := ⟨rfl, fun _ _ => rfl, ⟨_, rfl⟩⟩
  exact hCount.trans JobEncoder.sameJobs_setWorkBuffer

theorem suits_addBuffer (hAddr : answers.addr obj.workBufCnt ≠ 0) :
    (obj.addBuffer answers job size).Suits job size := by
  rw [JobEncoder.Suits, JobEncoder.addBuffer, JobEncoder.workBuffer_setWorkBuffer]
  simp [JobEncoder.bufferAllocate, JobEncoder.allocated, JobEncoder.setWorkBuffer,
    JobEncoder.modifySession, hAddr]

variable (job size) in
theorem Buffers.addBuffer (h : Buffers build obj)
    (hRoom : obj.workBufCnt < build.concurrentSessions)
    (hAddr : answers.addr obj.workBufCnt ≠ 0) :
    Buffers build (obj.addBuffer answers job size) := by
  refine Buffers.setWorkBuffer job ⟨hRoom, ?_, ?_, ?_⟩ ?_
  · intro i hi
    have hBelow := h.below i hi
    rcases eq_or_ne i obj.workBufCnt with rfl | hNe
    · simp [JobEncoder.bufferAllocate, JobEncoder.allocated, hAddr]
    · have hSame : (obj.bufferAllocate answers obj.workBufCnt size).allocated
          (obj.ionBuffer i) = obj.allocated (obj.ionBuffer i) := by
        cases hAlloc : (obj.ionBuffer i).alloc with
        | none => simp [JobEncoder.allocated, hAlloc]
        | some a =>
          have hOld := (h.entry i a hAlloc).ne
          simp [JobEncoder.allocated, JobEncoder.bufferAllocate, hAlloc, hAddr,
            hOld]
      have hEntry : (obj.bufferAllocate answers obj.workBufCnt size).ionBuffer i =
          obj.ionBuffer i := Function.update_of_ne hNe _ _
      change (obj.bufferAllocate answers obj.workBufCnt size).allocated
        ((obj.bufferAllocate answers obj.workBufCnt size).ionBuffer i) = true ↔
          i < obj.workBufCnt + 1
      rw [hEntry, hSame, hBelow]
      omega
  · intro i a hAlloc
    rcases eq_or_ne i obj.workBufCnt with rfl | hNe
    · simp [JobEncoder.bufferAllocate, hAddr] at hAlloc
      simp [JobEncoder.bufferAllocate, ← hAlloc]
    · simp only [JobEncoder.bufferAllocate, Function.update_of_ne hNe] at hAlloc ⊢
      exact Nat.lt_succ_of_lt (h.entry i a hAlloc)
  · intro c i a hAlloc
    exact Nat.lt_succ_of_lt (h.session c i a hAlloc)
  · intro a hAlloc
    simp [JobEncoder.bufferAllocate, hAddr] at hAlloc
    simp [JobEncoder.bufferAllocate, ← hAlloc]

/-- What a run of successful allocations leads to. -/
structure Grown (build : JpegBuild) (job : EncodeJob) (size cnt : Nat) (obj obj' : JobEncoder) :
    Prop where
  buffers : Buffers build obj'
  same : SameJobs job obj obj'
  keeps : Keeps obj obj'
  own : obj.workBufCnt < cnt → obj'.Suits job size
  kept : cnt ≤ obj.workBufCnt → ∀ n, obj.Suits job n → obj'.Suits job n

variable (job answers size) in
theorem allocateBuffers_grown (left : Nat) (h : Buffers build obj)
    (hRoom : obj.workBufCnt + left ≤ build.concurrentSessions)
    (hAddr : ∀ i, obj.workBufCnt ≤ i → i < obj.workBufCnt + left → answers.addr i ≠ 0) :
    ∃ obj', JobEncoder.allocateBuffers answers job size left obj.workBufCnt obj = (true, obj') ∧
      Grown build job size (obj.workBufCnt + left) obj obj' := by
  induction left generalizing obj with
  | zero =>
    exact ⟨obj, rfl, h, ⟨rfl, fun _ _ => rfl, ⟨_, rfl⟩⟩, fun _ hLive => hLive,
      fun hLt => absurd hLt (lt_irrefl _), fun _ _ hSuits => hSuits⟩
  | succ left ih =>
    have hFirst := hAddr obj.workBufCnt le_rfl (by omega)
    have hNext := h.addBuffer job size (by omega) hFirst
    have hCnt : (obj.addBuffer answers job size).workBufCnt = obj.workBufCnt + 1 := rfl
    obtain ⟨obj', hLoop, hGrown⟩ := ih hNext (by omega) (fun i hLo hHi =>
      hAddr i (by omega) (by omega))
    refine ⟨obj', ?_, hGrown.buffers, sameJobs_addBuffer.trans hGrown.same,
      fun buffer hLive => hGrown.keeps buffer (keeps_addBuffer buffer hLive), ?_,
      fun hLe => absurd hLe (by omega)⟩
    · rw [JobEncoder.allocateBuffers, if_neg]
      · exact hLoop
      · simpa [JobEncoder.bufferAllocate] using hFirst
    · intro _
      rcases Nat.eq_zero_or_pos left with rfl | hPos
      · exact hGrown.kept (by omega) size (suits_addBuffer hFirst)
      · exact hGrown.own (by omega)

variable (obj) in
theorem bufferDeallocate_eq (i : Nat) :
    ∃ live, obj.bufferDeallocate i = { obj with isLive := live } ∧
      (∀ a, live a = true → obj.isLive a = true) ∧
      ∀ a, (obj.ionBuffer i).alloc = some a → live a = false := by
  rw [JobEncoder.bufferDeallocate]
  cases hAlloc : (obj.ionBuffer i).alloc with
  | none => exact ⟨obj.isLive, rfl, fun _ hLive => hLive, by simp⟩
  | some b =>
    refine ⟨_, rfl, ?_, ?_⟩
    · intro a hLive
      by_cases hSame : a = b <;> simp_all
    · intro a hSame
      cases hSame
      exact Function.update_self _ _ _

/-- Releasing all entries leaves none of them there, and brings no other buffer back. -/
theorem releaseBuffers_eq {cnt : Nat} (obj : JobEncoder) (hCnt : obj.workBufCnt = cnt) :
    ∃ live, JobEncoder.releaseBuffers cnt obj = { obj with workBufCnt := 0, isLive := live } ∧
      (∀ a, live a = true → obj.isLive a = true) ∧
      ∀ i < cnt, ∀ a, (obj.ionBuffer i).alloc = some a → live a = false := by
  induction cnt generalizing obj with
  | zero =>
    refine ⟨obj.isLive, ?_, fun _ hLive => hLive, by simp⟩
    rw [JobEncoder.releaseBuffers, ← hCnt]
  | succ cnt ih =>
    obtain ⟨live₁, hEq₁, hLess₁, hGone₁⟩ :=
      bufferDeallocate_eq { obj with workBufCnt := cnt } cnt
    obtain ⟨live, hEq, hLess, hGone⟩ :=
      ih { obj with workBufCnt := cnt, isLive := live₁ } rfl
    refine ⟨live, ?_, fun a hLive => hLess₁ a (hLess a hLive), ?_⟩
    · rw [JobEncoder.releaseBuffers, hEq₁, hEq]
    · intro i hi a hAlloc
      rcases Nat.lt_succ_iff_lt_or_eq.mp hi with hLt | rfl
      · exact hGone i hLt a hAlloc
      · cases hLive : live a with
        | false => rfl
        | true =>
          exact absurd (hLess a hLive) (by simp [hGone₁ a hAlloc])

theorem releaseBuffers_sameJobs {cnt : Nat} (hCnt : obj.workBufCnt = cnt) :
    SameJobs job obj (JobEncoder.releaseBuffers cnt obj) := by
  obtain ⟨live, hEq, -⟩ := releaseBuffers_eq obj hCnt
  rw [hEq]
  exact ⟨rfl, fun _ _ => rfl, ⟨_, rfl⟩⟩

theorem Buffers.releaseBuffers (h : Buffers build obj) :
    Buffers build (JobEncoder.releaseBuffers obj.workBufCnt obj) := by
  obtain ⟨live, hEq, hLess, hGone⟩ := releaseBuffers_eq obj rfl
  rw [hEq]
  refine ⟨Nat.zero_le _, ?_, h.entry, h.session⟩
  intro i hi
  simp only [Nat.not_lt_zero, iff_false, JobEncoder.allocated, Option.any_eq_true, not_exists,
    not_and, Bool.not_eq_true]
  intro a hAlloc
  rcases lt_or_ge i obj.workBufCnt with hLt | hGe
  · exact hGone i hLt a hAlloc
  · have hNot : ¬ obj.allocated (obj.ionBuffer i) = true := by
      rw [h.below i hi]
      omega
    cases hLive : live a with
    | false => rfl
    | true => exact absurd (by simp [JobEncoder.allocated, hAlloc, hLess a hLive]) hNot

end Allocations

/-! ### The call -/

section Call

variable {build : JpegBuild} {obj obj₁ obj' : JobEncoder} {job : EncodeJob}
  {answers : StartAnswers} {need : Nat}

theorem toNat_CEILING64 {x : BitVec 32} (hRoom : x.toNat + 63 < 2 ^ 32) :
    (CEILING64 x).toNat = roundUp x.toNat 64 :=
  Lib.toNat_add_and_not (p := 64#32) (k := 6) rfl hRoom

theorem EncodeJob.NoOverflow.workSize_le (h : job.NoOverflow) :
    job.workSize ≤ (CEILING32 job.workBufSize).toNat := by
  have hMul : (CEILING64 job.width * CEILING64 job.height).toNat =
      roundUp job.width.toNat 64 * roundUp job.height.toNat 64 :=
    Lib.toNat_mul_of_lt (toNat_CEILING64 h.width) (toNat_CEILING64 h.height)
      (by have := h.size; omega)
  have hSize : job.workBufSize.toNat = job.workSize := by
    have hTriple : (CEILING64 job.width * CEILING64 job.height * 3).toNat = _ :=
      Lib.toNat_mul_of_lt (m := 3) hMul rfl h.size
    rw [EncodeJob.workBufSize, BitVec.udiv_eq, BitVec.toNat_udiv, hTriple]
    rfl
  have hSmall : job.workSize + 31 < 2 ^ 32 := by
    have hTriple := h.size
    rw [EncodeJob.workSize]
    omega
  have hRound : (CEILING32 job.workBufSize).toNat = roundUp job.workBufSize.toNat 32 :=
    Lib.toNat_add_and_not (p := 32#32) (k := 5) rfl (by rw [hSize]; exact hSmall)
  rw [hRound, hSize]
  exact Lib.self_le_roundUp (by decide) _

theorem workBufsNeed_le : obj.workBufsNeed build job ≤ build.concurrentSessions := by
  rw [JobEncoder.workBufsNeed]
  split <;> omega

variable (build obj) in
theorem workBufsNeed_pos (hNone : job.workBuf.bufVaddr = 0) :
    0 < obj.workBufsNeed build job := by
  have hPos := build.pos
  rw [JobEncoder.workBufsNeed, if_neg (by simp [hNone])]
  omega

/-- What the call leaves before the checks at its end. -/
structure Prepared (build : JpegBuild) (obj : JobEncoder) (job : EncodeJob) (obj' : JobEncoder) :
    Prop where
  buffers : Buffers build obj'
  same : SameJobs job obj obj'
  keeps : ¬ Releases build obj job → Keeps obj obj'
  own : ∀ size, LeavesRoom build obj job size → obj'.Suits job size

variable (job answers) in
theorem prepareJob_grown (rc : Int) (h : Buffers build obj₁)
    (hNeed : need ≤ build.concurrentSessions)
    (hAddr : ∀ i, obj₁.workBufCnt ≤ i → i < need → answers.addr i ≠ 0) :
    ∃ obj', obj₁.prepareJob answers job need rc = obj'.queueJob answers job rc ∧
      Grown build job (CEILING32 job.workBufSize).toNat
        (obj₁.workBufCnt + (need - obj₁.workBufCnt)) obj₁ obj' := by
  have hStart : Buffers build { obj₁ with prevW := job.width, prevH := job.height } :=
    ⟨h.le, h.below, h.entry, h.session⟩
  obtain ⟨obj', hLoop, hGrown⟩ := allocateBuffers_grown job answers
    (CEILING32 job.workBufSize).toNat (need - obj₁.workBufCnt) hStart
    (by have hLe := h.le; simp only; omega) (fun i hLo hHi => hAddr i hLo (by
      simp only at hLo hHi
      omega))
  refine ⟨obj', ?_, hGrown.buffers, ⟨hGrown.same.jobs, hGrown.same.other, hGrown.same.own⟩,
    hGrown.keeps, hGrown.own, hGrown.kept⟩
  rw [JobEncoder.prepareJob, hLoop]

/-- The buffers are prepared once the session has the buffer that the job starts with. -/
theorem Grown.prepared {size : Nat} (hGrown : Grown build job size
      (keptBuffers build obj job + (obj.workBufsNeed build job - keptBuffers build obj job))
      obj₁ obj')
    (hSize : job.workSize ≤ size) (hCnt : obj₁.workBufCnt = keptBuffers build obj job)
    (hSame : SameJobs job obj obj₁) (hKeeps : ¬ Releases build obj job → Keeps obj obj₁)
    (hOwn : obj.workBufsNeed build job ≤ keptBuffers build obj job →
      ∀ n, LeavesRoom build obj job n → obj₁.Suits job n) : Prepared build obj job obj' where
  buffers := hGrown.buffers
  same := hSame.trans hGrown.same
  keeps := fun hNot buffer hLive => hGrown.keeps buffer (hKeeps hNot buffer hLive)
  own := by
    intro n hRoom
    rcases lt_or_ge (keptBuffers build obj job) (obj.workBufsNeed build job) with hLt | hGe
    · rw [LeavesRoom, if_pos hLt] at hRoom
      obtain ⟨hLive, hLarge⟩ := hGrown.own (by omega)
      exact ⟨hLive, hRoom.trans (hSize.trans hLarge)⟩
    · exact hGrown.kept (by omega) n (hOwn hGe n hRoom)

theorem Checks.need_pos (h : Checks build obj job) : 0 < obj.workBufsNeed build job := by
  rcases h with hNone | hNeed
  · exact workBufsNeed_pos _ _ hNone
  · exact Nat.pos_of_ne_zero hNeed

/-- What the call returns, by way of the state before the checks at its end. -/
def Returns (build : JpegBuild) (obj : JobEncoder) (job : EncodeJob) (answers : StartAnswers)
    (result : Int × Nat × JobEncoder) : Prop :=
  ∃ obj', Prepared build obj job obj' ∧
    (Refuses build obj job ∧ result = (-1, 0, obj') ∨
      ¬ Refuses build obj job ∧ ∃ rc, result = obj'.queueJob answers job rc)

variable (obj₁) in
/-- `mm_jpeg_check_resolution_change` and what follows it. -/
theorem checked_returns (h : Buffers build obj₁) (hSame : SameJobs job obj obj₁)
    (hKeeps : Keeps obj obj₁) (hCnt : obj₁.workBufCnt = obj.workBufCnt)
    (hPrev : obj₁.prevW * obj₁.prevH = obj.prevW * obj.prevH) (hNo : job.NoOverflow)
    (hChecks : Checks build obj job)
    (hAddr : ∀ i, keptBuffers build obj job ≤ i → i < obj.workBufsNeed build job →
      answers.addr i ≠ 0)
    (hOwn : obj.workBufsNeed build job ≤ keptBuffers build obj job →
      ∀ n, LeavesRoom build obj job n → obj₁.Suits job n) :
    Returns build obj job answers
      (match obj₁.checkResolutionChange (obj.workBufsNeed build job) job.width job.height with
      | none => (-1, 0, obj₁)
      | some obj₂ => obj₂.prepareJob answers job (obj.workBufsNeed build job) 0) := by
  rcases lt_or_ge (obj.workBufsNeed build job) obj.workBufCnt with hMore | hNotMore
  · have hNotReleases : ¬ Releases build obj job := by
      rintro ⟨-, hSameCnt, -⟩
      omega
    have hCheck : obj₁.checkResolutionChange (obj.workBufsNeed build job) job.width job.height =
        none := if_pos (hMore.trans_eq hCnt.symm)
    refine ⟨obj₁, ⟨h, hSame, fun _ => hKeeps, hOwn ?_⟩, Or.inl ⟨⟨hChecks, hMore⟩, by rw [hCheck]⟩⟩
    rw [keptBuffers, if_neg hNotReleases]
    exact hMore.le
  have hNot : ¬ Refuses build obj job := fun hRefuses => absurd hRefuses.2 hNotMore.not_gt
  by_cases hReleases : Releases build obj job
  · have hKept : keptBuffers build obj job = 0 := if_pos hReleases
    have hCheck : obj₁.checkResolutionChange (obj.workBufsNeed build job) job.width job.height =
        some (JobEncoder.releaseBuffers obj₁.workBufCnt obj₁) := by
      rw [JobEncoder.checkResolutionChange, hCnt, hPrev, if_neg hNotMore.not_gt,
        if_pos ⟨hReleases.2.1, hReleases.2.2⟩]
    obtain ⟨live, hEq, -⟩ := releaseBuffers_eq obj₁ rfl
    have hNone : (JobEncoder.releaseBuffers obj₁.workBufCnt obj₁).workBufCnt =
        keptBuffers build obj job := (congrArg JobEncoder.workBufCnt hEq).trans hKept.symm
    obtain ⟨obj', hCall, hGrown⟩ := prepareJob_grown job answers 0 h.releaseBuffers workBufsNeed_le
      (fun i _ => hAddr i (by omega))
    rw [hNone] at hGrown
    refine ⟨obj', ?_, Or.inr ⟨hNot, 0, by rw [hCheck]; exact hCall⟩⟩
    refine hGrown.prepared hNo.workSize_le hNone (hSame.trans (releaseBuffers_sameJobs rfl))
      (fun hKeep => absurd hReleases hKeep) ?_
    intro hFew
    exact absurd hChecks.need_pos (by omega)
  · have hKept : obj₁.workBufCnt = keptBuffers build obj job := hCnt.trans (if_neg hReleases).symm
    have hCheck : obj₁.checkResolutionChange (obj.workBufsNeed build job) job.width job.height =
        some obj₁ := by
      rw [JobEncoder.checkResolutionChange, hCnt, hPrev, if_neg hNotMore.not_gt, if_neg]
      exact fun hArea => hReleases ⟨hChecks, hArea⟩
    obtain ⟨obj', hCall, hGrown⟩ := prepareJob_grown job answers 0 h workBufsNeed_le
      (fun i hLo => hAddr i (hKept ▸ hLo))
    rw [hKept] at hGrown
    exact ⟨obj', hGrown.prepared hNo.workSize_le hKept hSame (fun _ => hKeeps) hOwn,
      Or.inr ⟨hNot, 0, by rw [hCheck]; exact hCall⟩⟩

theorem LeavesRoom.of_not_grown {n : Nat} (hRoom : LeavesRoom build obj job n)
    (hFew : obj.workBufsNeed build job ≤ keptBuffers build obj job) :
    job.workBuf.bufVaddr = 0 ∧ n ≤ (obj.ionBuffer 0).size := by
  rwa [LeavesRoom, if_neg hFew.not_gt] at hRoom

theorem startValidJob_returns (h : Buffers build obj) (hNo : job.NoOverflow)
    (hAddr : ∀ i, keptBuffers build obj job ≤ i → i < obj.workBufsNeed build job →
      answers.addr i ≠ 0) :
    Returns build obj job answers (obj.startValidJob build answers job) := by
  obtain ⟨buffer, hNone, hTake⟩ := JobEncoder.takeWorkBuf_eq job obj
  have hTaken := h.setWorkBuffer job (fun a hAlloc => by rw [hNone] at hAlloc; cases hAlloc)
  rw [JobEncoder.startValidJob, hTake]
  by_cases hHal : job.workBuf.bufVaddr = 0
  · have hFirst := h.setWorkBuffer job (h.entry 0)
    rw [if_neg (not_not.mpr hHal)]
    simp only [JobEncoder.setWorkBuffer_setWorkBuffer]
    refine checked_returns (obj.setWorkBuffer job (obj.ionBuffer 0)) hFirst
      JobEncoder.sameJobs_setWorkBuffer (fun _ hLive => hLive) rfl rfl hNo (Or.inl hHal) hAddr ?_
    intro hFew n hRoom
    have hPos := workBufsNeed_pos build obj hHal
    have hCnt : 0 < obj.workBufCnt := by
      rw [keptBuffers] at hFew
      split at hFew <;> omega
    rw [JobEncoder.Suits, JobEncoder.workBuffer_setWorkBuffer]
    exact ⟨(h.below 0 build.pos).mpr hCnt, (hRoom.of_not_grown hFew).2⟩
  · have hNoRoom : obj.workBufsNeed build job ≤ keptBuffers build obj job →
        ∀ n, LeavesRoom build obj job n → (obj.setWorkBuffer job buffer).Suits job n :=
      fun hFew n hRoom => absurd (hRoom.of_not_grown hFew).1 hHal
    rw [if_pos hHal]
    by_cases hNeed : obj.workBufsNeed build job = 0
    · have hNotChecks : ¬ Checks build obj job := fun hChecks =>
        absurd hChecks.need_pos (by omega)
      have hKept : keptBuffers build obj job = obj.workBufCnt :=
        if_neg fun hReleases => hNotChecks hReleases.1
      obtain ⟨obj', hCall, hGrown⟩ := prepareJob_grown job answers (-1) hTaken
        (workBufsNeed_le : obj.workBufsNeed build job ≤ _) (fun i _ hLt => by omega)
      refine ⟨obj', ?_, Or.inr ⟨fun hRefuses => hNotChecks hRefuses.1, -1, ?_⟩⟩
      · rw [show (obj.setWorkBuffer job buffer).workBufCnt = keptBuffers build obj job from
          hKept.symm] at hGrown
        exact hGrown.prepared hNo.workSize_le hKept.symm JobEncoder.sameJobs_setWorkBuffer
          (fun _ _ hLive => hLive) hNoRoom
      · rw [if_pos hNeed, hCall]
    · rw [if_neg hNeed]
      exact checked_returns (obj.setWorkBuffer job buffer) hTaken
        JobEncoder.sameJobs_setWorkBuffer (fun _ hLive => hLive) rfl rfl hNo (Or.inr hNeed) hAddr
        hNoRoom

end Call

/-! ### Runs -/

section Runs

variable {build : JpegBuild} {obj obj' obj'' : JobEncoder} {job : EncodeJob}
  {answers : StartAnswers}

/-- The invariant of a run. -/
structure JobsBuffered (build : JpegBuild) (obj : JobEncoder) : Prop where
  buffers : Buffers build obj
  jobs : ∀ node ∈ obj.jobs, node.encodeJob.workBuf.bufVaddr = 0 →
    obj.Suits node.encodeJob node.encodeJob.workSize

theorem JobsBuffered.sound (h : JobsBuffered build obj) : obj.BuffersSound build where
  count := by
    have hFilter : ((List.range build.concurrentSessions).filter fun i =>
        obj.allocated (obj.ionBuffer i)) =
          (List.range build.concurrentSessions).filter fun i => i < obj.workBufCnt := by
      apply List.filter_congr
      intro i hMem
      rw [Bool.eq_iff_iff, h.buffers.below i (List.mem_range.mp hMem), decide_eq_true_iff]
    rw [hFilter, Lib.length_filter_lt_range h.buffers.le]
  below := h.buffers.below
  jobs := h.jobs

theorem JobEncoder.Fresh.buffered (h : obj.Fresh) : JobsBuffered build obj where
  buffers := by
    refine ⟨by simp [h.workBufCnt], ?_, by simp [h.ionBuffer], by simp [h.workBuffer]⟩
    intro i _
    simp [JobEncoder.allocated, h.ionBuffer, h.workBufCnt]
  jobs := by simp [h.jobs]

/-- The same entries, and in every session the same work buffer. -/
structure SameBuffers (obj obj' : JobEncoder) : Prop where
  workBufCnt : obj'.workBufCnt = obj.workBufCnt
  ionBuffer : obj'.ionBuffer = obj.ionBuffer
  isLive : obj'.isLive = obj.isLive
  nextAlloc : obj'.nextAlloc = obj.nextAlloc
  workBuffer : ∀ c i, (obj'.session c i).workBuffer = (obj.session c i).workBuffer

theorem SameBuffers.buffers (h : SameBuffers obj obj') (hBuffers : Buffers build obj) :
    Buffers build obj' where
  le := h.workBufCnt.trans_le hBuffers.le
  below := by
    intro i hi
    rw [JobEncoder.allocated, h.ionBuffer, h.isLive, h.workBufCnt]
    exact hBuffers.below i hi
  entry := by
    rw [h.ionBuffer, h.nextAlloc]
    exact hBuffers.entry
  session := by
    intro c i
    rw [h.workBuffer, h.nextAlloc]
    exact hBuffers.session c i

theorem SameBuffers.suits {size : Nat} (h : SameBuffers obj obj') (hSuits : obj.Suits job size) :
    obj'.Suits job size := by
  rwa [JobEncoder.Suits, JobEncoder.allocated, JobEncoder.sessionOf, h.workBuffer, h.isLive]

/-- What the checks at the end of the call ask for. -/
structure Accepted (obj : JobEncoder) (job : EncodeJob) (answers : StartAnswers) : Prop where
  active : (obj.sessionOf job).active = true
  src : job.srcIndex < Lib.toInt (obj.sessionOf job).params.numSrcBufs
  dst : job.dstIndex < Lib.toInt (obj.sessionOf job).params.numDstBufs
  node : answers.nodeOk = true
  enq : answers.enqOk = true

theorem Accepted.queued (h : Accepted obj' job answers) (hSame : SameJobs job obj obj')
    (hNot : ¬ Refuses build obj job) : Queued build obj job answers := by
  obtain ⟨buffer, hOwn⟩ := hSame.own
  obtain ⟨hActive, hSrc, hDst, hNode, hEnq⟩ := h
  rw [hOwn] at hActive hSrc hDst
  exact ⟨hNot, hActive, hSrc, hDst, hNode, hEnq⟩

theorem queueJob_result (obj : JobEncoder) (job : EncodeJob) (answers : StartAnswers) (rc : Int) :
    SameBuffers obj (obj.queueJob answers job rc).2.2 ∧
      ((obj.queueJob answers job rc).2.2.jobs = obj.jobs ∨
        Accepted obj job answers ∧ ∃ jobId hdl,
          (obj.queueJob answers job rc).2.2.jobs = obj.jobs ++ [⟨job, jobId, hdl⟩]) := by
  have hModify (js : List JobNode) : SameBuffers obj
      { obj.modifySession job fun s =>
          { s with jobIndex := s.jobIndex + 1, jobHist := s.jobHist + 1 } with jobs := js } := by
    refine ⟨rfl, rfl, rfl, rfl, ?_⟩
    intro c i
    simp only [JobEncoder.modifySession, Encoder.modify]
    split <;> rfl
  rw [JobEncoder.queueJob]
  by_cases hActive : (obj.sessionOf job).active = false
  · simp only [hActive, if_true]
    exact ⟨⟨rfl, rfl, rfl, rfl, fun _ _ => rfl⟩, Or.inl trivial⟩
  by_cases hIndex : job.srcIndex ≥ Lib.toInt (obj.sessionOf job).params.numSrcBufs ∨
      job.dstIndex ≥ Lib.toInt (obj.sessionOf job).params.numDstBufs
  · simp only [if_neg hActive, if_pos hIndex]
    exact ⟨⟨rfl, rfl, rfl, rfl, fun _ _ => rfl⟩, Or.inl trivial⟩
  cases hNode : answers.nodeOk with
  | false =>
    simp only [if_neg hActive, if_neg hIndex, if_true]
    exact ⟨⟨rfl, rfl, rfl, rfl, fun _ _ => rfl⟩, Or.inl trivial⟩
  | true =>
    cases hEnq : answers.enqOk with
    | false =>
      simp only [if_neg hActive, if_neg hIndex, Bool.true_eq_false, if_false, Bool.false_eq_true]
      exact ⟨hModify obj.jobs, Or.inl rfl⟩
    | true =>
      simp only [if_neg hActive, if_neg hIndex, Bool.true_eq_false, if_false, if_true]
      obtain ⟨hSrc, hDst⟩ := not_or.mp hIndex
      exact ⟨hModify _, Or.inr ⟨⟨Bool.eq_true_of_not_eq_false hActive, Int.not_le.mp hSrc,
        Int.not_le.mp hDst, hNode, hEnq⟩, _, _, rfl⟩⟩

/-- The jobs that were there before the call still have their buffers. -/
theorem Prepared.jobs (h : Prepared build obj job obj') (hInv : JobsBuffered build obj)
    (hMeets : KeepsBuffers build obj job answers) :
    ∀ node ∈ obj'.jobs, node.encodeJob.workBuf.bufVaddr = 0 →
      obj'.Suits node.encodeJob node.encodeJob.workSize := by
  intro node hMem hNone
  rw [h.same.jobs] at hMem
  by_cases hSame : SameSession job node.encodeJob
  · have hOwn := h.own _ (hMeets.room node hMem hNone hSame)
    rwa [JobEncoder.Suits, JobEncoder.sessionOf_eq_of_same hSame]
  · have hStay : ¬ Releases build obj job := fun hReleases =>
      hSame (hMeets.released hReleases node hMem hNone)
    obtain ⟨hLive, hSize⟩ := hInv.jobs node hMem hNone
    rw [JobEncoder.Suits, h.same.other _ hSame]
    exact ⟨h.keeps hStay _ hLive, hSize⟩

/-- One call of `mm_jpeg_start_job`. -/
theorem startValidJob_buffered (hInv : JobsBuffered build obj) (hNo : job.NoOverflow)
    (hMeets : KeepsBuffers build obj job answers) :
    JobsBuffered build (obj.startValidJob build answers job).2.2 := by
  obtain ⟨obj', hPrepared, ⟨-, hResult⟩ | ⟨hNot, rc, hResult⟩⟩ :=
    startValidJob_returns hInv.buffers hNo hMeets.allocated
  · rw [hResult]
    exact ⟨hPrepared.buffers, hPrepared.jobs hInv hMeets⟩
  · rw [hResult]
    obtain ⟨hSame, hJobs⟩ := queueJob_result obj' job answers rc
    refine ⟨hSame.buffers hPrepared.buffers, ?_⟩
    have hOld := hPrepared.jobs hInv hMeets
    rcases hJobs with hJobs | ⟨hAccepted, jobId, hdl, hJobs⟩ <;> rw [hJobs]
    · exact fun node hMem hNone => hSame.suits (hOld node hMem hNone)
    · intro node hMem hNone
      rcases List.mem_append.mp hMem with hMem | hNew
      · exact hSame.suits (hOld node hMem hNone)
      · cases List.mem_singleton.mp hNew
        exact hSame.suits (hPrepared.own _
          (hMeets.self hNone (hAccepted.queued hPrepared.same hNot)))

theorem next_buffered {input : JobInput} {results : List (Int × Nat)}
    (hInv : JobsBuffered build obj) (hNo : input.NoOverflow) (hMeets : MeetsBuffers build obj input)
    (hNext : JobNext build obj input results obj') : JobsBuffered build obj' := by
  rw [JobNext] at hNext
  obtain rfl := (Prod.mk.inj hNext).2
  cases input with
  | start job answers =>
    cases job with
    | none => exact hInv
    | some job =>
      change JobsBuffered build (obj.startJob build answers (some job)).2.2
      rw [JobEncoder.startJob]
      split
      · exact hInv
      · rename_i hRange
        obtain ⟨hSession, hClient⟩ := not_or.mp hRange
        exact startValidJob_buffered hInv hNo
          (hMeets ⟨Nat.not_le.mp hSession, Nat.not_le.mp hClient⟩)
  | finish k =>
    have hSame : SameBuffers obj (obj.next build (.finish k)).2 :=
      ⟨rfl, rfl, rfl, rfl, fun _ _ => rfl⟩
    exact ⟨hSame.buffers hInv.buffers, fun node hMem hNone =>
      hSame.suits (hInv.jobs node (List.mem_of_mem_eraseIdx hMem) hNone)⟩
  | sessions num table =>
    have hSame : SameBuffers obj (obj.next build (.sessions num table)).2 :=
      ⟨rfl, rfl, rfl, rfl, fun _ _ => rfl⟩
    exact ⟨hSame.buffers hInv.buffers, fun node hMem hNone => hSame.suits (hInv.jobs node hMem hNone)⟩

theorem workBuffers_sound (build : JpegBuild) (obj₀ : JobEncoder) (hFresh : obj₀.Fresh)
    (inputs : List JobInput) (results : List (Int × Nat)) (obj : JobEncoder)
    (run : Lib.Steps (JobNext build)
      (fun _ _ obj input _ => input.NoOverflow ∧ MeetsBuffers build obj input) obj₀ inputs results
      obj) : obj.BuffersSound build := by
  refine JobsBuffered.sound (run.invariant hFresh.buffered ?_)
  intro _ _ obj input _ obj' hAllowed hInv hNext
  exact next_buffered hInv hAllowed.1 hAllowed.2 hNext

end Runs

/-! ### Two jobs of one area -/

def freshEncoder : JobEncoder :=
  { freeEncoder with
    workBufCnt := 0
    prevW := 0
    prevH := 0
    jobs := []
    isLive := fun _ => false
    nextAlloc := 0 }

theorem freshEncoder_fresh : freshEncoder.Fresh := ⟨rfl, rfl, fun _ => rfl, fun _ _ => rfl⟩

/-- Every slot has an active session of one source and one destination buffer. -/
def openSessions : JobInput :=
  .sessions 0 fun _ _ => { freeSession with active := true, params := ⟨1, 1, false⟩ }

def pictureJob (width height : BitVec 32) : EncodeJob :=
  ⟨sessionIdOf 0, ⟨0, 0, -1⟩, width, height, 0, 0⟩

def everythingWorks : StartAnswers := ⟨fun i => 4096 * (i + 1), fun _ => 3, fun _ => 4, true, true⟩

def startPicture (width height : BitVec 32) : JobInput :=
  .start (some (pictureJob width height)) everythingWorks

def afterInputs (inputs : List JobInput) : JobEncoder :=
  inputs.foldl (fun obj input => (obj.next oneSession input).2) freshEncoder

theorem workBuffers_sound_onePicture :
    (afterInputs [openSessions, startPicture 640 480]).BuffersSound oneSession := by
  have hStart : Lib.Steps (JobNext oneSession)
      (fun _ _ obj input _ => input.NoOverflow ∧ MeetsBuffers oneSession obj input)
      freshEncoder [] [] _ := .start
  refine workBuffers_sound oneSession freshEncoder freshEncoder_fresh _ _ _
    ((hStart.step (i := openSessions) ?_ rfl).step (i := startPicture 640 480) ?_ rfl)
  · exact ⟨trivial, trivial⟩
  · refine ⟨⟨by decide, by decide, by decide⟩, fun _ => ⟨?_, ?_, ?_, ?_⟩⟩
    · intro i _ _
      simp [everythingWorks]
    · intro _ node hMem
      cases hMem
    · intro node hMem
      cases hMem
    · intro _ _
      rw [LeavesRoom, if_pos (by decide)]

/-- The buffer for 64 by 64 pixels is taken again for 4096 by 1. -/
theorem workBuffers_sameArea_small :
    ¬ ∀ (build : JpegBuild) (obj₀ : JobEncoder), obj₀.Fresh →
      ∀ (inputs : List JobInput) (results : List (Int × Nat)) (obj : JobEncoder),
        Lib.Steps (JobNext build) (fun _ _ _ input _ => input.NoOverflow) obj₀ inputs results obj →
          obj.BuffersSound build := by
  intro hAll
  have hStart : Lib.Steps (JobNext oneSession) (fun _ _ _ input _ => input.NoOverflow)
      freshEncoder [] [] _ := .start
  have hSound := hAll oneSession freshEncoder freshEncoder_fresh _ _ _
    (((hStart.step (i := openSessions) trivial rfl).step (i := startPicture 64 64)
      ⟨by decide, by decide, by decide⟩ rfl).step (i := startPicture 4096 1)
      ⟨by decide, by decide, by decide⟩ rfl)
  have hJob := hSound.jobs ⟨pictureJob 4096 1, _, _⟩ (List.mem_cons_of_mem _ List.mem_cons_self) rfl
  exact absurd hJob.2 (by decide)

end KiwiDevice.Jpeg

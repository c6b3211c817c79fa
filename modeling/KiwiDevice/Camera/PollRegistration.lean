import KiwiDevice.Camera.ChannelStart
import KiwiDevice.Camera.FrameDelivery
import Mathlib.Data.Finset.Card

/-!
# The poll entry of a stream and its queued buffers

From `mm_stream_reg_buf` to the stream-off, buffers go into the kernel with `mm_stream_qbuf` and
come back with `mm_stream_read_msm_frame`, each under `buf_lock`. The entry of the data poll thread
is set and reset where the counter of the queued buffers becomes 1 and 0.
-/

namespace KiwiDevice.Camera

namespace Driver

variable {d : Driver} {handler : Nat}

theorem addPollFd_polls (hSlot : indexByHandler handler < maxPollEntries) :
    (d.addPollFd handler).Polls handler := by
  rw [addPollFd, if_pos hSlot]
  exact ⟨hSlot, Function.update_self ..⟩

end Driver

/-- A stream, its driver and the buffers that the kernel holds of it. The handle is that of a slot
of a channel, and the kernel holds none but the buffers that were requested. -/
structure BufWorld where
  stream : MmStream
  driver : Driver
  kernel : Finset Nat
  hdl_pos : 0 < stream.myHdl
  hdl_slot : Driver.indexByHandler stream.myHdl < Driver.maxPollEntries
  requested_le : driver.requested stream.myHdl ≤ MmStream.maxNumFrames
  held : ∀ i ∈ kernel, i < driver.requested stream.myHdl

namespace MmStream

variable {s t : MmStream} {d : Driver} {r : StreamResults} {kernel : Finset Nat}

/-- `mm_stream_read_msm_frame`, where `VIDIOC_DQBUF` gives that buffer. -/
def readMsmFrame (s : MmStream) (d : Driver) (idx sequence : Nat) : MmStream × Driver :=
  let count := s.queuedBufferCount - 1
  ({ s with
      queuedBufferCount := count
      buf := s.buf.map fun l => l.modify idx fun b =>
        { b with streamId := s.myHdl, bufIdx := idx, frameIdx := sequence } },
    if count = 0 then d.delPollFd s.myHdl else d)

/-- The buffers that the loop of `mm_stream_reg_buf` queues, with the flags of `s`. -/
def acceptedBufs (s : MmStream) (r : StreamResults) : List Nat → List Nat
  | [] => []
  | i :: rest =>
    if (s.status i).initialRegFlag then
      if r.qbuf i = .queued then i :: s.acceptedBufs r rest else []
    else s.acceptedBufs r rest

/-- How the first `mm_stream_qbuf` of the loop goes, if there is one. -/
def firstQbuf (s : MmStream) (r : StreamResults) (is : List Nat) : Option QbufResult :=
  (is.find? fun i => (s.status i).initialRegFlag).map r.qbuf

/-- `mm_stream_request_buf` succeeds. -/
def Requests (s : MmStream) (r : StreamResults) : Prop :=
  ¬ (s.bufNum > maxNumFrames ∨ r.reqbufs = false)

instance (s : MmStream) (r : StreamResults) : Decidable (s.Requests r) :=
  inferInstanceAs (Decidable (¬ _))

/-- The entry and the counter are those of the buffers in the kernel. -/
structure Registered (s : MmStream) (d : Driver) (kernel : Finset Nat) : Prop where
  polled : d.Polls s.myHdl ↔ 0 < s.queuedBufferCount
  counted : s.queuedBufferCount = kernel.card

/-- The kernel after a `mm_stream_qbuf` of the buffer. -/
def kernelAfter (kernel : Finset Nat) (idx : Nat) (result : QbufResult) : Finset Nat :=
  if result = .queued then insert idx kernel else kernel

theorem registered_zero (hCount : s.queuedBufferCount = 0) :
    Registered s d ∅ ↔ ¬ d.Polls s.myHdl := by
  constructor
  · intro h
    rw [h.polled, hCount]
    exact lt_irrefl 0
  · intro hNot
    constructor
    · simp [hNot, hCount]
    · simp [hCount]

/-- The first buffer brings the entry in step, unless its cache is not invalidated. -/
theorem qbuf_registers (hCount : s.queuedBufferCount = 0) (hPos : 0 < s.myHdl)
    (hSlot : Driver.indexByHandler s.myHdl < Driver.maxPollEntries) (result : QbufResult)
    (hResult : result ≠ .notInvalidated) (idx : Nat) :
    Registered (s.qbuf d result).1 (s.qbuf d result).2.1 (kernelAfter ∅ idx result) := by
  cases result with
  | notInvalidated => exact absurd rfl hResult
  | queued =>
    constructor
    · simp [qbuf, hCount, Driver.addPollFd_polls hSlot]
    · simp [qbuf, hCount, kernelAfter]
  | refused =>
    constructor
    · simp [qbuf, hCount, Driver.delPollFd_not_polls _ hPos]
    · simp [qbuf, hCount, kernelAfter]

theorem qbuf_registered (h : Registered s d kernel) (hPos : 0 < s.myHdl)
    (hSlot : Driver.indexByHandler s.myHdl < Driver.maxPollEntries) (result : QbufResult)
    (idx : Nat) (hNew : result = .queued → idx ∉ kernel) :
    Registered (s.qbuf d result).1 (s.qbuf d result).2.1 (kernelAfter kernel idx result) := by
  rcases Finset.eq_empty_or_nonempty kernel with rfl | hHeld
  · have hCount : s.queuedBufferCount = 0 := by simpa using h.counted
    cases hResult : result with
    | notInvalidated => exact h
    | queued => exact qbuf_registers hCount hPos hSlot _ (by decide) idx
    | refused => exact qbuf_registers hCount hPos hSlot _ (by decide) idx
  · -- the kernel has a buffer already, so the entry is there and stays
    have hCount : 0 < s.queuedBufferCount := by
      rw [h.counted]
      exact_mod_cast hHeld.card_pos
    have hPolls := h.polled.mpr hCount
    have hNe : s.queuedBufferCount ≠ 0 := hCount.ne'
    cases result with
    | notInvalidated => exact h
    | queued =>
      constructor
      · simp [qbuf, hNe, hPolls]
        omega
      · simp [qbuf, kernelAfter, Finset.card_insert_of_notMem (hNew rfl), h.counted]
    | refused =>
      constructor
      · simp [qbuf, hNe, hPolls, hCount]
      · simp [qbuf, kernelAfter, h.counted]

theorem readMsmFrame_registered (h : Registered s d kernel) (hPos : 0 < s.myHdl) {idx : Nat}
    (hMem : idx ∈ kernel) (sequence : Nat) :
    Registered (s.readMsmFrame d idx sequence).1 (s.readMsmFrame d idx sequence).2
      (kernel.erase idx) := by
  have hCard : (kernel.erase idx).card + 1 = kernel.card := Finset.card_erase_add_one hMem
  have hLeft : s.queuedBufferCount - 1 = (kernel.erase idx).card := by
    rw [h.counted]
    omega
  refine ⟨?_, hLeft⟩
  simp only [readMsmFrame, hLeft]
  split
  · rename_i hZero
    simp [hZero, Driver.delPollFd_not_polls _ hPos]
  · rename_i hSome
    rw [h.polled, h.counted]
    omega

theorem bufDone_registered (h : Registered s d kernel) (hPos : 0 < s.myHdl)
    (hSlot : Driver.indexByHandler s.myHdl < Driver.maxPollEntries) {result : QbufResult}
    {frame : BufDef} (hNew : result = .queued → frame.bufIdx ∉ kernel) :
    Registered (s.bufDone d frame result).1 (s.bufDone d frame result).2.1
      (if (s.status frame.bufIdx).bufRefcnt = 1 then kernelAfter kernel frame.bufIdx result
        else kernel) := by
  simp only [bufDone]
  split
  · rename_i hNone
    have hNotLast : (s.status frame.bufIdx).bufRefcnt ≠ 1 := by omega
    rw [if_neg hNotLast]
    exact h
  · rename_i hRefs
    split
    · rename_i hLowest
      have hLast : (s.status frame.bufIdx).bufRefcnt = 1 := by omega
      rw [if_pos hLast]
      have hLowered : Registered (s.setStatus frame.bufIdx { s.status frame.bufIdx with
          bufRefcnt := (s.status frame.bufIdx).bufRefcnt - 1 }) d kernel :=
        ⟨h.polled, h.counted⟩
      have hQueued := qbuf_registered hLowered hPos hSlot _ _ hNew
      split
      · exact ⟨hQueued.polled, hQueued.counted⟩
      · exact hQueued
    · rename_i hMore
      have hNotLast : (s.status frame.bufIdx).bufRefcnt ≠ 1 := by omega
      rw [if_neg hNotLast]
      exact ⟨h.polled, h.counted⟩

theorem setStatus_flag (s : MmStream) (i j : Nat) (status : BufStatus)
    (hFlag : status.initialRegFlag = (s.status i).initialRegFlag) :
    ((s.setStatus i status).status j).initialRegFlag = (s.status j).initialRegFlag := by
  rcases eq_or_ne i j with rfl | hNe
  · unfold MmStream.status at hFlag ⊢
    cases hStatus : s.bufStatus with
    | none => simp [setStatus, hStatus]
    | some l =>
      simp only [hStatus, Option.bind_some] at hFlag
      rcases lt_or_ge i l.length with hLt | hGe
      · simp [setStatus, hStatus, hLt, hFlag]
      · simp [setStatus, hStatus, List.set_eq_of_length_le hGe]
  · cases hStatus : s.bufStatus <;> simp [setStatus, MmStream.status, hStatus, hNe]

theorem acceptedBufs_sublist (s : MmStream) (r : StreamResults) (is : List Nat) :
    (s.acceptedBufs r is).Sublist is := by
  induction is with
  | nil => exact .slnil
  | cons i rest ih =>
    simp only [acceptedBufs]
    split
    · split
      · exact ih.cons_cons i
      · exact List.nil_sublist _
    · exact ih.cons i

/-- Once the entry is in step the loop keeps it so. -/
theorem regBufs_registered (is : List Nat) (h : Registered s d kernel) (hPos : 0 < s.myHdl)
    (hSlot : Driver.indexByHandler s.myHdl < Driver.maxPollEntries)
    (hFlags : ∀ i, (s.status i).initialRegFlag = (t.status i).initialRegFlag)
    (hNew : ∀ i ∈ is, i ∉ kernel) (hNodup : is.Nodup) :
    Registered (regBufs r is s d).1 (regBufs r is s d).2.1
      (kernel ∪ (t.acceptedBufs r is).toFinset) := by
  induction is generalizing s d kernel with
  | nil => simpa [regBufs, acceptedBufs] using h
  | cons i rest ih =>
    obtain ⟨hOut, hRest⟩ := List.nodup_cons.mp hNodup
    simp only [regBufs, acceptedBufs, ← hFlags i]
    cases hInitial : (s.status i).initialRegFlag with
    | true =>
      have hQueued := qbuf_registered h hPos hSlot (r.qbuf i) i
        fun _ => hNew i List.mem_cons_self
      simp only [if_true, qbuf_ok]
      cases hAnswer : r.qbuf i with
      | notInvalidated => simpa [hAnswer, kernelAfter] using hQueued
      | refused => simpa [hAnswer, kernelAfter] using hQueued
      | queued =>
        rw [hAnswer, kernelAfter, if_pos rfl] at hQueued
        have hIn := ih (s := (s.qbuf d .queued).1.setStatus i ⟨0, true, true⟩)
          (show Registered _ _ (insert i kernel) from ⟨hQueued.polled, hQueued.counted⟩)
          hPos hSlot ?_ ?_ hRest
        · simpa [Finset.insert_union, Finset.union_insert] using hIn
        · intro j
          exact (setStatus_flag _ i j _ hInitial.symm).trans (hFlags j)
        · intro j hMem
          rw [Finset.mem_insert, not_or]
          refine ⟨?_, hNew j (List.mem_cons_of_mem i hMem)⟩
          rintro rfl
          exact hOut hMem
    | false =>
      simp only [Bool.false_eq_true, if_false]
      refine ih (s := s.setStatus i ⟨1, false, false⟩) ⟨h.polled, h.counted⟩ hPos hSlot ?_ ?_ hRest
      · intro j
        exact (setStatus_flag _ i j _ hInitial.symm).trans (hFlags j)
      · intro j hMem
        exact hNew j (List.mem_cons_of_mem i hMem)

/-- From an empty kernel the loop leaves the entry in step iff it does not depend on an entry left
from before. -/
theorem regBufs_registered_iff (is : List Nat) (hCount : s.queuedBufferCount = 0)
    (hPos : 0 < s.myHdl) (hSlot : Driver.indexByHandler s.myHdl < Driver.maxPollEntries)
    (hFlags : ∀ i, (s.status i).initialRegFlag = (t.status i).initialRegFlag)
    (hNodup : is.Nodup) :
    Registered (regBufs r is s d).1 (regBufs r is s d).2.1 (t.acceptedBufs r is).toFinset ↔
      (d.Polls s.myHdl → t.firstQbuf r is = some .queued ∨ t.firstQbuf r is = some .refused) := by
  induction is generalizing s with
  | nil => simpa [regBufs, acceptedBufs, firstQbuf] using registered_zero hCount
  | cons i rest ih =>
    obtain ⟨hOut, hRest⟩ := List.nodup_cons.mp hNodup
    simp only [regBufs, acceptedBufs, firstQbuf, List.find?_cons, ← hFlags i]
    cases hInitial : (s.status i).initialRegFlag with
    | true =>
      simp only [if_true, Option.map_some, qbuf_ok]
      cases hAnswer : r.qbuf i with
      | notInvalidated => simpa [qbuf] using registered_zero hCount
      | refused =>
        simpa [kernelAfter] using
          qbuf_registers (d := d) hCount hPos hSlot .refused (by decide) i
      | queued =>
        have hQueued := qbuf_registers (d := d) hCount hPos hSlot .queued (by decide) i
        have hIn := regBufs_registered (r := r) (t := t) rest
          (s := (s.qbuf d .queued).1.setStatus i ⟨0, true, true⟩)
          (show Registered _ _ {i} from ⟨hQueued.polled, hQueued.counted⟩) hPos hSlot ?_ ?_ hRest
        · simpa using hIn
        · intro j
          exact (setStatus_flag _ i j _ hInitial.symm).trans (hFlags j)
        · intro j hMem hEq
          rw [Finset.mem_singleton.mp hEq] at hMem
          exact hOut hMem
    | false =>
      simp only [Bool.false_eq_true, if_false]
      refine ih (s := s.setStatus i ⟨1, false, false⟩) hCount hPos hSlot ?_ hRest
      intro j
      exact (setStatus_flag _ i j _ hInitial.symm).trans (hFlags j)

theorem qbuf_bufNum (s : MmStream) (d : Driver) (result : QbufResult) :
    (s.qbuf d result).1.bufNum = s.bufNum := by
  cases result <;> rfl

theorem bufDone_kept (s : MmStream) (d : Driver) (frame : BufDef) (result : QbufResult) :
    (s.bufDone d frame result).1.bufNum = s.bufNum ∧
      (s.bufDone d frame result).2.1.requested = d.requested := by
  simp only [bufDone]
  split
  · exact ⟨rfl, rfl⟩
  · split
    · split
      · exact ⟨qbuf_bufNum _ d result, qbuf_requested _ d result⟩
      · exact ⟨qbuf_bufNum _ d result, qbuf_requested _ d result⟩
    · exact ⟨rfl, rfl⟩

theorem readMsmFrame_requested (s : MmStream) (d : Driver) (idx sequence : Nat) :
    (s.readMsmFrame d idx sequence).2.requested = d.requested := by
  simp only [readMsmFrame]
  split <;> simp

theorem regBufs_bufNum (r : StreamResults) (is : List Nat) (s : MmStream) (d : Driver) :
    (regBufs r is s d).1.bufNum = s.bufNum := by
  induction is generalizing s d with
  | nil => rfl
  | cons i rest ih =>
    simp only [regBufs]
    split
    · split
      · rw [ih]
        exact s.qbuf_bufNum d _
      · exact s.qbuf_bufNum d _
    · rw [ih]
      rfl

theorem regBuf_failed (hFails : ¬ s.Requests r) : s.regBuf d r = (s, d, false) :=
  if_pos (not_not.mp hFails)

theorem regBuf_requests (hRequests : s.Requests r) :
    s.regBuf d r = regBufs r (List.range s.bufNum) { s with queuedBufferCount := 0 }
      (d.reqbufs s.myHdl s.bufNum) :=
  if_neg hRequests

theorem regBuf_requested (s : MmStream) (d : Driver) (r : StreamResults) :
    (s.regBuf d r).2.1.requested s.myHdl =
      if s.Requests r then s.bufNum else d.requested s.myHdl := by
  split
  · rename_i hRequests
    rw [regBuf_requests hRequests, regBufs_requested]
    simp [Driver.reqbufs]
  · rename_i hFails
    rw [regBuf_failed hFails]

theorem countArrival_kept (s : MmStream) (idx : Nat) (hasCb : Bool) :
    (s.countArrival idx hasCb).myHdl = s.myHdl ∧
      (s.countArrival idx hasCb).bufNum = s.bufNum ∧
        (s.countArrival idx hasCb).queuedBufferCount = s.queuedBufferCount := by
  simp only [countArrival, raiseRefcnt]
  split <;> exact ⟨rfl, rfl, rfl⟩

end MmStream

open MmStream (Registered kernelAfter)

/-- What the threads do between the registration and the stream-off, each under `buf_lock`, with the
frame that `VIDIOC_DQBUF` gives and the way a `mm_stream_qbuf` goes. A copy for a linked channel or
for a callback raises the reference count. -/
inductive BufOp where
  | qbuf (idx : Nat) (result : QbufResult)
  | readMsmFrame (idx sequence : Nat)
  | countArrival (idx : Nat) (hasCb : Bool)
  | raiseRefcnt (idx : Nat)
  | bufDone (idx : Nat) (result : QbufResult)
  deriving Repr

namespace BufWorld

variable {w : BufWorld} {r : StreamResults}

/-- `VIDIOC_QBUF` fails for a buffer that the kernel holds or was not asked for. -/
def kernelResult (w : BufWorld) (idx : Nat) (result : QbufResult) : QbufResult :=
  if result = .queued ∧ (idx ∈ w.kernel ∨ w.driver.requested w.stream.myHdl ≤ idx) then .refused
  else result

theorem kernelResult_queued {idx : Nat} {result : QbufResult}
    (h : w.kernelResult idx result = .queued) :
    idx ∉ w.kernel ∧ idx < w.driver.requested w.stream.myHdl := by
  rw [kernelResult] at h
  split at h
  · cases h
  · rename_i hFree
    constructor
    · intro hMem
      exact hFree ⟨h, .inl hMem⟩
    · rw [← not_le]
      intro hLe
      exact hFree ⟨h, .inr hLe⟩

theorem kernelAfter_lt {idx : Nat} {result : QbufResult} :
    ∀ i ∈ kernelAfter w.kernel idx (w.kernelResult idx result),
      i < w.driver.requested w.stream.myHdl := by
  intro i hMem
  rw [kernelAfter] at hMem
  split at hMem
  · rename_i hQueued
    rcases Finset.mem_insert.mp hMem with rfl | hOld
    · exact (kernelResult_queued hQueued).2
    · exact w.held i hOld
  · exact w.held i hMem

/-- The stream with what it holds of the driver; neither its handle nor what was requested
changes. -/
def change (w : BufWorld) (s : MmStream) (d : Driver) (kernel : Finset Nat)
    (hHdl : s.myHdl = w.stream.myHdl) (hRequested : d.requested = w.driver.requested)
    (hHeld : ∀ i ∈ kernel, i < w.driver.requested w.stream.myHdl) : BufWorld where
  stream := s
  driver := d
  kernel
  hdl_pos := by rw [hHdl]; exact w.hdl_pos
  hdl_slot := by rw [hHdl]; exact w.hdl_slot
  requested_le := by rw [hHdl, hRequested]; exact w.requested_le
  held := by rw [hHdl, hRequested]; exact hHeld

def qbuf (w : BufWorld) (idx : Nat) (result : QbufResult) : BufWorld :=
  let result := w.kernelResult idx result
  let done := w.stream.qbuf w.driver result
  w.change done.1 done.2.1 (kernelAfter w.kernel idx result) (w.stream.qbuf_same _ _).myHdl
    (w.stream.qbuf_requested _ _) kernelAfter_lt

/-- No frame comes out of a buffer that the kernel does not hold. -/
def readMsmFrame (w : BufWorld) (idx sequence : Nat) : BufWorld :=
  if idx ∈ w.kernel then
    let read := w.stream.readMsmFrame w.driver idx sequence
    w.change read.1 read.2 (w.kernel.erase idx) rfl (w.stream.readMsmFrame_requested _ _ _)
      fun i hMem => w.held i (Finset.mem_of_mem_erase hMem)
  else w

def bufDone (w : BufWorld) (idx : Nat) (result : QbufResult) : BufWorld :=
  let result := w.kernelResult idx result
  let done := w.stream.bufDone w.driver ⟨w.stream.myHdl, .default, idx, 0, none⟩ result
  w.change done.1 done.2.1
    (if (w.stream.status idx).bufRefcnt = 1 then kernelAfter w.kernel idx result else w.kernel)
    (w.stream.bufDone_same _ _ _).myHdl (w.stream.bufDone_kept _ _ _).2
    (by
      split
      · exact kernelAfter_lt
      · exact w.held)

def step (w : BufWorld) : BufOp → BufWorld
  | .qbuf idx result => w.qbuf idx result
  | .readMsmFrame idx sequence => w.readMsmFrame idx sequence
  | .countArrival idx hasCb =>
    w.change (w.stream.countArrival idx hasCb) w.driver w.kernel
      (w.stream.countArrival_kept idx hasCb).1 rfl w.held
  | .raiseRefcnt idx => w.change (w.stream.raiseRefcnt idx 1) w.driver w.kernel rfl rfl w.held
  | .bufDone idx result => w.bufDone idx result

/-- `mm_stream_reg_buf`: a successful `VIDIOC_REQBUFS` takes the buffers of before from the
kernel. -/
def regBuf (w : BufWorld) (r : StreamResults) : BufWorld where
  stream := (w.stream.regBuf w.driver r).1
  driver := (w.stream.regBuf w.driver r).2.1
  kernel :=
    if w.stream.Requests r then
      (w.stream.acceptedBufs r (List.range w.stream.bufNum)).toFinset
    else w.kernel
  hdl_pos := by rw [(w.stream.regBuf_same _ _).myHdl]; exact w.hdl_pos
  hdl_slot := by rw [(w.stream.regBuf_same _ _).myHdl]; exact w.hdl_slot
  requested_le := by
    rw [(w.stream.regBuf_same _ _).myHdl, MmStream.regBuf_requested]
    split
    · rename_i hRequests
      exact not_lt.mp (not_or.mp hRequests).1
    · exact w.requested_le
  held := by
    rw [(w.stream.regBuf_same _ _).myHdl, MmStream.regBuf_requested]
    split
    · intro i hMem
      exact List.mem_range.mp ((w.stream.acceptedBufs_sublist r _).subset (by simpa using hMem))
    · exact w.held

/-- The entry of the data poll thread, the counter and the kernel agree. -/
structure Tracks (w : BufWorld) : Prop where
  polled : w.driver.Polls w.stream.myHdl ↔ 0 < w.stream.queuedBufferCount
  counted : w.stream.queuedBufferCount = w.kernel.card
  bounded : 0 ≤ w.stream.queuedBufferCount ∧ w.stream.queuedBufferCount ≤ w.stream.bufNum

/-- What the operations keep. -/
structure InStep (w : BufWorld) : Prop where
  registered : Registered w.stream w.driver w.kernel
  capacity : w.driver.requested w.stream.myHdl ≤ w.stream.bufNum

theorem InStep.tracks (h : w.InStep) : w.Tracks where
  polled := h.registered.polled
  counted := h.registered.counted
  bounded := by
    have hCard : w.kernel.card ≤ w.driver.requested w.stream.myHdl := by
      rw [← Finset.card_range (w.driver.requested w.stream.myHdl)]
      apply Finset.card_le_card
      intro i hMem
      exact Finset.mem_range.mpr (w.held i hMem)
    have hCapacity := h.capacity
    rw [h.registered.counted]
    omega

/-- The operations leave these alone. -/
structure SameBufs (w w' : BufWorld) : Prop where
  bufNum : w'.stream.bufNum = w.stream.bufNum
  requested : w'.driver.requested w'.stream.myHdl = w.driver.requested w.stream.myHdl

theorem step_same (w : BufWorld) (op : BufOp) : w.SameBufs (w.step op) := by
  cases op with
  | qbuf idx result =>
    refine ⟨w.stream.qbuf_bufNum _ _, ?_⟩
    exact congr (w.stream.qbuf_requested _ _) (w.stream.qbuf_same _ _).myHdl
  | readMsmFrame idx sequence =>
    simp only [step, readMsmFrame]
    split
    · exact ⟨rfl, congrFun (w.stream.readMsmFrame_requested w.driver idx sequence) _⟩
    · exact ⟨rfl, rfl⟩
  | countArrival idx hasCb =>
    refine ⟨(w.stream.countArrival_kept idx hasCb).2.1, ?_⟩
    exact congrArg w.driver.requested (w.stream.countArrival_kept idx hasCb).1
  | raiseRefcnt idx => exact ⟨rfl, rfl⟩
  | bufDone idx result =>
    refine ⟨(w.stream.bufDone_kept _ _ _).1, ?_⟩
    exact congr (w.stream.bufDone_kept _ _ _).2 (w.stream.bufDone_same _ _ _).myHdl

theorem step_registered (h : Registered w.stream w.driver w.kernel) (op : BufOp) :
    Registered (w.step op).stream (w.step op).driver (w.step op).kernel := by
  cases op with
  | qbuf idx result =>
    exact MmStream.qbuf_registered h w.hdl_pos w.hdl_slot _ _ fun hQueued =>
      (kernelResult_queued hQueued).1
  | readMsmFrame idx sequence =>
    simp only [step, readMsmFrame]
    split
    · rename_i hMem
      exact MmStream.readMsmFrame_registered h w.hdl_pos hMem sequence
    · exact h
  | countArrival idx hasCb =>
    obtain ⟨hHdl, -, hCount⟩ := w.stream.countArrival_kept idx hasCb
    constructor
    · simpa [step, change, hHdl, hCount] using h.polled
    · simpa [step, change, hCount] using h.counted
  | raiseRefcnt idx => exact ⟨h.polled, h.counted⟩
  | bufDone idx result =>
    exact MmStream.bufDone_registered h w.hdl_pos w.hdl_slot fun hQueued =>
      (kernelResult_queued hQueued).1

theorem run_inStep (h : w.InStep) (ops : List BufOp) : (ops.foldl step w).InStep := by
  induction ops generalizing w with
  | nil => exact h
  | cons op ops ih =>
    apply ih
    constructor
    · exact step_registered h.registered op
    · rw [(w.step_same op).requested, (w.step_same op).bufNum]
      exact h.capacity

theorem regBuf_registered_iff (hRequests : w.stream.Requests r) :
    Registered (w.regBuf r).stream (w.regBuf r).driver (w.regBuf r).kernel ↔
      (w.driver.Polls w.stream.myHdl →
        w.stream.firstQbuf r (List.range w.stream.bufNum) = some .queued ∨
          w.stream.firstQbuf r (List.range w.stream.bufNum) = some .refused) := by
  have hLoop := MmStream.regBufs_registered_iff (t := w.stream) (r := r)
    (s := { w.stream with queuedBufferCount := 0 })
    (d := w.driver.reqbufs w.stream.myHdl w.stream.bufNum) (List.range w.stream.bufNum) rfl
    w.hdl_pos w.hdl_slot (fun _ => rfl) List.nodup_range
  simp only [regBuf, if_pos hRequests, MmStream.regBuf_requests hRequests]
  exact hLoop

theorem regBuf_requested (hRequests : w.stream.Requests r) :
    (w.regBuf r).driver.requested (w.regBuf r).stream.myHdl = w.stream.bufNum := by
  simp only [regBuf, (w.stream.regBuf_same _ _).myHdl, MmStream.regBuf_requested, if_pos hRequests]

theorem regBuf_bufNum (hRequests : w.stream.Requests r) :
    (w.regBuf r).stream.bufNum = w.stream.bufNum := by
  simp only [regBuf, MmStream.regBuf_requests hRequests, MmStream.regBufs_bufNum]

/-- Whatever buffers were asked for can be queued. -/
theorem exists_full (w : BufWorld) (n : Nat) (hLe : n ≤ w.driver.requested w.stream.myHdl) :
    ∃ ops : List BufOp, w.SameBufs (ops.foldl step w) ∧
      Finset.range n ⊆ (ops.foldl step w).kernel := by
  induction n with
  | zero => exact ⟨[], ⟨rfl, rfl⟩, by simp⟩
  | succ n ih =>
    obtain ⟨ops, hSame, hHeld⟩ := ih (by omega)
    have hStep := (ops.foldl step w).step_same (.qbuf n .queued)
    refine ⟨ops ++ [.qbuf n .queued], ?_, ?_⟩
    · rw [List.foldl_append]
      exact ⟨hStep.bufNum.trans hSame.bufNum, hStep.requested.trans hSame.requested⟩
    · rw [List.foldl_append, Finset.range_add_one]
      generalize ops.foldl step w = v at hSame hHeld
      have hAsked : n < v.driver.requested v.stream.myHdl := by
        rw [hSame.requested]
        exact hLe
      show _ ⊆ kernelAfter v.kernel n (v.kernelResult n .queued)
      rw [kernelAfter]
      split
      · exact Finset.insert_subset_insert n hHeld
      · rename_i hRefused
        have hMem : n ∈ v.kernel := by
          by_contra hOut
          exact hRefused (if_neg (by simp [hOut, hAsked]))
        exact Finset.insert_subset hMem hHeld

/-- Where no buffers are requested the state before is what counts; else the first buffer that is
queued has to renew an entry left from before. -/
def RegistersAfresh (w : BufWorld) (r : StreamResults) : Prop :=
  if w.stream.Requests r then
    w.driver.Polls w.stream.myHdl →
      w.stream.firstQbuf r (List.range w.stream.bufNum) = some .queued ∨
        w.stream.firstQbuf r (List.range w.stream.bufNum) = some .refused
  else w.Tracks ∧ w.driver.requested w.stream.myHdl ≤ w.stream.bufNum

/-- From the registration on, in every order of the operations, the entry and the counter follow the
kernel iff the registration did not rely on an entry left from before. -/
theorem registration_tracks_iff (w : BufWorld) (r : StreamResults) :
    (∀ ops : List BufOp, (ops.foldl step (w.regBuf r)).Tracks) ↔ w.RegistersAfresh r := by
  unfold RegistersAfresh
  split
  · rename_i hRequests
    rw [← regBuf_registered_iff hRequests]
    constructor
    · intro hAll
      exact ⟨(hAll []).polled, (hAll []).counted⟩
    · intro hRegistered ops
      refine (run_inStep ⟨hRegistered, ?_⟩ ops).tracks
      rw [regBuf_requested hRequests, regBuf_bufNum hRequests]
  · rename_i hFails
    have hSame : w.regBuf r = w := by
      obtain ⟨s, d, kernel⟩ := w
      simp only [regBuf, MmStream.regBuf_failed hFails, if_neg hFails]
    rw [hSame]
    constructor
    · intro hAll
      refine ⟨hAll [], ?_⟩
      -- were more buffers asked for than the stream has, all of them could be queued
      obtain ⟨ops, hKept, hFull⟩ := w.exists_full _ le_rfl
      have hEnd := hAll ops
      have hCard := Finset.card_le_card hFull
      have hBound := hEnd.bounded.2
      rw [hEnd.counted, hKept.bufNum] at hBound
      rw [Finset.card_range] at hCard
      omega
    · rintro ⟨hTracks, hCapacity⟩ ops
      exact (run_inStep ⟨⟨hTracks.polled, hTracks.counted⟩, hCapacity⟩ ops).tracks

/-- `bufNum` buffers of a metadata stream, all to be queued at first. -/
def regAnswers (qbuf : Nat → QbufResult) : StreamResults where
  getBufs := some [true, true]
  statusAlloc := true
  reqbufs := true
  qbuf
  streamOn := true

/-- A configured stream in the first slot of its channel is started: its second buffer is refused.
The channel gives its buffers back and they are set up again. -/
def failedOnce : MmStream × Driver :=
  let events : List StreamEvt := [.getBuf, .regBuf, .putBuf, .getBuf]
  events.foldl
    (fun w evt =>
      let done := w.1.fsmFn w.2 evt (regAnswers fun i => if i = 0 then .queued else .refused)
      (done.1, done.2.1))
    ({ myHdl := 256, state := .cfg, streamInfo := some { streamType := .metadata, numBufs := 2 } },
      ⟨fun _ => 0, fun _ => 0⟩)

def restarted : BufWorld where
  stream := failedOnce.1
  driver := failedOnce.2
  kernel := {0}
  hdl_pos := by decide
  hdl_slot := by decide
  requested_le := by decide
  held := by decide

/-- The cache of the first buffer is not invalidated now, and the entry of the first start stays. -/
theorem restarted_polled : ¬ (restarted.regBuf (regAnswers fun _ => .notInvalidated)).Tracks := by
  intro hTracks
  have hPolled : 0 < (restarted.regBuf _).stream.queuedBufferCount := hTracks.polled.mp (by decide)
  exact absurd hPolled (by decide)

end BufWorld

end KiwiDevice.Camera

import KiwiDevice.Camera.FrameDelivery

/-!
# The reference count of a buffer

The count is the number of copies that somebody holds or is about to hand on, so a buffer goes back
to the kernel with its last copy. This fails where a copy is handed on before all of them are
counted.
-/

namespace KiwiDevice.Camera

namespace MmStream

def numBufs (s : MmStream) : Nat := s.bufStatus.elim 0 List.length

variable {s : MmStream} {i j : Nat}

theorem status_setStatus_self (h : i < s.numBufs) (st : BufStatus) :
    (s.setStatus i st).status i = st := by
  rw [numBufs] at h
  rw [status, setStatus]
  cases hList : s.bufStatus with
  | none =>
    rw [hList] at h
    cases h
  | some l =>
    rw [hList] at h
    change ((l.set i st)[i]?).getD {} = st
    rw [List.getElem?_set_self h]
    rfl

theorem status_setStatus_of_ne (h : j ≠ i) (st : BufStatus) :
    (s.setStatus i st).status j = s.status j := by
  rw [status, status, setStatus]
  cases s.bufStatus with
  | none => rfl
  | some l =>
    change ((l.set i st)[j]?).getD {} = _
    rw [List.getElem?_set_ne h.symm]
    rfl

@[simp] theorem numBufs_setStatus (s : MmStream) (i : Nat) (st : BufStatus) :
    (s.setStatus i st).numBufs = s.numBufs := by
  rw [numBufs, numBufs, setStatus]
  cases s.bufStatus with
  | none => rfl
  | some l => exact List.length_set

theorem qbuf_numBufs (s : MmStream) (d : Driver) (result : QbufResult) :
    (s.qbuf d result).1.numBufs = s.numBufs := by
  cases result <;> rfl

end MmStream

/-- What `mm_stream_buf_done` makes of the status of the buffer. -/
def BufStatus.done (st : BufStatus) (result : QbufResult) : BufStatus :=
  if st.bufRefcnt = 0 then st
  else if st.bufRefcnt - 1 = 0 ∧ result = .queued then
    { st with bufRefcnt := 0, inKernel := true }
  else { st with bufRefcnt := st.bufRefcnt - 1 }

namespace MmStream

variable {s : MmStream} {i j : Nat}

theorem bufDone_status (d : Driver) {frame : BufDef} (h : frame.bufIdx < s.numBufs)
    (result : QbufResult) : (s.bufDone d frame result).1.status frame.bufIdx
      = (s.status frame.bufIdx).done result := by
  simp only [bufDone, BufStatus.done]
  split
  · rfl
  · split
    · rename_i hLast
      split
      · rename_i hQueued
        rw [if_pos ⟨hLast, (qbuf_ok ..).mp hQueued⟩]
        refine status_setStatus_self ?_ _
        rw [qbuf_numBufs, numBufs_setStatus]
        exact h
      · rename_i hNot
        rw [if_neg (fun hBoth => hNot ((qbuf_ok ..).mpr hBoth.2)), qbuf_status]
        exact status_setStatus_self h _
    · rename_i hMore
      rw [if_neg (fun hBoth => hMore hBoth.1)]
      exact status_setStatus_self h _

theorem bufDone_status_of_ne (d : Driver) {frame : BufDef} (h : j ≠ frame.bufIdx)
    (result : QbufResult) : (s.bufDone d frame result).1.status j = s.status j := by
  simp only [bufDone]
  split
  · rfl
  · split
    · split
      · rw [status_setStatus_of_ne h, qbuf_status, status_setStatus_of_ne h]
      · rw [qbuf_status, status_setStatus_of_ne h]
    · exact status_setStatus_of_ne h _

theorem bufDone_numBufs (d : Driver) (frame : BufDef) (result : QbufResult) :
    (s.bufDone d frame result).1.numBufs = s.numBufs := by
  simp only [bufDone]
  split
  · rfl
  · split
    · split
      · rw [numBufs_setStatus, qbuf_numBufs, numBufs_setStatus]
      · rw [qbuf_numBufs, numBufs_setStatus]
    · exact numBufs_setStatus ..

end MmStream

namespace MmStream

variable {s : MmStream} {idx j n : Nat} {hasCb : Bool}

theorem raiseRefcnt_status (h : idx < s.numBufs) : (s.raiseRefcnt idx n).status idx =
    { s.status idx with bufRefcnt := ((s.status idx).bufRefcnt + n) % 2 ^ 8 } :=
  status_setStatus_self h _

theorem raiseRefcnt_status_of_ne (h : j ≠ idx) :
    (s.raiseRefcnt idx n).status j = s.status j := status_setStatus_of_ne h _

@[simp] theorem raiseRefcnt_numBufs (s : MmStream) (idx n : Nat) :
    (s.raiseRefcnt idx n).numBufs = s.numBufs := numBufs_setStatus ..

theorem countArrival_status (h : idx < s.numBufs) :
    (s.countArrival idx hasCb).status idx = { s.status idx with
      inKernel := false
      bufRefcnt := (((s.status idx).bufRefcnt + s.isBundled.toNat) % 2 ^ 8 + hasCb.toNat)
        % 2 ^ 8 } := by
  have hIn : idx < (s.setStatus idx { s.status idx with inKernel := false }).numBufs := by
    rw [numBufs_setStatus]
    exact h
  have hSelf := status_setStatus_self h { s.status idx with inKernel := false }
  have hFlag : (s.setStatus idx { s.status idx with inKernel := false }).isBundled
      = s.isBundled := rfl
  simp only [countArrival, hFlag]
  split
  · rename_i hBundled
    rw [raiseRefcnt_status (by rw [raiseRefcnt_numBufs]; exact hIn), raiseRefcnt_status hIn,
      hSelf, hBundled]
    rfl
  · rename_i hNot
    rw [raiseRefcnt_status hIn, hSelf, Bool.eq_false_iff.mpr hNot]
    simp only [Bool.toNat_false, Nat.add_zero, Nat.mod_add_mod]

theorem countArrival_status_of_ne (h : j ≠ idx) :
    (s.countArrival idx hasCb).status j = s.status j := by
  simp only [countArrival]
  rw [raiseRefcnt_status_of_ne h]
  split
  · rw [raiseRefcnt_status_of_ne h, status_setStatus_of_ne h]
  · exact status_setStatus_of_ne h _

theorem countArrival_numBufs (s : MmStream) (idx : Nat) (hasCb : Bool) :
    (s.countArrival idx hasCb).numBufs = s.numBufs := by
  simp only [countArrival]
  split
  · rw [raiseRefcnt_numBufs, raiseRefcnt_numBufs, numBufs_setStatus]
  · rw [raiseRefcnt_numBufs, numBufs_setStatus]

theorem countArrival_isBundled (s : MmStream) (idx : Nat) (hasCb : Bool) :
    (s.countArrival idx hasCb).isBundled = s.isBundled := by
  simp only [countArrival]
  split <;> rfl

end MmStream

/-! What is true of one buffer, whatever the others do. -/

def arrivalRefs (bundled : Bool) : Option ArrivalStage → Nat
  | some (.counted hasCb) => bundled.toNat + hasCb.toNat
  | some (.notified hasCb) | some (.linked hasCb) | some (.skipping hasCb) => hasCb.toNat
  | _ => 0

/-- The most copies that can still come of an arrival. -/
def arrivalRoom (bundled : Bool) : Option ArrivalStage → Nat
  | none => 0
  | some .read | some (.checked _) => 7
  | some (.counted hasCb) => bundled.toNat + 1 + 5 * hasCb.toNat
  | some (.notified hasCb) => 1 + 5 * hasCb.toNat
  | some (.linked hasCb) => 5 * hasCb.toNat
  | some (.skipping hasCb) => hasCb.toNat

def dispatchRefs : Option DispatchStage → Nat
  | none => 0
  | some _ => 1

def dispatchRoom : Option DispatchStage → Nat
  | none => 0
  | some (.calling i) => 1 + (streamBufCbMax - i)
  | some .called => 1

theorem arrivalRefs_le (bundled : Bool) (arrival : Option ArrivalStage) :
    arrivalRefs bundled arrival ≤ arrivalRoom bundled arrival := by
  cases arrival with
  | none => exact Nat.le_refl 0
  | some stage =>
    cases stage <;> simp only [arrivalRefs, arrivalRoom] <;> omega

theorem dispatchRefs_le (dispatch : Option DispatchStage) :
    dispatchRefs dispatch ≤ dispatchRoom dispatch := by
  cases dispatch with
  | none => exact Nat.le_refl 0
  | some stage =>
    cases stage with
    | calling i => exact Nat.le_add_right 1 _
    | called => exact Nat.le_refl 1

/-- The poll thread is at a buffer that nobody has been counted for yet. -/
def Owes (bundled : Bool) : Option ArrivalStage → Prop
  | some .read | some (.checked _) => True
  | some (.counted hasCb) | some (.notified hasCb) => bundled = false ∧ hasCb = false
  | _ => False

/-- The buffer is read from the kernel, and not counted. -/
def Reading : Option ArrivalStage → Prop
  | some .read | some (.checked _) => True
  | _ => False

/-- One buffer of the stream: `held` copies with consumers and `queued` nodes for the callbacks. The
bound keeps `buf_refcnt` from wrapping. -/
structure Balance (bundled : Bool) (st : BufStatus) (held queued : Nat)
    (arrival : Option ArrivalStage) (dispatch : Option DispatchStage) : Prop where
  refcnt : st.bufRefcnt = held + queued + arrivalRefs bundled arrival + dispatchRefs dispatch
  room : held + 5 * queued + arrivalRoom bundled arrival + dispatchRoom dispatch ≤ 7
  kernel : st.inKernel = true → st.bufRefcnt = 0
  back : st.bufRefcnt = 0 → st.inKernel = true ∨ Owes bundled arrival
  reading : Reading arrival → st.inKernel = true
  owing : Owes bundled arrival → st.bufRefcnt = 0
  out : Owes bundled arrival → ¬ Reading arrival → st.inKernel = false

namespace Balance

variable {bundled hasCb : Bool} {st : BufStatus} {held queued : Nat}
  {arrival : Option ArrivalStage} {dispatch : Option DispatchStage} {result : QbufResult}

theorem notInKernel (h : Balance bundled st held queued arrival dispatch)
    (hRefs : st.bufRefcnt ≠ 0) : st.inKernel = false := by
  rw [Bool.eq_false_iff]
  exact fun hKernel => hRefs (h.kernel hKernel)

theorem counted (h : Balance bundled st held queued arrival dispatch)
    (hRefs : st.bufRefcnt ≠ 0) : ¬ Owes bundled arrival ∧ ¬ Reading arrival :=
  ⟨fun hOwes => hRefs (h.owing hOwes), fun hReading => hRefs (h.kernel (h.reading hReading))⟩

theorem dispatch_none (hRefs : dispatchRefs dispatch = 0) : dispatchRoom dispatch = 0 := by
  cases dispatch with
  | none => rfl
  | some stage => cases hRefs

theorem read (h : Balance bundled st held queued none dispatch) (hKernel : st.inKernel = true) :
    Balance bundled st held queued (some .read) dispatch := by
  have hRefs := h.refcnt
  rw [h.kernel hKernel] at hRefs
  have hRoom : dispatchRoom dispatch = 0 := dispatch_none (by omega)
  refine ⟨h.refcnt, ?_, h.kernel, fun _ => .inr trivial, fun _ => hKernel,
    fun _ => h.kernel hKernel, fun _ hNot => ?_⟩
  · simp only [arrivalRoom, hRoom]
    omega
  · exact absurd trivial hNot

theorem check (h : Balance bundled st held queued (some .read) dispatch) :
    Balance bundled st held queued (some (.checked hasCb)) dispatch :=
  ⟨h.refcnt, h.room, h.kernel, h.back, h.reading, h.owing, h.out⟩

theorem count (h : Balance bundled st held queued (some (.checked hasCb)) dispatch) :
    Balance bundled { st with
      inKernel := false
      bufRefcnt := ((st.bufRefcnt + bundled.toNat) % 2 ^ 8 + hasCb.toNat) % 2 ^ 8 }
      held queued (some (.counted hasCb)) dispatch := by
  have hZero := h.kernel (h.reading trivial)
  have hRefs := h.refcnt
  have hRoom := h.room
  simp only [arrivalRefs, arrivalRoom] at hRefs hRoom
  have hBundled := bundled.toNat_le
  have hCb := hasCb.toNat_le
  have hCount : ((st.bufRefcnt + bundled.toNat) % 2 ^ 8 + hasCb.toNat) % 2 ^ 8
      = bundled.toNat + hasCb.toNat := by
    rw [hZero]
    omega
  rw [hCount]
  refine ⟨?_, ?_, nofun, ?_, nofun, ?_, fun _ _ => rfl⟩
  · simp only [arrivalRefs]
    omega
  · simp only [arrivalRoom]
    omega
  · intro hNone
    refine .inr ⟨?_, ?_⟩
    · cases bundled
      · rfl
      · simp at hNone
    · cases hasCb
      · rfl
      · simp at hNone
  · rintro ⟨hNotBundled, hNoCb⟩
    rw [hNotBundled, hNoCb]
    rfl

theorem notify (h : Balance bundled st held queued (some (.counted hasCb)) dispatch) :
    Balance bundled st (held + bundled.toNat) queued (some (.notified hasCb)) dispatch := by
  have hRefs := h.refcnt
  have hRoom := h.room
  simp only [arrivalRefs, arrivalRoom] at hRefs hRoom
  refine ⟨?_, ?_, h.kernel, h.back, nofun, h.owing, h.out⟩
  · simp only [arrivalRefs]
    omega
  · simp only [arrivalRoom]
    omega

theorem link (h : Balance bundled st held queued (some (.notified hasCb)) dispatch)
    (hOut : st.inKernel = false) :
    Balance bundled { st with bufRefcnt := (st.bufRefcnt + 1) % 2 ^ 8 } (held + 1) queued
      (some (.linked hasCb)) dispatch := by
  have hRefs := h.refcnt
  have hRoom := h.room
  simp only [arrivalRefs, arrivalRoom] at hRefs hRoom
  have hCb := hasCb.toNat_le
  have hDispatch := dispatchRefs_le dispatch
  have hRaised : (st.bufRefcnt + 1) % 2 ^ 8 = st.bufRefcnt + 1 := by omega
  rw [hRaised]
  refine ⟨?_, ?_, ?_, nofun, nofun, fun hOwes => hOwes.elim, fun hOwes => hOwes.elim⟩
  · simp only [arrivalRefs]
    omega
  · simp only [arrivalRoom]
    omega
  · intro hKernel
    rw [hOut] at hKernel
    cases hKernel

theorem noLink (h : Balance bundled st held queued (some (.notified hasCb)) dispatch)
    (hConsumer : hasCb = true ∨ bundled = true) :
    Balance bundled st held queued (some (.linked hasCb)) dispatch := by
  have hRoom := h.room
  simp only [arrivalRoom] at hRoom
  refine ⟨h.refcnt, ?_, h.kernel, ?_, nofun, fun hOwes => hOwes.elim, fun hOwes => hOwes.elim⟩
  · simp only [arrivalRoom]
    omega
  · intro hNone
    refine .inl ((h.back hNone).resolve_right ?_)
    rintro ⟨hNotBundled, hNoCb⟩
    rcases hConsumer with hSome | hSome
    · rw [hNoCb] at hSome
      cases hSome
    · rw [hNotBundled] at hSome
      cases hSome

theorem skip (h : Balance bundled st held queued (some (.linked hasCb)) dispatch) :
    Balance bundled st held queued (some (.skipping hasCb)) dispatch := by
  have hRoom := h.room
  simp only [arrivalRoom] at hRoom
  refine ⟨h.refcnt, ?_, h.kernel, h.back, nofun, fun hOwes => hOwes.elim, fun hOwes => hOwes.elim⟩
  simp only [arrivalRoom]
  omega

theorem enqueue (h : Balance bundled st held queued (some (.linked hasCb)) dispatch) :
    Balance bundled st held (queued + hasCb.toNat) none dispatch := by
  have hRefs := h.refcnt
  have hRoom := h.room
  simp only [arrivalRefs, arrivalRoom] at hRefs hRoom
  refine ⟨?_, ?_, h.kernel, h.back, nofun, fun hOwes => hOwes.elim, fun hOwes => hOwes.elim⟩
  · simp only [arrivalRefs]
    omega
  · simp only [arrivalRoom]
    omega

theorem dispatchBegin (h : Balance bundled st held (queued + 1) arrival none) :
    Balance bundled st held queued arrival (some (.calling 0)) := by
  have hRefs := h.refcnt
  have hRoom := h.room
  simp only [dispatchRefs, dispatchRoom] at hRefs hRoom
  refine ⟨?_, ?_, h.kernel, h.back, h.reading, h.owing, h.out⟩
  · simp only [dispatchRefs]
    omega
  · simp only [dispatchRoom, streamBufCbMax]
    omega

theorem call {i : Nat} (h : Balance bundled st held queued arrival (some (.calling i)))
    (hi : i < streamBufCbMax) :
    Balance bundled { st with bufRefcnt := (st.bufRefcnt + 1) % 2 ^ 8 } (held + 1) queued arrival
      (some (.calling (i + 1))) := by
  have hRefs := h.refcnt
  have hRoom := h.room
  have hArrival := arrivalRefs_le bundled arrival
  simp only [dispatchRefs, dispatchRoom] at hRefs hRoom
  have hRaised : (st.bufRefcnt + 1) % 2 ^ 8 = st.bufRefcnt + 1 := by omega
  have hCounted : st.bufRefcnt ≠ 0 := by omega
  have hOut := h.notInKernel hCounted
  obtain ⟨hNotOwing, hNotReading⟩ := h.counted hCounted
  rw [hRaised]
  refine ⟨?_, ?_, ?_, nofun, fun hReading => absurd hReading hNotReading,
    fun hOwes => absurd hOwes hNotOwing, fun hOwes => absurd hOwes hNotOwing⟩
  · simp only [dispatchRefs]
    omega
  · simp only [dispatchRoom]
    omega
  · intro hKernel
    rw [hOut] at hKernel
    cases hKernel

theorem noCall {i : Nat} (h : Balance bundled st held queued arrival (some (.calling i))) :
    Balance bundled st held queued arrival (some (.calling (i + 1))) := by
  have hRoom := h.room
  simp only [dispatchRoom] at hRoom
  refine ⟨h.refcnt, ?_, h.kernel, h.back, h.reading, h.owing, h.out⟩
  simp only [dispatchRoom]
  omega

theorem called {i : Nat} (h : Balance bundled st held queued arrival (some (.calling i))) :
    Balance bundled st held queued arrival (some .called) := by
  have hRoom := h.room
  simp only [dispatchRoom] at hRoom
  refine ⟨h.refcnt, ?_, h.kernel, h.back, h.reading, h.owing, h.out⟩
  simp only [dispatchRoom]
  omega

theorem done (h : Balance bundled st held queued arrival dispatch) {held' : Nat}
    {arrival' : Option ArrivalStage} {dispatch' : Option DispatchStage}
    (hRefs : st.bufRefcnt
      = held' + queued + arrivalRefs bundled arrival' + dispatchRefs dispatch' + 1)
    (hRoom : held' + 5 * queued + arrivalRoom bundled arrival' + dispatchRoom dispatch' ≤ 7)
    (hArrival : arrival' = arrival ∨ arrival' = none)
    (hQueued : st.bufRefcnt = 1 → result = .queued) :
    Balance bundled (st.done result) held' queued arrival' dispatch' := by
  have hCounted : st.bufRefcnt ≠ 0 := by omega
  have hOut := h.notInKernel hCounted
  obtain ⟨hNotOwing, hNotReading⟩ : ¬ Owes bundled arrival' ∧ ¬ Reading arrival' := by
    rcases hArrival with hSame | hNone
    · rw [hSame]
      exact h.counted hCounted
    · rw [hNone]
      exact ⟨id, id⟩
  have hRefcnt : (st.done result).bufRefcnt = st.bufRefcnt - 1 := by
    rw [BufStatus.done, if_neg hCounted]
    split
    · rename_i hLast
      exact hLast.1.symm
    · rfl
  have hKernel : (st.done result).inKernel = true ↔ st.bufRefcnt = 1 := by
    rw [BufStatus.done, if_neg hCounted]
    split
    · rename_i hLast
      exact iff_of_true rfl (by omega)
    · rename_i hMore
      refine iff_of_false (by simp [hOut]) fun hOne => hMore ⟨by omega, hQueued hOne⟩
  refine ⟨by omega, hRoom, fun hIn => ?_, fun hNone => .inl (hKernel.mpr (by omega)),
    fun hReading => absurd hReading hNotReading, fun hOwes => absurd hOwes hNotOwing,
    fun hOwes => absurd hOwes hNotOwing⟩
  have hOne := hKernel.mp hIn
  omega

theorem giveBack (h : Balance bundled st (held + 1) queued arrival dispatch)
    (hQueued : st.bufRefcnt = 1 → result = .queued) :
    Balance bundled (st.done result) held queued arrival dispatch := by
  have hRefs := h.refcnt
  have hRoom := h.room
  exact h.done (by omega) (by omega) (.inl rfl) hQueued

theorem dispatchDone (h : Balance bundled st held queued arrival (some .called))
    (hQueued : st.bufRefcnt = 1 → result = .queued) :
    Balance bundled (st.done result) held queued arrival none := by
  have hRefs := h.refcnt
  have hRoom := h.room
  simp only [dispatchRefs, dispatchRoom] at hRefs hRoom
  refine h.done ?_ ?_ (.inl rfl) hQueued
  · simp only [dispatchRefs]
    omega
  · simp only [dispatchRoom]
    omega

theorem skipDone (h : Balance bundled st held queued (some (.skipping hasCb)) dispatch)
    (hCb : hasCb = true ∨ st.bufRefcnt = 0) (hQueued : st.bufRefcnt = 1 → result = .queued) :
    Balance bundled (st.done result) held queued none dispatch := by
  have hRefs := h.refcnt
  have hRoom := h.room
  simp only [arrivalRefs, arrivalRoom] at hRefs hRoom
  by_cases hNone : st.bufRefcnt = 0
  · rw [BufStatus.done, if_pos hNone]
    refine ⟨?_, ?_, h.kernel, h.back, nofun, fun hOwes => hOwes.elim, fun hOwes => hOwes.elim⟩
    · simp only [arrivalRefs]
      omega
    · simp only [arrivalRoom]
      omega
  · have hTrue := hCb.resolve_right hNone
    rw [hTrue, Bool.toNat_true] at hRefs hRoom
    refine h.done ?_ ?_ (.inr rfl) hQueued
    · simp only [arrivalRefs]
      omega
    · simp only [arrivalRoom]
      omega

end Balance

end KiwiDevice.Camera

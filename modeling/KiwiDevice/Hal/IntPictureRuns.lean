import KiwiDevice.Hal.IntPicture

/-!
# When the picture for the backend is reported

The deadline is never a valid time, so the thread never waits: what it sends is the picture's
exactly if the JPEG event has been processed when it comes to the wait.
-/

namespace KiwiDevice.Hal

theorem Timespec.deadline_invalid (clock : Nat) : ¬ (deadline clock).Valid := by
  intro h
  rw [Valid, deadline] at h
  dsimp only at h
  omega

/-- The deadline that the thread has made. -/
def PicThread.deadline : PicThread → Option Timespec
  | atFlag ts => some ts
  | atLock ts => some ts
  | atWait ts => some ts
  | _ => none

def PicThread.holds : PicThread → Bool
  | atWait _ => true
  | returned _ => true
  | _ => false

def PicThread.waits : PicThread → Bool
  | blocked _ _ => true
  | woken _ => true
  | _ => false

def PicThread.hasCleared : PicThread → Bool
  | unlocked _ => true
  | sending _ => true
  | done => true
  | _ => false

def JpegThread.holds : JpegThread → Bool
  | atSignal => true
  | signalled => true
  | _ => false

namespace IntPicture

variable {p p' : IntPicture} {a : Act} {acts : List Act} {effects : List IntPicEffect}

structure NeverWaits (p : IntPicture) : Prop where
  deadline : ∀ ts, p.pic.deadline = some ts → ¬ ts.Valid
  awake : p.pic.waits = false
  picLock : p.pic.holds = true → p.intLock = some .pic
  jpegLock : p.jpeg.holds = true → p.intLock = some .jpeg
  cleared : p.pic.hasCleared = true → p.intEvtPending = false
  unsent : p.pic ≠ .done → p.sent = none

/-- What is known once the thread has not waited. -/
structure ReadyAfter (p : IntPicture) : Prop where
  returned : ∀ rc, p.pic = .returned rc ∨ p.pic = .unlocked rc → p.Processed
  sending : ∀ params, p.pic = .sending params → p.Processed ∧ params = p.intEvtParams
  sends : p.SendsReady

/-- A step of another thread, which leaves what has been processed. -/
structure Aside (p p' : IntPicture) : Prop where
  pic : p'.pic = p.pic
  pending : p'.intEvtPending = p.intEvtPending
  sent : p'.sent = p.sent
  picLock : p.intLock = some .pic → p'.intLock = some .pic
  jpegLock : p'.jpeg.holds = true → p'.intLock = some .jpeg
  ready : p.Processed → p'.Processed ∧ p'.intEvtParams = p.intEvtParams

theorem NeverWaits.aside (h : NeverWaits p) (hAside : Aside p p') : NeverWaits p' := by
  constructor
  · rw [hAside.pic]
    exact h.deadline
  · rw [hAside.pic]
    exact h.awake
  · rw [hAside.pic]
    exact fun hHolds => hAside.picLock (h.picLock hHolds)
  · exact hAside.jpegLock
  · rw [hAside.pic, hAside.pending]
    exact h.cleared
  · rw [hAside.pic, hAside.sent]
    exact h.unsent

theorem ReadyAfter.aside (h : ReadyAfter p) (hAside : Aside p p') : ReadyAfter p' := by
  constructor
  · intro rc hPic
    rw [hAside.pic] at hPic
    exact (hAside.ready (h.returned rc hPic)).1
  · intro params hPic
    rw [hAside.pic] at hPic
    obtain ⟨hReady, hParams⟩ := h.sending params hPic
    obtain ⟨hReady', hSame⟩ := hAside.ready hReady
    exact ⟨hReady', hParams.trans hSame.symm⟩
  · intro params hSent
    rw [hAside.sent] at hSent
    obtain ⟨hReady, hParams⟩ := h.sends params hSent
    obtain ⟨hReady', hSame⟩ := hAside.ready hReady
    exact ⟨hReady', hParams.trans hSame.symm⟩

theorem not_processed {jpeg : JpegThread} (hJpeg : p.jpeg = jpeg) (h : jpeg ≠ .signalled)
    (h' : jpeg ≠ .processed) : ¬ p.Processed := by
  rintro (hEq | hEq)
  · exact h (hJpeg.symm.trans hEq)
  · exact h' (hJpeg.symm.trans hEq)

theorem aside_processJpegEvt {ok : Bool}
    (hStep : p.processJpegEvt ok = some p') :
    Aside p p' := by
  rw [processJpegEvt] at hStep
  split at hStep
  · rename_i hStart
    have hNot := not_processed hStart.1 (by decide) (by decide)
    split at hStep
    · cases hStep
      exact ⟨rfl, rfl, rfl, fun hLock => hLock, fun hHolds => (by cases hHolds),
        fun hDone => absurd hDone hNot⟩
    · cases hStep
      refine ⟨rfl, rfl, rfl, fun hLock => hLock, fun hHolds => ?_, fun hDone => absurd hDone hNot⟩
      cases ok <;> cases hHolds
  · cases hStep

theorem dumpJpegToFile_cases {file : Option (List UInt8 × Nat)}
    (hStep : p.dumpJpegToFile file = some p') :
    p.jpeg = .dumping ∧ ∃ name size,
      p' = { p with jpeg := .atFlag, backendFileName := name, backendFileSize := size } := by
  unfold dumpJpegToFile at hStep
  split at hStep
  · rename_i hDump
    refine ⟨hDump, ?_⟩
    split at hStep
    · split at hStep <;> cases hStep <;> exact ⟨_, _, rfl⟩
    · cases hStep
      exact ⟨_, _, rfl⟩
  · cases hStep

theorem aside_dumpJpegToFile {file : Option (List UInt8 × Nat)}
    (hStep : p.dumpJpegToFile file = some p') : Aside p p' := by
  obtain ⟨hDump, name, size, rfl⟩ := dumpJpegToFile_cases hStep
  have hNot := not_processed hDump (by decide) (by decide)
  exact ⟨rfl, rfl, rfl, fun hLock => hLock, fun hHolds => (by cases hHolds), fun hDone => absurd hDone hNot⟩

theorem wake_of_awake {pic : PicThread} (h : pic.waits = false) : wake pic = pic := by
  cases pic <;> first | rfl | cases h

theorem aside_jpegStep (h : NeverWaits p) (hStep : p.jpegStep = some p') : Aside p p' := by
  rw [jpegStep] at hStep
  split at hStep
  · rename_i hJpeg
    have hNot := not_processed hJpeg (by decide) (by decide)
    cases hStep
    refine ⟨rfl, rfl, rfl, fun hLock => hLock, fun hHolds => ?_, fun hDone => absurd hDone hNot⟩
    cases hPending : p.intEvtPending <;> simp [hPending, JpegThread.holds] at hHolds
  · rename_i hJpeg
    have hNot := not_processed hJpeg (by decide) (by decide)
    split at hStep
    · rename_i hFree
      cases hStep
      refine ⟨rfl, rfl, rfl, fun hLock => ?_, fun _ => rfl, fun hDone => absurd hDone hNot⟩
      rw [hFree] at hLock
      cases hLock
    · cases hStep
  · rename_i hJpeg
    have hNot := not_processed hJpeg (by decide) (by decide)
    cases hStep
    refine ⟨wake_of_awake h.awake, rfl, rfl, fun hLock => hLock, fun _ => ?_, fun hDone => absurd hDone hNot⟩
    exact h.jpegLock (by rw [hJpeg]; rfl)
  · rename_i hJpeg
    have hHeld := h.jpegLock (by rw [hJpeg]; rfl)
    cases hStep
    refine ⟨rfl, rfl, rfl, fun hLock => ?_, fun hHolds => (by cases hHolds), fun _ => ⟨.inr rfl, rfl⟩⟩
    rw [hHeld] at hLock
    cases hLock
  · cases hStep

theorem neverWaits_camEvtHandle (h : NeverWaits p) (hStep : p.camEvtHandle = some p') :
    NeverWaits p' := by
  rw [camEvtHandle] at hStep
  split at hStep
  · rename_i hIdle
    cases hStep
    refine ⟨fun ts hTs => (by cases hTs), rfl, fun hHolds => (by cases hHolds), h.jpegLock,
      fun hCleared => (by cases hCleared), fun _ => h.unsent ?_⟩
    rw [hIdle.1]
    decide
  · cases hStep

theorem readyAfter_camEvtHandle (h : ReadyAfter p) (hStep : p.camEvtHandle = some p') :
    ReadyAfter p' := by
  rw [camEvtHandle] at hStep
  split at hStep
  · cases hStep
    exact ⟨fun rc hPic => (by rcases hPic with hPic | hPic <;> cases hPic),
      fun params hPic => (by cases hPic), h.sends⟩
  · cases hStep

/-! ## The steps of the thread -/

/-- What the thread can do as its deadline is no valid time. -/
inductive PicMoves (p : IntPicture) : IntPicture → Prop where
  | deadline (hPic : p.pic = .taking) : PicMoves p { p with pic := .atFlag (.deadline p.clock) }
  | pending {ts : Timespec} (hPic : p.pic = .atFlag ts) (hFlag : p.intEvtPending = true) :
      PicMoves p { p with pic := .atLock ts }
  | notPending {ts : Timespec} (hPic : p.pic = .atFlag ts) (hFlag : p.intEvtPending = false) :
      PicMoves p { p with pic := .done }
  | locks {ts : Timespec} (hPic : p.pic = .atLock ts) (hFree : p.intLock = none) :
      PicMoves p { p with pic := .atWait ts, intLock := some .pic }
  | fails {ts : Timespec} (hPic : p.pic = .atWait ts) : PicMoves p { p with pic := .returned .einval }
  | clears {rc : WaitResult} (hPic : p.pic = .returned rc) :
      PicMoves p { p with pic := .unlocked rc, intEvtPending := false, intLock := none }
  | givesUp (hPic : p.pic = .unlocked .etimedout) : PicMoves p { p with pic := .done }
  | copies {rc : WaitResult} (hPic : p.pic = .unlocked rc) :
      PicMoves p { p with pic := .sending p.intEvtParams }
  | sends {params : IntEvtParams} (hPic : p.pic = .sending params) :
      PicMoves p { p with pic := .done, sent := some params }

theorem picStep_cases (h : NeverWaits p) (hStep : p.picStep = some (p', effects)) :
    PicMoves p p' := by
  rw [picStep] at hStep
  split at hStep
  · rename_i hPic
    cases hStep
    exact .deadline hPic
  · rename_i ts hPic
    cases hStep
    split
    · rename_i hFlag
      exact .pending hPic hFlag
    · rename_i hFlag
      exact .notPending hPic (Bool.eq_false_iff.mpr hFlag)
  · rename_i ts hPic
    split at hStep
    · rename_i hFree
      cases hStep
      exact .locks hPic hFree
    · cases hStep
  · rename_i ts hPic
    rw [if_neg (h.deadline ts (by rw [hPic]; rfl))] at hStep
    cases hStep
    exact .fails hPic
  · rename_i rc hPic
    have hAwake := h.awake
    rw [hPic] at hAwake
    cases hAwake
  · rename_i rc hPic
    cases hStep
    exact .clears hPic
  · rename_i rc hPic
    cases hStep
    split
    · rename_i hTimeout
      exact .givesUp (hTimeout ▸ hPic)
    · exact .copies hPic
  · rename_i params hPic
    cases hStep
    exact .sends hPic
  · cases hStep

theorem NeverWaits.picMoves (h : NeverWaits p) (hMoves : PicMoves p p') : NeverWaits p' := by
  have hUnsent {pic : PicThread} (hPic : p.pic = pic) (hNot : pic ≠ .done) : p.sent = none :=
    h.unsent (hPic ▸ hNot)
  cases hMoves with
  | deadline hPic =>
    refine ⟨fun ts hTs => ?_, rfl, nofun, h.jpegLock, nofun, fun _ => hUnsent hPic (by decide)⟩
    cases hTs
    exact Timespec.deadline_invalid p.clock
  | @pending ts hPic hFlag =>
    refine ⟨fun ts' hTs => ?_, rfl, nofun, h.jpegLock, nofun, fun _ => hUnsent hPic nofun⟩
    cases hTs
    exact h.deadline ts (by rw [hPic]; rfl)
  | notPending hPic hFlag => exact ⟨nofun, rfl, nofun, h.jpegLock, fun _ => hFlag, fun hNot => absurd rfl hNot⟩
  | @locks ts hPic hFree =>
    refine ⟨fun ts' hTs => ?_, rfl, fun _ => rfl, fun hHolds => ?_, nofun, fun _ => hUnsent hPic nofun⟩
    · cases hTs
      exact h.deadline ts (by rw [hPic]; rfl)
    · have hLock := h.jpegLock hHolds
      rw [hFree] at hLock
      cases hLock
  | fails hPic =>
    refine ⟨nofun, rfl, fun _ => ?_, h.jpegLock, nofun, fun _ => hUnsent hPic nofun⟩
    exact h.picLock (by rw [hPic]; rfl)
  | clears hPic =>
    refine ⟨nofun, rfl, nofun, fun hHolds => ?_, fun _ => rfl, fun _ => hUnsent hPic nofun⟩
    have hLock := h.picLock (by rw [hPic]; rfl)
    rw [h.jpegLock hHolds] at hLock
    cases hLock
  | givesUp hPic | copies hPic | sends hPic =>
    have hCleared := h.cleared (by rw [hPic]; rfl)
    first
    | exact ⟨nofun, rfl, nofun, h.jpegLock, fun _ => hCleared, fun _ => hUnsent hPic nofun⟩
    | exact ⟨nofun, rfl, nofun, h.jpegLock, fun _ => hCleared, fun hNot => absurd rfl hNot⟩

theorem ReadyAfter.picMoves (h : ReadyAfter p) (hMoves : PicMoves p p')
    (hLate : ∀ ts, p.pic = .atWait ts → p.Processed) : ReadyAfter p' := by
  cases hMoves with
  | fails hPic => exact ⟨fun _ _ => hLate _ hPic, nofun, h.sends⟩
  | clears hPic => exact ⟨fun _ _ => h.returned _ (.inl hPic), nofun, h.sends⟩
  | copies hPic =>
    refine ⟨nofun, fun params hParams => ?_, h.sends⟩
    cases hParams
    exact ⟨h.returned _ (.inr hPic), rfl⟩
  | sends hPic =>
    refine ⟨nofun, nofun, fun params hParams => ?_⟩
    cases hParams
    exact h.sending _ hPic
  | deadline _ | pending _ _ | notPending _ _ | locks _ _ | givesUp _ => exact ⟨nofun, nofun, h.sends⟩

/-! ## Runs -/

theorem step_cases (h : NeverWaits p) (hNext : Next p a effects p') :
    (a ≠ .pic ∧ (Aside p p' ∨ p.camEvtHandle = some p')) ∨ a = .pic ∧ PicMoves p p' := by
  rw [Next] at hNext
  cases a with
  | tick usec =>
    cases hNext
    exact .inl ⟨nofun, .inl ⟨rfl, rfl, rfl, fun hLock => hLock, h.jpegLock, fun hDone => ⟨hDone, rfl⟩⟩⟩
  | camEvt =>
    obtain ⟨q, hStep, hEq⟩ := Option.map_eq_some_iff.mp hNext
    cases hEq
    exact .inl ⟨nofun, .inr hStep⟩
  | jpegEvt ok =>
    obtain ⟨q, hStep, hEq⟩ := Option.map_eq_some_iff.mp hNext
    cases hEq
    exact .inl ⟨nofun, .inl (aside_processJpegEvt hStep)⟩
  | jpegDump file =>
    obtain ⟨q, hStep, hEq⟩ := Option.map_eq_some_iff.mp hNext
    cases hEq
    exact .inl ⟨nofun, .inl (aside_dumpJpegToFile hStep)⟩
  | jpeg =>
    obtain ⟨q, hStep, hEq⟩ := Option.map_eq_some_iff.mp hNext
    cases hEq
    exact .inl ⟨nofun, .inl (aside_jpegStep h hStep)⟩
  | pic => exact .inr ⟨rfl, picStep_cases h hNext⟩
  | timeout =>
    obtain ⟨q, hStep, -⟩ := Option.map_eq_some_iff.mp hNext
    have hAwake := h.awake
    rw [picTimeout] at hStep
    split at hStep
    · rename_i hPic
      rw [hPic] at hAwake
      cases hAwake
    · cases hStep

theorem NeverWaits.step (h : NeverWaits p) (hNext : Next p a effects p') : NeverWaits p' := by
  rcases step_cases h hNext with ⟨-, hAside | hStart⟩ | ⟨-, hMoves⟩
  · exact h.aside hAside
  · exact neverWaits_camEvtHandle h hStart
  · exact h.picMoves hMoves

theorem ReadyAfter.step (hNever : NeverWaits p) (h : ReadyAfter p)
    (hLate : WaitsLate [] [] p a []) (hNext : Next p a effects p') : ReadyAfter p' := by
  rcases step_cases hNever hNext with ⟨-, hAside | hStart⟩ | ⟨hPic, hMoves⟩
  · exact h.aside hAside
  · exact readyAfter_camEvtHandle h hStart
  · exact h.picMoves hMoves (hLate hPic)

theorem Processed.step (hNever : NeverWaits p) (h : p.Processed) (hNext : Next p a effects p') :
    p'.Processed := by
  rcases step_cases hNever hNext with ⟨-, hAside | hStart⟩ | ⟨-, hMoves⟩
  · exact (hAside.ready h).1
  · rw [camEvtHandle] at hStart
    split at hStart <;> cases hStart
    exact h
  · cases hMoves <;> exact h

theorem NeverWaits.waitsASecond (h : NeverWaits p) : p.WaitsASecond := by
  intro ts since hPic
  have hAwake := h.awake
  rw [hPic] at hAwake
  cases hAwake

theorem NeverWaits.clears (h : NeverWaits p) : p.Clears := by
  intro hPic
  exact h.cleared (by rw [hPic]; rfl)

/-- The state before the event of the backend. -/
structure Start (p : IntPicture) : Prop where
  pending : p.intEvtPending = false
  lock : p.intLock = none
  pic : p.pic = .idle
  jpeg : p.jpeg = .encoding
  sent : p.sent = none

theorem Start.neverWaits (h : Start p) : NeverWaits p := by
  obtain ⟨hPending, hLock, hPic, hJpeg, hSent⟩ := h
  constructor
  · rw [hPic]
    exact fun ts hTs => by cases hTs
  · rw [hPic]
    rfl
  · rw [hPic]
    exact fun hHolds => by cases hHolds
  · rw [hJpeg]
    exact fun hHolds => by cases hHolds
  · exact fun _ => hPending
  · exact fun _ => hSent

theorem Start.readyAfter (h : Start p) : ReadyAfter p := by
  obtain ⟨-, -, hPic, -, hSent⟩ := h
  refine ⟨fun rc hEq => ?_, fun params hEq => ?_, fun params hEq => ?_⟩
  · rw [hPic] at hEq
    rcases hEq with hEq | hEq <;> cases hEq
  · rw [hPic] at hEq
    cases hEq
  · rw [hSent] at hEq
    cases hEq

theorem sends_at_once {ts : Timespec} (h : NeverWaits p) (hPic : p.pic = .atWait ts) :
    ∃ acts effects p', Lib.Steps Next Lib.anyStep p acts effects p' ∧
    p'.sent = some p.intEvtParams ∧
      p'.jpeg = p.jpeg := by
  let returned : IntPicture := { p with pic := .returned .einval }
  let unlocked : IntPicture := { returned with pic := .unlocked .einval, intEvtPending := false, intLock := none }
  let sending : IntPicture := { unlocked with pic := .sending p.intEvtParams }
  have hFails : p.step .pic = some (returned, []) := by
    rw [step, picStep, hPic]
    exact if_neg (h.deadline ts (by rw [hPic]; rfl))
  have hClears : returned.step .pic = some (unlocked, []) := rfl
  have hCopies : unlocked.step .pic = some (sending, []) := rfl
  have hSends : sending.step .pic = some ({ sending with pic := .done, sent := some p.intEvtParams }, _) := rfl
  exact ⟨_, _, _, (((Lib.Steps.start.step trivial hFails).step trivial hClears).step trivial hCopies).step
    trivial hSends, rfl, rfl⟩

/-- In every state the thread has not waited for longer than a second and has cleared the flag at
its end; where it has waited, or not, after the JPEG event was processed, it sends the picture's
file; and from the wait on it is sure to do that exactly if the event has been processed by then. -/
theorem checkIntPicPending_runs (p₀ : IntPicture) (hStart : Start p₀) :
    (∀ acts effects p, Lib.Steps Next WaitsLate p₀ acts effects p →
      p.SendsReady ∧ p.WaitsASecond ∧ p.Clears) ∧
    ∀ acts effects p, Lib.Steps Next Lib.anyStep p₀ acts effects p →
      p.WaitsASecond ∧ p.Clears ∧ ∀ ts, p.pic = .atWait ts →
        ((∀ acts' effects' p', Lib.Steps Next Lib.anyStep p acts' effects' p' → p'.SendsReady) ↔
          p.Processed) := by
  constructor
  · intro acts effects p run
    have hBoth : NeverWaits p ∧ ReadyAfter p := by
      refine run.history (I := fun _ _ p => NeverWaits p ∧ ReadyAfter p) ?_ ?_
      · exact ⟨hStart.neverWaits, hStart.readyAfter⟩
      · intro acts effects p a emitted p' hLate hBoth hNext
        exact ⟨hBoth.1.step hNext, hBoth.2.step hBoth.1 hLate hNext⟩
    exact ⟨hBoth.2.sends, hBoth.1.waitsASecond, hBoth.1.clears⟩
  · intro acts effects p run
    have hNever : NeverWaits p := by
      refine run.history (I := fun _ _ => NeverWaits) hStart.neverWaits ?_
      intro acts effects p a emitted p' _ hNever hNext
      exact hNever.step hNext
    refine ⟨hNever.waitsASecond, hNever.clears, fun ts hPic => ⟨fun hAll => ?_, fun hReady => ?_⟩⟩
    · obtain ⟨acts', effects', p', run', hSent, hJpeg⟩ := sends_at_once hNever hPic
      have hProcessed := (hAll acts' effects' p' run' _ hSent).1
      rwa [Processed, hJpeg] at hProcessed
    · intro acts' effects' p' run'
      have hAll : NeverWaits p' ∧ ReadyAfter p' ∧ p'.Processed := by
        refine run'.history (I := fun _ _ p => NeverWaits p ∧ ReadyAfter p ∧ p.Processed) ?_ ?_
        · have hSent := hNever.unsent (by rw [hPic]; nofun)
          refine ⟨hNever, ⟨fun _ _ => hReady, fun params hEq => ?_, fun params hEq => ?_⟩, hReady⟩
          · rw [hPic] at hEq
            cases hEq
          · rw [hSent] at hEq
            cases hEq
        · intro acts effects q a emitted q' _ hHolds hNext
          obtain ⟨hNever, hAfter, hDone⟩ := hHolds
          exact ⟨hNever.step hNext, hAfter.step hNever (fun _ _ _ => hDone) hNext,
            hDone.step hNever hNext⟩
      exact hAll.2.1.sends

/-- Before the backend asks for a picture. -/
def quiet : IntPicture where
  clock := 0
  backendFileName := []
  backendFileSize := 0
  dstDim := (640, 480)
  wantsImage := true
  zslMode := false
  jpegMemOpt := false

theorem quiet_start : Start quiet := ⟨rfl, rfl, rfl, rfl, rfl⟩

/-- A step that does not begin the wait early. -/
def lateStep (p : IntPicture) (a : Act) : Option (IntPicture × List IntPicEffect) :=
  match a, p.pic with
  | .pic, .atWait _ => if p.Processed then p.step a else none
  | _, _ => p.step a

theorem lateStep_spec {emitted : List IntPicEffect} (h : p.lateStep a = some (p', emitted)) :
    Next p a emitted p' ∧ WaitsLate acts effects p a emitted := by
  unfold lateStep at h
  split at h
  · split at h
    · rename_i hReady
      exact ⟨h, fun _ _ _ => hReady⟩
    · cases h
  · rename_i hOther
    refine ⟨h, fun hPic ts hWait => ?_⟩
    subst hPic
    exact absurd hWait (hOther ts rfl)

/-- The JPEG event is processed while the thread takes the picture. -/
def lateActs : List Act :=
  [.camEvt, .jpegEvt true, .jpegDump (some ([49, 46, 106], 7000)), .jpeg, .jpeg, .jpeg, .jpeg,
    .tick 999999, .pic, .pic, .pic, .pic, .pic, .pic, .pic]

theorem checkIntPicPending_runs_late : ∃ effects p,
    Lib.Steps Next WaitsLate quiet lateActs effects p ∧
    p.sent = some ⟨(640, 480), [49, 46, 106], 7000⟩ ∧
      p.SendsReady ∧ p.WaitsASecond ∧ p.Clears := by
  have hRun : (Lib.exec (fun _ _ => lateStep) [] [] quiet lateActs).map (fun r => r.1.sent) =
      some (some ⟨(640, 480), [49, 46, 106], 7000⟩) := by decide +kernel
  obtain ⟨r, hExec, hSent⟩ := Option.map_eq_some_iff.mp hRun
  have run := Lib.Steps.of_exec Next WaitsLate (fun _ _ _ _ _ _ _ h => lateStep_spec h) hExec
  exact ⟨_, _, run, hSent, (checkIntPicPending_runs quiet quiet_start).1 _ _ _ run⟩

/-- The thread comes to the wait before the picture is encoded and reports it at once. -/
theorem reported_unready : ∃ acts effects p, Lib.Steps Next Lib.anyStep quiet acts effects p ∧
    p.sent = some ⟨(640, 480), [], 0⟩ ∧ p.jpeg = .encoding ∧ ¬ p.SendsReady := by
  have hRun : (Lib.exec (fun _ _ => step) [] [] quiet [.camEvt, .pic, .pic, .pic, .pic, .pic, .pic, .pic]).map
      (fun r => (r.1.sent, r.1.jpeg)) = some (some ⟨(640, 480), [], 0⟩, .encoding) := by decide +kernel
  obtain ⟨r, hExec, hEnd⟩ := Option.map_eq_some_iff.mp hRun
  obtain ⟨hSent, hJpeg⟩ := Prod.mk.inj hEnd
  have run := Lib.Steps.of_exec Next Lib.anyStep (fun _ _ _ _ _ _ _ h => ⟨h, trivial⟩) hExec
  refine ⟨_, _, _, run, hSent, hJpeg, fun hSends => ?_⟩
  exact not_processed hJpeg (by decide) (by decide) (hSends _ hSent).1

end IntPicture

end KiwiDevice.Hal

import KiwiDevice.Gps.MuteSession
import KiwiDevice.Lib.Since
import Mathlib.Data.Nat.Bitwise

/-!
# Deleting aiding data

A request to delete aiding data while the engine is on is parked in one field until a message finds
the engine in another state. A later request takes the place of the parked one.
-/

namespace KiwiDevice.Gps

inductive AidingMsg where
  /-- `LocEngDelAidData` -/
  | delAidData (mType : Nat)
  | engine (msg : LocMsg)

inductive AidingEvent where
  | request (mask : Nat)
  /-- The adapter's `deleteAidingData`, and whether the recorded status is `ENGINE_ON` then. -/
  | delete (on : Bool) (mask : Nat)
  /-- The end of a message that calls `update_aiding_data_for_deletion`. -/
  | updated (on : Bool)
  deriving DecidableEq, Repr

namespace AidingEvent

def isRequest (b : Nat) : AidingEvent → Bool
  | request mask => mask.testBit b
  | _ => false

def isDelete : AidingEvent → Bool
  | delete _ _ => true
  | _ => false

/-- The bit was requested and nothing was deleted since. -/
def Owed (b : Nat) : List AidingEvent → Prop :=
  Lib.Since (fun _ x => x.isRequest b = true) fun x => x.isDelete = false

/-- A deletion takes every bit that is owed and finds the engine not on, and after a message that
finds it not on no bit is owed. -/
def CarriesOut (before : List AidingEvent) : AidingEvent → Prop
  | request _ => True
  | delete on mask => on = false ∧ ∀ b, Owed b before → mask.testBit b = true
  | updated on => on = false → ∀ b, ¬ Owed b before

def CarriedOut : List AidingEvent → Prop := Lib.Each CarriesOut

variable {events : List AidingEvent} {b mask : Nat} {on : Bool}

theorem owed_request :
    Owed b (events ++ [request mask]) ↔ mask.testBit b = true ∨ Owed b events := by
  rw [Owed, Lib.since_snoc]
  exact or_congr Iff.rfl (and_iff_right rfl)

theorem not_owed_delete : ¬ Owed b (events ++ [delete on mask]) := by
  rw [Owed, Lib.since_snoc]
  rintro (hRequest | ⟨hKeep, -⟩)
  · cases hRequest
  · cases hKeep

theorem owed_updated : Owed b (events ++ [updated on]) ↔ Owed b events := by
  rw [Owed, Lib.since_snoc]
  simp [isRequest, isDelete]

end AidingEvent

namespace LocEngData

open AidingEvent

variable {e : LocEngData} {events : List AidingEvent} {msg : AidingMsg}

def isOn (e : LocEngData) : Bool := e.engineStatus = .engineOn

/-- The call that `update_aiding_data_for_deletion` makes. -/
def deletes (e : LocEngData) : List Nat :=
  if e.engineStatus ≠ .engineOn ∧ e.aidingDataForDeletion ≠ 0 then [e.aidingDataForDeletion] else []

def updateEvents (e : LocEngData) : List AidingEvent :=
  e.deletes.map (.delete e.isOn) ++ [.updated e.isOn]

def procAiding (e : LocEngData) : AidingMsg → LocEngData × List AidingEvent
  | .delAidData mType =>
    let e' := { e with aidingDataForDeletion := mType }
    (e'.updateAidingDataForDeletion, .request mType :: e'.updateEvents)
  | .engine (.reportStatus status) =>
    ((e.proc (.reportStatus status)).1, (e.reportStatus status).1.updateEvents)
  | .engine msg => ((e.proc msg).1, [])

/-- A step of the engine with the calls of the adapter. -/
def AidingNext (e : LocEngData) (msg : AidingMsg) (events : List AidingEvent) (e' : LocEngData) :
    Prop :=
  e.procAiding msg = (e', events)

/-- A request does not leave out a bit that is parked. -/
def KeepsParked (_ : List AidingMsg) (_ : List AidingEvent) (e : LocEngData) (msg : AidingMsg)
    (_ : List AidingEvent) : Prop :=
  ∀ mType, msg = .delAidData mType → ∀ b, e.aidingDataForDeletion.testBit b = true → mType.testBit b = true

/-- What is owed is parked. -/
structure Parked (events : List AidingEvent) (e : LocEngData) : Prop where
  carried : CarriedOut events
  owed : ∀ b, Owed b events → e.aidingDataForDeletion.testBit b = true

/-- `update_aiding_data_for_deletion` carries out what is parked unless the engine is on. -/
theorem Parked.update (h : Parked events e) :
    Parked (events ++ e.updateEvents) e.updateAidingDataForDeletion := by
  rcases eq_or_ne e.engineStatus .engineOn with hOn | hNotOn
  · have hEvents : e.updateEvents = [.updated true] := by
      rw [updateEvents, deletes, if_neg (fun hBoth => hBoth.1 hOn), isOn, decide_eq_true hOn]
      rfl
    have hSame : e.updateAidingDataForDeletion = e := if_neg (fun hNot => hNot hOn)
    rw [hEvents, hSame]
    refine ⟨Lib.each_snoc.mpr ⟨h.carried, fun hOff => by cases hOff⟩, fun b hOwed => ?_⟩
    exact h.owed b (owed_updated.mp hOwed)
  · have hOff : e.isOn = false := decide_eq_false hNotOn
    have hCleared : e.updateAidingDataForDeletion = { e with aidingDataForDeletion := 0 } := if_pos hNotOn
    rw [hCleared, updateEvents, deletes, hOff]
    rcases eq_or_ne e.aidingDataForDeletion 0 with hZero | hSome
    · have hNone : ∀ b, ¬ Owed b events := by
        intro b hOwed
        have hBit := h.owed b hOwed
        rw [hZero, Nat.zero_testBit] at hBit
        cases hBit
      rw [if_neg (fun hBoth => hBoth.2 hZero), List.map_nil, List.nil_append]
      refine ⟨Lib.each_snoc.mpr ⟨h.carried, fun _ => hNone⟩, fun b hOwed => ?_⟩
      exact absurd (owed_updated.mp hOwed) (hNone b)
    · rw [if_pos ⟨hNotOn, hSome⟩, List.map_singleton, ← List.append_assoc]
      have hDeleted : CarriedOut (events ++ [.delete false e.aidingDataForDeletion]) :=
        Lib.each_snoc.mpr ⟨h.carried, rfl, h.owed⟩
      refine ⟨Lib.each_snoc.mpr ⟨hDeleted, fun _ b => not_owed_delete⟩, fun b hOwed => ?_⟩
      exact absurd (owed_updated.mp hOwed) not_owed_delete

theorem Parked.request {mType : Nat} (h : Parked events e)
    (hKeeps : ∀ b, e.aidingDataForDeletion.testBit b = true → mType.testBit b = true) :
    Parked (events ++ [.request mType]) { e with aidingDataForDeletion := mType } := by
  refine ⟨Lib.each_snoc.mpr ⟨h.carried, trivial⟩, fun b hOwed => ?_⟩
  rcases owed_request.mp hOwed with hNew | hOld
  · exact hNew
  · exact hKeeps b (h.owed b hOld)

theorem Parked.of_aiding {e' : LocEngData} (h : Parked events e)
    (hSame : e'.aidingDataForDeletion = e.aidingDataForDeletion) : Parked events e' :=
  ⟨h.carried, fun b hOwed => hSame ▸ h.owed b hOwed⟩

theorem proc_aiding (e : LocEngData) (msg : LocMsg) (hNot : ∀ status, msg ≠ .reportStatus status) :
    (e.proc msg).1.aidingDataForDeletion = e.aidingDataForDeletion := by
  cases msg with
  | reportStatus status => exact absurd rfl (hNot status)
  | requestNi emergency notifyFlags payload =>
    rw [proc, niRequestHandler]
    split
    · dsimp only
      cases emergency <;> split <;> rfl
    · rfl
  | reportPosition r =>
    rw [proc, reportPosition]
    split
    · rfl
    · dsimp only
      split <;> rfl
  | engineDown =>
    rw [proc, handleEngineDown, niResetOnEngineRestart]
    split <;> rfl
  | engineUp =>
    rw [proc, handleEngineUp]
    split <;> rfl
  | niDone emergency => cases emergency <;> rfl
  | reportSv _ | reportNmea | reportGpsMeasurement | startFix _ | stopFix | positionMode _ => rfl

theorem Parked.step {e' : LocEngData} {emitted : List AidingEvent} (h : Parked events e)
    (hKeeps : KeepsParked [] [] e msg []) (hNext : AidingNext e msg emitted e') :
    Parked (events ++ emitted) e' := by
  cases msg with
  | delAidData mType =>
    cases hNext
    have hUpdate := (h.request (hKeeps mType rfl)).update
    rwa [List.append_assoc, List.singleton_append] at hUpdate
  | engine msg =>
    by_cases hReport : ∃ status, msg = .reportStatus status
    · obtain ⟨status, rfl⟩ := hReport
      cases hNext
      have hReported : Parked events (e.reportStatus status).1 := h.of_aiding rfl
      exact hReported.update
    · have hNot : ∀ status, msg ≠ .reportStatus status := fun status hEq => hReport ⟨status, hEq⟩
      have hSilent : e.procAiding (.engine msg) = ((e.proc msg).1, []) := by
        cases msg with
        | reportStatus status => exact absurd rfl (hNot status)
        | _ => rfl
      rw [AidingNext, hSilent] at hNext
      cases hNext
      rw [List.append_nil]
      exact h.of_aiding (proc_aiding e msg hNot)

/-- Where no request leaves out a parked bit, every bit is deleted with the first call after it,
which finds the engine not on, and at once where the engine is not on. -/
theorem aidingData_carriedOut (e₀ : LocEngData) {msgs : List AidingMsg}
    (run : Lib.Steps AidingNext KeepsParked { e₀ with engineStatus := .none, aidingDataForDeletion := 0 }
      msgs events e) : CarriedOut events := by
  have hParked : Parked events e := by
    refine run.history (I := fun _ => Parked) ?_ ?_
    · exact ⟨Lib.each_nil, fun b hOwed => absurd hOwed Lib.not_since_nil⟩
    · intro msgs events e msg emitted e' hKeeps hParked hNext
      exact hParked.step hKeeps hNext
  exact hParked.carried

theorem run_aiding {allowed : List AidingMsg → List AidingEvent → LocEngData → AidingMsg →
      List AidingEvent → Prop} {e₀ : LocEngData} {msgs : List AidingMsg}
    (run : Lib.Steps AidingNext allowed e₀ msgs events e) (msg : AidingMsg)
    (ok : allowed msgs events e msg (e.procAiding msg).2) :
    Lib.Steps AidingNext allowed e₀ (msgs ++ [msg]) (events ++ (e.procAiding msg).2)
      (e.procAiding msg).1 := run.step ok rfl

theorem keepsParked_engine (e : LocEngData) (msg : LocMsg) :
    KeepsParked [] [] e (.engine msg) [] := by
  intro mType hEq
  cases hEq

theorem keepsParked_or (m m' : Nat) (h : e.aidingDataForDeletion = m) :
    KeepsParked [] [] e (.delAidData (m ||| m')) [] := by
  intro mType hEq b hBit
  cases hEq
  rw [Nat.testBit_or, ← h, hBit, Bool.true_or]

/-- Two requests while the engine is on, of which the second asks for what the first does
and more. -/
theorem aidingData_carriedOut_twice : CarriedOut [.updated true, .request (0 ||| 1), .updated true,
    .request (1 ||| 2), .updated true, .delete false 3, .updated false] :=
  aidingData_carriedOut {}
    (run_aiding
      (run_aiding
        (run_aiding
          (run_aiding .start (.engine (.reportStatus .engineOn)) (keepsParked_engine _ _))
          (.delAidData (0 ||| 1)) (keepsParked_or 0 1 rfl))
        (.delAidData (1 ||| 2)) (keepsParked_or 1 2 rfl))
      (.engine (.reportStatus .engineOff)) (keepsParked_engine _ _))

/-- The bit of the first request is not in the mask of the first deletion. -/
theorem aidingData_lost : ∃ msgs events e,
    Lib.Steps AidingNext Lib.anyStep {} msgs events e ∧
      events = [.updated true, .request 1, .updated true, .request 2, .updated true, .delete false 2,
        .updated false] ∧ ¬ CarriedOut events := by
  refine ⟨_, _, _, run_aiding (run_aiding (run_aiding (run_aiding .start
    (.engine (.reportStatus .engineOn)) trivial) (.delAidData 1) trivial) (.delAidData 2) trivial)
    (.engine (.reportStatus .engineOff)) trivial, rfl, fun hCarried => ?_⟩
  have hDeleted := hCarried [.updated true, .request 1, .updated true, .request 2, .updated true]
    (.delete false 2) [.updated false] rfl
  have hOwed : Owed 0 [.updated true, .request 1, .updated true, .request 2, .updated true] := by
    refine ⟨[.updated true], .request 1, [.updated true, .request 2, .updated true], rfl, rfl, ?_⟩
    decide
  exact absurd (hDeleted.2 0 hOwed) (by decide)

end LocEngData

end KiwiDevice.Gps

import KiwiDevice.Lib.Steps
import Mathlib.Logic.Function.Basic

/-!
# Map and unmap requests

The threads that call `mm_camera_util_sendmsg` on one camera, the server, which answers every
message it got with one event, and the thread that runs `mm_camera_event_notify`. A message is named
by its number; that the shared record `evt_rcvd` holds the answer to a certain message is not in the
program.
-/

namespace KiwiDevice.Camera

/-- The status of an event; the header of the kernel that defines the codes is elsewhere. -/
inductive MsmCameraStatus where
  | success
  | fail
  | other (code : Nat)
  deriving DecidableEq, Repr

/-- An event `CAM_EVENT_TYPE_MAP_UNMAP_DONE`, with the message that it answers. -/
structure MapUnmapDone where
  msg : Nat
  status : MsmCameraStatus
  deriving DecidableEq, Repr

/-- A caller of `mm_camera_util_sendmsg`: outside, with `msg_lock`, on its way into
`mm_camera_util_wait_for_event`, in `pthread_cond_timedwait`, back from it (with `ETIMEDOUT` or
not) and without `evt_lock`, or with its result. -/
inductive MsgCaller where
  | out
  | locked
  | sent (msg : Nat)
  | waiting (msg : Nat)
  | woken (msg : Nat)
  | timedOut (msg : Nat)
  | returning (msg : Option Nat) (rc : Int)
  deriving DecidableEq, Repr

/-- `unanswered` are the messages at the server, `events` those that the kernel keeps until they are
dequeued, `dequeued` the one that waits for `evt_lock`. The last three fields are the history; of a
time-out it keeps whether the server had answered. -/
structure MsgWorld where
  msgLock : Option Nat := none
  callers : Nat → MsgCaller := fun _ => .out
  nextMsg : Nat := 0
  unanswered : List Nat := []
  events : List MapUnmapDone := []
  dequeued : Option MapUnmapDone := none
  evtRcvd : Option MapUnmapDone := none
  answered : List MapUnmapDone := []
  expired : List (Nat × Bool) := []
  returned : List (Option Nat × Int) := []

namespace MsgWorld

inductive Input where
  | lockMsg (c : Nat)
  | sendmsg (c : Nat) (accepted : Bool)
  | waitForEvent (c : Nat)
  | wakeSpuriously (c : Nat)
  | timeOut (c : Nat)
  | unlockMsg (c : Nat)
  | answer (status : MsmCameraStatus)
  | dqevent
  | eventNotify (c : Nat)
  deriving Repr

variable (w : MsgWorld)

def setCaller (c : Nat) (caller : MsgCaller) : MsgWorld :=
  { w with callers := Function.update w.callers c caller }

/-- `rc` is 0 for the status of success. -/
def rcOf (status : MsmCameraStatus) : Int := if status = .success then 0 else -1

/-- The test of the loop, with `evt_lock`: the record is taken and cleared, or the caller waits. -/
def checkEvent (c msg : Nat) : MsgWorld :=
  match w.evtRcvd with
  | some done => { w.setCaller c (.returning (some msg) (rcOf done.status)) with evtRcvd := none }
  | none => w.setCaller c (.waiting msg)

/-- `pthread_cond_signal` wakes a caller `c` that waits, when there is one. -/
def signal (c : Nat) : MsgWorld :=
  match w.callers c with
  | .waiting msg => w.setCaller c (.woken msg)
  | _ => w

def isWaiting (c : Nat) : Bool :=
  match w.callers c with
  | .waiting _ => true
  | _ => false

def step (w : MsgWorld) : Input → Option MsgWorld
  | .lockMsg c =>
    if w.callers c = .out ∧ w.msgLock = none then
      some { w.setCaller c .locked with msgLock := some c }
    else none
  | .sendmsg c accepted =>
    if w.callers c = .locked then
      if accepted then
        some { w.setCaller c (.sent w.nextMsg) with
          unanswered := w.unanswered ++ [w.nextMsg]
          nextMsg := w.nextMsg + 1 }
      else some (w.setCaller c (.returning none (-1)))
    else none
  | .waitForEvent c =>
    match w.callers c with
    | .sent msg | .woken msg => some (w.checkEvent c msg)
    -- the record is cleared, whatever it holds by now
    | .timedOut msg =>
      some { w.setCaller c (.returning (some msg) (rcOf .fail)) with evtRcvd := none }
    | _ => none
  | .wakeSpuriously c =>
    match w.callers c with
    | .waiting msg => some (w.setCaller c (.woken msg))
    | _ => none
  | .timeOut c =>
    match w.callers c with
    | .waiting msg =>
      some { w.setCaller c (.timedOut msg) with
        expired := w.expired ++ [(msg, !w.unanswered.contains msg)] }
    | _ => none
  | .unlockMsg c =>
    match w.callers c with
    | .returning msg rc =>
      some { w.setCaller c .out with
        msgLock := none
        returned := w.returned ++ [(msg, rc)] }
    | _ => none
  | .answer status =>
    match w.unanswered with
    | msg :: rest =>
      some { w with
        unanswered := rest
        events := w.events ++ [⟨msg, status⟩]
        answered := w.answered ++ [⟨msg, status⟩] }
    | [] => none
  | .dqevent =>
    match w.dequeued, w.events with
    | none, done :: rest => some { w with dequeued := some done, events := rest }
    | _, _ => none
  | .eventNotify c =>
    match w.dequeued with
    | some done =>
      -- only the holder of `msg_lock` can wait
      if w.isWaiting c ∨ w.msgLock.all (fun holder => !w.isWaiting holder) then
        some { w.signal c with dequeued := none, evtRcvd := some done }
      else none
    | none => none

def Next (w : MsgWorld) (i : Input) (_ : List Unit) (w' : MsgWorld) : Prop := w.step i = some w'

end MsgWorld

/-! ### A request and its own answer

A result is paired with the answer of its message as long as no message is sent while the answer of an
earlier one is still on its way. -/

/-- The message whose answer the caller is after. -/
def MsgCaller.pending : MsgCaller → Option Nat
  | .sent msg | .waiting msg | .woken msg | .timedOut msg => some msg
  | .out | .locked | .returning .. => none

namespace MsgWorld

variable {w w' : MsgWorld} {c c' msg : Nat} {x : MsgCaller}

/-- The answers between the server and a caller. -/
def delivered (w : MsgWorld) : List MapUnmapDone :=
  w.evtRcvd.toList ++ w.dequeued.toList ++ w.events

/-- The messages whose answer no caller has taken. -/
def outstanding (w : MsgWorld) : List Nat := w.delivered.map MapUnmapDone.msg ++ w.unanswered

/-- A message is sent when no answer is on its way, and no wait ends by time once the server has
answered with success. -/
def InTurn (w : MsgWorld) : Input → Prop
  | .sendmsg _ accepted => accepted = true → w.outstanding = []
  | .timeOut c => ∀ msg, w.callers c = .waiting msg → ⟨msg, .success⟩ ∉ w.answered
  | _ => True

/-- The wait for the message ended by time before the server answered, or the server refused. -/
def Excused (w : MsgWorld) (msg : Nat) : Prop :=
  (msg, false) ∈ w.expired ∨ ∃ status, status ≠ .success ∧ ⟨msg, status⟩ ∈ w.answered

def Judged (w : MsgWorld) (msg : Option Nat) (rc : Int) : Prop :=
  (rc = 0 ∧ ∃ m, msg = some m ∧ ⟨m, .success⟩ ∈ w.answered) ∨
    rc ≠ 0 ∧ ∀ m, msg = some m → w.Excused m

/-- What holds of one caller. -/
structure Fits (w : MsgWorld) (c : Nat) (x : MsgCaller) : Prop where
  holder : x ≠ .out → w.msgLock = some c
  pending : ∀ msg, x.pending = some msg → w.outstanding = [msg]
  waiting : ∀ msg, x = .waiting msg → w.evtRcvd = none
  timedOut : ∀ msg, x = .timedOut msg → w.Excused msg
  returning : ∀ msg rc, x = .returning msg rc → w.Judged msg rc

structure Sound (w : MsgWorld) : Prop where
  fits : ∀ c, w.Fits c (w.callers c)
  few : w.outstanding.length ≤ 1
  delivered : ∀ done ∈ w.delivered, done ∈ w.answered
  unanswered : ∀ msg ∈ w.unanswered, ∀ status, ⟨msg, status⟩ ∉ w.answered
  answered : ∀ done ∈ w.answered, done.msg < w.nextMsg
  sent : ∀ msg ∈ w.unanswered, msg < w.nextMsg
  once : ∀ done ∈ w.answered, ∀ done' ∈ w.answered, done.msg = done'.msg → done = done'
  returned : ∀ msg rc, (msg, rc) ∈ w.returned → w.Judged msg rc

theorem setCaller_same : (w.setCaller c x).callers c = x := Function.update_self ..

theorem setCaller_of_ne (h : c' ≠ c) : (w.setCaller c x).callers c' = w.callers c' :=
  Function.update_of_ne h ..

theorem Excused.later (h : w.Excused msg) (hAnswered : w.answered ⊆ w'.answered)
    (hExpired : w.expired ⊆ w'.expired) : w'.Excused msg :=
  h.imp (fun hMem => hExpired hMem) fun ⟨status, hStatus, hMem⟩ => ⟨status, hStatus, hAnswered hMem⟩

theorem Judged.later {msg : Option Nat} {rc : Int} (h : w.Judged msg rc)
    (hAnswered : w.answered ⊆ w'.answered) (hExpired : w.expired ⊆ w'.expired) :
    w'.Judged msg rc := by
  rcases h with ⟨hRc, m, hMsg, hMem⟩ | ⟨hRc, hExcused⟩
  · exact .inl ⟨hRc, m, hMsg, hAnswered hMem⟩
  · exact .inr ⟨hRc, fun m hMsg => (hExcused m hMsg).later hAnswered hExpired⟩

theorem fits_out : w.Fits c .out :=
  ⟨fun h => absurd rfl h, nofun, nofun, nofun, nofun⟩

theorem Sound.out_of_ne (h : w.Sound) (hLock : w.msgLock = some c) (hNe : c' ≠ c) :
    w.callers c' = .out := by
  by_contra hIn
  have hEq := ((h.fits c').holder hIn).symm.trans hLock
  exact hNe (Option.some.inj hEq)

/-- When `c` has the lock, or the lock is free, the others need no care. -/
theorem fits_of_holder (hOthers : ∀ c', c' ≠ c → w'.callers c' = .out)
    (h : w'.Fits c (w'.callers c)) : ∀ c', w'.Fits c' (w'.callers c') := by
  intro c'
  by_cases hSame : c' = c
  · rw [hSame]
    exact h
  · rw [hOthers c' hSame]
    exact fits_out

theorem Fits.later (h : w.Fits c x) (hLock : w'.msgLock = w.msgLock)
    (hOutstanding : w'.outstanding = w.outstanding)
    (hRcvd : ∀ msg, x = .waiting msg → w'.evtRcvd = w.evtRcvd)
    (hAnswered : w.answered ⊆ w'.answered) (hExpired : w.expired ⊆ w'.expired) : w'.Fits c x where
  holder hIn := hLock.trans (h.holder hIn)
  pending msg hMsg := hOutstanding.trans (h.pending msg hMsg)
  waiting msg hMsg := (hRcvd msg hMsg).trans (h.waiting msg hMsg)
  timedOut msg hMsg := (h.timedOut msg hMsg).later hAnswered hExpired
  returning msg rc hMsg := (h.returning msg rc hMsg).later hAnswered hExpired

theorem Sound.advance (h : w.Sound) (hIn : w.callers c ≠ .out) (hFits : w.Fits c x) :
    (w.setCaller c x).Sound where
  fits := by
    have hLock := (h.fits c).holder hIn
    apply fits_of_holder (c := c)
    · intro c' hNe
      rw [setCaller_of_ne hNe]
      exact h.out_of_ne hLock hNe
    · rw [setCaller_same]
      exact hFits.later rfl rfl (fun _ _ => rfl) (fun _ => id) (fun _ => id)
  few := h.few
  delivered := h.delivered
  unanswered := h.unanswered
  answered := h.answered
  sent := h.sent
  once := h.once
  returned := h.returned

theorem Sound.lockMsg (h : w.Sound) (hFree : w.msgLock = none) :
    Sound { w.setCaller c .locked with msgLock := some c } where
  fits := by
    apply fits_of_holder (c := c)
    · intro c' hNe
      have hOut : w.callers c' = .out := by
        by_contra hIn
        cases ((h.fits c').holder hIn).symm.trans hFree
      exact (setCaller_of_ne hNe).trans hOut
    · have hLocked : (w.setCaller c .locked).callers c = .locked := setCaller_same
      rw [hLocked]
      exact ⟨fun _ => rfl, nofun, nofun, nofun, nofun⟩
  few := h.few
  delivered := h.delivered
  unanswered := h.unanswered
  answered := h.answered
  sent := h.sent
  once := h.once
  returned := h.returned

theorem Sound.unlockMsg {msg : Option Nat} {rc : Int} (h : w.Sound)
    (hCaller : w.callers c = .returning msg rc) :
    Sound { w.setCaller c .out with msgLock := none, returned := w.returned ++ [(msg, rc)] } where
  fits := by
    have hLock := (h.fits c).holder (by rw [hCaller]; nofun)
    apply fits_of_holder (c := c)
    · intro c' hNe
      exact (setCaller_of_ne hNe).trans (h.out_of_ne hLock hNe)
    · have hOut : (w.setCaller c .out).callers c = .out := setCaller_same
      rw [hOut]
      exact fits_out
  few := h.few
  delivered := h.delivered
  unanswered := h.unanswered
  answered := h.answered
  sent := h.sent
  once := h.once
  returned msg' rc' hMem := by
    rcases List.mem_append.mp hMem with hOld | hNew
    · exact h.returned msg' rc' hOld
    · cases List.mem_singleton.mp hNew
      exact (h.fits c).returning msg rc hCaller

theorem Sound.sendmsg (h : w.Sound) (hCaller : w.callers c = .locked) (hNone : w.outstanding = []) :
    Sound { w.setCaller c (.sent w.nextMsg) with
      unanswered := w.unanswered ++ [w.nextMsg]
      nextMsg := w.nextMsg + 1 } := by
  obtain ⟨hDelivered, hUnanswered⟩ := List.append_eq_nil_iff.mp hNone
  have hDelivered' := List.map_eq_nil_iff.mp hDelivered
  have hLock := (h.fits c).holder (by rw [hCaller]; nofun)
  have hOutstanding : outstanding { w.setCaller c (.sent w.nextMsg) with
      unanswered := w.unanswered ++ [w.nextMsg]
      nextMsg := w.nextMsg + 1 } = [w.nextMsg] := by
    show w.delivered.map MapUnmapDone.msg ++ (w.unanswered ++ [w.nextMsg]) = [w.nextMsg]
    rw [hDelivered, hUnanswered]
    rfl
  refine ⟨?_, ?_, h.delivered, ?_, ?_, ?_, h.once, h.returned⟩
  · apply fits_of_holder (c := c)
    · intro c' hNe
      exact (setCaller_of_ne hNe).trans (h.out_of_ne hLock hNe)
    · have hSent : (w.setCaller c (.sent w.nextMsg)).callers c = .sent w.nextMsg := setCaller_same
      rw [hSent]
      exact ⟨fun _ => hLock, fun msg hMsg => hOutstanding.trans (by rw [Option.some.inj hMsg]),
        nofun, nofun, nofun⟩
  · rw [hOutstanding]
    exact Nat.le_refl 1
  · intro msg hMem status hAnswered
    rw [hUnanswered] at hMem
    rw [List.mem_singleton.mp hMem] at hAnswered
    exact Nat.lt_irrefl _ (h.answered _ hAnswered)
  · intro done hDone
    exact Nat.lt_succ_of_lt (h.answered done hDone)
  · intro msg hMem
    rw [hUnanswered] at hMem
    rw [List.mem_singleton.mp hMem]
    exact Nat.lt_succ_self _

theorem Sound.answer {rest : List Nat} {status : MsmCameraStatus} (h : w.Sound)
    (hUnanswered : w.unanswered = msg :: rest) :
    Sound { w with
      unanswered := rest
      events := w.events ++ [⟨msg, status⟩]
      answered := w.answered ++ [⟨msg, status⟩] } := by
  have hMem : msg ∈ w.unanswered := by
    rw [hUnanswered]
    exact List.mem_cons_self
  have hOutstanding : outstanding { w with
      unanswered := rest
      events := w.events ++ [⟨msg, status⟩]
      answered := w.answered ++ [⟨msg, status⟩] } = w.outstanding := by
    simp only [outstanding, MsgWorld.delivered, hUnanswered, List.map_append, List.map_cons,
      List.map_nil, List.append_assoc, List.cons_append, List.nil_append]
  have hRest : rest = [] := by
    have hFew := h.few
    simp only [outstanding, hUnanswered, List.length_append, List.length_cons] at hFew
    exact List.eq_nil_of_length_eq_zero (by omega)
  subst hRest
  refine ⟨?_, ?_, ?_, nofun, ?_, nofun, ?_, ?_⟩
  · intro c
    exact (h.fits c).later rfl hOutstanding (fun _ _ => rfl) (List.subset_append_left ..)
      fun _ => id
  · rw [hOutstanding]
    exact h.few
  · intro done hDone
    rw [MsgWorld.delivered, ← List.append_assoc] at hDone
    rcases List.mem_append.mp hDone with hOld | hNew
    · exact List.mem_append_left _ (h.delivered done hOld)
    · exact List.mem_append_right _ hNew
  · intro done hDone
    rcases List.mem_append.mp hDone with hOld | hNew
    · exact h.answered done hOld
    · rw [List.mem_singleton.mp hNew]
      exact h.sent msg hMem
  · have hOther : ∀ done ∈ w.answered, done.msg ≠ msg := by
      rintro ⟨_, status'⟩ hDone rfl
      exact h.unanswered _ hMem status' hDone
    intro done hDone done' hDone' hSame
    rcases List.mem_append.mp hDone with hOld | hNew
    · rcases List.mem_append.mp hDone' with hOld' | hNew'
      · exact h.once done hOld done' hOld' hSame
      · rw [List.mem_singleton.mp hNew'] at hSame
        exact absurd hSame (hOther done hOld)
    · rcases List.mem_append.mp hDone' with hOld' | hNew'
      · rw [List.mem_singleton.mp hNew] at hSame
        exact absurd hSame.symm (hOther done' hOld')
      · rw [List.mem_singleton.mp hNew, List.mem_singleton.mp hNew']
  · intro msg' rc hReturned
    exact (h.returned msg' rc hReturned).later (List.subset_append_left ..) fun _ => id

theorem Sound.deliver {events : List MapUnmapDone} {dequeued evtRcvd : Option MapUnmapDone}
    (h : w.Sound) (hRcvd : ∀ c msg, w.callers c = .waiting msg → evtRcvd = none)
    (hSame : evtRcvd.toList ++ dequeued.toList ++ events = w.delivered) :
    Sound { w with events := events, dequeued := dequeued, evtRcvd := evtRcvd } := by
  have hOutstanding : outstanding { w with
      events := events, dequeued := dequeued, evtRcvd := evtRcvd } = w.outstanding :=
    congrArg (fun delivered => delivered.map MapUnmapDone.msg ++ w.unanswered) hSame
  refine ⟨?_, ?_, ?_, h.unanswered, h.answered, h.sent, h.once, h.returned⟩
  · intro c
    exact (h.fits c).later rfl hOutstanding
      (fun msg hMsg => (hRcvd c msg hMsg).trans ((h.fits c).waiting msg hMsg).symm)
      (fun _ => id) fun _ => id
  · rw [hOutstanding]
    exact h.few
  · intro done hDone
    exact h.delivered done (hSame ▸ hDone)

theorem Sound.take {rc : Int} (h : w.Sound) (hIn : w.callers c ≠ .out)
    (hJudged : w.Judged (some msg) rc) :
    Sound { w.setCaller c (.returning (some msg) rc) with evtRcvd := none } := by
  have hLock := (h.fits c).holder hIn
  have hSub : List.Sublist (w.dequeued.toList ++ w.events) w.delivered := by
    rw [MsgWorld.delivered, List.append_assoc]
    exact List.sublist_append_right ..
  refine ⟨?_, ?_, ?_, h.unanswered, h.answered, h.sent, h.once, h.returned⟩
  · apply fits_of_holder (c := c)
    · intro c' hNe
      exact (setCaller_of_ne hNe).trans (h.out_of_ne hLock hNe)
    · have hReturning : (w.setCaller c (.returning (some msg) rc)).callers c =
          .returning (some msg) rc := setCaller_same
      rw [hReturning]
      exact ⟨fun _ => hLock, nofun, nofun, nofun, fun _ _ hEq => by
        cases hEq
        exact hJudged⟩
  · exact Nat.le_trans ((hSub.map _).append_right _).length_le h.few
  · intro done hDone
    exact h.delivered done (hSub.subset hDone)

theorem Sound.judged {done : MapUnmapDone} (h : w.Sound)
    (hPending : (w.callers c).pending = some msg) (hRcvd : w.evtRcvd = some done) :
    w.Judged (some msg) (rcOf done.status) := by
  have hOutstanding := (h.fits c).pending msg hPending
  rw [outstanding, MsgWorld.delivered, hRcvd] at hOutstanding
  have hMsg : done.msg = msg := (List.cons.inj hOutstanding).1
  have hDone : done ∈ w.answered := by
    apply h.delivered
    rw [MsgWorld.delivered, hRcvd]
    exact List.mem_cons_self
  rw [rcOf]
  split
  · rename_i hSuccess
    exact .inl ⟨rfl, msg, rfl, by rw [← hMsg, ← hSuccess]; exact hDone⟩
  · rename_i hOther
    refine .inr ⟨by decide, fun m hEq => .inr ⟨done.status, hOther, ?_⟩⟩
    rw [← Option.some.inj hEq, ← hMsg]
    exact hDone

theorem Sound.checkEvent (h : w.Sound) (hPending : (w.callers c).pending = some msg) :
    (w.checkEvent c msg).Sound := by
  have hIn : w.callers c ≠ .out := fun hOut => by
    rw [hOut] at hPending
    cases hPending
  rw [MsgWorld.checkEvent]
  cases hRcvd : w.evtRcvd with
  | some done => exact h.take hIn (h.judged hPending hRcvd)
  | none =>
    have hFits := h.fits c
    exact h.advance hIn ⟨fun _ => hFits.holder hIn, fun m hMsg => hFits.pending m
      (hPending.trans hMsg), fun _ _ => hRcvd, nofun, nofun⟩

theorem Sound.timeOut (h : w.Sound) (hCaller : w.callers c = .waiting msg)
    (hInTurn : ⟨msg, .success⟩ ∉ w.answered) :
    Sound { w.setCaller c (.timedOut msg) with
      expired := w.expired ++ [(msg, !w.unanswered.contains msg)] } := by
  have hFits := h.fits c
  have hIn : w.callers c ≠ .out := by
    rw [hCaller]
    nofun
  have hPending := hFits.pending msg (by rw [hCaller]; rfl)
  have hExcused : Excused { w with
      expired := w.expired ++ [(msg, !w.unanswered.contains msg)] } msg := by
    by_cases hUnanswered : msg ∈ w.unanswered
    · refine .inl (List.mem_append_right _ ?_)
      rw [List.contains_iff_mem.mpr hUnanswered]
      exact List.mem_singleton_self _
    · have hMem : msg ∈ w.outstanding := by
        rw [hPending]
        exact List.mem_singleton_self _
      obtain ⟨done, hDone, rfl⟩ :=
        List.mem_map.mp ((List.mem_append.mp hMem).resolve_right hUnanswered)
      have hAnswered := h.delivered done hDone
      exact .inr ⟨done.status, fun hSuccess => hInTurn (hSuccess ▸ hAnswered), hAnswered⟩
  have hExpired : Sound { w with
      expired := w.expired ++ [(msg, !w.unanswered.contains msg)] } :=
    ⟨fun c' => (h.fits c').later rfl rfl (fun _ _ => rfl) (fun _ => id)
        (List.subset_append_left ..),
      h.few, h.delivered, h.unanswered, h.answered, h.sent, h.once, fun msg' rc hMem =>
        (h.returned msg' rc hMem).later (fun _ => id) (List.subset_append_left ..)⟩
  exact hExpired.advance hIn ⟨fun _ => hFits.holder hIn, fun m hMsg => by
    cases hMsg
    exact hPending, nofun, fun m hMsg => by
    cases hMsg
    exact hExcused, nofun⟩

theorem Sound.eventNotify {done : MapUnmapDone} (h : w.Sound) (hDequeued : w.dequeued = some done)
    (hSignal : w.isWaiting c = true ∨
      w.msgLock.all (fun holder => !w.isWaiting holder) = true) :
    Sound { w.signal c with dequeued := none, evtRcvd := some done } := by
  have hNone : w.evtRcvd = none := by
    cases hRcvd : w.evtRcvd with
    | none => rfl
    | some other =>
      have hFew := h.few
      simp only [outstanding, MsgWorld.delivered, hRcvd, hDequeued, Option.toList_some,
        List.length_append, List.length_map, List.length_singleton] at hFew
      omega
  have hDelivered : w.delivered = done :: w.events := by
    rw [MsgWorld.delivered, hNone, hDequeued]
    rfl
  rw [signal]
  split
  · rename_i msg hCaller
    have hFits := h.fits c
    have hIn : w.callers c ≠ .out := by
      rw [hCaller]
      nofun
    have hWoken : (w.setCaller c (.woken msg)).Sound := h.advance hIn
      ⟨fun _ => hFits.holder hIn, fun m hMsg => hFits.pending m (by rw [hCaller]; exact hMsg),
        nofun, nofun, nofun⟩
    refine hWoken.deliver (fun c' m hWaiting => ?_) hDelivered.symm
    by_cases hSame : c' = c
    · rw [hSame, setCaller_same] at hWaiting
      cases hWaiting
    · rw [setCaller_of_ne hSame, h.out_of_ne (hFits.holder hIn) hSame] at hWaiting
      cases hWaiting
  · rename_i hOther
    refine h.deliver (fun c' m hWaiting => ?_) hDelivered.symm
    have hLock := (h.fits c').holder (by rw [hWaiting]; nofun)
    rcases hSignal with hWaits | hNobody
    · rw [isWaiting] at hWaits
      split at hWaits
      · rename_i msg hCaller
        exact absurd hCaller (hOther msg)
      · cases hWaits
    · rw [hLock, Option.all_some, isWaiting, hWaiting] at hNobody
      cases hNobody

theorem Sound.step {i : Input} (h : w.Sound) (hInTurn : w.InTurn i) (hStep : w.step i = some w') :
    w'.Sound := by
  cases i with
  | lockMsg c =>
    rw [MsgWorld.step] at hStep
    split at hStep
    · rename_i hFree
      cases hStep
      exact h.lockMsg hFree.2
    · cases hStep
  | sendmsg c accepted =>
    rw [MsgWorld.step] at hStep
    split at hStep
    · rename_i hCaller
      split at hStep
      · rename_i hAccepted
        cases hStep
        exact h.sendmsg hCaller (hInTurn hAccepted)
      · cases hStep
        have hIn : w.callers c ≠ .out := by
          rw [hCaller]
          nofun
        refine h.advance hIn ⟨fun _ => (h.fits c).holder hIn, nofun, nofun, nofun, ?_⟩
        intro msg rc hEq
        cases hEq
        exact .inr ⟨by decide, nofun⟩
    · cases hStep
  | waitForEvent c =>
    rw [MsgWorld.step] at hStep
    split at hStep
    · rename_i msg hCaller
      cases hStep
      exact h.checkEvent (by rw [hCaller]; rfl)
    · rename_i msg hCaller
      cases hStep
      exact h.checkEvent (by rw [hCaller]; rfl)
    · rename_i msg hCaller
      cases hStep
      refine h.take (by rw [hCaller]; nofun) (.inr ⟨by decide, fun m hMsg => ?_⟩)
      rw [← Option.some.inj hMsg]
      exact (h.fits c).timedOut msg hCaller
    · cases hStep
  | wakeSpuriously c =>
    rw [MsgWorld.step] at hStep
    split at hStep
    · rename_i msg hCaller
      cases hStep
      have hFits := h.fits c
      have hIn : w.callers c ≠ .out := by
        rw [hCaller]
        nofun
      exact h.advance hIn ⟨fun _ => hFits.holder hIn,
        fun m hMsg => hFits.pending m (by rw [hCaller]; exact hMsg), nofun, nofun, nofun⟩
    · cases hStep
  | timeOut c =>
    rw [MsgWorld.step] at hStep
    split at hStep
    · rename_i msg hCaller
      cases hStep
      exact h.timeOut hCaller (hInTurn msg hCaller)
    · cases hStep
  | unlockMsg c =>
    rw [MsgWorld.step] at hStep
    split at hStep
    · rename_i msg rc hCaller
      cases hStep
      exact h.unlockMsg hCaller
    · cases hStep
  | answer status =>
    rw [MsgWorld.step] at hStep
    split at hStep
    · rename_i msg rest hUnanswered
      cases hStep
      exact h.answer hUnanswered
    · cases hStep
  | dqevent =>
    rw [MsgWorld.step] at hStep
    split at hStep
    · rename_i done rest hDequeued hEvents
      cases hStep
      refine h.deliver (fun c msg hWaiting => (h.fits c).waiting msg hWaiting) ?_
      simp only [MsgWorld.delivered, hDequeued, hEvents, Option.toList_none, Option.toList_some,
        List.append_assoc, List.cons_append, List.nil_append]
    · cases hStep
  | eventNotify c =>
    rw [MsgWorld.step] at hStep
    split at hStep
    · rename_i done hDequeued
      split at hStep
      · rename_i hSignal
        cases hStep
        exact h.eventNotify hDequeued hSignal
      · cases hStep
    · cases hStep

theorem sound_start : Sound {} where
  fits _ := fits_out
  few := Nat.zero_le 1
  delivered := nofun
  unanswered := nofun
  answered := nofun
  sent := nofun
  once := nofun
  returned := nofun

/-- A call that returned 0 was answered with success for its own message, and one whose message was
so answered before its time was over returned 0. -/
structure Paired (w : MsgWorld) : Prop where
  own : ∀ msg, (msg, 0) ∈ w.returned → ∃ m, msg = some m ∧ ⟨m, .success⟩ ∈ w.answered
  heard : ∀ m rc, (some m, rc) ∈ w.returned → ⟨m, .success⟩ ∈ w.answered →
    (m, false) ∉ w.expired → rc = 0

theorem Sound.paired (h : w.Sound) : w.Paired where
  own msg hMem := by
    rcases h.returned msg 0 hMem with ⟨-, hOwn⟩ | ⟨hRc, -⟩
    · exact hOwn
    · exact absurd rfl hRc
  heard m rc hMem hAnswered hExpired := by
    rcases h.returned (some m) rc hMem with ⟨hRc, -⟩ | ⟨-, hExcused⟩
    · exact hRc
    · rcases hExcused m rfl with hEarly | ⟨status, hStatus, hOther⟩
      · exact absurd hEarly hExpired
      · cases h.once _ hAnswered _ hOther rfl
        exact absurd rfl hStatus

/-- In every run that sends each message in its turn, each call gets its own answer. -/
theorem paired_of_inTurn {is : List Input} {os : List Unit}
    (run : Lib.Steps Next (fun _ _ w i _ => w.InTurn i) {} is os w) : w.Paired := by
  have hSound : w.Sound := by
    apply run.invariant (I := Sound) sound_start
    intro _ _ _ _ _ _ hInTurn hSound hStep
    exact hSound.step hInTurn hStep
  exact hSound.paired

theorem paired_of_inTurn_success : ∃ w : MsgWorld, w.returned = [(some 0, 0)] ∧ w.Paired := by
  have locked : Lib.Steps Next (fun _ _ w i _ => w.InTurn i) {} _ _ _ :=
    .step .start trivial (i := Input.lockMsg 0) (o := []) rfl
  have sent : Lib.Steps Next (fun _ _ w i _ => w.InTurn i) {} _ _ _ :=
    locked.step (fun _ => rfl) (i := Input.sendmsg 0 true) (o := []) rfl
  have waits : Lib.Steps Next (fun _ _ w i _ => w.InTurn i) {} _ _ _ :=
    sent.step trivial (i := Input.waitForEvent 0) (o := []) rfl
  have answered : Lib.Steps Next (fun _ _ w i _ => w.InTurn i) {} _ _ _ :=
    waits.step trivial (i := Input.answer .success) (o := []) rfl
  have dequeued : Lib.Steps Next (fun _ _ w i _ => w.InTurn i) {} _ _ _ :=
    answered.step trivial (i := Input.dqevent) (o := []) rfl
  have recorded : Lib.Steps Next (fun _ _ w i _ => w.InTurn i) {} _ _ _ :=
    dequeued.step trivial (i := Input.eventNotify 0) (o := []) rfl
  have taken : Lib.Steps Next (fun _ _ w i _ => w.InTurn i) {} _ _ _ :=
    recorded.step trivial (i := Input.waitForEvent 0) (o := []) rfl
  have run : Lib.Steps Next (fun _ _ w i _ => w.InTurn i) {} _ _ _ :=
    taken.step trivial (i := Input.unlockMsg 0) (o := []) rfl
  exact ⟨_, rfl, paired_of_inTurn run⟩

/-- The answer that comes after its time stays in the record and is taken for the next one. -/
theorem late_answer_taken_for_next : ∃ w : MsgWorld,
    Lib.Steps Next Lib.anyStep {} [.lockMsg 0, .sendmsg 0 true, .waitForEvent 0, .timeOut 0,
      .waitForEvent 0, .unlockMsg 0, .answer .success, .dqevent, .eventNotify 0, .lockMsg 0,
      .sendmsg 0 true, .waitForEvent 0, .unlockMsg 0] [] w ∧
    w.returned = [(some 0, -1), (some 1, 0)] ∧ w.answered = [⟨0, .success⟩] ∧ ¬ w.Paired := by
  have hRun : (List.foldlM step ({} : MsgWorld) [.lockMsg 0, .sendmsg 0 true, .waitForEvent 0,
      .timeOut 0, .waitForEvent 0, .unlockMsg 0, .answer .success, .dqevent, .eventNotify 0,
      .lockMsg 0, .sendmsg 0 true, .waitForEvent 0, .unlockMsg 0]).map
      (fun w => (w.returned, w.answered)) =
      some ([(some 0, -1), (some 1, 0)], [⟨0, .success⟩]) := by
    decide +kernel
  obtain ⟨w, hExec, hEq⟩ := Option.map_eq_some_iff.mp hRun
  obtain ⟨hReturned, hAnswered⟩ := Prod.mk.inj hEq
  refine ⟨w, Lib.Steps.of_silent (fun _ _ _ => id) hExec, hReturned, hAnswered, fun hPaired => ?_⟩
  obtain ⟨m, hMsg, hMem⟩ := hPaired.own (some 1) (by rw [hReturned]; exact .tail _ (.head _))
  rw [hAnswered, ← Option.some.inj hMsg] at hMem
  cases List.mem_singleton.mp hMem

end MsgWorld

end KiwiDevice.Camera

import KiwiDevice.Gps.LinkedList
import KiwiDevice.Lib.Condition
import KiwiDevice.Lib.Steps

/-!
# The message queue and its runs

Every call of `msg_q` holds `list_mutex` from the first access to the queue to the last one or to
`pthread_cond_wait`, so that it is one step; a woken receiver takes another step when it has the
mutex again. While a receiver is blocked the pending wake-ups cover the messages. The messages that
were accepted are those that have been taken, in their order, followed by those in the list.
-/

namespace KiwiDevice.Gps

universe u v

inductive MsqQErr where
  | success
  | failureGeneral
  | invalidParameter
  | invalidHandle
  | unavailableResource
  | insufficientBuffer
  deriving DecidableEq, Repr

def convertLinkedListErrType : LinkedListErr → MsqQErr
  | .success => .success
  | .invalidParameter => .invalidParameter
  | .invalidHandle => .invalidHandle
  | .unavailableResource => .unavailableResource
  | .insufficientBuffer => .insufficientBuffer
  | .failureGeneral => .failureGeneral

structure MsgQ (τ : Type u) (α : Type v) where
  msgList : ListState α
  listCond : Lib.Condition τ
  unblocked : Bool

/-- `malloc` gives `elem` to `msg_q_snd`, and its signal wakes `pick`. -/
inductive MsgQCall (τ : Type u) (α : Type v) where
  | snd (msgObj : Option α) (dealloc : Bool) (elem : Option Nat) (pick : Option τ)
  | rcv (t : τ) (hasObj : Bool)
  | resume (t : τ)
  | spurious (t : τ)
  | flush
  | unblock

inductive MsgQEvent (τ : Type u) (α : Type v) where
  | sent (msgObj : Option α) (rv : MsqQErr)
  | blocked (t : τ)
  | received (t : τ) (rv : MsqQErr) (msgObj : Option α)
  | flushed (freed : List (α × Bool))
  | unblocked (rv : MsqQErr)
  deriving DecidableEq

namespace MsgQ

variable {τ : Type u} {α : Type v}

def msgQInit : MsgQ τ α := ⟨.linkedListInit, .idle, false⟩

/-- `msg_q_rcv` from the test of its loop on. -/
def rcvLoop (q : MsgQ τ α) (t : τ) : Option (MsgQEvent τ α × MsgQ τ α) :=
  if q.msgList.linkedListEmpty && !q.unblocked then
    some (.blocked t, { q with listCond := q.listCond.wait t })
  else
    q.msgList.linkedListRemove.map fun r =>
      (.received t (convertLinkedListErrType r.1) r.2.1, { q with msgList := r.2.2 })

def msgQRcv (q : MsgQ τ α) (t : τ) (hasObj : Bool) : Option (MsgQEvent τ α × MsgQ τ α) :=
  if hasObj = false then some (.received t .invalidParameter none, q)
  else if q.unblocked then some (.received t .unavailableResource none, q)
  else q.rcvLoop t

def msgQUnblock (q : MsgQ τ α) : MsqQErr × MsgQ τ α :=
  if q.unblocked then (.unavailableResource, q)
  else (.success, { q with unblocked := true, listCond := q.listCond.broadcast })

variable [DecidableEq τ]

def msgQSnd (q : MsgQ τ α) (msgObj : Option α) (dealloc : Bool) (elem : Option Nat)
    (pick : Option τ) : Option (MsqQErr × MsgQ τ α) :=
  if msgObj = none then some (.invalidParameter, q)
  else if q.unblocked then some (.unavailableResource, q)
  else
    (q.msgList.linkedListAdd elem msgObj dealloc).bind fun r =>
      (q.listCond.signal pick).map fun listCond =>
        (convertLinkedListErrType r.1, { q with msgList := r.2, listCond })

/-- A call that can be made, or a wake-up that can happen. -/
def Ready (q : MsgQ τ α) : MsgQCall τ α → Prop
  | .snd _ _ elem pick =>
    (∀ a ∈ elem, q.msgList.cell a = none) ∧ (q.listCond.signal pick).isSome
  | .rcv t _ => ¬ q.listCond.Inside t
  | .resume t => t ∈ q.listCond.woken
  | .spurious t => t ∈ q.listCond.waiting
  | .flush => True
  | .unblock => True

inductive Next (q : MsgQ τ α) : MsgQCall τ α → List (MsgQEvent τ α) → MsgQ τ α → Prop where
  | snd {msgObj : Option α} {dealloc : Bool} {elem : Option Nat} {pick : Option τ} {rv : MsqQErr}
      {q' : MsgQ τ α} (ready : q.Ready (.snd msgObj dealloc elem pick))
      (h : q.msgQSnd msgObj dealloc elem pick = some (rv, q')) :
      Next q (.snd msgObj dealloc elem pick) [.sent msgObj rv] q'
  | rcv {t : τ} {hasObj : Bool} {e : MsgQEvent τ α} {q' : MsgQ τ α} (ready : q.Ready (.rcv t hasObj))
      (h : q.msgQRcv t hasObj = some (e, q')) : Next q (.rcv t hasObj) [e] q'
  | resume {t : τ} {e : MsgQEvent τ α} {q' : MsgQ τ α} (ready : q.Ready (.resume t))
      (h : ({ q with listCond := q.listCond.resume t } : MsgQ τ α).rcvLoop t = some (e, q')) :
      Next q (.resume t) [e] q'
  | spurious {t : τ} (ready : q.Ready (.spurious t)) :
      Next q (.spurious t) [] { q with listCond := q.listCond.wake t }
  | flush {freed : List (α × Bool)} {msgList : ListState α}
      (h : q.msgList.LinkedListFlush freed msgList) :
      Next q .flush [.flushed freed] { q with msgList }
  | unblock : Next q .unblock [.unblocked q.msgQUnblock.1] q.msgQUnblock.2

/-- The runs of a new queue. -/
abbrev Run (is : List (MsgQCall τ α)) (os : List (MsgQEvent τ α)) (q : MsgQ τ α) : Prop :=
  Lib.Steps Next Lib.anyStep msgQInit is os q

end MsgQ

/-! ### Messages are received in order and no receiver is left behind -/

namespace MsgQ

variable {τ : Type u} {α : Type v}

def accepted (os : List (MsgQEvent τ α)) : List α :=
  os.filterMap fun e =>
    match e with
    | .sent msgObj .success => msgObj
    | _ => none

/-- A flush frees the newest message first. -/
def takenBy : MsgQEvent τ α → List α
  | .received _ .success msgObj => msgObj.toList
  | .flushed freed => freed.reverse.map Prod.fst
  | _ => []

def taken (os : List (MsgQEvent τ α)) : List α := os.flatMap takenBy

def queued (l : List (Linked α)) : List α := l.reverse.map Linked.dataPtr

/-- The list holds the messages `l`, the last one to be received first. -/
structure Delivers (is : List (MsgQCall τ α)) (os : List (MsgQEvent τ α)) (q : MsgQ τ α)
    (l : List (Linked α)) : Prop where
  holds : q.msgList.Holds l
  once : accepted os = taken os ++ queued l
  covered : q.listCond.Covers l.length
  released : q.unblocked = true → q.listCond.waiting = []
  unblocked : MsgQCall.unblock ∈ is ↔ q.unblocked = true

variable {is : List (MsgQCall τ α)} {os o : List (MsgQEvent τ α)} {q q' : MsgQ τ α}
  {l : List (Linked α)} {call : MsgQCall τ α} {t : τ} {e : MsgQEvent τ α}

@[simp] theorem accepted_append (os o : List (MsgQEvent τ α)) :
    accepted (os ++ o) = accepted os ++ accepted o :=
  List.filterMap_append

@[simp] theorem taken_append (os o : List (MsgQEvent τ α)) :
    taken (os ++ o) = taken os ++ taken o :=
  List.flatMap_append

@[simp] theorem queued_cons (x : Linked α) : queued (x :: l) = queued l ++ [x.dataPtr] := by
  simp [queued]

theorem queued_snoc (x : Linked α) : queued (l ++ [x]) = x.dataPtr :: queued l := by
  simp [queued]

theorem delivers_init : Delivers [] [] (msgQInit : MsgQ τ α) [] := by
  constructor
  · exact ListState.holds_init
  · rfl
  · exact Lib.Condition.covers_zero _
  · exact fun _ => rfl
  · simp [msgQInit]

/-- What one step has to keep, beside the number of calls of `msg_q_unblock`. -/
structure Carries (l : List (Linked α)) (o : List (MsgQEvent τ α)) (q' : MsgQ τ α)
    (l' : List (Linked α)) : Prop where
  holds : q'.msgList.Holds l'
  once : queued l ++ accepted o = taken o ++ queued l'
  covered : q'.listCond.Covers l'.length
  released : q'.unblocked = true → q'.listCond.waiting = []

theorem rcvLoop_carries (hHolds : q.msgList.Holds l) (hCovers : q.listCond.Covers (l.length - 1))
    (hReleased : q.unblocked = true → q.listCond.waiting = [])
    (h : q.rcvLoop t = some (e, q')) :
    q'.unblocked = q.unblocked ∧ ∃ l', Carries l [e] q' l' := by
  rw [rcvLoop] at h
  split at h
  · rename_i hWait
    simp only [Bool.and_eq_true, Bool.not_eq_true'] at hWait
    cases h
    obtain rfl := (ListState.empty_iff hHolds).mp hWait.1
    refine ⟨rfl, [], ?_⟩
    constructor
    · exact hHolds
    · rfl
    · exact Lib.Condition.covers_zero _
    · exact fun hUn => absurd (hWait.2.symm.trans hUn) (by decide)
  · cases l using List.reverseRecOn with
    | nil =>
      rw [ListState.remove_nil hHolds, Option.map_some] at h
      cases h
      refine ⟨rfl, [], ?_⟩
      constructor
      · exact hHolds
      · rfl
      · exact hCovers
      · exact hReleased
    | append_singleton l x =>
      obtain ⟨msgList, hRemove, hHolds'⟩ := ListState.remove_holds hHolds
      rw [hRemove, Option.map_some] at h
      cases h
      refine ⟨rfl, l, ?_⟩
      constructor
      · exact hHolds'
      · simp [queued_snoc, accepted, taken, takenBy, convertLinkedListErrType]
      · simpa using hCovers
      · exact hReleased

theorem carries_refused (hHolds : q.msgList.Holds l)
    (hCovers : q.listCond.Covers l.length)
    (hReleased : q.unblocked = true → q.listCond.waiting = [])
    (hAccepted : accepted [e] = []) (hTaken : taken [e] = []) : Carries l [e] q l := by
  constructor
  · exact hHolds
  · rw [hAccepted, hTaken, List.append_nil, List.nil_append]
  · exact hCovers
  · exact hReleased

theorem msgQRcv_carries {hasObj : Bool} (h : Delivers is os q l)
    (hRcv : q.msgQRcv t hasObj = some (e, q')) :
    q'.unblocked = q.unblocked ∧ ∃ l', Carries l [e] q' l' := by
  rw [msgQRcv] at hRcv
  split at hRcv
  · cases hRcv
    exact ⟨rfl, l, carries_refused h.holds h.covered h.released rfl rfl⟩
  · split at hRcv
    · cases hRcv
      exact ⟨rfl, l, carries_refused h.holds h.covered h.released rfl rfl⟩
    · exact rcvLoop_carries h.holds (h.covered.mono (Nat.sub_le _ 1)) h.released hRcv

theorem msgQUnblock_carries (h : Delivers is os q l) :
    Carries l [.unblocked q.msgQUnblock.1] q.msgQUnblock.2 l := by
  constructor
  · rw [msgQUnblock]
    split
    · exact h.holds
    · exact h.holds
  · exact List.append_nil _
  · rw [msgQUnblock]
    split
    · exact h.covered
    · exact Lib.Condition.covers_broadcast _ _
  · rw [msgQUnblock]
    split
    · exact h.released
    · exact fun _ => rfl

theorem unblocked_msgQUnblock (q : MsgQ τ α) : q.msgQUnblock.2.unblocked = true := by
  rw [msgQUnblock]
  split
  · assumption
  · rfl

theorem flush_carries {freed : List (α × Bool)} {msgList : ListState α} (h : Delivers is os q l)
    (hFlush : q.msgList.LinkedListFlush freed msgList) :
    Carries l [.flushed freed] { q with msgList } [] := by
  obtain ⟨hHolds, rfl⟩ := ListState.holds_flush h.holds hFlush
  constructor
  · exact hHolds
  · simp [accepted, taken, takenBy, queued, List.map_reverse, Function.comp_def]
  · exact Lib.Condition.covers_zero _
  · exact h.released

theorem Carries.delivers {l' : List (Linked α)} (h : Delivers is os q l) (hStep : Carries l o q' l')
    (hUnblocked : MsgQCall.unblock ∈ is ++ [call] ↔ q'.unblocked = true) :
    Delivers (is ++ [call]) (os ++ o) q' l' := by
  constructor
  · exact hStep.holds
  · rw [accepted_append, taken_append, h.once, List.append_assoc, hStep.once, List.append_assoc]
  · exact hStep.covered
  · exact hStep.released
  · exact hUnblocked

theorem unblocked_iff (h : Delivers is os q l) (hCall : call ≠ .unblock)
    (hSame : q'.unblocked = q.unblocked) :
    MsgQCall.unblock ∈ is ++ [call] ↔ q'.unblocked = true := by
  simp [hSame, ← h.unblocked, Ne.symm hCall]

theorem rcvLoop_returns (h : q.msgList.Holds l) (t : τ) : ∃ e q', q.rcvLoop t = some (e, q') := by
  rw [rcvLoop]
  split
  · exact ⟨_, _, rfl⟩
  · cases l using List.reverseRecOn with
    | nil => exact ⟨_, _, by rw [ListState.remove_nil h, Option.map_some]⟩
    | append_singleton l x =>
      obtain ⟨msgList, hRemove, -⟩ := ListState.remove_holds h
      exact ⟨_, _, by rw [hRemove, Option.map_some]⟩

variable [DecidableEq τ]

theorem msgQSnd_carries {msgObj : Option α} {dealloc : Bool} {elem : Option Nat} {pick : Option τ}
    {rv : MsqQErr} (h : Delivers is os q l) (hFresh : ∀ a ∈ elem, q.msgList.cell a = none)
    (hSnd : q.msgQSnd msgObj dealloc elem pick = some (rv, q')) :
    q'.unblocked = q.unblocked ∧ ∃ l', Carries l [.sent msgObj rv] q' l' := by
  rw [msgQSnd] at hSnd
  split at hSnd
  · cases hSnd
    exact ⟨rfl, l, carries_refused h.holds h.covered h.released rfl rfl⟩
  · split at hSnd
    · cases hSnd
      exact ⟨rfl, l, carries_refused h.holds h.covered h.released rfl rfl⟩
    · rename_i hObj hBlocked
      obtain ⟨⟨rv', msgList⟩, hAdd, hRest⟩ := Option.bind_eq_some_iff.mp hSnd
      obtain ⟨listCond, hSignal, hEq⟩ := Option.map_eq_some_iff.mp hRest
      cases hEq
      have hCovers := h.covered.signal hSignal
      obtain ⟨data, rfl⟩ := Option.ne_none_iff_exists'.mp hObj
      cases elem with
      | none =>
        cases hAdd
        refine ⟨rfl, l, ?_⟩
        constructor
        · exact h.holds
        · exact List.append_nil _
        · exact hCovers.mono (Nat.le_succ _)
        · exact fun hUn => absurd hUn hBlocked
      | some a =>
        obtain ⟨s', hAdded, hHolds⟩ := ListState.add_holds h.holds (hFresh a rfl) data dealloc
        rw [hAdded] at hAdd
        cases hAdd
        refine ⟨rfl, ⟨a, data, dealloc⟩ :: l, ?_⟩
        constructor
        · exact hHolds
        · simp [accepted, taken, takenBy, convertLinkedListErrType]
        · exact hCovers
        · exact fun hUn => absurd hUn hBlocked

theorem resume_carries (h : Delivers is os q l)
    (hLoop : ({ q with listCond := q.listCond.resume t } : MsgQ τ α).rcvLoop t = some (e, q')) :
    q'.unblocked = q.unblocked ∧ ∃ l', Carries l [e] q' l' :=
  rcvLoop_carries (q := { q with listCond := q.listCond.resume t }) h.holds h.covered.resume
    h.released hLoop

theorem spurious_carries (h : Delivers is os q l) (ht : t ∈ q.listCond.waiting) :
    Carries l [] { q with listCond := q.listCond.wake t } l := by
  constructor
  · exact h.holds
  · exact List.append_nil _
  · exact h.covered.spurious ht
  · exact fun hUn => absurd (h.released hUn ▸ ht) List.not_mem_nil

theorem next_delivers (h : Delivers is os q l) (hNext : Next q call o q') :
    ∃ l', Delivers (is ++ [call]) (os ++ o) q' l' := by
  cases hNext with
  | snd ready hSnd =>
    obtain ⟨hSame, l', hStep⟩ := msgQSnd_carries h ready.1 hSnd
    exact ⟨l', hStep.delivers h (unblocked_iff h (by simp) hSame)⟩
  | rcv ready hRcv =>
    obtain ⟨hSame, l', hStep⟩ := msgQRcv_carries h hRcv
    exact ⟨l', hStep.delivers h (unblocked_iff h (by simp) hSame)⟩
  | resume ready hLoop =>
    obtain ⟨hSame, l', hStep⟩ := resume_carries h hLoop
    exact ⟨l', hStep.delivers h (unblocked_iff h (by simp) hSame)⟩
  | spurious ready =>
    exact ⟨l, (spurious_carries h ready).delivers h (unblocked_iff h (by simp) rfl)⟩
  | flush hFlush =>
    exact ⟨[], (flush_carries h hFlush).delivers h (unblocked_iff h (by simp) rfl)⟩
  | unblock =>
    exact ⟨l, (msgQUnblock_carries h).delivers h (by simp [unblocked_msgQUnblock])⟩

theorem delivers_of_run (run : Run is os q) : ∃ l, Delivers is os q l :=
  run.history (I := fun is os q => ∃ l, Delivers is os q l) ⟨[], delivers_init⟩
    fun _ _ _ _ _ _ _ ⟨_, h⟩ hNext => next_delivers h hNext

theorem msgQSnd_returns {msgObj : Option α} {dealloc : Bool} {elem : Option Nat} {pick : Option τ}
    (h : q.msgList.Holds l) (hReady : q.Ready (.snd msgObj dealloc elem pick)) :
    ∃ rv q', q.msgQSnd msgObj dealloc elem pick = some (rv, q') := by
  obtain ⟨hFresh, hPick⟩ := hReady
  obtain ⟨listCond, hSignal⟩ := Option.isSome_iff_exists.mp hPick
  rw [msgQSnd]
  split
  · exact ⟨_, _, rfl⟩
  · split
    · exact ⟨_, _, rfl⟩
    · rename_i hObj _
      obtain ⟨data, rfl⟩ := Option.ne_none_iff_exists'.mp hObj
      cases elem with
      | none => exact ⟨_, _, by rw [ListState.linkedListAdd, Option.bind_some, hSignal, Option.map_some]⟩
      | some a =>
        obtain ⟨s', hAdded, -⟩ := ListState.add_holds h (hFresh a rfl) data dealloc
        exact ⟨_, _, by rw [hAdded, Option.bind_some, hSignal, Option.map_some]⟩

theorem next_of_ready (h : q.msgList.Holds l) (hReady : q.Ready call) :
    ∃ o q', Next q call o q' := by
  cases call with
  | snd msgObj dealloc elem pick =>
    obtain ⟨rv, q', hSnd⟩ := msgQSnd_returns h hReady
    exact ⟨_, q', .snd hReady hSnd⟩
  | rcv t hasObj =>
    have hRcv : ∃ e q', q.msgQRcv t hasObj = some (e, q') := by
      rw [msgQRcv]
      split
      · exact ⟨_, _, rfl⟩
      · split
        · exact ⟨_, _, rfl⟩
        · exact rcvLoop_returns h t
    obtain ⟨e, q', hRcv⟩ := hRcv
    exact ⟨_, q', .rcv hReady hRcv⟩
  | resume t =>
    obtain ⟨e, q', hLoop⟩ := rcvLoop_returns (q := { q with listCond := q.listCond.resume t }) h t
    exact ⟨_, q', .resume hReady hLoop⟩
  | spurious t => exact ⟨_, _, .spurious hReady⟩
  | flush =>
    obtain ⟨msgList, hFlush⟩ := ListState.flush_holds h
    exact ⟨_, _, .flush hFlush⟩
  | unblock => exact ⟨_, _, .unblock⟩

theorem accepted_of_unblocked (hUn : q.unblocked = true) (hNext : Next q call o q') :
    accepted o = [] := by
  cases hNext with
  | snd ready hSnd =>
    rw [msgQSnd] at hSnd
    split at hSnd
    · cases hSnd
      rfl
    · cases hSnd
      rfl
  | rcv ready hRcv =>
    rw [msgQRcv] at hRcv
    split at hRcv
    · cases hRcv
      rfl
    · cases hRcv
      rfl
  | resume ready hLoop =>
    simp only [rcvLoop, hUn, Bool.not_true, Bool.and_false, Bool.false_eq_true, if_false] at hLoop
    obtain ⟨r, -, hEq⟩ := Option.map_eq_some_iff.mp hLoop
    cases hEq
    rfl
  | spurious ready => rfl
  | flush hFlush => rfl
  | unblock => rfl

/-- After `msg_q_unblock` a woken receiver does not wait again. -/
theorem resume_of_unblocked (hHolds : q.msgList.Holds l) (hUn : q.unblocked = true)
    (hNext : Next q (.resume t) o q') :
    (∃ rv msgObj, o = [.received t rv msgObj]) ∧
      (q.msgList.linkedListEmpty = true → o = [.received t .unavailableResource none]) := by
  cases hNext with
  | resume ready hLoop =>
    simp only [rcvLoop, hUn, Bool.not_true, Bool.and_false, Bool.false_eq_true, if_false] at hLoop
    constructor
    · obtain ⟨r, -, hEq⟩ := Option.map_eq_some_iff.mp hLoop
      cases hEq
      exact ⟨_, _, rfl⟩
    · intro hEmpty
      obtain rfl := (ListState.empty_iff hHolds).mp hEmpty
      rw [ListState.remove_nil hHolds, Option.map_some] at hLoop
      cases hLoop
      rfl

theorem taken_of_flush (h : Delivers is os q l) (hNext : Next q .flush o q') :
    accepted (os ++ o) = taken (os ++ o) := by
  cases hNext with
  | flush hFlush =>
    have hOnce := (flush_carries h hFlush).once
    rw [accepted_append, taken_append, h.once, List.append_assoc, hOnce]
    exact congrArg (taken os ++ ·) (List.append_nil _)

/-- Every accepted message is taken once, in the order of the calls of `msg_q_snd`, or still in the
list; while a receiver is blocked, as many others have been woken as there are messages;
`msg_q_unblock` releases all of them for good; and every call returns. -/
theorem messages_of_run (run : Run is os q) :
    (∃ l, q.msgList.Holds l ∧ accepted os = taken os ++ queued l ∧
      (q.listCond.waiting ≠ [] → l.length ≤ q.listCond.woken.length)) ∧
    (∀ o q', Next q .flush o q' → accepted (os ++ o) = taken (os ++ o)) ∧
    (.unblock ∈ is → q.listCond.waiting = [] ∧
      (∀ call o q', Next q call o q' → accepted o = []) ∧
      ∀ t o q', Next q (.resume t) o q' → (∃ rv msgObj, o = [.received t rv msgObj]) ∧
        (q.msgList.linkedListEmpty = true → o = [.received t .unavailableResource none])) ∧
    ∀ call, q.Ready call → ∃ o q', Next q call o q' := by
  obtain ⟨l, h⟩ := delivers_of_run run
  refine ⟨⟨l, h.holds, h.once, h.covered⟩, ?_, ?_, ?_⟩
  · intro o q' hNext
    exact taken_of_flush h hNext
  · intro hMem
    have hUn := h.unblocked.mp hMem
    refine ⟨h.released hUn, ?_, ?_⟩
    · intro call o q' hNext
      exact accepted_of_unblocked hUn hNext
    · intro t o q' hNext
      exact resume_of_unblocked h.holds hUn hNext
  · intro call hReady
    exact next_of_ready h.holds hReady

theorem run_snd (run : Run is os q) (msgObj : Option α) (dealloc : Bool) (elem : Option Nat)
    (pick : Option τ) {rv : MsqQErr} (ready : q.Ready (.snd msgObj dealloc elem pick))
    (h : q.msgQSnd msgObj dealloc elem pick = some (rv, q')) :
    Run (is ++ [.snd msgObj dealloc elem pick]) (os ++ [.sent msgObj rv]) q' :=
  run.step trivial (.snd ready h)

theorem run_flush (run : Run is os q) (n : Nat) {r : ListFlush α}
    (h : Lib.Loop.exec ListState.flushPass n ⟨q.msgList, []⟩ = some r) :
    Run (is ++ [.flush]) (os ++ [.flushed r.freed])
      { q with msgList := { r.list with pTail := none } } :=
  run.step trivial (.flush ⟨r, Lib.Loop.exec_exits h, rfl, rfl⟩)

theorem oneReceiver_run : ∃ q : MsgQ Nat Nat,
    Run [.rcv 0 true, .snd (some 7) true (some 0) (some 0)]
      [.blocked 0, .sent (some 7) .success] q ∧ q.listCond = ⟨[], [0]⟩ := by
  have hIdle : ¬ (Lib.Condition.idle : Lib.Condition Nat).Inside 0 := by
    simp [Lib.Condition.Inside, Lib.Condition.idle]
  have hBlocked := (Next.rcv hIdle rfl : Next (msgQInit : MsgQ Nat Nat) (.rcv 0 true) [.blocked 0] _)
  have run := (Lib.Steps.start : Run [] [] (msgQInit : MsgQ Nat Nat)).step trivial hBlocked
  exact ⟨_, run_snd run (some 7) true (some 0) (some 0) ⟨fun _ _ => rfl, rfl⟩ rfl, rfl⟩

theorem oneReceiver_woken : ∃ (q : MsgQ Nat Nat) (l : List (Linked Nat)),
    q.listCond = ⟨[], [0]⟩ ∧ q.msgList.Holds l ∧ queued l = [7] ∧
      ∃ o q', Next q (.resume 0) o q' := by
  obtain ⟨q, run, hCond⟩ := oneReceiver_run
  obtain ⟨⟨l, hHolds, hOnce, -⟩, -, -, hReady⟩ := messages_of_run run
  have hWoken : q.Ready (.resume 0) := by
    rw [Ready, hCond]
    exact List.mem_cons_self
  exact ⟨q, l, hCond, hHolds, hOnce.symm, hReady _ hWoken⟩

/-- The messages in the order in which they are received or freed. -/
def leaving (os : List (MsgQEvent Nat Nat)) : List Nat :=
  os.flatMap fun e =>
    match e with
    | .flushed freed => freed.map Prod.fst
    | _ => takenBy e

theorem newest_freed_first : ∃ (is : List (MsgQCall Nat Nat)) (os : List (MsgQEvent Nat Nat))
    (q : MsgQ Nat Nat), Run is os q ∧ accepted os = [1, 2] ∧ leaving os = [2, 1] ∧
      ¬ leaving os <+: accepted os := by
  have run₀ : Run [] [] (msgQInit : MsgQ Nat Nat) := .start
  have run₁ := run_snd run₀ (some 1) true (some 0) none ⟨fun _ _ => rfl, rfl⟩ rfl
  have hFresh : ∀ a ∈ some 1, (ListState.setCell (ListState.linkedListInit : ListState Nat) 0
      (some ⟨none, none, 1, true⟩)).cell a = none := by
    rintro a ⟨⟩
    rfl
  have run₂ := run_snd run₁ (some 2) true (some 1) none ⟨hFresh, rfl⟩ rfl
  have run₃ := run_flush run₂ 3 rfl
  exact ⟨_, _, _, run₃, by decide, by decide, by decide⟩

end MsgQ

end KiwiDevice.Gps

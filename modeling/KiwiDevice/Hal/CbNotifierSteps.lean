import KiwiDevice.Hal.CbNotifier
import Mathlib.Algebra.Order.Ring.Nat
import Mathlib.Data.List.Induction

/-!
# Steps of the callback notifier

What a run shows, and what a step does to the state when the run never has a START and a STOP queued
together and its thread is not caught between a command and the data queue by a START.
-/

namespace KiwiDevice.Hal.CbNotifier

universe u

variable {δ : Type u}

/-! ### What a run shows -/

def notified (os : List (CbEvent δ)) : List (Notification δ) :=
  os.filterMap fun e =>
    match e with
    | .posted cb => some cb
    | _ => none

def handed (os : List (CbEvent δ)) : List (Notification δ) :=
  os.filterMap fun e =>
    match e with
    | .handed cb => some cb
    | _ => none

def released (os : List (CbEvent δ)) : List (Notification δ) :=
  os.filterMap fun e =>
    match e with
    | .released cb _ => some cb
    | _ => none

def issued (os : List (CbEvent δ)) : List SnapshotMode :=
  os.filterMap fun e =>
    match e with
    | .issued mode => some mode
    | _ => none

def effects (os : List (CbEvent δ)) : List SnapshotMode :=
  os.filterMap fun e =>
    match e with
    | .started _ _ => some .start
    | .stopped => some .stop
    | _ => none

def snapshotDones (os : List (CbEvent δ)) : Nat :=
  os.countP fun e =>
    match e with
    | .snapshotDone => true
    | _ => false

/-- A snapshot posted after a START, with no STOP issued after the START. -/
def Wanted (os : List (CbEvent δ)) (cb : Notification δ) : Prop :=
  matchSnapshotNotifications cb = true ∧
    ∃ before after, os = before ++ .issued .start :: after ∧ .posted cb ∈ after ∧
      .issued .stop ∉ after

/-- A START that took effect, with the snapshots handed over and the SNAPSHOT_DONE raised until the
next one. -/
structure SnapshotStart where
  expected : BitVec 32
  longshot : Bool
  received : Nat
  dones : Nat

def record (starts : List SnapshotStart) : CbEvent δ → List SnapshotStart
  | .started expected longshot => ⟨expected, longshot, 0, 0⟩ :: starts
  | .snapshotDone => starts.modifyHead fun r => { r with dones := r.dones + 1 }
  | .handed cb =>
    if matchSnapshotNotifications cb then
      starts.modifyHead fun r => { r with received := r.received + 1 }
    else starts
  | _ => starts

/-- The latest START first. -/
def starts (os : List (CbEvent δ)) : List SnapshotStart := os.foldl record []

/-- SNAPSHOT_DONE was raised once if the expected number was received, and never otherwise. -/
def SnapshotStart.Exact (r : SnapshotStart) : Prop :=
  r.dones = if r.longshot = false ∧ 0 < r.expected ∧ r.expected.toNat ≤ r.received then 1 else 0

@[simp] def inHand : CbThread δ → List CameraCmdType
  | .took cmd => [cmd]
  | .waiting | .getting | .delivering _ | .exited => []

@[simp] def beingDelivered : CbThread δ → List (Notification δ)
  | .delivering cb => [cb]
  | .waiting | .getting | .took _ | .exited => []

/-- The commands that the thread has yet to perform. -/
def coming (s : CbNotifier δ) : List CameraCmdType := inHand s.thread ++ s.cmdQueue

/-- The notifications that are neither handed over nor taken back. -/
def held (s : CbNotifier δ) : List (Notification δ) := beingDelivered s.thread ++ s.mDataQ

/-- No call is under way, and the thread waits. -/
structure Idle (s : CbNotifier δ) : Prop where
  sending : s.sending = 0
  posting : s.posting = 0
  cmdSem : s.cmdSem = 0
  thread : s.thread = .waiting

/-- The thread is about to count a snapshot. -/
def Counts (s : CbNotifier δ) : Prop :=
  s.isSnapshotActive = true ∧ s.longShotEnabled = false ∧
    ∃ cb, s.thread = .delivering cb ∧ matchSnapshotNotifications cb = true

/-- A command is queued when it is sent, and never beside the opposite one. With a START in the
queue, a STOP that the thread already has flushes no snapshot posted since, and an idle thread
takes no such snapshot. Messages are enabled, and the counter does not come round to the expected
number again. -/
def Meets (os : List (CbEvent δ)) (s : CbNotifier δ) : CbInput δ → Prop
  | .sendJob cmdNode queueNode => cmdNode = true ∧ queueNode = true
  | .snapshots mode cmdNode queueNode =>
    cmdNode = true → queueNode = true ∧ mode.other.cmd ∉ s.cmdQueue
  | .perform _ _ =>
    .startDataProc ∈ s.cmdQueue →
      (s.thread = .took .stopDataProc → ∀ cb ∈ s.mDataQ, ¬ Wanted os cb) ∧
      (s.thread = .took .doNextJob → s.isSnapshotActive = false →
        ∀ cb ∈ s.mDataQ.head?, ¬ Wanted os cb)
  | .deliver msgTypeEnabled =>
    msgTypeEnabled = true ∧
      (s.Counts → ∀ r ∈ (starts os).head?, r.received + 1 < 2 ^ 32 + r.expected.toNat)
  | _ => True

def ByNotifier : CbInput δ → Prop
  | .notifyCallback _ _ _ => False
  | .snapshots _ _ _ => False
  | .flushVideoNotifications => False
  | _ => True

/-- What is left to do for the thread and for the calls under way. -/
def work (s : CbNotifier δ) : Nat :=
  6 * s.sending + 5 * s.posting + 4 * s.cmdSem +
    match s.thread with
    | .getting => 3
    | .took _ => 2
    | .delivering _ => 1
    | _ => 0

variable {os o : List (CbEvent δ)} {s s' : CbNotifier δ} {i : CbInput δ} {cb : Notification δ}

@[simp] theorem notified_append : notified (os ++ o) = notified os ++ notified o :=
  List.filterMap_append

@[simp] theorem handed_append : handed (os ++ o) = handed os ++ handed o :=
  List.filterMap_append

@[simp] theorem released_append : released (os ++ o) = released os ++ released o :=
  List.filterMap_append

@[simp] theorem issued_append : issued (os ++ o) = issued os ++ issued o :=
  List.filterMap_append

@[simp] theorem effects_append : effects (os ++ o) = effects os ++ effects o :=
  List.filterMap_append

theorem snapshotDones_append : snapshotDones (os ++ o) = snapshotDones os + snapshotDones o :=
  List.countP_append

theorem starts_append : starts (os ++ o) = o.foldl record (starts os) :=
  List.foldl_append

/-- The events of a flush. -/
theorem released_map {status : CbStatus} (cbs : List (Notification δ)) :
    released (cbs.map fun cb => .released cb status) = cbs := by
  rw [released, List.filterMap_map]
  exact List.filterMap_some

theorem mem_issued {mode : SnapshotMode} : mode ∈ issued os ↔ .issued mode ∈ os := by
  rw [issued, List.mem_filterMap]
  constructor
  · rintro ⟨e, hIn, hEq⟩
    cases e with
    | issued mode' =>
      cases hEq
      exact hIn
    | _ => cases hEq
  · exact fun hIn => ⟨_, hIn, rfl⟩

/-- A snapshot is wanted only while START is the last command issued. -/
theorem Wanted.last (h : Wanted os cb) : (issued os).getLast? = some .start := by
  obtain ⟨-, before, after, rfl, -, hStop⟩ := h
  have hAll : ∀ mode ∈ issued after, mode = .start := by
    intro mode hIn
    cases mode with
    | start => rfl
    | stop => exact absurd (mem_issued.mp hIn) hStop
  rw [issued_append, show issued (.issued .start :: after) = .start :: issued after from rfl,
    List.getLast?_append, List.eq_replicate_of_mem hAll, ← List.replicate_succ,
    List.getLast?_replicate]
  rfl

/-- An event makes a snapshot wanted only by posting it. -/
theorem Wanted.before {e : CbEvent δ} (h : Wanted (os ++ [e]) cb) (hNew : e ≠ .posted cb) :
    Wanted os cb := by
  obtain ⟨hSnapshot, before, after, hSplit, hPosted, hStop⟩ := h
  rcases List.eq_nil_or_concat after with rfl | ⟨rest, e', rfl⟩
  · cases hPosted
  · rw [List.concat_eq_append] at hSplit hPosted hStop
    rw [← List.cons_append, ← List.append_assoc] at hSplit
    obtain ⟨rfl, hEnd⟩ := List.append_inj' hSplit rfl
    cases hEnd
    rw [List.mem_append, List.mem_singleton] at hPosted hStop
    exact ⟨hSnapshot, before, rest, rfl, hPosted.resolve_right (Ne.symm hNew),
      fun hIn => hStop (.inl hIn)⟩

theorem Wanted.of_append (h : Wanted (os ++ o) cb) (hNew : .posted cb ∉ o) : Wanted os cb := by
  induction o using List.reverseRecOn with
  | nil => rwa [List.append_nil] at h
  | append_singleton o e ih =>
    rw [List.mem_append, List.mem_singleton, not_or] at hNew
    rw [← List.append_assoc] at h
    exact ih (h.before (Ne.symm hNew.2)) hNew.1

/-! ### What a step does -/

/-- What the thread has taken from the semaphore for a command still in the queue. -/
@[simp] def unit : CbThread δ → Nat
  | .getting => 1
  | .waiting | .took _ | .delivering _ | .exited => 0

/-- The state behind the queues. `sem`: the semaphore counts the commands in the queue. `jobs`: for
each notification in the queue there is a command, or a call that will send one. -/
structure Ready (s : CbNotifier δ) : Prop where
  active : s.mActive = true
  notifyCb : s.mNotifyCb = true
  dataCb : s.mDataCb = true
  dataCbTimestamp : s.mDataCbTimestamp = true
  running : s.thread ≠ .exited
  cmds : ∀ cmd ∈ s.coming, cmd = .startDataProc ∨ cmd = .stopDataProc ∨ cmd = .doNextJob
  sem : s.cmdQueue.length = s.posting + s.cmdSem + unit s.thread
  jobs : s.mDataQ.length ≤ s.sending + s.coming.count .doNextJob

/-- The steps of a run that meets the condition. -/
inductive Change (os : List (CbEvent δ)) (s : CbNotifier δ) :
    List (CbEvent δ) → CbNotifier δ → Prop where
  | refused : Change os s [.refused] s
  | posted (cbArgs : CallbackArgm δ) :
      Change os s [.posted ⟨s.posted, cbArgs⟩]
        { s with
          mDataQ := s.mDataQ ++ [⟨s.posted, cbArgs⟩]
          sending := s.sending + 1
          posted := s.posted + 1 }
  | sent {n : Nat} (sending : s.sending = n + 1) :
      Change os s []
        { s with
          sending := n
          cmdQueue := s.cmdQueue ++ [.doNextJob]
          posting := s.posting + 1 }
  | issued (mode : SnapshotMode) (single : mode.other.cmd ∉ s.cmdQueue) :
      Change os s [.issued mode]
        { s with
          cmdQueue := mode.cmd :: s.cmdQueue
          posting := s.posting + 1 }
  | semPost {n : Nat} (posting : s.posting = n + 1) :
      Change os s [] { s with posting := n, cmdSem := s.cmdSem + 1 }
  | flushed :
      Change os s (s.flushNodes matchTimestampNotifications).2
        (s.flushNodes matchTimestampNotifications).1
  | semWait {n : Nat} (thread : s.thread = .waiting) (cmdSem : s.cmdSem = n + 1) :
      Change os s [] { s with thread := .getting, cmdSem := n }
  | got {cmd : CameraCmdType} {cmdQueue : List CameraCmdType} (thread : s.thread = .getting)
      (queued : s.cmdQueue = cmd :: cmdQueue) :
      Change os s [] { s with thread := .took cmd, cmdQueue }
  | started (expected : BitVec 32) (longshot : Bool) (thread : s.thread = .took .startDataProc) :
      Change os s [.started expected longshot]
        { s with
          thread := .waiting
          isSnapshotActive := true
          numOfSnapshotExpected := expected
          longShotEnabled := longshot
          numOfSnapshotRcvd := 0 }
  | stopped (thread : s.thread = .took .stopDataProc)
      (safe : .startDataProc ∈ s.cmdQueue → ∀ cb ∈ s.mDataQ, ¬ Wanted os cb) :
      Change os s (.stopped :: (s.flushNodes matchSnapshotNotifications).2)
        { s with
          mDataQ := s.mDataQ.filter fun cb => !matchSnapshotNotifications cb
          thread := .waiting
          isSnapshotActive := false
          numOfSnapshotExpected := 0
          numOfSnapshotRcvd := 0 }
  | noJob (thread : s.thread = .took .doNextJob) (empty : s.mDataQ = []) :
      Change os s [] { s with thread := .waiting }
  | tookJob {cb : Notification δ} {mDataQ : List (Notification δ)}
      (thread : s.thread = .took .doNextJob) (queued : s.mDataQ = cb :: mDataQ)
      (safe : .startDataProc ∈ s.cmdQueue → s.isSnapshotActive = false → ¬ Wanted os cb) :
      Change os s [] { s with thread := .delivering cb, mDataQ }
  | handed {cb : Notification δ} (thread : s.thread = .delivering cb)
      (uncounted : matchSnapshotNotifications cb = true →
        s.isSnapshotActive = true ∧ s.longShotEnabled = true) :
      Change os s [.handed cb, .released cb .noError] { s with thread := .waiting }
  | counted {cb : Notification δ} (thread : s.thread = .delivering cb)
      (snapshot : matchSnapshotNotifications cb = true) (active : s.isSnapshotActive = true)
      (short : s.longShotEnabled = false)
      (few : ∀ r ∈ (starts os).head?, r.received + 1 < 2 ^ 32 + r.expected.toNat) :
      Change os s
        ((if 0 < s.numOfSnapshotExpected ∧ s.numOfSnapshotExpected = s.numOfSnapshotRcvd + 1
          then [.snapshotDone, .handed cb] else [.handed cb]) ++ [.released cb .noError])
        { s with thread := .waiting, numOfSnapshotRcvd := s.numOfSnapshotRcvd + 1 }
  | ignored {cb : Notification δ} (thread : s.thread = .delivering cb)
      (snapshot : matchSnapshotNotifications cb = true) (idle : s.isSnapshotActive = false) :
      Change os s [.released cb .noError] { s with thread := .waiting }

theorem Ready.changePerform (h : s.Ready) {cmd : CameraCmdType} (hThread : s.thread = .took cmd)
    {expected : BitVec 32} {longshot : Bool} (hMeets : Meets os s (.perform expected longshot)) :
    Change os s (s.perform cmd expected longshot).2 (s.perform cmd expected longshot).1 := by
  have hComing : cmd ∈ s.coming := by
    rw [coming, hThread]
    exact List.mem_cons_self
  rcases h.cmds cmd hComing with rfl | rfl | rfl
  · exact .started expected longshot hThread
  · exact .stopped hThread fun hStart => (hMeets hStart).1 hThread
  · rw [perform]
    split
    · exact .noJob hThread ‹_›
    · rename_i cb mDataQ hData
      refine .tookJob hThread hData fun hStart hInactive => ?_
      exact (hMeets hStart).2 hThread hInactive cb (by rw [hData]; rfl)

theorem Ready.handle_uncounted (h : s.Ready) (hUncounted : matchSnapshotNotifications cb = true →
    s.isSnapshotActive = true ∧ s.longShotEnabled = true) : s.handle cb = (s, [.handed cb]) := by
  rw [handle]
  cases hType : cb.arg.cbType with
  | notifyCallback => simp [h.notifyCb]
  | dataCallback => simp [h.dataCb]
  | dataTimestampCallback => simp [h.dataCbTimestamp]
  | dataSnapshotCallback =>
    obtain ⟨hActive, hLongshot⟩ := hUncounted (decide_eq_true hType)
    simp [hActive, hLongshot, h.dataCb]

theorem Ready.changeDeliver (h : s.Ready) (hThread : s.thread = .delivering cb)
    (hFew : s.Counts → ∀ r ∈ (starts os).head?, r.received + 1 < 2 ^ 32 + r.expected.toNat) :
    Change os s (s.deliver cb true).2 (s.deliver cb true).1 := by
  rw [deliver, if_pos rfl]
  cases hMatch : matchSnapshotNotifications cb with
  | false =>
    rw [h.handle_uncounted fun hSnapshot => absurd (hMatch.symm.trans hSnapshot) (by decide)]
    exact .handed hThread fun hSnapshot => absurd (hMatch.symm.trans hSnapshot) (by decide)
  | true =>
    have hType : cb.arg.cbType = .dataSnapshotCallback := of_decide_eq_true hMatch
    cases hActive : s.isSnapshotActive with
    | false =>
      have hHandle : s.handle cb = (s, []) := by simp [handle, hType, hActive]
      rw [hHandle]
      exact .ignored hThread hMatch hActive
    | true =>
      cases hLongshot : s.longShotEnabled with
      | true =>
        rw [h.handle_uncounted fun _ => ⟨hActive, hLongshot⟩]
        exact .handed hThread fun _ => ⟨hActive, hLongshot⟩
      | false =>
        have hHandle : s.handle cb = ({ s with numOfSnapshotRcvd := s.numOfSnapshotRcvd + 1 },
            if 0 < s.numOfSnapshotExpected ∧ s.numOfSnapshotExpected = s.numOfSnapshotRcvd + 1
              then [.snapshotDone, .handed cb] else [.handed cb]) := by
          simp only [handle, hType, hActive, hLongshot, h.dataCb, Bool.and_self, if_true,
            Bool.false_eq_true, if_false]
        rw [hHandle]
        exact .counted hThread hMatch hActive hLongshot
          (hFew ⟨hActive, hLongshot, cb, hThread, hMatch⟩)

theorem Change.of_some {r : CbNotifier δ × List (CbEvent δ)} (h : Change os s r.2 r.1)
    (hSome : some r = some (s', o)) : Change os s o s' := by
  rw [Option.some.inj hSome] at h
  exact h

theorem Ready.change (h : s.Ready) (hMeets : Meets os s i) (hNext : Next s i o s') :
    Change os s o s' := by
  cases i with
  | notifyCallback cbArgs cbArg dataNode =>
    apply Change.of_some _ hNext
    rw [notifyCallback]
    split
    · exact .posted cbArgs
    · exact .refused
  | sendJob cmdNode queueNode =>
    obtain ⟨rfl, rfl⟩ := hMeets
    rw [Next, step] at hNext
    split at hNext
    · cases hNext
    · cases hNext
      exact .sent ‹_›
  | snapshots mode cmdNode queueNode =>
    cases hNext
    cases cmdNode with
    | false => cases mode <;> exact .refused
    | true =>
      obtain ⟨rfl, hSingle⟩ := hMeets rfl
      cases mode with
      | start => exact .issued .start hSingle
      | stop => exact .issued .stop hSingle
  | semPost =>
    rw [Next, step] at hNext
    split at hNext
    · cases hNext
    · cases hNext
      exact .semPost ‹_›
  | flushVideoNotifications =>
    apply Change.of_some _ hNext
    rw [flushVideoNotifications, if_pos h.active]
    exact .flushed
  | semWait =>
    rw [Next, step] at hNext
    split at hNext
    · cases hNext
      exact .semWait ‹_› ‹_›
    · cases hNext
  | getCmd =>
    rw [Next, step] at hNext
    split at hNext
    · rename_i hThread
      cases hNext
      have hSem := h.sem
      rw [hThread, unit] at hSem
      rw [getCmd]
      split
      · rename_i hQueue
        rw [hQueue] at hSem
        cases hSem
      · exact .got hThread ‹_›
    · cases hNext
  | perform expected longshot =>
    rw [Next, step] at hNext
    split at hNext
    · rename_i cmd hThread
      exact (h.changePerform hThread hMeets).of_some hNext
    · cases hNext
  | deliver msgTypeEnabled =>
    obtain ⟨rfl, hFew⟩ := hMeets
    rw [Next, step] at hNext
    split at hNext
    · rename_i cb hThread
      exact (h.changeDeliver hThread hFew).of_some hNext
    · cases hNext

theorem Change.coming (h : Change os s o s') : ∀ cmd ∈ s'.coming,
    cmd ∈ s.coming ∨ cmd = .startDataProc ∨ cmd = .stopDataProc ∨ cmd = .doNextJob := by
  intro cmd hIn
  cases h with
  | sent =>
    rw [CbNotifier.coming, ← List.append_assoc, List.mem_append, List.mem_singleton] at hIn
    exact hIn.imp_right fun hJob => .inr (.inr hJob)
  | issued mode =>
    rw [CbNotifier.coming, List.mem_append, List.mem_cons] at hIn
    rw [CbNotifier.coming, List.mem_append]
    cases mode <;> grind [SnapshotMode.cmd]
  | got thread queued =>
    rw [CbNotifier.coming, thread, queued]
    exact .inl hIn
  | started _ _ thread | stopped thread | noJob thread | tookJob thread =>
    rw [CbNotifier.coming, thread]
    exact .inl (List.mem_cons_of_mem _ hIn)
  | semWait thread | handed thread | counted thread | ignored thread =>
    rw [CbNotifier.coming, thread]
    exact .inl hIn
  | _ => exact .inl hIn

theorem Ready.sem_next (h : s.Ready) (hChange : Change os s o s') :
    s'.cmdQueue.length = s'.posting + s'.cmdSem + unit s'.thread := by
  have hSem := h.sem
  cases hChange with
  | sent =>
    rw [List.length_append, List.length_singleton]
    dsimp only
    omega
  | issued =>
    rw [List.length_cons]
    dsimp only
    omega
  | semPost posting =>
    dsimp only
    omega
  | semWait thread cmdSem | got thread queued | started _ _ thread | stopped thread | noJob thread
  | tookJob thread | handed thread | counted thread | ignored thread =>
    simp_all <;> omega
  | _ => exact hSem

theorem Ready.jobs_next (h : s.Ready) (hChange : Change os s o s') :
    s'.mDataQ.length ≤ s'.sending + s'.coming.count .doNextJob := by
  have hJobs := h.jobs
  have hFlush : ∀ isMatch : Notification δ → Bool,
      (s.mDataQ.filter isMatch).length ≤ s.mDataQ.length :=
    fun isMatch => List.length_filter_le isMatch s.mDataQ
  rw [CbNotifier.coming, List.count_append] at hJobs ⊢
  cases hChange with
  | posted =>
    rw [List.length_append, List.length_singleton]
    dsimp only
    omega
  | sent =>
    rw [List.count_append, List.count_singleton_self]
    dsimp only
    omega
  | issued mode =>
    have hOther : mode.cmd ≠ .doNextJob := by cases mode <;> decide
    rw [List.count_cons_of_ne hOther]
    exact hJobs
  | flushed =>
    exact Nat.le_trans (hFlush _) hJobs
  | stopped thread =>
    rw [thread] at hJobs
    exact Nat.le_trans (hFlush _) hJobs
  | got thread queued =>
    rw [thread, queued] at hJobs
    simpa [Nat.add_comm, List.count_cons] using hJobs
  | noJob thread empty =>
    rw [empty]
    exact Nat.zero_le _
  | tookJob thread queued =>
    rw [thread, queued] at hJobs
    simp at hJobs ⊢
    omega
  | semWait thread | started _ _ thread | handed thread | counted thread | ignored thread =>
    rw [thread] at hJobs
    exact hJobs
  | _ => exact hJobs

theorem Ready.next (h : s.Ready) (hChange : Change os s o s') : s'.Ready where
  active := by cases hChange <;> exact h.active
  notifyCb := by cases hChange <;> exact h.notifyCb
  dataCb := by cases hChange <;> exact h.dataCb
  dataCbTimestamp := by cases hChange <;> exact h.dataCbTimestamp
  running := by cases hChange <;> first | exact h.running | simp
  cmds cmd hIn := (hChange.coming cmd hIn).elim (h.cmds cmd) id
  sem := h.sem_next hChange
  jobs := h.jobs_next hChange

end KiwiDevice.Hal.CbNotifier

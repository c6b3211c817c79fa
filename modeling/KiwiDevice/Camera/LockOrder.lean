import KiwiDevice.Camera.ChannelLocks

/-!
# The order of the waits

A thread that has `cam_lock` may wait for `ch_lock`, and a callback needs `cam_lock` to give a
buffer back. If nobody waits for the `ch_lock` of a channel while its holder waits for a callback,
the waits have an order.
-/

namespace KiwiDevice.Camera

namespace LockStage

def holdsIntf : LockStage → Bool
  | camWait _ | camHeld _ => true
  | _ => false

def holdsCam : LockStage → Bool
  | camHeld _ | camBody _ | chWait .. | chHeld .. => true
  | _ => false

/-- The channel whose lock the thread holds. -/
def channel : LockStage → Option Nat
  | chHeld ch _ | chBody ch _ | starting ch _ | flushing ch _ _ | syncing ch _ _ | joinCmd ch _
  | joinCb ch _ | leaving ch => some ch
  | idle | intfWait _ | camWait _ | camHeld _ | camBody _ | chWait .. | tail => none

def isQbuf : LockStage → Bool
  | intfWait .qbuf | camWait .qbuf | camHeld .qbuf | camBody .qbuf | tail => true
  | _ => false

end LockStage

namespace LockWorld

variable {w w' : LockWorld} {a b : Agent} {ch : Nat} {x : LockStage}

/-- The callback thread runs a callback, or has another one to run. -/
def Busy (c : LockChannel) : Prop := c.inCallback = true ∨ .superbuf ∈ c.cb.queue

instance (c : LockChannel) : Decidable (Busy c) := inferInstanceAs (Decidable (_ ∨ _))

/-- No thread begins to wait for the lock of a channel whose holder waits for a busy
callback thread, and no holder begins to wait for a busy callback thread while a thread
waits for the lock. -/
def Spared (w : LockWorld) : Input → Prop
  | .run a =>
    (∀ ch call, w.stages a = .camBody (.channel (some ch) call) → Busy (w.channels ch) →
      ∀ b after, w.stages b ≠ .joinCb ch after) ∧
    ∀ ch after, w.stages a = .joinCmd ch after → (w.channels ch).cmd.alive = false →
      Busy (w.channels ch) → ∀ b call, w.stages b ≠ .chWait ch call
  | _ => True

structure Sound (w : LockWorld) : Prop where
  intf : ∀ a, w.intfLock = some a → (w.stages a).holdsIntf = true
  cam : ∀ a, w.camLock = some a → (w.stages a).holdsCam = true
  lock : ∀ ch a, (w.channels ch).chLock = some a ↔ (w.stages a).channel = some ch
  cmd : ∀ ch, w.stages (.cmd ch) = .idle
  cb : ∀ ch, w.stages (.cb ch) ≠ .idle →
    (w.channels ch).inCallback = true ∧ (w.stages (.cb ch)).isQbuf = true
  ended : ∀ a ch after, w.stages a = .joinCb ch after → (w.channels ch).cmd.alive = false
  spared : ∀ a ch after, w.stages a = .joinCb ch after → Busy (w.channels ch) →
    ∀ b call, w.stages b ≠ .chWait ch call

/-- The waits that a thread may have before it. -/
def rank (w : LockWorld) (a : Agent) : Nat :=
  match w.stages a with
  | .intfWait _ => 4
  | .camWait _ => 3
  | .chWait .. => 2
  | .joinCmd .. => 1
  | .joinCb ch _ => if Busy (w.channels ch) then 5 else 1
  | _ => 0

theorem rank_of_holdsIntf (h : (w.stages a).holdsIntf = true) : w.rank a ≤ 3 := by
  rw [rank]
  cases hStage : w.stages a with
  | camWait => exact Nat.le_refl 3
  | camHeld => exact Nat.zero_le 3
  | _ =>
    rw [hStage] at h
    cases h

theorem rank_of_holdsCam (h : (w.stages a).holdsCam = true) : w.rank a ≤ 2 := by
  rw [rank]
  cases hStage : w.stages a with
  | camHeld | camBody | chHeld => exact Nat.zero_le 2
  | chWait => exact Nat.le_refl 2
  | _ =>
    rw [hStage] at h
    cases h

theorem Sound.rank_of_lock {call : ChannelCall} (h : w.Sound) (hWait : w.stages a = .chWait ch call)
    (hLock : (w.channels ch).chLock = some b) : w.rank b ≤ 1 := by
  have hChannel := (h.lock ch b).mp hLock
  rw [rank]
  cases hStage : w.stages b with
  | joinCmd => exact Nat.le_refl 1
  | joinCb ch' after =>
    rw [hStage] at hChannel
    cases hChannel
    refine Nat.le_of_eq (if_neg fun hBusy => ?_)
    exact h.spared b ch after hStage hBusy a call hWait
  | chHeld | chBody | starting | flushing | syncing | leaving => exact Nat.zero_le 1
  | idle | intfWait | camWait | camHeld | camBody | chWait | tail =>
    rw [hStage] at hChannel
    cases hChannel

theorem rank_of_isQbuf (h : (w.stages a).isQbuf = true) : w.rank a ≤ 4 := by
  rw [rank]
  cases hStage : w.stages a with
  | intfWait => exact Nat.le_refl 4
  | camWait => exact Nat.le_succ 3
  | camHeld | camBody | tail => exact Nat.zero_le 4
  | idle | chWait | chHeld | chBody | starting | flushing | syncing | joinCmd | joinCb | leaving =>
    rw [hStage] at h
    cases h

theorem Sound.rank_lt (h : w.Sound) (hWaits : w.Waits a b) : w.rank b < w.rank a := by
  rw [Waits] at hWaits
  split at hWaits
  · rename_i call hStage
    have hRank : w.rank a = 4 := by rw [rank, hStage]
    rw [hRank]
    exact Nat.lt_succ_of_le (rank_of_holdsIntf (h.intf b hWaits))
  · rename_i call hStage
    have hRank : w.rank a = 3 := by rw [rank, hStage]
    rw [hRank]
    exact Nat.lt_succ_of_le (rank_of_holdsCam (h.cam b hWaits))
  · rename_i ch call hStage
    have hRank : w.rank a = 2 := by rw [rank, hStage]
    rw [hRank]
    exact Nat.lt_succ_of_le (h.rank_of_lock hStage hWaits)
  · rename_i ch after hStage
    obtain ⟨rfl, -⟩ := hWaits
    have hRank : w.rank a = 1 := by rw [rank, hStage]
    have hCmd : w.rank (.cmd ch) = 0 := by rw [rank, h.cmd]
    rw [hRank, hCmd]
    exact Nat.zero_lt_one
  · rename_i ch after hStage
    obtain ⟨rfl, -⟩ := hWaits
    have hRank : w.rank a = if Busy (w.channels ch) then 5 else 1 := by rw [rank, hStage]
    rw [hRank]
    split
    · by_cases hIdle : w.stages (.cb ch) = .idle
      · have hCb : w.rank (.cb ch) = 0 := by rw [rank, hIdle]
        rw [hCb]
        exact Nat.zero_lt_succ 4
      · exact Nat.lt_succ_of_le (rank_of_isQbuf (h.cb ch hIdle).2)
    · rename_i hNotBusy
      have hIdle : w.stages (.cb ch) = .idle := by
        by_contra hIn
        exact hNotBusy (.inl (h.cb ch hIn).1)
      have hCb : w.rank (.cb ch) = 0 := by rw [rank, hIdle]
      rw [hCb]
      exact Nat.zero_lt_one
  · exact hWaits.elim

theorem Sound.not_deadlock (h : w.Sound) : ¬ Lib.Deadlock w.Waits :=
  Lib.not_deadlock_of_rank w.rank fun _ _ => h.rank_lt

theorem Sound.move (h : w.Sound) (hStages : w'.stages = Function.update w.stages a x)
    (hIntf : ∀ b, w'.intfLock = some b → (Function.update w.stages a x b).holdsIntf = true)
    (hCam : ∀ b, w'.camLock = some b → (Function.update w.stages a x b).holdsCam = true)
    (hLock : ∀ ch b, (w'.channels ch).chLock = some b ↔
      (Function.update w.stages a x b).channel = some ch)
    (hCb : ∀ ch, (w'.channels ch).inCallback = (w.channels ch).inCallback)
    (hAgent : w.stages a ≠ .idle ∧ ((w.stages a).isQbuf = true → x = .idle ∨ x.isQbuf = true))
    (hKept : ∀ ch b after, b ≠ a → w.stages b = .joinCb ch after →
      (w'.channels ch).cmd.alive = false ∧ (Busy (w'.channels ch) → Busy (w.channels ch)))
    (hJoin : ∀ ch after, x = .joinCb ch after → (w'.channels ch).cmd.alive = false ∧
      (Busy (w'.channels ch) → ∀ b call, w.stages b ≠ .chWait ch call))
    (hWait : ∀ ch call, x = .chWait ch call → Busy (w.channels ch) →
      ∀ b after, w.stages b ≠ .joinCb ch after) : w'.Sound := by
  have hSame : w'.stages a = x := by rw [hStages, Function.update_self]
  have hOther : ∀ b, b ≠ a → w'.stages b = w.stages b := fun b hNe => by
    rw [hStages, Function.update_of_ne hNe]
  refine ⟨?_, ?_, ?_, ?_, ?_, ?_, ?_⟩
  · rw [hStages]
    exact hIntf
  · rw [hStages]
    exact hCam
  · rw [hStages]
    exact hLock
  · intro ch
    rw [hOther (.cmd ch) fun hEq => hAgent.1 (hEq ▸ h.cmd ch)]
    exact h.cmd ch
  · intro ch hIn
    rw [hCb]
    rcases eq_or_ne (.cb ch) a with rfl | hNe
    · rw [hSame] at hIn ⊢
      obtain ⟨hCallback, hQbuf⟩ := h.cb ch hAgent.1
      exact ⟨hCallback, (hAgent.2 hQbuf).resolve_left hIn⟩
    · rw [hOther _ hNe] at hIn ⊢
      exact h.cb ch hIn
  · intro b ch after hStage
    rcases eq_or_ne b a with rfl | hNe
    · exact (hJoin ch after (hSame.symm.trans hStage)).1
    · rw [hOther b hNe] at hStage
      exact (hKept ch b after hNe hStage).1
  · intro b ch after hStage hBusy b' call hWaiting
    rcases eq_or_ne b a with rfl | hNe
    · have hx := hSame.symm.trans hStage
      rcases eq_or_ne b' b with rfl | hNe'
      · cases hStage.symm.trans hWaiting
      · rw [hOther b' hNe'] at hWaiting
        exact (hJoin ch after hx).2 hBusy b' call hWaiting
    · rw [hOther b hNe] at hStage
      have hBefore := (hKept ch b after hNe hStage).2 hBusy
      rcases eq_or_ne b' a with rfl | hNe'
      · exact hWait ch call (hSame.symm.trans hWaiting) hBefore b after hStage
      · rw [hOther b' hNe'] at hWaiting
        exact h.spared b ch after hStage hBefore b' call hWaiting

theorem Sound.keepIntf (h : w.Sound)
    (hHolds : (w.stages a).holdsIntf = true → x.holdsIntf = true) (b : Agent)
    (hLock : w.intfLock = some b) : (Function.update w.stages a x b).holdsIntf = true := by
  have hBefore := h.intf b hLock
  rcases eq_or_ne b a with rfl | hNe
  · rw [Function.update_self]
    exact hHolds hBefore
  · rw [Function.update_of_ne hNe]
    exact hBefore

theorem Sound.keepCam (h : w.Sound)
    (hHolds : (w.stages a).holdsCam = true → x.holdsCam = true) (b : Agent)
    (hLock : w.camLock = some b) : (Function.update w.stages a x b).holdsCam = true := by
  have hBefore := h.cam b hLock
  rcases eq_or_ne b a with rfl | hNe
  · rw [Function.update_self]
    exact hHolds hBefore
  · rw [Function.update_of_ne hNe]
    exact hBefore

theorem Sound.keepLock (h : w.Sound) (hChannel : x.channel = (w.stages a).channel) (ch : Nat)
    (b : Agent) : (w.channels ch).chLock = some b ↔
      (Function.update w.stages a x b).channel = some ch := by
  rw [h.lock]
  rcases eq_or_ne b a with rfl | hNe
  · rw [Function.update_self, hChannel]
  · rw [Function.update_of_ne hNe]

theorem Sound.stay (h : w.Sound) (hStages : w'.stages = Function.update w.stages a x)
    (hChannels : w'.channels = w.channels)
    (hIntf : ∀ b, w'.intfLock = some b → (Function.update w.stages a x b).holdsIntf = true)
    (hCam : ∀ b, w'.camLock = some b → (Function.update w.stages a x b).holdsCam = true)
    (hChannel : x.channel = (w.stages a).channel)
    (hAgent : w.stages a ≠ .idle ∧ ((w.stages a).isQbuf = true → x = .idle ∨ x.isQbuf = true))
    (hJoin : ∀ ch after, x ≠ .joinCb ch after)
    (hWait : ∀ ch call, x = .chWait ch call → Busy (w.channels ch) →
      ∀ b after, w.stages b ≠ .joinCb ch after) : w'.Sound := by
  refine h.move hStages hIntf hCam ?_ ?_ hAgent ?_ (fun ch after hEq => absurd hEq (hJoin ch after))
    hWait
  · rw [hChannels]
    exact h.keepLock hChannel
  · rw [hChannels]
    exact fun _ => rfl
  · rw [hChannels]
    exact fun ch b after _ hStage => ⟨h.ended b ch after hStage, fun hBusy => hBusy⟩

theorem Sound.change {y : LockStage} {c : LockChannel} (h : w.Sound) (hStage : w.stages a = y)
    (hOwn : y.channel = some ch ∧ y.holdsIntf = false ∧ y.holdsCam = false)
    (hChannel : x.channel = some ch) (hLock : c.chLock = (w.channels ch).chLock)
    (hCallback : c.inCallback = (w.channels ch).inCallback)
    (hJoin : ∀ after, x = .joinCb ch after → c.cmd.alive = false ∧
      (Busy c → ∀ b call, w.stages b ≠ .chWait ch call)) :
    ((w.setChannel ch c).setStage a x).Sound := by
  subst hStage
  obtain ⟨hOwner, hNotIntf, hNotCam⟩ := hOwn
  have hSame : (w.setChannel ch c).channels ch = c := Function.update_self ..
  have hOther : ∀ ch', ch' ≠ ch → (w.setChannel ch c).channels ch' = w.channels ch' :=
    fun ch' hNe => Function.update_of_ne hNe ..
  refine h.move (x := x) rfl (h.keepIntf fun hHolds => ?_) (h.keepCam fun hHolds => ?_) ?_ ?_ ?_ ?_ ?_
    ?_
  · rw [hNotIntf] at hHolds
    cases hHolds
  · rw [hNotCam] at hHolds
    cases hHolds
  · intro ch' b
    rw [← h.keepLock (hChannel.trans hOwner.symm)]
    show ((w.setChannel ch c).channels ch').chLock = some b ↔ _
    rcases eq_or_ne ch' ch with rfl | hNe
    · rw [hSame, hLock]
    · rw [hOther ch' hNe]
  · intro ch'
    show ((w.setChannel ch c).channels ch').inCallback = _
    rcases eq_or_ne ch' ch with rfl | hNe
    · rw [hSame, hCallback]
    · rw [hOther ch' hNe]
  · refine ⟨fun hIdle => ?_, fun hQbuf => ?_⟩
    · rw [hIdle] at hOwner
      cases hOwner
    · cases hStage : w.stages a with
      | idle | intfWait | camWait | camHeld | camBody | tail =>
        rw [hStage] at hOwner
        cases hOwner
      | _ =>
        rw [hStage] at hQbuf
        cases hQbuf
  · intro ch' b after hNe hStage
    -- another thread that waits for an end holds the lock of another channel
    have hNe' : ch' ≠ ch := by
      rintro rfl
      have hLock₁ := (h.lock ch' b).mpr (by rw [hStage]; rfl)
      have hLock₂ := (h.lock ch' a).mpr hOwner
      exact hNe (Option.some.inj (hLock₁.symm.trans hLock₂))
    show ((w.setChannel ch c).channels ch').cmd.alive = false ∧
      (Busy ((w.setChannel ch c).channels ch') → _)
    rw [hOther ch' hNe']
    exact ⟨h.ended b ch' after hStage, fun hBusy => hBusy⟩
  · rintro ch' after rfl
    cases hChannel
    show ((w.setChannel ch c).channels ch).cmd.alive = false ∧
      (Busy ((w.setChannel ch c).channels ch) → _)
    rw [hSame]
    exact hJoin after rfl
  · rintro ch' call rfl
    cases hChannel

theorem Sound.keep {y : LockStage} (h : w.Sound) (hStage : w.stages a = y)
    (hOwn : y.channel = some ch ∧ y.holdsIntf = false ∧ y.holdsCam = false)
    (hChannel : x.channel = some ch) (hJoin : ∀ ch after, x ≠ .joinCb ch after) :
    (w.setStage a x).Sound := by
  have hKept := h.change (x := x) hStage hOwn hChannel rfl rfl fun after hEq => absurd hEq (hJoin ch after)
  have hSame : w.setChannel ch (w.channels ch) = w := by
    rw [setChannel, Function.update_eq_self]
  rwa [hSame] at hKept

theorem Sound.dispatch {call : ChannelCall} (h : w.Sound) (hStage : w.stages a = .chBody ch call) :
    (w.dispatch a ch call).Sound := by
  have hLeave : (w.setStage a (.leaving ch)).Sound := h.keep hStage ⟨rfl, rfl, rfl⟩ rfl nofun
  cases call with
  | start failed =>
    simp only [LockWorld.dispatch]
    split
    · exact hLeave
    · split
      · exact h.change hStage ⟨rfl, rfl, rfl⟩ rfl rfl rfl nofun
      · exact h.keep hStage ⟨rfl, rfl, rfl⟩ rfl nofun
  | stop linked =>
    simp only [LockWorld.dispatch]
    split
    · split
      · exact h.keep hStage ⟨rfl, rfl, rfl⟩ rfl nofun
      · exact h.change hStage ⟨rfl, rfl, rfl⟩ rfl rfl rfl nofun
    · exact hLeave
  | flush =>
    simp only [LockWorld.dispatch]
    split
    · exact h.keep hStage ⟨rfl, rfl, rfl⟩ rfl nofun
    · exact hLeave
  | command =>
    simp only [LockWorld.dispatch]
    split
    · exact h.change hStage ⟨rfl, rfl, rfl⟩ rfl rfl rfl nofun
    · exact hLeave
  | direct => exact hLeave

/-- A thread with `cam_lock` gets the lock of a channel. -/
theorem Sound.lockChannel {call : ChannelCall} (h : w.Sound) (hStage : w.stages a = .chWait ch call)
    (hFree : (w.channels ch).chLock = none) :
    ((w.setChannel ch { w.channels ch with chLock := some a }).setStage a (.chHeld ch call)).Sound := by
  have hSame : (w.setChannel ch { w.channels ch with chLock := some a }).channels ch = _ :=
    Function.update_self ..
  have hOther : ∀ ch', ch' ≠ ch →
      (w.setChannel ch { w.channels ch with chLock := some a }).channels ch' = w.channels ch' :=
    fun ch' hNe => Function.update_of_ne hNe ..
  have hCmd := congrArg (fun c : LockChannel => c.cmd.alive) hSame
  have hBusy := congrArg Busy hSame
  have hCallback := congrArg LockChannel.inCallback hSame
  refine h.move (x := .chHeld ch call) rfl (h.keepIntf ?_) (h.keepCam fun _ => rfl) ?_ ?_ ⟨?_, ?_⟩ ?_
    nofun nofun
  · rw [hStage]
    exact Bool.noConfusion
  · intro ch' b
    show ((w.setChannel ch { w.channels ch with chLock := some a }).channels ch').chLock = some b ↔ _
    rcases eq_or_ne b a with rfl | hNe
    · rw [Function.update_self]
      rcases eq_or_ne ch' ch with rfl | hNe'
      · rw [hSame]
        exact iff_of_true rfl rfl
      · rw [hOther ch' hNe', h.lock, hStage]
        exact iff_of_false nofun fun hEq => hNe' (Option.some.inj hEq).symm
    · rw [Function.update_of_ne hNe, ← h.lock]
      rcases eq_or_ne ch' ch with rfl | hNe'
      · rw [hSame, hFree]
        exact iff_of_false (fun hEq => hNe (Option.some.inj hEq).symm) nofun
      · rw [hOther ch' hNe']
  · intro ch'
    rcases eq_or_ne ch' ch with rfl | hNe'
    · exact hCallback
    · exact congrArg LockChannel.inCallback (hOther ch' hNe')
  · rw [hStage]
    nofun
  · rw [hStage]
    exact Bool.noConfusion
  · intro ch' b after _ hJoining
    have hEnded := h.ended b ch' after hJoining
    rcases eq_or_ne ch' ch with rfl | hNe'
    · exact ⟨hCmd.trans hEnded, fun hIn => hBusy ▸ hIn⟩
    · have hKept := hOther ch' hNe'
      exact ⟨(congrArg (fun c : LockChannel => c.cmd.alive) hKept).trans hEnded,
        fun hIn => congrArg Busy hKept ▸ hIn⟩

theorem Sound.unlockChannel (h : w.Sound) (hStage : w.stages a = .leaving ch) :
    ((w.setChannel ch { w.channels ch with chLock := none }).setStage a .idle).Sound := by
  have hMine := (h.lock ch a).mpr (by rw [hStage]; rfl)
  have hSame : (w.setChannel ch { w.channels ch with chLock := none }).channels ch = _ :=
    Function.update_self ..
  have hOther : ∀ ch', ch' ≠ ch →
      (w.setChannel ch { w.channels ch with chLock := none }).channels ch' = w.channels ch' :=
    fun ch' hNe => Function.update_of_ne hNe ..
  have hCmd := congrArg (fun c : LockChannel => c.cmd.alive) hSame
  have hBusy := congrArg Busy hSame
  have hCallback := congrArg LockChannel.inCallback hSame
  refine h.move (x := .idle) rfl (h.keepIntf ?_) (h.keepCam ?_) ?_ ?_ ⟨?_, ?_⟩ ?_ nofun nofun
  · rw [hStage]
    exact Bool.noConfusion
  · rw [hStage]
    exact Bool.noConfusion
  · intro ch' b
    show ((w.setChannel ch { w.channels ch with chLock := none }).channels ch').chLock = some b ↔ _
    rcases eq_or_ne b a with rfl | hNe
    · rw [Function.update_self]
      refine iff_of_false (fun hLock => ?_) nofun
      rcases eq_or_ne ch' ch with rfl | hNe'
      · rw [hSame] at hLock
        cases hLock
      · rw [hOther ch' hNe', h.lock, hStage] at hLock
        exact hNe' (Option.some.inj hLock).symm
    · rw [Function.update_of_ne hNe, ← h.lock]
      rcases eq_or_ne ch' ch with rfl | hNe'
      · rw [hSame, hMine]
        exact iff_of_false nofun fun hEq => hNe (Option.some.inj hEq).symm
      · rw [hOther ch' hNe']
  · intro ch'
    rcases eq_or_ne ch' ch with rfl | hNe'
    · exact hCallback
    · exact congrArg LockChannel.inCallback (hOther ch' hNe')
  · rw [hStage]
    nofun
  · rw [hStage]
    exact Bool.noConfusion
  · intro ch' b after _ hJoining
    have hEnded := h.ended b ch' after hJoining
    rcases eq_or_ne ch' ch with rfl | hNe'
    · exact ⟨hCmd.trans hEnded, fun hIn => hBusy ▸ hIn⟩
    · have hKept := hOther ch' hNe'
      exact ⟨(congrArg (fun c : LockChannel => c.cmd.alive) hKept).trans hEnded,
        fun hIn => congrArg Busy hKept ▸ hIn⟩

end LockWorld

end KiwiDevice.Camera

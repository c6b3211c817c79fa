import KiwiDevice.Gps.LocThread

/-!
# Location threads are freed once

Both sides drop their reference to the delegate, whatever the order of their steps. The runnable is
freed by the thread that finds it, so that the owner must not take it away before the thread has
looked.
-/

namespace KiwiDevice.Gps

open Lib (RefCount RefPhase)

def DestroyPc.phase : DestroyPc → RefPhase
  | .test => .holding
  | .lock => .holding
  | .read => .locked
  | .write refCount => .writing refCount
  | .unlock callDelete => .leaving callDelete
  | .delete => .deleting

def OwnerPc.phase : OwnerPc → RefPhase
  | .destroy _ pc => pc.phase
  | .done _ => .gone
  | _ => .holding

def SpawnedPc.phase : SpawnedPc → RefPhase
  | .destroy pc => pc.phase
  | .exited => .gone
  | _ => .holding

namespace LocThreadState

/-- The delegate as a counted reference. -/
def refs (s : LocThreadState) : RefCount LocThreadSide where
  count := s.delegate.mRefCount
  mutex := s.delegate.mMutex
  live := s.delegate.live
  phase
    | .owner => s.owner.phase
    | .spawned => s.spawned.phase

/-- The same delegate, and one side at another place. -/
def moved (d : LocThreadDelegate) (r : RefCount LocThreadSide) (side : LocThreadSide)
    (p : RefPhase) :
    RefCount LocThreadSide :=
  { r.setPhase side p with count := d.mRefCount, mutex := d.mMutex, live := d.live }

variable {s s' : LocThreadState} {o : List LocThreadEvent} {d d' : LocThreadDelegate}
  {side : LocThreadSide} {pc : DestroyPc} {r : RefCount LocThreadSide} {onward : Option DestroyPc}

/-- A step of `destroy` is one of dropping a reference, and the test in front of it
changes nothing. -/
theorem destroy_step (h : r.Sound) (hCount : r.count = d.mRefCount) (hMutex : r.mutex = d.mMutex)
    (hLive : r.live = d.live) (hPhase : r.phase side = pc.phase)
    (hDestroy : d.destroy side pc = some (d', o, onward)) :
    moved d' r side (onward.elim .gone DestroyPc.phase) = r ∨
      RefCount.Step side r (moved d' r side (onward.elim .gone DestroyPc.phase)) := by
  obtain ⟨count, mutex, live, phase⟩ := r
  obtain rfl : count = d.mRefCount := hCount
  obtain rfl : mutex = d.mMutex := hMutex
  obtain rfl : live = d.live := hLive
  cases pc with
  | test =>
    left
    have hPos : d.mRefCount > 0 := h.count_pos (i := side) (by rw [hPhase]; rfl)
    simp only [LocThreadDelegate.destroy, if_pos hPos, Option.some.injEq] at hDestroy
    cases hDestroy
    have hSame : Function.update phase side .holding = phase := by
      rw [← show _ = RefPhase.holding from hPhase, Function.update_eq_self]
    exact congrArg (RefCount.mk d.mRefCount d.mMutex d.live) hSame
  | lock =>
    rw [LocThreadDelegate.destroy] at hDestroy
    split at hDestroy
    · rename_i hFree
      cases hDestroy
      exact Or.inr (.lock hPhase hFree)
    · cases hDestroy
  | read =>
    cases hDestroy
    exact Or.inr (.read hPhase)
  | write n =>
    cases hDestroy
    exact Or.inr (.write hPhase)
  | unlock last =>
    cases hDestroy
    have hNext : (if last then some DestroyPc.delete else none).elim .gone DestroyPc.phase =
        if last then RefPhase.deleting else .gone := by
      cases last <;> rfl
    rw [hNext]
    exact Or.inr (.unlock hPhase)
  | delete =>
    cases hDestroy
    exact Or.inr (.delete hPhase)

theorem destroy_sound (h : r.Sound) (hCount : r.count = d.mRefCount) (hMutex : r.mutex = d.mMutex)
    (hLive : r.live = d.live) (hPhase : r.phase side = pc.phase)
    (hDestroy : d.destroy side pc = some (d', o, onward)) :
    (moved d' r side (onward.elim .gone DestroyPc.phase)).Sound := by
  rcases destroy_step h hCount hMutex hLive hPhase hDestroy with hSame | hStep
  · rw [hSame]
    exact h
  · exact h.step hStep

/-- What else a step of `destroy` does to the delegate. -/
theorem destroy_effect (h : d.destroy side pc = some (d', o, onward)) :
    d'.mRunnable = d.mRunnable ∧ d'.mJoinable = d.mJoinable ∧
      (d'.live = d.live ∧ o = [] ∨ pc = .delete ∧ d'.live = false ∧ o = [.delegateDeleted]) := by
  cases pc with
  | lock =>
    rw [LocThreadDelegate.destroy] at h
    split at h
    · cases h
      exact ⟨rfl, rfl, Or.inl ⟨rfl, rfl⟩⟩
    · cases h
  | delete =>
    cases h
    exact ⟨rfl, rfl, Or.inr ⟨rfl, rfl, rfl⟩⟩
  | _ =>
    cases h
    exact ⟨rfl, rfl, Or.inl ⟨rfl, rfl⟩⟩

theorem refs_owner (s : LocThreadState) (d : LocThreadDelegate) (p : OwnerPc) :
    refs { s with delegate := d, owner := p } = moved d s.refs .owner p.phase := by
  simp only [refs, moved, RefCount.setPhase, RefCount.mk.injEq, true_and]
  funext side
  cases side <;> simp [Function.update]

theorem refs_spawned (s : LocThreadState) (d : LocThreadDelegate) (p : SpawnedPc) :
    refs { s with delegate := d, spawned := p } = moved d s.refs .spawned p.phase := by
  simp only [refs, moved, RefCount.setPhase, RefCount.mk.injEq, true_and]
  funext side
  cases side <;> simp [Function.update]

theorem access_nil (h : s.refs.Sound) (hSide : s.refs.phase side ≠ .gone) :
    s.delegate.access side = [] :=
  if_pos (h.live_of hSide)

/-- The owner is in front of the join, so that it has not changed `mJoinable`. -/
def beforeJoin : OwnerPc → Bool
  | .join => false
  | .destroy _ _ => false
  | .done _ => false
  | _ => true

/-- The owner is behind the join. -/
def joined : OwnerPc → Bool
  | .destroy started _ => started
  | .done started => started
  | _ => false

/-- What the owner does to the state, beside its own place. -/
structure OwnerEffect (s s' : LocThreadState) (o : List LocThreadEvent) : Prop where
  refs : s'.refs.Sound
  spawned : s'.spawned = s.spawned
  runnable : s'.runnable = s.runnable
  joinable : s'.joinable = s.joinable
  deleted : o = [] ∧ s'.delegate.live = s.delegate.live ∨
    o = [.delegateDeleted] ∧ s.delegate.live = true ∧ s'.delegate.live = false
  mRunnable : s'.delegate.mRunnable = s.delegate.mRunnable ∨
    s.owner = .clearRunnable ∧ s'.delegate.mRunnable = false
  before : beforeJoin s'.owner = true →
    beforeJoin s.owner = true ∧ s'.delegate.mJoinable = s.delegate.mJoinable
  after : joined s'.owner = true →
    joined s.owner = true ∨ s.spawned = .exited ∨
      beforeJoin s.owner = true ∧ s.delegate.mJoinable = false

/-- The owner goes from one place in front of its `destroy` to the next one. -/
theorem ownerEffect_goto (h : s.refs.Sound) (hFrom : s.owner.phase = .holding) {p : OwnerPc}
    (hTo : p.phase = .holding) (hBefore : beforeJoin p = true → beforeJoin s.owner = true)
    (hAfter : joined p = true →
      joined s.owner = true ∨ s.spawned = .exited ∨
        beforeJoin s.owner = true ∧ s.delegate.mJoinable = false) :
    OwnerEffect s { s with owner := p } [] := by
  have hRefs : refs { s with owner := p } = s.refs := by
    simp only [refs, hFrom, hTo]
  constructor
  · rw [hRefs]
    exact h
  · rfl
  · rfl
  · rfl
  · exact Or.inl ⟨rfl, rfl⟩
  · exact Or.inl rfl
  · exact fun hIn => ⟨hBefore hIn, rfl⟩
  · exact hAfter

theorem ownerStep_effect (h : s.refs.Sound) (hStep : s.ownerStep = some (s', o)) :
    OwnerEffect s s' o := by
  have hAccess : s.owner.phase ≠ .gone → s.delegate.access .owner = [] :=
    fun hPhase => access_nil h hPhase
  obtain ⟨delegate, runnable, owner, spawned, joinable⟩ := s
  cases owner with
  | idle => cases hStep
  | done started => cases hStep
  | destroy started pc =>
    obtain ⟨⟨d', o', next⟩, hDestroy, hEq⟩ := Option.map_eq_some_iff.mp hStep
    cases hEq
    have hHere : pc.phase ≠ .gone := by
      cases pc <;> exact fun hGone => by cases hGone
    have hNil : delegate.access .owner = [] := hAccess hHere
    have hLive : delegate.live = true := h.live_of (i := LocThreadSide.owner) hHere
    obtain ⟨hRunnable, hJoinable, hDeleted⟩ := destroy_effect hDestroy
    have hPhase : (next.elim (OwnerPc.done started) (OwnerPc.destroy started)).phase =
        next.elim .gone DestroyPc.phase := by
      cases next <;> rfl
    constructor
    · rw [refs_owner, hPhase]
      exact destroy_sound h rfl rfl rfl rfl hDestroy
    · rfl
    · rfl
    · rfl
    · rw [hNil, List.nil_append]
      rcases hDeleted with ⟨hSame, rfl⟩ | ⟨-, hDead, rfl⟩
      · exact Or.inl ⟨rfl, hSame⟩
      · exact Or.inr ⟨rfl, hLive, hDead⟩
    · exact Or.inl hRunnable
    · cases next <;> exact fun hBefore => by cases hBefore
    · cases next <;> exact fun hJoined => Or.inl hJoined
  | join =>
    have hNil : delegate.access .owner = [] := hAccess fun hGone => by cases hGone
    simp only [ownerStep, hNil] at hStep
    split at hStep
    · rename_i hExited
      cases hStep
      exact ownerEffect_goto h rfl rfl (fun hBefore => by cases hBefore)
        (fun _ => Or.inr (Or.inl hExited))
    · cases hStep
  | clearRunnable =>
    have hNil : delegate.access .owner = [] := hAccess fun hGone => by cases hGone
    simp only [ownerStep, hNil] at hStep
    cases hStep
    constructor
    · exact h
    · rfl
    · rfl
    · rfl
    · exact Or.inl ⟨rfl, rfl⟩
    · exact Or.inr ⟨rfl, rfl⟩
    · exact fun _ => ⟨rfl, rfl⟩
    · exact fun hJoined => by cases hJoined
  | clearJoinable =>
    have hNil : delegate.access .owner = [] := hAccess fun hGone => by cases hGone
    simp only [ownerStep, hNil] at hStep
    cases hStep
    constructor
    · exact h
    · rfl
    · rfl
    · rfl
    · exact Or.inl ⟨rfl, rfl⟩
    · exact Or.inl rfl
    · exact fun hBefore => by cases hBefore
    · exact fun hJoined => by cases hJoined
  | detach =>
    have hNil : delegate.access .owner = [] := hAccess fun hGone => by cases hGone
    simp only [ownerStep, hNil] at hStep
    cases hStep
    exact ownerEffect_goto h rfl rfl (fun _ => rfl) (fun hJoined => by cases hJoined)
  | setName =>
    have hNil : delegate.access .owner = [] := hAccess fun hGone => by cases hGone
    simp only [ownerStep, hNil] at hStep
    cases hStep
    cases joinable <;>
      exact ownerEffect_goto h rfl rfl (fun _ => rfl) (fun hJoined => by cases hJoined)
  | isRunning =>
    have hNil : delegate.access .owner = [] := hAccess fun hGone => by cases hGone
    simp only [ownerStep, hNil] at hStep
    cases hStep
    split <;> exact ownerEffect_goto h rfl rfl (fun _ => rfl) (fun hJoined => by cases hJoined)
  | testRunnable =>
    have hNil : delegate.access .owner = [] := hAccess fun hGone => by cases hGone
    simp only [ownerStep, hNil] at hStep
    cases hStep
    split <;> exact ownerEffect_goto h rfl rfl (fun _ => rfl) (fun hJoined => by cases hJoined)
  | bye =>
    have hNil : delegate.access .owner = [] := hAccess fun hGone => by cases hGone
    simp only [ownerStep, hNil] at hStep
    cases hStep
    split
    · exact ownerEffect_goto h rfl rfl (fun _ => rfl) (fun hJoined => by cases hJoined)
    · rename_i hDetached
      exact ownerEffect_goto h rfl rfl (fun hBefore => by cases hBefore)
        (fun _ => Or.inr (Or.inr ⟨rfl, Bool.eq_false_of_not_eq_true hDetached⟩))
  | testJoinable =>
    have hNil : delegate.access .owner = [] := hAccess fun hGone => by cases hGone
    simp only [ownerStep, hNil] at hStep
    cases hStep
    split
    · exact ownerEffect_goto h rfl rfl (fun _ => rfl) (fun hJoined => by cases hJoined)
    · rename_i hDetached
      exact ownerEffect_goto h rfl rfl (fun hBefore => by cases hBefore)
        (fun _ => Or.inr (Or.inr ⟨rfl, Bool.eq_false_of_not_eq_true hDetached⟩))

def isCall : LocThreadEvent → Bool
  | .prerun => true
  | .run => true
  | .postrun => true
  | _ => false

def calls (os : List LocThreadEvent) : List LocThreadEvent := os.filter isCall

def pastDelete : SpawnedPc → Bool
  | .destroy _ => true
  | .exited => true
  | _ => false

/-- A run of the thread in which `run` is called `n` times. -/
def wholeRun (n : Nat) : List LocThreadEvent := .prerun :: (List.replicate n .run ++ [.postrun])

/-- `prerun`, and `run` some times. -/
def Started (cs : List LocThreadEvent) : Prop :=
  ∃ n, cs = .prerun :: List.replicate n .run

/-- The calls on the runnable that have been made when the thread is at `pc`. -/
def CallsAt (mRunnable : Bool) (cs : List LocThreadEvent) : SpawnedPc → Prop
  | .start => cs = []
  | .testPrerun => cs = []
  | .prerun => cs = []
  | .testRun => cs = [] ∧ mRunnable = false ∨ Started cs
  | .testPostrun => cs = [] ∧ mRunnable = false ∨ Started cs
  | .run => Started cs
  | .postrun => Started cs
  | _ => ∃ n, cs <+: wholeRun n

/-- The delegate is freed with its last reference, and the runnable by the thread, which has
found it. -/
structure Freed (os : List LocThreadEvent) (s : LocThreadState) : Prop where
  refs : s.refs.Sound
  dangling : ∀ side, .dangling side ∉ os
  deleted : os.count .delegateDeleted = if s.delegate.live then 0 else 1
  freed : os.count .runnableDeleted = if s.runnable then 0 else 1
  runnable : s.runnable = !pastDelete s.spawned
  start : s.spawned = .start → s.delegate.mRunnable = true
  calls : CallsAt s.delegate.mRunnable (calls os) s.spawned
  before : beforeJoin s.owner = true → s.delegate.mJoinable = s.joinable
  after : joined s.owner = true → s.joinable = true → s.spawned = .exited

/-- The owner clears `mRunnable` when the thread has read it. -/
def Meets (s : LocThreadState) (i : LocThreadInput) : Prop :=
  i = .owner → s.owner = .clearRunnable → s.spawned ≠ .start

variable {os : List LocThreadEvent} {i : LocThreadInput} {cs : List LocThreadEvent} {p : SpawnedPc}

theorem CallsAt.cleared {b : Bool} (h : CallsAt b cs p) : CallsAt false cs p := by
  cases p with
  | testRun => exact h.imp_left fun hNil => ⟨hNil.1, rfl⟩
  | testPostrun => exact h.imp_left fun hNil => ⟨hNil.1, rfl⟩
  | _ => exact h

theorem Started.ended (h : Started cs) : ∃ n, cs <+: wholeRun n := by
  obtain ⟨n, rfl⟩ := h
  exact ⟨n, List.prefix_append (LocThreadEvent.prerun :: List.replicate n .run) [.postrun]⟩

theorem CallsAt.ended {b : Bool} (h : CallsAt b cs p) :
    ∃ n, cs <+: wholeRun n := by
  have hNil : cs = [] → ∃ n, cs <+: wholeRun n := by
    rintro rfl
    exact ⟨0, List.nil_prefix⟩
  cases p with
  | start => exact hNil h
  | testPrerun => exact hNil h
  | prerun => exact hNil h
  | testRun => exact h.elim (fun hEmpty => hNil hEmpty.1) Started.ended
  | testPostrun => exact h.elim (fun hEmpty => hNil hEmpty.1) Started.ended
  | run => exact Started.ended h
  | postrun => exact Started.ended h
  | _ => exact h

theorem freed_init (joinable : Bool) : Freed [] (init joinable) := by
  constructor
  · constructor
    · rfl
    · rintro ⟨⟩ <;> simp [refs, init, OwnerPc.phase, SpawnedPc.phase, RefPhase.inMutex]
    · rintro ⟨⟩ v hEq <;> cases hEq
    · simp [refs, init]
    · rintro ⟨⟩ hEq <;> cases hEq
    · rintro ⟨⟩ _ hEq <;> cases hEq
    · rintro ⟨⟩ hEq <;> cases hEq
  · exact fun _ => List.not_mem_nil
  · rfl
  · rfl
  · rfl
  · exact fun _ => rfl
  · exact rfl
  · exact fun _ => rfl
  · exact fun hJoined => by cases hJoined

theorem Freed.owner (h : Freed os s) (hMeets : s.Meets .owner)
    (hStep : s.ownerStep = some (s', o)) :
    Freed (os ++ o) s' := by
  have hEffect := ownerStep_effect h.refs hStep
  have hCalls : LocThreadState.calls (os ++ o) = LocThreadState.calls os := by
    rcases hEffect.deleted with ⟨rfl, -⟩ | ⟨rfl, -, -⟩ <;> simp [LocThreadState.calls, isCall]
  constructor
  · exact hEffect.refs
  · rcases hEffect.deleted with ⟨rfl, -⟩ | ⟨rfl, -, -⟩ <;> simpa using h.dangling
  · rcases hEffect.deleted with ⟨rfl, hLive⟩ | ⟨rfl, hLive, hDead⟩
    · simpa [hLive] using h.deleted
    · simp [h.deleted, hLive, hDead]
  · rw [hEffect.runnable, ← h.freed]
    rcases hEffect.deleted with ⟨rfl, -⟩ | ⟨rfl, -, -⟩ <;> simp
  · rw [hEffect.runnable, hEffect.spawned]
    exact h.runnable
  · intro hStart
    rw [hEffect.spawned] at hStart
    rcases hEffect.mRunnable with hSame | ⟨hClear, -⟩
    · exact hSame.trans (h.start hStart)
    · exact absurd hStart (hMeets rfl hClear)
  · rw [hEffect.spawned, hCalls]
    rcases hEffect.mRunnable with hSame | ⟨-, hFalse⟩
    · exact hSame.symm ▸ h.calls
    · exact hFalse.symm ▸ h.calls.cleared
  · intro hBefore
    obtain ⟨hOld, hSame⟩ := hEffect.before hBefore
    rw [hSame, hEffect.joinable]
    exact h.before hOld
  · intro hJoined hJoinable
    rw [hEffect.joinable] at hJoinable
    rw [hEffect.spawned]
    rcases hEffect.after hJoined with hOld | hExited | ⟨hOld, hDetached⟩
    · exact h.after hOld hJoinable
    · exact hExited
    · rw [h.before hOld, hJoinable] at hDetached
      cases hDetached

theorem Freed.goto (h : Freed os s) (hFrom : s.spawned.phase = .holding) {p : SpawnedPc}
    (hTo : p.phase = .holding) (hOld : pastDelete s.spawned = false) (hNew : pastDelete p = false)
    (hStart : p ≠ .start) (hEvents : ∀ e ∈ o, isCall e = true)
    (hCalls : CallsAt s.delegate.mRunnable (LocThreadState.calls os ++ o) p) :
    Freed (os ++ o) { s with spawned := p } := by
  have hRefs : LocThreadState.refs { s with spawned := p } = s.refs := by
    simp only [LocThreadState.refs, hFrom, hTo]
  have hNot : ∀ e, isCall e = false → e ∉ o := by
    intro e hNo hMem
    rw [hEvents e hMem] at hNo
    cases hNo
  constructor
  · exact hRefs.symm ▸ h.refs
  · intro side hMem
    rcases List.mem_append.mp hMem with hMem | hMem
    · exact h.dangling side hMem
    · exact hNot _ rfl hMem
  · rw [List.count_append, List.count_eq_zero.mpr (hNot .delegateDeleted rfl)]
    exact h.deleted
  · rw [List.count_append, List.count_eq_zero.mpr (hNot .runnableDeleted rfl)]
    exact h.freed
  · show s.runnable = !pastDelete p
    rw [h.runnable, hOld, hNew]
  · exact fun hEq => absurd hEq hStart
  · have hFilter : LocThreadState.calls (os ++ o) = LocThreadState.calls os ++ o := by
      rw [LocThreadState.calls, List.filter_append, List.filter_eq_self.mpr hEvents]
      rfl
    rw [hFilter]
    exact hCalls
  · exact h.before
  · intro hJoined hJoinable
    have hExited := h.after hJoined hJoinable
    rw [hExited] at hOld
    cases hOld

theorem Started.run (h : Started cs) : Started (cs ++ [.run]) := by
  obtain ⟨n, rfl⟩ := h
  exact ⟨n + 1, by rw [List.replicate_succ', List.cons_append]⟩

theorem Started.postrun (h : Started cs) : ∃ n, cs ++ [.postrun] <+: wholeRun n := by
  obtain ⟨n, rfl⟩ := h
  exact ⟨n, List.prefix_refl _⟩

theorem Freed.spawned (h : Freed os s) {more : Bool} (hStep : s.spawnedStep more = some (s', o)) :
    Freed (os ++ o) s' := by
  have hAccess : s.spawned.phase ≠ .gone → s.delegate.access .spawned = [] :=
    fun hPhase => access_nil h.refs hPhase
  have hCalls := h.calls
  obtain ⟨delegate, runnable, owner, spawned, joinable⟩ := s
  cases spawned with
  | exited => cases hStep
  | start =>
    have hNil : delegate.access .spawned = [] := hAccess fun hGone => by cases hGone
    have hFound : delegate.mRunnable = true := h.start rfl
    simp only [spawnedStep, hNil, hFound, if_true] at hStep
    cases hStep
    exact h.goto rfl rfl rfl rfl (by decide) (by simp) ((List.append_nil _).trans hCalls)
  | testPrerun =>
    have hNil : delegate.access .spawned = [] := hAccess fun hGone => by cases hGone
    simp only [spawnedStep, hNil] at hStep
    cases hStep
    split
    · exact h.goto rfl rfl rfl rfl (by decide) (by simp) ((List.append_nil _).trans hCalls)
    · rename_i hStopped
      exact h.goto rfl rfl rfl rfl (by decide) (by simp)
        (Or.inl ⟨(List.append_nil _).trans hCalls, Bool.eq_false_of_not_eq_true hStopped⟩)
  | prerun =>
    simp only [spawnedStep] at hStep
    cases hStep
    have hFirst : Started (LocThreadState.calls os ++ [.prerun]) :=
      ⟨0, by rw [show LocThreadState.calls os = [] from hCalls]; rfl⟩
    exact h.goto rfl rfl rfl rfl (by decide) (by simp [isCall]) (Or.inr hFirst)
  | testRun =>
    have hNil : delegate.access .spawned = [] := hAccess fun hGone => by cases hGone
    simp only [spawnedStep, hNil] at hStep
    cases hStep
    split
    · rename_i hRunning
      have hStarted : Started (LocThreadState.calls os) := by
        rcases hCalls with ⟨-, hStopped⟩ | hStarted
        · exact absurd (hRunning.symm.trans hStopped) (by decide)
        · exact hStarted
      exact h.goto rfl rfl rfl rfl (by decide) (by simp) ((List.append_nil _).symm ▸ hStarted)
    · exact h.goto rfl rfl rfl rfl (by decide) (by simp) ((List.append_nil _).symm ▸ hCalls)
  | run =>
    simp only [spawnedStep] at hStep
    cases hStep
    have hRun : Started (LocThreadState.calls os ++ [.run]) := Started.run hCalls
    split <;> exact h.goto rfl rfl rfl rfl (by decide) (by simp [isCall]) (Or.inr hRun)
  | testPostrun =>
    have hNil : delegate.access .spawned = [] := hAccess fun hGone => by cases hGone
    simp only [spawnedStep, hNil] at hStep
    cases hStep
    split
    · rename_i hRunning
      have hStarted : Started (LocThreadState.calls os) := by
        rcases hCalls with ⟨-, hStopped⟩ | hStarted
        · exact absurd (hRunning.symm.trans hStopped) (by decide)
        · exact hStarted
      exact h.goto rfl rfl rfl rfl (by decide) (by simp) ((List.append_nil _).symm ▸ hStarted)
    · exact h.goto rfl rfl rfl rfl (by decide) (by simp) ((List.append_nil _).symm ▸ hCalls.ended)
  | postrun =>
    simp only [spawnedStep] at hStep
    cases hStep
    exact h.goto rfl rfl rfl rfl (by decide) (by simp [isCall]) (Started.postrun hCalls)
  | clearRunnable =>
    have hNil : delegate.access .spawned = [] := hAccess fun hGone => by cases hGone
    simp only [spawnedStep, hNil] at hStep
    cases hStep
    rw [List.append_nil]
    constructor
    · exact h.refs
    · exact h.dangling
    · exact h.deleted
    · exact h.freed
    · exact h.runnable
    · exact fun hEq => by cases hEq
    · exact hCalls
    · exact h.before
    · exact fun hJoined hJoinable => by cases h.after hJoined hJoinable
  | deleteRunnable =>
    simp only [spawnedStep] at hStep
    cases hStep
    have hThere : runnable = true := h.runnable
    have hFreed : os.count .runnableDeleted = if runnable then 0 else 1 := h.freed
    constructor
    · exact h.refs
    · simpa using h.dangling
    · simpa using h.deleted
    · rw [List.count_append, hFreed, hThere]
      rfl
    · rfl
    · exact fun hEq => by cases hEq
    · have hEnded : ∃ n, os.filter isCall <+: wholeRun n := hCalls
      show ∃ n, (os ++ [LocThreadEvent.runnableDeleted]).filter isCall <+: wholeRun n
      simpa [isCall] using hEnded
    · exact h.before
    · exact fun hJoined hJoinable => by cases h.after hJoined hJoinable
  | destroy pc =>
    obtain ⟨⟨d', o', next⟩, hDestroy, hEq⟩ := Option.map_eq_some_iff.mp hStep
    cases hEq
    have hHere : pc.phase ≠ .gone := by
      cases pc <;> exact fun hGone => by cases hGone
    have hNil : delegate.access .spawned = [] := hAccess hHere
    have hLive : delegate.live = true := h.refs.live_of (i := LocThreadSide.spawned) hHere
    obtain ⟨hRunnable, hJoinable, hDeleted⟩ := destroy_effect hDestroy
    have hPhase : (next.elim SpawnedPc.exited SpawnedPc.destroy).phase =
        next.elim .gone DestroyPc.phase := by
      cases next <;> rfl
    have hPast : pastDelete (next.elim SpawnedPc.exited SpawnedPc.destroy) = true := by
      cases next <;> rfl
    have hOld : os.count .delegateDeleted = if delegate.live then 0 else 1 := h.deleted
    rw [hNil, List.nil_append]
    constructor
    · rw [refs_spawned, hPhase]
      exact destroy_sound h.refs rfl rfl rfl rfl hDestroy
    · rcases hDeleted with ⟨-, rfl⟩ | ⟨-, -, rfl⟩ <;> simpa using h.dangling
    · rcases hDeleted with ⟨hSame, rfl⟩ | ⟨-, hDead, rfl⟩
      · simpa [hSame] using hOld
      · simp [hOld, hLive, hDead]
    · rcases hDeleted with ⟨-, rfl⟩ | ⟨-, -, rfl⟩ <;> simpa using h.freed
    · show runnable = !pastDelete (next.elim SpawnedPc.exited SpawnedPc.destroy)
      rw [hPast]
      exact h.runnable
    · intro hEq
      cases next <;> cases hEq
    · have hEnded : ∃ n, os.filter isCall <+: wholeRun n := hCalls
      have hStill : ∃ n, (os ++ o').filter isCall <+: wholeRun n := by
        rcases hDeleted with ⟨-, rfl⟩ | ⟨-, -, rfl⟩ <;> simpa [isCall] using hEnded
      cases next <;> exact hStill
    · intro hBefore
      exact hJoinable.trans (h.before hBefore)
    · exact fun hJoined hJoinable => by cases h.after hJoined hJoinable

theorem Freed.begins (h : Freed os s) {p : OwnerPc} (hFrom : s.owner = .idle)
    (hTo : p.phase = .holding)
    (hJoined : joined p = false) : Freed (os ++ []) { s with owner := p } := by
  have hRefs : LocThreadState.refs { s with owner := p } = s.refs := by
    simp only [LocThreadState.refs, hFrom, hTo]
    rfl
  rw [List.append_nil]
  exact { h with
    refs := hRefs.symm ▸ h.refs
    before := fun _ => h.before (by rw [hFrom]; rfl)
    after := fun hEq => by rw [hJoined] at hEq; cases hEq }

theorem Freed.next (h : Freed os s) (hMeets : s.Meets i) (hNext : s.Next i o s') :
    Freed (os ++ o) s' := by
  cases i with
  | owner => exact h.owner hMeets hNext
  | spawned more => exact h.spawned hNext
  | stop =>
    rw [Next, step] at hNext
    split at hNext
    · rename_i hIdle
      cases hNext
      exact h.begins hIdle rfl rfl
    · cases hNext
      rwa [List.append_nil]
    · cases hNext
  | release =>
    rw [Next, step] at hNext
    split at hNext
    · rename_i hIdle
      cases hNext
      exact h.begins hIdle rfl rfl
    · cases hNext
      rwa [List.append_nil]
    · cases hNext

/-- The runs whose steps all meet the condition. -/
abbrev MeetingRun (joinable : Bool) (is : List LocThreadInput) (os : List LocThreadEvent)
    (s : LocThreadState) : Prop :=
  Lib.Steps Next (fun _ _ s i _ => s.Meets i) (init joinable) is os s

theorem freed_of_run {joinable : Bool} {is : List LocThreadInput}
    (run : MeetingRun joinable is os s) :
    Freed os s := by
  apply run.history (I := fun _ os s => Freed os s) (freed_init joinable)
  intro is os s i o s' hMeets h hNext
  exact h.next hMeets hNext

/-- A step of `destroy` can be made unless the other side is in the mutex. -/
theorem destroy_some (d : LocThreadDelegate) (side : LocThreadSide) (pc : DestroyPc)
    (h : pc = .lock → d.mMutex = none) : ∃ r, d.destroy side pc = some r := by
  cases pc with
  | lock => exact ⟨_, if_pos (h rfl)⟩
  | _ => exact ⟨_, rfl⟩

theorem spawnedStep_some (hExited : s.spawned ≠ .exited)
    (h : s.spawned = .destroy .lock → s.delegate.mMutex = none) :
    ∃ r, s.spawnedStep true = some r := by
  obtain ⟨delegate, runnable, owner, spawned, joinable⟩ := s
  cases spawned with
  | exited => exact absurd rfl hExited
  | destroy pc =>
    obtain ⟨r, hDestroy⟩ := destroy_some delegate .spawned pc fun hLock => h (congrArg _ hLock)
    apply Option.isSome_iff_exists.mp
    simp [spawnedStep, hDestroy]
  | _ => exact ⟨_, rfl⟩

theorem ownerStep_some (hIdle : s.owner ≠ .idle) (hDone : ∀ started, s.owner ≠ .done started)
    (hJoin : s.owner = .join → s.spawned = .exited)
    (h : ∀ started, s.owner = .destroy started .lock → s.delegate.mMutex = none) :
    ∃ r, s.ownerStep = some r := by
  obtain ⟨delegate, runnable, owner, spawned, joinable⟩ := s
  cases owner with
  | idle => exact absurd rfl hIdle
  | done started => exact absurd rfl (hDone started)
  | join => exact ⟨_, if_pos (hJoin rfl)⟩
  | destroy started pc =>
    obtain ⟨r, hDestroy⟩ := destroy_some delegate .owner pc fun hLock => h started (congrArg _ hLock)
    apply Option.isSome_iff_exists.mp
    simp [ownerStep, hDestroy]
  | _ => exact ⟨_, rfl⟩

theorem mutex_free (h : s.refs.Sound) (hOwner : s.owner.phase.inMutex = false)
    (hSpawned : s.spawned.phase.inMutex = false) : s.delegate.mMutex = none := by
  rw [Option.eq_none_iff_forall_ne_some]
  rintro ⟨⟩ hMutex
  · have hIn := (h.mutex .owner).mp hMutex
    exact absurd (hIn.symm.trans hOwner) (by decide)
  · have hIn := (h.mutex .spawned).mp hMutex
    exact absurd (hIn.symm.trans hSpawned) (by decide)

/-- The thread goes on, or the owner while it is in the mutex or after the thread has exited. -/
theorem progress (h : s.refs.Sound)
    (hBusy : s.spawned ≠ .exited ∨ s.owner ≠ .idle ∧ ∀ started, s.owner ≠ .done started) :
    ∃ i o s', (i = .owner ∨ i = .spawned true) ∧ s.Next i o s' := by
  have hOwnerSome : (∃ r, s.ownerStep = some r) →
      ∃ i o s', (i = .owner ∨ i = .spawned true) ∧ s.Next i o s' :=
    fun ⟨⟨s', o⟩, hStep⟩ => ⟨.owner, o, s', Or.inl rfl, hStep⟩
  cases hOwner : s.owner.phase.inMutex with
  | true =>
    apply hOwnerSome
    apply ownerStep_some
    · intro hEq
      rw [hEq] at hOwner
      cases hOwner
    · intro started hEq
      rw [hEq] at hOwner
      cases hOwner
    · intro hEq
      rw [hEq] at hOwner
      cases hOwner
    · intro started hEq
      rw [hEq] at hOwner
      cases hOwner
  | false =>
    by_cases hExited : s.spawned = .exited
    · have hFree := mutex_free h hOwner (by rw [hExited]; rfl)
      obtain ⟨hIdle, hDone⟩ := hBusy.resolve_left fun hNot => hNot hExited
      exact hOwnerSome (ownerStep_some hIdle hDone (fun _ => hExited) fun _ _ => hFree)
    · have hFree : s.spawned = .destroy .lock → s.delegate.mMutex = none :=
        fun hLock => mutex_free h hOwner (by rw [hLock]; rfl)
      obtain ⟨⟨s', o⟩, hStep⟩ := spawnedStep_some hExited hFree
      exact ⟨.spawned true, o, s', Or.inr rfl, hStep⟩

theorem joinable_ownerStep (h : s.ownerStep = some (s', o)) : s'.joinable = s.joinable := by
  rw [ownerStep] at h
  split at h
  any_goals (cases h; rfl)
  · cases h
  · split at h <;> cases h
    rfl
  · obtain ⟨r, -, hEq⟩ := Option.map_eq_some_iff.mp h
    cases hEq
    rfl
  · cases h

theorem joinable_spawnedStep {more : Bool} (h : s.spawnedStep more = some (s', o)) :
    s'.joinable = s.joinable := by
  rw [spawnedStep] at h
  split at h
  any_goals (cases h; rfl)
  · obtain ⟨r, -, hEq⟩ := Option.map_eq_some_iff.mp h
    cases hEq
    rfl
  · cases h

theorem joinable_next (h : s.Next i o s') : s'.joinable = s.joinable := by
  cases i with
  | owner => exact joinable_ownerStep h
  | spawned more => exact joinable_spawnedStep h
  | stop =>
    rw [Next, step] at h
    split at h <;> cases h <;> rfl
  | release =>
    rw [Next, step] at h
    split at h <;> cases h <;> rfl

theorem calls_of_done (h : Freed os s) (hDone : s.owner = .done true)
    (hJoinable : s.joinable = true)
    (hNext : s.Next i o s') : calls o = [] := by
  have hExited := h.after (by rw [hDone]; rfl) hJoinable
  cases i with
  | owner => simp [Next, step, ownerStep, hDone] at hNext
  | spawned more => simp [Next, step, spawnedStep, hExited] at hNext
  | stop =>
    simp only [Next, step, hDone] at hNext
    cases hNext
    rfl
  | release =>
    simp only [Next, step, hDone] at hNext
    cases hNext
    rfl

/-- No access to the deleted delegate; the delegate and the runnable are deleted once, the calls are
in order, there is none after the stop of a joinable thread, and neither side is stuck. -/
theorem thread_of_run {joinable : Bool} {is : List LocThreadInput}
    (run : MeetingRun joinable is os s) :
    (∀ side, .dangling side ∉ os) ∧
    (os.count .delegateDeleted ≤ 1 ∧ os.count .runnableDeleted ≤ 1) ∧
    (s.spawned = .exited → os.count .runnableDeleted = 1 ∧
      ∀ started, s.owner = .done started → os.count .delegateDeleted = 1) ∧
    (∃ n, calls os <+: wholeRun n) ∧
    (joinable = true → s.owner = .done true → ∀ i o s', s.Next i o s' → calls o = []) ∧
    (s.spawned ≠ .exited ∨ s.owner ≠ .idle ∧ (∀ started, s.owner ≠ .done started) →
      ∃ i o s', (i = .owner ∨ i = .spawned true) ∧ s.Next i o s') := by
  have h := freed_of_run run
  have hParam : s.joinable = joinable := by
    apply run.history (I := fun _ _ s => s.joinable = joinable) rfl
    intro is os s i o s' _ hSame hNext
    exact (joinable_next hNext).trans hSame
  refine ⟨h.dangling, ⟨?_, ?_⟩, ?_, h.calls.ended, ?_, progress h.refs⟩
  · rw [h.deleted]
    split <;> decide
  · rw [h.freed]
    split <;> decide
  · intro hExited
    have hGone : s.runnable = false := by
      rw [h.runnable, hExited]
      rfl
    constructor
    · rw [h.freed, hGone]
      rfl
    · intro started hDone
      have hDead : s.delegate.live = false := by
        apply h.refs.deleted
        rintro ⟨⟩
        · simp only [refs, hDone]
          rfl
        · simp only [refs, hExited]
          rfl
      rw [h.deleted, hDead]
      rfl
  · intro hJoinable hDone i o s' hNext
    exact calls_of_done h hDone (hParam.trans hJoinable) hNext

instance (s : LocThreadState) (i : LocThreadInput) : Decidable (s.Meets i) :=
  inferInstanceAs (Decidable (_ → _ → _))

/-- The thread runs once, and the owner then stops it. -/
def stopAfterRun : List LocThreadInput :=
  [.owner, .owner, .spawned true, .spawned true, .spawned true, .spawned true, .spawned true, .stop] ++
    List.replicate 4 .owner ++ List.replicate 9 (.spawned true) ++ List.replicate 7 .owner

theorem stopAfterRun_run : ∃ os s, MeetingRun true stopAfterRun os s ∧
    s.spawned = .exited ∧ s.owner = .done true ∧ calls os = [.prerun, .run] := by
  have hExec : ∃ r, Lib.exec (fun _ _ s i => if s.Meets i then s.step i else none) [] [] (init true)
      stopAfterRun = some r ∧ r.1.spawned = .exited ∧ r.1.owner = .done true ∧
        calls r.2 = [.prerun, .run] :=
    ⟨_, rfl, rfl, rfl, rfl⟩
  obtain ⟨⟨s, os⟩, hSome, hEnd⟩ := hExec
  refine ⟨os, s, Lib.Steps.of_exec Next _ ?_ hSome, hEnd⟩
  intro i _ is' os' s s' o hStep
  split at hStep
  · rename_i hMeets
    exact ⟨hStep, hMeets⟩
  · cases hStep

theorem stopAfterRun_freed : ∃ os s, MeetingRun true stopAfterRun os s ∧
    os.count .runnableDeleted = 1 ∧ os.count .delegateDeleted = 1 := by
  obtain ⟨os, s, run, hExited, hDone, -⟩ := stopAfterRun_run
  obtain ⟨-, -, hOnce, -⟩ := thread_of_run run
  exact ⟨os, s, run, (hOnce hExited).1, (hOnce hExited).2 true hDone⟩

/-- The owner stops the thread before it has read `mRunnable`. -/
def stopAtOnce : List LocThreadInput :=
  [.owner, .owner, .stop] ++ List.replicate 4 .owner ++ List.replicate 6 (.spawned true) ++
    List.replicate 7 .owner

theorem runnable_leaked : ∃ os s, Lib.Steps Next Lib.anyStep (init true) stopAtOnce os s ∧
    s.spawned = .exited ∧ s.owner = .done true ∧ os.count .delegateDeleted = 1 ∧
    s.runnable = true ∧ os.count .runnableDeleted = 0 := by
  have hExec : ∃ r, Lib.exec (fun _ _ s i => s.step i) [] [] (init true) stopAtOnce = some r ∧
      r.1.spawned = .exited ∧ r.1.owner = .done true ∧ r.2.count .delegateDeleted = 1 ∧
        r.1.runnable = true ∧ r.2.count .runnableDeleted = 0 :=
    ⟨_, rfl, rfl, rfl, rfl, rfl, rfl⟩
  obtain ⟨⟨s, os⟩, hSome, hEnd⟩ := hExec
  refine ⟨os, s, Lib.Steps.of_exec Next Lib.anyStep ?_ hSome, hEnd⟩
  exact fun _ _ _ _ _ _ _ hStep => ⟨hStep, trivial⟩

end LocThreadState

end KiwiDevice.Gps

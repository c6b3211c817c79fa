import KiwiDevice.Hal.FrameOwners
import Mathlib.Data.List.Range

/-!
# The account of the frames

What the events of a run say about the superbufs, and which superbufs the queues and notifications
hold. Giving one back frees it, and releases it unless an offline reprocess has it.
-/

namespace KiwiDevice.Hal.Frames

namespace PostProcessor

def accepted (os : List Event) : List SuperBuf :=
  os.filterMap fun e =>
    match e with
    | .accepted f => some f
    | _ => none

def offline (os : List Event) : List SuperBuf :=
  os.filterMap fun e =>
    match e with
    | .offline f => some f
    | _ => none

def released (os : List Event) : List SuperBuf :=
  os.filterMap fun e =>
    match e with
    | .released f => some f
    | _ => none

def notFound (os : List Event) : List SuperBuf :=
  os.filterMap fun e =>
    match e with
    | .notFound f => some f
    | _ => none

def kept (os : List Event) : List SuperBuf :=
  os.filterMap fun e =>
    match e with
    | .kept f => some f
    | _ => none

def freed (os : List Event) : List SuperBuf :=
  os.filterMap fun e =>
    match e with
    | .freed f => some f
    | _ => none

/-- The superbufs of a job. -/
def jobFrames (job : JpegData) : List SuperBuf := job.srcReprocFrame.toList ++ [job.srcFrame]

/-- The superbufs in the queues and with the notifications, one for each entry. -/
def held (s : PostProcessor) : List SuperBuf :=
  s.inputPPQ ++ s.ongoingPPQ.map PPData.srcFrame ++ s.inputJpegQ.flatMap jobFrames ++
    s.ongoingJpegQ.flatMap jobFrames ++ s.inputRawQ ++ s.notified

/-- The superbufs that will not be released. -/
def jobKept (job : JpegData) : List SuperBuf :=
  if job.reprocFrameRelease then job.srcReprocFrame.toList else []

def ppKept (job : PPData) : List SuperBuf :=
  if job.reprocFrameRelease then [job.srcFrame] else []

def keeps (s : PostProcessor) : List SuperBuf :=
  s.ongoingPPQ.flatMap ppKept ++ s.inputJpegQ.flatMap jobKept ++ s.ongoingJpegQ.flatMap jobKept

variable {os o o' : List Event} {s s' : PostProcessor} {i : Input} {f : SuperBuf}
  {fs fs' hs hs' ks ks' : List SuperBuf} {n : Nat}

@[simp] theorem accepted_append : accepted (os ++ o) = accepted os ++ accepted o :=
  List.filterMap_append

@[simp] theorem offline_append : offline (os ++ o) = offline os ++ offline o :=
  List.filterMap_append

@[simp] theorem released_append : released (os ++ o) = released os ++ released o :=
  List.filterMap_append

@[simp] theorem notFound_append : notFound (os ++ o) = notFound os ++ notFound o :=
  List.filterMap_append

@[simp] theorem kept_append : kept (os ++ o) = kept os ++ kept o := List.filterMap_append

@[simp] theorem freed_append : freed (os ++ o) = freed os ++ freed o := List.filterMap_append

/-! ### Giving superbufs back -/

/-- The events free the superbufs `fs`, of which those in `ks` are kept and the others released. -/
structure Frees (o : List Event) (fs ks : List SuperBuf) : Prop where
  accepted : accepted o = []
  offline : offline o = []
  notFound : notFound o = []
  freed : freed o = fs
  returned : (released o ++ kept o).Perm fs
  kept : kept o = ks

theorem Frees.nil : Frees [] [] [] := ⟨rfl, rfl, rfl, rfl, .refl _, rfl⟩

theorem Frees.append (h : Frees o fs ks) (h' : Frees o' fs' ks') :
    Frees (o ++ o') (fs ++ fs') (ks ++ ks') where
  accepted := by rw [accepted_append, h.accepted, h'.accepted, List.append_nil]
  offline := by rw [offline_append, h.offline, h'.offline, List.append_nil]
  notFound := by rw [notFound_append, h.notFound, h'.notFound, List.append_nil]
  freed := by rw [freed_append, h.freed, h'.freed]
  returned := by
    rw [released_append, kept_append]
    refine .trans ?_ (h.returned.append h'.returned)
    rw [List.append_assoc, List.append_assoc]
    exact (List.perm_append_comm_assoc _ _ _).append_left _
  kept := by rw [kept_append, h.kept, h'.kept]

theorem Frees.flatMap {α : Type} {l : List α} {give : α → List Event}
    {frames keeps : α → List SuperBuf} (h : ∀ x ∈ l, Frees (give x) (frames x) (keeps x)) :
    Frees (l.flatMap give) (l.flatMap frames) (l.flatMap keeps) := by
  induction l with
  | nil => exact .nil
  | cons x l ih =>
    rw [List.flatMap_cons, List.flatMap_cons, List.flatMap_cons]
    exact (h x List.mem_cons_self).append (ih fun y hIn => h y (List.mem_cons_of_mem x hIn))

theorem frees_giveBack (h : s.hasChannel f.chId = true) : Frees (s.giveBack f) [f] [] := by
  rw [giveBack, releaseSuperBuf, if_pos h]
  exact ⟨rfl, rfl, rfl, rfl, .refl _, rfl⟩

/-- The channels of the superbufs of a job that are to be released are there. -/
def JobFound (s : PostProcessor) (job : JpegData) : Prop :=
  s.hasChannel job.srcFrame.chId = true ∧
    (job.reprocFrameRelease = false → ∀ f ∈ job.srcReprocFrame, s.hasChannel f.chId = true)

theorem frees_giveBackUnless {reprocFrameRelease : Bool}
    (h : reprocFrameRelease = false → s.hasChannel f.chId = true) :
    Frees (s.giveBackUnless reprocFrameRelease f) [f] (if reprocFrameRelease then [f] else []) := by
  cases reprocFrameRelease with
  | true => exact ⟨rfl, rfl, rfl, rfl, .refl _, rfl⟩
  | false => exact frees_giveBack (h rfl)

theorem frees_releaseJpegJobData {job : JpegData} (h : s.JobFound job) :
    Frees (s.releaseJpegJobData job) (jobFrames job) (jobKept job) := by
  obtain ⟨hSrc, hReproc⟩ := h
  have hKept : jobKept job = job.srcReprocFrame.toList.flatMap
      (fun f => if job.reprocFrameRelease then [f] else []) ++ [] := by
    rw [jobKept, List.append_nil]
    cases job.srcReprocFrame with
    | none => cases job.reprocFrameRelease <;> rfl
    | some f => cases job.reprocFrameRelease <;> rfl
  have hFrames : jobFrames job = job.srcReprocFrame.toList.flatMap (fun f => [f]) ++
      [job.srcFrame] := by
    rw [jobFrames, List.flatMap_singleton']
  rw [hKept, hFrames]
  refine .append (.flatMap fun f hIn => frees_giveBackUnless fun hRelease => ?_)
    (frees_giveBack hSrc)
  exact hReproc hRelease f (Option.mem_toList.mp hIn)

theorem frees_releaseOngoingPPData {job : PPData}
    (h : job.reprocFrameRelease = false → s.hasChannel job.srcFrame.chId = true) :
    Frees (s.releaseOngoingPPData job) [job.srcFrame] (ppKept job) := frees_giveBackUnless h

/-! ### The account of the superbufs -/

/-- `hs` are held, and `ks` of them will be kept; `n` superbufs were accepted. -/
structure Account (os : List Event) (hs ks : List SuperBuf) (n : Nat) : Prop where
  once : (freed os ++ hs).Perm (accepted os)
  numbered : (accepted os).map SuperBuf.frame = List.range n
  returned : (released os ++ kept os).Perm (freed os)
  found : notFound os = []
  offline : ∀ f ∈ kept os ++ ks, f ∈ offline os

theorem Account.nil : Account [] [] [] 0 :=
  ⟨.refl _, rfl, .refl _, rfl, fun _ h => absurd h List.not_mem_nil⟩

theorem Account.move (h : Account os hs ks n) (hHeld : hs'.Perm hs) (hKept : ks' ⊆ ks) :
    Account os hs' ks' n where
  once := (hHeld.append_left _).trans h.once
  numbered := h.numbered
  returned := h.returned
  found := h.found
  offline f hIn := h.offline f ((List.mem_append.mp hIn).elim (List.mem_append_left _)
    fun hAmong => List.mem_append_right _ (hKept hAmong))

theorem Account.accept (h : Account os hs ks n) (chId : Nat) :
    Account (os ++ [.accepted ⟨n, chId⟩]) (⟨n, chId⟩ :: hs) ks (n + 1) := by
  have hAccepted : accepted (os ++ [.accepted ⟨n, chId⟩]) = accepted os ++ [⟨n, chId⟩] :=
    accepted_append
  have hReleased : released (os ++ [.accepted ⟨n, chId⟩]) = released os :=
    released_append.trans (List.append_nil _)
  have hKept : kept (os ++ [.accepted ⟨n, chId⟩]) = kept os :=
    kept_append.trans (List.append_nil _)
  have hFreed : freed (os ++ [.accepted ⟨n, chId⟩]) = freed os :=
    freed_append.trans (List.append_nil _)
  constructor
  · rw [hAccepted, hFreed]
    exact List.perm_middle.trans ((h.once.cons _).trans (List.perm_append_singleton _ _).symm)
  · rw [hAccepted, List.map_append, h.numbered, List.range_succ]
    rfl
  · rw [hReleased, hKept, hFreed]
    exact h.returned
  · exact notFound_append.trans ((List.append_nil _).trans h.found)
  · rw [hKept, offline_append]
    exact fun f hIn => List.mem_append_left _ (h.offline f hIn)

theorem Account.free (h : Account os hs ks n) (hFrees : Frees o fs ks')
    (hHeld : (fs ++ hs').Perm hs) (hKept : ks' ⊆ ks) (hLeft : fs' ⊆ ks) :
    Account (os ++ o) hs' fs' n := by
  obtain ⟨hAccepted, hOffline, hNotFound, hFreed, hReturned, hTaken⟩ := hFrees
  constructor
  · rw [freed_append, accepted_append, hAccepted, hFreed, List.append_nil, List.append_assoc]
    exact (hHeld.append_left _).trans h.once
  · rw [accepted_append, hAccepted, List.append_nil]
    exact h.numbered
  · rw [released_append, kept_append, freed_append, hFreed, List.append_assoc]
    refine .trans ((List.perm_append_comm_assoc _ _ _).append_left _) ?_
    rw [← List.append_assoc]
    exact h.returned.append hReturned
  · rw [notFound_append, h.found, hNotFound, List.append_nil]
  · rw [kept_append, offline_append, hTaken, hOffline, List.append_nil]
    intro f hIn
    rcases List.mem_append.mp hIn with hBefore | hStill
    · rcases List.mem_append.mp hBefore with hOld | hNew
      · exact h.offline f (List.mem_append_left _ hOld)
      · exact h.offline f (List.mem_append_right _ (hKept hNew))
    · exact h.offline f (List.mem_append_right _ (hLeft hStill))

theorem Account.reprocessOffline (h : Account os hs ks n) (f : SuperBuf) :
    Account (os ++ [.offline f]) hs (f :: ks) n := by
  have hAccepted : accepted (os ++ [.offline f]) = accepted os :=
    accepted_append.trans (List.append_nil _)
  have hReleased : released (os ++ [.offline f]) = released os :=
    released_append.trans (List.append_nil _)
  have hKept : kept (os ++ [.offline f]) = kept os := kept_append.trans (List.append_nil _)
  have hFreed : freed (os ++ [.offline f]) = freed os := freed_append.trans (List.append_nil _)
  constructor
  · rw [hAccepted, hFreed]
    exact h.once
  · rw [hAccepted]
    exact h.numbered
  · rw [hReleased, hKept, hFreed]
    exact h.returned
  · exact notFound_append.trans ((List.append_nil _).trans h.found)
  · intro g hIn
    rw [hKept] at hIn
    rw [offline_append, List.mem_append]
    rcases List.mem_append.mp hIn with hOld | hAmong
    · exact .inl (h.offline g (List.mem_append_left _ hOld))
    · rcases List.mem_cons.mp hAmong with rfl | hStill
      · exact .inr List.mem_cons_self
      · exact .inl (h.offline g (List.mem_append_right _ hStill))

end PostProcessor

end KiwiDevice.Hal.Frames

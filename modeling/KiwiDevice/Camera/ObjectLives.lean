import KiwiDevice.Camera.CameraObjects

/-!
# The users of a camera object

An object in the table has the clients that hold a reference to it, and no others know it; an object
that is not in the table, and not freed, is in the hands of one client.
-/

namespace KiwiDevice.Camera

namespace CamClient

/-- The index of the client's camera. -/
def idx : CamClient → Nat
  | idle => 0
  | opening idx _ | opened idx _ | op idx _ _ | closing idx _ _ => idx

/-- The object to which the client holds a reference. -/
def holds : CamClient → Option Nat
  | opening _ (.counted o) | opening _ (.rereading o) | opening _ (.numbering o)
  | opening _ (.devOpening o) | opening _ (.published o) => some o
  | opened _ o | op _ o _ => some o
  | closing _ o (.locking _) | closing _ o (.finding _) => some o
  | idle | opening .. | closing .. => none

/-- The object that only this client knows. -/
def sole : CamClient → Option Nat
  | opening _ (.numbering o) | opening _ (.devOpening o) => some o
  | closing _ _ (.camLocking o) | closing _ _ (.handing o) | closing _ _ (.devClosing o)
  | closing _ _ (.destroying o) => some o
  | idle | opening .. | opened .. | op .. | closing .. => none

def holdsIntf : CamClient → Bool
  | opening _ (.rereading _) => false
  | opening .. => true
  | op _ _ (.finding _) | op _ _ (.camLocking _) | op _ _ (.handing _) | op _ _ .leaving => true
  | closing _ _ (.finding _) | closing _ _ .leaving | closing _ _ (.camLocking _)
  | closing _ _ (.handing _) => true
  | idle | opened .. | op .. | closing .. => false

end CamClient

namespace CamHeap

variable {m m' : CamHeap} {o idx : Nat} {x : CamClient}

/-- The object is not freed; `mm_camera_open` succeeded and `mm_camera_close` was called
so often. -/
structure Living (m : CamHeap) (o opens closed : Nat) : Prop where
  notFreed : (m.objs o).freed = false
  lt : o < m.nextObj
  opens : m.opens.count o = opens
  closed : m.closed.count o = closed
  freed : m.freed.count o = 0

structure Published (m : CamHeap) (idx o : Nat) : Prop where
  living : m.Living o 1 0
  lockInit : (m.objs o).lockInit = true
  index : Driver.indexByHandler (m.objs o).myHdl = idx
  sensor : idx < m.maxSensors

/-- The object was freed once, and closed once if it had been opened. -/
structure Ended (m : CamHeap) (o : Nat) : Prop where
  isFreed : (m.objs o).freed = true
  freed : m.freed.count o = 1
  closed : m.closed.count o = m.opens.count o
  opens : m.opens.count o ≤ 1

/-- What a client relies on. -/
def Fits (m : CamHeap) : CamClient → Prop
  | .opening idx .reading => idx < 256
  | .opening idx (.counted o) | .opening idx (.rereading o) | .opening idx (.published o)
  | .opened idx o => m.table idx = some o
  | .opening idx (.numbering o) => m.table idx = none ∧ idx < 256 ∧ m.Living o 0 0
  | .opening idx (.devOpening o) =>
    m.table idx = none ∧ m.Living o 0 0 ∧ (m.objs o).lockInit = true ∧
      Driver.indexByHandler (m.objs o).myHdl = idx
  | .op idx o (.locking hdl) | .op idx o (.finding hdl)
  | .closing idx o (.locking hdl) | .closing idx o (.finding hdl) =>
    m.table idx = some o ∧ hdl = (m.objs o).myHdl
  | .op idx o (.camLocking o') | .op idx o (.handing o') | .op idx o (.running o')
  | .op idx o (.tail o') => m.table idx = some o ∧ o' = o
  | .op idx o .leaving => m.table idx = some o
  | .closing _ _ (.camLocking o') | .closing _ _ (.handing o') | .closing _ _ (.devClosing o') =>
    m.Living o' 1 0 ∧ (m.objs o').lockInit = true
  | .closing _ _ (.destroying o') => m.Living o' 1 1 ∧ (m.objs o').lockInit = true
  | .idle | .opening _ .refused | .closing _ _ .leaving => True

/-- Nothing about the object has changed but the count of its references. -/
structure Same (m m' : CamHeap) (o : Nat) : Prop where
  isFreed : (m'.objs o).freed = (m.objs o).freed
  lockInit : (m'.objs o).lockInit = (m.objs o).lockInit
  myHdl : (m'.objs o).myHdl = (m.objs o).myHdl
  opens : m'.opens.count o = m.opens.count o
  closed : m'.closed.count o = m.closed.count o
  freed : m'.freed.count o = m.freed.count o

theorem Same.of_objs (h : m'.objs o = m.objs o) (hOpens : m'.opens.count o = m.opens.count o)
    (hClosed : m'.closed.count o = m.closed.count o)
    (hFreed : m'.freed.count o = m.freed.count o) : m.Same m' o :=
  ⟨congrArg CameraObj.freed h, congrArg CameraObj.lockInit h, congrArg CameraObj.myHdl h, hOpens,
    hClosed, hFreed⟩

theorem Living.frame {opens closed : Nat} (h : m.Living o opens closed) (hSame : m.Same m' o)
    (hNext : m.nextObj ≤ m'.nextObj) : m'.Living o opens closed where
  notFreed := hSame.isFreed.trans h.notFreed
  lt := Nat.lt_of_lt_of_le h.lt hNext
  opens := hSame.opens.trans h.opens
  closed := hSame.closed.trans h.closed
  freed := hSame.freed.trans h.freed

theorem Published.frame (h : m.Published idx o) (hSame : m.Same m' o)
    (hNext : m.nextObj ≤ m'.nextObj) (hMax : m'.maxSensors = m.maxSensors) :
    m'.Published idx o where
  living := h.living.frame hSame hNext
  lockInit := hSame.lockInit.trans h.lockInit
  index := (congrArg Driver.indexByHandler hSame.myHdl).trans h.index
  sensor := hMax ▸ h.sensor

theorem Ended.frame (h : m.Ended o) (hSame : m.Same m' o) : m'.Ended o where
  isFreed := hSame.isFreed.trans h.isFreed
  freed := hSame.freed.trans h.freed
  closed := (hSame.closed.trans h.closed).trans hSame.opens.symm
  opens := hSame.opens.symm ▸ h.opens

theorem Fits.listed (h : m.Fits x) (hHolds : x.holds = some o) (hSole : x.sole = none) :
    m.table x.idx = some o := by
  cases x with
  | idle => cases hHolds
  | opening idx stage =>
    cases stage with
    | reading | refused => cases hHolds
    | counted | rereading | published =>
      cases hHolds
      exact h
    | numbering | devOpening => cases hSole
  | opened idx o' =>
    cases hHolds
    exact h
  | op idx o' stage =>
    cases hHolds
    cases stage with
    | leaving => exact h
    | locking | finding | camLocking | handing | running | tail => exact h.1
  | closing idx o' stage =>
    cases stage with
    | locking | finding =>
      cases hHolds
      exact h.1
    | leaving | camLocking | handing | devClosing | destroying => cases hHolds

theorem Fits.frame (h : m.Fits x) (hNext : m.nextObj ≤ m'.nextObj)
    (hTable : ∀ o, x.holds = some o → m'.table x.idx = m.table x.idx)
    (hHdl : ∀ o, x.holds = some o → (m'.objs o).myHdl = (m.objs o).myHdl)
    (hSole : ∀ o, x.sole = some o → m.Same m' o) : m'.Fits x := by
  cases x with
  | idle => trivial
  | opening idx stage =>
    cases stage with
    | reading => exact h
    | refused => trivial
    | counted o | rereading o | published o => exact (hTable o rfl).trans h
    | numbering o =>
      exact ⟨(hTable o rfl).trans h.1, h.2.1, h.2.2.frame (hSole o rfl) hNext⟩
    | devOpening o =>
      obtain ⟨hNone, hLiving, hInit, hIndex⟩ := h
      have hSame := hSole o rfl
      exact ⟨(hTable o rfl).trans hNone, hLiving.frame hSame hNext, hSame.lockInit.trans hInit,
        (congrArg Driver.indexByHandler hSame.myHdl).trans hIndex⟩
  | opened idx o => exact (hTable o rfl).trans h
  | op idx o stage =>
    cases stage with
    | leaving => exact (hTable o rfl).trans h
    | locking | finding => exact ⟨(hTable o rfl).trans h.1, h.2.trans (hHdl o rfl).symm⟩
    | camLocking | handing | running | tail => exact ⟨(hTable o rfl).trans h.1, h.2⟩
  | closing idx o stage =>
    cases stage with
    | leaving => trivial
    | locking | finding => exact ⟨(hTable o rfl).trans h.1, h.2.trans (hHdl o rfl).symm⟩
    | camLocking o' | handing o' | devClosing o' | destroying o' =>
      have hSame := hSole o' rfl
      exact ⟨h.1.frame hSame hNext, hSame.lockInit.trans h.2⟩

end CamHeap

namespace CamWorld

variable {w w' : CamWorld} {c c' o idx : Nat} {x : CamClient} {users : Nat → List Nat}

structure Sound (w : CamWorld) (users : Nat → List Nat) : Prop where
  intf : ∀ c, (w.clients c).holdsIntf = true → w.intfLock = some c
  fits : ∀ c, w.Fits (w.clients c)
  nodup : ∀ o, (users o).Nodup
  members : ∀ o c, c ∈ users o ↔ (w.clients c).holds = some o
  count : ∀ o, (w.objs o).freed = false → (w.objs o).refCount = (users o).length
  table : ∀ idx o, w.table idx = some o → w.Published idx o ∧ users o ≠ []
  sole : ∀ c c' o, (w.clients c).sole = some o → (w.clients c').sole = some o → c = c'
  unlisted : ∀ c o, (w.clients c).sole = some o → ∀ idx, w.table idx ≠ some o
  ends : ∀ o, o < w.nextObj → (∃ idx, w.table idx = some o) ∨
    (∃ c, (w.clients c).sole = some o) ∨ w.Ended o
  beyond : ∀ o, w.nextObj ≤ o → w.objs o = {} ∧ w.opens.count o = 0 ∧ w.closed.count o = 0 ∧
    w.freed.count o = 0
  faults : w.faults = 0

theorem Sound.move (h : w.Sound users) (hClients : w'.clients = Function.update w.clients c x)
    (hHeap : w'.toCamHeap = w.toCamHeap)
    (hIntf : ∀ c', (w'.clients c').holdsIntf = true → w'.intfLock = some c')
    (hHolds : x.holds = (w.clients c).holds) (hSole : x.sole = (w.clients c).sole)
    (hFits : w.Fits x) (hFaults : w'.faults = w.faults) : w'.Sound users := by
  have hHolds' : ∀ c', (w'.clients c').holds = (w.clients c').holds := by
    intro c'
    rw [hClients]
    rcases eq_or_ne c' c with rfl | hNe
    · rw [Function.update_self, hHolds]
    · rw [Function.update_of_ne hNe]
  have hSole' : ∀ c', (w'.clients c').sole = (w.clients c').sole := by
    intro c'
    rw [hClients]
    rcases eq_or_ne c' c with rfl | hNe
    · rw [Function.update_self, hSole]
    · rw [Function.update_of_ne hNe]
  refine ⟨hIntf, ?_, h.nodup, ?_, ?_, ?_, ?_, ?_, ?_, ?_, hFaults.trans h.faults⟩
  · intro c'
    rw [hHeap, hClients]
    rcases eq_or_ne c' c with rfl | hNe
    · rw [Function.update_self]
      exact hFits
    · rw [Function.update_of_ne hNe]
      exact h.fits c'
  · intro o c'
    rw [hHolds']
    exact h.members o c'
  · rw [hHeap]
    exact h.count
  · rw [hHeap]
    exact h.table
  · intro c₁ c₂ o
    rw [hSole', hSole']
    exact h.sole c₁ c₂ o
  · intro c' o
    rw [hSole', hHeap]
    exact h.unlisted c' o
  · intro o
    simp only [hSole']
    rw [hHeap]
    exact h.ends o
  · rw [hHeap]
    exact h.beyond

end CamWorld

end KiwiDevice.Camera

import KiwiDevice.Camera.FrameSizes

/-!
# Buffer definitions

`QCameraMemory::getBufDef`, for a layout of `mm_stream_calc_offset`.
-/

namespace KiwiDevice.Hal

open Camera

/-- `QCameraMemory`, with the descriptor and the size of each entry of `mMemInfo`. -/
structure QCameraMemory where
  bufferCount : Nat
  fd : Nat → Int
  size : Nat → Word
  ptr : Nat → Nat

/-- `struct v4l2_plane` -/
structure Plane where
  length : Word
  userptr : Int
  dataOffset : Word
  reserved0 : Word
  deriving DecidableEq, Repr

/-- `mm_camera_buf_def_t` -/
structure BufDef where
  fd : Int
  frameLen : Word
  numPlanes : Nat
  buffer : Nat
  bufIdx : Nat
  planes : Nat → Plane

namespace QCameraMemory

variable (m : QCameraMemory) (o : FrameLenOffset)

/-- `n` turns of the loop from plane `i` on. -/
def fillPlanes : Nat → Nat → (Nat → Plane) → Nat → Plane
  | 0, _, planes => planes
  | n + 1, i, planes =>
    fillPlanes n (i + 1) (Function.update planes i
      { length := (o.mp i).len
        -- the entry of the plane's number, not of the buffer's
        userptr := m.fd i
        dataOffset := (o.mp i).offset
        reserved0 := (planes (i - 1)).reserved0 + (planes (i - 1)).length })

def getBufDef (bufDef : BufDef) (index : Nat) : BufDef :=
  if m.bufferCount = 0 then bufDef
  else
    { fd := m.fd index
      frameLen := m.size index
      numPlanes := o.numPlanes
      buffer := m.ptr index
      bufIdx := index
      planes := m.fillPlanes o (o.numPlanes - 1) 1 (Function.update bufDef.planes 0
        { length := (o.mp 0).len
          userptr := m.fd index
          dataOffset := (o.mp 0).offset
          reserved0 := 0 }) }

end QCameraMemory

/-! ## What a definition describes -/

/-- The bytes of a plane within the buffer. -/
def Plane.bytes (p : Plane) : Set Nat :=
  Set.Ico (p.reserved0.toNat + p.dataOffset.toNat) (p.reserved0.toNat + p.length.toNat)

structure BufDef.Describes (d : BufDef) (o : FrameLenOffset) (fd : Int) : Prop where
  own : ∀ j < o.numPlanes, (d.planes j).userptr = fd
  apart : ∀ i < o.numPlanes, ∀ j < o.numPlanes, i ≠ j →
    ∀ n ∈ (d.planes i).bytes, n ∉ (d.planes j).bytes
  within : ∀ j < o.numPlanes,
    (d.planes j).reserved0.toNat + (d.planes j).length.toNat ≤ o.frameLen.toNat

/-- The entries that the planes after the first one name have the descriptor of the buffer. -/
def QCameraMemory.FdsAgree (m : QCameraMemory) (index numPlanes : Nat) : Prop :=
  ∀ j, 1 ≤ j → j < numPlanes → m.fd j = m.fd index

/-! ## The loop over the planes -/

namespace QCameraMemory

variable {m : QCameraMemory} {o : FrameLenOffset} {planes : Nat → Plane} {n i j index : Nat}

/-- A plane that is filled in, with the descriptor that it names. -/
def filled (o : FrameLenOffset) (fd : Int) (j : Nat) : Plane where
  length := (o.mp j).len
  userptr := fd
  dataOffset := (o.mp j).offset
  reserved0 := BitVec.ofNat 32 (planeStart o j)

theorem filled_next (fd : Int) :
    (filled o fd j).reserved0 + (filled o fd j).length = BitVec.ofNat 32 (planeStart o (j + 1)) := by
  apply BitVec.eq_of_toNat_eq
  simp [filled, planeStart, Lib.placeOf]

theorem fillPlanes_keep (h : j < i) : m.fillPlanes o n i planes j = planes j := by
  induction n generalizing i planes with
  | zero => rfl
  | succ n ih =>
    rw [fillPlanes, ih (by omega), Function.update_of_ne (by omega)]

theorem fillPlanes_filled {fd : Int} (hPrev : planes i = filled o fd i) (hLo : i < j)
    (hHi : j ≤ i + n) :
    m.fillPlanes o n (i + 1) planes j = filled o (m.fd j) j := by
  induction n generalizing i fd planes with
  | zero => omega
  | succ n ih =>
    have hNext : ({ length := (o.mp (i + 1)).len
                    userptr := m.fd (i + 1)
                    dataOffset := (o.mp (i + 1)).offset
                    reserved0 := (planes (i + 1 - 1)).reserved0 + (planes (i + 1 - 1)).length } : Plane) =
        filled o (m.fd (i + 1)) (i + 1) := by
      rw [Nat.add_sub_cancel, hPrev, filled_next]
      rfl
    rw [fillPlanes, hNext]
    rcases Nat.lt_or_ge (i + 1) j with hLater | hHere
    · exact ih (Function.update_self ..) hLater (by omega)
    · obtain rfl : j = i + 1 := by omega
      rw [fillPlanes_keep (Nat.lt_succ_self _), Function.update_self]

theorem getBufDef_plane {d : BufDef} (hIndex : index < m.bufferCount) (hPlane : j < o.numPlanes) :
    (m.getBufDef o d index).planes j = filled o (if j = 0 then m.fd index else m.fd j) j := by
  rw [getBufDef, if_neg (by omega)]
  rcases Nat.eq_zero_or_pos j with rfl | hPos
  · rw [if_pos rfl]
    exact (fillPlanes_keep Nat.one_pos).trans (Function.update_self ..)
  · rw [if_neg (by omega)]
    have hFirst : Function.update d.planes 0 _ 0 = filled o (m.fd index) 0 := Function.update_self ..
    exact fillPlanes_filled hFirst hPos (by omega)

/-! ## The definition of a buffer -/

theorem filled_start {fd : Int} (h : planeStart o j ≤ o.frameLen.toNat) :
    (filled o fd j).reserved0.toNat = planeStart o j := by
  have hFrame : o.frameLen.toNat < 2 ^ 32 := o.frameLen.isLt
  rw [filled, BitVec.toNat_ofNat]
  omega

section Filled

variable {d : BufDef} {fd : Nat → Int} {own : Int}

theorem planeStart_le (hDef : d.Describes o own)
    (hPlanes : ∀ j < o.numPlanes, d.planes j = filled o (fd j) j)
    (h : j ≤ o.numPlanes) : planeStart o j ≤ o.frameLen.toNat := by
  induction j with
  | zero => exact Nat.zero_le _
  | succ j ih =>
    have hStart : (filled o (fd j) j).reserved0.toNat = planeStart o j := filled_start (ih (by omega))
    have hEnd := hDef.within j h
    rw [hPlanes j h, hStart] at hEnd
    exact hEnd

theorem start_fits (h : FitsFrame o) (hPlane : j ≤ o.numPlanes) :
    planeStart o j ≤ o.frameLen.toNat :=
  (Lib.placeOf_mono hPlane).trans h

theorem bytes_filled {f : Int} (h : FitsFrame o) (hPlane : j < o.numPlanes) :
    (filled o f j).bytes = Set.Ico (planeStart o j + (o.mp j).offset.toNat)
    (planeStart o (j + 1)) := by
  rw [Plane.bytes, filled_start (start_fits h hPlane.le)]
  rfl

theorem describes_iff (hPlanes : ∀ j < o.numPlanes, d.planes j = filled o (fd j) j) :
    d.Describes o own ↔ (∀ j < o.numPlanes, fd j = own) ∧ FitsFrame o := by
  constructor
  · intro hDef
    refine ⟨fun j hj => ?_, planeStart_le hDef hPlanes (Nat.le_refl _)⟩
    have hOwn := hDef.own j hj
    rwa [hPlanes j hj] at hOwn
  · rintro ⟨hOwn, hFits⟩
    constructor
    · intro j hj
      rw [hPlanes j hj]
      exact hOwn j hj
    · intro i hi j hj hNe n hn
      rw [hPlanes i hi, bytes_filled hFits hi] at hn
      rw [hPlanes j hj, bytes_filled hFits hj]
      exact Lib.parts_apart (fun i => (o.mp i).offset.toNat) hNe hn
    · intro j hj
      rw [hPlanes j hj, filled_start (start_fits hFits hj.le)]
      exact start_fits hFits hj

end Filled

theorem getBufDef_describes {b : BuildFlags} {s : LayoutInfo} {padding : PaddingInfo} {d : BufDef}
    (hIndex : index < m.bufferCount) (hOffset : calcOffset b s padding = (0, o)) :
    ((m.getBufDef o d index).Describes o (m.fd index) ↔
      m.FdsAgree index o.numPlanes ∧ FitsFrame o) ∧
    (¬ Copied s → Roomy s o → FitsFrame o) := by
  constructor
  · rw [describes_iff fun j hj => getBufDef_plane hIndex hj]
    refine and_congr_left' ⟨fun h j hPos hj => ?_, fun h j hj => ?_⟩
    · have hNamed := h j hj
      rwa [if_neg (by omega)] at hNamed
    · split
      · rfl
      · exact h j (by omega) hj
  · intro hCopied hRoom
    have hOk : (calcOffset b s padding).1 = 0 := congrArg Prod.fst hOffset
    have hPlanes : (calcOffset b s padding).2 = o := congrArg Prod.snd hOffset
    exact hPlanes ▸ calcOffset_fits hOk hCopied (hPlanes ▸ hRoom)

/-- A preview of 640 by 480 in NV12: two planes. -/
def previewInfo : LayoutInfo where
  streamType := .preview
  fmt := .yuv420Nv12
  dim := { width := 640, height := 480 }
  featureMask := 0
  turned := false
  reprocess := .online .preview
  ppFeatureMask := 0
  tpMetaMaxSize := 0
  bufPlanes := noPlanes

def noVenus : BuildFlags := { isAFamily := false, venus := none }

def padding32 : PaddingInfo := { widthPadding := 32, heightPadding := 32, planePadding := 32 }

def noDef : BufDef where
  fd := 0
  frameLen := 0
  numPlanes := 0
  buffer := 0
  bufIdx := 0
  planes := fun _ => { length := 0, userptr := 0, dataOffset := 0, reserved0 := 0 }

/-- Two buffers, with the descriptors 10 and 11. -/
def twoBuffers : QCameraMemory where
  bufferCount := 2
  fd := fun i => 10 + i
  size := fun _ => 462848
  ptr := fun i => 4096 * (i + 1)

/-- The second buffer is described. -/
theorem getBufDef_describes_second :
    (twoBuffers.getBufDef (calcOffset noVenus previewInfo padding32).2 noDef 1).Describes
      (calcOffset noVenus previewInfo padding32).2 11 := by
  have hOffset : calcOffset noVenus previewInfo padding32 =
      (0, (calcOffset noVenus previewInfo padding32).2) := rfl
  have hIndex : 1 < twoBuffers.bufferCount := Nat.lt_succ_self _
  have hIff := getBufDef_describes (d := noDef) hIndex hOffset
  have hAgree : twoBuffers.FdsAgree 1 (calcOffset noVenus previewInfo padding32).2.numPlanes := by
    intro j hLo hHi
    have hPlanes : j < 2 := hHi
    rw [show j = 1 by omega]
  have hComputed : ¬ Copied previewInfo := fun h => nomatch h.1
  have hRoom : Roomy previewInfo (calcOffset noVenus previewInfo padding32).2 := by
    unfold Roomy
    decide +kernel
  exact hIff.1.mpr ⟨hAgree, hIff.2 hComputed hRoom⟩

/-- The second plane of the first buffer names the second buffer. -/
theorem getBufDef_misnames :
    0 < twoBuffers.bufferCount ∧ (calcOffset noVenus previewInfo padding32).1 = 0 ∧
    ¬ (twoBuffers.getBufDef (calcOffset noVenus previewInfo padding32).2 noDef 0).Describes
      (calcOffset noVenus previewInfo padding32).2 (twoBuffers.fd 0) := by
  refine ⟨Nat.succ_pos _, rfl, fun hDef => ?_⟩
  have hOwn : (11 : Int) = 10 := hDef.own 1 (by decide)
  exact absurd hOwn (by decide)

end QCameraMemory

end KiwiDevice.Hal

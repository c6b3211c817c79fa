import Mathlib.Algebra.Order.Ring.Nat
import Mathlib.Data.List.Basic

/-!
# Bytes of a block of memory

A block of `size` bytes, read and written by offset. An access that leaves the block gives `none`.
Words are little-endian.
-/

namespace KiwiDevice.Lib

/-- The `w` low bytes of `n`, the lowest first. -/
def littleEndian : Nat → Nat → List UInt8
  | 0, _ => []
  | w + 1, n => UInt8.ofNat n :: littleEndian w (n / 256)

def ofLittleEndian : List UInt8 → Nat
  | [] => 0
  | b :: bs => b.toNat + 256 * ofLittleEndian bs

@[simp] theorem length_littleEndian (w n : Nat) : (littleEndian w n).length = w := by
  induction w generalizing n with
  | zero => rfl
  | succ w ih => rw [littleEndian, List.length_cons, ih]

theorem ofLittleEndian_littleEndian {w n : Nat} (h : n < 256 ^ w) :
    ofLittleEndian (littleEndian w n) = n := by
  induction w generalizing n with
  | zero =>
    rw [Nat.pow_zero] at h
    simp only [littleEndian, ofLittleEndian]
    omega
  | succ w ih =>
    have hRest : n / 256 < 256 ^ w := by
      rw [Nat.div_lt_iff_lt_mul (by omega), ← Nat.pow_succ]
      exact h
    rw [littleEndian, ofLittleEndian, ih hRest, UInt8.toNat_ofNat']
    exact Nat.mod_add_div n 256

structure Memory (size : Nat) where
  byte : Nat → UInt8

namespace Memory

variable {size : Nat} {m m' m'' : Memory size} {off len lo hi n : Nat} {bs cs : List UInt8}

def zero : Memory size := ⟨fun _ => 0⟩

def load (m : Memory size) (off len : Nat) : Option (List UInt8) :=
  if off + len ≤ size then some ((List.range len).map fun i => m.byte (off + i)) else none

def write (m : Memory size) (off : Nat) (bs : List UInt8) : Memory size :=
  ⟨fun a => if off ≤ a then (bs[a - off]?).getD (m.byte a) else m.byte a⟩

def store (m : Memory size) (off : Nat) (bs : List UInt8) : Option (Memory size) :=
  if off + bs.length ≤ size then some (m.write off bs) else none

def loadWord (m : Memory size) (off : Nat) : Option Nat := (m.load off 4).map ofLittleEndian

def storeWord (m : Memory size) (off n : Nat) : Option (Memory size) :=
  m.store off (littleEndian 4 n)

/-- The bytes from `lo` up to `hi` are the same. -/
def Agree (m m' : Memory size) (lo hi : Nat) : Prop := ∀ a, lo ≤ a → a < hi → m.byte a = m'.byte a

theorem Agree.mono (h : Agree m m' lo hi) {lo' hi' : Nat} (hLo : lo ≤ lo') (hHi : hi' ≤ hi) :
    Agree m m' lo' hi' :=
  fun a ha hb => h a (Nat.le_trans hLo ha) (Nat.lt_of_lt_of_le hb hHi)

theorem write_outside {a : Nat} (h : a < off ∨ off + bs.length ≤ a) :
    (m.write off bs).byte a = m.byte a := by
  rw [write]
  dsimp only
  split
  · rw [List.getElem?_eq_none (by omega)]
    rfl
  · rfl

theorem write_inside {i : Nat} (h : i < bs.length) : (m.write off bs).byte (off + i) = bs[i] := by
  rw [write]
  dsimp only
  rw [if_pos (Nat.le_add_right off i), Nat.add_sub_cancel_left, List.getElem?_eq_getElem h]
  rfl

theorem load_length (h : m.load off len = some bs) : bs.length = len := by
  rw [load] at h
  split at h
  · cases h
    rw [List.length_map, List.length_range]
  · cases h

theorem load_of_agree (h : Agree m m' lo hi) (hLo : lo ≤ off) (hHi : off + len ≤ hi) :
    m.load off len = m'.load off len := by
  rw [load, load]
  have hBytes : ((List.range len).map fun i => m.byte (off + i)) =
      (List.range len).map fun i => m'.byte (off + i) := by
    apply List.map_congr_left
    intro i hMem
    have hLt := List.mem_range.mp hMem
    exact h _ (by omega) (by omega)
  rw [hBytes]

theorem loadWord_of_agree (h : Agree m m' lo hi) (hLo : lo ≤ off) (hHi : off + 4 ≤ hi) :
    m.loadWord off = m'.loadWord off := by
  rw [loadWord, loadWord, load_of_agree h hLo hHi]

theorem store_of_le (h : off + bs.length ≤ size) : m.store off bs = some (m.write off bs) :=
  if_pos h

theorem write_agree (hOut : hi ≤ off ∨ off + bs.length ≤ lo) : Agree m (m.write off bs) lo hi := by
  intro a hLo hHi
  exact (write_outside (by omega)).symm

/-- What was written is loaded, each part of it from its own place. -/
theorem load_write (m : Memory size) (off : Nat) (as bs cs : List UInt8)
    (hIn : off + as.length + bs.length ≤ size) :
    (m.write off (as ++ bs ++ cs)).load (off + as.length) bs.length = some bs := by
  rw [load, if_pos hIn]
  congr 1
  apply List.ext_getElem
  · rw [List.length_map, List.length_range]
  intro i hLt hBs
  have hAll : as.length + i < (as ++ bs ++ cs).length := by
    rw [List.length_append, List.length_append]
    omega
  rw [List.getElem_map, List.getElem_range, Nat.add_assoc, write_inside hAll,
    List.getElem_append_left (by rw [List.length_append]; omega),
    List.getElem_append_right (Nat.le_add_right _ _)]
  congr 1
  exact Nat.add_sub_cancel_left _ _

theorem load_write_self (m : Memory size) (off : Nat) (bs : List UInt8)
    (hIn : off + bs.length ≤ size) : (m.write off bs).load off bs.length = some bs := by
  have hLoad := load_write m off [] bs [] hIn
  rwa [List.nil_append, List.append_nil, List.length_nil, Nat.add_zero] at hLoad

theorem loadWord_write (m : Memory size) (off : Nat) (as cs : List UInt8) (hn : n < 256 ^ 4)
    (hIn : off + as.length + 4 ≤ size) :
    (m.write off (as ++ littleEndian 4 n ++ cs)).loadWord (off + as.length) = some n := by
  have hLoad := load_write m off as (littleEndian 4 n) cs (by rwa [length_littleEndian])
  rw [length_littleEndian] at hLoad
  rw [loadWord, hLoad, Option.map_some, ofLittleEndian_littleEndian hn]

/-- Two writes next to each other are one. -/
theorem write_append (m : Memory size) (off : Nat) (bs cs : List UInt8) :
    (m.write off bs).write (off + bs.length) cs = m.write off (bs ++ cs) := by
  rw [write, write, write]
  congr 1
  funext a
  rcases Nat.lt_or_ge a off with hBefore | hFrom
  · rw [if_neg (by omega), if_neg (by omega)]
    exact if_neg (by omega)
  · rw [if_pos hFrom]
    rcases Nat.lt_or_ge a (off + bs.length) with hFirst | hSecond
    · rw [if_neg (by omega), List.getElem?_append_left (by omega)]
      exact if_pos hFrom
    · have hAt : a - off - bs.length = a - (off + bs.length) := by omega
      rw [if_pos hSecond, List.getElem?_append_right (by omega), hAt]
      congr 1
      dsimp only
      rw [if_pos hFrom, List.getElem?_eq_none (by omega)]
      rfl

/-! ### Copies in pieces -/

/-- `memcpy` of `len` bytes from one block to another. -/
def memcpy {k : Nat} (m : Memory size) (pos : Nat) (src : Memory k) (off len : Nat) :
    Option (Memory size) :=
  (src.load off len).bind (m.store pos)

theorem memcpy_spec {k : Nat} (m : Memory size) (src : Memory k) (pos off len : Nat)
    (hSrc : off + len ≤ k) (hDst : pos + len ≤ size) :
    ∃ m', m.memcpy pos src off len = some m' ∧
      (∀ i < len, m'.byte (pos + i) = src.byte (off + i)) ∧
      ∀ a, a < pos ∨ pos + len ≤ a → m'.byte a = m.byte a := by
  have hLength : ((List.range len).map fun i => src.byte (off + i)).length = len := by
    rw [List.length_map, List.length_range]
  refine ⟨m.write pos ((List.range len).map fun i => src.byte (off + i)), ?_, ?_, ?_⟩
  · rw [memcpy, load, if_pos hSrc, Option.bind_some, store_of_le (by rwa [hLength])]
  · intro i hLt
    rw [write_inside (by rwa [hLength]), List.getElem_map, List.getElem_range]
  · intro a hOut
    exact write_outside (by rwa [hLength])

end Memory

/-- Where the bytes of a piece are, where they go, and how many there are. -/
structure Piece where
  src : Nat
  dst : Nat
  len : Nat

namespace Piece

def flip (p : Piece) : Piece := ⟨p.dst, p.src, p.len⟩

/-- Both ends of the piece lie in their blocks. -/
structure Within (n m : Nat) (p : Piece) : Prop where
  src : p.src + p.len ≤ n
  dst : p.dst + p.len ≤ m

theorem Within.flip {n m : Nat} {p : Piece} (h : p.Within n m) : p.flip.Within m n := ⟨h.dst, h.src⟩

def Into (p : Piece) (a : Nat) : Prop := p.dst ≤ a ∧ a < p.dst + p.len

/-- One piece goes before the other. -/
def Before (p q : Piece) : Prop := p.dst + p.len ≤ q.dst

end Piece

namespace Memory

variable {size k : Nat} {src : Memory k} {ps : List Piece} {dst dst' : Memory size}

def copyPieces (src : Memory k) (ps : List Piece) (dst : Memory size) : Option (Memory size) :=
  ps.foldlM (fun dst p => dst.memcpy p.dst src p.src p.len) dst

/-- Every piece is in its place, and nothing else is changed. -/
structure Copied (src : Memory k) (ps : List Piece) (dst dst' : Memory size) : Prop where
  inside : ∀ p ∈ ps, ∀ i < p.len, dst'.byte (p.dst + i) = src.byte (p.src + i)
  outside : ∀ a, (∀ p ∈ ps, ¬ p.Into a) → dst'.byte a = dst.byte a

theorem copyPieces_spec (src : Memory k) (dst : Memory size) (hIn : ∀ p ∈ ps, p.Within k size)
    (hApart : ps.Pairwise Piece.Before) :
    ∃ dst', src.copyPieces ps dst = some dst' ∧ Copied src ps dst dst' := by
  induction ps generalizing dst with
  | nil => exact ⟨dst, rfl, fun p hp => absurd hp List.not_mem_nil, fun a _ => rfl⟩
  | cons p ps ih =>
    obtain ⟨hBefore, hRest⟩ := List.pairwise_cons.mp hApart
    have hHere := hIn p List.mem_cons_self
    obtain ⟨mid, hMid, hInside, hOutside⟩ := memcpy_spec dst src p.dst p.src p.len hHere.src hHere.dst
    obtain ⟨dst', hRun, hCopied⟩ := ih mid (fun q hq => hIn q (List.mem_cons_of_mem _ hq)) hRest
    refine ⟨dst', ?_, ?_, ?_⟩
    · rw [copyPieces, List.foldlM_cons, hMid]
      exact hRun
    · intro q hq i hLt
      rcases List.mem_cons.mp hq with rfl | hLater
      · -- the later pieces go behind this one
        have hKept : dst'.byte (q.dst + i) = mid.byte (q.dst + i) := by
          apply hCopied.outside
          rintro r hr ⟨hLo, -⟩
          have hLe : q.dst + q.len ≤ r.dst := hBefore r hr
          omega
        rw [hKept, hInside i hLt]
      · exact hCopied.inside q hLater i hLt
    · intro a hNot
      have hKept := hCopied.outside a fun q hq => hNot q (List.mem_cons_of_mem _ hq)
      have hNotHere : ¬ (p.dst ≤ a ∧ a < p.dst + p.len) := hNot p List.mem_cons_self
      rw [hKept, hOutside a (by omega)]

/-- What is copied back was there. -/
theorem Copied.back {src' : Memory k} (h : Copied src ps dst dst')
    (hBack : Copied dst' (ps.map Piece.flip) src src') : src' = src := by
  have hBytes : ∀ a, src'.byte a = src.byte a := by
    intro a
    by_cases hInto : ∃ p ∈ ps, p.flip.Into a
    · obtain ⟨p, hp, hLo, hHi⟩ := hInto
      obtain ⟨i, rfl⟩ := Nat.exists_eq_add_of_le hLo
      have hLt : i < p.len := Nat.lt_of_add_lt_add_left hHi
      exact (hBack.inside p.flip (List.mem_map_of_mem hp) i hLt).trans (h.inside p hp i hLt)
    · apply hBack.outside
      intro q hq hInto'
      obtain ⟨p, hp, rfl⟩ := List.mem_map.mp hq
      exact hInto ⟨p, hp, hInto'⟩
  cases src
  cases src'
  exact congrArg Memory.mk (funext hBytes)

end Memory

end KiwiDevice.Lib

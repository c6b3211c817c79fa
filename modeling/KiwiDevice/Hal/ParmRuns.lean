import KiwiDevice.Hal.ParmLayout
import Mathlib.Data.List.Nodup

/-!
# Runs of the parameter batch

What the batch holds is compared with the parameters added since its update began, and what was sent
with the parameters set since then.
-/

namespace KiwiDevice.Hal

open Lib (Memory)

/-- The buffer holds the entries `es` and no others. -/
structure Batched (b : ParmBuffer) (es : List ParmEntry) : Prop where
  count : b.numEntry = es.length
  laid : Laid b.entry 0 es
  distinct : (es.map ParmEntry.entryType).Nodup
  curr : b.currSize = totalSize es
  room : b.currSize + b.totRemSize = oneMbOfParams - entryHeader

/-- The entry `e` of the type `t` was added to the entries `es`, which makes them `es'`. -/
structure Added (t : Nat) (e : ParmEntry) (es es' : List ParmEntry) : Prop where
  entryType : e.entryType = t
  mem : e ∈ es'
  keep : ∀ e' ∈ es, e'.entryType ≠ t → e' ∈ es'
  origin : ∀ e' ∈ es', e' = e ∨ e' ∈ es ∧ e'.entryType ≠ t

variable {b b' : ParmBuffer} {es es' l r : List ParmEntry} {e old : ParmEntry}
  {size aligned t : Nat} {paramType : UInt32} {value : List UInt8}

theorem Batched.empty : Batched .empty [] where
  count := rfl
  laid := trivial
  distinct := .nil
  curr := rfl
  room := rfl

theorem Batched.find (h : Batched b es) (paramType : UInt32) :
    (∃ l old r, es = l ++ old :: r ∧ old.entryType = paramType.toNat ∧
      b.find paramType = some (some old.offset)) ∨
    b.find paramType = some none ∧ ∀ e ∈ es, e.entryType ≠ paramType.toNat := by
  have hFind := h.laid.findParm paramType
  rw [← h.count] at hFind
  cases hSearch : es.find? fun e => e.entryType = paramType.toNat with
  | none =>
    rw [hSearch] at hFind
    refine .inr ⟨hFind, ?_⟩
    intro e he
    simpa using List.find?_eq_none.mp hSearch e he
  | some old =>
    rw [hSearch] at hFind
    obtain ⟨l, r, hSplit⟩ := List.append_of_mem (List.mem_of_find?_eq_some hSearch)
    have hType := List.find?_some hSearch
    exact .inl ⟨l, old, r, hSplit, of_decide_eq_true hType, hFind⟩

theorem Batched.words (h : Batched b (l ++ old :: r)) :
    b.entry.loadWord (old.offset + 8) = some old.alignedSize ∧
      b.entry.loadWord (old.offset + 4) = some old.size := by
  obtain ⟨-, hRead, -⟩ := laid_append.mp h.laid
  obtain ⟨hOffset, -, hSize, hAligned, -⟩ := readEntry_eq_some.mp hRead
  rw [hOffset]
  exact ⟨hAligned, hSize⟩

theorem Batched.append (h : Batched b es) (hNew : ∀ e ∈ es, e.entryType ≠ paramType.toNat)
    (hRoom : aligned ≤ b.totRemSize) (hSize : 12 + size ≤ aligned)
    (hValue : value = [] ∨ value.length = size) :
    ∃ b' e, b.append paramType size aligned value = some b' ∧ Batched b' (es ++ [e]) ∧
      Added paramType.toNat e es (es ++ [e]) ∧ (value.length = size → e.data = value) := by
  have hLength := h.laid.length_le
  have hCurr := h.curr
  have hTotal := h.room
  have hCount := h.count
  have hMega : oneMbOfParams = 1048576 := rfl
  have hHeader : entryHeader = 16 := rfl
  obtain ⟨m', e, hWrite, hLaid, hType, -, hAligned, hData, -⟩ :=
    Laid.put paramType (r := []) h.laid trivial
      ((Nat.zero_add _).trans h.curr.symm) hSize (by omega) hValue
  have hAdded : Added paramType.toNat e es (es ++ [e]) :=
    { entryType := hType
      mem := List.mem_append_right _ List.mem_cons_self
      keep := fun e' he' _ => List.mem_append_left _ he'
      origin := by
        intro e' he'
        rcases List.mem_append.mp he' with hOld | hLast
        · exact .inr ⟨hOld, hNew e' hOld⟩
        · exact .inl (List.mem_singleton.mp hLast) }
  rw [ParmBuffer.append, hWrite]
  refine ⟨_, e, rfl, ?_, hAdded, hData⟩
  constructor
  · dsimp only
    rw [sizeT, List.length_append, List.length_singleton]
    omega
  · exact hLaid
  · rw [List.map_append, List.map_singleton, hType]
    refine List.Nodup.append h.distinct (List.nodup_singleton _) ?_
    intro t ht hLast
    obtain ⟨e', he', rfl⟩ := List.mem_map.mp ht
    exact hNew e' he' (List.mem_singleton.mp hLast)
  · dsimp only
    rw [sizeT, totalSize_append, totalSize_cons, hAligned]
    have hNil : totalSize [] = 0 := rfl
    omega
  · dsimp only
    rw [sizeT, sizeT]
    omega

theorem Batched.overwrite (h : Batched b (l ++ old :: r)) (hType : old.entryType = paramType.toNat)
    (hAligned : old.alignedSize = aligned) (hSize : 12 + size ≤ aligned)
    (hValue : value = [] ∨ value.length = size) :
    ∃ b' e, b.overwrite old.offset paramType size aligned value = some b' ∧
      Batched b' (l ++ e :: r) ∧ Added paramType.toNat e (l ++ old :: r) (l ++ e :: r) ∧
      (value.length = size → e.data = value) ∧
      (value = [] → size = old.size → e.data = old.data) := by
  have hCurr := h.curr
  have hTotal := h.room
  have hMega : oneMbOfParams = 1048576 := rfl
  have hHeader : entryHeader = 16 := rfl
  obtain ⟨hBefore, hRead, -, hAfter⟩ := laid_append.mp h.laid
  obtain ⟨hOffset, -, -, -, hOldData⟩ := readEntry_eq_some.mp hRead
  rw [totalSize_append, totalSize_cons] at hCurr
  rw [hAligned] at hAfter
  obtain ⟨m', e, hWrite, hLaid, heType, heSize, heAligned, hNew, hOld⟩ :=
    Laid.put paramType hBefore hAfter hOffset.symm hSize (by omega) hValue
  have hTypes : (l ++ old :: r).map ParmEntry.entryType = (l ++ e :: r).map ParmEntry.entryType := by
    rw [List.map_append, List.map_append, List.map_cons, List.map_cons, hType, heType]
  have hOthers : ∀ e' ∈ l ++ r, e'.entryType ≠ paramType.toNat := by
    have hDistinct := h.distinct
    rw [List.map_append, List.map_cons, List.nodup_middle] at hDistinct
    intro e' he' hSame
    refine (List.nodup_cons.mp hDistinct).1 ?_
    rw [← List.map_append, hType, ← hSame]
    exact List.mem_map_of_mem he'
  have hAdded : Added paramType.toNat e (l ++ old :: r) (l ++ e :: r) :=
    { entryType := heType
      mem := by simp
      keep := by
        intro e' he' hOther
        rcases List.mem_append.mp he' with hl | hr
        · exact List.mem_append_left _ hl
        · rcases List.mem_cons.mp hr with rfl | hr
          · exact absurd hType hOther
          · exact List.mem_append_right _ (List.mem_cons_of_mem _ hr)
      origin := by
        intro e' he'
        rcases List.mem_append.mp he' with hl | hr
        · exact .inr ⟨List.mem_append_left _ hl, hOthers e' (List.mem_append_left _ hl)⟩
        · rcases List.mem_cons.mp hr with rfl | hr
          · exact .inl rfl
          · exact .inr ⟨List.mem_append_right _ (List.mem_cons_of_mem _ hr),
              hOthers e' (List.mem_append_right _ hr)⟩ }
  rw [ParmBuffer.overwrite, hWrite]
  refine ⟨_, e, rfl, ⟨?_, hLaid, ?_, ?_, h.room⟩, hAdded, hNew, ?_⟩
  · exact h.count.trans (by rw [List.length_append, List.length_append]; rfl)
  · rw [← hTypes]
    exact h.distinct
  · rw [totalSize_append, totalSize_cons, heAligned, ← hAligned]
    exact hCurr
  · intro hNil hSame
    have hBytes := hOld hNil
    rw [hSame, hOffset, hOldData] at hBytes
    exact (Option.some.inj hBytes).symm

namespace Parameters

def noteSet (t : Nat) (last : Option (List UInt8)) : BatchCall → Option (List UInt8)
  | .initBatchUpdate => none
  | .addSet paramType paramValue _ => if paramType.toNat = t then some paramValue else last
  | _ => last

/-- The value last set for the type since the update began. -/
def lastSet (t : Nat) (calls : List BatchCall) : Option (List UInt8) :=
  calls.foldl (noteSet t) none

def noteAdded (t : Nat) (last : Option (List UInt8)) : BatchCall → Option (List UInt8)
  | .addGet paramType => if paramType.toNat = t then none else last
  | c => noteSet t last c

/-- The same, unless the type was asked for after that. -/
def lastAdded (t : Nat) (calls : List BatchCall) : Option (List UInt8) :=
  calls.foldl (noteAdded t) none

/-- The event is a successful `set_parms` whose batch has the value for the type. -/
def Sends (t : Nat) (v : List UInt8) : BatchEvent → Prop
  | .setParms rc batch =>
    rc = 0 ∧ ∃ es, batch.entries = some es ∧ ∃ e ∈ es, e.entryType = t ∧ e.data = v
  | _ => False

/-- The value was sent for the type since the update began. -/
def Sent (t : Nat) (v : List UInt8) (events : List BatchEvent) : Prop :=
  Lib.Since (fun _ event => Sends t v event) (· ≠ .began) events

def endOf (es : List ParmEntry) : Nat := es.foldl (fun _ e => e.offset + e.alignedSize) 0

/-- The walk over the batch finds `es`: entries of distinct types in disjoint ranges that end at
`curr_size`, each with the value last added for its type. -/
structure Intact (calls : List BatchCall) (b : ParmBuffer) (es : List ParmEntry) : Prop where
  walked : b.entries = some es
  distinct : (es.map ParmEntry.entryType).Nodup
  disjoint : es.Pairwise fun e e' => e.offset + e.alignedSize ≤ e'.offset
  inside : ∀ e ∈ es, 12 + e.size ≤ e.alignedSize
  ends : endOf es = b.currSize
  room : b.currSize + b.totRemSize = oneMbOfParams - entryHeader
  holds : ∀ e ∈ es, ∀ v, lastAdded e.entryType calls = some v → e.size = v.length ∧ e.data = v

/-- The invariant. -/
structure Kept (calls : List BatchCall) (events : List BatchEvent) (b : ParmBuffer)
    (es : List ParmEntry) : Prop where
  batched : Batched b es
  held : ∀ e ∈ es, ∀ v, lastAdded e.entryType calls = some v → e.data = v
  delivered : ∀ t v, lastSet t calls = some v →
    Sent t v events ∨ ∃ e ∈ es, e.entryType = t ∧ e.data = v

variable {p p' : Parameters} {calls : List BatchCall} {events os : List BatchEvent} {v : List UInt8}
  {c : BatchCall} {parmTypeSize : Nat}

theorem lastSet_append : lastSet t (calls ++ [c]) = noteSet t (lastSet t calls) c := by
  rw [lastSet, List.foldl_append]
  rfl

theorem lastAdded_append : lastAdded t (calls ++ [c]) = noteAdded t (lastAdded t calls) c := by
  rw [lastAdded, List.foldl_append]
  rfl

theorem lastAdded_addSet (rc : Int) :
    lastAdded t (calls ++ [.addSet paramType v rc]) =
      if paramType.toNat = t then some v else lastAdded t calls :=
  lastAdded_append

theorem Laid.foldl_end {m : EntryMemory} {off : Nat} (h : Laid m off es) :
    es.foldl (fun _ e => e.offset + e.alignedSize) off = off + totalSize es := by
  induction es generalizing off with
  | nil => rfl
  | cons e es ih =>
    have hOffset := (readEntry_eq_some.mp h.1).1
    rw [List.foldl_cons, hOffset, ih h.2.2, totalSize_cons, Nat.add_assoc]

theorem Batched.entries (h : Batched b es) : b.entries = some es := by
  rw [ParmBuffer.entries, h.count]
  exact h.laid.walk

theorem Laid.data_length {m : EntryMemory} {off : Nat} (h : Laid m off es) (he : e ∈ es) :
    e.data.length = e.size := by
  induction es generalizing off with
  | nil => cases he
  | cons first es ih =>
    rcases List.mem_cons.mp he with rfl | hRest
    · exact Memory.load_length (readEntry_eq_some.mp h.1).2.2.2.2
    · exact ih h.2.2 hRest

theorem Kept.intact (h : Kept calls events b es) : Intact calls b es where
  walked := Batched.entries h.batched
  distinct := h.batched.distinct
  disjoint := h.batched.laid.ordered
  inside := fun _ he => (h.batched.laid.bounds he).2.1
  ends := by
    rw [endOf, Laid.foldl_end h.batched.laid, Nat.zero_add]
    exact h.batched.curr.symm
  room := h.batched.room
  holds := by
    intro e he v hLast
    have hData := h.held e he v hLast
    rw [← Laid.data_length h.batched.laid he, hData]
    exact ⟨rfl, rfl⟩

theorem Kept.addSet (h : Kept calls events b es) (hBatched : Batched b' es')
    (hAdded : Added paramType.toNat e es es') (hData : e.data = v) (rc : Int) :
    Kept (calls ++ [.addSet paramType v rc]) events b' es' := by
  refine ⟨hBatched, ?_, ?_⟩
  · intro e' he' w hLast
    rw [lastAdded_addSet] at hLast
    rcases hAdded.origin e' he' with rfl | ⟨hOld, hOther⟩
    · rw [if_pos hAdded.entryType.symm] at hLast
      exact hData.trans (Option.some.inj hLast)
    · rw [if_neg hOther.symm] at hLast
      exact h.held e' hOld w hLast
  · intro t w hLast
    rw [lastSet_append, noteSet] at hLast
    split at hLast
    · rename_i hSame
      exact .inr ⟨e, hAdded.mem, hAdded.entryType.trans hSame, hData.trans (Option.some.inj hLast)⟩
    · rename_i hOther
      rcases h.delivered t w hLast with hSent | ⟨e', he', rfl, hHeld⟩
      · exact .inl hSent
      · exact .inr ⟨e', hAdded.keep e' he' (Ne.symm hOther), rfl, hHeld⟩

/-- A get that put its entry into the batch, over an entry with the same data if there was one. -/
theorem Kept.addGet (h : Kept calls events b es) (hBatched : Batched b' es')
    (hAdded : Added paramType.toNat e es es')
    (hData : ∀ old ∈ es, old.entryType = paramType.toNat → e.data = old.data) :
    Kept (calls ++ [.addGet paramType]) events b' es' := by
  refine ⟨hBatched, ?_, ?_⟩
  · intro e' he' w hLast
    rw [lastAdded_append, noteAdded] at hLast
    rcases hAdded.origin e' he' with rfl | ⟨hOld, hOther⟩
    · rw [if_pos hAdded.entryType.symm] at hLast
      cases hLast
    · rw [if_neg hOther.symm] at hLast
      exact h.held e' hOld w hLast
  · intro t w hLast
    rw [lastSet_append] at hLast
    rcases h.delivered t w hLast with hSent | ⟨old, hOld, rfl, hHeld⟩
    · exact .inl hSent
    · by_cases hSame : old.entryType = paramType.toNat
      · exact .inr ⟨e, hAdded.mem, hAdded.entryType.trans hSame.symm,
          (hData old hOld hSame).trans hHeld⟩
      · exact .inr ⟨old, hAdded.keep old hOld hSame, rfl, hHeld⟩

theorem commitParamChanges_ne_began : ∀ event ∈ p.commitParamChanges.2, event ≠ .began := by
  intro event hEvent
  rcases List.mem_append.mp hEvent with hChange | hTorch
  · obtain ⟨change, -, rfl⟩ := List.mem_map.mp hChange
    nofun
  · split at hTorch
    · rw [List.mem_singleton.mp hTorch]
      nofun
    · cases hTorch

theorem commitSetBatch_empty (h : p.paramBuf.numEntry = 0) (rc : Int) :
    p.commitSetBatch rc = (p.commitParamChanges.1, p.commitParamChanges.2, 0) := by
  simp [commitSetBatch, h]

theorem commitSetBatch_ok (h : 0 < p.paramBuf.numEntry) :
    p.commitSetBatch 0 =
      (p.commitParamChanges.1, .setParms 0 p.paramBuf :: p.commitParamChanges.2, 0) := by
  simp [commitSetBatch, h]

theorem commitSetBatch_failed (h : 0 < p.paramBuf.numEntry) {rc : Int} (hRc : rc ≠ 0) :
    p.commitSetBatch rc = (p, [.setParms rc p.paramBuf], rc) := by
  simp [commitSetBatch, h, hRc]

theorem commitSetBatch_cases (p : Parameters) (rc : Int) :
    p.commitSetBatch rc = (p.commitParamChanges.1, p.commitParamChanges.2, 0) ∧
        p.paramBuf.numEntry = 0 ∨
      p.commitSetBatch rc =
        (p.commitParamChanges.1, .setParms 0 p.paramBuf :: p.commitParamChanges.2, 0) ∨
      p.commitSetBatch rc = (p, [.setParms rc p.paramBuf], rc) ∧ rc ≠ 0 := by
  rcases Nat.eq_zero_or_pos p.paramBuf.numEntry with hNone | hSome
  · exact .inl ⟨commitSetBatch_empty hNone rc, hNone⟩
  · rcases eq_or_ne rc 0 with rfl | hRc
    · exact .inr (.inl (commitSetBatch_ok hSome))
    · exact .inr (.inr ⟨commitSetBatch_failed hSome hRc, hRc⟩)

theorem commitSetBatch_ne_began (p : Parameters) (rc : Int) :
    ∀ event ∈ (p.commitSetBatch rc).2.1, event ≠ .began := by
  rcases p.commitSetBatch_cases rc with ⟨h, -⟩ | h | ⟨h, -⟩
  · rw [h]
    exact commitParamChanges_ne_began
  · rw [h]
    exact List.forall_mem_cons.mpr ⟨nofun, commitParamChanges_ne_began⟩
  · rw [h]
    exact List.forall_mem_singleton.mpr nofun

theorem commitSetBatch_paramBuf (rc : Int) :
    (p.commitSetBatch rc).1.paramBuf = p.paramBuf := by
  rcases p.commitSetBatch_cases rc with ⟨h, -⟩ | h | ⟨h, -⟩ <;> rw [h] <;> rfl

theorem Kept.sent (h : Kept calls events p.paramBuf es) {rc : Int}
    (hOk : (p.commitSetBatch rc).2.2 = 0) (hLast : lastSet t calls = some v) :
    Sent t v (events ++ (p.commitSetBatch rc).2.1) := by
  rcases h.delivered t v hLast with hSent | ⟨e, he, hType, hData⟩
  · exact hSent.append (p.commitSetBatch_ne_began rc)
  · rcases p.commitSetBatch_cases rc with ⟨-, hNone⟩ | hSent | ⟨hFailed, hRc⟩
    · rw [h.batched.count] at hNone
      rw [List.length_eq_zero_iff.mp hNone] at he
      cases he
    · rw [hSent]
      exact ⟨events, .setParms 0 p.paramBuf, p.commitParamChanges.2, rfl,
        ⟨rfl, es, Batched.entries h.batched, e, he, hType, hData⟩, commitParamChanges_ne_began⟩
    · rw [hFailed] at hOk
      exact absurd hOk hRc

theorem Kept.append_events (h : Kept calls events b es) (hOs : ∀ event ∈ os, event ≠ .began) :
    Kept calls (events ++ os) b es :=
  { h with
    delivered := fun t v hLast => (h.delivered t v hLast).imp_left fun hSent => hSent.append hOs }

theorem setAligned_bounds {n : Nat} (h : n + entryHeader ≤ oneMbOfParams - entryHeader) :
    12 + n ≤ setAligned n ∧ setAligned n ≤ oneMbOfParams - entryHeader := by
  have hMega : oneMbOfParams = 1048576 := rfl
  have hHeader : entryHeader = 16 := rfl
  rw [setAligned, alignedSize, sizeT, sizeT]
  omega

theorem getAligned_bounds (h : parmTypeSize + entryHeader - 1 ≤ oneMbOfParams - entryHeader) :
    12 + parmTypeSize ≤ getAligned parmTypeSize := by
  have hMega : oneMbOfParams = 1048576 := rfl
  have hHeader : entryHeader = 16 := rfl
  rw [getAligned, alignedSize, sizeT, sizeT]
  omega

theorem Kept.append_set (h : Kept calls events p.paramBuf es)
    (hNew : ∀ e ∈ es, e.entryType ≠ paramType.toNat)
    (hFits : v.length + entryHeader ≤ oneMbOfParams - entryHeader)
    (hRoom : setAligned v.length ≤ p.paramBuf.totRemSize) (rc : Int) :
    ∃ b' es', p.paramBuf.append paramType v.length (setAligned v.length) v = some b' ∧
      Kept (calls ++ [.addSet paramType v rc]) events b' es' := by
  obtain ⟨b', e, hAppend, hBatched, hAdded, hData⟩ :=
    h.batched.append hNew hRoom (setAligned_bounds hFits).1 (.inr rfl)
  exact ⟨b', _, hAppend, h.addSet hBatched hAdded (hData rfl) rc⟩

theorem Kept.flush (h : Kept calls events p.paramBuf es) :
    Kept calls (events ++ (p.commitSetBatch 0).2.1) (p.commitSetBatch 0).1.initBatchUpdate.paramBuf
      [] where
  batched := .empty
  held := nofun
  delivered := by
    intro t v hLast
    refine .inl (h.sent ?_ hLast)
    rcases p.commitSetBatch_cases 0 with ⟨hCommit, -⟩ | hCommit | ⟨-, hRc⟩
    · rw [hCommit]
    · rw [hCommit]
    · exact absurd rfl hRc

theorem Kept.set_step (h : Kept calls events p.paramBuf es) {rc : Int}
    (hFits : Fits parmTypeSize (.addSet paramType v rc))
    (hSpared : p.Spared parmTypeSize (.addSet paramType v rc)) :
    ∃ p' os es', p.addSetParmEntryToBatch paramType v rc = some (p', os) ∧
      Kept (calls ++ [.addSet paramType v rc]) (events ++ os) p'.paramBuf es' := by
  rw [addSetParmEntryToBatch]
  rcases h.batched.find paramType with ⟨l, old, r, rfl, hType, hFind⟩ | ⟨hFind, hNew⟩
  · have hAligned := (hSpared (some old.offset) hFind).1 old.offset rfl
    rw [h.batched.words.1] at hAligned
    obtain ⟨b', e, hOver, hBatched, hAdded, hData, -⟩ := h.batched.overwrite hType
      (Option.some.inj hAligned) (setAligned_bounds hFits).1 (.inr rfl)
    have hKept := h.addSet hBatched hAdded (hData rfl) rc
    refine ⟨{ p with paramBuf := b' }, [], l ++ e :: r, ?_, ?_⟩
    · simp [hFind, hOver]
    · rwa [List.append_nil]
  · rcases Nat.lt_or_ge p.paramBuf.totRemSize (setAligned v.length) with hFull | hRoom
    · obtain rfl := (hSpared none hFind).2 rfl hFull
      obtain ⟨b', es', hAppend, hKept⟩ :=
        (h.flush).append_set nofun hFits (setAligned_bounds hFits).2 0
      refine ⟨{ (p.commitSetBatch 0).1.initBatchUpdate with paramBuf := b' }, _, es', ?_, hKept⟩
      simp [hFind, hFull, hAppend]
    · obtain ⟨b', es', hAppend, hKept⟩ := h.append_set hNew hFits hRoom rc
      refine ⟨{ p with paramBuf := b' }, [], es', ?_, ?_⟩
      · simp [hFind, Nat.not_lt_of_ge hRoom, hAppend]
      · rwa [List.append_nil]

theorem Kept.get_step (h : Kept calls events p.paramBuf es)
    (hFits : Fits parmTypeSize (.addGet paramType))
    (hSpared : p.Spared parmTypeSize (.addGet paramType)) :
    ∃ p' rc es', p.addGetParmEntryToBatch parmTypeSize paramType = some (p', rc) ∧
      Kept (calls ++ [.addGet paramType]) events p'.paramBuf es' := by
  have hSize := getAligned_bounds hFits
  rw [addGetParmEntryToBatch]
  rcases h.batched.find paramType with ⟨l, old, r, rfl, hType, hFind⟩ | ⟨hFind, hNew⟩
  · obtain ⟨hAligned, hSame⟩ := hSpared (some old.offset) hFind old.offset rfl
    rw [h.batched.words.1] at hAligned
    rw [h.batched.words.2] at hSame
    obtain ⟨b', e, hOver, hBatched, hAdded, -, hData⟩ := h.batched.overwrite hType
      (Option.some.inj hAligned) hSize (.inl rfl)
    refine ⟨{ p with paramBuf := b' }, 0, _, ?_, h.addGet hBatched hAdded ?_⟩
    · simp [hFind, hOver]
    · intro other hOther hOtherType
      have hOnly : other = old :=
        List.inj_on_of_nodup_map h.batched.distinct hOther (by simp) (hOtherType.trans hType.symm)
      rw [hOnly]
      exact hData rfl (Option.some.inj hSame).symm
  · rcases Nat.lt_or_ge p.paramBuf.totRemSize (getAligned parmTypeSize) with hFull | hRoom
    · refine ⟨p, noMemory, es, ?_, h.batched, ?_, ?_⟩
      · simp [hFind, hFull]
      · intro e he w hLast
        rw [lastAdded_append, noteAdded, if_neg (hNew e he).symm] at hLast
        exact h.held e he w hLast
      · intro t w hLast
        rw [lastSet_append] at hLast
        exact h.delivered t w hLast
    · obtain ⟨b', e, hAppend, hBatched, hAdded, -⟩ := h.batched.append hNew hRoom hSize (.inl rfl)
      refine ⟨{ p with paramBuf := b' }, 0, _, ?_, h.addGet hBatched hAdded ?_⟩
      · simp [hFind, Nat.not_lt_of_ge hRoom, hAppend]
      · intro other hOther hType
        exact absurd hType (hNew other hOther)

theorem Kept.step (h : Kept calls events p.paramBuf es) (hFits : Fits parmTypeSize c)
    (hSpared : p.Spared parmTypeSize c) :
    ∃ p' os es', p.call parmTypeSize c = some (p', os) ∧
      Kept (calls ++ [c]) (events ++ os) p'.paramBuf es' := by
  cases c with
  | initBatchUpdate =>
    refine ⟨_, _, [], rfl, .empty, nofun, ?_⟩
    intro t w hLast
    rw [lastSet_append] at hLast
    cases hLast
  | addSet paramType v rc => exact h.set_step hFits hSpared
  | addGet paramType =>
    obtain ⟨p', rc, es', hCall, hKept⟩ := h.get_step hFits hSpared
    refine ⟨p', [], es', ?_, ?_⟩
    · rw [call, hCall]
      rfl
    · rwa [List.append_nil]
  | commitSetBatch rc =>
    refine ⟨_, _, es, rfl, ?_⟩
    rw [commitSetBatch_paramBuf]
    have hKept := h.append_events (p.commitSetBatch_ne_began rc)
    refine ⟨hKept.batched, ?_, ?_⟩
    · intro e he w hLast
      rw [lastAdded_append] at hLast
      exact hKept.held e he w hLast
    · intro t w hLast
      rw [lastSet_append] at hLast
      exact hKept.delivered t w hLast
  | updateParamEntry key value =>
    refine ⟨_, [], es, rfl, h.batched, ?_, ?_⟩
    · intro e he w hLast
      rw [lastAdded_append] at hLast
      exact h.held e he w hLast
    · intro t w hLast
      rw [lastSet_append] at hLast
      rw [List.append_nil]
      exact h.delivered t w hLast

/-- The steps whose entries fit an empty batch and that reach no way of losing parameters. -/
def sparedStep (parmTypeSize : Nat) (_ : List BatchCall) (_ : List BatchEvent) (p : Parameters)
    (c : BatchCall) (_ : List BatchEvent) : Prop :=
  Fits parmTypeSize c ∧ p.Spared parmTypeSize c

theorem Kept.of_run {p₀ : Parameters}
    (run : Lib.Steps (Next parmTypeSize) (sparedStep parmTypeSize) p₀.initBatchUpdate calls events
      p) : ∃ es, Kept calls events p.paramBuf es := by
  refine run.history (I := fun calls events p => ∃ es, Kept calls events p.paramBuf es) ?_ ?_
  · exact ⟨[], .empty, nofun, nofun⟩
  · rintro calls events p c os p' ⟨hFits, hSpared⟩ ⟨es, hKept⟩ hNext
    obtain ⟨p'', os', es', hCall, hStep⟩ := hKept.step hFits hSpared
    obtain ⟨rfl, rfl⟩ := Prod.mk.inj (Option.some.inj (hCall.symm.trans hNext))
    exact ⟨es', hStep⟩

/-- What the batch is for: it is intact, whatever was set is sent by the commit that succeeds, and
the next call stays within the buffer. -/
def LosesNothing (parmTypeSize : Nat) (calls : List BatchCall) (events : List BatchEvent)
    (p : Parameters) (next : BatchCall → Prop) : Prop :=
  (∃ es, Intact calls p.paramBuf es) ∧
  (∀ rc, (p.commitSetBatch rc).2.2 = 0 → ∀ t v, lastSet t calls = some v →
    Sent t v (events ++ (p.commitSetBatch rc).2.1)) ∧
  ∀ c, Fits parmTypeSize c → next c → ∃ p' os, Next parmTypeSize p c os p'

theorem batch_loses_nothing {p₀ : Parameters}
    (run : Lib.Steps (Next parmTypeSize) (sparedStep parmTypeSize) p₀.initBatchUpdate calls events
      p) : LosesNothing parmTypeSize calls events p (p.Spared parmTypeSize) := by
  obtain ⟨es, hKept⟩ := Kept.of_run run
  refine ⟨⟨es, hKept.intact⟩, ?_, ?_⟩
  · intro rc hOk t v hLast
    exact hKept.sent hOk hLast
  · intro c hFits hSpared
    obtain ⟨p', os, -, hCall, -⟩ := hKept.step hFits hSpared
    exact ⟨p', os, hCall⟩

/-- The step of a run in which every entry fits, and nothing is lost if `spared`. -/
def checkedStep (spared : Bool) (parmTypeSize : Nat) (_ : List BatchCall) (_ : List BatchEvent)
    (p : Parameters) (c : BatchCall) : Option (Parameters × List BatchEvent) :=
  if Fits parmTypeSize c ∧ (spared = true → p.Spared parmTypeSize c) then p.call parmTypeSize c
  else none

theorem checkedStep_eq {spared : Bool}
    (h : checkedStep spared parmTypeSize calls events p c = some (p', os)) :
    Next parmTypeSize p c os p' ∧ Fits parmTypeSize c ∧
      (spared = true → p.Spared parmTypeSize c) := by
  rw [checkedStep] at h
  split at h
  · rename_i hOk
    exact ⟨h, hOk⟩
  · cases h

/-- A new object. -/
def unset : Parameters :=
  { paramBuf := .empty, tempMap := [], recordingHint := false, recordingHintNew := false
    zslMode := false, zslModeNew := false, sceneTransitionAuto := false, updateEffects := false
    releaseTorchCamera := false, hasTorch := false }

theorem batch_loses_nothing_overwritten : ∃ calls events p,
    Lib.Steps (Next 8) (sparedStep 8) unset.initBatchUpdate calls events p ∧
      lastSet 1 calls = some [5, 6] ∧ LosesNothing 8 calls events p (p.Spared 8) := by
  have hRun : (Lib.exec (checkedStep true 8) [] [] unset.initBatchUpdate
      [.addSet 1 [1, 2, 3] 0, .addGet 2, .addSet 1 [5, 6] 0]).map (fun _ => ()) = some () := by
    decide +kernel
  obtain ⟨r, hExec, -⟩ := Option.map_eq_some_iff.mp hRun
  have run := Lib.Steps.of_exec (Next 8) (sparedStep 8)
    (fun _ _ _ _ _ _ _ h => ⟨(checkedStep_eq h).1, (checkedStep_eq h).2.1,
      (checkedStep_eq h).2.2 rfl⟩) hExec
  exact ⟨_, _, _, run, rfl, batch_loses_nothing run⟩

/-- The longer value moves the walk on, into the middle of the next entry: it finds the type 1 again
and never the type 2. -/
theorem longer_value_hides_next_entry :
    ¬ ∀ (parmTypeSize : Nat) (p₀ : Parameters) (calls : List BatchCall)
      (events : List BatchEvent) (p : Parameters),
      Lib.Steps (Next parmTypeSize) (fun _ _ _ c _ => Fits parmTypeSize c) p₀.initBatchUpdate
        calls events p →
      LosesNothing parmTypeSize calls events p (fun _ => True) := by
  intro hClaim
  have hRun : (Lib.exec (checkedStep false 8) [] [] unset.initBatchUpdate
      [.addSet 1 [1, 0, 0, 0] 0, .addSet 2 [7] 0, .addSet 1 [1, 2, 3, 4, 5, 6, 7, 8] 0]).map
        (fun r => r.1.paramBuf.entries.map fun es => es.map ParmEntry.entryType) =
      some (some [1, 1]) := by
    decide +kernel
  obtain ⟨r, hExec, hTypes⟩ := Option.map_eq_some_iff.mp hRun
  have run := Lib.Steps.of_exec (Next 8) (fun _ _ _ c _ => Fits 8 c)
    (fun _ _ _ _ _ _ _ h => ⟨(checkedStep_eq h).1, (checkedStep_eq h).2.1⟩) hExec
  obtain ⟨⟨es, hIntact⟩, -⟩ := hClaim 8 unset _ _ _ run
  rw [hIntact.walked, Option.map_some] at hTypes
  have hDistinct := hIntact.distinct
  rw [Option.some.inj hTypes] at hDistinct
  exact absurd hDistinct (by decide)

end Parameters

end KiwiDevice.Hal

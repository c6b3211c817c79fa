import KiwiDevice.Hal.OfflineReprocess
import Mathlib.Data.List.Nodup
import Mathlib.Data.List.Perm.Basic
import Mathlib.Data.List.Induction

/-!
# The mappings of offline reprocessing

What the calls map and what they put on the list of `stop`, for the buffers that they reach. The two
agree where every frame has metadata.
-/

namespace KiwiDevice.Hal

namespace ReachedBuf

variable {v : ReachedBuf}

/-- The mappings that are made for the buffer. -/
def maps (v : ReachedBuf) : List OfflineBuffer :=
  if v.hasMeta = true ∧ v.metaRc ≠ 0 then []
  else
    (if v.hasMeta then [⟨v.stream, .metaBuf, 0⟩] else []) ++
      (if v.inputRc = 0 then [⟨v.stream, .inputBuf, 1⟩] else [])

/-- What is put on the list of `stop` for it. -/
def listed (v : ReachedBuf) : List OfflineBuffer :=
  if v.hasMeta = true ∧ v.metaRc ≠ 0 then []
  else ⟨v.stream, .metaBuf, 0⟩ :: if v.inputRc = 0 then [⟨v.stream, .inputBuf, 1⟩] else []

theorem maps_eq_listed (h : v.hasMeta = true) : v.maps = v.listed := by
  simp [maps, listed, h]

theorem maps_length_le : v.maps.length ≤ v.listed.length := by
  rw [maps, listed]
  split
  · exact Nat.le_refl _
  · cases v.hasMeta <;> simp

theorem maps_length_lt (h : v.hasMeta = false) : v.maps.length < v.listed.length := by
  simp [maps, listed, h]

end ReachedBuf

namespace QCameraReprocessChannel

variable {ch : QCameraReprocessChannel} {src : List SourceStream} {metaBuf : Option OfflineFrameBuf}
  {r : OfflineAnswers} {b : OfflineFrameBuf} {i stream : Nat} {rc : Int}

def madeIn (es : List OfflineEvent) : List OfflineBuffer := es.filterMap OfflineEvent.made

def NoUnmap (es : List OfflineEvent) : Prop := ∀ buf, .unmapBuf buf ∉ es

/-- What a part of the run does: it puts on the list and maps what the reached buffers say. -/
structure Does (vs : List ReachedBuf) (listed : List OfflineBuffer) (es : List OfflineEvent) : Prop where
  listed : listed = vs.flatMap ReachedBuf.listed
  made : madeIn es = vs.flatMap ReachedBuf.maps
  noUnmap : NoUnmap es

theorem does_nil : Does [] [] [] := ⟨rfl, rfl, nofun⟩

theorem Does.append {vs vs' : List ReachedBuf} {l l' : List OfflineBuffer}
    {es es' : List OfflineEvent}
    (h : Does vs l es) (h' : Does vs' l' es') : Does (vs ++ vs') (l ++ l') (es ++ es') where
  listed := by rw [h.listed, h'.listed, List.flatMap_append]
  made := by
    rw [List.flatMap_append, ← h.made, ← h'.made]
    exact List.filterMap_append
  noUnmap := by
    intro buf hMem
    rcases List.mem_append.mp hMem with hMem | hMem
    · exact h.noUnmap buf hMem
    · exact h'.noUnmap buf hMem

theorem reprocessBuf_does (src : List SourceStream) (metaBuf : Option OfflineFrameBuf)
    (r : OfflineAnswers)
    (i : Nat) (b : OfflineFrameBuf) (stream : Nat) :
    Does [⟨stream, metaBuf.isSome, r.metaMap i, r.inputMap i, r.setParameter i⟩]
      (reprocessBuf src metaBuf r i b stream).1 (reprocessBuf src metaBuf r i b stream).2.1 := by
  cases metaBuf with
  | none =>
    rw [reprocessBuf, if_neg (fun h => nomatch h.1)]
    by_cases hInput : r.inputMap i = 0
    · rw [if_neg (not_not_intro hInput)]
      constructor
      · simp [ReachedBuf.listed, hInput]
      · simp [madeIn, OfflineEvent.made, ReachedBuf.maps, hInput]
      · intro buf
        simp
    · rw [if_pos hInput]
      constructor
      · simp [ReachedBuf.listed, hInput]
      · simp [madeIn, OfflineEvent.made, ReachedBuf.maps, hInput]
      · intro buf
        simp
  | some m =>
    by_cases hMeta : r.metaMap i = 0
    · rw [reprocessBuf, if_neg (fun h => h.2 hMeta)]
      by_cases hInput : r.inputMap i = 0
      · rw [if_neg (not_not_intro hInput)]
        constructor
        · simp [ReachedBuf.listed, hMeta, hInput]
        · simp [madeIn, OfflineEvent.made, ReachedBuf.maps, hMeta, hInput]
        · intro buf
          simp
      · rw [if_pos hInput]
        constructor
        · simp [ReachedBuf.listed, hMeta, hInput]
        · simp [madeIn, OfflineEvent.made, ReachedBuf.maps, hMeta, hInput]
        · intro buf
          simp
    · rw [reprocessBuf, if_pos ⟨rfl, hMeta⟩]
      constructor
      · simp [ReachedBuf.listed, hMeta]
      · simp [madeIn, OfflineEvent.made, ReachedBuf.maps, hMeta]
      · intro buf
        simp

theorem reprocessBuf_rc (src : List SourceStream) (metaBuf : Option OfflineFrameBuf)
    (r : OfflineAnswers)
    (i : Nat) (b : OfflineFrameBuf) (stream : Nat) :
    (reprocessBuf src metaBuf r i b stream).2.2 ≠ 0 ↔
      (⟨stream, metaBuf.isSome, r.metaMap i, r.inputMap i, r.setParameter i⟩ : ReachedBuf).failed = true := by
  rw [reprocessBuf, ReachedBuf.failed]
  split
  · rename_i h
    simp [h.1, h.2]
  · rename_i h
    split
    · rename_i hInput
      simp [hInput]
    · rename_i hInput
      rw [not_and_not_right] at h
      cases hSome : metaBuf.isSome <;> simp_all

theorem reprocessLoop_does (bufs : List OfflineFrameBuf) (i : Nat) (rc : Int)
    (buffers : List OfflineBuffer) :
    ∃ l, (ch.reprocessLoop src metaBuf r bufs i rc buffers).1 = buffers ++ l ∧
      Does (ch.reachedFrom metaBuf.isSome r bufs i) l (ch.reprocessLoop src metaBuf r bufs i rc buffers).2.1 := by
  induction bufs generalizing i rc buffers with
  | nil => exact ⟨[], (List.append_nil _).symm, does_nil⟩
  | cons b rest ih =>
    rw [reprocessLoop, reachedFrom]
    cases hStream : ch.streamFor b with
    | none => exact ih (i + 1) rc buffers
    | some stream =>
      have hOne := reprocessBuf_does src metaBuf r i b stream
      have hRc := reprocessBuf_rc src metaBuf r i b stream
      dsimp only
      by_cases hFailed : (reprocessBuf src metaBuf r i b stream).2.2 ≠ 0
      · rw [if_pos hFailed, if_pos (hRc.mp hFailed)]
        exact ⟨_, rfl, hOne⟩
      · obtain ⟨l, hList, hRest⟩ := ih (i + 1) (reprocessBuf src metaBuf r i b stream).2.2
          (buffers ++ (reprocessBuf src metaBuf r i b stream).1)
        rw [if_neg hFailed, if_neg fun h => hFailed (hRc.mpr h)]
        exact ⟨_, hList.trans (List.append_assoc ..), hOne.append hRest⟩

theorem reachedFrom_nil (h : ch.mStreams.length < 1) (hasMeta : Bool) (bufs : List OfflineFrameBuf)
    (i : Nat) :
    ch.reachedFrom hasMeta r bufs i = [] := by
  have hNone : ∀ b, ch.streamFor b = none := by
    intro b
    rw [streamFor, getStreamBySrouceHandle, Nat.lt_one_iff.mp h]
    rfl
  induction bufs generalizing i with
  | nil => rfl
  | cons b rest ih =>
    rw [reachedFrom, hNone b]
    exact ih (i + 1)

theorem doReprocessOffline_does (frame : Option (List OfflineFrameBuf)) (r : OfflineAnswers)
    (buffers : List OfflineBuffer) :
    ∃ l, (ch.doReprocessOffline frame r buffers).1 = buffers ++ l ∧
      Does (ch.reachedIn frame r) l (ch.doReprocessOffline frame r buffers).2.1 := by
  unfold doReprocessOffline reachedIn
  split
  · rename_i hEmpty
    refine ⟨[], (List.append_nil _).symm, ?_⟩
    split
    · rw [reachedFrom_nil hEmpty]
      exact does_nil
    · exact does_nil
  · cases ch.pSrcChannel with
    | none => exact ⟨[], (List.append_nil _).symm, does_nil⟩
    | some src =>
      cases frame with
      | none => exact ⟨[], (List.append_nil _).symm, does_nil⟩
      | some bufs => exact reprocessLoop_does bufs 0 0 buffers

theorem session_eq (calls : List (Option (List OfflineFrameBuf) × OfflineAnswers))
    (buffers : List OfflineBuffer) :
    ∃ l es, ch.session calls buffers = es ++ (buffers ++ l).map .unmapBuf ∧
      Does (ch.reached calls) l es := by
  induction calls generalizing buffers with
  | nil => exact ⟨[], [], by rw [List.append_nil]; rfl, does_nil⟩
  | cons call rest ih =>
    obtain ⟨l, hList, hCall⟩ := ch.doReprocessOffline_does call.1 call.2 buffers
    obtain ⟨l', es, hRest, hDoes⟩ := ih (buffers ++ l)
    refine ⟨l ++ l', _ ++ es, ?_, hCall.append hDoes⟩
    rw [session, hList, hRest, List.append_assoc, List.append_assoc]

/-! ## Balance -/

variable {vs : List ReachedBuf} {l : List OfflineBuffer} {es : List OfflineEvent}

theorem countP_made (es : List OfflineEvent) (buf : OfflineBuffer) :
    es.countP (·.made = some buf) = (madeIn es).count buf := by
  rw [madeIn, List.count_filterMap]
  refine List.countP_congr fun e _ => ?_
  simp

theorem balanced_iff :
    (∀ buf, (vs.flatMap ReachedBuf.listed).count buf = (vs.flatMap ReachedBuf.maps).count buf) ↔
    ∀ v ∈ vs, v.hasMeta = true := by
  constructor
  · intro h
    have hLength := (List.perm_iff_count.mpr h).length_eq
    clear h
    have hLe : ∀ vs : List ReachedBuf,
        (vs.flatMap ReachedBuf.maps).length ≤ (vs.flatMap ReachedBuf.listed).length := by
      intro vs
      induction vs with
      | nil => exact Nat.le_refl _
      | cons v vs ih =>
        rw [List.flatMap_cons, List.flatMap_cons, List.length_append, List.length_append]
        exact Nat.add_le_add ReachedBuf.maps_length_le ih
    induction vs with
    | nil => exact nofun
    | cons v vs ih =>
      rw [List.flatMap_cons, List.flatMap_cons, List.length_append, List.length_append] at hLength
      have hOne := ReachedBuf.maps_length_le (v := v)
      have hRest := hLe vs
      refine List.forall_mem_cons.mpr ⟨?_, ih (by omega)⟩
      by_contra hNone
      have hLt := ReachedBuf.maps_length_lt (Bool.not_eq_true _ ▸ hNone)
      omega
  · intro h buf
    have hSame : vs.flatMap ReachedBuf.maps = vs.flatMap ReachedBuf.listed := by
      rw [List.flatMap_def, List.flatMap_def]
      exact congrArg _ (List.map_congr_left fun v hv => ReachedBuf.maps_eq_listed (h v hv))
    rw [hSame]

/-! ## No mapping twice -/

theorem stillMapped_iff (h : NoUnmap es) (buf : OfflineBuffer) :
    StillMapped buf es ↔ buf ∈ madeIn es := by
  rw [madeIn, List.mem_filterMap]
  constructor
  · rintro ⟨before, x, since, rfl, hMade, -⟩
    exact ⟨x, List.mem_append_right _ List.mem_cons_self, hMade⟩
  · rintro ⟨x, hx, hMade⟩
    obtain ⟨before, since, rfl⟩ := List.append_of_mem hx
    refine ⟨before, x, since, rfl, hMade, fun y hy hUnmap => h buf ?_⟩
    exact List.mem_append_right _ (List.mem_cons_of_mem _ (hUnmap ▸ hy))

theorem fresh_iff (h : NoUnmap es) :
    Lib.Each (fun before e => ∀ buf, e.made = some buf → ¬ StillMapped buf before) es ↔ (madeIn es).Nodup := by
  induction es using List.reverseRecOn with
  | nil => exact ⟨fun _ => List.nodup_nil, fun _ => Lib.each_nil⟩
  | append_singleton es e ih =>
    have hBefore : NoUnmap es := fun buf hMem => h buf (List.mem_append_left _ hMem)
    have hMade : madeIn (es ++ [e]) = madeIn es ++ e.made.toList := by
      rw [madeIn, List.filterMap_append]
      cases hMade : e.made <;> simp [madeIn, hMade]
    rw [Lib.each_snoc, ih hBefore, hMade, List.nodup_append']
    refine and_congr_right fun _ => ?_
    constructor
    · intro hFresh
      refine ⟨by cases e.made <;> simp, fun buf hBuf hNew => ?_⟩
      exact hFresh buf (Option.mem_toList.mp hNew) ((stillMapped_iff hBefore buf).mpr hBuf)
    · rintro ⟨-, hApart⟩ buf hNew hStill
      exact hApart ((stillMapped_iff hBefore buf).mp hStill) (Option.mem_toList.mpr hNew)

end QCameraReprocessChannel

namespace ReachedBuf

variable {v v' : ReachedBuf} {buf : OfflineBuffer}

theorem maps_nodup (v : ReachedBuf) : v.maps.Nodup := by
  rw [maps]
  split
  · exact List.nodup_nil
  · by_cases hInput : v.inputRc = 0
    · cases v.hasMeta <;> simp [hInput]
    · cases v.hasMeta <;> simp [hInput]

theorem of_mem_maps (h : buf ∈ v.maps) :
    buf.stream = v.stream ∧ (v.hasMeta = true → v.metaRc = 0) := by
  rw [maps] at h
  split at h
  · cases h
  · rename_i hMapped
    rw [not_and_not_right] at hMapped
    refine ⟨?_, hMapped⟩
    rcases List.mem_append.mp h with h | h
    · split at h
      · rw [List.mem_singleton.mp h]
      · cases h
    · split at h
      · rw [List.mem_singleton.mp h]
      · cases h

theorem meta_mem_maps (hMeta : v.hasMeta = true) (hRc : v.metaRc = 0) :
    ⟨v.stream, .metaBuf, 0⟩ ∈ v.maps := by
  simp [maps, hMeta, hRc]

/-- Two buffers with metadata share a mapping where they are for one stream and their metadata
is mapped. -/
theorem disjoint_iff (h : v.hasMeta = true) (h' : v'.hasMeta = true) :
    v.maps.Disjoint v'.maps ↔ (v.metaRc = 0 → v'.metaRc = 0 → v.stream ≠ v'.stream) := by
  constructor
  · intro hApart hRc hRc' hSame
    exact hApart (meta_mem_maps h hRc) (hSame ▸ meta_mem_maps h' hRc')
  · intro hApart buf hMem hMem'
    have hOne := of_mem_maps hMem
    have hOther := of_mem_maps hMem'
    exact hApart (hOne.2 h) (hOther.2 h') (hOne.1.symm.trans hOther.1)

end ReachedBuf

namespace QCameraReprocessChannel

variable {ch : QCameraReprocessChannel} {vs : List ReachedBuf}

theorem nodup_maps_iff (h : ∀ v ∈ vs, v.hasMeta = true) : (vs.flatMap ReachedBuf.maps).Nodup ↔
    vs.Pairwise fun v v' => v.metaRc = 0 → v'.metaRc = 0 → v.stream ≠ v'.stream := by
  rw [List.nodup_flatMap, and_iff_right fun v _ => v.maps_nodup]
  exact List.Pairwise.iff_of_mem fun hv hv' => ReachedBuf.disjoint_iff (h _ hv) (h _ hv')

/-- The mappings of a session balance exactly where every buffer that is reached has metadata and no
two of one stream have it mapped. -/
theorem session_balances_iff (ch : QCameraReprocessChannel)
    (calls : List (Option (List OfflineFrameBuf) × OfflineAnswers)) :
    MappingsBalance (ch.session calls []) ↔
      (∀ v ∈ ch.reached calls, v.hasMeta = true) ∧
      (ch.reached calls).Pairwise fun v v' => v.metaRc = 0 → v'.metaRc = 0 →
      v.stream ≠ v'.stream := by
  obtain ⟨l, es, hSession, hDoes⟩ := ch.session_eq calls []
  rw [List.nil_append] at hSession
  have hUnmaps : ∀ buf, (ch.session calls []).countP (· = .unmapBuf buf) = l.count buf := by
    intro buf
    have hNone : es.countP (· = .unmapBuf buf) = 0 :=
      List.countP_eq_zero.mpr fun e he hUnmap => hDoes.noUnmap buf (of_decide_eq_true hUnmap ▸ he)
    rw [hSession, List.countP_append, hNone, Nat.zero_add, List.countP_map]
    refine List.countP_congr fun x _ => ?_
    simp
  have hMaps : ∀ buf, (ch.session calls []).countP (·.made = some buf) = (madeIn es).count buf := by
    intro buf
    have hNone : (l.map OfflineEvent.unmapBuf).countP (·.made = some buf) = 0 := by
      rw [List.countP_map]
      refine List.countP_eq_zero.mpr fun x _ => ?_
      simp [OfflineEvent.made]
    rw [hSession, List.countP_append, hNone, Nat.add_zero, countP_made]
  have hBalanced : (∀ buf, (ch.session calls []).countP (· = .unmapBuf buf) =
      (ch.session calls []).countP (·.made = some buf)) ↔ ∀ v ∈ ch.reached calls, v.hasMeta = true := by
    rw [← balanced_iff, ← hDoes.listed, ← hDoes.made]
    exact forall_congr' fun buf => by rw [hUnmaps, hMaps]
  have hFresh : Lib.Each (fun before e => ∀ buf, e.made = some buf → ¬ StillMapped buf before)
      (ch.session calls []) ↔ ((ch.reached calls).flatMap ReachedBuf.maps).Nodup := by
    rw [hSession, Lib.each_append, fresh_iff hDoes.noUnmap, hDoes.made]
    intro before e he buf hMade
    obtain ⟨x, -, rfl⟩ := List.mem_map.mp he
    cases hMade
  constructor
  · rintro ⟨hCounts, hEach⟩
    have hMeta := hBalanced.mp hCounts
    exact ⟨hMeta, (nodup_maps_iff hMeta).mp (hFresh.mp hEach)⟩
  · rintro ⟨hMeta, hOnce⟩
    exact ⟨hBalanced.mpr hMeta, hFresh.mpr ((nodup_maps_iff hMeta).mpr hOnce)⟩

def oneStream : QCameraReprocessChannel where
  handle := 1
  mStreams := [⟨1, false⟩]
  mSrcStreamHandles := fun _ => 5
  pSrcChannel := some [⟨5, false, 1⟩]

/-- A frame without metadata: `stop` unmaps metadata that was never mapped. -/
theorem frame_without_metadata : ¬ MappingsBalance
    (oneStream.session [(some [⟨5, 30, 4096, 0, 0, none⟩], ⟨fun _ => 0, fun _ => 0, fun _ => 0⟩)] []) := by
  intro h
  have hMeta := h.balanced ⟨0, .metaBuf, 0⟩
  revert hMeta
  decide

end QCameraReprocessChannel

end KiwiDevice.Hal

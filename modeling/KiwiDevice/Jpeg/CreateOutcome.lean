import KiwiDevice.Jpeg.CreateSession
import Mathlib.Data.List.Perm.Subperm

/-!
# All or nothing

When `mm_jpeg_create_session` leaves either a whole chain of sessions and the result 0, or what was
there before and another result.
-/

namespace KiwiDevice.Jpeg

/-- The id names a session whose chain has `num` active sessions, all of them queued, and all output
buffers are queued. -/
structure Encoder.Complete (obj : Encoder) (clnt num numDstBufs sessionId : Nat) : Prop where
  chain : ∃ first sessionHandleQ outBufQ, first < MM_JPEG_MAX_SESSION ∧
    sessionId = sessionIdOf (first <<< 8 ||| clnt) ∧
    (sessionChain (obj.next clnt) (num + 1) (some first)).length = num ∧
    (∀ i ∈ sessionChain (obj.next clnt) (num + 1) (some first),
      (obj.session clnt i).active = true ∧
        (obj.session clnt i).sessionHandleQ = some sessionHandleQ ∧
        (obj.session clnt i).outBufQ = some outBufQ ∧ i ∈ obj.handleQ sessionHandleQ) ∧
    ∀ k < numDstBufs, k + 1 ∈ obj.outBufQ outBufQ

/-- The result 0 says that the chain is complete, and any other that nothing is left of the call. -/
structure AllOrNothing (obj : Encoder) (clnt num numDstBufs : Nat) (r : Int × Nat × Encoder) :
    Prop where
  success : r.1 = 0 ↔ r.2.2.Complete clnt num numDstBufs r.2.1
  slots : r.1 ≠ 0 → ∀ c, ∀ i < MM_JPEG_MAX_SESSION,
    (obj.session c i).active = false → (r.2.2.session c i).active = false
  count : r.1 ≠ 0 → r.2.2.numSessions = obj.numSessions
  id : r.1 ≠ 0 → r.2.1 = 0

/-- There is a slot for every session, and every step succeeds. -/
structure Succeeds (build : JpegBuild) (answers : CreateAnswers) (clientHdl : Nat)
    (params : EncodeParams) (obj : Encoder) : Prop where
  slots : numOmxSessions build params ≤ (obj.freeSlots (getIndexByHandler clientHdl)).length
  handles : ∀ i < numOmxSessions build params, answers.getHandle i = 0 ∧ answers.configure i = 0 ∧
    answers.enqHandle i = true
  outBufs : ∀ k < params.numDstBufs, answers.enqOutBuf k = true

/-- The arguments are valid, and a queue cannot be allocated or every step succeeds. -/
structure CreateMeets (build : JpegBuild) (answers : CreateAnswers) (clientHdl : Nat)
    (params : EncodeParams) (obj : Encoder) : Prop where
  srcBufs : params.numSrcBufs ≤ MM_JPEG_MAX_BUF
  dstBufs : params.numDstBufs ≤ MM_JPEG_MAX_BUF
  client : getIndexByHandler clientHdl < MAX_JPEG_CLIENT_NUM
  steps : answers.sessionHandleQ = none ∨ answers.outBufQ = none ∨
    Succeeds build answers clientHdl params obj

section Outcome

variable {build : JpegBuild} {answers : CreateAnswers} {params : EncodeParams}
  {clnt clientHdl num numDstBufs sessionId sessionHandleQ outBufQ a i : Nat}
  {slots front rest is : List Nat}
  {obj : Encoder} {l l' : CreateLocals}

theorem slotKey_lt (hSlot : i < MM_JPEG_MAX_SESSION) (hClient : clnt < MAX_JPEG_CLIENT_NUM) :
    i <<< 8 ||| clnt = i * 256 + clnt ∧ i * 256 + clnt < 2 ^ 16 := by
  have hSlot' : i < 10 := hSlot
  have hClient' : clnt < 8 := hClient
  have hWidth : clnt < 2 ^ 8 := by omega
  rw [← Nat.shiftLeft_add_eq_or_of_lt hWidth, Nat.shiftLeft_eq]
  omega

theorem slot_of_sessionId (hClient : clnt < MAX_JPEG_CLIENT_NUM) (hSlot : i < MM_JPEG_MAX_SESSION)
    (hSlot' : a < MM_JPEG_MAX_SESSION)
    (hSame : sessionIdOf (i <<< 8 ||| clnt) = sessionIdOf (a <<< 8 ||| clnt)) : i = a := by
  obtain ⟨hKey, hLt⟩ := slotKey_lt hSlot hClient
  obtain ⟨hKey', hLt'⟩ := slotKey_lt hSlot' hClient
  rw [hKey, hKey'] at hSame
  have hEq := sessionIdOf_inj hLt hLt' hSame
  omega

/-- The chain of a complete result is the one that the id names. -/
theorem Encoder.Complete.chain_eq (hComplete : obj.Complete clnt num numDstBufs sessionId)
    (hClient : clnt < MAX_JPEG_CLIENT_NUM) (hSlots : ∀ i ∈ is, i < MM_JPEG_MAX_SESSION)
    (hChained : Chained (obj.next clnt) is) (hLength : is.length ≤ num)
    (hId : sessionId = firstId clnt is) :
    ∃ sessionHandleQ outBufQ, is.length = num ∧
      (∀ i ∈ is, (obj.session clnt i).active = true ∧
        (obj.session clnt i).sessionHandleQ = some sessionHandleQ ∧
        (obj.session clnt i).outBufQ = some outBufQ ∧ i ∈ obj.handleQ sessionHandleQ) ∧
      ∀ k < numDstBufs, k + 1 ∈ obj.outBufQ outBufQ := by
  obtain ⟨first, q, oq, hFirst, hNamed, hNum, hSessions, hOut⟩ := hComplete.chain
  have hChain := hChained.sessionChain_eq (Nat.lt_succ_of_le hLength)
  cases is with
  | nil => exact absurd (hNamed.symm.trans hId) (sessionIdOf_ne_zero _)
  | cons b is =>
    have hSame : first = b := slot_of_sessionId hClient hFirst (hSlots b List.mem_cons_self)
      (hNamed.symm.trans hId)
    rw [hSame, ← List.head?_cons (l := is), hChain] at hNum hSessions
    exact ⟨q, oq, hNum, hSessions, hOut⟩

theorem freeSlots_lt (hMem : i ∈ obj.freeSlots clnt) :
    i < MM_JPEG_MAX_SESSION ∧ (obj.session clnt i).active = false := by
  rw [Encoder.freeSlots, List.mem_filter, List.mem_range] at hMem
  simpa using hMem

theorem Encoder.not_complete_zero : ¬ obj.Complete clnt num numDstBufs 0 := by
  intro hComplete
  obtain ⟨first, q, oq, -, hNamed, -⟩ := hComplete.chain
  exact sessionIdOf_ne_zero _ hNamed.symm

/-- No early end of the loop gives all or nothing. -/
theorem CreateFails.not_allOrNothing (hFails : CreateFails answers clnt sessionHandleQ outBufQ
      (obj.freeSlots clnt) num l) (hClient : clnt < MAX_JPEG_CLIENT_NUM) :
    ¬ AllOrNothing obj clnt num numDstBufs (l.rc, l.sessionId, l.obj) := by
  intro hAll
  cases hFails with
  | full hCreated hLess =>
    have hComplete := hAll.success.mp hCreated.rc
    obtain ⟨-, -, hNum, -⟩ := hComplete.chain_eq hClient (fun i hMem => (freeSlots_lt hMem).1)
      hCreated.chained hLess.le hCreated.id
    exact absurd hNum hLess.ne
  | noHandle front a hLess hAnswer hRc hChained hId hSlots hActive =>
    have hComplete := hAll.success.mp hRc
    have hFirst : firstId clnt front = firstId clnt (front ++ [a]) := by
      cases front with
      | nil => exact absurd (hId ▸ hComplete) Encoder.not_complete_zero
      | cons b front => rfl
    obtain ⟨q, oq, -, hSessions, -⟩ := hComplete.chain_eq hClient
      (fun b hMem => (freeSlots_lt (hSlots b hMem)).1) hChained (by simp; omega)
      (hId.trans hFirst)
    rw [(hSessions a (by simp)).1] at hActive
    cases hActive
  | notConfigured i a hLess hAnswer hRc hSlot hActive =>
    obtain ⟨hLt, hFree⟩ := freeSlots_lt hSlot
    have hClean := hAll.slots hRc clnt a hLt hFree
    rw [hActive] at hClean
    cases hClean

theorem CreateFails.not_succeeds (hFails : CreateFails answers (getIndexByHandler clientHdl)
      sessionHandleQ outBufQ (obj.freeSlots (getIndexByHandler clientHdl))
      (numOmxSessions build params) l) :
    ¬ Succeeds build answers clientHdl params obj := by
  intro hSucceeds
  cases hFails with
  | full hCreated hLess => exact absurd hSucceeds.slots hLess.not_ge
  | noHandle front a hLess hAnswer => exact hAnswer (hSucceeds.handles front.length hLess).1
  | notConfigured i a hLess hAnswer => exact hAnswer (hSucceeds.handles i hLess).2.1

theorem foldl_enqOutBuf (ks : List Nat) :
    (ks.foldl (fun obj k => obj.enqOutBuf outBufQ (k + 1) (answers.enqOutBuf k)) obj).session =
        obj.session ∧
      (ks.foldl (fun obj k => obj.enqOutBuf outBufQ (k + 1) (answers.enqOutBuf k)) obj).handleQ =
        obj.handleQ ∧
      (ks.foldl (fun obj k => obj.enqOutBuf outBufQ (k + 1) (answers.enqOutBuf k)) obj).outBufQ
          outBufQ =
        obj.outBufQ outBufQ ++ (ks.filter answers.enqOutBuf).map (· + 1) := by
  induction ks generalizing obj with
  | nil => simp
  | cons k ks ih =>
    obtain ⟨hSession, hHandle, hOut⟩ := @ih (obj.enqOutBuf outBufQ (k + 1) (answers.enqOutBuf k))
    rw [List.foldl_cons, hSession, hHandle, hOut]
    cases hRoom : answers.enqOutBuf k with
    | true => simp [Encoder.enqOutBuf, hRoom]
    | false => simp [Encoder.enqOutBuf, hRoom]

theorem queueOutBufs_eq (answers : CreateAnswers) (params : EncodeParams) (outBufQ : Nat)
    (obj : Encoder) :
    (queueOutBufs answers params outBufQ obj).session = obj.session ∧
      (queueOutBufs answers params outBufQ obj).handleQ = obj.handleQ ∧
      (queueOutBufs answers params outBufQ obj).outBufQ outBufQ = obj.outBufQ outBufQ ++
        ((List.range params.numDstBufs).filter answers.enqOutBuf).map (· + 1) :=
  foldl_enqOutBuf _

/-- All slots of the chain are queued iff every node found room. -/
theorem queuedSlots_all_iff (hNodup : front.Nodup) :
    (∀ a ∈ front, a ∈ queuedSlots answers front) ↔
      ∀ i < front.length, answers.enqHandle i = true := by
  constructor
  · intro hAll i hLess
    have hLength : front.length ≤ (queuedSlots answers front).length :=
      (hNodup.subperm hAll).length_le
    rw [queuedSlots, List.length_map] at hLength
    have hWhole : (front.zipIdx.filter fun p => answers.enqHandle p.2).length =
        front.zipIdx.length := by
      apply Nat.le_antisymm (List.length_filter_le _ _)
      rwa [List.length_zipIdx]
    rw [List.length_filter_eq_length_iff] at hWhole
    exact hWhole (front[i], i) (by simp [List.mem_zipIdx_iff_getElem?])
  · intro hRoom a hMem
    obtain ⟨i, hLess, rfl⟩ := List.mem_iff_getElem.mp hMem
    rw [queuedSlots, List.mem_map]
    refine ⟨(front[i], i), ?_, rfl⟩
    rw [List.mem_filter]
    exact ⟨by simp [List.mem_zipIdx_iff_getElem?], hRoom i hLess⟩

/-- After the whole loop the result is complete iff no node was missing. -/
theorem Created.complete_iff (params : EncodeParams)
    (hCreated : Created answers clnt sessionHandleQ outBufQ front rest l)
    (hClient : clnt < MAX_JPEG_CLIENT_NUM) (hSlots : ∀ a ∈ front, a < MM_JPEG_MAX_SESSION)
    (hPos : 0 < front.length) :
    (queueOutBufs answers params outBufQ l.obj).Complete clnt front.length params.numDstBufs
        l.sessionId ↔
      (∀ i < front.length, answers.enqHandle i = true) ∧
        ∀ k < params.numDstBufs, answers.enqOutBuf k = true := by
  obtain ⟨hSession, hHandle, hOut⟩ :=
    queueOutBufs_eq answers params outBufQ l.obj
  have hNext : (queueOutBufs answers params outBufQ l.obj).next clnt = l.obj.next clnt := by
    funext i
    rw [Encoder.next, hSession, Encoder.next]
  have hNodup := (List.nodup_append.mp hCreated.nodup).1
  rw [hCreated.outBufs, List.nil_append] at hOut
  rw [← queuedSlots_all_iff hNodup]
  constructor
  · intro hComplete
    obtain ⟨q, oq, -, hSessions, hBufs⟩ := hComplete.chain_eq hClient hSlots
      (hNext ▸ hCreated.chained) le_rfl hCreated.id
    rw [hSession, hHandle] at hSessions
    constructor
    · intro a hMem
      obtain ⟨-, hField, -, hQueued⟩ := hSessions a hMem
      have hFields := hCreated.fields a hMem
      simp only [Encoder.fields, Prod.mk.injEq] at hFields
      rw [hFields.2.1, Option.some.injEq] at hField
      rwa [← hField, hCreated.handles] at hQueued
    · intro k hLess
      obtain ⟨a, hMem⟩ := List.exists_mem_of_length_pos hPos
      obtain ⟨-, -, hField, -⟩ := hSessions a hMem
      have hFields := hCreated.fields a hMem
      simp only [Encoder.fields, Prod.mk.injEq] at hFields
      rw [hFields.2.2, Option.some.injEq] at hField
      have hBuf := hBufs k hLess
      rw [← hField, hOut, List.mem_map] at hBuf
      obtain ⟨k', hFilter, hSame⟩ := hBuf
      rw [← Nat.succ.inj hSame]
      exact (List.mem_filter.mp hFilter).2
  · rintro ⟨hQueued, hRoom⟩
    constructor
    have hChain := hCreated.chained.sessionChain_eq (Nat.lt_succ_self front.length)
    have hId := hCreated.id
    cases front with
    | nil => cases hPos
    | cons first front =>
      rw [List.head?_cons, ← hNext] at hChain
      refine ⟨first, sessionHandleQ, outBufQ, hSlots first List.mem_cons_self, hId, ?_, ?_, ?_⟩
      · rw [hChain]
      · rw [hChain]
        intro a hMem
        have hFields := hCreated.fields a hMem
        simp only [Encoder.fields, Prod.mk.injEq] at hFields
        rw [hSession, hHandle, hCreated.handles]
        exact ⟨hFields.1, hFields.2.1, hFields.2.2, hQueued a hMem⟩
      · intro k hLess
        rw [hOut, List.mem_map]
        exact ⟨k, List.mem_filter.mpr ⟨List.mem_range.mpr hLess, hRoom k hLess⟩, rfl⟩

theorem numOmxSessions_pos : 0 < numOmxSessions build params := by
  rw [numOmxSessions]
  split
  · exact build.pos
  · exact Nat.one_pos

/-- Both queues are there: what the loop leaves decides. -/
theorem createSession_queues_iff (hQueue : answers.sessionHandleQ = some sessionHandleQ)
    (hOut : answers.outBufQ = some outBufQ) (hSrc : params.numSrcBufs ≤ MM_JPEG_MAX_BUF)
    (hDst : params.numDstBufs ≤ MM_JPEG_MAX_BUF)
    (hClient : getIndexByHandler clientHdl < MAX_JPEG_CLIENT_NUM) :
    AllOrNothing obj (getIndexByHandler clientHdl) (numOmxSessions build params) params.numDstBufs
        (createSession build answers clientHdl params obj) ↔
      Succeeds build answers clientHdl params obj := by
  let start : Encoder :=
    { obj with
      handleQ := Function.update obj.handleQ sessionHandleQ []
      outBufQ := Function.update obj.outBufQ outBufQ [] }
  have hStart : Created answers (getIndexByHandler clientHdl) sessionHandleQ outBufQ []
      (obj.freeSlots (getIndexByHandler clientHdl)) ⟨start, 0, none, 0⟩ := by
    constructor
    · exact List.nodup_range.filter _
    · rfl
    · rfl
    · rfl
    · rfl
    · exact trivial
    · simp
    · simp [start, queuedSlots]
    · simp [start]
    · simp
  obtain ⟨ok, l, hLoop, hEnd⟩ := hStart.loop build clientHdl params
    (Nat.zero_add (numOmxSessions build params))
  have hResult : createSession build answers clientHdl params obj =
      if ok then (l.rc, l.sessionId, queueOutBufs answers params outBufQ l.obj)
      else (l.rc, l.sessionId, l.obj) := by
    have hLoop' : createLoop build answers (getIndexByHandler clientHdl) clientHdl params
        sessionHandleQ outBufQ (numOmxSessions build params) 0 ⟨start, 0, none, 0⟩ = (ok, l) :=
      hLoop
    simp only [createSession, hQueue, hOut, Nat.not_lt.mpr hSrc, Nat.not_lt.mpr hDst, or_self,
      if_false, ge_iff_le, Nat.not_le.mpr hClient]
    rw [hLoop']
    cases ok
    · rfl
    · rfl
  rw [hResult]
  cases ok with
  | false =>
    rw [List.nil_append] at hEnd
    constructor
    · intro hAll
      exact absurd hAll (hEnd.not_allOrNothing hClient)
    · intro hSucceeds
      exact absurd hSucceeds hEnd.not_succeeds
  | true =>
    obtain ⟨front, rest, hSlots, hLength, hCreated⟩ := hEnd
    rw [List.nil_append] at hSlots
    have hIn : ∀ a ∈ front, a < MM_JPEG_MAX_SESSION := by
      intro a hMem
      have hFree : a ∈ obj.freeSlots (getIndexByHandler clientHdl) := by
        rw [← hSlots]
        exact List.mem_append_left _ hMem
      exact (freeSlots_lt hFree).1
    have hPos : 0 < front.length := by
      rw [hLength]
      exact numOmxSessions_pos
    have hComplete := hCreated.complete_iff params hClient hIn hPos
    rw [hLength] at hComplete
    constructor
    · intro hAll
      obtain ⟨hRoom, hBufs⟩ := hComplete.mp (hAll.success.mp hCreated.rc)
      constructor
      · rw [← hSlots, ← hLength, List.length_append]
        exact Nat.le_add_right _ _
      · intro i hLess
        obtain ⟨hHandle, hConfigure⟩ := hCreated.answers i (by rwa [hLength])
        exact ⟨hHandle, hConfigure, hRoom i hLess⟩
      · exact hBufs
    · intro hSucceeds
      have hWhole := hComplete.mpr
        ⟨fun i hLess => (hSucceeds.handles i hLess).2.2, hSucceeds.outBufs⟩
      constructor
      · exact ⟨fun _ => hWhole, fun _ => hCreated.rc⟩
      · exact fun hRc => absurd hCreated.rc hRc
      · exact fun hRc => absurd hCreated.rc hRc
      · exact fun hRc => absurd hCreated.rc hRc

/-- A result other than 0 with the sessions as they were is nothing. -/
theorem allOrNothing_of_refused {obj' : Encoder} (hSession : obj'.session = obj.session)
    (hCount : obj'.numSessions = obj.numSessions) :
    AllOrNothing obj clnt num numDstBufs (-1, 0, obj') := by
  constructor
  · constructor
    · intro hZero
      cases hZero
    · intro hComplete
      exact absurd hComplete Encoder.not_complete_zero
  · intro _ c i _ hFree
    rw [hSession]
    exact hFree
  · exact fun _ => hCount
  · exact fun _ => rfl

theorem not_allOrNothing_zero : ¬ AllOrNothing obj clnt num numDstBufs (0, 0, obj) := by
  intro hAll
  exact Encoder.not_complete_zero (hAll.success.mp rfl)

theorem createSession_allOrNothing_iff :
    AllOrNothing obj (getIndexByHandler clientHdl) (numOmxSessions build params) params.numDstBufs
        (createSession build answers clientHdl params obj) ↔
      CreateMeets build answers clientHdl params obj := by
  by_cases hBufs : params.numSrcBufs > MM_JPEG_MAX_BUF ∨ params.numDstBufs > MM_JPEG_MAX_BUF
  · rw [createSession, if_pos hBufs]
    constructor
    · intro hAll
      exact absurd hAll not_allOrNothing_zero
    · intro hMeets
      have hSrc := hMeets.srcBufs
      have hDst := hMeets.dstBufs
      omega
  · obtain ⟨hSrc, hDst⟩ := not_or.mp hBufs
    rw [Nat.not_lt] at hSrc hDst
    by_cases hClient : getIndexByHandler clientHdl < MAX_JPEG_CLIENT_NUM
    · cases hQueue : answers.sessionHandleQ with
      | none =>
        have hMeets : CreateMeets build answers clientHdl params obj :=
          ⟨hSrc, hDst, hClient, .inl hQueue⟩
        simp only [createSession, if_neg hBufs, if_neg (Nat.not_le.mpr hClient), hQueue, hMeets,
          iff_true]
        exact allOrNothing_of_refused rfl rfl
      | some sessionHandleQ =>
        cases hOut : answers.outBufQ with
        | none =>
          have hMeets : CreateMeets build answers clientHdl params obj :=
            ⟨hSrc, hDst, hClient, .inr (.inl hOut)⟩
          simp only [createSession, if_neg hBufs, if_neg (Nat.not_le.mpr hClient), hQueue, hOut,
            hMeets, iff_true]
          exact allOrNothing_of_refused rfl rfl
        | some outBufQ =>
          rw [createSession_queues_iff hQueue hOut hSrc hDst hClient]
          constructor
          · exact fun hSucceeds => ⟨hSrc, hDst, hClient, .inr (.inr hSucceeds)⟩
          · intro hMeets
            simpa [hQueue, hOut] using hMeets.steps
    · simp only [createSession, if_neg hBufs, if_pos (Nat.not_lt.mp hClient)]
      constructor
      · intro hAll
        exact absurd hAll not_allOrNothing_zero
      · intro hMeets
        exact absurd hMeets.client hClient

/-- `OMX_GetHandle` fails. -/
def noHandle : CreateAnswers where
  sessionHandleQ := some 1
  outBufQ := some 2
  getHandle := fun _ => -1
  enqHandle := fun _ => true
  configure := fun _ => 0
  enqOutBuf := fun _ => true

/-- The result is 0 without a session. -/
theorem noHandle_result_zero :
    ¬ AllOrNothing freeEncoder 0 1 1
      (createSession oneSession noHandle 0 ⟨1, 1, false⟩ freeEncoder) := by
  intro hAll
  exact Encoder.not_complete_zero (hAll.success.mp rfl)

end Outcome

end KiwiDevice.Jpeg

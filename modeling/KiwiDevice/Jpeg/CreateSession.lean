import KiwiDevice.Jpeg.EncodeSessions

/-!
# The loop over the sessions

What a pass of the loop of `mm_jpeg_create_session` does to the slots of the client, and how the
loop ends.
-/

namespace KiwiDevice.Jpeg

/-- At most `n` slots along the links from a slot on. -/
def sessionChain (next : Nat → Option Nat) : Nat → Option Nat → List Nat
  | 0, _ => []
  | _ + 1, none => []
  | n + 1, some i => i :: sessionChain next n (next i)

/-- The slots are linked in this order, and the last one to none. -/
def Chained (next : Nat → Option Nat) : List Nat → Prop
  | [] => True
  | i :: is => next i = is.head? ∧ Chained next is

namespace Encoder

def next (obj : Encoder) (clnt i : Nat) : Option Nat := (obj.session clnt i).nextSession

end Encoder

section Chains

variable {next next' : Nat → Option Nat} {i : Nat} {is : List Nat}

theorem Chained.frame (h : Chained next is) (hSame : ∀ i ∈ is, next' i = next i) :
    Chained next' is := by
  induction is with
  | nil => exact trivial
  | cons j is ih =>
    constructor
    · rw [hSame j List.mem_cons_self]
      exact h.1
    · exact ih h.2 fun i hMem => hSame i (List.mem_cons_of_mem j hMem)

theorem Chained.snoc (h : Chained next is) (hNodup : is.Nodup) (hLast : next' i = none)
    (hPrev : ∀ j, is.getLast? = some j → next' j = some i)
    (hSame : ∀ j ∈ is, is.getLast? ≠ some j → next' j = next j) : Chained next' (is ++ [i]) := by
  induction is with
  | nil => exact ⟨hLast, trivial⟩
  | cons j is ih =>
    cases is with
    | nil => exact ⟨hPrev j rfl, hLast, trivial⟩
    | cons k is =>
      rw [List.getLast?_cons_cons] at hPrev hSame
      rw [List.nodup_cons] at hNodup
      constructor
      · rw [hSame j List.mem_cons_self]
        · exact h.1
        · intro hEq
          exact hNodup.1 (List.mem_of_getLast? hEq)
      · exact ih h.2 hNodup.2 hPrev fun j hMem => hSame j (List.mem_cons_of_mem _ hMem)

theorem Chained.sessionChain_eq (h : Chained next is) {n : Nat} (hLength : is.length < n) :
    sessionChain next n is.head? = is := by
  induction is generalizing n with
  | nil =>
    obtain ⟨n, rfl⟩ := Nat.exists_eq_add_of_lt hLength
    rfl
  | cons j is ih =>
    cases n with
    | zero => exact absurd hLength (Nat.not_lt_zero _)
    | succ n =>
      rw [List.head?_cons, sessionChain, h.1, ih h.2 (by simpa using hLength)]

end Chains

namespace Encoder

variable {obj : Encoder} {clnt c i j : Nat} {f : EncoderSession → EncoderSession}
  {prev : Option Nat}

theorem modify_session :
    (obj.modify clnt i f).session c j =
      if c = clnt ∧ j = i then f (obj.session c j) else obj.session c j := rfl

theorem getNewSessionIdx_none (hFree : obj.freeSlots clnt = []) :
    obj.getNewSessionIdx clnt = none := by
  rw [getNewSessionIdx, ← List.head?_filter]
  exact congrArg (fun l : List Nat => l.head?.map _) hFree

theorem getNewSessionIdx_some {is : List Nat} (hFree : obj.freeSlots clnt = i :: is) :
    obj.getNewSessionIdx clnt = some (i, obj.modify clnt i fun s => { s with active := true }) := by
  rw [getNewSessionIdx, ← List.head?_filter]
  exact congrArg (fun l : List Nat => l.head?.map _) hFree

theorem linkSession_next (hPrev : prev ≠ some i) :
    (obj.linkSession clnt prev i).next clnt j =
      if prev = some j then some i else if j = i then none else obj.next clnt j := by
  cases prev with
  | none =>
    by_cases hSame : j = i
    · simp [linkSession, next, modify_session, hSame]
    · simp [linkSession, next, modify_session, hSame]
  | some p =>
    have hNe : p ≠ i := fun hEq => hPrev (congrArg some hEq)
    by_cases hSame : j = p
    · simp [linkSession, next, modify_session, hSame, hNe]
    · by_cases hNew : j = i
      · simp [linkSession, next, modify_session, hNew, Ne.symm hNe, hNe]
      · simp [linkSession, next, modify_session, hSame, hNew, Ne.symm hSame]

/-- Everything of a session but its links and the fields that a new one gets. -/
def fields (obj : Encoder) (clnt i : Nat) : Bool × Option Nat × Option Nat :=
  ((obj.session clnt i).active, (obj.session clnt i).sessionHandleQ, (obj.session clnt i).outBufQ)

theorem linkSession_fields (obj : Encoder) (clnt : Nat) (prev : Option Nat) (i c j : Nat) :
    (obj.linkSession clnt prev i).fields c j = obj.fields c j := by
  cases prev with
  | none =>
    simp only [linkSession, fields, modify_session]
    split <;> rfl
  | some p =>
    simp only [linkSession, fields, modify_session]
    split
    · split <;> rfl
    · split <;> rfl

theorem modify_next (hKeeps : ∀ s, (f s).nextSession = s.nextSession) :
    (obj.modify clnt i f).next c j = obj.next c j := by
  simp only [next, modify_session]
  split
  · exact hKeeps _
  · rfl

theorem modify_fields_other (hNe : j ≠ i) :
    (obj.modify clnt i f).fields c j = obj.fields c j := by
  simp [fields, modify_session, hNe]

/-- The object when `OMX_GetHandle` answers for slot `i`, the `k`th of its chain. -/
def prepared (obj : Encoder) (build : JpegBuild) (clnt : Nat) (prev : Option Nat) (i k : Nat) :
    Encoder :=
  let obj := (obj.modify clnt i fun s => { s with active := true }).linkSession clnt prev i
  (obj.assignBuffer build clnt i (obj.numSessions + k)).modify clnt i fun s =>
    { s with config := false }

variable {build : JpegBuild} {k : Nat}

theorem prepared_next (hPrev : prev ≠ some i) :
    (obj.prepared build clnt prev i k).next clnt j =
      if prev = some j then some i else if j = i then none else obj.next clnt j := by
  rw [prepared, modify_next, assignBuffer, modify_next, linkSession_next hPrev, modify_next]
  all_goals
    intro s
    rfl

theorem prepared_fields_other (hNe : j ≠ i) :
    (obj.prepared build clnt prev i k).fields c j = obj.fields c j := by
  rw [prepared, modify_fields_other hNe, assignBuffer, modify_fields_other hNe,
    linkSession_fields, modify_fields_other hNe]

theorem prepared_active : ((obj.prepared build clnt prev i k).session clnt i).active = true := by
  have hLinked := congrArg Prod.fst
    (linkSession_fields (obj.modify clnt i fun s => { s with active := true }) clnt prev i clnt i)
  simp only [fields, modify_session, and_self, if_true] at hLinked
  simpa [prepared, assignBuffer, modify_session] using hLinked

theorem prepared_queues (obj : Encoder) (build : JpegBuild) (clnt : Nat) (prev : Option Nat)
    (i k : Nat) : (obj.prepared build clnt prev i k).handleQ = obj.handleQ ∧
    (obj.prepared build clnt prev i k).outBufQ = obj.outBufQ := by
  cases prev with
  | none => exact ⟨rfl, rfl⟩
  | some p => exact ⟨rfl, rfl⟩

/-- The object when `mm_jpeg_session_configure` answers. -/
def named (obj : Encoder) (build : JpegBuild) (clnt : Nat) (prev : Option Nat) (i k clientHdl : Nat)
    (params : EncodeParams) (sessionHandleQ outBufQ : Nat) (ok : Bool) : Encoder :=
  let obj := obj.prepared build clnt prev i k
  (nameSession { obj with numSessions := obj.numSessions + 1 } clnt i clientHdl params
    sessionHandleQ outBufQ).enqHandle sessionHandleQ i ok

variable {clientHdl sessionHandleQ outBufQ : Nat} {params : EncodeParams} {ok : Bool}

theorem enqHandle_session : (obj.enqHandle sessionHandleQ i ok).session = obj.session := by
  rw [enqHandle]
  split <;> rfl

theorem named_session :
    (obj.named build clnt prev i k clientHdl params sessionHandleQ outBufQ ok).session =
      ((obj.prepared build clnt prev i k).nameSession clnt i clientHdl params sessionHandleQ
        outBufQ).session := by
  rw [named, enqHandle_session]
  rfl

theorem named_next (hPrev : prev ≠ some i) :
    (obj.named build clnt prev i k clientHdl params sessionHandleQ outBufQ ok).next clnt j =
      if prev = some j then some i else if j = i then none else obj.next clnt j := by
  rw [next, named_session, ← next, nameSession, modify_next, prepared_next hPrev]
  intro s
  rfl

theorem named_fields_other (hNe : j ≠ i) :
    (obj.named build clnt prev i k clientHdl params sessionHandleQ outBufQ ok).fields c j =
      obj.fields c j := by
  rw [fields, named_session, ← fields, nameSession, modify_fields_other hNe,
    prepared_fields_other hNe]

theorem named_fields :
    (obj.named build clnt prev i k clientHdl params sessionHandleQ outBufQ ok).fields clnt i =
      (true, some sessionHandleQ, some outBufQ) := by
  rw [fields, named_session]
  simp [nameSession, modify_session, prepared_active]

theorem named_queues :
    (obj.named build clnt prev i k clientHdl params sessionHandleQ outBufQ ok).handleQ
        sessionHandleQ = obj.handleQ sessionHandleQ ++ (if ok then [i] else []) ∧
      (obj.named build clnt prev i k clientHdl params sessionHandleQ outBufQ ok).outBufQ =
        obj.outBufQ := by
  obtain ⟨hHandle, hOut⟩ :=
    prepared_queues obj build clnt prev i k
  rw [← hHandle, ← hOut]
  cases ok
  · simp [named, enqHandle, nameSession, modify]
  · simp [named, enqHandle, nameSession, modify]

end Encoder

section Pass

variable {build : JpegBuild} {answers : CreateAnswers} {clnt clientHdl : Nat}
  {params : EncodeParams} {sessionHandleQ outBufQ a i : Nat} {rest : List Nat}
  {l : CreateLocals}

/-- Slot `a` is put behind the chain, and no other slot is touched. -/
structure Appended (clnt a : Nat) (l l' : CreateLocals) : Prop where
  next : ∀ j, l'.obj.next clnt j =
    if l.pPrevSession = some j then some a else if j = a then none else l.obj.next clnt j
  fields : ∀ j ≠ a, l'.obj.fields clnt j = l.obj.fields clnt j

theorem createPass_full (hFree : l.obj.freeSlots clnt = []) :
    createPass build answers clnt clientHdl params sessionHandleQ outBufQ i l = (false, l) := by
  rw [createPass, Encoder.getNewSessionIdx_none hFree]

variable (build clientHdl params sessionHandleQ outBufQ)

theorem createPass_noHandle (hFree : l.obj.freeSlots clnt = a :: rest)
    (hPrev : l.pPrevSession ≠ some a) (hAnswer : answers.getHandle i ≠ 0) :
    ∃ l', createPass build answers clnt clientHdl params sessionHandleQ outBufQ i l = (false, l') ∧
      Appended clnt a l l' ∧ l'.rc = l.rc ∧ l'.sessionId = l.sessionId ∧
      (l'.obj.session clnt a).active = false := by
  refine ⟨{ l with
    obj := (l.obj.prepared build clnt l.pPrevSession a i).modify clnt a fun s =>
      { s with active := false }
    pPrevSession := some a }, ?_, ?_, rfl, rfl, ?_⟩
  · rw [createPass, Encoder.getNewSessionIdx_some hFree]
    simp only [Encoder.sessionCreate, if_pos hAnswer]
    rfl
  · constructor
    · intro j
      rw [Encoder.modify_next, Encoder.prepared_next hPrev]
      intro s
      rfl
    · intro j hNe
      rw [Encoder.modify_fields_other hNe, Encoder.prepared_fields_other hNe]
  · simp [Encoder.modify_session]

theorem createPass_notConfigured (hFree : l.obj.freeSlots clnt = a :: rest)
    (hAnswer : answers.getHandle i = 0) (hConfigure : answers.configure i ≠ 0) :
    ∃ l', createPass build answers clnt clientHdl params sessionHandleQ outBufQ i l = (false, l') ∧
      l'.rc = answers.configure i ∧ (l'.obj.session clnt a).active = true := by
  refine ⟨{
    obj := l.obj.named build clnt l.pPrevSession a i clientHdl params sessionHandleQ outBufQ
      (answers.enqHandle i)
    rc := answers.configure i
    pPrevSession := some a
    sessionId := if l.sessionId = 0 then sessionIdOf (a <<< 8 ||| clnt) else l.sessionId },
    ?_, rfl, congrArg Prod.fst Encoder.named_fields⟩
  rw [createPass, Encoder.getNewSessionIdx_some hFree]
  simp only [Encoder.sessionCreate, hAnswer]
  exact if_pos hConfigure

theorem createPass_ok (hFree : l.obj.freeSlots clnt = a :: rest)
    (hPrev : l.pPrevSession ≠ some a) (hAnswer : answers.getHandle i = 0)
    (hConfigure : answers.configure i = 0) :
    ∃ l', createPass build answers clnt clientHdl params sessionHandleQ outBufQ i l = (true, l') ∧
      Appended clnt a l l' ∧ l'.rc = 0 ∧ l'.pPrevSession = some a ∧
      l'.sessionId = (if l.sessionId = 0 then sessionIdOf (a <<< 8 ||| clnt) else l.sessionId) ∧
      l'.obj.fields clnt a = (true, some sessionHandleQ, some outBufQ) ∧
      l'.obj.handleQ sessionHandleQ =
        l.obj.handleQ sessionHandleQ ++ (if answers.enqHandle i then [a] else []) ∧
      l'.obj.outBufQ = l.obj.outBufQ := by
  refine ⟨{
    obj := (l.obj.named build clnt l.pPrevSession a i clientHdl params sessionHandleQ outBufQ
      (answers.enqHandle i)).modify clnt a fun s =>
        { s with config := true, numOmxSessions := numOmxSessions build params }
    rc := answers.configure i
    pPrevSession := some a
    sessionId := if l.sessionId = 0 then sessionIdOf (a <<< 8 ||| clnt) else l.sessionId },
    ?_, ?_, hConfigure, rfl, rfl, ?_, Encoder.named_queues.1, Encoder.named_queues.2⟩
  · rw [createPass, Encoder.getNewSessionIdx_some hFree]
    simp only [Encoder.sessionCreate, hAnswer]
    exact if_neg (not_not.mpr hConfigure)
  · constructor
    · intro j
      rw [Encoder.modify_next, Encoder.named_next hPrev]
      intro s
      rfl
    · intro j hNe
      rw [Encoder.modify_fields_other hNe, Encoder.named_fields_other hNe]
  · have hFields : (l.obj.named build clnt l.pPrevSession a i clientHdl params sessionHandleQ
        outBufQ (answers.enqHandle i)).fields clnt a = (true, some sessionHandleQ, some outBufQ) :=
      Encoder.named_fields
    rw [← hFields]
    simp [Encoder.fields, Encoder.modify_session]

end Pass

section Loop

variable {build : JpegBuild} {answers : CreateAnswers} {clnt clientHdl : Nat}
  {params : EncodeParams} {sessionHandleQ outBufQ a i num left : Nat}
  {slots front rest : List Nat} {l l' : CreateLocals}

/-- The id of the first session of a chain. -/
def firstId (clnt : Nat) (front : List Nat) : Nat :=
  (front.head?.map fun a => sessionIdOf (a <<< 8 ||| clnt)).getD 0

/-- The slots whose session found room in the queue. -/
def queuedSlots (answers : CreateAnswers) (front : List Nat) : List Nat :=
  (front.zipIdx.filter fun p => answers.enqHandle p.2).map Prod.fst

/-- The sessions of the slots `front` are made, and `rest` is still free. -/
structure Created (answers : CreateAnswers) (clnt sessionHandleQ outBufQ : Nat)
    (front rest : List Nat) (l : CreateLocals) : Prop where
  nodup : (front ++ rest).Nodup
  rc : l.rc = 0
  prev : l.pPrevSession = front.getLast?
  id : l.sessionId = firstId clnt front
  free : l.obj.freeSlots clnt = rest
  chained : Chained (l.obj.next clnt) front
  fields : ∀ a ∈ front, l.obj.fields clnt a = (true, some sessionHandleQ, some outBufQ)
  handles : l.obj.handleQ sessionHandleQ = queuedSlots answers front
  outBufs : l.obj.outBufQ outBufQ = []
  answers : ∀ i < front.length, answers.getHandle i = 0 ∧ answers.configure i = 0

/-- How the loop is left early. -/
inductive CreateFails (answers : CreateAnswers) (clnt sessionHandleQ outBufQ : Nat)
    (slots : List Nat) (num : Nat) (l : CreateLocals) : Prop where
  | full (hCreated : Created answers clnt sessionHandleQ outBufQ slots [] l)
    (hLess : slots.length < num)
  | noHandle (front : List Nat) (a : Nat) (hLess : front.length < num)
    (hAnswer : answers.getHandle front.length ≠ 0) (hRc : l.rc = 0)
    (hChained : Chained (l.obj.next clnt) (front ++ [a]))
    (hId : l.sessionId = firstId clnt front) (hSlots : ∀ b ∈ front ++ [a], b ∈ slots)
    (hActive : (l.obj.session clnt a).active = false)
  | notConfigured (i a : Nat) (hLess : i < num) (hAnswer : answers.configure i ≠ 0)
    (hRc : l.rc ≠ 0) (hSlot : a ∈ slots) (hActive : (l.obj.session clnt a).active = true)

theorem sessionIdOf_ne_zero (key : Nat) : sessionIdOf key ≠ 0 := by
  intro hZero
  rw [sessionIdOf, Nat.or_eq_zero_iff] at hZero
  exact absurd hZero.1 (by decide)

theorem firstId_snoc :
    (if firstId clnt front = 0 then sessionIdOf (a <<< 8 ||| clnt) else firstId clnt front) =
      firstId clnt (front ++ [a]) := by
  cases front with
  | nil => rfl
  | cons b front => exact if_neg (sessionIdOf_ne_zero _)

theorem queuedSlots_snoc :
    queuedSlots answers (front ++ [a]) =
      queuedSlots answers front ++ if answers.enqHandle front.length then [a] else [] := by
  rw [queuedSlots, List.zipIdx_append, List.filter_append, List.map_append, queuedSlots]
  cases hRoom : answers.enqHandle front.length with
  | true => simp [hRoom]
  | false => simp [hRoom]

theorem freeSlots_of_taken (hFree : l.obj.freeSlots clnt = a :: rest)
    (hFields : ∀ j ≠ a, l'.obj.fields clnt j = l.obj.fields clnt j)
    (hActive : (l'.obj.session clnt a).active = true) : l'.obj.freeSlots clnt = rest := by
  have hNodup : (l.obj.freeSlots clnt).Nodup := List.nodup_range.filter _
  have hFilter : l'.obj.freeSlots clnt = (l.obj.freeSlots clnt).filter fun j => j ≠ a := by
    rw [Encoder.freeSlots, Encoder.freeSlots, List.filter_filter]
    apply List.filter_congr
    intro j _
    by_cases hSame : j = a
    · simp [hSame, hActive]
    · have hSameActive := congrArg Prod.fst (hFields j hSame)
      simp only [Encoder.fields] at hSameActive
      simp [hSame, hSameActive]
  rw [hFree, List.nodup_cons] at hNodup
  rw [hFilter, hFree, List.filter_cons, if_neg (by simp), List.filter_eq_self]
  intro j hMem
  have hNe : j ≠ a := by
    rintro rfl
    exact hNodup.1 hMem
  simpa using hNe

theorem Appended.chained (hAppended : Appended clnt a l l')
    (hCreated : Created answers clnt sessionHandleQ outBufQ front (a :: rest) l) :
    Chained (l'.obj.next clnt) (front ++ [a]) := by
  have hNodup := hCreated.nodup
  have hNotMem : a ∉ front := by grind
  apply hCreated.chained.snoc
  · exact (List.nodup_append.mp hNodup).1
  · rw [hAppended.next, hCreated.prev, if_neg, if_pos rfl]
    intro hLast
    exact hNotMem (List.mem_of_getLast? hLast)
  · intro j hLast
    rw [hAppended.next, hCreated.prev, if_pos hLast]
  · intro j hMem hLast
    rw [hAppended.next, hCreated.prev, if_neg hLast, if_neg]
    rintro rfl
    exact hNotMem hMem

theorem Created.prev_ne
    (hCreated : Created answers clnt sessionHandleQ outBufQ front (a :: rest) l) :
    l.pPrevSession ≠ some a := by
  have hNodup := hCreated.nodup
  rw [hCreated.prev]
  intro hLast
  have hMem := List.mem_of_getLast? hLast
  grind

variable (build clientHdl params)

/-- A pass that succeeds makes one more session. -/
theorem Created.pass
    (hCreated : Created answers clnt sessionHandleQ outBufQ front (a :: rest) l)
    (hAnswer : answers.getHandle front.length = 0)
    (hConfigure : answers.configure front.length = 0) :
    ∃ l', createPass build answers clnt clientHdl params sessionHandleQ outBufQ front.length l =
        (true, l') ∧ Created answers clnt sessionHandleQ outBufQ (front ++ [a]) rest l' := by
  obtain ⟨l', hPass, hAppended, hRc, hPrev, hId, hFields, hHandles, hOutBufs⟩ :=
    createPass_ok build clientHdl params sessionHandleQ outBufQ hCreated.free hCreated.prev_ne
      hAnswer hConfigure
  refine ⟨l', hPass, ?_⟩
  constructor
  · simpa using hCreated.nodup
  · exact hRc
  · rw [hPrev, List.getLast?_concat]
  · rw [hId, hCreated.id, firstId_snoc]
  · exact freeSlots_of_taken hCreated.free hAppended.fields (congrArg Prod.fst hFields)
  · exact hAppended.chained hCreated
  · intro b hMem
    by_cases hSame : b = a
    · rw [hSame, hFields]
    · rw [hAppended.fields b hSame]
      apply hCreated.fields
      simpa [hSame] using hMem
  · rw [hHandles, hCreated.handles, queuedSlots_snoc]
  · rw [hOutBufs, hCreated.outBufs]
  · intro i hLess
    rw [List.length_append, List.length_singleton] at hLess
    obtain hBefore | rfl := Nat.lt_succ_iff_lt_or_eq.mp hLess
    · exact hCreated.answers i hBefore
    · exact ⟨hAnswer, hConfigure⟩

/-- The loop makes the sessions that are left, or it is left early. -/
theorem Created.loop
    (hCreated : Created answers clnt sessionHandleQ outBufQ front rest l)
    (hLeft : front.length + left = num) :
    ∃ ok l', createLoop build answers clnt clientHdl params sessionHandleQ outBufQ left
        front.length l = (ok, l') ∧
      if ok then ∃ front' rest', front' ++ rest' = front ++ rest ∧ front'.length = num ∧
        Created answers clnt sessionHandleQ outBufQ front' rest' l'
      else CreateFails answers clnt sessionHandleQ outBufQ (front ++ rest) num l' := by
  induction left generalizing front rest l with
  | zero => exact ⟨true, l, rfl, front, rest, rfl, hLeft, hCreated⟩
  | succ left ih =>
    have hLess : front.length < num := by omega
    rw [createLoop]
    cases rest with
    | nil =>
      rw [createPass_full hCreated.free]
      refine ⟨false, l, rfl, ?_⟩
      rw [List.append_nil]
      exact .full hCreated hLess
    | cons a rest =>
      by_cases hAnswer : answers.getHandle front.length = 0
      · by_cases hConfigure : answers.configure front.length = 0
        · obtain ⟨l', hPass, hCreated'⟩ :=
            hCreated.pass build clientHdl params hAnswer hConfigure
          rw [hPass]
          obtain ⟨ok, l'', hLoop, hEnd⟩ := ih hCreated' (by simp; omega)
          rw [List.length_append, List.length_singleton] at hLoop
          refine ⟨ok, l'', hLoop, ?_⟩
          rwa [List.append_assoc, List.singleton_append] at hEnd
        · obtain ⟨l', hPass, hRc, hActive⟩ := createPass_notConfigured build clientHdl
            params sessionHandleQ outBufQ hCreated.free hAnswer hConfigure
          rw [hPass]
          refine ⟨false, l', rfl, ?_⟩
          exact .notConfigured front.length a hLess hConfigure (by rwa [hRc]) (by simp) hActive
      · obtain ⟨l', hPass, hAppended, hRc, hId, hActive⟩ := createPass_noHandle build clientHdl
          params sessionHandleQ outBufQ hCreated.free hCreated.prev_ne hAnswer
        rw [hPass]
        refine ⟨false, l', rfl, ?_⟩
        exact .noHandle front a hLess hAnswer (hRc.trans hCreated.rc) (hAppended.chained hCreated)
          (hId.trans hCreated.id) (by grind) hActive

end Loop

end KiwiDevice.Jpeg

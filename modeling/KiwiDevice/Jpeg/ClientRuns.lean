import KiwiDevice.Jpeg.Clients
import KiwiDevice.Lib.Lists
import Mathlib.Data.List.Perm.Basic
import Mathlib.Data.List.Nodup

/-!
# The client count and the client table

As long as only handles of open clients are closed, the table, the count and the handles agree. A
close with any other handle breaks this at once.
-/

namespace KiwiDevice.Jpeg

theorem nextHistoryCount_pos (count : Nat) :
    0 < nextHistoryCount count ∧ nextHistoryCount count < 2 ^ 16 := by
  simp only [nextHistoryCount]
  split <;> omega

theorem generateHandler_index (historyCount : Nat) {index : Nat} (h : index < 2 ^ 8) :
    getIndexByHandler (generateHandler historyCount index) = index := by
  rw [getIndexByHandler, generateHandler, Nat.or_mod_two_pow, Nat.mod_mod_of_dvd _ (by decide),
    Nat.shiftLeft_eq, Nat.mul_mod_left, Nat.zero_or, Nat.mod_eq_of_lt h]

theorem generateHandler_pos {historyCount index : Nat} (hPos : 0 < historyCount)
    (hLt : historyCount < 2 ^ 16) : 0 < generateHandler historyCount index := by
  have hShift : (historyCount <<< 8) % 2 ^ 32 = historyCount * 2 ^ 8 := by
    rw [Nat.shiftLeft_eq, Nat.mod_eq_of_lt]
    omega
  rw [generateHandler, hShift]
  exact lt_of_lt_of_le (by omega) Nat.left_le_or

/-- The handles in the slots that are in use, in the order of the slots. -/
def usedHandles (slots : List MmJpegClient) : List Nat :=
  (slots.filter MmJpegClient.isUsed).map MmJpegClient.clientHandle

theorem usedHandles_append (front back : List MmJpegClient) :
    usedHandles (front ++ back) = usedHandles front ++ usedHandles back := by
  rw [usedHandles, List.filter_append, List.map_append]
  rfl

theorem usedHandles_cons (c : MmJpegClient) (slots : List MmJpegClient) :
    usedHandles (c :: slots)
      = (if c.isUsed = true then [c.clientHandle] else []) ++ usedHandles slots := by
  rw [usedHandles, List.filter_cons]
  split <;> rfl

theorem length_usedHandles (slots : List MmJpegClient) :
    (usedHandles slots).length = slots.countP MmJpegClient.isUsed := by
  rw [usedHandles, List.length_map, List.countP_eq_length_filter]

/-- The slot of a client is given by the low byte of its handle. -/
def Placed (slots : List MmJpegClient) : Prop :=
  ∀ i c, slots[i]? = some c → c.isUsed = true →
    getIndexByHandler c.clientHandle = i ∧ 0 < c.clientHandle

/-- The object fits the open clients: the table holds exactly them and the count is theirs. -/
structure Fits (obj : MmJpegObj) (clients : List Nat) : Prop where
  length_eq : obj.clntMgr.length = MAX_JPEG_CLIENT_NUM
  placed : Placed obj.clntMgr
  handles : (usedHandles obj.clntMgr).Perm clients
  count_eq : obj.numClients = obj.clntMgr.countP MmJpegClient.isUsed

theorem Placed.set {slots : List MmJpegClient} (h : Placed slots) {i : Nat} {c : MmJpegClient}
    (hc : c.isUsed = true → getIndexByHandler c.clientHandle = i ∧ 0 < c.clientHandle) :
    Placed (slots.set i c) := by
  intro j d hd hUsed
  rw [List.getElem?_set] at hd
  split at hd
  · rename_i hSame
    split at hd
    · cases hd
      exact hSame ▸ hc hUsed
    · cases hd
  · exact h j d hd hUsed

theorem Fits.count_clients {obj : MmJpegObj} {clients : List Nat} (h : Fits obj clients) :
    obj.numClients = clients.length := by
  rw [h.count_eq, ← length_usedHandles, h.handles.length_eq]

theorem fits_zero : Fits .zero [] where
  length_eq := rfl
  placed := by
    intro i c hc hUsed
    obtain ⟨_, hc⟩ := List.getElem?_eq_some_iff.mp hc
    rw [← hc] at hUsed
    simp [MmJpegObj.zero, MmJpegClient.zero] at hUsed
  handles := by
    rw [usedHandles]
    exact List.Perm.refl _
  count_eq := rfl

theorem usedHandles_take {slots : List MmJpegClient} {i : Nat} {c : MmJpegClient}
    (h : slots[i]? = some c) (hFree : c.isUsed = false) (handle : Nat) :
    (usedHandles (slots.set i ⟨true, handle⟩)).Perm (usedHandles slots ++ [handle]) := by
  obtain ⟨front, back, hSlots, hSet⟩ := Lib.exists_split h
  rw [hSet, hSlots, usedHandles_append, usedHandles_append, usedHandles_cons, usedHandles_cons,
    hFree, if_pos rfl, if_neg Bool.false_ne_true, List.append_assoc, List.nil_append]
  exact List.perm_append_comm.append_left _

theorem usedHandles_clear {slots : List MmJpegClient} {i : Nat} {c : MmJpegClient}
    (h : slots[i]? = some c) (hUsed : c.isUsed = true) :
    (usedHandles slots).Perm (c.clientHandle :: usedHandles (slots.set i .zero)) := by
  obtain ⟨front, back, hSlots, hSet⟩ := Lib.exists_split h
  rw [hSet, hSlots, usedHandles_append, usedHandles_append, usedHandles_cons, usedHandles_cons,
    if_pos hUsed]
  exact List.perm_middle

theorem Fits.newClient_full {obj : MmJpegObj} {clients : List Nat} (h : Fits obj clients)
    (hFull : MAX_JPEG_CLIENT_NUM ≤ clients.length) (historyCount : Nat) :
    mmJpegNewClient obj historyCount = (0, obj, historyCount) := by
  rw [mmJpegNewClient, if_pos]
  rw [h.count_clients]
  exact Int.ofNat_le.mpr hFull

theorem Fits.newClient {obj : MmJpegObj} {clients : List Nat} (h : Fits obj clients)
    (hSpace : clients.length < MAX_JPEG_CLIENT_NUM) (historyCount : Nat) :
    ∃ handle obj', mmJpegNewClient obj historyCount
        = (handle, obj', nextHistoryCount historyCount) ∧
      0 < handle ∧ Fits obj' (clients ++ [handle]) := by
  rw [mmJpegNewClient, if_neg]
  · cases hIdx : obj.clntMgr.findIdx? fun c => !c.isUsed with
    | none =>
      -- a full table would have eight clients
      exfalso
      have hAll : obj.clntMgr.countP MmJpegClient.isUsed = obj.clntMgr.length := by
        rw [List.countP_eq_length]
        intro c hc
        have hUsed := List.findIdx?_eq_none_iff.mp hIdx c hc
        simpa using hUsed
      have hCount := h.count_clients
      rw [h.count_eq, hAll, h.length_eq] at hCount
      omega
    | some idx =>
      obtain ⟨hLt, hFree, _⟩ := List.findIdx?_eq_some_iff_getElem.mp hIdx
      have hSlot : obj.clntMgr[idx]? = some obj.clntMgr[idx] := List.getElem?_eq_getElem hLt
      have hUnused : obj.clntMgr[idx].isUsed = false := by simpa using hFree
      have hIndex : idx < 2 ^ 8 := by
        rw [h.length_eq] at hLt
        exact hLt.trans (by decide)
      obtain ⟨hPos, hBound⟩ := nextHistoryCount_pos historyCount
      have hHandle : 0 < generateHandler (nextHistoryCount historyCount) idx :=
        generateHandler_pos hPos hBound
      have hPerm := usedHandles_take hSlot hUnused
        (generateHandler (nextHistoryCount historyCount) idx)
      refine ⟨_, _, rfl, hHandle, ?_, ?_, ?_, ?_⟩
      · rw [List.length_set, h.length_eq]
      · exact h.placed.set fun _ => ⟨generateHandler_index _ hIndex, hHandle⟩
      · exact hPerm.trans (h.handles.append_right _)
      · show obj.numClients + 1 = _
        rw [← length_usedHandles, hPerm.length_eq, List.length_append, h.count_eq,
          ← length_usedHandles]
        rfl
  · rw [h.count_clients]
    omega

theorem Fits.mem_slot {obj : MmJpegObj} {clients : List Nat} (h : Fits obj clients) {handle : Nat}
    (hMem : handle ∈ clients) : ∃ c, obj.clntMgr[getIndexByHandler handle]? = some c ∧
      c.isUsed = true ∧ c.clientHandle = handle ∧ 0 < handle := by
  have hUsed := h.handles.mem_iff.mpr hMem
  obtain ⟨c, hc, rfl⟩ := List.mem_map.mp hUsed
  obtain ⟨hIn, hIsUsed⟩ := List.mem_filter.mp hc
  obtain ⟨i, hi⟩ := List.mem_iff_getElem?.mp hIn
  obtain ⟨hIndex, hPos⟩ := h.placed i c hi hIsUsed
  exact ⟨c, hIndex ▸ hi, hIsUsed, rfl, hPos⟩

theorem Fits.close {obj : MmJpegObj} {clients : List Nat} (h : Fits obj clients) {handle : Nat}
    (hMem : handle ∈ clients) : (mmJpegClose obj handle).1 = 0 ∧
      Fits { (mmJpegClose obj handle).2 with
        numClients := (mmJpegClose obj handle).2.numClients - 1 } (clients.erase handle) := by
  obtain ⟨c, hSlot, hUsed, hHandle, _⟩ := h.mem_slot hMem
  have hLt : getIndexByHandler handle < MAX_JPEG_CLIENT_NUM := by
    rw [← h.length_eq]
    exact (List.getElem?_eq_some_iff.mp hSlot).1
  have hClose : mmJpegClose obj handle
      = (0, { obj with clntMgr := obj.clntMgr.set (getIndexByHandler handle) .zero }) :=
    if_neg (Nat.not_le.mpr hLt)
  have hPerm := usedHandles_clear hSlot hUsed
  rw [hHandle] at hPerm
  rw [hClose]
  refine ⟨rfl, ?_, ?_, ?_, ?_⟩
  · rw [List.length_set, h.length_eq]
  · refine h.placed.set ?_
    intro hZero
    cases hZero
  · have hErase := (hPerm.symm.trans h.handles).erase handle
    rwa [List.erase_cons_head] at hErase
  · have hCount := hPerm.length_eq
    rw [List.length_cons, length_usedHandles, length_usedHandles] at hCount
    show obj.numClients - 1
      = ((obj.clntMgr.set (getIndexByHandler handle) .zero).countP MmJpegClient.isUsed : Int)
    rw [h.count_eq]
    omega

namespace JpegClients

/-- There is an object iff there are clients, and it fits them. -/
structure Accounted (s : JpegClients) : Prop where
  none_iff : s.intf.gJpegObj = none ↔ s.clients = []
  fits : ∀ obj, s.intf.gJpegObj = some obj → Fits obj s.clients

/-- A step that keeps the accounts: only the handle of an open client closes one, anything else is
an error without effect, and the library is left exactly with the last client. -/
structure Kept (s : JpegClients) (i : JpegCall) (o : List JpegEffect) (s' : JpegClients) :
    Prop where
  accounted : Accounted s'
  rejects : ∀ handle rc, i = .close handle rc → handle ∉ s.clients →
    s' = s ∧ o = [.returned (-1)]
  deinit_iff : .deinit ∈ o ↔ s.clients ≠ [] ∧ s'.clients = []

/-- A handle that is closed is `0` or that of an open client, if there is one. -/
def ClosesOpen (s : JpegClients) : JpegCall → Prop
  | .jpegOpen _ _ => True
  | .close handle _ => handle = 0 ∨ handle ∈ s.clients ∨ s.clients = []

variable {s s' : JpegClients} {o : List JpegEffect}

theorem accounted_start : Accounted start where
  none_iff := by
    constructor <;> intro _ <;> rfl
  fits _ h := by cases h

theorem Accounted.jpegOpen (h : Accounted s) {mallocOk : Bool} {initRc : Int}
    (hNext : Next s (.jpegOpen mallocOk initRc) o s') :
    Kept s (.jpegOpen mallocOk initRc) o s' := by
  have hRejects : ∀ handle rc, JpegCall.jpegOpen mallocOk initRc = .close handle rc →
      handle ∉ s.clients → s' = s ∧ o = [.returned (-1)] := by
    intro handle rc hCall
    cases hCall
  rw [Next, step, MmJpegIntf.jpegOpen] at hNext
  cases hObj : s.intf.openedObj mallocOk initRc with
  | none =>
    rw [hObj] at hNext
    cases hNext
    refine ⟨h, hRejects, ?_⟩
    constructor
    · intro hDeinit
      simp at hDeinit
    · rintro ⟨hSome, hNone⟩
      exact absurd hNone hSome
  | some obj =>
    have hFits : Fits obj s.clients := by
      rw [MmJpegIntf.openedObj] at hObj
      split at hObj
      · rename_i hThere
        cases hObj
        exact h.fits _ hThere
      · rename_i hNone
        split at hObj
        · cases hObj
          rw [h.none_iff.mp hNone]
          exact fits_zero
        · cases hObj
    rw [hObj] at hNext
    rcases Nat.lt_or_ge s.clients.length MAX_JPEG_CLIENT_NUM with hSpace | hFull
    · obtain ⟨handle, obj', hNew, hPos, hFits'⟩ :=
        hFits.newClient hSpace s.intf.gHandlerHistoryCount
      simp only [hNew, if_pos hPos] at hNext
      cases hNext
      refine ⟨⟨?_, ?_⟩, hRejects, ?_⟩
      · simp
      · intro obj hSame
        cases hSame
        exact hFits'
      · simp
    · have hClients : s.clients ≠ [] := by
        intro hNil
        rw [hNil] at hFull
        exact absurd hFull (by decide)
      have hCount : ¬ obj.numClients = 0 := by
        rw [hFits.count_clients]
        have hPos := List.length_pos_of_ne_nil hClients
        omega
      simp only [hFits.newClient_full hFull, gt_iff_lt, lt_irrefl, if_false, if_neg hCount]
        at hNext
      cases hNext
      refine ⟨⟨?_, ?_⟩, hRejects, ?_⟩
      · simp [hClients]
      · intro obj' hSame
        cases hSame
        exact hFits
      · simp [hClients]

theorem Accounted.zero_not_mem (h : Accounted s) : 0 ∉ s.clients := by
  intro hMem
  cases hObj : s.intf.gJpegObj with
  | none =>
    rw [h.none_iff.mp hObj] at hMem
    cases hMem
  | some obj =>
    obtain ⟨_, _, _, _, hPos⟩ := (h.fits obj hObj).mem_slot hMem
    exact lt_irrefl 0 hPos

theorem Accounted.close_unseen (h : Accounted s) {handle : Nat} {rc : Int}
    (hUnseen : handle = 0 ∨ s.clients = []) (hNext : Next s (.close handle rc) o s') :
    Kept s (.close handle rc) o s' := by
  have hAbsent : handle ∉ s.clients := by
    rcases hUnseen with rfl | hNone
    · exact h.zero_not_mem
    · rw [hNone]
      exact List.not_mem_nil
  have hClose : s.intf.mmJpegIntfClose handle rc = (s.intf, [.returned (-1)]) := by
    rw [MmJpegIntf.mmJpegIntfClose]
    split
    · rfl
    · rename_i hZero
      rw [h.none_iff.mpr (hUnseen.resolve_left hZero)]
  rw [Next, step] at hNext
  simp only [hClose, List.erase_of_not_mem hAbsent] at hNext
  cases hNext
  refine ⟨h, fun _ _ _ _ => ⟨rfl, rfl⟩, ?_⟩
  constructor
  · intro hDeinit
    simp at hDeinit
  · rintro ⟨hSome, hNone⟩
    exact absurd hNone hSome

theorem Accounted.close_open (h : Accounted s) {handle : Nat} {rc : Int}
    (hMem : handle ∈ s.clients) (hNext : Next s (.close handle rc) o s') :
    Kept s (.close handle rc) o s' := by
  have hClients : s.clients ≠ [] := List.ne_nil_of_mem hMem
  have hZero : handle ≠ 0 := fun hSame => h.zero_not_mem (hSame ▸ hMem)
  have hRejects : ∀ handle' rc', JpegCall.close handle rc = .close handle' rc' →
      handle' ∉ s.clients → s' = s ∧ o = [.returned (-1)] := by
    intro _ _ hCall hAbsent
    cases hCall
    exact absurd hMem hAbsent
  cases hObj : s.intf.gJpegObj with
  | none => exact absurd (h.none_iff.mp hObj) hClients
  | some obj =>
    obtain ⟨hRc, hFits⟩ := (h.fits obj hObj).close hMem
    have hCount := hFits.count_clients
    rw [Next, step, MmJpegIntf.mmJpegIntfClose, if_neg hZero, hObj] at hNext
    simp only [hRc, true_and] at hNext
    split at hNext
    · -- the count is that of the clients left, so there are none
      rename_i hLast
      have hNone : s.clients.erase handle = [] :=
        List.length_eq_zero_iff.mp (Int.ofNat_eq_zero.mp (hCount.symm.trans hLast))
      cases hNext
      refine ⟨⟨?_, ?_⟩, hRejects, ?_⟩
      · simp [hNone]
      · intro obj' hSame
        cases hSame
      · simp [hNone, hClients]
    · rename_i hMore
      have hSome : s.clients.erase handle ≠ [] := by
        intro hNone
        rw [hNone] at hCount
        exact hMore hCount
      cases hNext
      refine ⟨⟨?_, ?_⟩, hRejects, ?_⟩
      · simp [hSome]
      · intro obj' hSame
        cases hSame
        exact hFits
      · simp [hSome]

theorem Accounted.close_other (h : Accounted s) {handle : Nat} {rc : Int} (hZero : handle ≠ 0)
    (hMem : handle ∉ s.clients) (hClients : s.clients ≠ [])
    (hNext : Next s (.close handle rc) o s') : s' ≠ s := by
  rintro rfl
  cases hObj : s'.intf.gJpegObj with
  | none => exact hClients (h.none_iff.mp hObj)
  | some obj =>
    have hIntf : (s'.intf.mmJpegIntfClose handle rc).1.gJpegObj = some obj := by
      rw [← hObj]
      exact congrArg (fun r => r.1.intf.gJpegObj) hNext
    have hSame : (mmJpegClose obj handle).2.numClients = obj.numClients := by
      rw [mmJpegClose]
      split <;> rfl
    rw [MmJpegIntf.mmJpegIntfClose, if_neg hZero, hObj] at hIntf
    simp only at hIntf
    split at hIntf
    · cases hIntf
    · have hCount := congrArg MmJpegObj.numClients (Option.some.inj hIntf)
      change (mmJpegClose obj handle).2.numClients - 1 = obj.numClients at hCount
      omega

theorem Accounted.kept_iff (h : Accounted s) {i : JpegCall} (hNext : Next s i o s') :
    Kept s i o s' ↔ s.ClosesOpen i := by
  cases i with
  | jpegOpen mallocOk initRc =>
    constructor
    · intro _
      trivial
    · intro _
      exact h.jpegOpen hNext
  | close handle rc =>
    constructor
    · intro hKept
      rcases eq_or_ne handle 0 with hZero | hZero
      · exact .inl hZero
      · right
        rcases List.eq_nil_or_concat s.clients with hNone | ⟨_, _, hSome⟩
        · exact .inr hNone
        · left
          have hClients : s.clients ≠ [] := by simp [hSome]
          by_contra hMem
          exact h.close_other hZero hMem hClients hNext (hKept.rejects handle rc rfl hMem).1
    · rintro (hZero | hMem | hNone)
      · exact h.close_unseen (.inl hZero) hNext
      · exact h.close_open hMem hNext
      · exact h.close_unseen (.inr hNone) hNext

/-- In a run in which only open clients are closed, the accounts are in order in every state, and
the next step keeps them iff it closes no other handle either. -/
theorem accounted_of_run {is : List JpegCall} {os : List JpegEffect}
    (run : Lib.Steps Next (fun _ _ s i _ => s.ClosesOpen i) start is os s) :
    Accounted s ∧ ∀ i o s', Next s i o s' → (Kept s i o s' ↔ s.ClosesOpen i) := by
  have h : Accounted s := by
    refine run.invariant accounted_start ?_
    intro _ _ _ _ _ _ hCloses h hNext
    exact ((h.kept_iff hNext).mpr hCloses).accounted
  exact ⟨h, fun i o s' hNext => h.kept_iff hNext⟩

theorem accounted_of_run_twoClients : ∃ s, s.clients = [513] ∧ Accounted s ∧
    ∀ i o s', Next s i o s' → (Kept s i o s' ↔ s.ClosesOpen i) := by
  have one : Lib.Steps Next (fun _ _ s i _ => s.ClosesOpen i) start _ _ _ :=
    .step .start trivial (i := JpegCall.jpegOpen true 0) rfl
  have two : Lib.Steps Next (fun _ _ s i _ => s.ClosesOpen i) start _ _ _ :=
    one.step trivial (i := JpegCall.jpegOpen true 0) rfl
  have run : Lib.Steps Next (fun _ _ s i _ => s.ClosesOpen i) start _ _ _ :=
    two.step (.inr (.inl List.mem_cons_self)) (i := JpegCall.close 256 0) rfl
  exact ⟨_, rfl, accounted_of_run run⟩

/-- The second close of the handle `256` takes the library from the client `513`. -/
theorem closed_twice : ∃ s, Lib.Steps Next Lib.anyStep start
    ([] ++ [.jpegOpen true 0] ++ [.jpegOpen true 0] ++ [.close 256 0] ++ [.close 256 0])
    ([] ++ [.returned 256] ++ [.returned 513] ++ [.returned 0] ++ [.deinit, .returned 0]) s ∧
    s.clients = [513] ∧ s.intf.gJpegObj = none := by
  have one : Lib.Steps Next Lib.anyStep start _ _ _ :=
    .step .start trivial (i := JpegCall.jpegOpen true 0) rfl
  have two : Lib.Steps Next Lib.anyStep start _ _ _ :=
    one.step trivial (i := JpegCall.jpegOpen true 0) rfl
  have closed : Lib.Steps Next Lib.anyStep start _ _ _ :=
    two.step trivial (i := JpegCall.close 256 0) rfl
  have again : Lib.Steps Next Lib.anyStep start _ _ _ :=
    closed.step trivial (i := JpegCall.close 256 0) rfl
  exact ⟨_, again, rfl, rfl⟩

end JpegClients

end KiwiDevice.Jpeg

import KiwiDevice.Gps.LinkedList
import KiwiDevice.Lib.Steps

/-!
# Searching the doubly linked list

`linked_list_search` goes from the head on and can take the element out that it finds. Every
sequence of calls on one list acts on the elements, newest first, as a list.
-/

namespace KiwiDevice.Gps

universe u

/-- The local state of the loop: `dataP` is `none` for a null pointer, and `freed` the data given to
a deallocation function. -/
structure ListSearch (α : Type u) where
  list : ListState α
  tmp : Option Nat
  dataP : Option (Option α)
  freed : List α

/-- `malloc` gives `elem`. The search gets no predicate when `equal` is a null pointer. -/
inductive ListCall (α : Type u) where
  | add (elem : Option Nat) (dataObj : Option α) (dealloc : Bool)
  | remove (hasObj : Bool)
  | search (dataP : Option (Option α)) (equal : Option (α → Bool)) (rmIfFound : Bool)
  | flush

inductive ListReturn (α : Type u) where
  | added (err : LinkedListErr)
  | removed (err : LinkedListErr) (dataObj : Option α)
  | searched (err : LinkedListErr) (dataP : Option (Option α)) (freed : List α)
  | flushed (freed : List (α × Bool))
  deriving DecidableEq

namespace ListState

variable {α : Type u}

/-- The element before, or the head, gets another successor. -/
def setNext (s : ListState α) (prev next : Option Nat) : Option (ListState α) :=
  match prev with
  | none => some { s with pHead := next }
  | some p => s.modifyCell p fun e => { e with next := next }

/-- The element behind, or the tail, gets another predecessor. -/
def setPrev (s : ListState α) (next prev : Option Nat) : Option (ListState α) :=
  match next with
  | none => some { s with pTail := prev }
  | some n => s.modifyCell n fun e => { e with prev := prev }

def unlink (s : ListState α) (a : Nat) : Option (ListState α) :=
  (s.cell a).bind fun tmp =>
    (s.setNext tmp.prev tmp.next).bind fun s =>
      (s.cell a).bind fun tmp => (s.setPrev tmp.next tmp.prev).map fun s => s.setCell a none

/-- An access to a freed element leaves the loop where it is. -/
def searchPass (equal : α → Bool) (rmIfFound : Bool) (f : ListSearch α) : Option (ListSearch α) :=
  match f.tmp with
  | none => none
  | some a =>
    match f.list.cell a with
    | none => some f
    | some e =>
      if equal e.dataPtr then
        let dataP := f.dataP.map fun _ => some e.dataPtr
        if rmIfFound then
          match f.list.unlink a with
          | none => some f
          | some list =>
            some
              { list := list
                tmp := none
                dataP := dataP
                freed := if f.dataP.isNone && e.deallocFunc then f.freed ++ [e.dataPtr] else f.freed }
        else some { f with tmp := none, dataP := dataP }
      else some { f with tmp := e.next }

inductive LinkedListSearch (s : ListState α) (dataP : Option (Option α)) (rmIfFound : Bool) :
    Option (α → Bool) → ListReturn α → ListState α → Prop where
  | invalid : LinkedListSearch s dataP rmIfFound none (.searched .invalidHandle dataP []) s
  | empty {equal : α → Bool} (h : s.pTail = none) :
      LinkedListSearch s dataP rmIfFound (some equal) (.searched .unavailableResource dataP []) s
  | loop {equal : α → Bool} {r : ListSearch α} (h : s.pTail ≠ none)
      (exits : Lib.Loop.Exits (searchPass equal rmIfFound)
        ⟨s, s.pHead, dataP.map fun _ => none, []⟩ r) :
      LinkedListSearch s dataP rmIfFound (some equal) (.searched .success r.dataP r.freed) r.list

/-- `malloc` gives memory that is not in use. -/
def Ready (s : ListState α) : ListCall α → Prop
  | .add elem _ _ => ∀ a ∈ elem, s.cell a = none
  | _ => True

inductive Next (s : ListState α) : ListCall α → List (ListReturn α) → ListState α → Prop where
  | add {elem : Option Nat} {dataObj : Option α} {dealloc : Bool} {err : LinkedListErr}
      {s' : ListState α} (ready : s.Ready (.add elem dataObj dealloc))
      (h : s.linkedListAdd elem dataObj dealloc = some (err, s')) :
      Next s (.add elem dataObj dealloc) [.added err] s'
  | noObj : Next s (.remove false) [.removed .invalidParameter none] s
  | remove {err : LinkedListErr} {dataObj : Option α} {s' : ListState α}
      (h : s.linkedListRemove = some (err, dataObj, s')) :
      Next s (.remove true) [.removed err dataObj] s'
  | search {dataP : Option (Option α)} {equal : Option (α → Bool)} {rmIfFound : Bool}
      {r : ListReturn α} {s' : ListState α}
      (h : LinkedListSearch s dataP rmIfFound equal r s') :
      Next s (.search dataP equal rmIfFound) [r] s'
  | flush {freed : List (α × Bool)} {s' : ListState α} (h : LinkedListFlush s freed s') :
      Next s .flush [.flushed freed] s'

/-- A search in the elements `l`, newest first. -/
def searched (l : List (Linked α)) (dataP : Option (Option α)) (equal : α → Bool)
    (rmIfFound : Bool) : ListReturn α × List (Linked α) :=
  match l.find? fun x => equal x.dataPtr with
  | none => (.searched .success (dataP.map fun _ => none) [], l)
  | some x =>
    (.searched .success (dataP.map fun _ => some x.dataPtr)
        (if rmIfFound && (dataP.isNone && x.deallocFunc) then [x.dataPtr] else []),
      if rmIfFound then l.eraseP fun x => equal x.dataPtr else l)

/-- What a call does to the elements, newest first. -/
def called (l : List (Linked α)) : ListCall α → ListReturn α × List (Linked α)
  | .add (some a) (some data) dealloc => (.added .success, ⟨a, data, dealloc⟩ :: l)
  | .add none (some _) _ => (.added .failureGeneral, l)
  | .add _ none _ => (.added .invalidParameter, l)
  | .remove false => (.removed .invalidParameter none, l)
  | .remove true =>
    match l.getLast? with
    | none => (.removed .unavailableResource none, l)
    | some x => (.removed .success (some x.dataPtr), l.dropLast)
  | .search dataP none _ => (.searched .invalidHandle dataP [], l)
  | .search dataP (some equal) rmIfFound =>
    if l.isEmpty then (.searched .unavailableResource dataP [], l)
    else searched l dataP equal rmIfFound
  | .flush => (.flushed (l.map fun x => (x.dataPtr, x.deallocFunc)), [])

def calledAll (calls : List (ListCall α)) : List (ListReturn α) × List (Linked α) :=
  calls.foldl (fun r call => (r.1 ++ [(called r.2 call).1], (called r.2 call).2)) ([], [])

/-- The elements that are visited from `a` on. -/
inductive Visits (cell : Nat → Option (ListElement α)) (link : ListElement α → Option Nat) :
    Option Nat → List Nat → Prop where
  | stop : Visits cell link none []
  | visit {a : Nat} {e : ListElement α} {as : List Nat} (h : cell a = some e)
      (rest : Visits cell link (link e) as) : Visits cell link (some a) (a :: as)

structure WellLinked (s : ListState α) (as : List Nat) : Prop where
  nodup : as.Nodup
  forward : Visits s.cell ListElement.next s.pHead as
  backward : Visits s.cell ListElement.prev s.pTail as.reverse
  ends : s.pHead = none ↔ s.pTail = none

variable {s s' : ListState α} {l front back : List (Linked α)} {x : Linked α}
  {cell : Nat → Option (ListElement α)} {p n n' p' : Option Nat} {a : Nat}

theorem visits_next (h : Chain cell p l none) : Visits cell ListElement.next (first l) (l.map Linked.addr) := by
  induction l generalizing p with
  | nil => exact .stop
  | cons x l ih =>
    obtain ⟨hCell, hRest⟩ := h
    rw [Option.or_none] at hCell
    exact .visit hCell (ih hRest)

theorem visits_prev (h : Chain cell none l n) :
    Visits cell ListElement.prev (last l) (l.map Linked.addr).reverse := by
  induction l using List.reverseRecOn generalizing n with
  | nil => exact .stop
  | append_singleton l x ih =>
    obtain ⟨hFront, hCell, -⟩ := chain_append.mp h
    rw [Option.or_none] at hCell
    rw [last_snoc, List.map_append, List.reverse_append]
    exact .visit hCell (ih hFront)

theorem last_append : last (front ++ back) = (last back).or (last front) := by
  induction back using List.reverseRecOn with
  | nil => simp
  | append_singleton back y _ => rw [← List.append_assoc, last_snoc, last_snoc, Option.some_or]

theorem first_eq_none : first l = none ↔ l = [] := by
  cases l <;> simp

theorem last_eq_none : last l = none ↔ l = [] := by
  simp [last]

theorem Holds.wellLinked (h : Holds s l) : s.WellLinked (l.map Linked.addr) := by
  constructor
  · exact h.nodup
  · rw [h.head]
    exact visits_next h.chain
  · rw [h.tail]
    exact visits_prev h.chain
  · rw [h.head, h.tail, first_eq_none, last_eq_none]

/-- The front of a list with another element, or none, behind it. -/
theorem setNext_chain (hHead : s.pHead = (first front).or n) (hChain : Chain s.cell none front n)
    (hNodup : (front.map Linked.addr).Nodup) (n' : Option Nat) :
    ∃ s', s.setNext (last front) n' = some s' ∧ s'.pHead = (first front).or n' ∧
      s'.pTail = s.pTail ∧ Chain s'.cell none front n' ∧
      ∀ b, b ∉ front.map Linked.addr → s'.cell b = s.cell b := by
  cases front using List.reverseRecOn with
  | nil => exact ⟨_, rfl, rfl, rfl, trivial, fun _ _ => rfl⟩
  | append_singleton front y =>
    obtain ⟨hFront, hCell, -⟩ := chain_append.mp hChain
    obtain ⟨hNodup, hNotMem⟩ := nodup_snoc hNodup
    have hSet : s.setNext (last (front ++ [y])) n' = some (s.setCell y.addr
        (some ⟨n', last front, y.dataPtr, y.deallocFunc⟩)) := by
      rw [last_snoc]
      simp [setNext, modifyCell, hCell]
    refine ⟨_, hSet, ?_, rfl, ?_, ?_⟩
    · show s.pHead = _
      rw [hHead, first_append, Option.or_assoc, Option.or_assoc]
      rfl
    · apply chain_append.mpr
      constructor
      · exact hFront.setCell hNotMem _
      · refine ⟨?_, trivial⟩
        rw [setCell_self]
        simp
    · intro b hb
      apply setCell_ne
      rintro rfl
      exact hb (List.mem_map_of_mem (List.mem_append_right _ List.mem_cons_self))

/-- The back of a list with another element, or none, before it. -/
theorem setPrev_chain (hTail : s.pTail = (last back).or p) (hChain : Chain s.cell p back none)
    (hNodup : (back.map Linked.addr).Nodup) (p' : Option Nat) :
    ∃ s', s.setPrev (first back) p' = some s' ∧ s'.pHead = s.pHead ∧
      s'.pTail = (last back).or p' ∧ Chain s'.cell p' back none ∧
      ∀ b, b ∉ back.map Linked.addr → s'.cell b = s.cell b := by
  cases back with
  | nil => exact ⟨_, rfl, rfl, rfl, trivial, fun _ _ => rfl⟩
  | cons y back =>
    obtain ⟨hCell, hBack⟩ := hChain
    obtain ⟨hNotMem, hNodup⟩ := List.nodup_cons.mp hNodup
    have hSet : s.setPrev (first (y :: back)) p' = some (s.setCell y.addr
        (some ⟨first back, p', y.dataPtr, y.deallocFunc⟩)) := by
      simp [setPrev, modifyCell, hCell]
    refine ⟨_, hSet, rfl, ?_, ?_, ?_⟩
    · show s.pTail = _
      rw [hTail, last_cons, Option.or_assoc, Option.or_assoc]
      rfl
    · refine ⟨?_, hBack.setCell hNotMem _⟩
      rw [setCell_self]
      simp
    · intro b hb
      apply setCell_ne
      rintro rfl
      exact hb List.mem_cons_self

/-- Wherever the element stands, the others stay as they are. -/
theorem unlink_holds (h : Holds s (front ++ x :: back)) :
    ∃ s', s.unlink x.addr = some s' ∧ Holds s' (front ++ back) := by
  have hAddrs := h.nodup
  rw [List.map_append, List.map_cons] at hAddrs
  obtain ⟨hFrontNodup, hRestNodup, hDisjoint⟩ := List.nodup_append.mp hAddrs
  obtain ⟨hNotBack, hBackNodup⟩ := List.nodup_cons.mp hRestNodup
  have hNotFront : x.addr ∉ front.map Linked.addr :=
    fun hMem => hDisjoint _ hMem x.addr List.mem_cons_self rfl
  obtain ⟨hFront, hCell, hBack⟩ := chain_append.mp h.chain
  rw [Option.or_none] at hFront hCell hCell
  have hHead : s.pHead = (first front).or (first (x :: back)) := h.head.trans first_append
  have hTail : s.pTail = (last back).or (some x.addr) := by
    rw [h.tail, last_append, last_cons, Option.or_assoc, Option.some_or]
  obtain ⟨s₁, hNext, hHead₁, hTail₁, hFront₁, hFrame₁⟩ :=
    setNext_chain hHead hFront hFrontNodup (first back)
  have hBack₁ : Chain s₁.cell (some x.addr) back none :=
    hBack.congr fun y hy => hFrame₁ _ fun hMem =>
      hDisjoint _ hMem y.addr (List.mem_cons_of_mem _ (List.mem_map_of_mem hy)) rfl
  obtain ⟨s₂, hPrev, hHead₂, hTail₂, hBack₂, hFrame₂⟩ :=
    setPrev_chain (hTail₁.trans hTail) hBack₁ hBackNodup (last front)
  have hCell₁ := (hFrame₁ _ hNotFront).trans hCell
  have hUnlink : s.unlink x.addr = some (s₂.setCell x.addr none) := by
    simp [unlink, hCell, hNext, hCell₁, hPrev]
  refine ⟨_, hUnlink, ?_⟩
  constructor
  · rw [List.map_append]
    exact hAddrs.sublist ((List.sublist_cons_self _ _).append_left _)
  · show s₂.pHead = _
    rw [hHead₂, hHead₁, first_append]
  · show s₂.pTail = _
    rw [hTail₂, last_append]
  · apply chain_append.mpr
    constructor
    · rw [Option.or_none]
      apply Chain.setCell _ hNotFront
      exact hFront₁.congr fun y hy => hFrame₂ _ fun hMem =>
        hDisjoint _ (List.mem_map_of_mem hy) y.addr (List.mem_cons_of_mem _ hMem) rfl
    · rw [Option.or_none]
      exact hBack₂.setCell hNotBack _

variable {equal : α → Bool} {rmIfFound : Bool} {dataP : Option (Option α)}

theorem searched_miss (hFront : ∀ y ∈ l, equal y.dataPtr = false) :
    searched l dataP equal rmIfFound = (.searched .success (dataP.map fun _ => none) [], l) := by
  have hFind : l.find? (fun x => equal x.dataPtr) = none := by
    rw [List.find?_eq_none]
    exact fun y hy => Bool.eq_false_iff.mp (hFront y hy)
  rw [searched, hFind]

theorem searched_hit (hFront : ∀ y ∈ front, equal y.dataPtr = false) (hx : equal x.dataPtr = true) :
    searched (front ++ x :: back) dataP equal rmIfFound =
      (.searched .success (dataP.map fun _ => some x.dataPtr)
          (if rmIfFound && (dataP.isNone && x.deallocFunc) then [x.dataPtr] else []),
        if rmIfFound then front ++ back else front ++ x :: back) := by
  have hNone : ∀ y ∈ front, ¬ equal y.dataPtr = true := fun y hy => by simp [hFront y hy]
  have hFind : (front ++ x :: back).find? (fun x => equal x.dataPtr) = some x := by
    rw [List.find?_append, List.find?_eq_none.mpr hNone, Option.none_or]
    exact List.find?_cons_of_pos hx
  have hErase : (front ++ x :: back).eraseP (fun x => equal x.dataPtr) = front ++ back := by
    have hHere : (x :: back).eraseP (fun x => equal x.dataPtr) = back := List.eraseP_cons_of_pos hx
    rw [List.eraseP_append_right _ hNone, hHere]
  rw [searched, hFind]
  simp only [hErase]

variable (equal rmIfFound dataP) in
/-- From some element on, after a front in which nothing was found. -/
theorem search_exits (h : Holds s (front ++ back))
    (hFront : ∀ y ∈ front, equal y.dataPtr = false) :
    ∃ r l', Lib.Loop.Exits (searchPass equal rmIfFound)
        ⟨s, first back, dataP.map fun _ => none, []⟩ r ∧
      searched (front ++ back) dataP equal rmIfFound = (.searched .success r.dataP r.freed, l') ∧
      Holds r.list l' := by
  induction back generalizing front with
  | nil =>
    rw [List.append_nil] at h ⊢
    exact ⟨_, front, .done rfl, searched_miss hFront, h⟩
  | cons x back ih =>
    obtain ⟨-, hCell, -⟩ := chain_append.mp h.chain
    rw [Option.or_none] at hCell
    cases hx : equal x.dataPtr with
    | false =>
      have hPass : searchPass equal rmIfFound
          ⟨s, first (x :: back), dataP.map fun _ => none, []⟩ =
            some ⟨s, first back, dataP.map fun _ => none, []⟩ := by
        simp [searchPass, hCell, hx]
      have hMore : ∀ y ∈ front ++ [x], equal y.dataPtr = false := by
        intro y hy
        rcases List.mem_append.mp hy with hOld | hNew
        · exact hFront y hOld
        · rw [List.mem_singleton.mp hNew, hx]
      have hHere := ih (show Holds s ((front ++ [x]) ++ back) by simpa using h) hMore
      obtain ⟨r, l', hExits, hSearched, hHolds⟩ := hHere
      rw [List.append_assoc, List.singleton_append] at hSearched
      exact ⟨r, l', .next hPass hExits, hSearched, hHolds⟩
    | true =>
      have hHit : searched (front ++ x :: back) dataP equal rmIfFound = _ := searched_hit hFront hx
      cases hRemove : rmIfFound with
      | false =>
        have hPass : searchPass equal false ⟨s, first (x :: back), dataP.map fun _ => none, []⟩ =
            some ⟨s, none, dataP.map fun _ => some x.dataPtr, []⟩ := by
          simp [searchPass, hCell, hx, Function.comp_def]
        rw [hRemove] at hHit
        exact ⟨_, _, .next hPass (.done rfl), hHit, h⟩
      | true =>
        obtain ⟨s', hUnlink, hHolds⟩ := unlink_holds h
        have hPass : searchPass equal true ⟨s, first (x :: back), dataP.map fun _ => none, []⟩ =
            some ⟨s', none, dataP.map fun _ => some x.dataPtr,
              if dataP.isNone && x.deallocFunc then [x.dataPtr] else []⟩ := by
          simp [searchPass, hCell, hx, hUnlink, Function.comp_def]
        rw [hRemove] at hHit
        exact ⟨_, _, .next hPass (.done rfl), hHit, hHolds⟩

/-- A call on a list of the elements `l` does to them what `called` says. -/
def Does (l : List (Linked α)) (call : ListCall α) (r : ListReturn α) (s' : ListState α) : Prop :=
  (called l call).1 = r ∧ Holds s' (called l call).2

theorem add_does (h : Holds s l) {elem : Option Nat} {dataObj : Option α} {dealloc : Bool}
    (ready : s.Ready (.add elem dataObj dealloc)) :
    ∃ err s', s.linkedListAdd elem dataObj dealloc = some (err, s') ∧
      Does l (.add elem dataObj dealloc) (.added err) s' := by
  cases dataObj with
  | none => exact ⟨_, _, rfl, by cases elem <;> rfl, by cases elem <;> exact h⟩
  | some data =>
    cases elem with
    | none => exact ⟨_, _, rfl, rfl, h⟩
    | some a =>
      obtain ⟨s', hAdd, hHolds⟩ := add_holds h (ready a rfl) data dealloc
      exact ⟨_, _, hAdd, rfl, hHolds⟩

theorem remove_does (h : Holds s l) :
    ∃ err dataObj s', s.linkedListRemove = some (err, dataObj, s') ∧
      Does l (.remove true) (.removed err dataObj) s' := by
  cases l using List.reverseRecOn with
  | nil => exact ⟨_, _, _, remove_nil h, rfl, h⟩
  | append_singleton l x =>
    obtain ⟨s', hRemove, hHolds⟩ := remove_holds h
    refine ⟨_, _, _, hRemove, ?_, ?_⟩
    · simp [called]
    · simpa [called] using hHolds

theorem search_does (h : Holds s l) (dataP : Option (Option α)) (equal : Option (α → Bool))
    (rmIfFound : Bool) :
    ∃ r s', LinkedListSearch s dataP rmIfFound equal r s' ∧
      Does l (.search dataP equal rmIfFound) r s' := by
  cases equal with
  | none => exact ⟨_, _, .invalid, rfl, h⟩
  | some equal =>
    cases l with
    | nil => exact ⟨_, _, .empty h.tail, rfl, h⟩
    | cons x l =>
      have hTail : s.pTail ≠ none := by
        rw [h.tail, ne_eq, last_eq_none]
        exact List.cons_ne_nil x l
      obtain ⟨r, l', hExits, hSearched, hHolds⟩ :=
        search_exits equal rmIfFound dataP (show Holds s ([] ++ x :: l) from h) (by simp)
      rw [← h.head] at hExits
      refine ⟨_, _, .loop hTail hExits, ?_⟩
      have hCalled : called (x :: l) (.search dataP (some equal) rmIfFound) =
          (.searched .success r.dataP r.freed, l') := hSearched
      rw [Does, hCalled]
      exact ⟨rfl, hHolds⟩

theorem search_unique {r r' : ListReturn α} {equal : Option (α → Bool)} {s₁ s₂ : ListState α}
    (h : LinkedListSearch s dataP rmIfFound equal r s₁)
    (h' : LinkedListSearch s dataP rmIfFound equal r' s₂) : r = r' ∧ s₁ = s₂ := by
  cases h with
  | invalid =>
    cases h'
    exact ⟨rfl, rfl⟩
  | empty hTail =>
    cases h' with
    | empty _ => exact ⟨rfl, rfl⟩
    | loop hNot _ => exact absurd hTail hNot
  | loop hNot hExits =>
    cases h' with
    | empty hTail => exact absurd hTail hNot
    | loop _ hExits' =>
      obtain rfl := hExits.unique hExits'
      exact ⟨rfl, rfl⟩

/-- Every call returns. -/
theorem exists_next (h : Holds s l) (call : ListCall α) (ready : s.Ready call) :
    ∃ r s', Next s call [r] s' ∧ Does l call r s' := by
  cases call with
  | add elem dataObj dealloc =>
    obtain ⟨err, s', hAdd, hDoes⟩ := add_does h ready
    exact ⟨_, _, .add ready hAdd, hDoes⟩
  | remove hasObj =>
    cases hasObj with
    | false => exact ⟨_, _, .noObj, rfl, h⟩
    | true =>
      obtain ⟨err, dataObj, s', hRemove, hDoes⟩ := remove_does h
      exact ⟨_, _, .remove hRemove, hDoes⟩
  | search dataP equal rmIfFound =>
    obtain ⟨r, s', hSearch, hDoes⟩ := search_does h dataP equal rmIfFound
    exact ⟨_, _, .search hSearch, hDoes⟩
  | flush =>
    obtain ⟨s', hFlush⟩ := flush_holds h
    exact ⟨_, _, .flush hFlush, rfl, (holds_flush h hFlush).1⟩

theorem next_does (h : Holds s l) {call : ListCall α} {o : List (ListReturn α)}
    (hNext : Next s call o s') : ∃ r, o = [r] ∧ Does l call r s' := by
  cases hNext with
  | add ready hAdd =>
    obtain ⟨err, s₁, hAdd', hDoes⟩ := add_does h ready
    rw [hAdd'] at hAdd
    cases hAdd
    exact ⟨_, rfl, hDoes⟩
  | noObj => exact ⟨_, rfl, rfl, h⟩
  | remove hRemove =>
    obtain ⟨err, dataObj, s₁, hRemove', hDoes⟩ := remove_does h
    rw [hRemove'] at hRemove
    cases hRemove
    exact ⟨_, rfl, hDoes⟩
  | search hSearch =>
    obtain ⟨r, s₁, hSearch', hDoes⟩ := search_does h _ _ _
    obtain ⟨rfl, rfl⟩ := search_unique hSearch hSearch'
    exact ⟨_, rfl, hDoes⟩
  | flush hFlush =>
    obtain ⟨hHolds, rfl⟩ := holds_flush h hFlush
    exact ⟨_, rfl, rfl, hHolds⟩

theorem calledAll_snoc (calls : List (ListCall α)) (call : ListCall α) :
    calledAll (calls ++ [call]) =
      ((calledAll calls).1 ++ [(called (calledAll calls).2 call).1],
        (called (calledAll calls).2 call).2) := by
  simp [calledAll, List.foldl_append]

theorem run_holds {calls : List (ListCall α)} {returns : List (ListReturn α)}
    (run : Lib.Steps Next Lib.anyStep linkedListInit calls returns s) :
    returns = (calledAll calls).1 ∧ Holds s (calledAll calls).2 := by
  apply run.history (I := fun calls returns s =>
    returns = (calledAll calls).1 ∧ Holds s (calledAll calls).2)
  · exact ⟨rfl, holds_init⟩
  · rintro calls returns s call o s' - ⟨hReturns, hHolds⟩ hNext
    obtain ⟨r, rfl, hReturn, hHolds'⟩ := next_does hHolds hNext
    rw [calledAll_snoc, hReturns, hReturn]
    exact ⟨rfl, hHolds'⟩

/-- The calls act on the list as on a first-in first-out list with removal from its middle, in any
order and with any predicate, and each of them returns. -/
theorem linked_list_refines {calls : List (ListCall α)} {returns : List (ListReturn α)}
    (run : Lib.Steps Next Lib.anyStep linkedListInit calls returns s) :
    returns = (calledAll calls).1 ∧ s.WellLinked ((calledAll calls).2.map Linked.addr) ∧
      ∀ call, s.Ready call → ∃ r s', Next s call [r] s' := by
  obtain ⟨hReturns, hHolds⟩ := run_holds run
  refine ⟨hReturns, hHolds.wellLinked, ?_⟩
  intro call ready
  obtain ⟨r, s', hNext, -⟩ := exists_next hHolds call ready
  exact ⟨r, s', hNext⟩

/-- Three elements, of which the middle one is searched and taken out. -/
def middleCalls : List (ListCall Nat) :=
  [.add (some 10) (some 1) true, .add (some 20) (some 2) true, .add (some 30) (some 3) true,
    .search none (some fun data => data ≤ 2) true]

theorem linked_list_refines_middle :
    ∃ returns, ∃ s : ListState Nat,
      Lib.Steps Next Lib.anyStep linkedListInit middleCalls returns s ∧
        returns = [.added .success, .added .success, .added .success,
          .searched .success none [2]] ∧ s.WellLinked [30, 10] := by
  have run : Lib.Steps Next Lib.anyStep linkedListInit (middleCalls.take 3) _ _ :=
    ((Lib.Steps.start.step trivial (.add (by rintro a ⟨⟩; rfl) rfl)).step trivial
      (.add (by rintro a ⟨⟩; rfl) rfl)).step trivial (.add (by rintro a ⟨⟩; rfl) rfl)
  obtain ⟨r, s, hNext, -⟩ := exists_next (run_holds run).2
    (.search none (some fun data => data ≤ 2) true) trivial
  have runAll := run.step trivial hNext
  obtain ⟨hReturns, hLinked, -⟩ := linked_list_refines runAll
  exact ⟨_, s, runAll, hReturns, hLinked⟩

end ListState

end KiwiDevice.Gps

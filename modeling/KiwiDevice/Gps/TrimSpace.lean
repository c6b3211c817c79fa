import KiwiDevice.Gps.ConfigText
import KiwiDevice.Lib.CArray

/-!
# Trimming in place

`loc_util_trim_space` moves the text to the front of its own array while it reads it. The array does
what `locUtilTrimSpace` says of the text, in its own bounds, and a text of spaces only is not
trimmed.
-/

namespace KiwiDevice.Gps.Conf

open Lib (store)

/-- The terminator of a string. -/
def nul : Char := Char.ofNat 0

/-- The string at the start of an array. -/
def textOf (array : List Char) : Text := array.takeWhile (· ≠ nul)

/-- The array and the variables of the function; a pointer is an index into the array. -/
structure TrimState where
  orgString : List Char
  scanPtr : Nat := 0
  writePtr : Nat := 0
  firstNonspace : Option Nat := none
  lastNonspace : Option Nat := none

/-- One turn of the loop, on the character at `scanPtr`. A character that is moved is read again for
the second check. -/
def trimTurn (s : TrimState) (c : Char) : Option TrimState :=
  let firstNonspace :=
    if !isspace c && s.firstNonspace.isNone then some s.scanPtr else s.firstNonspace
  if firstNonspace.isSome then
    (store s.orgString s.writePtr c).bind fun orgString =>
      orgString[s.scanPtr]?.map fun moved =>
        { orgString
          scanPtr := s.scanPtr + 1
          writePtr := s.writePtr + 1
          firstNonspace
          lastNonspace := if !isspace moved then some (s.writePtr + 1) else s.lastNonspace }
  else some { s with scanPtr := s.scanPtr + 1, firstNonspace }

/-- The loop, with `n` characters of the array left from `scanPtr` on. -/
def trimLoop : Nat → TrimState → Option TrimState
  | 0, _ => none
  | n + 1, s =>
    s.orgString[s.scanPtr]?.bind fun c =>
      if c = nul then some s else (trimTurn s c).bind (trimLoop n)

/-- `loc_util_trim_space`: the array after the call; a NULL pointer is left alone. An access outside
of the array has no result. -/
def locUtilTrimSpaceAt : Option (List Char) → Option (Option (List Char))
  | none => some none
  | some orgString =>
    (trimLoop orgString.length { orgString }).bind fun s =>
      match s.lastNonspace with
      | none => some (some s.orgString)
      | some last => (store s.orgString last nul).map some

/-! ## The loop -/

variable {done todo rest text tail : Text} {s : TrimState} {c : Char}

/-- What the scan of the characters read so far has found. -/
def scanOf (done : Text) : TrimScan := done.foldl trimPass ⟨false, [], none⟩

theorem scanOf_snoc (done : Text) (c : Char) : scanOf (done ++ [c]) = trimPass (scanOf done) c :=
  List.foldl_append

/-- With `done` read: the array starts with what the scan has written and is still to be read from
`scanPtr` on. Up to the first character that is no space it has not changed. -/
structure Scans (done rest : Text) (s : TrimState) : Prop where
  array : ∃ between, s.orgString = (scanOf done).written ++ between ++ rest ∧
    (scanOf done).written.length + between.length = done.length
  same : (scanOf done).firstNonspace = false → s.orgString = done ++ rest
  scanPtr : s.scanPtr = done.length
  writePtr : s.writePtr = (scanOf done).written.length
  firstNonspace : s.firstNonspace.isSome = (scanOf done).firstNonspace
  lastNonspace : s.lastNonspace = (scanOf done).lastNonspace

theorem Scans.read (h : Scans done (c :: rest) s) : s.orgString[s.scanPtr]? = some c := by
  obtain ⟨between, hArray, hLength⟩ := h.array
  rw [h.scanPtr, hArray, List.getElem?_append_right (by rw [List.length_append, hLength]),
    List.length_append, hLength, Nat.sub_self]
  rfl

/-- A character is moved to the front of the array: `writePtr` is not after `scanPtr`. -/
theorem Scans.move (h : Scans done (c :: rest) s) :
    ∃ array between, store s.orgString s.writePtr c = some array ∧
      array[s.scanPtr]? = some c ∧ array = (scanOf done).written ++ [c] ++ between ++ rest ∧
      (scanOf done).written.length + 1 + between.length = done.length + 1 := by
  have hRead := h.read
  obtain ⟨between, hArray, hLength⟩ := h.array
  obtain ⟨first, others, hFirst⟩ : ∃ first others, between ++ [c] = first :: others :=
    List.exists_cons_of_ne_nil (List.append_ne_nil_of_right_ne_nil _ (List.cons_ne_nil c []))
  have hCount : others.length = between.length := by
    have hBoth := congrArg List.length hFirst
    rw [List.length_append, List.length_cons] at hBoth
    exact (Nat.succ.inj hBoth).symm
  have hSplit : s.orgString = (scanOf done).written ++ first :: (others ++ rest) := by
    rw [hArray, List.append_assoc, List.append_cons between c rest, hFirst]
    rfl
  have hIn : s.writePtr < s.orgString.length := by
    rw [h.writePtr, hSplit, List.length_append]
    exact Nat.lt_add_of_pos_right (Nat.succ_pos _)
  refine ⟨s.orgString.set s.writePtr c, others, Lib.store_of_lt hIn, ?_, ?_, ?_⟩
  · rw [List.getElem?_set]
    split
    · rfl
    · exact hRead
  · rw [h.writePtr, hSplit, List.set_append_right _ _ le_rfl, Nat.sub_self]
    simp
  · rw [hCount, ← hLength]
    omega

theorem Scans.turn (h : Scans done (c :: rest) s) :
    ∃ s', trimTurn s c = some s' ∧ Scans (done ++ [c]) rest s' := by
  have hFirst : (if !isspace c && s.firstNonspace.isNone then some s.scanPtr
      else s.firstNonspace).isSome = ((scanOf done).firstNonspace || !isspace c) := by
    rw [← h.firstNonspace]
    cases isspace c <;> cases s.firstNonspace <;> rfl
  have hLength : (done ++ [c]).length = done.length + 1 := List.length_append
  cases hMoves : (scanOf done).firstNonspace || !isspace c with
  | true =>
    obtain ⟨array, between, hStore, hRead, hArray, hBetween⟩ := h.move
    have hScan : scanOf (done ++ [c]) = ⟨true, (scanOf done).written ++ [c],
        if isspace c then (scanOf done).lastNonspace
        else some ((scanOf done).written.length + 1)⟩ := by
      rw [scanOf_snoc, trimPass, hMoves, if_pos rfl]
    rw [hMoves] at hFirst
    rw [trimTurn, if_pos hFirst, hStore, Option.bind_some, hRead]
    refine ⟨_, rfl, ?_, ?_, ?_, ?_, ?_, ?_⟩
    · refine ⟨between, ?_, ?_⟩
      · rw [hScan]
        exact hArray
      · rw [hScan, hLength, ← hBetween, List.length_append]
        rfl
    · rw [hScan]
      intro hNone
      cases hNone
    · rw [hLength, ← h.scanPtr]
    · rw [hScan, List.length_append, ← h.writePtr]
      rfl
    · rw [hScan]
      exact hFirst
    · rw [hScan, h.writePtr, h.lastNonspace]
      dsimp only
      cases isspace c <;> rfl
  | false =>
    obtain ⟨between, hArray, hBetween⟩ := h.array
    have hScan : scanOf (done ++ [c]) = scanOf done := by
      rw [scanOf_snoc, trimPass, hMoves, if_neg Bool.false_ne_true]
    rw [hMoves] at hFirst
    rw [trimTurn, if_neg (by rw [hFirst]; exact Bool.false_ne_true)]
    refine ⟨_, rfl, ?_, ?_, ?_, ?_, ?_, ?_⟩
    · refine ⟨between ++ [c], ?_, ?_⟩
      · rw [hScan, hArray, List.append_assoc, List.append_assoc, List.append_assoc]
        rfl
      · rw [hScan, hLength, ← hBetween, List.length_append]
        rfl
    · intro _
      rw [List.append_assoc]
      exact h.same (Bool.or_eq_false_iff.mp hMoves).1
    · rw [hLength, ← h.scanPtr]
    · rw [hScan, ← h.writePtr]
    · rw [hScan, (Bool.or_eq_false_iff.mp hMoves).1]
      exact hFirst
    · rw [hScan, ← h.lastNonspace]

/-- The loop reads the string and stops at its terminator. -/
theorem trimLoop_spec (hNul : nul ∉ todo) (h : Scans done (todo ++ nul :: tail) s) :
    ∃ s', trimLoop (todo ++ nul :: tail).length s = some s' ∧
      Scans (done ++ todo) (nul :: tail) s' := by
  induction todo generalizing done s with
  | nil =>
    refine ⟨s, ?_, by rwa [List.append_nil]⟩
    rw [List.nil_append, List.length_cons, trimLoop, Scans.read h, Option.bind_some, if_pos rfl]
  | cons c todo ih =>
    have hNe : c ≠ nul := fun hEq => hNul (hEq ▸ List.mem_cons_self)
    obtain ⟨s₁, hTurn, hNext⟩ := Scans.turn h
    obtain ⟨s', hLoop, hEnd⟩ := ih (fun hMem => hNul (List.mem_cons_of_mem c hMem)) hNext
    rw [List.append_assoc] at hEnd
    refine ⟨s', ?_, hEnd⟩
    rw [List.cons_append, List.length_cons, trimLoop, Scans.read h, Option.bind_some, if_neg hNe,
      hTurn]
    exact hLoop

theorem scans_start (array : List Char) : Scans [] array { orgString := array } where
  array := ⟨[], rfl, rfl⟩
  same _ := rfl
  scanPtr := rfl
  writePtr := rfl
  firstNonspace := rfl
  lastNonspace := rfl

/-! ## The call -/

/-- A terminator that is put into the string ends it there. -/
theorem set_nul {array : List Char} {last : Nat} (hLast : last < array.length) :
    (array ++ tail).set last nul = array.take last ++ nul :: (array.drop (last + 1) ++ tail) := by
  rw [List.set_append_left _ _ hLast, List.set_eq_take_append_cons_drop, if_pos hLast,
    List.append_assoc]
  rfl

/-- The array holds the trimmed text after the call, and what is after the string is as it was. -/
theorem locUtilTrimSpaceAt_eq (hNul : nul ∉ text) (tail : List Char) :
    ∃ rest, locUtilTrimSpaceAt (some (text ++ nul :: tail)) =
        some (some (locUtilTrimSpace text ++ nul :: (rest ++ tail))) ∧
      (locUtilTrimSpace text).length + rest.length = text.length := by
  obtain ⟨s, hLoop, h⟩ := trimLoop_spec hNul (scans_start (text ++ nul :: tail))
  rw [List.nil_append] at h
  have hScan : scanOf text = _ := trimScan_eq text
  rw [locUtilTrimSpaceAt, hLoop, Option.bind_some, h.lastNonspace, hScan, locUtilTrimSpace_eq]
  cases hBlank : text.all isspace with
  | true =>
    refine ⟨[], ?_, rfl⟩
    rw [h.same (by rw [hScan, hBlank]; rfl)]
    rfl
  | false =>
    obtain ⟨between, hArray, hLength⟩ := h.array
    rw [hScan] at hArray hLength
    dsimp only at hArray hLength
    have hPrefix : strip text <+: text.dropWhile isspace := List.rdropWhile_prefix _ _
    have hLe := hPrefix.length_le
    have hSplit : s.orgString = text.dropWhile isspace ++ between ++ [nul] ++ tail := by
      rw [hArray, List.append_assoc _ [nul] tail]
      rfl
    have hIn : (strip text).length < (text.dropWhile isspace ++ between ++ [nul]).length := by
      rw [List.length_append, List.length_append, hLength, List.length_singleton]
      omega
    have hTake : (text.dropWhile isspace ++ between ++ [nul]).take (strip text).length =
        strip text := by
      rw [List.append_assoc, List.take_append_of_le_length hLe]
      exact (List.prefix_iff_eq_take.mp hPrefix).symm
    have hStored : (strip text).length < s.orgString.length := by
      rw [hSplit, List.length_append]
      omega
    refine ⟨(text.dropWhile isspace ++ between ++ [nul]).drop ((strip text).length + 1), ?_, ?_⟩
    · simp only [Bool.false_eq_true, if_false]
      rw [Lib.store_of_lt hStored, hSplit, set_nul hIn, hTake]
      rfl
    · simp only [Bool.false_eq_true, if_false]
      rw [List.length_drop, List.length_append, List.length_append, hLength,
        List.length_singleton]
      rw [List.length_append, List.length_append, hLength, List.length_singleton] at hIn
      omega

theorem textOf_append {s : Text} (hNul : nul ∉ s) (rest : List Char) :
    textOf (s ++ nul :: rest) = s := by
  rw [textOf, List.takeWhile_append_of_pos, List.takeWhile_cons_of_neg (by simp), List.append_nil]
  intro c hMem
  exact decide_eq_true fun hEq => hNul (hEq ▸ hMem)

theorem nul_notMem_strip (hNul : nul ∉ text) : nul ∉ strip text := fun hMem =>
  hNul ((List.dropWhile_suffix _).subset ((List.rdropWhile_prefix _ _).subset hMem))

theorem nul_notMem_trim (hNul : nul ∉ text) : nul ∉ locUtilTrimSpace text := by
  rw [locUtilTrimSpace_eq]
  split
  · exact hNul
  · exact nul_notMem_strip hNul

/-- No space is left at either end. -/
theorem strip_strip (text : Text) : strip (strip text) = strip text := by
  have hFront : (strip text).dropWhile isspace = strip text := by
    obtain ⟨back, hBack⟩ : strip text <+: text.dropWhile isspace := List.rdropWhile_prefix _ _
    cases hStrip : strip text with
    | nil => rfl
    | cons c s =>
      rw [hStrip, List.cons_append] at hBack
      have hFirst := List.head?_dropWhile_not isspace text
      rw [← hBack, List.head?_cons] at hFirst
      exact List.dropWhile_cons_of_neg (by simpa using hFirst)
  rw [strip, hFront, strip, List.rdropWhile_idempotent]

theorem locUtilTrimSpace_twice (text : Text) :
    locUtilTrimSpace (locUtilTrimSpace text) = locUtilTrimSpace text := by
  rw [locUtilTrimSpace_eq text]
  split
  · rename_i hBlank
    rw [locUtilTrimSpace_eq, if_pos hBlank]
  · rw [locUtilTrimSpace_eq, strip_strip]
    exact ite_self _

/-- The call strips the string, and a second call leaves it so. -/
def Strips (text : Text) (tail : List Char) : Prop :=
  ∃ once twice, locUtilTrimSpaceAt (some (text ++ nul :: tail)) = some (some once) ∧
    textOf once = strip text ∧
    locUtilTrimSpaceAt (some once) = some (some twice) ∧ textOf twice = textOf once

/-- A string is stripped iff it is empty or not all spaces. -/
theorem trim_space_iff (hNul : nul ∉ text) (tail : List Char) :
    Strips text tail ↔ text = [] ∨ ∃ c ∈ text, isspace c = false := by
  obtain ⟨rest, hOnce, -⟩ := locUtilTrimSpaceAt_eq hNul tail
  obtain ⟨rest', hTwice, -⟩ := locUtilTrimSpaceAt_eq (nul_notMem_trim hNul) (rest ++ tail)
  rw [locUtilTrimSpace_twice] at hTwice
  have hText := textOf_append (nul_notMem_trim hNul)
  constructor
  · rintro ⟨once, -, hCall, hStrip, -⟩
    cases hOnce.symm.trans hCall
    rw [hText, locUtilTrimSpace_eq] at hStrip
    cases hBlank : text.all isspace with
    | true =>
      rw [hBlank, if_pos rfl, strip_blank hBlank] at hStrip
      exact .inl hStrip
    | false =>
      obtain ⟨c, hMem, hSpace⟩ := List.all_eq_false.mp hBlank
      exact .inr ⟨c, hMem, Bool.not_eq_true _ |>.mp hSpace⟩
  · intro hSome
    refine ⟨_, _, hOnce, ?_, hTwice, (hText _).trans (hText _).symm⟩
    rw [hText, locUtilTrimSpace_eq]
    rcases hSome with rfl | ⟨c, hMem, hSpace⟩
    · rfl
    · refine if_neg fun hBlank => ?_
      rw [List.all_eq_true.mp hBlank c hMem] at hSpace
      cases hSpace

/-- A value with spaces around and inside it. -/
theorem trim_space_value : Strips [' ', '\t', 'a', ' ', 'b', '\n'] ['x'] :=
  (trim_space_iff (by decide) ['x']).mpr (.inr ⟨'a', by decide, by decide⟩)

/-- One space stays. -/
theorem trim_space_blank : ¬ Strips [' '] [] := by
  rintro ⟨once, twice, hOnce, hStrip, -⟩
  have hSame : locUtilTrimSpaceAt (some [' ', nul]) = some (some [' ', nul]) := by decide
  cases hSame.symm.trans hOnce
  cases hStrip

end KiwiDevice.Gps.Conf

import KiwiDevice.Lib.CArray
import KiwiDevice.Lib.Percent
import Mathlib.Data.List.DropRight

/-!
# The user agent of the XTRA client

`encodeInPlace` and `getChipsetSerialNo` of `LocSetXtraUserAgent`. An access outside of a buffer has
no result. A place in the text that is encoded is the rest of its array from there.
-/

namespace KiwiDevice.Gps.UserAgent

open Lib (store cString percent percentDecode)

def encodings : List (UInt8 × List UInt8) :=
  [(47, [37, 50, 70]), (43, [37, 50, 66]), (124, [37, 55, 67]), (37, [37, 50, 53])]

def numCharsInCode : Nat := 3

/-- The loop over the characters of a code. -/
def copyCode (size : Nat) : List UInt8 → Nat → List UInt8 → Option (Nat × List UInt8)
  | [], outpos, buffer => some (outpos, buffer)
  | c :: code, outpos, buffer =>
    if outpos < size - 1 then
      (store buffer outpos c).bind (copyCode size code (outpos + 1))
    else some (outpos, buffer)

/-- The loop over the text; it ends at the NUL, with a full buffer, or before an escape that does
not fit. -/
def encodeLoop (size : Nat) : List UInt8 → Nat → List UInt8 → Option (Nat × List UInt8)
  | [], _, _ => none
  | c :: value, outpos, buffer =>
    if c ≠ 0 ∧ outpos < size - 1 then
      match encodings.find? (·.1 = c) with
      | none => (store buffer outpos c).bind (encodeLoop size value (outpos + 1))
      | some (_, code) =>
        if size ≤ outpos + numCharsInCode then some (outpos, buffer)
        else (copyCode size code outpos buffer).bind fun r => encodeLoop size value r.1 r.2
    else some (outpos, buffer)

/-- The loop that copies the bytes before `n`, the last one first. -/
def copyBack (buffer : List UInt8) : Nat → List UInt8 → Option (List UInt8)
  | 0, value => some value
  | n + 1, value => buffer[n]?.bind fun c => (store value n c).bind (copyBack buffer n)

/-- `buffer` is what the local array holds at first. -/
def encodeInPlace (size : Nat) (buffer value : List UInt8) : Option (List UInt8) :=
  (encodeLoop size value 0 buffer).bind fun r => (store value r.1 0).bind (copyBack r.2 r.1)

def defVal : List UInt8 := [45]

def isSpace (c : UInt8) : Bool := c = 32 ∨ 9 ≤ c ∧ c ≤ 13

def strlcpy (buf src : List UInt8) : List UInt8 :=
  src.take (buf.length - 1) ++ 0 :: buf.drop ((src.take (buf.length - 1)).length + 1)

/-- The loop over the trailing spaces. At 0 the unsigned `len` wraps around, to an index outside of
every array. -/
def trimSpaces : Nat → List UInt8 → Option (List UInt8)
  | 0, _ => none
  | len + 1, buf =>
    buf[len]?.bind fun c => if isSpace c then (store buf len 0).bind (trimSpaces len) else some buf

/-- What `fread` puts into the buffer, from a file with these bytes. -/
def fread (buf file : List UInt8) : List UInt8 × Nat :=
  let bytes := file.take (buf.length - 1)
  (bytes ++ buf.drop bytes.length, bytes.length)

/-- `file` is `none` when it cannot be opened. -/
def getChipsetSerialNo (buf : List UInt8) : Option (List UInt8) → Option (List UInt8)
  | none => some (strlcpy buf defVal)
  | some file =>
    let size := (fread buf file).2
    let filled :=
      if size = 0 then some (strlcpy (fread buf file).1 defVal) else store (fread buf file).1 size 0
    filled.bind fun buf => trimSpaces (cString buf).length buf

/-! ## Encoding -/

/-- How a character is encoded. -/
def encode (c : UInt8) : List UInt8 := ((encodings.find? (·.1 = c)).map (·.2)).getD [c]

variable {size outpos : Nat} {c : UInt8} {code buffer value input tail done : List UInt8}

theorem encode_cases (c : UInt8) :
    encodings.find? (·.1 = c) = none ∧ encode c = [c] ∧ c ≠ percent ∨
      ∃ code, encodings.find? (·.1 = c) = some (c, code) ∧ encode c = code ∧
        (c, code) ∈ encodings := by
  rw [encode]
  cases hFind : encodings.find? (·.1 = c) with
  | none =>
    refine .inl ⟨rfl, rfl, ?_⟩
    rintro rfl
    exact absurd hFind (by decide)
  | some e =>
    obtain ⟨c', code⟩ := e
    have hFound := List.find?_some hFind
    have hSame : c' = c := of_decide_eq_true hFound
    subst hSame
    exact .inr ⟨code, rfl, rfl, List.mem_of_find?_eq_some hFind⟩

theorem length_code {e : UInt8 × List UInt8} (h : e ∈ encodings) : e.2.length = numCharsInCode := by
  revert e
  decide

theorem length_encode_pos (c : UInt8) : 0 < (encode c).length := by
  rcases encode_cases c with ⟨-, hEncode, -⟩ | ⟨code, -, hEncode, hMem⟩
  · rw [hEncode]
    exact Nat.one_pos
  · rw [hEncode, length_code hMem]
    decide

theorem decode_code {e : UInt8 × List UInt8} (h : e ∈ encodings) (rest : List UInt8) :
    percentDecode (e.2 ++ rest) = e.1 :: percentDecode rest := by
  simp only [encodings, List.mem_cons, List.not_mem_nil, or_false] at h
  rcases h with rfl | rfl | rfl | rfl <;> rfl

theorem decode_encode (c : UInt8) (rest : List UInt8) :
    percentDecode (encode c ++ rest) = c :: percentDecode rest := by
  rcases encode_cases c with ⟨-, hEncode, hNe⟩ | ⟨code, -, hEncode, hMem⟩
  · rw [hEncode]
    exact Lib.percentDecode_cons hNe rest
  · rw [hEncode]
    exact decode_code hMem rest

theorem decode_flatMap (s : List UInt8) : percentDecode (s.flatMap encode) = s := by
  induction s with
  | nil => rfl
  | cons c s ih => rw [List.flatMap_cons, decode_encode, ih]

/-! ## The loops -/

/-- The buffer holds `done` up to `outpos`. -/
structure Filled (size : Nat) (done : List UInt8) (outpos : Nat) (buffer : List UInt8) : Prop where
  length : buffer.length = size
  pos : outpos = done.length
  room : outpos < size
  bytes : buffer.take outpos = done

theorem Filled.put (h : Filled size done outpos buffer) (hRoom : outpos < size - 1) (c : UInt8) :
    ∃ buffer', store buffer outpos c = some buffer' ∧ Filled size (done ++ [c])
    (outpos + 1) buffer' := by
  have hLt : outpos < buffer.length := by
    rw [h.length]
    exact h.room
  refine ⟨buffer.set outpos c, Lib.store_of_lt hLt, ?_, ?_, ?_, Lib.take_set_succ hLt h.bytes⟩
  · rw [List.length_set, h.length]
  · rw [List.length_append, h.pos]
    rfl
  · omega

theorem Filled.nothing (h : Filled size done outpos buffer) :
    Filled size (done ++ ([] : List UInt8).flatMap encode) outpos buffer := by
  rwa [List.flatMap_nil, List.append_nil]

theorem copyCode_spec (code : List UInt8) (h : Filled size done outpos buffer)
    (hRoom : outpos + code.length < size) :
    ∃ buffer', copyCode size code outpos buffer = some (outpos + code.length, buffer') ∧
      Filled size (done ++ code) (outpos + code.length) buffer' := by
  induction code generalizing done outpos buffer with
  | nil => exact ⟨buffer, rfl, by rwa [List.append_nil]⟩
  | cons c code ih =>
    rw [List.length_cons] at hRoom ⊢
    obtain ⟨buffer', hPut, hFilled⟩ := h.put (by omega) c
    obtain ⟨buffer'', hCopy, hEnd⟩ := ih hFilled (by omega)
    rw [List.append_assoc, Nat.add_assoc, Nat.add_comm 1] at hEnd
    rw [Nat.add_assoc, Nat.add_comm 1] at hCopy
    refine ⟨buffer'', ?_, hEnd⟩
    rw [copyCode, if_pos (by omega), hPut]
    exact hCopy

/-- `pre` is as much of the text as fits, encoded after `done`. -/
def Longest (size : Nat) (done pre input : List UInt8) : Prop :=
  pre <+: input ∧ (done ++ pre.flatMap encode).length < size ∧
    ∀ c, pre ++ [c] <+: input → size ≤ (done ++ (pre ++ [c]).flatMap encode).length

theorem Longest.nil (hFilled : Filled size done outpos buffer)
    (hFull : ∀ c, [c] <+: input → size ≤ outpos + (encode c).length) :
    Longest size done [] input := by
  refine ⟨List.nil_prefix, ?_, ?_⟩
  · rw [List.flatMap_nil, List.append_nil, ← hFilled.pos]
    exact hFilled.room
  · intro c hc
    have hLe := hFull c hc
    rw [hFilled.pos] at hLe
    simpa using hLe

theorem Longest.cons {pre : List UInt8} (h : Longest size (done ++ encode c) pre input) :
    Longest size done (c :: pre) (c :: input) := by
  obtain ⟨hPrefix, hFits, hNext⟩ := h
  refine ⟨List.cons_prefix_cons.mpr ⟨rfl, hPrefix⟩, ?_, ?_⟩
  · rwa [List.flatMap_cons, ← List.append_assoc]
  · intro c' hc'
    rw [List.cons_append, List.flatMap_cons, ← List.append_assoc]
    exact hNext c' (List.cons_prefix_cons.mp hc').2

theorem Longest.maximal {pre pre' : List UInt8} (h : Longest size [] pre input)
    (hPrefix : pre' <+: input) (hFits : (pre'.flatMap encode).length < size) : pre' <+: pre := by
  rcases List.prefix_or_prefix_of_prefix hPrefix h.1 with hShort | ⟨more, rfl⟩
  · exact hShort
  · cases more with
    | nil => exact ⟨[], by rw [List.append_nil, List.append_nil]⟩
    | cons c more =>
      rw [List.append_cons] at hPrefix hFits
      have hNext := h.2.2 c ((List.prefix_append _ _).trans hPrefix)
      rw [List.flatMap_append, List.length_append] at hFits
      rw [List.nil_append] at hNext
      omega

theorem encodeLoop_spec (tail : List UInt8) (hNul : 0 ∉ input)
    (h : Filled size done outpos buffer) :
    ∃ pre outpos' buffer', encodeLoop size (input ++ 0 :: tail) outpos buffer =
        some (outpos', buffer') ∧
      Filled size (done ++ pre.flatMap encode) outpos' buffer' ∧ Longest size done pre input := by
  have hSelf := h.nothing
  induction input generalizing done outpos buffer with
  | nil =>
    refine ⟨[], outpos, buffer, rfl, hSelf, Longest.nil h fun c hc => ?_⟩
    exact absurd (List.prefix_nil.mp hc) (List.cons_ne_nil c [])
  | cons c input ih =>
    have hNe : c ≠ 0 := fun hZero => hNul (hZero ▸ List.mem_cons_self)
    have hRest : 0 ∉ input := fun hMem => hNul (List.mem_cons_of_mem c hMem)
    rw [List.cons_append, encodeLoop]
    split
    · rename_i hGo
      rcases encode_cases c with ⟨hFind, hEncode, -⟩ | ⟨code, hFind, hEncode, hMem⟩
      · rw [hFind]
        obtain ⟨buffer', hPut, hFilled⟩ := h.put hGo.2 c
        rw [← hEncode] at hFilled
        obtain ⟨pre, outpos', buffer'', hLoop, hEnd, hLongest⟩ := ih hRest hFilled hFilled.nothing
        rw [List.append_assoc, ← List.flatMap_cons] at hEnd
        refine ⟨c :: pre, outpos', buffer'', ?_, hEnd, hLongest.cons⟩
        dsimp only
        rw [hPut]
        exact hLoop
      · rw [hFind]
        have hLength : code.length = numCharsInCode := length_code hMem
        dsimp only
        split
        · rename_i hFull
          refine ⟨[], outpos, buffer, rfl, hSelf, Longest.nil h fun c' hc' => ?_⟩
          obtain ⟨rfl, -⟩ := List.cons_prefix_cons.mp hc'
          rwa [hEncode, hLength]
        · rename_i hRoom
          obtain ⟨buffer', hCopy, hFilled⟩ := copyCode_spec code h (by omega)
          rw [← hEncode] at hFilled
          obtain ⟨pre, outpos', buffer'', hLoop, hEnd, hLongest⟩ := ih hRest hFilled hFilled.nothing
          rw [List.append_assoc, ← List.flatMap_cons] at hEnd
          refine ⟨c :: pre, outpos', buffer'', ?_, hEnd, hLongest.cons⟩
          rw [hCopy, Option.bind_some, ← hEncode]
          exact hLoop
    · rename_i hStop
      refine ⟨[], outpos, buffer, rfl, hSelf, Longest.nil h fun c' _ => ?_⟩
      have hPos := length_encode_pos c'
      have hFull : ¬ outpos < size - 1 := fun hLt => hStop ⟨hNe, hLt⟩
      omega

theorem copyBack_spec {n : Nat} (hBuffer : n ≤ buffer.length) (hValue : n ≤ value.length) :
    copyBack buffer n value = some (buffer.take n ++ value.drop n) := by
  induction n generalizing value with
  | zero => rfl
  | succ n ih =>
    have hRead : buffer[n]? = some buffer[n] := List.getElem?_eq_getElem hBuffer
    have hStored : n ≤ (value.set n buffer[n]).length := by
      rw [List.length_set]
      omega
    rw [copyBack, hRead, Option.bind_some, Lib.store_of_lt hValue, Option.bind_some,
      ih (by omega) hStored, Lib.drop_set_self hValue, List.take_succ_eq_append_getElem hBuffer,
      List.append_assoc]
    rfl

/-- The longest prefix of the text whose encoding fits with its NUL is encoded, and decoding gives
it back. -/
theorem encodeInPlace_exact (hNul : 0 ∉ input) (hValue : (input ++ 0 :: tail).length = size)
    (hBuffer : buffer.length = size) :
    ∃ pre rest, encodeInPlace size buffer (input ++ 0 :: tail) =
        some (pre.flatMap encode ++ 0 :: rest) ∧
      (pre.flatMap encode ++ 0 :: rest).length = size ∧ pre <+: input ∧
      (∀ pre', pre' <+: input → (pre'.flatMap encode).length < size → pre' <+: pre) ∧
      percentDecode (pre.flatMap encode) = pre := by
  have hStart : Filled size [] 0 buffer := by
    refine ⟨hBuffer, rfl, ?_, rfl⟩
    rw [← hValue, List.length_append, List.length_cons]
    omega
  obtain ⟨pre, outpos, buffer', hLoop, hFilled, hLongest⟩ := encodeLoop_spec tail hNul hStart
  have hOut : outpos < (input ++ 0 :: tail).length := by
    rw [hValue]
    exact hFilled.room
  have hCopied : copyBack buffer' outpos ((input ++ 0 :: tail).set outpos 0) =
      some (pre.flatMap encode ++ 0 :: (input ++ 0 :: tail).drop (outpos + 1)) := by
    have hFrom : outpos ≤ buffer'.length := by
      rw [hFilled.length]
      exact hFilled.room.le
    have hTo : outpos ≤ ((input ++ 0 :: tail).set outpos 0).length := by
      rw [List.length_set]
      exact hOut.le
    rw [copyBack_spec hFrom hTo, hFilled.bytes, Lib.drop_set_self hOut]
    rfl
  refine ⟨pre, (input ++ 0 :: tail).drop (outpos + 1), ?_, ?_, hLongest.1, fun pre' hPre hFits => ?_,
    decode_flatMap pre⟩
  · rw [encodeInPlace, hLoop, Option.bind_some, Lib.store_of_lt hOut]
    exact hCopied
  · have hPos := hFilled.pos
    rw [List.nil_append] at hPos
    rw [List.length_append, List.length_cons, List.length_drop, ← hPos, hValue]
    omega
  · exact hLongest.maximal hPre hFits

/-- Of `a/+` in six bytes the `+` no longer fits. -/
theorem encodeInPlace_exact_six : ∃ pre rest,
    encodeInPlace 6 [0, 0, 0, 0, 0, 0] ([97, 47, 43] ++ 0 :: [7, 7]) =
        some (pre.flatMap encode ++ 0 :: rest) ∧
      (pre.flatMap encode ++ 0 :: rest).length = 6 ∧ pre <+: [97, 47, 43] ∧
      (∀ pre', pre' <+: [97, 47, 43] → (pre'.flatMap encode).length < 6 → pre' <+: pre) ∧
      percentDecode (pre.flatMap encode) = pre :=
  encodeInPlace_exact (by decide) rfl rfl

/-! ## The serial number -/

variable {buf rest s : List UInt8} {file : Option (List UInt8)}

theorem trimSpaces_snoc (c : UInt8) : trimSpaces (s.length + 1) (s ++ c :: rest) =
    if isSpace c then trimSpaces s.length (s ++ 0 :: rest) else some (s ++ c :: rest) := by
  have hLt : s.length < (s ++ c :: rest).length := by
    rw [List.length_append, List.length_cons]
    omega
  have hRead : (s ++ c :: rest)[s.length]? = some c := by simp
  rw [trimSpaces, hRead, Option.bind_some, Lib.store_of_lt hLt, List.set_append_right _ _ le_rfl,
    Nat.sub_self]
  rfl

theorem trimSpaces_blank (rest : List UInt8) (h : ∀ c ∈ s, isSpace c = true) :
    trimSpaces s.length (s ++ 0 :: rest) = none := by
  induction s using List.reverseRecOn generalizing rest with
  | nil => rfl
  | append_singleton s c ih =>
    rw [List.length_append, List.length_singleton, List.append_assoc, List.singleton_append,
      trimSpaces_snoc, if_pos (h c (List.mem_append_right _ List.mem_cons_self))]
    exact ih (0 :: rest) fun c' hc' => h c' (List.mem_append_left _ hc')

theorem trimSpaces_text (h : ∃ c ∈ s, isSpace c = false) (rest : List UInt8) :
    ∃ rest', trimSpaces s.length (s ++ 0 :: rest) = some (s.rdropWhile isSpace ++ 0 :: rest') ∧
      (s.rdropWhile isSpace ++ 0 :: rest').length = (s ++ 0 :: rest).length := by
  induction s using List.reverseRecOn generalizing rest with
  | nil =>
    obtain ⟨c, hc, -⟩ := h
    cases hc
  | append_singleton s c ih =>
    rw [List.length_append, List.length_singleton, List.append_assoc, List.singleton_append,
      trimSpaces_snoc]
    cases hSpace : isSpace c with
    | true =>
      have hBefore : ∃ c ∈ s, isSpace c = false := by
        obtain ⟨c', hc', hOther⟩ := h
        rcases List.mem_append.mp hc' with hMem | hMem
        · exact ⟨c', hMem, hOther⟩
        · cases List.mem_singleton.mp hMem
          rw [hSpace] at hOther
          cases hOther
      obtain ⟨rest', hTrim, hLength⟩ := ih hBefore (0 :: rest)
      refine ⟨rest', ?_, ?_⟩
      · rw [if_pos rfl, List.rdropWhile_concat_pos _ _ _ hSpace]
        exact hTrim
      · rw [List.rdropWhile_concat_pos _ _ _ hSpace, hLength]
        simp
    | false =>
      refine ⟨rest, ?_, ?_⟩
      · rw [if_neg (by simp), List.rdropWhile_concat_neg _ _ _ (by simp [hSpace]), List.append_assoc]
        rfl
      · rw [List.rdropWhile_concat_neg _ _ _ (by simp [hSpace])]
        simp

/-- The text that the function is to leave in a buffer of `n` bytes. -/
def serialNo (n : Nat) : Option (List UInt8) → List UInt8
  | none | some [] => defVal
  | some file => (cString (file.take (n - 1))).rdropWhile isSpace

/-- What is read from the file has a character before its first NUL that is not a space. -/
def HasText (n : Nat) : Option (List UInt8) → Prop
  | none | some [] => True
  | some file => ∃ c ∈ cString (file.take (n - 1)), isSpace c = false

/-- The buffer is left with this text. -/
def Leaves (buf : List UInt8) (file : Option (List UInt8)) : Prop :=
  ∃ rest, getChipsetSerialNo buf file = some (serialNo buf.length file ++ 0 :: rest) ∧
    (serialNo buf.length file ++ 0 :: rest).length = buf.length

theorem strlcpy_defVal (hBuf : 2 ≤ buf.length) :
    strlcpy buf defVal = defVal ++ 0 :: buf.drop 2 := by
  have hAll : defVal.take (buf.length - 1) = defVal := List.take_of_length_le (by
    simp only [defVal, List.length_singleton]
    omega)
  rw [strlcpy, hAll]
  rfl

theorem length_strlcpy_defVal (hBuf : 2 ≤ buf.length) :
    (defVal ++ 0 :: buf.drop 2).length = buf.length := by
  rw [List.length_append, List.length_cons, List.length_drop]
  simp only [defVal, List.length_singleton]
  omega

theorem trim_cString (h : 0 ∈ buf) :
    (∃ rest, trimSpaces (cString buf).length buf =
        some ((cString buf).rdropWhile isSpace ++ 0 :: rest) ∧
      ((cString buf).rdropWhile isSpace ++ 0 :: rest).length = buf.length) ↔
      ∃ c ∈ cString buf, isSpace c = false := by
  obtain ⟨rest, hSplit⟩ := Lib.cString_split h
  constructor
  · rintro ⟨rest', hTrim, -⟩
    by_contra hBlank
    have hAll : ∀ c ∈ cString buf, isSpace c = true := fun c hc =>
      Bool.not_eq_false _ ▸ fun hFalse => hBlank ⟨c, hc, hFalse⟩
    have hNone := trimSpaces_blank rest hAll
    rw [← hSplit, hTrim] at hNone
    cases hNone
  · intro hText
    obtain ⟨rest', hTrim, hLength⟩ := trimSpaces_text hText rest
    rw [← hSplit] at hTrim hLength
    exact ⟨rest', hTrim, hLength⟩

theorem fread_store {bytes : List UInt8} (hBuf : 2 ≤ buf.length) (hBytes : bytes ≠ []) :
    (fread buf bytes).2 ≠ 0 ∧ ∃ rest, store (fread buf bytes).1 (fread buf bytes).2 0 =
        some (bytes.take (buf.length - 1) ++ 0 :: rest) ∧
      (bytes.take (buf.length - 1) ++ 0 :: rest).length = buf.length := by
  have hSize : (bytes.take (buf.length - 1)).length < buf.length := by
    rw [List.length_take]
    omega
  have hPos := List.length_pos_iff.mpr hBytes
  rw [fread]
  dsimp only
  refine ⟨?_, buf.drop ((bytes.take (buf.length - 1)).length + 1), ?_, ?_⟩
  · rw [List.length_take]
    omega
  · rw [Lib.store_of_lt (by rw [List.length_append, List.length_drop]; omega),
      List.set_append_right _ _ le_rfl, Nat.sub_self, List.drop_eq_getElem_cons hSize]
    rfl
  · rw [List.length_append, List.length_cons, List.length_drop]
    omega

/-- It does, unless everything that is read before the first NUL is blank: then the index
wraps around. -/
theorem getChipsetSerialNo_iff (hBuf : 2 ≤ buf.length) (file : Option (List UInt8)) :
    Leaves buf file ↔ HasText buf.length file := by
  rw [Leaves]
  cases file with
  | none =>
    refine ⟨fun _ => trivial, fun _ => ⟨buf.drop 2, ?_, length_strlcpy_defVal hBuf⟩⟩
    rw [getChipsetSerialNo, strlcpy_defVal hBuf]
    rfl
  | some bytes =>
    cases bytes with
    | nil =>
      refine ⟨fun _ => trivial, fun _ => ⟨buf.drop 2, ?_, length_strlcpy_defVal hBuf⟩⟩
      rw [getChipsetSerialNo, fread, List.take_nil]
      dsimp only
      rw [List.nil_append, List.length_nil, List.drop_zero, if_pos rfl, Option.bind_some,
        strlcpy_defVal hBuf]
      rfl
    | cons c cs =>
      obtain ⟨hSize, rest, hStore, hLength⟩ := fread_store hBuf (List.cons_ne_nil c cs)
      have hMem : 0 ∈ (c :: cs).take (buf.length - 1) ++ 0 :: rest :=
        List.mem_append_right _ List.mem_cons_self
      have hTrim := trim_cString hMem
      rw [Lib.cString_append_zero, hLength] at hTrim
      rw [getChipsetSerialNo, if_neg hSize, hStore, Option.bind_some, Lib.cString_append_zero]
      exact hTrim

/-- The serial number `7` with a line end. -/
theorem getChipsetSerialNo_iff_line : Leaves [1, 1, 1, 1] (some [55, 10]) :=
  (getChipsetSerialNo_iff (by decide) _).mpr ⟨55, by decide +kernel, by decide⟩

/-- A file that holds only a line end. -/
theorem blank_serialNo_wraps :
    ¬ ∀ (buf : List UInt8) (file : Option (List UInt8)), 2 ≤ buf.length → Leaves buf file := by
  intro hClaim
  obtain ⟨rest, hTrim, -⟩ := hClaim [1, 1, 1, 1] (some [10]) (by decide)
  have hNone : getChipsetSerialNo [1, 1, 1, 1] (some [10]) = none := by decide +kernel
  rw [hNone] at hTrim
  cases hTrim

end KiwiDevice.Gps.UserAgent

import KiwiDevice.Recovery.BoyerMooreSearch

/-!
# The check of the TrustZone version

`get_tz_version` looks for the marker in the mapped partition and copies what follows it, and
`VerifyTrustZoneFn` compares the copy with its arguments. A read outside of the image, or past the
end of the version buffer, gives no result.
-/

namespace KiwiDevice.Recovery

open Lib (cString)
open Lib.Search (OccursAt IsFirst)

/-- "QC_IMAGE_VERSION_STRING=" -/
def tzVerStr : List UInt8 :=
  [81, 67, 95, 73, 77, 65, 71, 69, 95, 86, 69, 82, 83, 73, 79, 78, 95, 83, 84, 82, 73, 78, 71, 61]

def tzVerStrLen : Nat := 24

def tzVerBufLen : Nat := 255

def tzSz : Nat := 500 * 1024

def enoent : Int := 2

/-- What `errno` holds after a call that failed. -/
abbrev Errno : Type := {e : Int // e ≠ 0}

structure Image where
  bytes : List UInt8
  size : bytes.length = tzSz

/-- How `open` and `mmap` went. -/
inductive TzPart where
  | openFails (errno : Errno)
  | mmapFails (errno : Errno)
  | mapped (image : Image)

/-- What `strncpy` leaves in a buffer of `n` bytes: it pads with zeros. -/
def strncpy : Nat → List UInt8 → Option (List UInt8)
  | 0, _ => some []
  | _ + 1, [] => none
  | n + 1, c :: src => if c = 0 then some (List.replicate (n + 1) 0) else (strncpy n src).map (c :: ·)

/-- The returned value, and the version buffer when it is 0. -/
def getTzVersion (part : TzPart) (len : Nat) : Option (Int × List UInt8) :=
  match part with
  | .openFails errno => some (errno.val, [])
  | .mmapFails errno => some (errno.val, [])
  | .mapped image =>
    (bmSearch image.bytes tzVerStr).bind fun offset =>
      match offset with
      | some i => (strncpy len (image.bytes.drop (i.toNat + tzVerStrLen))).map fun verStr => (0, verStr)
      | none => some (-enoent, [])

/-- The comparison of a `std::string` with a string that `strlen` measures. -/
def equalsCString (s buf : List UInt8) : Option Bool :=
  if 0 ∈ buf then some (s = cString buf) else none

def anyEquals (buf : List UInt8) : List (List UInt8) → Option Bool
  | [] => some false
  | arg :: args => (equalsCString arg buf).bind fun same => if same then some true else anyEquals buf args

inductive Verdict where
  | value (s : String)
  | versionAbort (ret : Int)
  | argsAbort
  deriving DecidableEq

/-- `args` is what `ReadArgs` gives. -/
def verifyTrustZoneFn (part : TzPart) (args : Option (List (List UInt8))) : Option Verdict :=
  (getTzVersion part tzVerBufLen).bind fun r =>
    if r.1 ≠ 0 then some (.versionAbort r.1)
    else
      match args with
      | none => some .argsAbort
      | some args => (anyEquals r.2 args).map fun ret => .value (if ret then "1" else "0")

/-! ## What the check is for -/

/-- The bytes after the first marker. -/
def AfterMarker (image : Image) (rest : List UInt8) : Prop :=
  ∃ s, IsFirst tzVerStr image.bytes (some s) ∧ rest = image.bytes.drop (s + tzVerStrLen)

def HasVersion (part : TzPart) (version : List UInt8) : Prop :=
  ∃ image rest, part = .mapped image ∧ AfterMarker image rest ∧ version = cString rest

/-- It comes to its end, with the verdict that the version in the image asks for. -/
def Decides (part : TzPart) (args : List (List UInt8)) : Prop :=
  ∃ verdict, verifyTrustZoneFn part (some args) = some verdict ∧
    (verdict = .value "1" ↔ ∃ version, HasVersion part version ∧ version ∈ args) ∧
    (verdict = .value "0" ↔ ∃ version, HasVersion part version ∧ version ∉ args) ∧
    ((∃ ret, verdict = .versionAbort ret) ↔ ¬ ∃ version, HasVersion part version)

/-- The version ends within the buffer, or the buffer is filled from the image and
never compared. -/
def Framed (part : TzPart) (args : List (List UInt8)) : Prop :=
  ∀ image rest, part = .mapped image → AfterMarker image rest →
    0 ∈ rest.take tzVerBufLen ∨ tzVerBufLen ≤ rest.length ∧ args = []

/-! ## The search in an image -/

variable {image : Image} {part : TzPart} {args : List (List UInt8)} {rest src buf : List UInt8} {n : Nat}

theorem tzVerStr_length : tzVerStr.length = tzVerStrLen := rfl

/-- Only the last character of the marker is `=`. -/
theorem tzVerStr_plain : Plain tzVerStr := by
  refine .inr ?_
  have hAll : ∀ q < 24, 0 < q → ¬ tzVerStr.drop q <+: tzVerStr := by decide
  exact fun q hPos hIn => hAll q hIn hPos

theorem bmSearch_image (image : Image) :
    ∃ r : Option Nat, bmSearch image.bytes tzVerStr = some (r.map Nat.cast) ∧
      IsFirst tzVerStr image.bytes r := by
  have hSize := image.size
  have hFits : Fits image.bytes tzVerStr := by
    refine ⟨by decide, .inl ?_⟩
    rw [hSize]
    decide
  refine (plain_sound (by decide) (by decide) ?_ hFits tzVerStr_plain).2
  rw [hSize]
  decide

theorem isFirst_unique {str pat : List UInt8} {r r' : Option Nat} (h : IsFirst pat str r)
    (h' : IsFirst pat str r') : r = r' := by
  cases r with
  | none =>
    cases r' with
    | none => rfl
    | some s' => exact absurd h'.1 (h s')
  | some s =>
    cases r' with
    | none => exact absurd h.1 (h' s)
    | some s' =>
      congr 1
      apply Nat.le_antisymm
      · exact Nat.le_of_not_lt fun hLt => h.2 s' hLt h'.1
      · exact Nat.le_of_not_lt fun hLt => h'.2 s hLt h.1

theorem AfterMarker.unique {rest' : List UInt8} (h : AfterMarker image rest)
    (h' : AfterMarker image rest') : rest = rest' := by
  obtain ⟨s, hFirst, rfl⟩ := h
  obtain ⟨s', hFirst', rfl⟩ := h'
  cases isFirst_unique hFirst hFirst'
  rfl

theorem hasVersion_iff {version : List UInt8} (h : AfterMarker image rest) :
    HasVersion (.mapped image) version ↔ version = cString rest := by
  constructor
  · rintro ⟨image', rest', hImage, hRest, rfl⟩
    cases hImage
    rw [hRest.unique h]
  · rintro rfl
    exact ⟨image, rest, rfl, h, rfl⟩

/-! ## The copy -/

theorem strncpy_short (h : 0 ∈ src.take n) :
    ∃ buf, strncpy n src = some buf ∧ 0 ∈ buf ∧ cString buf = cString src := by
  induction n generalizing src with
  | zero => cases h
  | succ n ih =>
    cases src with
    | nil => cases h
    | cons c src =>
      rw [strncpy]
      split
      · rename_i hZero
        subst hZero
        refine ⟨_, rfl, List.mem_replicate.mpr ⟨Nat.succ_ne_zero n, rfl⟩, ?_⟩
        rw [List.replicate_succ, cString, cString, List.takeWhile_cons_of_neg (by simp),
          List.takeWhile_cons_of_neg (by simp)]
      · rename_i hNe
        rw [List.take_succ_cons] at h
        obtain ⟨buf, hCopy, hNul, hString⟩ := ih ((List.mem_cons.mp h).resolve_left fun h => hNe h.symm)
        refine ⟨c :: buf, by rw [hCopy, Option.map_some], List.mem_cons_of_mem c hNul, ?_⟩
        rw [cString, cString, List.takeWhile_cons_of_pos (by simpa using hNe),
          List.takeWhile_cons_of_pos (by simpa using hNe)]
        exact congrArg (c :: ·) hString

/-- Without a zero the whole of the buffer is filled, from the source only where that is
long enough. -/
theorem strncpy_full (h : 0 ∉ src.take n) :
    strncpy n src = if n ≤ src.length then some (src.take n) else none := by
  induction n generalizing src with
  | zero => rw [if_pos (Nat.zero_le _), List.take_zero, strncpy]
  | succ n ih =>
    cases src with
    | nil => rfl
    | cons c src =>
      rw [List.take_succ_cons, List.mem_cons, not_or] at h
      rw [strncpy, if_neg fun hZero => h.1 hZero.symm, ih h.2, List.length_cons, List.take_succ_cons]
      simp only [Nat.succ_le_succ_iff]
      split <;> rfl

/-! ## The comparisons -/

theorem anyEquals_spec (h : 0 ∈ buf) (args : List (List UInt8)) :
    anyEquals buf args = some (decide (cString buf ∈ args)) := by
  induction args with
  | nil => simp [anyEquals]
  | cons arg args ih =>
    rw [anyEquals, equalsCString, if_pos h, Option.bind_some, ih]
    rcases eq_or_ne arg (cString buf) with rfl | hNe
    · simp
    · simp [hNe, hNe.symm]

theorem anyEquals_none (h : 0 ∉ buf) (hArgs : args ≠ []) : anyEquals buf args = none := by
  cases args with
  | nil => exact absurd rfl hArgs
  | cons arg args => rw [anyEquals, equalsCString, if_neg h, Option.bind_none]

/-! ## The verdict -/

theorem verify_marker (h : AfterMarker image rest) (args : List (List UInt8)) :
    verifyTrustZoneFn (.mapped image) (some args) =
      (strncpy tzVerBufLen rest).bind fun verStr =>
        (anyEquals verStr args).map fun ret => .value (if ret then "1" else "0") := by
  obtain ⟨s, hFirst, rfl⟩ := h
  obtain ⟨r, hSearch, hFirst'⟩ := bmSearch_image image
  cases isFirst_unique hFirst hFirst'
  rw [verifyTrustZoneFn, getTzVersion, hSearch, Option.bind_some]
  simp only [Option.map_some, Int.toNat_natCast]
  cases strncpy tzVerBufLen (image.bytes.drop (s + tzVerStrLen)) with
  | none => rfl
  | some verStr => rfl

theorem verify_noMarker (h : ∀ rest, ¬ AfterMarker image rest) (args : List (List UInt8)) :
    verifyTrustZoneFn (.mapped image) (some args) = some (.versionAbort (-enoent)) := by
  obtain ⟨r, hSearch, hFirst⟩ := bmSearch_image image
  cases r with
  | none =>
    rw [verifyTrustZoneFn, getTzVersion, hSearch]
    rfl
  | some s => exact absurd ⟨s, hFirst, rfl⟩ (h _)

theorem decides_value (ret : Bool) (h : AfterMarker image rest)
    (hRet : ret = true ↔ cString rest ∈ args)
    (hRun : verifyTrustZoneFn (.mapped image) (some args) =
      some (.value (if ret then "1" else "0"))) : Decides (.mapped image) args := by
  refine ⟨_, hRun, ?_, ?_, ?_⟩
  · simp only [hasVersion_iff h, exists_eq_left, ← hRet]
    cases ret <;> decide
  · simp only [hasVersion_iff h, exists_eq_left, ← hRet]
    cases ret <;> decide
  · simp [hasVersion_iff h]

theorem decides_abort (ret : Int) (h : ∀ version, ¬ HasVersion part version)
    (hRun : verifyTrustZoneFn part (some args) = some (.versionAbort ret)) : Decides part args := by
  refine ⟨_, hRun, ?_, ?_, ?_⟩ <;> simp [h]

theorem not_decides (hRun : verifyTrustZoneFn part (some args) = none) : ¬ Decides part args := by
  rintro ⟨verdict, hVerdict, -⟩
  rw [hRun] at hVerdict
  cases hVerdict

theorem decides_iff_rest (h : AfterMarker image rest) : Decides (.mapped image) args ↔
    0 ∈ rest.take tzVerBufLen ∨ tzVerBufLen ≤ rest.length ∧ args = [] := by
  have hRun := verify_marker h args
  by_cases hNul : 0 ∈ rest.take tzVerBufLen
  · obtain ⟨buf, hCopy, hIn, hString⟩ := strncpy_short hNul
    rw [hCopy, Option.bind_some, anyEquals_spec hIn, hString, Option.map_some] at hRun
    exact iff_of_true (decides_value _ h decide_eq_true_iff hRun) (.inl hNul)
  · rw [strncpy_full hNul] at hRun
    rcases Nat.lt_or_ge rest.length tzVerBufLen with hShort | hLong
    · rw [if_neg (Nat.not_le_of_lt hShort), Option.bind_none] at hRun
      refine iff_of_false (not_decides hRun) ?_
      rintro (hIn | ⟨hLe, -⟩)
      · exact hNul hIn
      · exact Nat.not_le_of_lt hShort hLe
    · rw [if_pos hLong, Option.bind_some] at hRun
      rcases eq_or_ne args [] with rfl | hArgs
      · exact iff_of_true (decides_value false h (by simp) hRun) (.inr ⟨hLong, rfl⟩)
      · rw [anyEquals_none hNul hArgs, Option.map_none] at hRun
        refine iff_of_false (not_decides hRun) ?_
        rintro (hIn | ⟨-, hEmpty⟩)
        · exact hNul hIn
        · exact hArgs hEmpty

/-- The check decides by the version in the image, unless the version fills the buffer and is
compared, or the image ends before either. -/
theorem verifyTrustZoneFn_framed (part : TzPart) (args : List (List UInt8)) :
    Decides part args ↔ Framed part args := by
  cases part with
  | openFails errno =>
    refine iff_of_true (decides_abort errno.val ?_ (if_pos errno.property)) ?_
    · rintro version ⟨image, rest, hImage, -⟩
      cases hImage
    · rintro image rest hImage
      cases hImage
  | mmapFails errno =>
    refine iff_of_true (decides_abort errno.val ?_ (if_pos errno.property)) ?_
    · rintro version ⟨image, rest, hImage, -⟩
      cases hImage
    · rintro image rest hImage
      cases hImage
  | mapped image =>
    by_cases hMarker : ∃ rest, AfterMarker image rest
    · obtain ⟨rest, hRest⟩ := hMarker
      rw [decides_iff_rest hRest]
      constructor
      · rintro hFrame image' rest' hImage hRest'
        cases hImage
        rwa [← hRest.unique hRest']
      · exact fun hFrame => hFrame image rest rfl hRest
    · rw [not_exists] at hMarker
      refine iff_of_true (decides_abort _ ?_ (verify_noMarker hMarker args)) ?_
      · rintro version ⟨image', rest, hImage, hRest, -⟩
        cases hImage
        exact hMarker rest hRest
      · rintro image' rest hImage hRest
        cases hImage
        exact absurd hRest (hMarker rest)

/-- An image of the marker and then of `A` only. -/
def longVersion : Image := ⟨tzVerStr ++ List.replicate (tzSz - tzVerStrLen) 65, by
  rw [List.length_append, List.length_replicate]
  decide⟩

/-- The version fills the buffer, and its comparison with "A" reads on behind it. -/
theorem verifyTrustZoneFn_unterminated :
    verifyTrustZoneFn (.mapped longVersion) (some [[65]]) = none ∧
      ¬ Decides (.mapped longVersion) [[65]] := by
  have hRest : AfterMarker longVersion (List.replicate (tzSz - tzVerStrLen) 65) := by
    refine ⟨0, ⟨fun k hk => ?_, fun e hLt => absurd hLt (Nat.not_lt_zero e)⟩, ?_⟩
    · rw [Nat.zero_add]
      exact List.getElem?_append_left hk
    · rw [Nat.zero_add, ← tzVerStr_length]
      exact List.drop_left.symm
  have hTake : (List.replicate (tzSz - tzVerStrLen) (65 : UInt8)).take tzVerBufLen =
      List.replicate tzVerBufLen 65 := by
    rw [List.take_replicate]
    rfl
  have hNul : (0 : UInt8) ∉ (List.replicate (tzSz - tzVerStrLen) (65 : UInt8)).take tzVerBufLen := by
    rw [hTake, List.mem_replicate]
    decide
  have hRun : verifyTrustZoneFn (.mapped longVersion) (some [[65]]) = none := by
    rw [verify_marker hRest, strncpy_full hNul, if_pos (by rw [List.length_replicate]; decide),
      Option.bind_some, anyEquals_none hNul (List.cons_ne_nil _ _), Option.map_none]
  exact ⟨hRun, not_decides hRun⟩

end KiwiDevice.Recovery

import KiwiDevice.Lib.CArray
import KiwiDevice.Lib.Search
import KiwiDevice.Lib.Words
import Mathlib.Logic.Function.Basic

/-!
# The string search of the updater

`bm_search` and its two tables. The lengths are those of the lists; an index outside of a text, a
pattern or a table, and a sum that does not fit an `int`, give no result.

For a plain pattern every pass of the search moves the window on and skips no occurrence, because
its shift comes from a table. The first table has, for each character, no more than its distance
from the last place. An entry of the second one is the least shift inside of the window at which the
pattern agrees with itself, or else comes from the first border, and then it is one too large unless
that border starts at the mismatch.
-/

namespace KiwiDevice.Recovery

open Lib (store toInt toInt_of_lt toInt_neg)
open Lib.Search

/-- `strncmp` of at most `n` characters, whether it gives 0. -/
def strncmpZero : Nat → List UInt8 → List UInt8 → Option Bool
  | 0, _, _ => some true
  | n + 1, a :: as, b :: bs =>
    if a ≠ b then some false else if a = 0 then some true else strncmpZero n as bs
  | _ + 1, _, _ => none

/-- The loop of `max_suffix_len` from `i` on, with `n` the passes that are left until `i` is `p`. -/
def suffixLoop (str : List UInt8) (p : Nat) : Nat → Nat → Option Nat
  | n, i =>
    str[p - i]?.bind fun a => str[str.length - 1 - i]?.bind fun b =>
      if a = b then
        match n with
        | 0 => some i
        | n + 1 => suffixLoop str p n (i + 1)
      else some i

def maxSuffixLen (str : List UInt8) (p : Nat) : Option Nat := suffixLoop str p p 0

/-- The second loop of `bm_make_delta1`, with `n` passes left. -/
def delta1Loop (pat : List UInt8) : Nat → Nat → (UInt8 → Int) → Option (UInt8 → Int)
  | 0, _, delta1 => some delta1
  | n + 1, i, delta1 =>
    pat[i]?.bind fun c =>
      delta1Loop pat n (i + 1) (Function.update delta1 c (toInt (pat.length - 1 - i)))

def makeDelta1 (pat : List UInt8) : Option (UInt8 → Int) :=
  delta1Loop pat (pat.length - 1) 0 fun _ => toInt pat.length

/-- The first loop of `bm_make_delta2`, which fills the table from its end: `n` is one more than the
next index. -/
def prefixLoop (pat : List UInt8) : Nat → Nat → List Int → Option (List Int)
  | 0, _, delta2 => some delta2
  | p + 1, lastPrefix, delta2 =>
    (strncmpZero (pat.length - p) (pat.drop p) pat).bind fun same =>
      let next := if same then p + 1 else lastPrefix
      prefixLoop pat p next (toInt (next + (pat.length - 1 - p)) :: delta2)

/-- The second loop of `bm_make_delta2`, with `n` passes left. -/
def goodSuffixLoop (pat : List UInt8) : Nat → Nat → List Int → Option (List Int)
  | 0, _, delta2 => some delta2
  | n + 1, p, delta2 =>
    (maxSuffixLen pat p).bind fun sufLen =>
      pat[p - sufLen]?.bind fun a => pat[pat.length - 1 - sufLen]?.bind fun b =>
        (if a = b then some delta2
          else store delta2 (pat.length - 1 - sufLen) (toInt (pat.length - 1 - p + sufLen))).bind
            (goodSuffixLoop pat n (p + 1))

def makeDelta2 (pat : List UInt8) : Option (List Int) :=
  (prefixLoop pat pat.length (pat.length - 1) []).bind (goodSuffixLoop pat (pat.length - 1) 0)

def charAt (str : List UInt8) (i : Int) : Option UInt8 := if 0 ≤ i then str[i.toNat]? else none

/-- The inner loop of `bm_search`; the number is `j + 1`. -/
def compareLoop (str pat : List UInt8) : Nat → Int → Option (Int × Nat)
  | 0, i => some (i, 0)
  | j + 1, i =>
    (charAt str i).bind fun a => pat[j]?.bind fun b =>
      if a = b then compareLoop str pat j (i - 1) else some (i, j + 1)

/-- The outer loop of `bm_search`, with a bound on the number of its passes. -/
def searchLoop (str pat : List UInt8) (delta1 : UInt8 → Int) (delta2 : List Int) :
    Nat → Int → Option (Option Int)
  | 0, _ => none
  | fuel + 1, i =>
    if i < str.length then
      (compareLoop str pat pat.length i).bind fun r =>
        match r.2 with
        | 0 => some (some (r.1 + 1))
        | j + 1 =>
          (charAt str r.1).bind fun c => delta2[j]?.bind fun d =>
            if r.1 + max (delta1 c) d < 2 ^ 31 then
              searchLoop str pat delta1 delta2 fuel (r.1 + max (delta1 c) d)
            else none
    else some none

/-- The offset that is returned, or `none` for NULL. With an empty pattern `pat_len - 1` wraps
around and the first table is filled from outside of the pattern. -/
def bmSearch (str pat : List UInt8) : Option (Option Int) :=
  if pat = [] then none
  else
    (makeDelta1 pat).bind fun delta1 => (makeDelta2 pat).bind fun delta2 =>
      searchLoop str pat delta1 delta2 (str.length + 1) (pat.length - 1)

/-- The shift of the window that the value `d` of a table stands for, after a mismatch at `j`. -/
def windowShift (pat : List UInt8) (j : Nat) (d : Int) :
    Nat := (d - (pat.length - 1 - j : Nat)).toNat

/-- The values of the tables: they move on, and skip no occurrence after a mismatch with `c`
at `j`. -/
structure Tables (pat : List UInt8) (delta1 : UInt8 → Int) (delta2 : List Int) : Prop where
  length : delta2.length = pat.length
  delta1Pos : ∀ c, 0 < delta1 c
  delta1Safe : ∀ j c, Lib.Search.Safe pat j c (windowShift pat j (delta1 c))
  delta2Pos : ∀ (j : Nat) (d : Int), delta2[j]? = some d → (pat.length - 1 - j : Nat) < d
  delta2Safe : ∀ (j : Nat) (d : Int) (c : UInt8), delta2[j]? = some d → Lib.Search.Safe pat j c (windowShift pat j d)

/-- The tables are right and the search comes to its end with the first occurrence. -/
def Sound (str pat : List UInt8) : Prop :=
  (∃ delta1 delta2, makeDelta1 pat = some delta1 ∧ makeDelta2 pat = some delta2 ∧
    Tables pat delta1 delta2) ∧
  ∃ r : Option Nat, bmSearch str pat = some (r.map Nat.cast) ∧ Lib.Search.IsFirst pat str r

/-- One character repeated, or a pattern of which no proper part is both its start and its end. -/
def Plain (pat : List UInt8) : Prop :=
  (∀ a ∈ pat, ∀ b ∈ pat, a = b) ∨ ∀ q, 0 < q → q < pat.length → ¬ Lib.Search.Border pat q

/-- No index overflows: the lengths are small, or the pattern is found. -/
def Fits (str pat : List UInt8) : Prop :=
  2 * pat.length ≤ 2 ^ 31 ∧
    (str.length + pat.length ≤ 2 ^ 31 ∨ ∃ s, Lib.Search.OccursAt pat str s)

section Tables

variable {pat : List UInt8} {i j p n v : Nat} {c : UInt8} {d : Int} {delta2 delta2' : List Int}
  {delta1 delta1' : UInt8 → Int}

theorem windowShift_add (e j : Nat) :
    windowShift pat j ((e + (pat.length - 1 - j) : Nat) : Int) = e := by
  rw [windowShift]
  omega

/-! ## The first table -/

/-- What the first `i` characters have left in the table. -/
structure Distances (pat : List UInt8) (i : Nat) (delta1 : UInt8 → Int) : Prop where
  pos : ∀ c, 0 < delta1 c
  le : ∀ c, delta1 c ≤ pat.length
  distance : ∀ k c, k < i → pat[k]? = some c → delta1 c ≤ (pat.length - 1 - k : Nat)

theorem Distances.put (h : Distances pat i delta1) (hIn : i < pat.length - 1)
    (hSmall : pat.length < 2 ^ 31) (hc : pat[i]? = some c) :
    Distances pat (i + 1) (Function.update delta1 c (toInt (pat.length - 1 - i))) := by
  have hValue : toInt (pat.length - 1 - i) = (pat.length - 1 - i : Nat) := toInt_of_lt (by omega)
  rw [hValue]
  constructor
  · intro c'
    rcases eq_or_ne c' c with rfl | hNe
    · rw [Function.update_self]
      omega
    · rw [Function.update_of_ne hNe]
      exact h.pos c'
  · intro c'
    rcases eq_or_ne c' c with rfl | hNe
    · rw [Function.update_self]
      omega
    · rw [Function.update_of_ne hNe]
      exact h.le c'
  · intro k c' hk hAt
    rcases eq_or_ne c' c with rfl | hNe
    · rw [Function.update_self]
      omega
    · rw [Function.update_of_ne hNe]
      refine h.distance k c' (Nat.lt_of_le_of_ne (Nat.le_of_lt_succ hk) ?_) hAt
      rintro rfl
      exact hNe (Option.some.inj (hAt.symm.trans hc))

theorem delta1Loop_spec (h : Distances pat i delta1) (hSmall : pat.length < 2 ^ 31)
    (hEnd : i + n = pat.length - 1) :
    ∃ delta1', delta1Loop pat n i delta1 = some delta1' ∧
      Distances pat (pat.length - 1) delta1' := by
  induction n generalizing i delta1 with
  | zero =>
    rw [Nat.add_zero] at hEnd
    exact ⟨delta1, rfl, hEnd ▸ h⟩
  | succ n ih =>
    have hIn : i < pat.length := by omega
    have hc : pat[i]? = some pat[i] := List.getElem?_eq_getElem hIn
    obtain ⟨delta1', hLoop, hDistances⟩ := ih (h.put (by omega) hSmall hc) (by omega)
    refine ⟨delta1', ?_, hDistances⟩
    rw [delta1Loop, hc]
    exact hLoop

theorem makeDelta1_spec (hPat : pat ≠ []) (hSmall : pat.length < 2 ^ 31) :
    ∃ delta1, makeDelta1 pat = some delta1 ∧ Distances pat (pat.length - 1) delta1 := by
  have hPos := List.length_pos_iff.mpr hPat
  refine delta1Loop_spec ⟨fun _ => ?_, fun _ => ?_, fun k _ hk => absurd hk (Nat.not_lt_zero k)⟩ hSmall
    (Nat.zero_add _)
  · rw [toInt_of_lt hSmall]
    omega
  · rw [toInt_of_lt hSmall]

theorem Distances.safe (h : Distances pat (pat.length - 1) delta1) (j : Nat) (c : UInt8) :
    Safe pat j c (windowShift pat j (delta1 c)) := by
  intro text s hMismatch e hPos hLt hOccurs
  rw [windowShift] at hLt
  have hj := hMismatch.lt
  have hLe := h.le c
  have hIn : e ≤ j := by omega
  have hChar : pat[j - e]? = some c := by
    rw [← hOccurs (j - e) (by omega), ← hMismatch.char]
    congr 1
    omega
  have hDistance := h.distance (j - e) c (by omega) hChar
  omega

/-! ## Borders -/

theorem strncmpZero_spec (n : Nat) (as bs : List UInt8) (hNul : 0 ∉ as) (has : n ≤ as.length)
    (hbs : n ≤ bs.length) :
    ∃ same, strncmpZero n as bs = some same ∧ (same = true ↔ as.take n = bs.take n) := by
  induction n generalizing as bs with
  | zero => exact ⟨true, rfl, by simp⟩
  | succ n ih =>
    cases as with
    | nil => cases has
    | cons a as =>
      cases bs with
      | nil => cases hbs
      | cons b bs =>
        have hNe : a ≠ 0 := fun hZero => hNul (hZero ▸ List.mem_cons_self)
        rw [strncmpZero]
        rcases eq_or_ne a b with rfl | hDiffer
        · obtain ⟨same, hSame, hIff⟩ := ih as bs (fun hMem => hNul (List.mem_cons_of_mem _ hMem))
            (Nat.le_of_succ_le_succ has) (Nat.le_of_succ_le_succ hbs)
          refine ⟨same, ?_, ?_⟩
          · rw [if_neg (fun h => h rfl), if_neg hNe, hSame]
          · rw [hIff, List.take_succ_cons, List.take_succ_cons, List.cons.injEq]
            simp
        · refine ⟨false, if_pos hDiffer, ?_⟩
          simp [hDiffer]

theorem strncmpZero_border (hNul : 0 ∉ pat) :
    ∃ same, strncmpZero (pat.length - p) (pat.drop p) pat = some same ∧
      (same = true ↔ Border pat p) := by
  obtain ⟨same, hSame, hIff⟩ := strncmpZero_spec (pat.length - p) (pat.drop p) pat
    (fun hMem => hNul (List.mem_of_mem_drop hMem)) (by rw [List.length_drop]) (by omega)
  refine ⟨same, hSame, ?_⟩
  rw [hIff, Border, List.prefix_iff_eq_take, List.take_of_length_le (by rw [List.length_drop]),
    List.length_drop]

/-- The value of `last_prefix` for `j`: one more than the first border from `j` on. -/
def LastPrefix (pat : List UInt8) (j v : Nat) : Prop :=
  (∃ q, j ≤ q ∧ q < pat.length ∧ Border pat q ∧ (∀ r, j ≤ r → r < q → ¬ Border pat r) ∧ v = q + 1) ∨
  (∀ q, j ≤ q → q < pat.length → ¬ Border pat q) ∧ v = pat.length - 1

theorem LastPrefix.border (hIn : p < pat.length) (h : Border pat p) : LastPrefix pat p (p + 1) :=
  .inl ⟨p, Nat.le_refl p, hIn, h, by omega, rfl⟩

theorem LastPrefix.skip (h : LastPrefix pat (p + 1) v) (hNot : ¬ Border pat p) :
    LastPrefix pat p v := by
  rcases h with ⟨q, hLe, hIn, hBorder, hFirst, rfl⟩ | ⟨hNone, rfl⟩
  · refine .inl ⟨q, by omega, hIn, hBorder, fun r hr hLt => ?_, rfl⟩
    rcases Nat.eq_or_lt_of_le hr with rfl | hAfter
    · exact hNot
    · exact hFirst r hAfter hLt
  · refine .inr ⟨fun q hq hIn => ?_, rfl⟩
    rcases Nat.eq_or_lt_of_le hq with rfl | hAfter
    · exact hNot
    · exact hNone q hAfter hIn

/-- The entries from `p` on, as the first loop leaves them. -/
def FromPrefix (pat : List UInt8) (p : Nat) (delta2 : List Int) : Prop :=
  delta2.length + p = pat.length ∧ ∀ i d, delta2[i]? = some d →
    ∃ v, LastPrefix pat (p + i) v ∧ d = toInt (v + (pat.length - 1 - (p + i)))

theorem prefixLoop_spec (hNul : 0 ∉ pat) (hLast : LastPrefix pat p v)
    (h : FromPrefix pat p delta2) :
    ∃ delta2', prefixLoop pat p v delta2 = some delta2' ∧ FromPrefix pat 0 delta2' := by
  induction p generalizing v delta2 with
  | zero => exact ⟨delta2, rfl, h⟩
  | succ p ih =>
    have hIn : p < pat.length := by
      have hLength := h.1
      omega
    obtain ⟨same, hSame, hBorder⟩ := strncmpZero_border (p := p) hNul
    have hNext : LastPrefix pat p (if same then p + 1 else v) := by
      cases same with
      | true => exact LastPrefix.border hIn (hBorder.mp rfl)
      | false => exact hLast.skip fun hIs => Bool.false_ne_true (hBorder.mpr hIs)
    rw [prefixLoop, hSame]
    refine ih hNext ⟨?_, fun i d hd => ?_⟩
    · rw [List.length_cons]
      have hLength := h.1
      omega
    · cases i with
      | zero =>
        cases hd
        exact ⟨_, hNext, rfl⟩
      | succ i =>
        obtain ⟨v', hv', hEq⟩ := h.2 i d hd
        rw [Nat.add_assoc, Nat.add_comm 1] at hv' hEq
        exact ⟨v', hv', hEq⟩

/-! ## The good suffixes -/

/-- The characters before `p` and before the end agree for as long as `n` says. -/
structure SuffixLen (pat : List UInt8) (p n : Nat) : Prop where
  le : n ≤ p
  same : ∀ i < n, pat[p - i]? = pat[pat.length - 1 - i]?
  stop : n = p ∨ pat[p - n]? ≠ pat[pat.length - 1 - n]?

theorem suffixLoop_spec (pat : List UInt8) (n i : Nat) (hIn : p < pat.length) (hEnd : n + i = p)
    (hSame : ∀ k < i, pat[p - k]? = pat[pat.length - 1 - k]?) :
    ∃ sufLen, suffixLoop pat p n i = some sufLen ∧ SuffixLen pat p sufLen := by
  induction n generalizing i with
  | zero =>
    rw [Nat.zero_add] at hEnd
    subst hEnd
    refine ⟨i, ?_, Nat.le_refl i, hSame, .inl rfl⟩
    rw [suffixLoop, List.getElem?_eq_getElem (by omega), List.getElem?_eq_getElem (by omega)]
    exact ite_self _
  | succ n ih =>
    have hFirst : pat[p - i]? = some pat[p - i] := List.getElem?_eq_getElem (by omega)
    have hSecond : pat[pat.length - 1 - i]? = some pat[pat.length - 1 - i] :=
      List.getElem?_eq_getElem (by omega)
    rw [suffixLoop, hFirst, hSecond, Option.bind_some, Option.bind_some]
    split
    · rename_i hAgree
      refine ih (i + 1) (by omega) fun k hk => ?_
      rcases Nat.eq_or_lt_of_le (Nat.le_of_lt_succ hk) with rfl | hBefore
      · rw [hFirst, hSecond, hAgree]
      · exact hSame k hBefore
    · rename_i hDiffer
      refine ⟨i, rfl, by omega, hSame, .inr ?_⟩
      rw [hFirst, hSecond]
      exact fun h => hDiffer (Option.some.inj h)

/-- The shift that `p` stands for is compatible at one place only. -/
theorem SuffixLen.compatible_iff {sufLen : Nat} (h : SuffixLen pat p sufLen)
    (hp : p < pat.length - 1) (hj : j < pat.length) (hLe : pat.length - 1 - p ≤ j) :
    Compatible pat j (pat.length - 1 - p) ↔
      j = pat.length - 1 - sufLen ∧ pat[p - sufLen]? ≠ pat[pat.length - 1 - sufLen]? := by
  obtain ⟨hSuf, hSame, hStop⟩ := h
  -- the number of characters that agree after `j`
  obtain ⟨i, rfl⟩ : ∃ i, j = pat.length - 1 - i := ⟨pat.length - 1 - j, by omega⟩
  constructor
  · rintro ⟨hAfter, hAt⟩
    have hDiffer : pat[p - i]? ≠ pat[pat.length - 1 - i]? := by
      have hNe := hAt hLe
      have hIndex : pat.length - 1 - i - (pat.length - 1 - p) = p - i := by omega
      rwa [hIndex] at hNe
    have hNot : ¬ i < sufLen := fun hLt => hDiffer (hSame i hLt)
    have hNot' : ¬ sufLen < i := by
      intro hLt
      have hMatch := hAfter (pat.length - 1 - sufLen) (by omega) (by omega) (by omega)
      have hIndex : pat.length - 1 - sufLen - (pat.length - 1 - p) = p - sufLen := by omega
      rw [hIndex] at hMatch
      rcases hStop with rfl | hStop
      · omega
      · exact hStop hMatch
    obtain rfl : i = sufLen := by omega
    exact ⟨rfl, hDiffer⟩
  · rintro ⟨hPlace, hDiffer⟩
    obtain rfl : i = sufLen := by omega
    constructor
    · intro k hk hkIn hkLe
      have hMatch := hSame (pat.length - 1 - k) (by omega)
      have hIndex : p - (pat.length - 1 - k) = k - (pat.length - 1 - p) := by omega
      have hBack : pat.length - 1 - (pat.length - 1 - k) = k := by omega
      rwa [hIndex, hBack] at hMatch
    · intro _
      have hIndex : pat.length - 1 - i - (pat.length - 1 - p) = p - i := by omega
      rwa [hIndex]

/-- The entry for `j` when the shifts from `lo` on were tried, with `d₀` the one of the
first loop. -/
def GoodEntry (pat : List UInt8) (lo j : Nat) (d₀ d : Int) : Prop :=
  (∃ e, lo ≤ e ∧ e ≤ j ∧ Compatible pat j e ∧ (∀ r, lo ≤ r → r < e → ¬ Compatible pat j r) ∧
    d = toInt (e + (pat.length - 1 - j))) ∨
  (∀ e, lo ≤ e → e ≤ j → ¬ Compatible pat j e) ∧ d = d₀

def GoodTable (pat : List UInt8) (lo : Nat) (delta2 delta2' : List Int) : Prop :=
  delta2'.length = pat.length ∧
    ∀ j < pat.length, ∃ d₀ d, delta2[j]? = some d₀ ∧ delta2'[j]? = some d ∧ GoodEntry pat lo j d₀ d

theorem GoodEntry.skip {lo : Nat} {d₀ : Int} (h : GoodEntry pat (lo + 1) j d₀ d)
    (hNot : lo ≤ j → ¬ Compatible pat j lo) : GoodEntry pat lo j d₀ d := by
  rcases h with ⟨e, hLo, hLe, hCompatible, hFirst, rfl⟩ | ⟨hNone, rfl⟩
  · refine .inl ⟨e, by omega, hLe, hCompatible, fun r hr hLt => ?_, rfl⟩
    rcases Nat.eq_or_lt_of_le hr with rfl | hAfter
    · exact hNot (by omega)
    · exact hFirst r hAfter hLt
  · refine .inr ⟨fun e hLo hLe => ?_, rfl⟩
    rcases Nat.eq_or_lt_of_le hLo with rfl | hAfter
    · exact hNot hLe
    · exact hNone e hAfter hLe

theorem goodSuffixLoop_spec {delta : List Int} (hEnd : n + p = pat.length - 1)
    (h : GoodTable pat (n + 1) delta delta2) :
    ∃ delta2', goodSuffixLoop pat n p delta2 = some delta2' ∧ GoodTable pat 1 delta delta2' := by
  induction n generalizing p delta2 with
  | zero => exact ⟨delta2, rfl, h⟩
  | succ n ih =>
    obtain ⟨sufLen, hLen, hSuf⟩ := suffixLoop_spec pat p 0 (by omega)
      (Nat.add_zero p) (fun k hk => absurd hk (Nat.not_lt_zero k))
    have hShift : pat.length - 1 - p = n + 1 := by omega
    have hLe := hSuf.le
    have hFirst : pat[p - sufLen]? = some pat[p - sufLen] := List.getElem?_eq_getElem (by omega)
    have hSecond : pat[pat.length - 1 - sufLen]? = some pat[pat.length - 1 - sufLen] :=
      List.getElem?_eq_getElem (by omega)
    have hAt : ∀ j < pat.length, n + 1 ≤ j → (Compatible pat j (n + 1) ↔
        j = pat.length - 1 - sufLen ∧ pat[p - sufLen]? ≠ pat[pat.length - 1 - sufLen]?) := by
      intro j hj hnj
      have hIff := hSuf.compatible_iff (by omega) hj (by omega)
      rwa [hShift] at hIff
    rw [goodSuffixLoop, maxSuffixLen, hLen, Option.bind_some, hFirst, hSecond, Option.bind_some,
      Option.bind_some]
    split
    · rename_i hSame
      refine ih (by omega) ⟨h.1, fun j hj => ?_⟩
      obtain ⟨d₀, d, hd₀, hd, hEntry⟩ := h.2 j hj
      refine ⟨d₀, d, hd₀, hd, hEntry.skip fun hnj hCompatible => ?_⟩
      obtain ⟨-, hDiffer⟩ := (hAt j hj hnj).mp hCompatible
      exact hDiffer (by rw [hFirst, hSecond, hSame])
    · rename_i hDiffer
      have hPlace : pat.length - 1 - sufLen < delta2.length := by
        rw [h.1]
        omega
      rw [Lib.store_of_lt hPlace, Option.bind_some]
      refine ih (by omega) ⟨by rw [List.length_set, h.1], fun j hj => ?_⟩
      obtain ⟨d₀, d, hd₀, hd, hEntry⟩ := h.2 j hj
      rcases eq_or_ne (pat.length - 1 - sufLen) j with rfl | hOther
      · refine ⟨d₀, _, hd₀, List.getElem?_set_self hPlace, .inl ?_⟩
        refine ⟨n + 1, Nat.le_refl _, by omega, (hAt _ hj (by omega)).mpr ⟨rfl, ?_⟩, by omega, ?_⟩
        · rw [hFirst, hSecond]
          exact fun hEq => hDiffer (Option.some.inj hEq)
        · congr 1
          omega
      · refine ⟨d₀, d, hd₀, by rw [List.getElem?_set_ne hOther, hd], hEntry.skip fun hnj hCompatible => ?_⟩
        exact hOther ((hAt j hj hnj).mp hCompatible).1.symm

/-- An entry of the second table: `v` stands for the first border. -/
def Entry (pat : List UInt8) (j : Nat) (d : Int) : Prop :=
  ∃ v, LastPrefix pat j v ∧ GoodEntry pat 1 j (toInt (v + (pat.length - 1 - j))) d

theorem makeDelta2_spec (hPat : pat ≠ []) (hNul : 0 ∉ pat) :
    ∃ delta2, makeDelta2 pat = some delta2 ∧ delta2.length = pat.length ∧
      ∀ j < pat.length, ∃ d, delta2[j]? = some d ∧ Entry pat j d := by
  have hPos := List.length_pos_iff.mpr hPat
  have hLast : LastPrefix pat pat.length (pat.length - 1) := .inr ⟨by omega, rfl⟩
  have hEmpty : FromPrefix pat pat.length [] := ⟨Nat.zero_add _, fun i d hd => by cases hd⟩
  obtain ⟨delta, hPrefix, hLength, hFrom⟩ := prefixLoop_spec hNul hLast hEmpty
  rw [Nat.add_zero] at hLength
  have hStart : GoodTable pat (pat.length - 1 + 1) delta delta := by
    refine ⟨hLength, fun j hj => ?_⟩
    have hIn : j < delta.length := by omega
    exact ⟨_, _, List.getElem?_eq_getElem hIn, List.getElem?_eq_getElem hIn, .inr ⟨by omega, rfl⟩⟩
  obtain ⟨delta2, hGood, hLength', hTable⟩ := goodSuffixLoop_spec (Nat.add_zero _) hStart
  refine ⟨delta2, ?_, hLength', fun j hj => ?_⟩
  · rw [makeDelta2, hPrefix]
    exact hGood
  · obtain ⟨d₀, d, hd₀, hd, hEntry⟩ := hTable j hj
    obtain ⟨v, hv, rfl⟩ := hFrom j d₀ hd₀
    rw [Nat.zero_add] at hv hEntry
    exact ⟨d, hd, v, hv, hEntry⟩

/-! ## Which patterns have right tables -/

theorem LastPrefix.le (h : LastPrefix pat j v) : v ≤ pat.length := by
  rcases h with ⟨q, -, hIn, -, -, rfl⟩ | ⟨-, rfl⟩ <;> omega

theorem LastPrefix.pos (h : LastPrefix pat j v) (hj : j < pat.length) : 0 < v := by
  rcases h with ⟨q, -, -, -, -, rfl⟩ | ⟨hNone, rfl⟩
  · exact Nat.succ_pos q
  · have hZero : 0 < j := by
      refine Nat.pos_of_ne_zero ?_
      rintro rfl
      exact hNone 0 (Nat.le_refl 0) hj (border_zero pat)
    omega

theorem border_of_repeated (h : ∀ a ∈ pat, ∀ b ∈ pat, a = b) (q : Nat) : Border pat q := by
  rw [border_iff]
  intro k hLe hLt
  rw [List.getElem?_eq_getElem hLt, List.getElem?_eq_getElem (by omega : k - q < pat.length)]
  exact congrArg some (h _ (List.getElem_mem _) _ (List.getElem_mem _))

theorem Plain.no_border (hPlain : Plain pat) (hLast : LastPrefix pat j v) {e : Nat} (hje : j < e)
    (hev : e < v) : ¬ Border pat e := by
  intro hBorder
  rcases hLast with ⟨q, hLe, hIn, -, hFirst, rfl⟩ | ⟨hNone, rfl⟩
  · rcases hPlain with hRepeated | hNone
    · refine hFirst j (Nat.le_refl j) (by omega) (border_of_repeated hRepeated j)
    · exact hNone e (by omega) (by omega) hBorder
  · exact hNone e (by omega) (by omega) hBorder

theorem Entry.pos_safe (hPlain : Plain pat) (hFit : 2 * pat.length ≤ 2 ^ 31) (hj : j < pat.length)
    (h : Entry pat j d) (c : UInt8) :
    (pat.length - 1 - j : Nat) < d ∧ j + d < 2 * pat.length ∧
    Safe pat j c (windowShift pat j d) := by
  obtain ⟨v, hLast, hGood⟩ := h
  rcases hGood with ⟨e, hLo, hLe, -, hFirst, rfl⟩ | ⟨hNone, rfl⟩
  · rw [toInt_of_lt (by omega), windowShift_add]
    exact ⟨by omega, by omega, safe_of_compatible (fun r hr => hFirst r hr) c⟩
  · have hle := hLast.le
    have hPos := hLast.pos hj
    rw [toInt_of_lt (by omega), windowShift_add]
    refine ⟨by omega, by omega, safe_of_compatible (fun e he hev => ?_) c⟩
    rcases Nat.lt_or_ge j e with hBeyond | hInside
    · rw [compatible_iff_border hBeyond]
      exact hPlain.no_border hLast hBeyond hev
    · exact hNone e he hInside

theorem repeated_of_border_one (h : Border pat 1) : ∀ a ∈ pat, ∀ b ∈ pat, a = b := by
  have hFirst : ∀ k (hk : k < pat.length), pat[k] = pat[0] := by
    intro k
    induction k with
    | zero => exact fun _ => rfl
    | succ k ih =>
      intro hk
      have hStep := border_iff.mp h (k + 1) (by omega) hk
      rw [Nat.add_sub_cancel, List.getElem?_eq_getElem hk, List.getElem?_eq_getElem (by omega)] at hStep
      rw [← Option.some.inj hStep]
      exact ih (by omega)
  intro a ha b hb
  obtain ⟨i, hi, rfl⟩ := List.getElem_of_mem ha
  obtain ⟨k, hk, rfl⟩ := List.getElem_of_mem hb
  rw [hFirst i hi, hFirst k hk]

theorem not_border_of_compatible (h : Compatible pat 1 1) (hq : 2 ≤ q) (hIn : q < pat.length) :
    ¬ Border pat q := by
  intro hBorder
  have hTail : ∀ k, 1 ≤ k → k < pat.length → pat[k]? = pat[1]? := by
    intro k hk
    induction k, hk using Nat.le_induction with
    | base => exact fun _ => rfl
    | succ k hk ih =>
      intro hLt
      have hStep := h.1 (k + 1) (by omega) hLt (by omega)
      rw [Nat.add_sub_cancel] at hStep
      rw [← hStep]
      exact ih (by omega)
  have hStart := border_iff.mp hBorder q (Nat.le_refl q) hIn
  rw [Nat.sub_self, hTail q (by omega) hIn] at hStart
  exact h.2 (Nat.le_refl 1) hStart

theorem Entry.not_safe (hNot : ¬ Plain pat) (hNul : 0 ∉ pat) (hSmall : pat.length < 2 ^ 31)
    (h : Entry pat 1 d) :
    ¬ ((pat.length - 1 - 1 : Nat) < d ∧ Safe pat 1 0 (windowShift pat 1 d)) := by
  rw [Plain, not_or] at hNot
  obtain ⟨hMany, hBordered⟩ := hNot
  simp only [not_forall, not_not] at hBordered
  obtain ⟨r, hr, hrIn, hrBorder⟩ := hBordered
  obtain ⟨v, hLast, hGood⟩ := h
  rcases hLast with ⟨q, hq, hIn, hBorder, -, rfl⟩ | ⟨hNone, -⟩
  · have hTwo : 2 ≤ q := by
      refine Nat.lt_of_le_of_ne hq ?_
      rintro rfl
      exact hMany (repeated_of_border_one hBorder)
    rcases hGood with ⟨e, hLo, hLe, hCompatible, -⟩ | ⟨-, rfl⟩
    · obtain rfl : e = 1 := by omega
      exact absurd hBorder (not_border_of_compatible hCompatible hTwo hIn)
    · rintro ⟨hPos, hSafe⟩
      rcases Nat.lt_or_ge (q + 1 + (pat.length - 1 - 1)) (2 ^ 31) with hFit | hOver
      · rw [toInt_of_lt hFit, windowShift_add] at hSafe
        refine not_safe_of_border (by omega) (by omega) hBorder ?_ (Nat.lt_succ_self q) hSafe
        exact fun hZero => hNul (List.mem_of_getElem? hZero)
      · have hNeg := toInt_neg hOver (by omega)
        omega
  · exact absurd hrBorder (hNone r hr hrIn)

theorem tables_of_plain {delta1 : UInt8 → Int} {delta2 : List Int} (hPlain : Plain pat)
    (hFit : 2 * pat.length ≤ 2 ^ 31) (hDistances : Distances pat (pat.length - 1) delta1)
    (hLength : delta2.length = pat.length)
    (hTable : ∀ j < pat.length, ∃ d, delta2[j]? = some d ∧ Entry pat j d) :
    Tables pat delta1 delta2 := by
  have hEntry : ∀ (j : Nat) (d : Int), delta2[j]? = some d → j < pat.length ∧ Entry pat j d := by
    intro j d hd
    have hj : j < pat.length := by
      obtain ⟨hIn, -⟩ := List.getElem?_eq_some_iff.mp hd
      omega
    obtain ⟨d', hd', hEntry⟩ := hTable j hj
    rw [hd] at hd'
    cases hd'
    exact ⟨hj, hEntry⟩
  constructor
  · exact hLength
  · exact hDistances.pos
  · exact hDistances.safe
  · intro j d hd
    obtain ⟨hj, hEntry⟩ := hEntry j d hd
    exact (hEntry.pos_safe hPlain hFit hj 0).1
  · intro j d c hd
    obtain ⟨hj, hEntry⟩ := hEntry j d hd
    exact (hEntry.pos_safe hPlain hFit hj c).2.2

theorem plain_of_tables {delta1 : UInt8 → Int} {delta2 : List Int} (hNul : 0 ∉ pat)
    (hSmall : pat.length < 2 ^ 31) (hTables : Tables pat delta1 delta2)
    (hTable : ∀ j < pat.length, ∃ d, delta2[j]? = some d ∧ Entry pat j d) : Plain pat := by
  by_contra hNot
  have hLong : 1 < pat.length := by
    by_contra hShort
    exact hNot (.inr fun q hPos hIn => by omega)
  obtain ⟨d, hd, hEntry⟩ := hTable 1 hLong
  exact hEntry.not_safe hNot hNul hSmall ⟨hTables.delta2Pos 1 d hd, hTables.delta2Safe 1 d 0 hd⟩

end Tables

/-! ## The first occurrence -/

variable {str pat : List UInt8} {n s fuel : Nat} {delta1 : UInt8 → Int} {delta2 : List Int}

theorem charAt_cast (str : List UInt8) (i : Nat) : charAt str i = str[i]? := by
  rw [charAt, if_pos (Int.natCast_nonneg i), Int.toNat_natCast]

/-- The comparison of the window at `s`, of which `n` characters are left. -/
theorem compareLoop_spec (hIn : s + pat.length ≤ str.length) (hn : n ≤ pat.length)
    (hAfter : ∀ k, n ≤ k → k < pat.length → str[s + k]? = pat[k]?) :
    compareLoop str pat n (s + n - 1 : Int) = some ((s - 1 : Int), 0) ∧ OccursAt pat str s ∨
      ∃ j c, compareLoop str pat n (s + n - 1 : Int) = some (((s + j : Nat) : Int), j + 1) ∧
        Mismatch pat str s j c := by
  induction n with
  | zero =>
    refine .inl ⟨?_, fun k hk => hAfter k (Nat.zero_le k) hk⟩
    rw [compareLoop]
    congr 2
  | succ n ih =>
    have hIndex : (s + (n + 1 : Nat) - 1 : Int) = (s + n : Nat) := by omega
    have hText : str[s + n]? = some str[s + n] := List.getElem?_eq_getElem (by omega)
    have hChar : pat[n]? = some pat[n] := List.getElem?_eq_getElem (by omega)
    rw [hIndex, compareLoop, charAt_cast, hText, hChar, Option.bind_some, Option.bind_some]
    split
    · rename_i hSame
      have hBefore : ((s + n : Nat) - 1 : Int) = s + n - 1 := by omega
      rw [hBefore]
      refine ih (by omega) fun k hk hkIn => ?_
      rcases Nat.eq_or_lt_of_le hk with rfl | hLater
      · rw [hText, hChar, hSame]
      · exact hAfter k hLater hkIn
    · rename_i hDiffer
      refine .inr ⟨n, str[s + n], rfl, by omega, fun k hk hkIn => hAfter k hk hkIn, hText, ?_⟩
      rw [hChar]
      exact fun hEq => hDiffer (Option.some.inj hEq).symm

theorem windowShift_max (pat : List UInt8) (j : Nat) (d d' : Int) :
    windowShift pat j (max d d') = max (windowShift pat j d) (windowShift pat j d') := by
  rw [windowShift, windowShift, windowShift]
  omega

/-- The bound on what is added to an index. -/
def Bounded (pat : List UInt8) (delta1 : UInt8 → Int) (delta2 : List Int) : Prop :=
  ∀ (j : Nat) (d : Int) (c : UInt8), delta2[j]? = some d → j + max (delta1 c) d < 2 * pat.length

/-- What one pass does with the window at `s`. -/
theorem searchLoop_pass (fuel : Nat) (hPat : pat ≠ []) (hTables : Tables pat delta1 delta2)
    (hIn : s + pat.length ≤ str.length) :
    OccursAt pat str s ∧
        searchLoop str pat delta1 delta2 (fuel + 1)
        (s + pat.length - 1 : Int) = some (some (s : Int)) ∨
      ∃ (j : Nat) (c : UInt8) (d : Int) (s' : Nat), delta2[j]? = some d ∧ s < s' ∧
        (s' + pat.length - 1 : Int) = (s + j : Nat) + max (delta1 c) d ∧
        (NoneBefore pat str s → NoneBefore pat str s') ∧
        searchLoop str pat delta1 delta2 (fuel + 1) (s + pat.length - 1 : Int) =
          if (s' + pat.length - 1 : Int) < 2 ^ 31 then
            searchLoop str pat delta1 delta2 fuel (s' + pat.length - 1 : Int)
          else none := by
  have hPos := List.length_pos_iff.mpr hPat
  rw [searchLoop, if_pos (by omega)]
  rcases compareLoop_spec hIn (Nat.le_refl pat.length) (by omega) with
    ⟨hLoop, hOccurs⟩ | ⟨j, c, hLoop, hMismatch⟩
  · refine .inl ⟨hOccurs, ?_⟩
    rw [hLoop, Option.bind_some]
    exact congrArg (fun i => some (some i)) (Int.sub_add_cancel _ _)
  · have hj := hMismatch.lt
    obtain ⟨d, hd⟩ : ∃ d, delta2[j]? = some d := by
      have hIndex : j < delta2.length := hTables.length ▸ hj
      exact ⟨_, List.getElem?_eq_getElem hIndex⟩
    have hMove := hTables.delta2Pos j d hd
    have hShift := windowShift_max pat j (delta1 c) d
    -- the end of the window is as far from the mismatch as before
    have hNext : ((s + windowShift pat j (max (delta1 c) d) : Nat) + pat.length - 1 : Int) =
        (s + j : Nat) + max (delta1 c) d := by
      rw [windowShift]
      omega
    refine .inr ⟨j, c, d, s + windowShift pat j (max (delta1 c) d), hd, ?_, hNext, fun hNone => ?_, ?_⟩
    · rw [windowShift]
      omega
    · rw [hShift]
      exact hNone.shift hMismatch ((hTables.delta1Safe j c).max (hTables.delta2Safe j d c hd))
    · rw [hLoop, Option.bind_some, hNext]
      simp only [charAt_cast, hMismatch.char, hd, Option.bind_some]

theorem searchLoop_spec (hPat : pat ≠ []) (hTables : Tables pat delta1 delta2)
    (hBounded : Bounded pat delta1 delta2) (hStr : str.length < 2 ^ 31) (hFits : Fits str pat)
    (hNone : NoneBefore pat str s) (hFuel : 0 < fuel)
    (hEnough : str.length + 2 ≤ s + pat.length + fuel) :
    ∃ r : Option Nat, searchLoop str pat delta1 delta2 fuel (s + pat.length - 1 : Int) =
      some (r.map Nat.cast) ∧ IsFirst pat str r := by
  induction fuel generalizing s with
  | zero => exact absurd hFuel (Nat.lt_irrefl 0)
  | succ fuel ih =>
    rcases Nat.lt_or_ge str.length (s + pat.length) with hEnd | hIn
    · refine ⟨none, ?_, hNone.none hPat hEnd⟩
      rw [searchLoop, if_neg (by omega)]
      rfl
    · rcases searchLoop_pass fuel hPat hTables hIn with
        ⟨hOccurs, hFound⟩ | ⟨j, c, d, s', hd, hMove, hNext, hKeep, hPass⟩
      · exact ⟨some s, hFound, hNone.isFirst hOccurs⟩
      · have hBound := hBounded j d c hd
        have hNone' := hKeep hNone
        have hSmall : (s' + pat.length - 1 : Int) < 2 ^ 31 := by
          rcases hFits.2 with hSum | ⟨e, hOccurs⟩
          · omega
          · -- the window has not passed the place where the pattern is
            have hBefore : s' ≤ e := Nat.le_of_not_lt fun hLt => hNone' e hLt hOccurs
            have hLe := hOccurs.length_le hPat
            omega
        rw [hPass, if_pos hSmall]
        exact ih hNone' (by omega) (by omega)

theorem plain_sound (hPat : pat ≠ []) (hNul : 0 ∉ pat) (hStr : str.length < 2 ^ 31)
    (hFits : Fits str pat) (hPlain : Plain pat) : Sound str pat := by
  have hTwice := hFits.1
  obtain ⟨delta1, hMake1, hDistances⟩ := makeDelta1_spec hPat (by omega)
  obtain ⟨delta2, hMake2, hLength, hTable⟩ := makeDelta2_spec hPat hNul
  have hTables := tables_of_plain hPlain hTwice hDistances hLength hTable
  have hBounded : Bounded pat delta1 delta2 := by
    intro j d c hd
    have hj : j < pat.length := by
      obtain ⟨hIn, -⟩ := List.getElem?_eq_some_iff.mp hd
      omega
    obtain ⟨d', hd', hEntry⟩ := hTable j hj
    obtain rfl : d = d' := Option.some.inj (hd.symm.trans hd')
    have hSecond := (hEntry.pos_safe hPlain hTwice hj c).2.1
    have hFirst := hDistances.le c
    omega
  refine ⟨⟨delta1, delta2, hMake1, hMake2, hTables⟩, ?_⟩
  have hPos := List.length_pos_iff.mpr hPat
  have hStart : NoneBefore pat str 0 := fun e hLt => absurd hLt (Nat.not_lt_zero e)
  obtain ⟨r, hRun, hFirst⟩ := searchLoop_spec hPat hTables hBounded hStr hFits hStart
    (Nat.succ_pos str.length) (by omega)
  refine ⟨r, ?_, hFirst⟩
  rw [bmSearch, if_neg hPat, hMake1, Option.bind_some, hMake2, Option.bind_some, ← hRun]
  congr 1
  omega

/-- Unless the pattern is plain, the second table has a shift that passes over an occurrence, and
for a plain one the search is right where no index overflows. -/
theorem bmSearch_plain (str pat : List UInt8) (hPat : pat ≠ []) (hNul : 0 ∉ pat)
    (hStr : str.length < 2 ^ 31) (hLength : pat.length < 2 ^ 31) :
    (Sound str pat → Plain pat) ∧ (Fits str pat → Plain pat → Sound str pat) := by
  refine ⟨?_, plain_sound hPat hNul hStr⟩
  rintro ⟨⟨delta1, delta2, -, hMake2, hTables⟩, -⟩
  obtain ⟨delta2', hMake2', -, hTable⟩ := makeDelta2_spec hPat hNul
  rw [hMake2] at hMake2'
  cases hMake2'
  exact plain_of_tables hNul hLength hTables hTable

/-- A single character, which is found behind another one. -/
theorem bmSearch_plain_single : Sound [98, 97] [97] := by
  have hText : 2 < 2 ^ 31 := by omega
  have hPattern : 1 < 2 ^ 31 := by omega
  have hTwice : 2 * 1 ≤ 2 ^ 31 := by omega
  have hSum : 2 + 1 ≤ 2 ^ 31 := by omega
  have hPlain : Plain [97] :=
    .inl fun a ha b hb => (List.mem_singleton.mp ha).trans (List.mem_singleton.mp hb).symm
  exact (bmSearch_plain [98, 97] [97] (List.cons_ne_nil _ _) (by decide) hText hPattern).2
    ⟨hTwice, .inl hSum⟩ hPlain

/-- "aba" stands at the end of "bcaba". -/
theorem bmSearch_skips : Lib.Search.OccursAt [97, 98, 97] [98, 99, 97, 98, 97] 2 ∧
    bmSearch [98, 99, 97, 98, 97] [97, 98, 97] = some none := by decide +kernel

end KiwiDevice.Recovery

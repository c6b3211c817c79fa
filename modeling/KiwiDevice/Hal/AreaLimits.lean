import KiwiDevice.Hal.AreaText
import Mathlib.Data.List.Forall2

/-!
# Which area strings are parsed exactly

The areas that the parser finds are compared with the integers in the groups of the string, and the
areas that the check accepts with the ranges that are meant.
-/

namespace KiwiDevice.Hal.Areas

def IsInt32 (n : Int) : Prop := -2 ^ 31 ≤ n ∧ n < 2 ^ 31

instance (n : Int) : Decidable (IsInt32 n) := inferInstanceAs (Decidable (_ ∧ _))

/-- The parenthesised groups of a string. -/
def closedGroups (s : List UInt8) : List (List UInt8) := (areaGroups s).filterMap fun g => g

/-- The area is that of the integers in the group. -/
def Exact (group : List UInt8) (area : CamArea) : Prop :=
  ∃ l t r b w, groupNumbers group = some [l, t, r, b, w] ∧ area = ⟨l, t, r - l, b - t, w⟩

def InRange (group : List UInt8) : Prop :=
  ∃ l t r b w, groupNumbers group = some [l, t, r, b, w] ∧
    (-1000 ≤ l ∧ l < r ∧ r ≤ 1000) ∧ (-1000 ≤ t ∧ t < b ∧ b ≤ 1000) ∧ 1 ≤ w ∧ w ≤ 1000

/-- The parser ends without a write past `area_str`, writes no more than `maxNumAreas` areas, and
what it accepts is exact; and what the check accepts then is in range. -/
def ParsesExactly (s : List UInt8) (maxNumAreas : Int) : Prop :=
  ∃ rc areas, parseCameraAreaString s maxNumAreas = some (rc, areas) ∧
    areas.length ≤ maxNumAreas.toNat ∧
    (rc = 0 → List.Forall₂ Exact (closedGroups s) areas ∧
      (validateCameraAreas areas = true → isDefaultArea areas = false →
        ∀ group ∈ closedGroups s, InRange group))

/-- The integers of the group, its width and its height have 32 bits. -/
def NumbersFit (group : List UInt8) : Prop :=
  ∃ l t r b w, groupNumbers group = some [l, t, r, b, w] ∧ (IsInt32 l ∧ IsInt32 t ∧ IsInt32 w) ∧
    (IsInt32 r ∧ IsInt32 b) ∧ IsInt32 (r - l) ∧ IsInt32 (b - t)

/-- The groups that are copied have at most 31 bytes, and those of a string that is accepted have
numbers that fit. -/
def StringFits (s : List UInt8) (maxNumAreas : Int) : Prop :=
  (s.head? = some openParen →
    ∀ group ∈ copiedGroups maxNumAreas (areaGroups s) 0, group.length < areaStrSize) ∧
  (Accepted maxNumAreas s → ∀ group ∈ closedGroups s, NumbersFit group)

/-- The area as the parser computes it from the integers of the group. -/
def Reads (group? : Option (List UInt8)) (area : CamArea) : Prop :=
  ∃ group l t r b w, group? = some group ∧ groupNumbers group = some [l, t, r, b, w] ∧
    area = areaOf ([l, t, r, b, w].map clamp)

variable {maxNumAreas : Int} {group : List UInt8} {area : CamArea} {s : List UInt8}
  {gs : List (Option (List UInt8))} {areas out : List CamArea} {l t r b w n : Int}

theorem clamp_eq_self (n : Int) : clamp n = n ↔ IsInt32 n := by
  rw [clamp, IsInt32]
  split
  · omega
  · split <;> omega

theorem int32_of_isInt32 (h : IsInt32 n) : int32 n = n := by
  rw [IsInt32] at h
  rw [int32]
  omega

theorem isInt32_int32 (n : Int) : IsInt32 (int32 n) := by
  rw [int32, IsInt32]
  omega

theorem width_exact (hl : IsInt32 l) (h : int32 (clamp r - l) = r - l) :
    IsInt32 r ∧ IsInt32 (r - l) := by
  have hWidth := isInt32_int32 (clamp r - l)
  rw [h] at hWidth
  refine ⟨?_, hWidth⟩
  rw [← clamp_eq_self]
  rw [IsInt32] at hl hWidth
  rw [int32] at h
  rw [clamp] at h ⊢
  split
  · rename_i hLow
    rw [if_pos hLow] at h
    omega
  · rename_i hLow
    split
    · rename_i hHigh
      rw [if_neg hLow, if_pos hHigh] at h
      omega
    · rfl

theorem exact_iff_fits :
    areaOf ([l, t, r, b, w].map clamp) = ⟨l, t, r - l, b - t, w⟩ ↔
      (IsInt32 l ∧ IsInt32 t ∧ IsInt32 w) ∧ (IsInt32 r ∧ IsInt32 b) ∧ IsInt32 (r - l) ∧
        IsInt32 (b - t) := by
  have hArea : areaOf ([l, t, r, b, w].map clamp) =
      ⟨clamp l, clamp t, int32 (clamp r - clamp l), int32 (clamp b - clamp t), clamp w⟩ := rfl
  rw [hArea, CamArea.mk.injEq, clamp_eq_self, clamp_eq_self, clamp_eq_self]
  constructor
  · rintro ⟨hl, ht, hWidth, hHeight, hw⟩
    rw [(clamp_eq_self l).mpr hl] at hWidth
    rw [(clamp_eq_self t).mpr ht] at hHeight
    obtain ⟨hr, hWidth⟩ := width_exact hl hWidth
    obtain ⟨hb, hHeight⟩ := width_exact ht hHeight
    exact ⟨⟨hl, ht, hw⟩, ⟨hr, hb⟩, hWidth, hHeight⟩
  · rintro ⟨⟨hl, ht, hw⟩, ⟨hr, hb⟩, hWidth, hHeight⟩
    rw [(clamp_eq_self l).mpr hl, (clamp_eq_self t).mpr ht, (clamp_eq_self r).mpr hr,
      (clamp_eq_self b).mpr hb]
    exact ⟨hl, ht, int32_of_isInt32 hWidth, int32_of_isInt32 hHeight, hw⟩

theorem inRange_of_valid (hFits : NumbersFit group) (hExact : Exact group area)
    (hValid : validArea area = true) : InRange group := by
  obtain ⟨l, t, r, b, w, hNumbers, -, ⟨hr, hb⟩, -, -⟩ := hFits
  obtain ⟨l', t', r', b', w', hSame, rfl⟩ := hExact
  rw [hNumbers] at hSame
  cases hSame
  have h := of_decide_eq_true hValid
  dsimp only at h
  have hRight : l + (r - l) = r := by omega
  have hBottom : t + (b - t) = b := by omega
  rw [hRight, hBottom, int32_of_isInt32 hr, int32_of_isInt32 hb] at h
  exact ⟨l, t, r, b, w, hNumbers, by omega, by omega, by omega⟩

/-- What the loop over the groups finds when all groups that are copied fit `area_str`. -/
theorem parseGroups_spec (maxNumAreas : Int) (gs : List (Option (List UInt8)))
    (areas : List CamArea)
    (hCopied : ∀ group ∈ copiedGroups maxNumAreas gs areas.length, group.length < areaStrSize) :
    ∃ rc out, parseGroups maxNumAreas gs areas = some (rc, areas ++ out) ∧
      (out = [] ∨ (areas.length + out.length : Int) ≤ maxNumAreas) ∧
      (rc = 0 → List.Forall₂ Reads gs out ∧ (gs = [] ∨ (areas.length + gs.length : Int) ≤ maxNumAreas)) ∧
      ((∀ group? ∈ gs, ∃ group, group? = some group ∧ (groupNumbers group).isSome) →
        (areas.length + gs.length : Int) ≤ maxNumAreas → rc = 0) := by
  induction gs generalizing areas with
  | nil =>
    refine ⟨0, [], by rw [parseGroups, List.append_nil], .inl rfl, fun _ => ⟨.nil, .inl rfl⟩,
      fun _ _ => rfl⟩
  | cons group? gs ih =>
    cases group? with
    | none =>
      refine ⟨badValue, [], by rw [parseGroups, List.append_nil], .inl rfl, fun h => absurd h (by decide), ?_⟩
      intro hAll
      obtain ⟨group, hSome, -⟩ := hAll none List.mem_cons_self
      cases hSome
    | some group =>
      rw [copiedGroups] at hCopied
      have hFirst := hCopied group List.mem_cons_self
      rw [parseGroups, if_neg (Nat.not_le_of_lt hFirst), parseNDimVector_strtol]
      cases hNumbers : groupNumbers group with
      | none =>
        refine ⟨badValue, [], by rw [List.append_nil]; rfl, .inl rfl, fun h => absurd h (by decide), ?_⟩
        intro hAll
        obtain ⟨group', hSame, hSome⟩ := hAll (some group) List.mem_cons_self
        cases hSame
        rw [hNumbers] at hSome
        cases hSome
      | some values =>
        rw [Option.map_some]
        dsimp only
        split
        · rename_i hMany
          refine ⟨badValue, [], by rw [List.append_nil], .inl rfl, fun h => absurd h (by decide), ?_⟩
          intro _ hRoom
          rw [List.length_cons] at hRoom
          omega
        · rename_i hRoom
          have hRest : ∀ g ∈ copiedGroups maxNumAreas gs
              (areas ++ [areaOf (values.map clamp)]).length, g.length < areaStrSize := by
            intro g hg
            rw [List.length_append, List.length_singleton] at hg
            refine hCopied g (List.mem_cons_of_mem _ ?_)
            rwa [hNumbers, if_pos ⟨rfl, by omega⟩]
          obtain ⟨rc, out, hRun, hOut, hZero, hAccepted⟩ := ih _ hRest
          obtain ⟨l, t, r, b, w, rfl⟩ := groupNumbers_cases hNumbers
          rw [List.length_append, List.length_singleton] at hOut hZero hAccepted
          refine ⟨rc, areaOf ([l, t, r, b, w].map clamp) :: out, ?_, ?_, ?_, ?_⟩
          · rw [hRun, List.append_assoc, List.singleton_append]
          · rw [List.length_cons]
            rcases hOut with rfl | hOut
            · rw [List.length_nil]
              omega
            · omega
          · intro hRc
            obtain ⟨hReads, hCount⟩ := hZero hRc
            refine ⟨.cons ⟨group, l, t, r, b, w, rfl, hNumbers, rfl⟩ hReads, ?_⟩
            rw [List.length_cons]
            rcases hCount with rfl | hCount
            · rw [List.length_nil]
              omega
            · omega
          · intro hAll hCount
            rw [List.length_cons] at hCount
            exact hAccepted (fun g hg => hAll g (List.mem_cons_of_mem _ hg)) (by omega)

/-- A group that is copied and does not fit `area_str`. -/
theorem parseGroups_overrun (maxNumAreas : Int) (gs : List (Option (List UInt8)))
    (areas : List CamArea) (hGroup : group ∈ copiedGroups maxNumAreas gs areas.length)
    (hLong : areaStrSize ≤ group.length) : parseGroups maxNumAreas gs areas = none := by
  induction gs generalizing areas with
  | nil => cases hGroup
  | cons group? gs ih =>
    cases group? with
    | none => cases hGroup
    | some first =>
      rw [parseGroups]
      rw [copiedGroups] at hGroup
      split
      · rfl
      · rename_i hShort
        rcases List.mem_cons.mp hGroup with rfl | hRest
        · exact absurd hLong hShort
        · split at hRest
          · rename_i hGoes
            obtain ⟨values, hNumbers⟩ := Option.isSome_iff_exists.mp hGoes.1
            rw [parseNDimVector_strtol, hNumbers, Option.map_some]
            dsimp only
            rw [if_neg (by omega)]
            exact ih _ (by rwa [List.length_append, List.length_singleton])
          · cases hRest

theorem filterMap_cons_group :
    (some group :: gs).filterMap (fun g => g) = group :: gs.filterMap fun g => g := rfl

theorem exists_read (h : List.Forall₂ Reads gs out) {group? : Option (List UInt8)}
    (hMem : group? ∈ gs) : ∃ area, Reads group? area := by
  induction h with
  | nil => cases hMem
  | cons hFirst _ ih =>
    rcases List.mem_cons.mp hMem with rfl | hRest
    · exact ⟨_, hFirst⟩
    · exact ih hRest

theorem exact_of_fits (h : List.Forall₂ Reads gs out)
    (hFits : ∀ group ∈ gs.filterMap fun g => g, NumbersFit group) :
    List.Forall₂ Exact (gs.filterMap fun g => g) out := by
  induction h with
  | nil => exact .nil
  | cons hReads _ ih =>
    obtain ⟨group, l, t, r, b, w, rfl, hNumbers, rfl⟩ := hReads
    rw [filterMap_cons_group] at hFits ⊢
    obtain ⟨l', t', r', b', w', hSame, hFit⟩ := hFits group List.mem_cons_self
    rw [hNumbers] at hSame
    cases hSame
    refine .cons ⟨l, t, r, b, w, hNumbers, exact_iff_fits.mpr hFit⟩ (ih ?_)
    intro g hg
    exact hFits g (List.mem_cons_of_mem _ hg)

theorem fits_of_exact (h : List.Forall₂ Reads gs out)
    (hExact : List.Forall₂ Exact (gs.filterMap fun g => g) out) :
    ∀ group ∈ gs.filterMap fun g => g, NumbersFit group := by
  induction h with
  | nil => exact fun _ h => absurd h List.not_mem_nil
  | cons hReads _ ih =>
    obtain ⟨group, l, t, r, b, w, rfl, hNumbers, rfl⟩ := hReads
    rw [filterMap_cons_group] at hExact ⊢
    cases hExact with
    | cons hFirst hRest =>
      obtain ⟨l', t', r', b', w', hSame, hArea⟩ := hFirst
      rw [hNumbers] at hSame
      cases hSame
      intro g hg
      rcases List.mem_cons.mp hg with rfl | hg
      · exact ⟨l, t, r, b, w, hNumbers, exact_iff_fits.mp hArea⟩
      · exact ih hRest g hg

theorem inRange_of_all {groups : List (List UInt8)} (hExact : List.Forall₂ Exact groups areas)
    (hFits : ∀ group ∈ groups, NumbersFit group) (hValid : areas.all validArea = true) :
    ∀ group ∈ groups, InRange group := by
  induction hExact with
  | nil => exact fun _ h => absurd h List.not_mem_nil
  | cons hFirst _ ih =>
    rw [List.all_cons, Bool.and_eq_true] at hValid
    intro g hg
    rcases List.mem_cons.mp hg with rfl | hRest
    · exact inRange_of_valid (hFits _ List.mem_cons_self) hFirst hValid.1
    · exact ih (fun g' h' => hFits g' (List.mem_cons_of_mem _ h')) hValid.2 g hRest

theorem accepted_of_reads (hHead : s.head? = some openParen)
    (hReads : List.Forall₂ Reads (areaGroups s) out)
    (hCount : areaGroups s = [] ∨ ((areaGroups s).length : Int) ≤ maxNumAreas) :
    Accepted maxNumAreas s := by
  refine ⟨hHead, hCount.resolve_left ?_, ?_⟩
  · cases s with
    | nil => cases hHead
    | cons c rest =>
      cases hHead
      exact areaGroups_cons_ne_nil rest
  · intro group? hMem
    obtain ⟨area, group, l, t, r, b, w, hSome, hNumbers, -⟩ := exists_read hReads hMem
    exact ⟨group, hSome, by rw [hNumbers]; rfl⟩

theorem parsesExactly_of_fits (h : StringFits s maxNumAreas) : ParsesExactly s maxNumAreas := by
  rw [ParsesExactly, parseCameraAreaString_eq]
  split
  · rename_i hHead
    obtain ⟨rc, out, hRun, hOut, hZero, -⟩ :=
      parseGroups_spec maxNumAreas (areaGroups s) [] (h.1 hHead)
    rw [List.length_nil] at hOut hZero
    refine ⟨rc, out, hRun, ?_, ?_⟩
    · rcases hOut with rfl | hOut
      · exact Nat.zero_le _
      · omega
    · intro hRc
      obtain ⟨hReads, hCount⟩ := hZero hRc
      have hFits := h.2 (accepted_of_reads hHead hReads (by simpa using hCount))
      have hExact := exact_of_fits hReads hFits
      refine ⟨hExact, fun hValid hDefault => ?_⟩
      rw [validateCameraAreas, hDefault, Bool.false_or] at hValid
      exact inRange_of_all hExact hFits hValid
  · exact ⟨badValue, [], rfl, Nat.zero_le _, fun h => absurd h (by decide)⟩

theorem fits_of_parsesExactly (h : ParsesExactly s maxNumAreas) : StringFits s maxNumAreas := by
  obtain ⟨rc, areas, hRun, -, hOk⟩ := h
  rw [parseCameraAreaString_eq] at hRun
  have hCopied : s.head? = some openParen →
      ∀ group ∈ copiedGroups maxNumAreas (areaGroups s) 0, group.length < areaStrSize := by
    intro hHead group hGroup
    refine Nat.lt_of_not_le fun hLong => ?_
    rw [if_pos hHead, parseGroups_overrun maxNumAreas (areaGroups s) [] hGroup hLong] at hRun
    cases hRun
  refine ⟨hCopied, fun hAccepted => ?_⟩
  obtain ⟨rc', out, hSpec, -, hZero, hAll⟩ :=
    parseGroups_spec maxNumAreas (areaGroups s) [] (hCopied hAccepted.1)
  rw [if_pos hAccepted.1, hSpec] at hRun
  obtain ⟨rfl, rfl⟩ := Prod.mk.inj (Option.some.inj hRun)
  have hRc := hAll hAccepted.2.2 (by simpa using hAccepted.2.1)
  exact fits_of_exact (hZero hRc).1 (hOk hRc).1

/-- An area string is parsed safely and exactly if and only if its groups and numbers fit. -/
theorem areas_parsed_exactly_iff (s : List UInt8) (maxNumAreas : Int) :
    ParsesExactly s maxNumAreas ↔ StringFits s maxNumAreas :=
  ⟨fits_of_parsesExactly, parsesExactly_of_fits⟩

/-- `(1,0,-2147483648,1,1)`: the difference of right and left wraps around to a positive width, and
the check accepts the area. -/
def wrappingArea : List UInt8 :=
  [40, 49, 44, 48, 44, 45, 50, 49, 52, 55, 52, 56, 51, 54, 52, 56, 44, 49, 44, 49, 41]

theorem wrapping_area_accepted : ¬ ∀ (s : List UInt8) (maxNumAreas : Int),
    ParsesExactly s maxNumAreas := by
  intro hClaim
  have hParse : parseCameraAreaString wrappingArea 1 = some (0, [⟨1, 0, 2147483647, 1, 1⟩]) := by
    decide +kernel
  have hNumbers : groupNumbers wrappingArea = some [1, 0, -2147483648, 1, 1] := by decide +kernel
  have hGroups : wrappingArea ∈ closedGroups wrappingArea := by decide +kernel
  obtain ⟨rc, areas, hRun, -, hOk⟩ := hClaim wrappingArea 1
  rw [hParse] at hRun
  cases hRun
  obtain ⟨l, t, r, b, w, hSame, hRange, -⟩ :=
    (hOk rfl).2 (by decide) (by decide) wrappingArea hGroups
  rw [hNumbers] at hSame
  cases hSame
  omega

end KiwiDevice.Hal.Areas

import KiwiDevice.Jpeg.OmxCore
import KiwiDevice.Lib.Lists
import KiwiDevice.Lib.Steps

/-!
# Components of the OMX core over whole runs

A component is open where its library is loaded and both entry points are of this load, as long as a
call that loads a library does not fail after that, and the core is not freed before the last
handle.
-/

namespace KiwiDevice.Jpeg

/-- The call was made while the library was loaded. -/
def OmxEffect.Mapped : OmxEffect → Prop
  | .call _ mapped => mapped = true
  | .method _ mapped => mapped = true
  | _ => True

instance : DecidablePred OmxEffect.Mapped
  | .call _ mapped => inferInstanceAs (Decidable (mapped = true))
  | .method _ mapped => inferInstanceAs (Decidable (mapped = true))
  | .out _ => inferInstanceAs (Decidable True)
  | .returned _ => inferInstanceAs (Decidable True)

@[simp] theorem OmxEffect.out_mapped (h : Option Nat) : (OmxEffect.out h).Mapped := trivial

@[simp] theorem OmxEffect.returned_mapped (rc : OmxError) :
    (OmxEffect.returned rc).Mapped := trivial

@[simp] theorem OmxEffect.method_mapped (lib : String) (mapped : Bool) :
    (OmxEffect.method lib mapped).Mapped ↔ mapped = true := Iff.rfl

/-- The entry points are found and give a component. -/
def OmxAnswers.Complete (a : OmxAnswers) : Prop :=
  a.createSymbol = true ∧ a.instanceSymbol = true ∧ a.obj = true ∧ a.comp ≠ none

namespace OmxComponent

variable {c c' : OmxComponent} {l l' : Linker} {a : OmxAnswers} {o : List OmxEffect} {i : Nat}

/-- Both entry points are those of the library that is loaded. -/
def Resolved (l : Linker) (c : OmxComponent) : Prop :=
  ∃ h, c.libHandle = some h ∧ h.lib = c.libName ∧ l.maps h = true ∧
    c.getInstance = some ⟨h, "getInstance"⟩ ∧ c.createCompFunc = some ⟨h, "create_component_fns"⟩

inductive Ok (l : Linker) (c : OmxComponent) : Prop where
  | closed (hOpened : c.opened = false) (hActive : c.isCompActive = false)
      (hRefs : (l c.libName).refs = 0)
  | opened (hOpened : c.opened = true) (hActive : c.isCompActive = true) (hRefs : (l c.libName).refs = 1)
      (hResolved : c.Resolved l)

/-- What a call leaves of a component and the linker. -/
structure Keeps (l : Linker) (c : OmxComponent) (l' : Linker) (c' : OmxComponent) (o : List OmxEffect) :
    Prop where
  ok : c'.Ok l'
  compName : c'.compName = c.compName
  libName : c'.libName = c.libName
  frame : ∀ lib, lib ≠ c.libName → l' lib = l lib
  mapped : ∀ e ∈ o, e.Mapped
  failed : ∀ rc, .returned rc ∈ o → rc ≠ .none → c'.handle = c.handle

theorem isCompActive_iff : c.isCompActive = true ↔ ∃ h, some h ∈ c.handle := by
  simp only [isCompActive, List.any_eq_true, decide_eq_true_eq]
  constructor
  · rintro ⟨o, hMem, hSome⟩
    obtain ⟨h, rfl⟩ := Option.ne_none_iff_exists'.mp hSome
    exact ⟨h, hMem⟩
  · rintro ⟨h, hMem⟩
    exact ⟨some h, hMem, Option.some_ne_none h⟩

theorem Ok.loaded_iff (h : c.Ok l) : l.loaded c.libName = true ↔ c.isCompActive = true := by
  cases h with
  | closed hOpened hActive hRefs => simp [Linker.loaded, hRefs, hActive]
  | opened hOpened hActive hRefs hResolved => simp [Linker.loaded, hRefs, hActive]

theorem Resolved.loaded (h : c.Resolved l) : l.loaded c.libName = true := by
  obtain ⟨lib, -, hName, hMaps, -, -⟩ := h
  rw [Linker.maps, Bool.and_eq_true, hName] at hMaps
  exact hMaps.1

theorem Ok.opened_iff (h : c.Ok l) : c.opened = true ↔ c.Resolved l := by
  cases h with
  | closed hOpened hActive hRefs =>
    constructor
    · intro hTrue
      rw [hOpened] at hTrue
      cases hTrue
    · intro hResolved
      have hLoaded := hResolved.loaded
      simp [Linker.loaded, hRefs] at hLoaded
  | opened hOpened hActive hRefs hResolved => exact iff_of_true hOpened hResolved

theorem Ok.congr {d : OmxComponent} (h : d.Ok l) (hFrame : l' d.libName = l d.libName) :
    d.Ok l' := by
  cases h with
  | closed hOpened hActive hRefs => exact .closed hOpened hActive (by rw [hFrame, hRefs])
  | opened hOpened hActive hRefs hResolved =>
    obtain ⟨lib, hHandle, hName, hMaps, hInstance, hCreate⟩ := hResolved
    refine .opened hOpened hActive (by rw [hFrame, hRefs]) ⟨lib, hHandle, hName, ?_, hInstance, hCreate⟩
    rw [Linker.maps, Linker.loaded, hName, hFrame]
    rw [Linker.maps, Linker.loaded, hName] at hMaps
    exact hMaps

theorem Ok.keeps (h : c.Ok l) (hMapped : ∀ e ∈ o, e.Mapped) : Keeps l c l c o where
  ok := h
  compName := rfl
  libName := rfl
  frame _ _ := rfl
  mapped := hMapped
  failed _ _ _ := rfl

@[simp] theorem returned_ne_calls (rc : OmxError) (entry : Option EntryPoint) :
    OmxEffect.returned rc ≠ calls l entry := nofun

theorem Resolved.mapped (h : c.Resolved l) :
    (calls l c.getInstance).Mapped ∧ (calls l c.createCompFunc).Mapped := by
  obtain ⟨lib, -, -, hMaps, hInstance, hCreate⟩ := h
  rw [hInstance, hCreate]
  exact ⟨hMaps, hMaps⟩

/-- The same component with its library loaded. -/
structure Loads (l : Linker) (c : OmxComponent) (l' : Linker) (c' : OmxComponent) : Prop where
  compName : c'.compName = c.compName
  libName : c'.libName = c.libName
  handle : c'.handle = c.handle
  opened : c'.opened = true
  refs : (l' c.libName).refs = 1
  resolved : c'.Resolved l'
  frame : ∀ lib, lib ≠ c.libName → l' lib = l lib

theorem Loads.getHandle {closeHandle : Bool} {p : Nat} (h : Loads l c l' c')
    (hFree : c.getFreeInstIdx = some i) (hLoad : c.loadLibrary a l = ⟨c', l', closeHandle, true⟩)
    (hObj : a.obj = true) (hComp : a.comp = some p) :
    Keeps l c (c.getHandle a l).1.2 (c.getHandle a l).1.1 (c.getHandle a l).2 := by
  have hMapped := h.resolved.mapped
  have hLoaded := h.resolved.loaded
  obtain ⟨hLt, -⟩ := List.findIdx?_eq_some_iff_getElem.mp hFree
  have hMem : some p ∈ c'.handle.set i (some p) := by
    apply List.mem_set
    rwa [h.handle]
  simp only [OmxComponent.getHandle, hFree, hLoad, hObj, hComp]
  constructor
  · refine .opened h.opened ?_ ?_ h.resolved
    · exact isCompActive_iff.mpr ⟨p, hMem⟩
    · exact (congrArg (fun lib => (l' lib).refs) h.libName).trans h.refs
  · exact h.compName
  · exact h.libName
  · exact h.frame
  · simp [hMapped, hLoaded]
  · simp

theorem Loads.of_dlopen (hRefs : (l c.libName).refs = 0) (hOpened : c.opened = false)
    (hOpen : a.dlopen = true)
    (hComplete : a.Complete) :
    ∃ c' l', c.loadLibrary a l = ⟨c', l', true, true⟩ ∧ Loads l c l' c' := by
  obtain ⟨hCreate, hInstance, -, -⟩ := hComplete
  refine ⟨_, _, by simp [loadLibrary, hOpened, hOpen, Linker.dlsym, hCreate, hInstance]; exact ⟨rfl, rfl⟩, ?_⟩
  constructor
  · rfl
  · rfl
  · rfl
  · rfl
  · simp [Linker.dlopen, hRefs]
  · exact ⟨_, rfl, rfl, by simp [Linker.maps, Linker.loaded, Linker.dlopen, hRefs], rfl, rfl⟩
  · intro lib hNe
    simp [Linker.dlopen, hNe]

theorem Ok.getHandle (h : c.Ok l) (hComplete : c.opened = false → a.dlopen = true → a.Complete) :
    Keeps l c (c.getHandle a l).1.2 (c.getHandle a l).1.1 (c.getHandle a l).2 := by
  cases hFree : c.getFreeInstIdx with
  | none =>
    simp only [OmxComponent.getHandle, hFree]
    exact h.keeps (by simp)
  | some i =>
    cases h with
    | closed hOpened hActive hRefs =>
      cases hOpen : a.dlopen with
      | false =>
        have hLoad : c.loadLibrary a l = ⟨{ c with libHandle := none }, l, false, false⟩ := by
          rw [loadLibrary, if_pos hOpened, if_neg (by simp [hOpen])]
        simp only [OmxComponent.getHandle, hFree, hLoad, Attempt.error]
        exact ⟨.closed hOpened hActive hRefs, rfl, rfl, fun _ _ => rfl, by simp, fun _ _ _ => rfl⟩
      | true =>
        have hAll := hComplete hOpened hOpen
        obtain ⟨c', l', hLoad, hLoads⟩ := Loads.of_dlopen hRefs hOpened hOpen hAll
        obtain ⟨p, hComp⟩ := Option.ne_none_iff_exists'.mp hAll.2.2.2
        exact hLoads.getHandle hFree hLoad hAll.2.2.1 hComp
    | opened hOpened hActive hRefs hResolved =>
      have hLoad : c.loadLibrary a l = ⟨c, l, false, true⟩ := by simp [loadLibrary, hOpened]
      have hOk : c.Ok l := .opened hOpened hActive hRefs hResolved
      have hMapped := hResolved.mapped
      cases hObj : a.obj with
      | false =>
        simp only [OmxComponent.getHandle, hFree, hLoad, hObj, Attempt.error]
        exact hOk.keeps (by simp [hMapped])
      | true =>
        cases hComp : a.comp with
        | none =>
          simp only [OmxComponent.getHandle, hFree, hLoad, hObj, hComp, Attempt.error]
          exact hOk.keeps (by simp [hMapped])
        | some p =>
          have hLoads : Loads l c l c := ⟨rfl, rfl, rfl, hOpened, hRefs, hResolved, fun _ _ => rfl⟩
          exact hLoads.getHandle hFree hLoad hObj hComp

theorem Ok.freeHandle (h : c.Ok l) (hActive : c.isCompActive = true) :
    Keeps l c (c.freeHandle i l).1.2 (c.freeHandle i l).1.1
      [.method c.libName (l.loaded c.libName), .returned (c.freeHandle i l).2] := by
  have hLoaded := h.loaded_iff.mpr hActive
  cases h with
  | closed _ hInactive _ =>
    rw [hActive] at hInactive
    cases hInactive
  | opened hOpened _ hRefs hResolved =>
    cases hLeft : isCompActive { c with handle := c.handle.set i none } with
    | true =>
      rw [OmxComponent.freeHandle, if_neg (by simp [hLeft])]
      exact ⟨.opened hOpened hLeft hRefs hResolved, rfl, rfl, fun _ _ => rfl, by simp [hLoaded], by simp⟩
    | false =>
      obtain ⟨lib, hHandle, hName, hMaps, -, -⟩ := hResolved
      have hClosed : l.dlclose c.libHandle =
          (true, Function.update l lib.lib ⟨(l lib.lib).refs - 1, lib.load⟩) := by
        simp [Linker.dlclose, hHandle, hMaps]
      rw [OmxComponent.freeHandle, if_pos hLeft]
      simp only [hClosed, hName, hRefs]
      constructor
      · exact .closed rfl hLeft (by simp)
      · rfl
      · rfl
      · intro lib' hNe
        exact Function.update_of_ne hNe _ l
      · simp [hLoaded]
      · simp

end OmxComponent

namespace OmxCore

variable {s s' : OmxCore} {components : List OmxComponent} {c c' : OmxComponent} {l l' : Linker}
  {is : List OmxCall} {os o : List OmxEffect} {i : OmxCall}

/-- The component that a name stands for. -/
def component? (s : OmxCore) (name : Option String) : Option OmxComponent :=
  s.gOmxcore.bind fun components => (getCompFromList components name).bind (components[·]?)

/-- No call that loads a library fails after that, and the core is not freed while there
are handles. -/
def Spared (_ : List OmxCall) (_ : List OmxEffect) (s : OmxCore) (i : OmxCall)
    (_ : List OmxEffect) : Prop :=
  match i with
  | .getHandle true name answers =>
    ∀ c, s.component? name = some c → c.opened = false → answers.dlopen = true → answers.Complete
  | .deinit => s.gOmxcoreCnt = 1 → ∀ components, s.gOmxcore = some components →
    ∀ c ∈ components, c.isCompActive = false
  | _ => True

/-- The handles of each component. -/
def handles (s : OmxCore) : Option (List (List (Option Nat))) := s.gOmxcore.map (·.map (·.handle))

structure TableOk (s : OmxCore) : Prop where
  opened_iff : ∀ components, s.gOmxcore = some components → ∀ c ∈ components,
    (c.opened = true ↔ c.Resolved s.linker)
  loaded_iff : ∀ components, s.gOmxcore = some components → ∀ c ∈ components,
    (s.linker.loaded c.libName = true ↔ c.isCompActive = true)

structure ComponentsOk (components : List OmxComponent) (l : Linker) : Prop where
  names : components.map (fun c => (c.compName, c.libName)) = compInfo
  ok : ∀ c ∈ components, c.Ok l

structure Inv (s : OmxCore) : Prop where
  unloaded : s.gOmxcore = none → ∀ info ∈ compInfo, (s.linker info.2).refs = 0
  components : ∀ components, s.gOmxcore = some components → ComponentsOk components s.linker

theorem start_inv : Inv start where
  unloaded _ _ _ := rfl
  components _ h := nomatch h

theorem Inv.tableOk (h : Inv s) : TableOk s where
  opened_iff components hCore c hc := ((h.components components hCore).ok c hc).opened_iff
  loaded_iff components hCore c hc := ((h.components components hCore).ok c hc).loaded_iff

theorem ComponentsOk.libs_nodup (h : ComponentsOk components l) :
    (components.map (·.libName)).Nodup := by
  have hLibs : components.map (·.libName) = compInfo.map (·.2) := by
    rw [← h.names, List.map_map]
    rfl
  rw [hLibs]
  decide

theorem ComponentsOk.fresh (h : ∀ info ∈ compInfo, (l info.2).refs = 0) :
    ComponentsOk (compInfo.map .fresh) l := by
  constructor
  · rfl
  · intro c hc
    obtain ⟨info, hMem, rfl⟩ := List.mem_map.mp hc
    exact .closed rfl rfl (h info hMem)

theorem ComponentsOk.set {k : Nat} (h : ComponentsOk components l) (hc : components[k]? = some c)
    (hKeeps : OmxComponent.Keeps l c l' c' o) : ComponentsOk (components.set k c') l' := by
  have hNodup := h.libs_nodup
  obtain ⟨front, back, rfl, hSet⟩ := Lib.exists_split hc
  rw [hSet]
  constructor
  · have hNames := h.names
    simp only [List.map_append, List.map_cons] at hNames ⊢
    rw [hKeeps.compName, hKeeps.libName, hNames]
  · intro d hd
    have hOther : d ∈ front ∨ d ∈ back → d.Ok l' := by
      intro hMem
      refine (h.ok d (by simp; tauto)).congr (hKeeps.frame _ ?_)
      intro hSame
      simp [List.nodup_append] at hNodup
      grind
    rcases List.mem_append.mp hd with hFront | hBack
    · exact hOther (.inl hFront)
    · cases hBack with
      | head => exact hKeeps.ok
      | tail _ hBack => exact hOther (.inr hBack)

theorem handles_set {k : Nat} (hc : components[k]? = some c) (h : c'.handle = c.handle) :
    (components.set k c').map (·.handle) = components.map (·.handle) := by
  obtain ⟨front, back, rfl, hSet⟩ := Lib.exists_split hc
  simp [hSet, h]

/-- What one call leaves, whatever it answers. -/
structure StepOk (s : OmxCore) (s' : OmxCore) (o : List OmxEffect) : Prop where
  inv : Inv s'
  mapped : ∀ e ∈ o, e.Mapped
  failed : ∀ rc, .returned rc ∈ o → rc ≠ .none → s'.handles = s.handles

theorem Inv.unchanged (h : Inv s) (hMapped : ∀ e ∈ o, e.Mapped) : StepOk s s o :=
  ⟨h, hMapped, fun _ _ _ => rfl⟩

theorem Inv.keeps {k : Nat} (h : Inv s) (hCore : s.gOmxcore = some components)
    (hc : components[k]? = some c) (hKeeps : OmxComponent.Keeps s.linker c l' c' o) :
    StepOk s { s with gOmxcore := some (components.set k c'), linker := l' } o := by
  constructor
  · constructor
    · nofun
    · intro components' hSome
      cases hSome
      exact (h.components components hCore).set hc hKeeps
  · exact hKeeps.mapped
  · intro rc hReturned hFailed
    rw [handles, handles, hCore]
    exact congrArg some (handles_set hc (hKeeps.failed rc hReturned hFailed))

theorem Inv.init {malloc : Bool} (h : Inv s) (hNext : s.init malloc = (s', o)) : StepOk s s' o := by
  rw [OmxCore.init] at hNext
  split at hNext
  · rename_i components hCore
    cases hNext
    exact ⟨⟨fun hNone => h.unloaded hNone, h.components⟩, by simp, fun _ _ _ => rfl⟩
  · rename_i hCore
    rw [if_neg (by decide)] at hNext
    split at hNext
    · cases hNext
      constructor
      · constructor
        · nofun
        · intro components hSome
          cases hSome
          exact .fresh (h.unloaded hCore)
      · simp
      · simp
    · cases hNext
      exact h.unchanged (by simp)

theorem ComponentsOk.unloaded (h : ComponentsOk components l)
    (hIdle : ∀ c ∈ components, c.isCompActive = false) :
    ∀ info ∈ compInfo, (l info.2).refs = 0 := by
  intro info hInfo
  rw [← h.names] at hInfo
  obtain ⟨c, hc, rfl⟩ := List.mem_map.mp hInfo
  have hLoaded := (h.ok c hc).loaded_iff
  rw [hIdle c hc] at hLoaded
  simpa [Linker.loaded] using hLoaded

theorem Inv.deinit (h : Inv s) (hSpared : Spared is os s .deinit o) (hNext : s.deinit = (s', o)) :
    StepOk s s' o := by
  cases hNext
  by_cases hLast : s.gOmxcoreCnt = 1
  · constructor
    · constructor
      · intro _
        cases hCore : s.gOmxcore with
        | none => exact h.unloaded hCore
        | some components =>
          exact (h.components components hCore).unloaded (hSpared hLast components hCore)
      · simp [hLast]
    · simp
    · simp
  · constructor
    · constructor
      · simpa [hLast] using h.unloaded
      · simpa [hLast] using h.components
    · simp
    · simp

theorem Inv.getHandle {handle : Bool} {name : Option String} {a : OmxAnswers} (h : Inv s)
    (hSpared : Spared is os s (.getHandle handle name a) o)
    (hNext : s.getHandle handle name a = some (s', o)) :
    StepOk s s' o := by
  rw [OmxCore.getHandle] at hNext
  split at hNext
  · cases hNext
    exact h.unchanged (by simp)
  · rename_i hHandle
    rw [Bool.not_eq_false] at hHandle
    subst hHandle
    split at hNext
    · cases hNext
    · rename_i components hCore
      split at hNext
      · cases hNext
        exact h.unchanged (by simp)
      · rename_i k hName
        split at hNext
        · cases hNext
        · rename_i c hc
          cases hNext
          have hMem := List.mem_of_getElem? hc
          have hKeeps := ((h.components components hCore).ok c hMem).getHandle
            (hSpared c (by simp [component?, hCore, hName, hc]))
          refine h.keeps hCore hc ⟨hKeeps.ok, hKeeps.compName, hKeeps.libName, hKeeps.frame, ?_, ?_⟩
          · simpa using hKeeps.mapped
          · simpa using hKeeps.failed

theorem active_of_idx {p k j : Nat} (h : getIdxFromHandle components p = some (k, j))
    (hc : components[k]? = some c) : c.isCompActive = true := by
  rw [getIdxFromHandle] at h
  split at h
  · cases h
  · rename_i k' hFind
    obtain ⟨j', -, hPair⟩ := Option.map_eq_some_iff.mp h
    cases hPair
    obtain ⟨hLt, hHas, -⟩ := List.findIdx?_eq_some_iff_getElem.mp hFind
    obtain ⟨-, rfl⟩ := List.getElem?_eq_some_iff.mp hc
    exact OmxComponent.isCompActive_iff.mpr ⟨p, of_decide_eq_true hHas⟩

theorem Inv.freeHandle {hComp : Option Nat} {componentDeInit : Bool} (h : Inv s)
    (hNext : s.freeHandle hComp componentDeInit = some (s', o)) : StepOk s s' o := by
  cases hComp with
  | none =>
    cases hNext
    exact h.unchanged (by simp)
  | some p =>
    rw [OmxCore.freeHandle] at hNext
    split at hNext
    · cases hNext
    · rename_i components hCore
      split at hNext
      · cases hNext
        exact h.unchanged (by simp)
      · rename_i k j hFound
        split at hNext
        · cases hNext
        · rename_i c hc
          have hOk := (h.components components hCore).ok c (List.mem_of_getElem? hc)
          have hActive := active_of_idx hFound hc
          split at hNext
          · cases hNext
            exact h.keeps hCore hc (hOk.freeHandle hActive)
          · cases hNext
            exact h.unchanged (by simp [hOk.loaded_iff.mpr hActive])

theorem Inv.step (h : Inv s) (hSpared : Spared is os s i o) (hNext : Next s i o s') :
    StepOk s s' o := by
  cases i with
  | init malloc => exact h.init (Option.some.inj hNext)
  | deinit => exact h.deinit hSpared (Option.some.inj hNext)
  | getHandle handle name answers => exact h.getHandle hSpared hNext
  | freeHandle hComp componentDeInit => exact h.freeHandle hNext

/-- In a spared run every component is open where its library is loaded and resolved, and loaded
where it has a handle; every call into a library is made while it is loaded; and a call that fails
leaves the handles as they are. -/
theorem table_of_run (run : Lib.Steps Next Spared start is os s) :
    TableOk s ∧ (∀ e ∈ os, e.Mapped) ∧ ∀ i o s', Spared is os s i o → Next s i o s' →
      ∀ rc, .returned rc ∈ o → rc ≠ .none → s'.handles = s.handles := by
  have hRun : Inv s ∧ ∀ e ∈ os, e.Mapped := by
    apply run.history (I := fun _ os s => Inv s ∧ ∀ e ∈ os, e.Mapped)
    · exact ⟨start_inv, nofun⟩
    · rintro is os s i o s' hSpared ⟨hInv, hMapped⟩ hNext
      have hStep := hInv.step hSpared hNext
      exact ⟨hStep.inv, List.forall_mem_append.mpr ⟨hMapped, hStep.mapped⟩⟩
  exact ⟨hRun.1.tableOk, hRun.2, fun i o s' hSpared hNext => (hRun.1.step hSpared hNext).failed⟩

theorem run_call {allowed : List OmxCall → List OmxEffect → OmxCore → OmxCall → List OmxEffect → Prop}
    (run : Lib.Steps Next allowed start is os s) (i : OmxCall) (hNext : s.perform i = some (s', o))
    (hOk : allowed is os s i o) : Lib.Steps Next allowed start (is ++ [i]) (os ++ o) s' :=
  run.step hOk hNext

def encoder : Option String := some "OMX.qcom.image.jpeg.encoder"

/-- A handle is got and freed, and the library does not load again. -/
theorem table_of_encoder :
    ∃ (os : List OmxEffect) (s : OmxCore), s.gOmxcoreCnt = 1 ∧ TableOk s ∧ ∀ e ∈ os, e.Mapped := by
  have hInit := run_call (.start : Lib.Steps Next Spared start [] [] start) (.init true) rfl trivial
  have hGot := run_call hInit (.getHandle true encoder ⟨true, true, true, true, some 1⟩) rfl
    (fun _ _ _ _ => ⟨rfl, rfl, rfl, by decide⟩)
  have hFreed := run_call hGot (.freeHandle (some 1) true) rfl trivial
  have hFailed := run_call hFreed (.getHandle true encoder ⟨false, true, true, true, some 1⟩) rfl
    (fun _ _ _ h => nomatch h)
  have hTable := table_of_run hFailed
  exact ⟨_, _, rfl, hTable.1, hTable.2.1⟩

/-- `getInstance` fails once: the library is closed, but the component stays open, and the next call
goes into the library that is gone. -/
theorem call_of_unloaded_library : ¬ ∀ is os s, Lib.Steps Next Lib.anyStep start is os s →
    TableOk s ∧ ∀ e ∈ os, e.Mapped := by
  intro h
  have hInit := run_call (.start : Lib.Steps Next Lib.anyStep start [] [] start) (.init true) rfl trivial
  have hFailed := run_call hInit (.getHandle true encoder ⟨true, true, true, false, none⟩) rfl trivial
  have hAgain := run_call hFailed (.getHandle true encoder ⟨true, true, true, true, some 1⟩) rfl trivial
  have hMapped := (h _ _ _ hAgain).2
  revert hMapped
  decide

end OmxCore

end KiwiDevice.Jpeg

import Mathlib.Data.List.Nodup
import Mathlib.Logic.Function.Basic

/-!
# The OMX core

`qomx_core.c` keeps a table of the components with their handles, and loads the library of a
component for its first handle. The dynamic linker counts how often a library is open; its loads are
numbered, so that what was looked up in one load is told from what belongs to a later one.
-/

namespace KiwiDevice.Jpeg

/-- What the linker knows of a library: how often it is open, and the number of its last load. -/
structure Mapping where
  refs : Nat
  load : Nat
  deriving DecidableEq, Repr

/-- A library as `dlopen` gave it. -/
structure LibHandle where
  lib : String
  load : Nat
  deriving DecidableEq, Repr

/-- An address that `dlsym` gave. -/
structure EntryPoint where
  handle : LibHandle
  symbol : String
  deriving DecidableEq, Repr

abbrev Linker := String → Mapping

namespace Linker

def start : Linker := fun _ => ⟨0, 0⟩

def loaded (l : Linker) (lib : String) : Bool := decide ((l lib).refs ≠ 0)

def maps (l : Linker) (h : LibHandle) : Bool := l.loaded h.lib && decide ((l h.lib).load = h.load)

/-- A library that is not open is loaded anew. -/
def dlopen (lib : String) (l : Linker) : LibHandle × Linker :=
  let m := l lib
  let opened : Mapping := if m.refs = 0 then ⟨1, m.load + 1⟩ else ⟨m.refs + 1, m.load⟩
  (⟨lib, opened.load⟩, Function.update l lib opened)

def dlsym (h : LibHandle) (symbol : String) (found : Bool) : Option EntryPoint :=
  if found then some ⟨h, symbol⟩ else none

/-- Whether the handle was one of a library that is open, and what is left. -/
def dlclose (h : Option LibHandle) (l : Linker) : Bool × Linker :=
  match h with
  | none => (false, l)
  | some h =>
    if l.maps h then (true, Function.update l h.lib ⟨(l h.lib).refs - 1, h.load⟩) else (false, l)

end Linker

inductive OmxError where
  | none
  | badParameter
  | invalidComponent
  | insufficientResources
  | undefined
  /-- What `dlclose` returned. -/
  | dlclose
  deriving DecidableEq, Repr

/-- `call` goes through an entry point of the component, `method` through a function of one of its
objects; both say whether the library is loaded then. `out` is a store to `*handle`. -/
inductive OmxEffect where
  | call (entry : Option EntryPoint) (mapped : Bool)
  | method (lib : String) (mapped : Bool)
  | out (handle : Option Nat)
  | returned (rc : OmxError)
  deriving DecidableEq, Repr

structure OmxComponent where
  compName : String
  libName : String
  handle : List (Option Nat)
  opened : Bool
  libHandle : Option LibHandle
  getInstance : Option EntryPoint
  createCompFunc : Option EntryPoint
  deriving DecidableEq, Repr

def compMaxInstances : Nat := 3

def compMaxNum : Nat := 3

def compInfo : List (String × String) :=
  [("OMX.qcom.image.jpeg.encoder", "libqomx_jpegenc.so"),
   ("OMX.qcom.image.jpeg.decoder", "libqomx_jpegdec.so")]

/-- The answers that the linker and the library give in one `OMX_GetHandle`. -/
structure OmxAnswers where
  dlopen : Bool
  createSymbol : Bool
  instanceSymbol : Bool
  obj : Bool
  comp : Option Nat

namespace OmxComponent

/-- What `memset` and the two names leave. -/
def fresh (info : String × String) : OmxComponent where
  compName := info.1
  libName := info.2
  handle := List.replicate compMaxInstances none
  opened := false
  libHandle := none
  getInstance := none
  createCompFunc := none

def getFreeInstIdx (c : OmxComponent) : Option Nat := c.handle.findIdx? (· = none)

def isCompActive (c : OmxComponent) : Bool := c.handle.any (· ≠ none)

/-- What the part of `OMX_GetHandle` that loads the library leaves; `ok` where it does not go
to `error`. -/
structure Attempt where
  comp : OmxComponent
  linker : Linker
  closeHandle : Bool
  ok : Bool

def loadLibrary (a : OmxAnswers) (c : OmxComponent) (l : Linker) : Attempt :=
  if c.opened = false then
    if a.dlopen then
      let lib := l.dlopen c.libName
      let create := Linker.dlsym lib.1 "create_component_fns" a.createSymbol
      let inst := Linker.dlsym lib.1 "getInstance" a.instanceSymbol
      let c := { c with libHandle := some lib.1, opened := true, createCompFunc := create, getInstance := inst }
      ⟨c, lib.2, true, create.isSome && inst.isSome⟩
    else ⟨{ c with libHandle := none }, l, false, false⟩
  else ⟨c, l, false, true⟩

/-- The label `error`. -/
def Attempt.error (t : Attempt) : OmxComponent × Linker :=
  if t.closeHandle then ({ t.comp with libHandle := none }, (t.linker.dlclose t.comp.libHandle).2)
  else (t.comp, t.linker)

def calls (l : Linker) (entry : Option EntryPoint) : OmxEffect :=
  .call entry (match entry with
    | none => false
    | some e => l.maps e.handle)

/-- `OMX_GetHandle` from the choice of the slot on. -/
def getHandle (a : OmxAnswers) (c : OmxComponent) (l : Linker) :
    (OmxComponent × Linker) × List OmxEffect :=
  match c.getFreeInstIdx with
  | none => ((c, l), [.returned .invalidComponent])
  | some i =>
    let t := c.loadLibrary a l
    if t.ok = false then (t.error, [.returned .invalidComponent])
    else
      let instanceCall := calls t.linker t.comp.getInstance
      if a.obj = false then (t.error, [instanceCall, .returned .invalidComponent])
      else
        let createCall := calls t.linker t.comp.createCompFunc
        match a.comp with
        | none => (t.error, [instanceCall, createCall, .returned .invalidComponent])
        | some h =>
          (({ t.comp with handle := t.comp.handle.set i (some h) }, t.linker),
            [instanceCall, createCall, .out (some h), .method t.comp.libName (t.linker.loaded t.comp.libName),
              .returned .none])

/-- `OMX_FreeHandle` after `ComponentDeInit` of what is in the slot. -/
def freeHandle (i : Nat) (c : OmxComponent) (l : Linker) : (OmxComponent × Linker) × OmxError :=
  let c := { c with handle := c.handle.set i none }
  if c.isCompActive = false then
    let closed := l.dlclose c.libHandle
    (({ c with libHandle := none, getInstance := none, createCompFunc := none, opened := false }, closed.2),
      if closed.1 then .none else .dlclose)
  else ((c, l), .none)

end OmxComponent

/-- The globals of the core, and the linker. -/
structure OmxCore where
  gOmxcore : Option (List OmxComponent)
  gOmxcoreCnt : Nat
  linker : Linker

/-- A call with what the functions it uses answer. -/
inductive OmxCall where
  | init (malloc : Bool)
  | deinit
  | getHandle (handle : Bool) (componentName : Option String) (answers : OmxAnswers)
  | freeHandle (hComp : Option Nat) (componentDeInit : Bool)

namespace OmxCore

def start : OmxCore := ⟨none, 0, .start⟩

def init (malloc : Bool) (s : OmxCore) : OmxCore × List OmxEffect :=
  match s.gOmxcore with
  | some _ => ({ s with gOmxcoreCnt := s.gOmxcoreCnt + 1 }, [.returned .none])
  | none =>
    if compMaxNum < compInfo.length then (s, [.returned .undefined])
    else if malloc then
      ({ s with gOmxcore := some (compInfo.map .fresh), gOmxcoreCnt := s.gOmxcoreCnt + 1 }, [.returned .none])
    else (s, [.returned .insufficientResources])

def deinit (s : OmxCore) : OmxCore × List OmxEffect :=
  let core := if s.gOmxcoreCnt = 1 then none else s.gOmxcore
  ({ s with gOmxcore := core, gOmxcoreCnt := s.gOmxcoreCnt - 1 }, [.returned .none])

def getCompFromList (components : List OmxComponent) (compName : Option String) : Option Nat :=
  match compName with
  | none => none
  | some name => components.findIdx? (·.compName = name)

/-- `none` where the core is not initialised, and the code reads through `NULL`. -/
def getHandle (handle : Bool) (componentName : Option String) (a : OmxAnswers) (s : OmxCore) :
    Option (OmxCore × List OmxEffect) :=
  if handle = false then some (s, [.returned .badParameter])
  else
    match s.gOmxcore with
    | none => none
    | some components =>
      match getCompFromList components componentName with
      | none => some (s, [.returned .invalidComponent])
      | some i =>
        match components[i]? with
        | none => none
        | some c =>
          let r := c.getHandle a s.linker
          some ({ s with gOmxcore := some (components.set i r.1.1), linker := r.1.2 }, .out none :: r.2)

def getIdxFromHandle (components : List OmxComponent) (h : Nat) : Option (Nat × Nat) :=
  match components.findIdx? (some h ∈ ·.handle) with
  | none => none
  | some i => (components[i]?.bind fun c => c.handle.idxOf? (some h)).map (i, ·)

def freeHandle (hComp : Option Nat) (componentDeInit : Bool) (s : OmxCore) :
    Option (OmxCore × List OmxEffect) :=
  match hComp with
  | none => some (s, [.returned .badParameter])
  | some h =>
    match s.gOmxcore with
    | none => none
    | some components =>
      match getIdxFromHandle components h with
      | none => some (s, [.returned .invalidComponent])
      | some (i, j) =>
        match components[i]? with
        | none => none
        | some c =>
          let deInit := .method c.libName (s.linker.loaded c.libName)
          if componentDeInit then
            let r := c.freeHandle j s.linker
            some ({ s with gOmxcore := some (components.set i r.1.1), linker := r.1.2 }, [deInit, .returned r.2])
          else some (s, [deInit, .returned .invalidComponent])

def perform (s : OmxCore) : OmxCall → Option (OmxCore × List OmxEffect)
  | .init malloc => some (s.init malloc)
  | .deinit => some s.deinit
  | .getHandle handle componentName answers => s.getHandle handle componentName answers
  | .freeHandle hComp componentDeInit => s.freeHandle hComp componentDeInit

def Next (s : OmxCore) (i : OmxCall) (o : List OmxEffect) (s' : OmxCore) :
    Prop := s.perform i = some (s', o)

end OmxCore

end KiwiDevice.Jpeg

import KiwiDevice.Jpeg.Clients
import KiwiDevice.Jpeg.JobIds
import Mathlib.Logic.Function.Basic

/-!
# Sessions of the encoder

`mm_jpeg_create_session` over the session slots of the clients. What `malloc`, the OMX component and
`mm_jpeg_session_configure` answer are inputs.
-/

namespace KiwiDevice.Jpeg

def MM_JPEG_MAX_BUF : Nat := 24

/-- `MM_JPEG_CONCURRENT_SESSIONS_COUNT`, which the build sets. -/
structure JpegBuild where
  concurrentSessions : Nat
  pos : 0 < concurrentSessions

/-- `buffer_t`. The address 0 is `NULL`; `alloc` is the ION allocation behind the address, if there
is one. -/
structure WorkBuffer where
  addr : Nat
  size : Nat
  ionFd : Int
  pPmemFd : Int
  alloc : Option Nat

structure EncodeParams where
  numSrcBufs : Nat
  numDstBufs : Nat
  burstMode : Bool

/-- The sessions of a client are named by their slot. -/
structure EncoderSession where
  active : Bool
  jobIndex : Nat
  jobHist : BitVec 32
  nextSession : Option Nat
  workBuffer : WorkBuffer
  params : EncodeParams
  clientHdl : Nat
  sessionId : Nat
  sessionHandleQ : Option Nat
  outBufQ : Option Nat
  config : Bool
  numOmxSessions : Nat

/-- A queue is the list of what is in it, at the address of the queue. -/
structure Encoder where
  session : Nat → Nat → EncoderSession
  numSessions : Nat
  ionBuffer : Nat → WorkBuffer
  handleQ : Nat → List Nat
  outBufQ : Nat → List Nat

/-- What the calls of `mm_jpeg_create_session` answer; those within the loop by its counter. -/
structure CreateAnswers where
  sessionHandleQ : Option Nat
  outBufQ : Option Nat
  getHandle : Nat → Int
  enqHandle : Nat → Bool
  configure : Nat → Int
  enqOutBuf : Nat → Bool

/-- The locals of the loop over the sessions. -/
structure CreateLocals where
  obj : Encoder
  rc : Int
  pPrevSession : Option Nat
  sessionId : Nat

namespace Encoder

def modify (obj : Encoder) (clnt idx : Nat) (f : EncoderSession → EncoderSession) : Encoder :=
  { obj with session := fun c i =>
      if c = clnt ∧ i = idx then f (obj.session c i) else obj.session c i }

def enqHandle (obj : Encoder) (q idx : Nat) (ok : Bool) : Encoder :=
  if ok then { obj with handleQ := Function.update obj.handleQ q (obj.handleQ q ++ [idx]) } else obj

def enqOutBuf (obj : Encoder) (q k : Nat) (ok : Bool) : Encoder :=
  if ok then { obj with outBufQ := Function.update obj.outBufQ q (obj.outBufQ q ++ [k]) } else obj

/-- The slots that are free, lowest first. -/
def freeSlots (obj : Encoder) (clnt : Nat) : List Nat :=
  (List.range MM_JPEG_MAX_SESSION).filter fun i => !(obj.session clnt i).active

def getNewSessionIdx (obj : Encoder) (clnt : Nat) : Option (Nat × Encoder) :=
  ((List.range MM_JPEG_MAX_SESSION).find? fun i => !(obj.session clnt i).active).map fun i =>
    (i, obj.modify clnt i fun s => { s with active := true })

/-- The new session becomes the last of the chain. -/
def linkSession (obj : Encoder) (clnt : Nat) (prev : Option Nat) (idx : Nat) : Encoder :=
  let obj := obj.modify clnt idx fun s => { s with jobIndex := 0, nextSession := none }
  match prev with
  | some prev => obj.modify clnt prev fun s => { s with nextSession := some idx }
  | none => obj

def assignBuffer (obj : Encoder) (build : JpegBuild) (clnt idx bufIdx : Nat) : Encoder :=
  obj.modify clnt idx fun s =>
    { s with workBuffer :=
        if bufIdx < build.concurrentSessions then obj.ionBuffer bufIdx
        else { s.workBuffer with addr := 0, ionFd := -1, pPmemFd := -1 } }

def nameSession (obj : Encoder) (clnt idx clientHdl : Nat) (params : EncodeParams)
    (sessionHandleQ outBufQ : Nat) : Encoder :=
  obj.modify clnt idx fun s =>
    { s with
      params := params
      clientHdl := clientHdl
      sessionId := sessionIdOf (idx <<< 8 ||| clnt)
      sessionHandleQ := some sessionHandleQ
      outBufQ := some outBufQ }

/-- `OMX_GetHandle` answers `rc`. -/
def sessionCreate (obj : Encoder) (clnt idx : Nat) (rc : Int) : Int × Encoder :=
  let obj := obj.modify clnt idx fun s => { s with config := false }
  if rc ≠ 0 then (rc, obj) else (rc, { obj with numSessions := obj.numSessions + 1 })

end Encoder

section CreateSession

variable (build : JpegBuild) (answers : CreateAnswers) (clnt clientHdl : Nat)
  (params : EncodeParams) (sessionHandleQ outBufQ : Nat)

def numOmxSessions : Nat := if params.burstMode then build.concurrentSessions else 1

/-- The body of the loop over the sessions; `false` is the jump to `error2`. -/
def createPass (i : Nat) (l : CreateLocals) : Bool × CreateLocals :=
  match l.obj.getNewSessionIdx clnt with
  | none => (false, l)
  | some (idx, obj) =>
    let obj := obj.linkSession clnt l.pPrevSession idx
    let obj := obj.assignBuffer build clnt idx (obj.numSessions + i)
    match obj.sessionCreate clnt idx (answers.getHandle i) with
    | (ret, obj) =>
      if ret ≠ 0 then
        (false,
          { l with
            obj := obj.modify clnt idx fun s => { s with active := false }
            pPrevSession := some idx })
      else
        let sessionId := sessionIdOf (idx <<< 8 ||| clnt)
        let obj := obj.nameSession clnt idx clientHdl params sessionHandleQ outBufQ
        let obj := obj.enqHandle sessionHandleQ idx (answers.enqHandle i)
        let l :=
          { l with
            pPrevSession := some idx
            sessionId := if l.sessionId = 0 then sessionId else l.sessionId }
        -- `mm_jpeg_session_create` has just cleared `config`
        if answers.configure i ≠ 0 then (false, { l with obj := obj, rc := answers.configure i })
        else
          (true,
            { l with
              obj := obj.modify clnt idx fun s =>
                { s with config := true, numOmxSessions := numOmxSessions build params }
              rc := answers.configure i })

/-- The loop from its counter `i` on, with `left` passes to go. -/
def createLoop : Nat → Nat → CreateLocals → Bool × CreateLocals
  | 0, _, l => (true, l)
  | left + 1, i, l =>
    match createPass build answers clnt clientHdl params sessionHandleQ outBufQ i l with
    | (false, l) => (false, l)
    | (true, l) => createLoop left (i + 1) l

/-- The loop over the output buffers. -/
def queueOutBufs (obj : Encoder) : Encoder :=
  (List.range params.numDstBufs).foldl
    (fun obj k => obj.enqOutBuf outBufQ (k + 1) (answers.enqOutBuf k)) obj

/-- The result, `*p_session_id` and the object. `mm_jpeg_queue_init` gives 0. -/
def createSession (obj : Encoder) : Int × Nat × Encoder :=
  if params.numSrcBufs > MM_JPEG_MAX_BUF ∨ params.numDstBufs > MM_JPEG_MAX_BUF then (0, 0, obj)
  else
    let clnt := getIndexByHandler clientHdl
    if clnt ≥ MAX_JPEG_CLIENT_NUM then (0, 0, obj)
    else
      match answers.sessionHandleQ with
      | none => (-1, 0, obj)
      | some sessionHandleQ =>
        let obj := { obj with handleQ := Function.update obj.handleQ sessionHandleQ [] }
        match answers.outBufQ with
        | none => (-1, 0, obj)
        | some outBufQ =>
          let obj := { obj with outBufQ := Function.update obj.outBufQ outBufQ [] }
          match createLoop build answers clnt clientHdl params sessionHandleQ outBufQ
            (numOmxSessions build params) 0 ⟨obj, 0, none, 0⟩ with
          | (false, l) => (l.rc, l.sessionId, l.obj)
          | (true, l) => (l.rc, l.sessionId, queueOutBufs answers params outBufQ l.obj)

end CreateSession

/-! ### Without clients -/

def oneSession : JpegBuild := ⟨1, Nat.one_pos⟩

def noBuffer : WorkBuffer := ⟨0, 0, -1, -1, none⟩

def freeSession : EncoderSession where
  active := false
  jobIndex := 0
  jobHist := 0
  nextSession := none
  workBuffer := noBuffer
  params := ⟨0, 0, false⟩
  clientHdl := 0
  sessionId := 0
  sessionHandleQ := none
  outBufQ := none
  config := false
  numOmxSessions := 0

def freeEncoder : Encoder where
  session := fun _ _ => freeSession
  numSessions := 0
  ionBuffer := fun _ => noBuffer
  handleQ := fun _ => []
  outBufQ := fun _ => []

end KiwiDevice.Jpeg

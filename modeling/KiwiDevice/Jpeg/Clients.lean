import KiwiDevice.Lib.Steps
import Mathlib.Algebra.Order.Ring.Nat

/-!
# Clients of the JPEG library

`jpeg_open` and `mm_jpeg_intf_close` over the client table. The sessions of a client are cleared
when its slot is taken and none is created here, so closing finds none to destroy. Allocation and
the results of `mm_jpeg_init` and `mm_jpeg_deinit` are inputs.
-/

namespace KiwiDevice.Jpeg

def MAX_JPEG_CLIENT_NUM : Nat := 8

structure MmJpegClient where
  isUsed : Bool
  clientHandle : Nat
deriving DecidableEq

def MmJpegClient.zero : MmJpegClient := ⟨false, 0⟩

structure MmJpegObj where
  numClients : Int
  clntMgr : List MmJpegClient
deriving DecidableEq

def MmJpegObj.zero : MmJpegObj where
  numClients := 0
  clntMgr := List.replicate MAX_JPEG_CLIENT_NUM .zero

/-- The globals `g_jpeg_obj` and `g_handler_history_count`, a `uint16_t`. -/
structure MmJpegIntf where
  gJpegObj : Option MmJpegObj
  gHandlerHistoryCount : Nat
deriving DecidableEq

inductive JpegEffect where
  | deinit
  | returned (value : Int)
deriving DecidableEq

def nextHistoryCount (count : Nat) : Nat :=
  let next := (count + 1) % 2 ^ 16
  if next = 0 then (next + 1) % 2 ^ 16 else next

def generateHandler (historyCount index : Nat) : Nat := (historyCount <<< 8) % 2 ^ 32 ||| index

def getIndexByHandler (handler : Nat) : Nat := handler % 2 ^ 8

/-- The client handle and the object afterwards. -/
def mmJpegNewClient (obj : MmJpegObj) (historyCount : Nat) : Nat × MmJpegObj × Nat :=
  if obj.numClients ≥ MAX_JPEG_CLIENT_NUM then (0, obj, historyCount)
  else
    match obj.clntMgr.findIdx? fun c => !c.isUsed with
    | some idx =>
      let clientHdl := generateHandler (nextHistoryCount historyCount) idx
      (clientHdl,
        { clntMgr := obj.clntMgr.set idx ⟨true, clientHdl⟩, numClients := obj.numClients + 1 },
        nextHistoryCount historyCount)
    | none => (0, obj, historyCount)

def mmJpegClose (obj : MmJpegObj) (clientHdl : Nat) : Int × MmJpegObj :=
  let clntIdx := getIndexByHandler clientHdl
  if clntIdx ≥ MAX_JPEG_CLIENT_NUM then (-1, obj)
  else (0, { obj with clntMgr := obj.clntMgr.set clntIdx .zero })

namespace MmJpegIntf

/-- The object a client is opened in: the one there is, or a new one. -/
def openedObj (s : MmJpegIntf) (mallocOk : Bool) (initRc : Int) : Option MmJpegObj :=
  match s.gJpegObj with
  | some obj => some obj
  | none => if mallocOk = true ∧ initRc = 0 then some .zero else none

def jpegOpen (s : MmJpegIntf) (mallocOk : Bool) (initRc : Int) :
    Nat × MmJpegIntf × List JpegEffect :=
  match s.openedObj mallocOk initRc with
  | none => (0, s, [.returned 0])
  | some obj =>
    let r := mmJpegNewClient obj s.gHandlerHistoryCount
    if r.1 > 0 then (r.1, ⟨some r.2.1, r.2.2⟩, [.returned r.1])
    else if r.2.1.numClients = 0 then (r.1, ⟨none, r.2.2⟩, [.deinit, .returned r.1])
    else (r.1, ⟨some r.2.1, r.2.2⟩, [.returned r.1])

/-- `num_clients` goes down whatever `mm_jpeg_close` returns. -/
def mmJpegIntfClose (s : MmJpegIntf) (clientHdl : Nat) (deinitRc : Int) :
    MmJpegIntf × List JpegEffect :=
  if clientHdl = 0 then (s, [.returned (-1)])
  else
    match s.gJpegObj with
    | none => (s, [.returned (-1)])
    | some obj =>
      let r := mmJpegClose obj clientHdl
      let obj' : MmJpegObj := { r.2 with numClients := r.2.numClients - 1 }
      if r.1 = 0 ∧ obj'.numClients = 0 then
        ({ s with gJpegObj := none }, [.deinit, .returned deinitRc])
      else ({ s with gJpegObj := some obj' }, [.returned r.1])

end MmJpegIntf

inductive JpegCall where
  | jpegOpen (mallocOk : Bool) (initRc : Int)
  | close (clientHdl : Nat) (deinitRc : Int)

/-- `clients` are the handles that were handed out and not closed since. -/
structure JpegClients where
  intf : MmJpegIntf
  clients : List Nat

namespace JpegClients

def start : JpegClients where
  intf := ⟨none, 0⟩
  clients := []

def step (s : JpegClients) : JpegCall → JpegClients × List JpegEffect
  | .jpegOpen mallocOk initRc =>
    let r := s.intf.jpegOpen mallocOk initRc
    (⟨r.2.1, if r.1 > 0 then s.clients ++ [r.1] else s.clients⟩, r.2.2)
  | .close clientHdl deinitRc =>
    let r := s.intf.mmJpegIntfClose clientHdl deinitRc
    (⟨r.1, s.clients.erase clientHdl⟩, r.2)

def Next (s : JpegClients) (i : JpegCall) (o : List JpegEffect) (s' : JpegClients) : Prop :=
  s.step i = (s', o)

end JpegClients

end KiwiDevice.Jpeg

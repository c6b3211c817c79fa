import KiwiDevice.Gps.AgpsStateMachine
import KiwiDevice.Lib.CArray
import KiwiDevice.Lib.Words

/-!
# Control messages of the GPS daemon

`loc_eng_dmn_conn_glue_msgsnd` and `loc_eng_dmn_conn_glue_msgrcv` over a pipe, and the server that
reads a message of it. The buffer of a receiver is described by what its reads ask to store and have
stored; the server has no result where it reads a byte of the buffer that is not of the message.
-/

namespace KiwiDevice.Gps.Daemon

open AgpsStateMachine (agpsTypeAny agpsTypeSupl agpsTypeWifi)
open Lib (toInt ofBytes toBytes cString)

/-- The two ABIs of the library, which differ in the sizes of `size_t` and `unsigned long`. -/
inductive Abi where
  | ilp32
  | lp64
  deriving DecidableEq, Repr

namespace Abi

def word : Abi → Nat
  | ilp32 => 4
  | lp64 => 8

variable (a : Abi)

/-- Offsets in `ctrl_msgbuf`: `msgsz`, `reserved1` and `reserved2` come before `ctrl_type`, and the
union is aligned to a word. -/
def ctrlTypeAt : Nat := a.word + 8
def cmsgAt : Nat := 2 * a.word + 8
def typeAt : Nat := a.cmsgAt
def senderIdAt : Nat := a.cmsgAt + 4
def ipv4AddrAt : Nat := a.cmsgAt + 8
def ipv6AddrAt : Nat := a.ipv4AddrAt + a.word
def ssidAt : Nat := a.ipv6AddrAt + 16
def passwordAt : Nat := a.ssidAt + ssidBufSize
where ssidBufSize : Nat := 33

/-- `sizeof(struct ctrl_msgbuf)`, with the padding to a word. -/
def sizeofCtrlMsgbuf : Nat := (a.passwordAt + passwordAt.ssidBufSize + a.word - 1) / a.word * a.word

end Abi

/-- What one `read` gave: its result, what it stored, and what is left in the pipe. -/
structure PipeRead where
  ret : Int
  stored : List UInt8
  pipe : List UInt8

/-- `loc_eng_dmn_conn_glue_piperead`; `limit` is how much this `read` gives at most, `none` for
an error. -/
def piperead (limit : Option Nat) (sz : Nat) (pipe : List UInt8) : PipeRead :=
  match limit with
  | none => ⟨-1, [], pipe⟩
  | some k =>
    let len := min k (min sz pipe.length)
    ⟨toInt len, pipe.take len, pipe.drop len⟩

/-- A buffer of `msgbufsz` bytes, which holds the field of the size. -/
structure Receiver where
  abi : Abi
  msgbufsz : Nat
  holdsSize : abi.word ≤ msgbufsz
  small : msgbufsz < 2 ^ 31

/-- The reads that were asked for, as offset and size, the result, what the buffer has got, and what
is left in the pipe. -/
structure MsgRcv where
  asked : List (Nat × Nat)
  ret : Int
  stored : List UInt8
  pipe : List UInt8
  deriving DecidableEq

def msgrcv (rcv : Receiver) (limit₁ limit₂ : Option Nat) (pipe : List UInt8) : MsgRcv :=
  let w := rcv.abi.word
  let first := piperead limit₁ w pipe
  if first.ret ≠ w then ⟨[(0, w)], -1, first.stored, first.pipe⟩
  else
    let msgsz := ofBytes first.stored
    if rcv.msgbufsz < msgsz then ⟨[(0, w)], -1, first.stored, first.pipe⟩
    else
      let sz := (msgsz + 256 ^ w - w) % 256 ^ w
      let second := piperead limit₂ sz first.pipe
      ⟨[(0, w), (w, sz)], if second.ret ≠ toInt sz then -1 else toInt msgsz,
        first.stored ++ second.stored, second.pipe⟩

/-- The message as it is written: its size is stored at its start. -/
def withSize (a : Abi) (msgp : List UInt8) : List UInt8 :=
  toBytes a.word msgp.length ++ msgp.drop a.word

/-- `loc_eng_dmn_conn_glue_msgsnd` of a whole buffer; `written` is what `write` gives, at most
the size. -/
def msgsnd (a : Abi) (msgp : List UInt8) (written : Option Nat) (pipe : List UInt8) :
    Int × List UInt8 :=
  match written with
  | none => (-1, pipe)
  | some k =>
    let len := min k msgp.length
    (if toInt len ≠ toInt msgp.length then -1 else toInt len, pipe ++ (withSize a msgp).take len)

/-- Messages that are written one after the other, each of them whole. -/
def sendAll (a : Abi) : List (List UInt8) → List UInt8 → List UInt8
  | [], pipe => pipe
  | msg :: msgs, pipe => sendAll a msgs (msgsnd a msg (some msg.length) pipe).2

/-- One call of `msgrcv` for each pair of limits. -/
def receiveAll (rcv : Receiver) : List (Option Nat × Option Nat) → List UInt8 → List MsgRcv
  | [], _ => []
  | limits :: rest, pipe =>
    let r := msgrcv rcv limits.1 limits.2 pipe
    r :: receiveAll rcv rest r.pipe

/-! ## The server -/

def gpsoneLocApiIfRequest : UInt8 := 0xF0
def gpsoneLocApiIfRelease : UInt8 := 0xF1
def gpsoneUnblock : UInt8 := 0xF3

inductive SenderId where
  | quipc
  | msapm
  | msapu
  | gpsoneDaemon
  deriving DecidableEq, Repr

/-- What the handlers send to the location engine. -/
inductive EngineMsg where
  | reqRelWifi (type : Int) (sender : SenderId) (ssid password : List UInt8) (isReq : Bool)
  | reqRelBIT (type : Int) (ipv4 : Int) (ipv6 : List UInt8) (isReq : Bool)
  deriving DecidableEq

/-- The bytes of a field of the message. -/
def field (msg : List UInt8) (offset size : Nat) : Option (List UInt8) :=
  if offset + size ≤ msg.length then some ((msg.drop offset).take size) else none

/-- `strlcpy` of a string in the message, which is read up to its zero. -/
def stringField (msg : List UInt8) (offset : Nat) : Option (List UInt8) :=
  if 0 ∈ msg.drop offset then some ((cString (msg.drop offset)).take (Abi.passwordAt.ssidBufSize - 1))
  else none

def ifRequestType : Nat → Option Int
  | 0 => some agpsTypeSupl
  | 1 => some agpsTypeWifi
  | 2 => some agpsTypeAny
  | _ => none

def ifRequestSenderId : Nat → Option SenderId
  | 0 => some .quipc
  | 1 => some .msapm
  | 2 => some .msapu
  | 3 => some .gpsoneDaemon
  | _ => none

/-- What the two handlers have in common. -/
def ifHandler (a : Abi) (msg : List UInt8) (isReq : Bool) : Option (Int × Option EngineMsg) :=
  (field msg a.typeAt 4).bind fun typeField =>
    match ifRequestType (ofBytes typeField) with
    | none => some (-1, none)
    | some type =>
      (field msg a.senderIdAt 4).bind fun senderField =>
        match ifRequestSenderId (ofBytes senderField) with
        | none => some (-1, none)
        | some .gpsoneDaemon =>
          (field msg a.ipv4AddrAt a.word).bind fun ipv4 =>
            (field msg a.ipv6AddrAt 16).map fun ipv6 =>
              (0, some (.reqRelBIT type (toInt (ofBytes ipv4)) ipv6 isReq))
        | some sender =>
          (stringField msg a.ssidAt).bind fun ssid =>
            (stringField msg a.passwordAt).map fun password =>
              (0, some (.reqRelWifi type sender ssid password isReq))

/-- `handle` tells whether `loc_api_handle` is set. -/
def ifRequestHandler (a : Abi) (handle : Bool) (msg : List UInt8) :
    Option (Int × Option EngineMsg) :=
  if handle then ifHandler a msg true else some (1, none)

def ifReleaseHandler (a : Abi) (msg : List UInt8) : Option (Int × Option EngineMsg) :=
  ifHandler a msg false

/-- What the server does with a message; the results of the handlers are dropped. -/
def dispatch (a : Abi) (handle : Bool) (msg : List UInt8) : Option (Option EngineMsg) :=
  msg[a.ctrlTypeAt]?.bind fun ctrlType =>
    if ctrlType = gpsoneLocApiIfRequest then (ifRequestHandler a handle msg).map (·.2)
    else if ctrlType = gpsoneLocApiIfRelease then (ifReleaseHandler a msg).map (·.2)
    else some none

/-- The result and what is sent to the engine. -/
def locApiServerProc (rcv : Receiver) (handle : Bool) (limit₁ limit₂ : Option Nat)
    (pipe : List UInt8) : Option (Int × Option EngineMsg) :=
  let r := msgrcv rcv limit₁ limit₂ pipe
  if r.ret ≤ 0 then some (-1, none)
  else (dispatch rcv.abi handle r.stored).map fun sent => (0, sent)

/-- The buffer that the server allocates. -/
def serverReceiver (a : Abi) : Receiver where
  abi := a
  msgbufsz := a.sizeofCtrlMsgbuf + 256
  holdsSize := by cases a <;> decide
  small := by cases a <;> decide

end KiwiDevice.Gps.Daemon

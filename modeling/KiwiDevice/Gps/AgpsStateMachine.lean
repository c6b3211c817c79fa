import Mathlib.Data.List.Basic
import Mathlib.Data.UInt

/-!
# The AGPS state machine

`AgpsStateMachine` and its subclass `DSStateMachine`. The machine asks the framework, or for data
calls the data service, for the connection, and tells its subscribers what becomes of it. A listed
subscriber is named by its place in the list, newest first.
-/

/-!
### Subscribers

The four kinds of subscribers are one record. Fields of one kind are not read for the others, with
one exception: `BITSubscriber::equals` reads an IPv6 address out of whatever it is compared with.
-/

namespace KiwiDevice.Gps

/-- `AgpsRsrcStatus`. -/
inductive AgpsRsrcStatus where
  | subscribe | unsubscribe | granted | released | denied | statusMax
  deriving DecidableEq, Repr

inductive SubscriberKind where
  | bit | atl | wifi | ds
  deriving DecidableEq, Repr

structure Subscriber where
  kind : SubscriberKind
  ID : UInt32
  mIPv6Addr : List Nat := []
  mBackwardCompatibleMode : Bool := false
  mSSID : Option String := none
  mPassword : Option String := none
  mIsInactive : Bool := false
  deriving DecidableEq, Repr

/-- `INADDR_NONE`. -/
def inaddrNone : UInt32 := 0xFFFFFFFF

/-- The characters that `strncmp` looks at. -/
def cPrefix (n : Nat) (chars : List Nat) : List Nat := (chars.take n).takeWhile (· ≠ 0)

/-- `0 == strncmp(..)`. -/
def strncmpEq (a b : List Nat) (n : Nat) : Bool := cPrefix n a == cPrefix n b

namespace Subscriber

/-- `equals`, of the listed subscriber with the one searched for. -/
def equals (s t : Subscriber) : Bool :=
  match s.kind with
  | .bit => s.ID == t.ID && (s.ID != inaddrNone || strncmpEq s.mIPv6Addr t.mIPv6Addr 16)
  | .atl | .wifi | .ds => s.ID == t.ID

def waitForCloseComplete (s : Subscriber) : Bool :=
  match s.kind with
  | .wifi | .ds => true
  | .bit | .atl => false

def isInactive (s : Subscriber) : Bool := s.waitForCloseComplete && s.mIsInactive

def clone (s : Subscriber) : Subscriber := { s with mIsInactive := false }

/-- What `equals` compares, for subscribers that it can compare. -/
def identity (s : Subscriber) : UInt32 × Option (List Nat) :=
  (s.ID, if s.kind = .bit ∧ s.ID = inaddrNone then some (cPrefix 16 s.mIPv6Addr) else none)

/-- No IPv6 address is read out of a subscriber that has none, in either direction. -/
def Comparable (s t : Subscriber) : Prop :=
  s.ID = inaddrNone → t.ID = inaddrNone → (s.kind = .bit ↔ t.kind = .bit)

instance (s t : Subscriber) : Decidable (s.Comparable t) := by
  unfold Comparable
  infer_instance

variable {s t : Subscriber}

@[simp] theorem equals_refl (s : Subscriber) : s.equals s = true := by
  rw [equals]
  cases s.kind <;> simp [strncmpEq]

theorem ID_of_equals (h : s.equals t = true) : s.ID = t.ID := by
  rw [equals] at h
  split at h
  · rw [Bool.and_eq_true, beq_iff_eq] at h
    exact h.1
  all_goals exact beq_iff_eq.mp h

theorem equals_of_ID (hID : s.ID = t.ID) (h : s.kind ≠ .bit ∨ s.ID ≠ inaddrNone) :
    s.equals t = true := by
  rw [equals]
  split
  · rename_i hBit
    obtain hKind | hNone := h
    · exact absurd hBit hKind
    · rw [hID] at hNone
      simp [hID, hNone]
  all_goals exact beq_iff_eq.mpr hID

theorem Comparable.symm (h : s.Comparable t) : t.Comparable s := fun ht hs => (h hs ht).symm

theorem Comparable.equals_iff (h : s.Comparable t) :
    s.equals t = true ↔ s.identity = t.identity := by
  by_cases hID : s.ID = t.ID
  · by_cases hNone : s.ID = inaddrNone
    · have hKinds := h hNone (hID.symm.trans hNone)
      have hNone' : t.ID = inaddrNone := hID.symm.trans hNone
      by_cases hBit : s.kind = .bit
      · have hBit' := hKinds.mp hBit
        simp [equals, identity, hBit, hBit', hNone, hNone', strncmpEq]
      · have hBit' : t.kind ≠ .bit := fun ht => hBit (hKinds.mpr ht)
        simp only [equals_of_ID hID (.inl hBit), identity, hID, hBit, hBit', false_and, if_false]
    · have hNone' : t.ID ≠ inaddrNone := fun ht => hNone (hID.trans ht)
      simp only [equals_of_ID hID (.inr hNone), identity, hID, hNone', and_false, if_false]
  · constructor
    · exact fun hEq => absurd (ID_of_equals hEq) hID
    · exact fun hEq => absurd (congrArg Prod.fst hEq) hID

@[simp] theorem clone_isInactive (s : Subscriber) : s.clone.isInactive = false := Bool.and_false _

end Subscriber

/-- To whom a notification goes. -/
inductive Receiver where
  | rcver (s : Subscriber)
  | broadcastAll | broadcastActive | broadcastInactive
  deriving DecidableEq, Repr

structure Notification where
  receiver : Receiver
  rsrcStatus : AgpsRsrcStatus := .statusMax
  postNotifyDelete : Bool := false
  deriving DecidableEq, Repr

namespace Subscriber

def forMe (s : Subscriber) (n : Notification) : Bool :=
  match n.receiver with
  | .rcver t => s.equals t
  | .broadcastAll => true
  | .broadcastActive => !s.isInactive
  | .broadcastInactive => s.isInactive

/-- The notification is for the subscriber, and its status is one that every kind knows. -/
def takes (s : Subscriber) (n : Notification) : Bool :=
  s.forMe n && n.rsrcStatus != .subscribe && n.rsrcStatus != .statusMax

end Subscriber

/-! ### The machine -/

inductive AgpsState where
  | released | pending | acquired | releasing
  deriving DecidableEq, Repr

inductive AGpsStatusValue where
  | requestAgpsDataConn | releaseAgpsDataConn
  deriving DecidableEq, Repr

/-- `AGpsExtStatus`; `addrFamily` says that the address family is set. -/
structure AGpsExtStatus where
  type : Int
  status : AGpsStatusValue
  addrFamily : Bool
  ssid : String
  password : String
  deriving DecidableEq, Repr

inductive ServerStatus where
  | requestSuccess | releaseSuccess | failure
  deriving DecidableEq, Repr

/-- What the machine does to the outside, in order. -/
inductive AgpsEffect where
  /-- A subscriber takes a notification with this status; what it sends on comes next. -/
  | notified (s : Subscriber) (status : AgpsRsrcStatus)
  | requestRsrc (nifRequest : AGpsExtStatus)
  | requestDataCall (action : AGpsStatusValue)
  | startRetryTimer
  | serverDataConn (senderId : UInt32) (status : ServerStatus)
  | atlOpenStatus (id : UInt32) (success : Bool) (apn : Option String) (bearer type : Int)
  | atlCloseStatus (id : UInt32) (success : Bool)
  | requestATL (id : UInt32) (type : Int)
  | requestSuplES (id : UInt32)
  | closeDataCall
  deriving DecidableEq, Repr

structure AgpsStateMachine where
  mSubscribers : List Subscriber := []
  mStatePtr : AgpsState := .released
  mType : Int
  mAPN : Option String := none
  mBearer : Int := -1
  mEnforceSingleSubscriber : Bool
  /-- The machine is a `DSStateMachine`. -/
  isDS : Bool := false
  mRetries : UInt8 := 0

/-- What a request for a data call returns, and whether the retry timer could be started. -/
structure DataCallAnswer where
  ret : Int
  timerStarts : Bool
  deriving DecidableEq, Repr

namespace AgpsStateMachine

def agpsTypeInvalid : Int := -1

def agpsTypeAny : Int := 0

def agpsTypeSupl : Int := 1

def agpsTypeWifi : Int := 4

def bearerInvalid : Int := -1

def senderIdGpsoneDaemon : UInt32 := 3

def maxStartDataCallRetries : UInt8 := 4

def errSuccess : Int := 0

def errUnsupported : Int := 2

def errEngineBusy : Int := 6

/-- The constructor for a machine that is not a `DSStateMachine`. -/
def new (type : Int) (enforceSingleSubscriber : Bool) : AgpsStateMachine where
  mType := type
  mEnforceSingleSubscriber := enforceSingleSubscriber

/-- The constructor of `DSStateMachine`. -/
def newDS : AgpsStateMachine where
  mType := agpsTypeInvalid
  mEnforceSingleSubscriber := false
  isDS := true

def hasSubscribers (m : AgpsStateMachine) : Bool := !m.mSubscribers.isEmpty

def hasActiveSubscribers (m : AgpsStateMachine) : Bool :=
  m.mSubscribers.any (·.forMe { receiver := .broadcastActive })

/-- `DSStateMachine::informStatus`. -/
def informStatus (m : AgpsStateMachine) (status : AgpsRsrcStatus) (id : UInt32) :
    AgpsStateMachine × List AgpsEffect :=
  match status with
  | .unsubscribe => (m, [.atlCloseStatus id true])
  | .released => (m, [.closeDataCall])
  | .denied => ({ m with mRetries := 0 }, [.requestATL id agpsTypeSupl])
  | .granted => (m, [.atlOpenStatus id true none bearerInvalid agpsTypeInvalid])
  | .subscribe | .statusMax => (m, [])

/-- The switch of `notifyRsrcStatus` for a status that the subscriber takes. -/
def tell (m : AgpsStateMachine) (s : Subscriber) (status : AgpsRsrcStatus) :
    AgpsStateMachine × List AgpsEffect :=
  let type := if s.mBackwardCompatibleMode then agpsTypeInvalid else m.mType
  match s.kind, status with
  | .bit, .unsubscribe => (m, [.serverDataConn senderIdGpsoneDaemon .releaseSuccess])
  | .bit, .released => (m, [.serverDataConn senderIdGpsoneDaemon .releaseSuccess])
  | .bit, .denied => (m, [.serverDataConn senderIdGpsoneDaemon .failure])
  | .bit, .granted => (m, [.serverDataConn senderIdGpsoneDaemon .requestSuccess])
  | .atl, .unsubscribe => (m, [.atlCloseStatus s.ID true])
  | .atl, .released => (m, [.atlCloseStatus s.ID true])
  | .atl, .denied => (m, [.atlOpenStatus s.ID false m.mAPN m.mBearer type])
  | .atl, .granted => (m, [.atlOpenStatus s.ID true m.mAPN m.mBearer type])
  | .wifi, .unsubscribe => (m, [])
  | .wifi, .released => (m, [.serverDataConn s.ID .releaseSuccess])
  | .wifi, .denied => (m, [.serverDataConn s.ID .failure])
  | .wifi, .granted => (m, [.serverDataConn s.ID .requestSuccess])
  | .ds, status => m.informStatus status s.ID
  | _, .subscribe => (m, [])
  | _, .statusMax => (m, [])

/-- `notifyRsrcStatus`; it returns whether the subscriber takes the notification. -/
def notifyRsrcStatus (m : AgpsStateMachine) (s : Subscriber) (n : Notification) :
    AgpsStateMachine × List AgpsEffect × Bool :=
  if s.takes n then
    let told := m.tell s n.rsrcStatus
    (told.1, .notified s n.rsrcStatus :: told.2, true)
  else (m, [], false)

/-- One search through the list that removes nothing: every subscriber is asked. -/
def notifyEach (n : Notification) : List Subscriber → AgpsStateMachine →
    AgpsStateMachine × List AgpsEffect
  | [], m => (m, [])
  | s :: rest, m =>
    let told := m.notifyRsrcStatus s n
    let others := notifyEach n rest told.1
    (others.1, told.2.1 ++ others.2)

/-- The loop of searches that each remove the first subscriber that takes the notification. A
removed subscriber that the notification goes to is still compared with. -/
def notifyRemoving (n : Notification) : Nat → AgpsStateMachine → AgpsStateMachine × List AgpsEffect
  | 0, m => (m, [])
  | passes + 1, m =>
    match m.mSubscribers.find? (·.takes n) with
    | none => (m, [])
    | some s =>
      let told := m.notifyRsrcStatus s n
      let others := notifyRemoving n passes
        { told.1 with mSubscribers := m.mSubscribers.eraseP (·.takes n) }
      (others.1, told.2.1 ++ others.2)

/-- `notifySubscribers`. -/
def notifySubscribers (m : AgpsStateMachine) (n : Notification) :
    AgpsStateMachine × List AgpsEffect :=
  if n.postNotifyDelete then notifyRemoving n m.mSubscribers.length m
  else notifyEach n m.mSubscribers m

/-- `addSubscriber`. -/
def addSubscriber (m : AgpsStateMachine) (s : Subscriber) : AgpsStateMachine :=
  if m.mSubscribers.any (·.forMe { receiver := .rcver s }) then m
  else { m with mSubscribers := s.clone :: m.mSubscribers }

/-- The subscriber that a request is made for. -/
def activeSubscriber (m : AgpsStateMachine) : Option Subscriber :=
  m.mSubscribers.find? (·.forMe { receiver := .broadcastActive })

/-- `AgpsStateMachine::sendRsrcRequest`. -/
def sendNifRequest (m : AgpsStateMachine) (action : AGpsStatusValue) : List AgpsEffect :=
  if m.activeSubscriber.isNone = (action == .releaseAgpsDataConn) then
    match m.activeSubscriber with
    | none => [.requestRsrc ⟨m.mType, action, false, "", ""⟩]
    | some s => [.requestRsrc ⟨m.mType, action, true, s.mSSID.getD "", s.mPassword.getD ""⟩]
  else []

/-- `DSStateMachine::sendRsrcRequest`. A timer that starts is reported as an error. -/
def sendDataCallRequest (m : AgpsStateMachine) (action : AGpsStatusValue) (a : DataCallAnswer) :
    AgpsStateMachine × List AgpsEffect × Int :=
  let connHandle := m.activeSubscriber.elim 0xFFFFFFFF Subscriber.ID
  if a.ret = errEngineBusy then
    let m := { m with mRetries := m.mRetries + 1 }
    if m.mRetries > maxStartDataCallRetries then
      let informed := m.informStatus .denied connHandle
      (informed.1, .requestDataCall action :: informed.2, a.ret)
    else if a.timerStarts then (m, [.requestDataCall action, .startRetryTimer], -1)
    else (m, [.requestDataCall action], a.ret)
  else if a.ret = errUnsupported ∨ a.ret = -1 then
    let informed := m.informStatus .denied connHandle
    (informed.1, .requestDataCall action :: informed.2, a.ret)
  else (m, [.requestDataCall action], a.ret)

/-- The virtual `sendRsrcRequest`. -/
def sendRsrcRequest (m : AgpsStateMachine) (action : AGpsStatusValue) (a : DataCallAnswer) :
    AgpsStateMachine × List AgpsEffect × Int :=
  if m.isDS then m.sendDataCallRequest action a else (m, m.sendNifRequest action, 0)

def toState (m : AgpsStateMachine) (state : AgpsState) : AgpsStateMachine :=
  { m with mStatePtr := state }

/-- `setInactive` on a listed subscriber that waits for the close to complete. -/
def setInactive (m : AgpsStateMachine) (k : Nat) (s : Subscriber) :
    AgpsStateMachine × List AgpsEffect :=
  let m := { m with mSubscribers := m.mSubscribers.set k { s with mIsInactive := true } }
  match s.kind with
  | .ds => m.informStatus .unsubscribe s.ID
  | .bit | .atl | .wifi => (m, [])

/-- A listed subscriber leaves, or waits for the close to complete. -/
def dropSubscriber (m : AgpsStateMachine) (k : Nat) (s : Subscriber) :
    AgpsStateMachine × List AgpsEffect :=
  if s.waitForCloseComplete then m.setInactive k s
  else m.notifySubscribers ⟨.rcver s, .unsubscribe, true⟩

/-- `RSRC_SUBSCRIBE` in each state. -/
def onSubscribe (m : AgpsStateMachine) (s : Subscriber) (a : DataCallAnswer) :
    AgpsStateMachine × List AgpsEffect :=
  match m.mStatePtr with
  | .released =>
    let sent := (m.addSubscriber s).sendRsrcRequest .requestAgpsDataConn a
    (if sent.2.2 = 0 then sent.1.toState .pending else sent.1, sent.2.1)
  | .acquired =>
    let told := m.notifyRsrcStatus s ⟨.rcver s, .granted, false⟩
    (told.1.addSubscriber s, told.2.1)
  | .pending | .releasing => (m.addSubscriber s, [])

/-- `RSRC_UNSUBSCRIBE` in each state, for the listed subscriber `s` in place `k`. -/
def onUnsubscribe (m : AgpsStateMachine) (k : Nat) (s : Subscriber) (a : DataCallAnswer) :
    AgpsStateMachine × List AgpsEffect :=
  match m.mStatePtr with
  | .released =>
    let told := m.notifyRsrcStatus s ⟨.rcver s, .unsubscribe, false⟩
    (told.1, told.2.1)
  | .pending | .acquired =>
    let dropped := m.dropSubscriber k s
    if ¬ dropped.1.hasSubscribers then
      let sent := dropped.1.sendRsrcRequest .releaseAgpsDataConn a
      (sent.1.toState .released, dropped.2 ++ sent.2.1)
    else if ¬ dropped.1.hasActiveSubscribers then
      let sent := dropped.1.sendRsrcRequest .releaseAgpsDataConn a
      (sent.1.toState .releasing, dropped.2 ++ sent.2.1)
    else dropped
  | .releasing =>
    let dropped := m.dropSubscriber k s
    if ¬ dropped.1.hasSubscribers then (dropped.1.toState .released, dropped.2) else dropped

/-- `RSRC_GRANTED` in each state. -/
def onGranted (m : AgpsStateMachine) : AgpsStateMachine × List AgpsEffect :=
  match m.mStatePtr with
  | .pending =>
    let told := m.notifySubscribers ⟨.broadcastActive, .granted, false⟩
    (told.1.toState .acquired, told.2)
  | .released | .acquired | .releasing => (m, [])

/-- The end of a connection, for all subscribers. -/
def notifyAll (m : AgpsStateMachine) (status : AgpsRsrcStatus) :
    AgpsStateMachine × List AgpsEffect :=
  let told := m.notifySubscribers ⟨.broadcastAll, status, true⟩
  (told.1.toState .released, told.2)

/-- `RSRC_RELEASED` and `RSRC_DENIED` in `AgpsReleasingState`. -/
def closeComplete (m : AgpsStateMachine) (status : AgpsRsrcStatus) (a : DataCallAnswer) :
    AgpsStateMachine × List AgpsEffect :=
  let told := m.notifySubscribers ⟨.broadcastInactive, status, true⟩
  if told.1.hasActiveSubscribers then
    let sent := told.1.sendRsrcRequest .requestAgpsDataConn a
    (sent.1.toState .pending, told.2 ++ sent.2.1)
  else (told.1.toState .released, told.2)

/-- `RSRC_RELEASED` in each state. -/
def onReleased (m : AgpsStateMachine) (a : DataCallAnswer) : AgpsStateMachine × List AgpsEffect :=
  match m.mStatePtr with
  | .acquired => m.notifyAll .released
  | .releasing => m.closeComplete .released a
  | .released | .pending => (m, [])

/-- `RSRC_DENIED` in each state. -/
def onDenied (m : AgpsStateMachine) (a : DataCallAnswer) : AgpsStateMachine × List AgpsEffect :=
  match m.mStatePtr with
  | .pending => m.notifyAll .denied
  | .releasing => m.closeComplete .denied a
  | .released | .acquired => (m, [])

/-- The virtual `onRsrcEvent`. -/
def onRsrcEvent (m : AgpsStateMachine) (event : AgpsRsrcStatus) (a : DataCallAnswer) :
    AgpsStateMachine × List AgpsEffect :=
  match event with
  | .granted => m.onGranted
  | .released =>
    let after := m.onReleased a
    if m.isDS ∧ after.1.mStatePtr = m.mStatePtr then
      let denied := after.1.onDenied a
      (denied.1, after.2 ++ denied.2)
    else after
  | .denied => m.onDenied a
  | .subscribe | .unsubscribe | .statusMax => (m, [])

def subscribeRsrc (m : AgpsStateMachine) (s : Subscriber) (a : DataCallAnswer) :
    AgpsStateMachine × List AgpsEffect :=
  if m.mEnforceSingleSubscriber ∧ m.hasSubscribers then
    let told := m.notifyRsrcStatus s ⟨.broadcastAll, .denied, true⟩
    (told.1, told.2.1)
  else m.onSubscribe s a

def unsubscribeRsrc (m : AgpsStateMachine) (s : Subscriber) (a : DataCallAnswer) :
    AgpsStateMachine × List AgpsEffect :=
  match m.mSubscribers.findIdx? (·.forMe { receiver := .rcver s }) with
  | none => (m, [])
  | some k =>
    match m.mSubscribers[k]? with
    | none => (m, [])
    | some listed => m.onUnsubscribe k listed a

/-- `DSStateMachine::retryCallback`. -/
def retryCallback (m : AgpsStateMachine) : List AgpsEffect :=
  match m.activeSubscriber with
  | none => []
  | some s => [.requestSuplES s.ID]

end AgpsStateMachine

end KiwiDevice.Gps

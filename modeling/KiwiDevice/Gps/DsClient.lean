import Mathlib.Data.List.Basic

/-!
# Opening an emergency data call

`ds_client_open_call` looks up the WDS service, asks it for the profiles and for the settings of
each until one supports emergency calls, and gets a data handle. What QMI, DSI and the allocator
answer is given, and what the call obtains and releases is logged.
-/

namespace KiwiDevice.Gps

inductive DsStatus where
  | success
  | failureGeneral
  | failureTimeout
  | failureInternal
  | failureNotEnoughMemory
  | retryLater
  deriving DecidableEq, Repr

inductive WdsPdpType where
  | ipv4
  | ipv6
  | ipv4v6
  | other
  deriving DecidableEq, Repr

inductive DsiIpVersion where
  | v4
  | v6
  | v4v6
  deriving DecidableEq, Repr

structure WdsProfile where
  profileType : Nat
  profileIndex : Nat
  deriving DecidableEq, Repr

structure WdsSettings where
  supportEmergencyCallsValid : Bool
  supportEmergencyCalls : Bool
  pdpTypeValid : Bool
  pdpType : WdsPdpType
  deriving DecidableEq, Repr

/-- A response to a synchronous request; `error` is 0 for `QMI_ERR_NONE_V01`. -/
structure SyncResponse (α : Type) where
  sent : Bool
  error : Nat
  msg : α

/-- What `qmi_client_get_service_list` returns, and `num_services` after it. -/
structure ServiceLookup where
  ok : Bool
  numServices : Nat

structure LookupRetry where
  first : ServiceLookup
  timedOut : Bool
  second : ServiceLookup

structure CtrlPointAnswers where
  serviceObject : Bool
  lookup : ServiceLookup
  notifierInit : Bool
  retry : Nat → LookupRetry
  infoMalloc : Bool
  serviceList : Bool
  clientInit : Bool

structure OpenAnswers where
  wds : CtrlPointAnswers
  listCalloc : Bool
  requestCalloc : Bool
  list : SyncResponse (List WdsProfile)
  settingsCalloc : Bool
  settings : Nat → SyncResponse WdsSettings
  clientRelease : Bool
  sessionCalloc : Bool
  dataHandle : Option Nat

inductive DsEvent where
  | notifierInit
  | notifierRelease
  | clientInit
  | clientRelease
  | profileList (profiles : List WdsProfile)
  | settings (profile : WdsProfile) (settings : WdsSettings)
  | dataHandle (handle : Nat)
  deriving DecidableEq, Repr

structure DsSession where
  dsiNetHandle : Option Nat
  eventCb : Nat
  callerCookie : Nat
  deriving DecidableEq, Repr

/-- The parameters: the function in the callback table, unless that is `NULL`, and whether there is
somewhere to put the session. -/
structure OpenArgs where
  callback : Option Nat
  clientHandle : Bool
  cookie : Nat

structure OpenResult where
  ret : DsStatus
  profileIndex : Option Nat
  pdpType : Option DsiIpVersion
  session : Option DsSession
  events : List DsEvent
  deriving DecidableEq, Repr

def dsClientServiceTimeout : Nat := 4000

def dsClientServiceTimeoutTotal : Nat := 40000

namespace DsClient

/-- One pass of the `do` loop: the last lookup, and `no_signal`. -/
def lookupPass (r : LookupRetry) (noSignal : Bool) : ServiceLookup × Bool :=
  if r.first.ok then (r.first, noSignal)
  else if r.timedOut then (r.first, true)
  else (r.second, false)

/-- At most `n` passes, from pass `k` on; `none` where they are not enough. -/
def lookupLoop (retry : Nat → LookupRetry) : Nat → Nat → Nat → Bool → Option (ServiceLookup × Bool)
  | 0, _, _, _ => none
  | n + 1, k, timeout, noSignal =>
    let r := lookupPass (retry k) noSignal
    let timeout := timeout + dsClientServiceTimeout
    if timeout < dsClientServiceTimeoutTotal ∧ r.2 = true ∧ r.1.ok = false then
      lookupLoop retry n (k + 1) timeout r.2
    else some r

def lookupPasses : Nat := 10

/-- The rest of `ds_client_qmi_ctrl_point_init` after the lookups. -/
def initClient (w : CtrlPointAnswers) (found : ServiceLookup) (noSignal notifier : Bool) :
    DsStatus × List DsEvent :=
  if found.numServices = 0 ∨ found.ok = false then
    (if noSignal then .failureTimeout else .failureInternal, [])
  else if w.infoMalloc = false then (.failureInternal, [])
  else if w.serviceList = false then (.failureInternal, [])
  else if w.clientInit = false then (.failureInternal, [])
  else (.success, .clientInit :: if notifier then [.notifierRelease] else [])

def qmiCtrlPointInit (w : CtrlPointAnswers) : Option (DsStatus × List DsEvent) :=
  if w.serviceObject = false then some (.failureInternal, [])
  else if w.lookup.ok then some (initClient w w.lookup false false)
  else if w.notifierInit = false then some (.failureInternal, [])
  else
    match lookupLoop w.retry lookupPasses 0 0 false with
    | none => none
    | some (found, noSignal) =>
      let r := initClient w found noSignal true
      some (r.1, .notifierInit :: r.2)

def sendQmiSyncReq {α : Type} (r : SyncResponse α) : Except DsStatus α :=
  if r.sent = false then .error .failureInternal
  else if r.error ≠ 0 then .error .failureGeneral
  else .ok r.msg

/-- Without memory for the request the response stays all zeros, and the status says success. -/
def getProfileList (a : OpenAnswers) : Except DsStatus (List WdsProfile × List DsEvent) :=
  if a.requestCalloc = false then .ok ([], [])
  else (sendQmiSyncReq a.list).map fun profiles => (profiles, [.profileList profiles])

def emergency (s : WdsSettings) : Bool := s.supportEmergencyCallsValid && s.supportEmergencyCalls

def pdpType (s : WdsSettings) : DsiIpVersion :=
  if s.pdpTypeValid then
    match s.pdpType with
    | .ipv4 => .v4
    | .ipv6 => .v6
    | .ipv4v6 => .v4v6
    | .other => .v4
  else .v4

inductive ProfileSearch where
  | failed (rc : DsStatus)
  | missing
  | found (profile : WdsProfile) (settings : WdsSettings)

/-- The loop over the profiles, from the `i`-th on. -/
def findProfile (settings : Nat → SyncResponse WdsSettings) :
    Nat → List WdsProfile → ProfileSearch × List DsEvent
  | _, [] => (.missing, [])
  | i, p :: profiles =>
    match sendQmiSyncReq (settings i) with
    | .error rc => (.failed rc, [])
    | .ok s =>
      if emergency s then (.found p s, [.settings p s])
      else
        let r := findProfile settings (i + 1) profiles
        (r.1, .settings p s :: r.2)

def fail (rc : DsStatus) (events : List DsEvent) : OpenResult := ⟨rc, none, none, none, events⟩

/-- After the loop; the client has been released. -/
def openSession (args : OpenArgs) (a : OpenAnswers) (eventCb : Nat) (p : WdsProfile)
    (s : WdsSettings)
    (events : List DsEvent) : OpenResult :=
  let ret : DsStatus := if a.clientRelease then .success else .failureGeneral
  let r : OpenResult := ⟨ret, some p.profileIndex, some (pdpType s), none, events⟩
  if a.sessionCalloc = false then { r with ret := .failureNotEnoughMemory }
  else
    match a.dataHandle with
    | none => { r with ret := .retryLater, session := some ⟨none, eventCb, args.cookie⟩ }
    | some h => { r with session := some ⟨some h, eventCb, args.cookie⟩, events := events ++ [.dataHandle h] }

/-- From the memory for the profile list on, with a client. -/
def searchProfiles (args : OpenArgs) (a : OpenAnswers) (eventCb : Nat) (events : List DsEvent) :
    OpenResult :=
  if a.listCalloc = false then fail .failureNotEnoughMemory events
  else
    match getProfileList a with
    | .error rc => fail rc events
    | .ok (profiles, listEvents) =>
      let events := events ++ listEvents
      if a.settingsCalloc = false then fail .failureNotEnoughMemory events
      else
        let r := findProfile a.settings 0 profiles
        let events := events ++ r.2
        match r.1 with
        | .failed rc => fail rc events
        | .missing => fail .failureGeneral (events ++ [.clientRelease])
        | .found p s => openSession args a eventCb p s (events ++ [.clientRelease])

def openCall (args : OpenArgs) (a : OpenAnswers) : Option OpenResult :=
  match args.callback with
  | none => some (fail .failureGeneral [])
  | some eventCb =>
    if args.clientHandle = false then some (fail .failureGeneral [])
    else
      match qmiCtrlPointInit a.wds with
      | none => none
      | some (rc, events) =>
        if rc ≠ .success then some (fail rc events) else some (searchProfiles args a eventCb events)

end DsClient

end KiwiDevice.Gps

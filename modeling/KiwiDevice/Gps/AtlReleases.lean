import KiwiDevice.Gps.AtlEffects
import KiwiDevice.Lib.Since
import Mathlib.Logic.Function.Basic

/-!
# Requests and releases of ATL connections

The messages that ask one of the AGPS state machines of the engine for a connection, or give it
back. A request chooses the machine by its type; a release tries the machines one after the other.
-/

namespace KiwiDevice.Gps

/-- The machines of `loc_eng_data_s_type`. -/
inductive Nif where
  | agnss | internet | wifi | ds
  deriving DecidableEq, Repr

/-- Each machine is there or not. -/
structure AtlEngine where
  machines : Nif → Option AgpsStateMachine

namespace AtlEngine

def agpsTypeWwanAny : Int := 3

def agpsTypeSuplEs : Int := 5

variable (w : AtlEngine)

/-- The pointer to a machine, when it is not `NULL`. -/
def pointer (n : Nif) : Option Nif := (w.machines n).map fun _ => n

def getAgpsStateMachine (agpsType : Int) : Option Nif :=
  if agpsType = AgpsStateMachine.agpsTypeWifi then w.pointer .wifi
  else if agpsType = AgpsStateMachine.agpsTypeInvalid ∨ agpsType = AgpsStateMachine.agpsTypeSupl then
    w.pointer .agnss
  else if agpsType = agpsTypeSuplEs then
    if (w.machines .ds).isSome then w.pointer .ds else w.pointer .agnss
  else w.pointer .internet

def callOn (n : Nif) (c : AgpsCall) (a : DataCallAnswer) : AtlEngine × List AgpsEffect :=
  match w.machines n with
  | none => (w, [])
  | some m => ({ machines := Function.update w.machines n (some (m.call c a).1) }, (m.call c a).2)

def atlSubscriber (id : UInt32) (compatibleMode : Bool) : Subscriber :=
  { kind := .atl, ID := id, mBackwardCompatibleMode := compatibleMode }

def dsSubscriber (id : UInt32) : Subscriber := { kind := .ds, ID := id }

/-- `LocEngRequestSuplEs::proc` -/
def requestSuplEs (id : UInt32) (a : DataCallAnswer) : AtlEngine × List AgpsEffect :=
  if (w.machines .ds).isSome then w.callOn .ds (.subscribeRsrc (dsSubscriber id)) a
  else if (w.machines .agnss).isSome then
    w.callOn .agnss (.subscribeRsrc (atlSubscriber id false)) a
  else (w, [.atlOpenStatus id false none (-1) (-1)])

/-- `LocEngRequestATL::proc` -/
def requestATL (id : UInt32) (type : Int) (a : DataCallAnswer) : AtlEngine × List AgpsEffect :=
  match w.getAgpsStateMachine type with
  | some n =>
    w.callOn n (.subscribeRsrc (atlSubscriber id (AgpsStateMachine.agpsTypeInvalid == type))) a
  | none => (w, [.atlOpenStatus id false none (-1) type])

/-- The machine is there, and its `unsubscribeRsrc` returns `true`. -/
def unsubscribed (n : Nif) (s : Subscriber) : Bool :=
  (w.machines n).any fun m => m.mSubscribers.any (·.forMe { receiver := .rcver s })

/-- `LocEngReleaseATL::proc` -/
def releaseATL (id : UInt32) (a : DataCallAnswer) : AtlEngine × List AgpsEffect :=
  let s := atlSubscriber id false
  if w.unsubscribed .agnss s then w.callOn .agnss (.unsubscribeRsrc s) a
  else if w.unsubscribed .internet s then w.callOn .internet (.unsubscribeRsrc s) a
  else if w.unsubscribed .ds (dsSubscriber id) then
    w.callOn .ds (.unsubscribeRsrc (dsSubscriber id)) a
  else (w, [.atlCloseStatus id false])

/-- `setBearer` and `setAPN` -/
def setApn (n : Nif) (apn : String) (bearer : Int) : AtlEngine where
  machines := Function.update w.machines n
    ((w.machines n).map fun m => { m with mAPN := some apn, mBearer := bearer })

/-- `LocEngAtlOpenSuccess::proc` -/
def atlOpenSuccess (n : Nif) (apn : String) (bearer : Int) (a : DataCallAnswer) :
    AtlEngine × List AgpsEffect :=
  (w.setApn n apn bearer).callOn n (.onRsrcEvent .granted) a

/-- What comes from the modem and from the framework. `LocEngSuplEsOpened` and `LocEngSuplEsClosed`
come from the data service and go to its machine. -/
inductive Message where
  | requestSuplEs (id : UInt32)
  | requestATL (id : UInt32) (type : Int)
  | releaseATL (id : UInt32)
  | atlOpenSuccess (n : Nif) (apn : String) (bearer : Int)
  | atlClosed (n : Nif)
  | atlOpenFailed (n : Nif)
  | suplEsOpened
  | suplEsClosed
  deriving DecidableEq, Repr

/-- A pointer to a machine that is not there is followed nowhere. -/
def Message.Safe (w : AtlEngine) : Message → Prop
  | .atlOpenSuccess n _ _ | .atlClosed n | .atlOpenFailed n => (w.machines n).isSome = true
  | _ => True

/-- `proc`, with what the data service answers. -/
def proc (a : DataCallAnswer) : Message → AtlEngine × List AgpsEffect
  | .requestSuplEs id => w.requestSuplEs id a
  | .requestATL id type => w.requestATL id type a
  | .releaseATL id => w.releaseATL id a
  | .atlOpenSuccess n apn bearer => w.atlOpenSuccess n apn bearer a
  | .atlClosed n => w.callOn n (.onRsrcEvent .released) a
  | .atlOpenFailed n => w.callOn n (.onRsrcEvent .denied) a
  | .suplEsOpened => w.callOn .ds (.onRsrcEvent .granted) a
  | .suplEsClosed => w.callOn .ds (.onRsrcEvent .released) a

/-- The engine with the machines that `has` names, as they are created. -/
def start (has : Nif → Bool) : AtlEngine where
  machines n :=
    if has n then
      match n with
      | .agnss => some (.new AgpsStateMachine.agpsTypeSupl false)
      | .internet => some (.new agpsTypeWwanAny false)
      | .wifi => some (.new AgpsStateMachine.agpsTypeWifi true)
      | .ds => some .newDS
    else none

/-! ## Releases -/

def Subscribed (n : Nif) (id : UInt32) : Prop := ∃ m, w.machines n = some m ∧ m.Active id

/-- One message of a run: the engine before and after it, and what the engine does. -/
structure Entry where
  before : AtlEngine
  message : Message
  effects : List AgpsEffect
  after : AtlEngine

def Message.requests (i : Message) (id : UInt32) : Prop :=
  i = .requestSuplEs id ∨ ∃ type, i = .requestATL id type

/-- A release of a connection that some machine has. -/
def Entry.Released (e : Entry) (id : UInt32) : Prop :=
  e.message = .releaseATL id ∧ ∃ n, e.before.Subscribed n id

/-- What a release does. -/
structure ReleaseDone (id : UInt32) (e : Entry) : Prop where
  found : ∀ n, e.before.Subscribed n id →
    (∀ k, k ≠ n → e.after.machines k = e.before.machines k) ∧ ¬ e.after.Subscribed n id ∧
      closeStatuses id e.effects = [true]
  unknown : (∀ n, ¬ e.before.Subscribed n id) →
    e.after = e.before ∧ e.effects = [.atlCloseStatus id false]

/-- What holds of a message after the others: a release is done, and a connection that was released
is neither granted nor closed again. -/
structure ReleasesInTurn (log : List Entry) (e : Entry) : Prop where
  done : ∀ id, e.message = .releaseATL id → ReleaseDone id e
  later : ∀ id, (∃ r ∈ log, r.Released id) → ¬ Grants id e.effects ∧
    (e.message ≠ .releaseATL id → closeStatuses id e.effects = [])

/-- What the run must not do: release a connection that the machine for WIFI has, that is in two
machines or that the machine of the data service lists while it is in released or waits for the end
of the connection; or handle a request for a connection that was released. -/
def Spared (log : List Entry) (w : AtlEngine) : Message → Prop
  | .releaseATL id => ¬ w.Subscribed .wifi id ∧
      (∀ m, w.machines .ds = some m → ∀ e ∈ m.mSubscribers, e.ID = id →
        e.isInactive = false ∧ m.mStatePtr ≠ .released) ∧
      ∀ n k, w.Subscribed n id → w.Subscribed k id → n = k
  | .requestSuplEs id | .requestATL id _ => ¬ ∃ r ∈ log, r.Released id
  | _ => True

def Allowed (_ : List (Message × DataCallAnswer)) (log : List Entry) (w : AtlEngine)
    (i : Message × DataCallAnswer) (_ : List Entry) : Prop := Spared log w i.1

def Next (w : AtlEngine) (i : Message × DataCallAnswer) (log : List Entry) (w' : AtlEngine) :
    Prop :=
  i.1.Safe w ∧ w' = (w.proc i.2 i.1).1 ∧ log = [⟨w, i.1, (w.proc i.2 i.1).2, w'⟩]

end AtlEngine

/-!
## Every ATL connection can be released

In every run that is spared the cases named below, a release takes the connection out of the one
machine that has it, and the modem hears once of its end.
-/

open AgpsStateMachine

namespace AtlEngine

variable {w w' : AtlEngine} {n k : Nif} {c : AgpsCall} {a : DataCallAnswer} {m : AgpsStateMachine}
  {id : UInt32} {s : Subscriber} {log : List Entry}

/-- What holds of a machine of the engine. -/
structure NifMachine (n : Nif) (m : AgpsStateMachine) : Prop extends AtlMachine m where
  plain : n ≠ .ds → NifInvariant m ∧ ∀ e ∈ m.mSubscribers, e.kind = .atl

def Sound (w : AtlEngine) : Prop := ∀ n m, w.machines n = some m → NifMachine n m

/-- Only the machine of the data service has subscribers of that kind. -/
def CallFor (n : Nif) : AgpsCall → Prop
  | .subscribeRsrc s | .unsubscribeRsrc s => s.kind = .atl ∨ n = .ds ∧ s.kind = .ds
  | .onRsrcEvent _ => True

theorem CallFor.isAtl (h : CallFor n c) : c.IsAtl := by
  cases c with
  | subscribeRsrc s => exact h.imp_right And.right
  | unsubscribeRsrc s => exact h.imp_right And.right
  | onRsrcEvent event => trivial

theorem NifMachine.call (h : NifMachine n m) (hCall : CallFor n c) :
    NifMachine n (m.call c a).1 := by
  have hDid := m.call_did c a
  refine ⟨hDid.atlMachine h.toAtlMachine hCall.isAtl, fun hn => ⟨(hDid.nif (h.plain hn).1).1, ?_⟩⟩
  intro e he
  obtain ⟨y, hy | rfl, -, hKind⟩ := hDid.origin e he
  · exact hKind ▸ (h.plain hn).2 y hy
  · exact hKind ▸ hCall.resolve_right fun hDS => hn hDS.1

theorem callOn_of_some (h : w.machines n = some m) : w.callOn n c a =
    ({ machines := Function.update w.machines n (some (m.call c a).1) }, (m.call c a).2) := by
  rw [callOn, h]

theorem callOn_of_none (h : w.machines n = none) : w.callOn n c a = (w, []) := by
  rw [callOn, h]

theorem callOn_self (h : w.machines n = some m) :
    (w.callOn n c a).1.machines n = some (m.call c a).1 := by
  rw [callOn_of_some h]
  exact Function.update_self ..

theorem callOn_other (hk : k ≠ n) : (w.callOn n c a).1.machines k = w.machines k := by
  cases h : w.machines n with
  | none => rw [callOn_of_none h]
  | some m =>
    rw [callOn_of_some h]
    exact Function.update_of_ne hk _ _

theorem Sound.callOn (h : w.Sound) (hCall : CallFor n c) : (w.callOn n c a).1.Sound := by
  cases hm : w.machines n with
  | none => rwa [callOn_of_none hm]
  | some m =>
    intro k m' hk
    rcases eq_or_ne k n with rfl | hNe
    · rw [callOn_self hm, Option.some_inj] at hk
      exact hk ▸ (h k m hm).call hCall
    · rw [callOn_other hNe] at hk
      exact h k m' hk

theorem call_explained (hCall : c.isUnsubscribe = false) : Explained (m.call c a).2 := by
  cases c with
  | subscribeRsrc s => exact m.subscribeRsrc_explained s a
  | unsubscribeRsrc s => cases hCall
  | onRsrcEvent event => exact m.onRsrcEvent_explained event a

/-- A message other than a release, of a connection that it may ask for. -/
structure Heard (w : AtlEngine) (asks : Prop) (id : UInt32) (r : AtlEngine × List AgpsEffect) : Prop where
  opened : Grants id r.2 → (∃ n, w.Subscribed n id) ∨ asks
  closed : (∀ n, ¬ w.Subscribed n id) → closeStatuses id r.2 = []
  subscribed : ∀ k, r.1.Subscribed k id → (∃ n, w.Subscribed n id) ∨ asks

theorem callOn_heard (h : w.Sound) (hCall : c.isUnsubscribe = false) :
    Heard w (∃ s, c = .subscribeRsrc s ∧ s.ID = id) id (w.callOn n c a) := by
  cases hm : w.machines n with
  | none =>
    rw [callOn_of_none hm]
    exact ⟨fun ⟨_, _, _, hMem⟩ => (nomatch hMem), fun _ => rfl, fun k hk => .inl ⟨k, hk⟩⟩
  | some m =>
    have hDid := m.call_did c a
    have hHeard := hDid.heard id (call_explained hCall) hCall
    have hEffects : (w.callOn n c a).2 = (m.call c a).2 := congrArg Prod.snd (callOn_of_some hm)
    refine ⟨fun hGrants => ?_, fun hNone => ?_, ?_⟩
    · rw [hEffects] at hGrants
      exact (hHeard.1 hGrants).imp_left fun hOn => ⟨n, m, hm, hOn⟩
    · rw [hEffects]
      exact hHeard.2 fun hOn => hNone n ⟨m, hm, hOn⟩
    · rintro k ⟨m', hk, hOn⟩
      rcases eq_or_ne k n with rfl | hNe
      · rw [callOn_self hm, Option.some_inj] at hk
        rw [← hk] at hOn
        exact (hDid.active hOn).imp_left fun hOn => ⟨k, m, hm, hOn⟩
      · rw [callOn_other hNe] at hk
        exact .inl ⟨k, m', hk, hOn⟩

theorem Heard.mono {p q : Prop} {r : AtlEngine × List AgpsEffect} (h : Heard w p id r)
    (hpq : p → q) :
    Heard w q id r where
  opened := fun hGrants => (h.opened hGrants).imp_right hpq
  closed := h.closed
  subscribed := fun k hk => (h.subscribed k hk).imp_right hpq

theorem heard_failed {p : Prop} (apn : Option String) (id' : UInt32) (bearer type : Int) :
    Heard w p id (w, [.atlOpenStatus id' false apn bearer type]) where
  opened := by
    rintro ⟨_, _, _, hMem⟩
    cases List.mem_singleton.mp hMem
  closed := fun _ => rfl
  subscribed := fun k hk => .inl ⟨k, hk⟩

/-! ## The messages -/

theorem requestATL_heard (id : UInt32) (h : w.Sound) (id' : UInt32) (type : Int) :
    Heard w (id' = id) id (w.requestATL id' type a) ∧ (w.requestATL id' type a).1.Sound := by
  rw [requestATL]
  split
  · refine ⟨(callOn_heard h rfl).mono ?_, h.callOn (.inl rfl)⟩
    rintro ⟨s, hs, hID⟩
    cases hs
    exact hID
  · exact ⟨heard_failed _ _ _ _, h⟩

theorem requestSuplEs_heard (id : UInt32) (h : w.Sound) (id' : UInt32) :
    Heard w (id' = id) id (w.requestSuplEs id' a) ∧ (w.requestSuplEs id' a).1.Sound := by
  rw [requestSuplEs]
  split
  · refine ⟨(callOn_heard h rfl).mono ?_, h.callOn (.inr ⟨rfl, rfl⟩)⟩
    rintro ⟨s, hs, hID⟩
    cases hs
    exact hID
  · split
    · refine ⟨(callOn_heard h rfl).mono ?_, h.callOn (.inl rfl)⟩
      rintro ⟨s, hs, hID⟩
      cases hs
      exact hID
    · exact ⟨heard_failed _ _ _ _, h⟩

theorem event_heard (id : UInt32) (h : w.Sound) (n : Nif) (event : AgpsRsrcStatus) :
    Heard w False id (w.callOn n (.onRsrcEvent event) a) ∧
      (w.callOn n (.onRsrcEvent event) a).1.Sound := by
  refine ⟨(callOn_heard h rfl).mono ?_, h.callOn trivial⟩
  rintro ⟨s, hs, -⟩
  cases hs

theorem setApn_machine {apn : String} {bearer : Int} {m' : AgpsStateMachine}
    (h : (w.setApn n apn bearer).machines k = some m') :
    ∃ m, w.machines k = some m ∧ m'.mSubscribers = m.mSubscribers ∧ m'.mStatePtr = m.mStatePtr ∧
      m'.isDS = m.isDS := by
  rcases eq_or_ne k n with rfl | hNe
  · have hSet : (w.setApn k apn bearer).machines k = _ := Function.update_self ..
    rw [hSet, Option.map_eq_some_iff] at h
    obtain ⟨m, hm, rfl⟩ := h
    exact ⟨m, hm, rfl, rfl, rfl⟩
  · have hSet : (w.setApn n apn bearer).machines k = w.machines k := Function.update_of_ne hNe _ _
    exact ⟨m', hSet ▸ h, rfl, rfl, rfl⟩

theorem setApn_subscribed {apn : String} {bearer : Int}
    (h : (w.setApn n apn bearer).Subscribed k id) :
    w.Subscribed k id := by
  obtain ⟨m', hk, hOn⟩ := h
  obtain ⟨m, hm, hList, -⟩ := setApn_machine hk
  exact ⟨m, hm, by rwa [Active, hList] at hOn⟩

theorem Sound.setApn (h : w.Sound) (n : Nif) (apn : String) (bearer : Int) :
    (w.setApn n apn bearer).Sound := by
  intro k m' hk
  obtain ⟨m, hm, hList, hState, hDS⟩ := setApn_machine hk
  have hMachine := h k m hm
  refine ⟨⟨hList ▸ hMachine.kinds, hList ▸ hMachine.distinct⟩, fun hn => ⟨?_, ?_⟩⟩
  · obtain ⟨hNotDS, hReleased, hActive⟩ := (hMachine.plain hn).1
    rw [← hList, ← hState] at hReleased hActive
    exact ⟨hDS.trans hNotDS, hReleased, hActive⟩
  · exact hList ▸ (hMachine.plain hn).2

theorem atlOpenSuccess_heard (id : UInt32) (h : w.Sound) (n : Nif) (apn : String) (bearer : Int) :
    Heard w False id (w.atlOpenSuccess n apn bearer a) ∧
    (w.atlOpenSuccess n apn bearer a).1.Sound := by
  obtain ⟨hHeard, hSound⟩ := event_heard (a := a) id (h.setApn n apn bearer) n .granted
  have hSub : (∃ k, (w.setApn n apn bearer).Subscribed k id) → ∃ k, w.Subscribed k id :=
    fun ⟨k, hk⟩ => ⟨k, setApn_subscribed hk⟩
  refine ⟨⟨fun hGrants => ?_, fun hNone => ?_, fun k hk => ?_⟩, hSound⟩
  · exact (hHeard.opened hGrants).imp_left hSub
  · exact hHeard.closed fun k hk => hNone k (setApn_subscribed hk)
  · exact (hHeard.subscribed k hk).imp_left hSub

theorem proc_heard (h : w.Sound) {i : Message} (hi : ∀ id', i ≠ .releaseATL id') :
    Heard w (i.requests id) id (w.proc a i) ∧ (w.proc a i).1.Sound := by
  have hEvent : ∀ {r : AtlEngine × List AgpsEffect}, Heard w False id r ∧ r.1.Sound →
      Heard w (i.requests id) id r ∧ r.1.Sound := fun hr => ⟨hr.1.mono False.elim, hr.2⟩
  cases i with
  | requestSuplEs id' =>
    have hDone := requestSuplEs_heard (a := a) id h id'
    exact ⟨hDone.1.mono fun hID => .inl (by rw [hID]), hDone.2⟩
  | requestATL id' type =>
    have hDone := requestATL_heard (a := a) id h id' type
    exact ⟨hDone.1.mono fun hID => .inr ⟨type, by rw [hID]⟩, hDone.2⟩
  | releaseATL id' => exact absurd rfl (hi id')
  | atlOpenSuccess n apn bearer => exact hEvent (atlOpenSuccess_heard id h n apn bearer)
  | atlClosed n => exact hEvent (event_heard id h n .released)
  | atlOpenFailed n => exact hEvent (event_heard id h n .denied)
  | suplEsOpened => exact hEvent (event_heard id h .ds .granted)
  | suplEsClosed => exact hEvent (event_heard id h .ds .released)

/-! ## A release -/

def Lists (w : AtlEngine) (n : Nif) (id : UInt32) : Prop :=
  ∃ m, w.machines n = some m ∧ ∃ e ∈ m.mSubscribers, e.ID = id

theorem Subscribed.lists (h : w.Subscribed n id) : w.Lists n id := by
  obtain ⟨m, hm, e, he, hID, -⟩ := h
  exact ⟨m, hm, e, he, hID⟩

theorem unsubscribed_iff (h : w.Sound) : w.unsubscribed n s = true ↔ w.Lists n s.ID := by
  rw [unsubscribed, Option.any_eq_true]
  refine exists_congr fun m => and_congr_right fun hm => ?_
  rw [List.any_eq_true]
  exact exists_congr fun e => and_congr_right fun he => equals_iff_ID ((h n m hm).kinds e he)

theorem subscribed_of_lists (h : w.Sound) (hn : n ≠ .ds) (hLists : w.Lists n id) :
    w.Subscribed n id ∧ ∀ m, w.machines n = some m → m.mStatePtr ≠ .released := by
  obtain ⟨m, hm, e, he, hID⟩ := hLists
  obtain ⟨hInv, hAtl⟩ := (h n m hm).plain hn
  refine ⟨⟨m, hm, e, he, hID, active_of_atl (hAtl e he)⟩, fun m' hm' hReleased => ?_⟩
  obtain rfl : m = m' := Option.some_inj.mp (hm.symm.trans hm')
  rw [hInv.released_iff.mp hReleased] at he
  cases he

/-- What a release of a connection leaves behind, wherever it is found. -/
structure Gave (w : AtlEngine) (id : UInt32) (r : AtlEngine × List AgpsEffect) : Prop where
  sound : r.1.Sound
  opened : ∀ id', ¬ Grants id' r.2
  others : ∀ id', id' ≠ id → closeStatuses id' r.2 = []
  subscribed : ∀ k id', r.1.Subscribed k id' → w.Subscribed k id'
  gone : ∀ k, ¬ r.1.Subscribed k id
  done : (∀ k, w.Subscribed k id → (∀ l, l ≠ k → r.1.machines l = w.machines l) ∧
      closeStatuses id r.2 = [true]) ∧
    ((∀ k, ¬ w.Subscribed k id) → r = (w, [.atlCloseStatus id false]))

theorem callOn_gave (h : w.Sound) (hCall : s.kind = .atl ∨ n = .ds ∧ s.kind = .ds)
    (hSub : w.Subscribed n s.ID) (hState : ∀ m, w.machines n = some m → m.mStatePtr ≠ .released)
    (hOne : ∀ k, w.Subscribed k s.ID → k = n) :
    Gave w s.ID (w.callOn n (.unsubscribeRsrc s) a) := by
  obtain ⟨m, hm, hOn⟩ := hSub
  have hMachine := (h n m hm).toAtlMachine
  have hListed : m.mSubscribers.any (·.forMe { receiver := .rcver s }) = true := by
    obtain ⟨e, he, hID, -⟩ := hOn
    exact List.any_eq_true.mpr ⟨e, he, (equals_iff_ID (hMachine.kinds e he)).mpr hID⟩
  have hRemoved : Removed s.ID (m.call (.unsubscribeRsrc s) a) :=
    unsubscribeRsrc_removed hMachine (hState m hm) hListed
  have hEffects : (w.callOn n (.unsubscribeRsrc s) a).2 = (m.call (.unsubscribeRsrc s) a).2 :=
    congrArg Prod.snd (callOn_of_some hm)
  have hActive : ∀ k id', (w.callOn n (.unsubscribeRsrc s) a).1.Subscribed k id' → w.Subscribed k id' := by
    rintro k id' ⟨m', hk, hOn'⟩
    rcases eq_or_ne k n with rfl | hNe
    · rw [callOn_self hm, Option.some_inj] at hk
      rw [← hk] at hOn'
      rcases (m.call_did (.unsubscribeRsrc s) a).active hOn' with hOn' | ⟨t, ht, -⟩
      · exact ⟨m, hm, hOn'⟩
      · cases ht
    · rw [callOn_other hNe] at hk
      exact ⟨m', hk, hOn'⟩
  constructor
  · exact h.callOn hCall
  · exact hEffects ▸ hRemoved.opened
  · exact hEffects ▸ hRemoved.others
  · exact hActive
  · intro k hk
    obtain rfl := hOne k (hActive k s.ID hk)
    obtain ⟨m', hk, hOn'⟩ := hk
    rw [callOn_self hm, Option.some_inj] at hk
    exact hRemoved.gone (hk ▸ hOn')
  · refine ⟨fun k hk => ?_, fun hNone => absurd ⟨m, hm, hOn⟩ (hNone n)⟩
    obtain rfl := hOne k hk
    exact ⟨fun l hl => callOn_other hl, hEffects ▸ hRemoved.closed⟩

theorem releaseATL_gave (h : w.Sound) (hSpared : Spared log w (.releaseATL id)) :
    Gave w id (w.releaseATL id a) := by
  obtain ⟨hWifi, hDS, hOne⟩ := hSpared
  have hPlain : ∀ n, n ≠ .ds → w.Lists n id →
      Gave w id (w.callOn n (.unsubscribeRsrc (atlSubscriber id false)) a) := by
    intro n hn hLists
    obtain ⟨hSub, hState⟩ := subscribed_of_lists h hn hLists
    exact callOn_gave (s := atlSubscriber id false) h (.inl rfl) hSub hState fun k hk => hOne k n hk hSub
  rw [releaseATL]
  split
  · rename_i hAgnss
    exact hPlain .agnss (by decide) ((unsubscribed_iff h).mp hAgnss)
  · rename_i hAgnss
    split
    · rename_i hInternet
      exact hPlain .internet (by decide) ((unsubscribed_iff h).mp hInternet)
    · rename_i hInternet
      split
      · rename_i hData
        obtain ⟨m, hm, e, he, hID⟩ := (unsubscribed_iff h).mp hData
        have hSub : w.Subscribed .ds id := ⟨m, hm, e, he, hID, (hDS m hm e he hID).1⟩
        refine callOn_gave (s := dsSubscriber id) h (.inr ⟨rfl, rfl⟩) hSub ?_ fun k hk => hOne k .ds hk hSub
        intro m' hm'
        obtain rfl : m = m' := Option.some_inj.mp (hm.symm.trans hm')
        exact (hDS m hm e he hID).2
      · rename_i hData
        have hNone : ∀ k, ¬ w.Subscribed k id := by
          intro k hk
          cases k with
          | agnss => exact hAgnss ((unsubscribed_iff h).mpr hk.lists)
          | internet => exact hInternet ((unsubscribed_iff h).mpr hk.lists)
          | wifi => exact hWifi hk
          | ds => exact hData ((unsubscribed_iff h).mpr hk.lists)
        constructor
        · exact h
        · rintro id' ⟨_, _, _, hMem⟩
          cases List.mem_singleton.mp hMem
        · intro id' hNe
          exact closeStatuses_eq_nil fun success hMem => by
            cases List.mem_singleton.mp hMem
            exact hNe rfl
        · exact fun k id' hk => hk
        · exact hNone
        · exact ⟨fun k hk => absurd hk (hNone k), fun _ => rfl⟩

/-! ## The runs -/

theorem start_sound (has : Nif → Bool) : (start has).Sound := by
  intro n m hm
  change (if has n = true then _ else none) = some m at hm
  split at hm
  · have hNew : ∀ type single, NifMachine n (.new type single) := by
      intro type single
      refine ⟨⟨nofun, List.Pairwise.nil⟩, fun _ => ⟨⟨rfl, ⟨fun _ => rfl, fun _ => rfl⟩, ?_⟩, nofun⟩⟩
      rintro (hState | hState) <;> cases hState
    cases n with
    | ds =>
      cases hm
      exact ⟨⟨nofun, List.Pairwise.nil⟩, fun hn => absurd rfl hn⟩
    | _ =>
      cases hm
      exact hNew _ _
  · cases hm

/-- What holds of the engine and of what it did so far. -/
structure ReleasesKept (log : List Entry) (w : AtlEngine) : Prop where
  sound : w.Sound
  gone : ∀ id, (∃ r ∈ log, r.Released id) → ∀ n, ¬ w.Subscribed n id
  each : Lib.Each ReleasesInTurn log

theorem ReleasesKept.step {i : Message × DataCallAnswer} {new : List Entry} (h : ReleasesKept log w)
    (hSpared : Spared log w i.1) (hNext : Next w i new w') : ReleasesKept (log ++ new) w' := by
  obtain ⟨-, rfl, rfl⟩ := hNext
  by_cases hRelease : ∃ id, i.1 = .releaseATL id
  · obtain ⟨id, hMessage⟩ := hRelease
    rw [hMessage] at hSpared
    have hGave : Gave w id (w.proc i.2 i.1) := by
      rw [hMessage]
      exact releaseATL_gave h.sound hSpared
    refine ⟨hGave.sound, ?_, Lib.each_snoc.mpr ⟨h.each, ⟨?_, ?_⟩⟩⟩
    · rintro id' ⟨r, hr, hReleased⟩ n hSub
      rcases List.mem_append.mp hr with hr | hr
      · exact h.gone id' ⟨r, hr, hReleased⟩ n (hGave.subscribed n id' hSub)
      · rw [List.mem_singleton.mp hr] at hReleased
        cases hMessage.symm.trans hReleased.1
        exact hGave.gone n hSub
    · intro id' hId
      cases hMessage.symm.trans hId
      exact ⟨fun n hn => ⟨(hGave.done.1 n hn).1, hGave.gone n, (hGave.done.1 n hn).2⟩,
        fun hNone => ⟨congrArg Prod.fst (hGave.done.2 hNone), congrArg Prod.snd (hGave.done.2 hNone)⟩⟩
    · intro id' _
      exact ⟨hGave.opened id', fun hNe => hGave.others id' fun hId => hNe (hId ▸ hMessage)⟩
  · have hHeard : ∀ id, Heard w (i.1.requests id) id (w.proc i.2 i.1) ∧ (w.proc i.2 i.1).1.Sound :=
      fun id => proc_heard h.sound fun id' hId => hRelease ⟨id', hId⟩
    -- a connection that was released is not asked for
    have hNot : ∀ id, (∃ r ∈ log, r.Released id) → ¬ ((∃ n, w.Subscribed n id) ∨ i.1.requests id) := by
      rintro id hId (⟨n, hn⟩ | hAsks | ⟨type, hAsks⟩)
      · exact h.gone id hId n hn
      · rw [hAsks] at hSpared
        exact hSpared hId
      · rw [hAsks] at hSpared
        exact hSpared hId
    refine ⟨(hHeard 0).2, ?_, Lib.each_snoc.mpr ⟨h.each, ⟨?_, ?_⟩⟩⟩
    · rintro id ⟨r, hr, hReleased⟩ n hSub
      rcases List.mem_append.mp hr with hr | hr
      · exact hNot id ⟨r, hr, hReleased⟩ ((hHeard id).1.subscribed n hSub)
      · rw [List.mem_singleton.mp hr] at hReleased
        exact hRelease ⟨id, hReleased.1⟩
    · exact fun id hId => absurd ⟨id, hId⟩ hRelease
    · intro id hId
      exact ⟨fun hGrants => hNot id hId ((hHeard id).1.opened hGrants),
        fun _ => (hHeard id).1.closed (h.gone id hId)⟩

/-- In every run that is spared, every release is done and lasts. -/
theorem releases_of_run {has : Nif → Bool} {is : List (Message × DataCallAnswer)}
    (run : Lib.Steps Next Allowed (start has) is log w) : Lib.Each ReleasesInTurn log := by
  have hKept : ReleasesKept log w := by
    refine run.history (I := fun _ log w => ReleasesKept log w) ?_ ?_
    · exact ⟨start_sound has, fun _ ⟨_, hr, _⟩ => (nomatch hr), Lib.each_nil⟩
    · exact fun _ _ _ _ _ _ hSpared hKept hNext => hKept.step hSpared hNext
  exact hKept.each

def noAnswer : DataCallAnswer := ⟨0, false⟩

def entryOf (w : AtlEngine) (i : Message) : Entry :=
  ⟨w, i, (w.proc noAnswer i).2, (w.proc noAnswer i).1⟩

theorem run_message {allowed : List (Message × DataCallAnswer) → List Entry → AtlEngine →
    Message × DataCallAnswer → List Entry → Prop} {w₀ : AtlEngine} {is :
    List (Message × DataCallAnswer)}
    (run : Lib.Steps Next allowed w₀ is log w) (i : Message) (hSafe : i.Safe w)
    (hOk : allowed is log w (i, noAnswer) [entryOf w i]) :
    Lib.Steps Next allowed w₀ (is ++ [(i, noAnswer)]) (log ++ [entryOf w i])
    (w.proc noAnswer i).1 :=
  run.step hOk ⟨hSafe, rfl, rfl⟩

def onlyAgnss (n : Nif) : Bool := n == .agnss

/-- The modem asks for a connection, gets it and gives it back. -/
theorem releases_of_run_agnss : ∃ log w, Lib.Steps Next Allowed (start onlyAgnss)
    [(.requestATL 7 AgpsStateMachine.agpsTypeSupl, noAnswer), (.atlOpenSuccess .agnss "apn" 0, noAnswer),
      (.releaseATL 7, noAnswer)] log w ∧ Lib.Each ReleasesInTurn log := by
  let w₁ := ((start onlyAgnss).proc noAnswer (.requestATL 7 AgpsStateMachine.agpsTypeSupl)).1
  let w₂ := (w₁.proc noAnswer (.atlOpenSuccess .agnss "apn" 0)).1
  have hOnly : ∀ k id, w₂.Subscribed k id → k = .agnss := by
    rintro k id ⟨m, hm, -⟩
    cases k with
    | agnss => rfl
    | _ => cases hm
  have hFirst : Lib.Steps Next Allowed (start onlyAgnss) _ _ w₁ :=
    run_message .start (.requestATL 7 AgpsStateMachine.agpsTypeSupl) trivial fun ⟨_, hr, _⟩ => nomatch hr
  have hSecond : Lib.Steps Next Allowed (start onlyAgnss) _ _ w₂ :=
    run_message hFirst (.atlOpenSuccess .agnss "apn" 0) rfl trivial
  have hSpared : ∀ log, Spared log w₂ (.releaseATL 7) := by
    intro log
    refine ⟨fun hWifi => (nomatch hOnly .wifi 7 hWifi), fun m hm => (nomatch hm), ?_⟩
    exact fun n k hn hk => (hOnly n 7 hn).trans (hOnly k 7 hk).symm
  have hRun := run_message hSecond (.releaseATL 7) trivial (hSpared _)
  exact ⟨_, _, hRun, releases_of_run hRun⟩

/-- A connection over WIFI is not found by its release. -/
theorem wifi_not_released : ∃ log w, Lib.Steps Next Lib.anyStep (start fun _ => true)
    [(.requestATL 7 AgpsStateMachine.agpsTypeWifi, noAnswer), (.releaseATL 7, noAnswer)] log w ∧
      ¬ Lib.Each ReleasesInTurn log := by
  let w₀ := start fun _ => true
  let w₁ := (w₀.proc noAnswer (.requestATL 7 AgpsStateMachine.agpsTypeWifi)).1
  have hFirst : Lib.Steps Next Lib.anyStep w₀ _ _ w₁ :=
    run_message .start (.requestATL 7 AgpsStateMachine.agpsTypeWifi) trivial trivial
  have hRun := run_message hFirst (.releaseATL 7) trivial trivial
  refine ⟨_, _, hRun, fun hEach => ?_⟩
  have hRelease := (hEach [_] _ [] rfl).done 7 rfl
  have hClosed := (hRelease.found .wifi ⟨_, rfl, atlSubscriber 7 false, List.mem_cons_self, rfl, rfl⟩).2.2
  revert hClosed
  decide

end AtlEngine

end KiwiDevice.Gps

import KiwiDevice.Hal.ApiRuns
import KiwiDevice.Hal.ChannelRuns

/-!
# Concurrent calls in one order

The callers of the HAL, its thread and the thread of a live snapshot, on the channels of the
interface. What they do to the interface has an order in time, and in this order the interface
behaves as if one caller used it, who waits for each answer. The requests are served as they were
sent, the events of the backend too.
-/

namespace KiwiDevice.Hal

open HardwareInterface

/-- What is done with the interface. -/
inductive CallEvent where
  | sent (node : SmNode)
  | served (node : SmNode) (r : HalAnswers)
  | liveSnapshot

namespace CallEvent

def sentNode : CallEvent → Option SmNode
  | sent node => some node
  | _ => none

def servedNode : CallEvent → Option SmNode
  | served node _ => some node
  | _ => none

/-- What reaches the interface. -/
def input : CallEvent → Option HalInput
  | sent _ => none
  | served node r => some (.event node.evt node.payload r)
  | liveSnapshot => some .liveSnapshot

end CallEvent

/-- The result that an event is answered with, if it is. -/
def HalSystem.result (w : HalSystem) (evt : SmEvt) (p : SmPayload) (r : HalAnswers) :
    Option ApiResult :=
  match (parent.stateMachine r p { w.hal with outside := r } w.state evt).signal with
  | some (.api result) => some result
  | _ => none

/-- The interface with one caller; `preparing` is the request whose snapshot is prepared. -/
structure OneCaller where
  system : HalSystem
  preparing : Option Nat := none

namespace OneCaller

def start (modes : Modes) : OneCaller := ⟨.start modes, none⟩

def answer (q : OneCaller) : CallEvent → Option Answer
  | .served node r => (q.system.result node.evt node.payload r).map fun result =>
      ⟨node.request.or q.preparing, result⟩
  | _ => none

/-- The request that waits for the snapshot, after a node with this result. -/
def preparingAfter (q : OneCaller) (node : SmNode) (r : HalAnswers) : Option ApiResult → Option Nat
  | some _ => if node.request = none then none else q.preparing
  | none =>
    if (q.system.step (.event node.evt node.payload r)).state = .prepareSnapshot ∧
        q.system.state ≠ .prepareSnapshot then node.request
    else q.preparing

def step (q : OneCaller) : CallEvent → OneCaller
  | .sent _ => q
  | .served node r =>
    ⟨q.system.step (.event node.evt node.payload r),
      q.preparingAfter node r (q.system.result node.evt node.payload r)⟩
  | .liveSnapshot => { q with system := q.system.step .liveSnapshot }

def run (q : OneCaller) (es : List CallEvent) : OneCaller := es.foldl step q

def answers (q : OneCaller) : List CallEvent → List Answer
  | [] => []
  | e :: es => (q.answer e).toList ++ (q.step e).answers es

variable {q : OneCaller}

theorem answers_append (es es' : List CallEvent) :
    q.answers (es ++ es') = q.answers es ++ (q.run es).answers es' := by
  induction es generalizing q with
  | nil => rfl
  | cons e es ih => rw [List.cons_append, answers, ih, answers, List.append_assoc]; rfl

theorem run_append (es es' : List CallEvent) : q.run (es ++ es') = (q.run es).run es' :=
  List.foldl_append

theorem answers_one (e : CallEvent) : q.answers [e] = (q.answer e).toList := List.append_nil _

/-- The requests aside, this is the interface on what reaches it. -/
theorem run_system (es : List CallEvent) :
    (q.run es).system = q.system.run (es.filterMap CallEvent.input) := by
  induction es generalizing q with
  | nil => rfl
  | cons e es ih =>
    refine (ih (q := q.step e)).trans ?_
    cases e <;> rfl

end OneCaller

def SmNode.isRequest (node : SmNode) : Bool := node.request.isSome

def SmThread.node : SmThread → Option SmNode
  | running node => some node
  | _ => none

def SmThread.answer : SmThread → Option Answer
  | signalling answer => some answer
  | _ => none

namespace HalCalls

variable {w w' : HalCalls HardwareInterface}

/-- The answers of the outside are those for the node that is processed, and nothing but the thread
of a live snapshot changes the interface besides. -/
def serve (w : HalCalls HardwareInterface) :
    Input HardwareInterface HalAnswers → Option (HalCalls HardwareInterface)
  | .process r => step parent { w with hal := { w.hal with outside := r } } (.process r)
  | .changeHal _ => some { w with hal := w.hal.takeLiveSnapshotInternal }
  | i => w.step parent i

def events (w : HalCalls HardwareInterface) :
    Input HardwareInterface HalAnswers → List CallEvent
  | .processAPI _ evt payload => [.sent ⟨some w.nextRequest, evt, payload⟩]
  | .sendUnawaited evt => [.sent ⟨some w.nextRequest, evt, {}⟩]
  | .processEvt evt payload => [.sent ⟨none, evt, payload⟩]
  | .process r => (w.thread.node.map fun node => CallEvent.served node r).toList
  | .changeHal _ => [.liveSnapshot]
  | _ => []

def Serves (w : HalCalls HardwareInterface) (i : Input HardwareInterface HalAnswers)
    (es : List CallEvent) (w' : HalCalls HardwareInterface) : Prop :=
  w.serve i = some w' ∧ es = w.events i

/-- What the nodes of one kind are: those that are served, then the one that is processed, then
those that wait. -/
def InOrder (kind : SmNode → Bool) (es : List CallEvent) (thread : SmThread)
    (queue : List SmNode) : Prop :=
  (es.filterMap CallEvent.sentNode).filter kind =
    (es.filterMap CallEvent.servedNode ++ thread.node.toList).filter kind ++ queue

/-- One caller who does the same in the same order leaves the interface as it is; his answers are
those that were returned, that lie in the list, and the one that is signalled. -/
structure Linearized (modes : Modes) (es : List CallEvent) (w : HalCalls HardwareInterface) :
    Prop where
  system : (OneCaller.start modes).run es = ⟨⟨w.hal, w.state⟩, w.preparing⟩
  requests : InOrder SmNode.isRequest es w.thread w.apiQueue
  backend : InOrder (fun node => !node.isRequest) es w.thread w.evtQueue
  answers : ((OneCaller.start modes).answers es).Perm
    (w.returned.map Prod.snd ++ w.apiResultList ++ w.thread.answer.toList)
  answered : ((OneCaller.start modes).answers es).filterMap Answer.request =
    w.answered ++ (w.thread.answer.bind Answer.request).toList
  apiNodes : ∀ node ∈ w.apiQueue, node.isRequest = true
  evtNodes : ∀ node ∈ w.evtQueue, node.isRequest = false

/-! ### The two queues -/

section Order

variable {kind : SmNode → Bool} {es : List CallEvent} {thread thread' : SmThread}
  {queue : List SmNode} {node : SmNode}

theorem InOrder.sent (h : InOrder kind es thread queue) (hKind : kind node = true) :
    InOrder kind (es ++ [.sent node]) thread (queue ++ [node]) := by
  have hOne : [node].filter kind = [node] := List.filter_cons_of_pos hKind
  rw [InOrder, List.filterMap_append, List.filterMap_append, List.filter_append, h,
    ← List.append_assoc]
  exact congrArg₂ _ (by rw [show [CallEvent.sent node].filterMap CallEvent.servedNode = [] from rfl,
    List.append_nil]) hOne

theorem InOrder.sent_other (h : InOrder kind es thread queue) (hKind : kind node = false) :
    InOrder kind (es ++ [.sent node]) thread queue := by
  have hNone : [node].filter kind = [] := List.filter_cons_of_neg (by rw [hKind]; decide)
  rw [InOrder, List.filterMap_append, List.filterMap_append, List.filter_append, h]
  change _ ++ [node].filter kind = (_ ++ [] ++ _).filter kind ++ queue
  rw [hNone, List.append_nil, List.append_nil]

theorem InOrder.dequeue {rest : List SmNode} (h : InOrder kind es thread (node :: rest))
    (hThread : thread.node = none) (hKind : kind node = true) :
    InOrder kind es (.running node) rest := by
  have hOne : [node].filter kind = [node] := List.filter_cons_of_pos hKind
  rw [InOrder, h, hThread, List.filter_append, List.filter_append]
  change _ ++ [] ++ node :: rest = _ ++ [node].filter kind ++ rest
  rw [hOne, List.append_nil, List.append_assoc]
  rfl

theorem InOrder.dequeue_other (h : InOrder kind es thread queue) (hThread : thread.node = none)
    (hKind : kind node = false) : InOrder kind es (.running node) queue := by
  have hNone : [node].filter kind = [] := List.filter_cons_of_neg (by rw [hKind]; decide)
  rw [InOrder, h, hThread, List.filter_append, List.filter_append]
  change _ ++ [] ++ queue = _ ++ [node].filter kind ++ queue
  rw [hNone]

theorem InOrder.served (h : InOrder kind es (.running node) queue) (r : HalAnswers)
    (hThread : thread'.node = none) : InOrder kind (es ++ [.served node r]) thread' queue := by
  rw [InOrder, List.filterMap_append, List.filterMap_append, hThread]
  change (_ ++ []).filter kind = (_ ++ [node] ++ []).filter kind ++ queue
  rw [List.append_nil, List.append_nil, h]
  rfl

theorem InOrder.live (h : InOrder kind es thread queue) :
    InOrder kind (es ++ [.liveSnapshot]) thread queue := by
  rw [InOrder, List.filterMap_append, List.filterMap_append]
  change (_ ++ []).filter kind = (_ ++ [] ++ _).filter kind ++ queue
  rw [List.append_nil, List.append_nil, h]

end Order

/-! ### The steps -/

namespace Linearized

variable {modes : Modes} {es : List CallEvent}

theorem moveThread (h : Linearized modes es w) {thread : SmThread}
    (hNode : thread.node = w.thread.node) (hAnswer : thread.answer = w.thread.answer) :
    Linearized modes es { w with thread := thread } where
  system := h.system
  requests := by
    rw [InOrder, hNode]
    exact h.requests
  backend := by
    rw [InOrder, hNode]
    exact h.backend
  answers := by
    rw [hAnswer]
    exact h.answers
  answered := by
    rw [hAnswer]
    exact h.answered
  apiNodes := h.apiNodes
  evtNodes := h.evtNodes

/-- What nobody is answered for leaves the answers where they are. -/
theorem silent (h : Linearized modes es w) (e : CallEvent)
    (hSilent : ∀ q : OneCaller, q.answer e = none) :
    ((OneCaller.start modes).answers (es ++ [e])).Perm
      (w.returned.map Prod.snd ++ w.apiResultList ++ w.thread.answer.toList) ∧
    ((OneCaller.start modes).answers (es ++ [e])).filterMap Answer.request =
      w.answered ++ (w.thread.answer.bind Answer.request).toList := by
  have hNone : (OneCaller.start modes).answers (es ++ [e]) =
      (OneCaller.start modes).answers es := by
    rw [OneCaller.answers_append, OneCaller.answers_one, hSilent]
    exact List.append_nil _
  rw [hNone]
  exact ⟨h.answers, h.answered⟩

theorem run_sent (node : SmNode) :
    (OneCaller.start modes).run (es ++ [.sent node]) = (OneCaller.start modes).run es :=
  OneCaller.run_append es [.sent node]

theorem procAPI (h : Linearized modes es w) (evt : SmEvt) (payload : SmPayload) :
    Linearized modes (es ++ [.sent ⟨some w.nextRequest, evt, payload⟩])
      (w.procAPI evt payload) where
  system := (run_sent _).trans h.system
  requests := h.requests.sent rfl
  backend := h.backend.sent_other rfl
  answers := (h.silent _ fun _ => rfl).1
  answered := (h.silent _ fun _ => rfl).2
  apiNodes := List.forall_mem_append.mpr ⟨h.apiNodes, List.forall_mem_singleton.mpr rfl⟩
  evtNodes := h.evtNodes

theorem procEvt (h : Linearized modes es w) (evt : SmEvt) (payload : SmPayload) :
    Linearized modes (es ++ [.sent ⟨none, evt, payload⟩]) (w.procEvt evt payload) where
  system := (run_sent _).trans h.system
  requests := h.requests.sent_other rfl
  backend := h.backend.sent rfl
  answers := (h.silent _ fun _ => rfl).1
  answered := (h.silent _ fun _ => rfl).2
  apiNodes := h.apiNodes
  evtNodes := List.forall_mem_append.mpr ⟨h.evtNodes, List.forall_mem_singleton.mpr rfl⟩

theorem dequeueApi (h : Linearized modes es w) (hThread : w.thread = .notified) {node : SmNode}
    {rest : List SmNode} (hQueue : w.apiQueue = node :: rest) :
    Linearized modes es { w with apiQueue := rest, thread := .running node } := by
  obtain ⟨hKind, hRest⟩ := List.forall_mem_cons.mp (hQueue ▸ h.apiNodes)
  have hRequests := h.requests
  have hAnswers := h.answers
  have hAnswered := h.answered
  rw [hQueue] at hRequests
  rw [hThread] at hAnswers hAnswered
  exact {
    system := h.system
    requests := hRequests.dequeue (by rw [hThread]; rfl) hKind
    backend := h.backend.dequeue_other (by rw [hThread]; rfl) (by rw [hKind]; rfl)
    answers := hAnswers
    answered := hAnswered
    apiNodes := hRest
    evtNodes := h.evtNodes }

theorem dequeueEvt (h : Linearized modes es w) (hThread : w.thread = .notified) {node : SmNode}
    {rest : List SmNode} (hQueue : w.evtQueue = node :: rest) :
    Linearized modes es { w with evtQueue := rest, thread := .running node } := by
  obtain ⟨hKind, hRest⟩ := List.forall_mem_cons.mp (hQueue ▸ h.evtNodes)
  have hBackend := h.backend
  have hAnswers := h.answers
  have hAnswered := h.answered
  rw [hQueue] at hBackend
  rw [hThread] at hAnswers hAnswered
  exact {
    system := h.system
    requests := h.requests.dequeue_other (by rw [hThread]; rfl) hKind
    backend := hBackend.dequeue (by rw [hThread]; rfl) (by rw [hKind]; rfl)
    answers := hAnswers
    answered := hAnswered
    apiNodes := h.apiNodes
    evtNodes := hRest }

/-- The thread makes of a node what the one caller is told. -/
structure Made (w : HalCalls HardwareInterface) (node : SmNode) (r : HalAnswers)
    (w' : HalCalls HardwareInterface) : Prop where
  system : (⟨⟨w'.hal, w'.state⟩, w'.preparing⟩ : OneCaller) =
    OneCaller.step ⟨⟨w.hal, w.state⟩, w.preparing⟩ (.served node r)
  idle : w'.thread.node = none
  answer : w'.thread.answer = OneCaller.answer ⟨⟨w.hal, w.state⟩, w.preparing⟩ (.served node r)
  apiQueue : w'.apiQueue = w.apiQueue
  evtQueue : w'.evtQueue = w.evtQueue
  list : w'.apiResultList = w.apiResultList
  returned : w'.returned = w.returned
  answered : w'.answered = w.answered

theorem made_process (w : HalCalls HardwareInterface) (node : SmNode) (r : HalAnswers) :
    Made w node r
      (HalCalls.process { w with hal := { w.hal with outside := r } } parent r node) := by
  rw [HalCalls.process]
  rcases hSignal : (parent.stateMachine r node.payload { w.hal with outside := r } w.state
    node.evt).signal with _ | ⟨result⟩ | ⟨result⟩
  all_goals
    refine ⟨?_, rfl, ?_, rfl, rfl, rfl, rfl, rfl⟩
    · rw [OneCaller.step, HalSystem.result, hSignal]
      rfl
    · rw [OneCaller.answer, HalSystem.result, hSignal]
      rfl

theorem served (h : Linearized modes es w) {node : SmNode} (hThread : w.thread = .running node)
    {r : HalAnswers} (hMade : Made w node r w') :
    Linearized modes (es ++ [.served node r]) w' := by
  have hRequests := h.requests
  have hBackend := h.backend
  have hAnswers := h.answers
  have hAnswered := h.answered
  rw [hThread] at hRequests hBackend hAnswers hAnswered
  have hNew : (OneCaller.start modes).answers (es ++ [.served node r]) =
      (OneCaller.start modes).answers es ++ w'.thread.answer.toList := by
    rw [OneCaller.answers_append, OneCaller.answers_one, h.system, hMade.answer]
  exact {
    system := by
      rw [OneCaller.run_append, h.system, hMade.system]
      rfl
    requests := hMade.apiQueue ▸ hRequests.served r hMade.idle
    backend := hMade.evtQueue ▸ hBackend.served r hMade.idle
    answers := by
      rw [hNew, hMade.returned, hMade.list]
      refine List.Perm.append_right _ ?_
      rwa [show SmThread.answer (.running node) = none from rfl, Option.toList_none,
        List.append_nil] at hAnswers
    answered := by
      rw [hNew, List.filterMap_append, hAnswered, hMade.answered, Lib.filterMap_toList]
      exact congrArg (· ++ _) (List.append_nil _)
    apiNodes := hMade.apiQueue ▸ h.apiNodes
    evtNodes := hMade.evtQueue ▸ h.evtNodes }

theorem signal (h : Linearized modes es w) {answer : Answer}
    (hThread : w.thread = .signalling answer) :
    Linearized modes es { w with
      apiResultList := w.apiResultList ++ [answer]
      answered := w.answered ++ answer.request.toList
      callers := fun c => (w.callers c).wake
      thread := .waiting } := by
  have hRequests := h.requests
  have hBackend := h.backend
  have hAnswers := h.answers
  have hAnswered := h.answered
  rw [hThread] at hRequests hBackend hAnswers hAnswered
  exact {
    system := h.system
    requests := hRequests
    backend := hBackend
    answers := by
      rw [show SmThread.waiting.answer.toList = [] from rfl, List.append_nil, ← List.append_assoc]
      exact hAnswers
    answered := hAnswered.trans (List.append_nil _).symm
    apiNodes := h.apiNodes
    evtNodes := h.evtNodes }

theorem collect (h : Linearized modes es w) {c n : Nat} {evt : SmEvt} {answer : Answer}
    (hFound : (w.apiResultList.find? fun answer => answer.result.requestApi = evt) = some answer) :
    Linearized modes es { w.setCaller c .holding with
      mLock := some c
      apiResultList := w.apiResultList.eraseP fun answer => answer.result.requestApi = evt
      returned := w.returned ++ [(n, answer)] } :=
  { h with
    answers := by
      refine h.answers.trans (List.Perm.append_right _ ?_)
      rw [List.map_append, List.append_assoc]
      exact (Lib.perm_eraseP_of_find? hFound).append_left _ }

theorem live (h : Linearized modes es w) : Linearized modes (es ++ [.liveSnapshot])
    { w with hal := w.hal.takeLiveSnapshotInternal } where
  system := by
    rw [OneCaller.run_append, h.system]
    rfl
  requests := h.requests.live
  backend := h.backend.live
  answers := (h.silent _ fun _ => rfl).1
  answered := (h.silent _ fun _ => rfl).2
  apiNodes := h.apiNodes
  evtNodes := h.evtNodes

theorem next (h : Linearized modes es w) {i : Input HardwareInterface HalAnswers}
    (hServe : w.serve i = some w') : Linearized modes (es ++ w.events i) w' := by
  cases i with
  | lockAPI c | unlockAPI c =>
    simp only [serve, step, events, List.append_nil] at hServe ⊢
    split at hServe
    · cases hServe
      exact { h with }
    · cases hServe
  | processAPI c evt payload =>
    simp only [serve, step] at hServe
    split at hServe
    · cases hServe
      exact { h.procAPI evt payload with }
    · cases hServe
  | condWait c | wakeSpuriously c =>
    simp only [serve, step, events, List.append_nil] at hServe ⊢
    split at hServe
    · cases hServe
      exact { h with }
    · cases hServe
  | collect c =>
    simp only [serve, step, events, List.append_nil] at hServe ⊢
    split at hServe
    · split at hServe
      · cases hServe
        rw [collectResult]
        split
        · exact { h with }
        · rename_i answer hFound
          exact h.collect hFound
      · cases hServe
    · cases hServe
  | sendUnawaited evt =>
    simp only [serve, step] at hServe
    split at hServe
    · cases hServe
      exact h.procAPI evt {}
    · cases hServe
  | processEvt evt payload =>
    simp only [serve, step] at hServe
    split at hServe
    · cases hServe
      exact h.procEvt evt payload
    · cases hServe
  | post =>
    simp only [serve, step, events, List.append_nil] at hServe ⊢
    split at hServe
    · cases hServe
      exact { h with }
    · cases hServe
  | semWait =>
    simp only [serve, step, events, List.append_nil] at hServe ⊢
    split at hServe
    · rename_i hThread
      split at hServe
      · cases hServe
        have hMoved : Linearized modes es { w with thread := .notified } :=
          h.moveThread (by rw [hThread]; rfl) (by rw [hThread]; rfl)
        exact { hMoved with }
      · cases hServe
    · cases hServe
  | dequeue =>
    simp only [serve, step, events, List.append_nil] at hServe ⊢
    split at hServe
    · rename_i hThread
      split at hServe
      · rename_i _ node rest hQueue
        cases hServe
        exact h.dequeueApi hThread hQueue
      · rename_i node rest _ hQueue
        cases hServe
        exact h.dequeueEvt hThread hQueue
      · cases hServe
        exact h.moveThread (by rw [hThread]; rfl) (by rw [hThread]; rfl)
    · cases hServe
  | process r =>
    simp only [serve, step] at hServe
    split at hServe
    · rename_i node hThread
      cases hServe
      have hThread' : w.thread = .running node := hThread
      rw [events, hThread']
      exact h.served hThread' (made_process w node r)
    · cases hServe
  | signal =>
    simp only [serve, step, events, List.append_nil] at hServe ⊢
    split at hServe
    · rename_i answer hThread
      split at hServe
      · cases hServe
        exact h.signal hThread
      · cases hServe
    · cases hServe
  | changeHal hal =>
    cases hServe
    exact h.live

end Linearized

theorem start_linearized (modes : Modes) :
    Linearized modes [] (start { modes := modes } .previewStopped) where
  system := rfl
  requests := rfl
  backend := rfl
  answers := .nil
  answered := rfl
  apiNodes := by
    intro node hMem
    cases hMem
  evtNodes := by
    intro node hMem
    cases hMem

/-- Every run of the callers and the threads is a run of one caller. -/
theorem linearized_of_run {modes : Modes} {is : List (Input HardwareInterface HalAnswers)}
    {es : List CallEvent}
    (run : Lib.Steps Serves Lib.anyStep (start { modes := modes } .previewStopped) is es w) :
    Linearized modes es w := by
  refine run.history (I := fun _ es w => Linearized modes es w) (start_linearized modes) ?_
  rintro is es w i _ w' - h ⟨hServe, rfl⟩
  exact h.next hServe

/-- The preview is asked for while the daemon reports an event. -/
def previewAsked : List (Input HardwareInterface HalAnswers) :=
  [.processEvt .evtNotify {}, .lockAPI 0, .processAPI 0 .startPreview {}, .post, .condWait 0, .post,
    .semWait, .dequeue, .process {}, .changeHal {}, .signal, .semWait, .dequeue, .collect 0,
    .process {}, .unlockAPI 0]

theorem linearized_of_run_preview : ∃ w es, Linearized {} es w ∧
    w.returned = [(0, ⟨some 0, { status := noError, requestApi := .startPreview }⟩)] := by
  have run : Lib.Steps Serves Lib.anyStep (start { modes := {} } .previewStopped) previewAsked
      _ _ :=
    Lib.Steps.of_exec Serves Lib.anyStep
      (f := fun _ _ w i => (w.serve i).map fun w' => (w', w.events i))
      (fun _ _ _ _ w w' es h => by
        obtain ⟨_, hServe, hEq⟩ := Option.map_eq_some_iff.mp h
        cases hEq
        exact ⟨⟨hServe, rfl⟩, trivial⟩) rfl
  exact ⟨_, _, linearized_of_run run, rfl⟩

/-! ### The results of the callers -/

/-- The steps of the interface are steps of the calls on any interface. -/
theorem kept_serve (hPaired : Paired w) (hQueued : Queued w)
    {i : Input HardwareInterface HalAnswers} (hKeeps : w.KeepsAnswers i)
    (hServe : w.serve i = some w') : Paired w' ∧ Queued w' := by
  have hChanged : ∀ hal : HardwareInterface,
      Paired { w with hal := hal } ∧ Queued { w with hal := hal } := fun hal =>
    ⟨hPaired.next hQueued (h := parent) (i := .changeHal hal) trivial rfl,
      hQueued.next (h := parent) (i := .changeHal hal) trivial rfl⟩
  unfold serve at hServe
  split at hServe
  · rename_i r
    obtain ⟨hPaired', hQueued'⟩ := hChanged { w.hal with outside := r }
    have hKeeps' : KeepsAnswers { w with hal := { w.hal with outside := r } }
        (.process r : Input HardwareInterface HalAnswers) := fun node hThread => hKeeps node hThread
    exact ⟨hPaired'.next hQueued' hKeeps' hServe, hQueued'.next hKeeps' hServe⟩
  · cases hServe
    exact hChanged _
  · exact ⟨hPaired.next hQueued hKeeps hServe, hQueued.next hKeeps hServe⟩

/-- No request is answered twice. -/
theorem Linearized.nodup {modes : Modes} {es : List CallEvent} (h : Linearized modes es w)
    (hPaired : Paired w) :
    (((OneCaller.start modes).answers es).filterMap Answer.request).Nodup := by
  have hNodup := hPaired.answered.nodup_iff.mpr List.nodup_range
  have hThread : (w.thread.answer.bind Answer.request).toList.Sublist
      (w.unanswered.map Prod.fst) := by
    rw [unanswered, List.map_append, List.map_append]
    refine List.Sublist.trans ?_ (List.sublist_append_right _ _)
    refine List.Sublist.trans ?_ (List.sublist_append_left _ _)
    cases w.thread with
    | signalling answer =>
      change answer.request.toList.Sublist (answer.pending.toList.map Prod.fst)
      rw [Answer.pending]
      cases answer.request <;> exact .refl _
    | _ => exact List.nil_sublist _
  rw [h.answered]
  exact List.nodup_append_comm.mp (hNodup.sublist (hThread.append_right _))

/-- What a caller gets is what the one caller is told for the same request, and he is told nothing
else for it. -/
theorem own_result_of_run {modes : Modes} {is : List (Input HardwareInterface HalAnswers)}
    {es : List CallEvent}
    (run : Lib.Steps Serves (fun _ _ w i _ => w.KeepsAnswers i)
      (start { modes := modes } .previewStopped) is es w) {n : Nat} {answer : Answer}
    (hReturned : (n, answer) ∈ w.returned) (other : Answer) :
    other ∈ (OneCaller.start modes).answers es ∧ other.request = some n ↔ other = answer := by
  have hAll : Linearized modes es w ∧ Paired w ∧ Queued w := by
    refine run.history (I := fun _ es w => Linearized modes es w ∧ Paired w ∧ Queued w)
      ⟨start_linearized modes, start_paired _ _, start_queued _ (by decide)⟩ ?_
    rintro is es w i _ w' hKeeps ⟨h, hPaired, hQueued⟩ ⟨hServe, rfl⟩
    exact ⟨h.next hServe, kept_serve hPaired hQueued hKeeps hServe⟩
  obtain ⟨h, hPaired, -⟩ := hAll
  have hMem : answer ∈ (OneCaller.start modes).answers es := by
    rw [h.answers.mem_iff, List.append_assoc]
    exact List.mem_append_left _ (List.mem_map_of_mem hReturned)
  have hRequest := hPaired.returned _ hReturned
  constructor
  · rintro ⟨hOther, hSame⟩
    exact Lib.eq_of_nodup_filterMap (h.nodup hPaired) hOther hMem hSame hRequest
  · rintro rfl
    exact ⟨hMem, hRequest⟩

theorem own_result_of_run_preview : ∃ es, ∀ other : Answer,
    other ∈ (OneCaller.start {}).answers es ∧ other.request = some 0 ↔
      other = ⟨some 0, { status := noError, requestApi := .startPreview }⟩ := by
  have hAlone : ∀ c x, (Function.update (fun _ => Caller.out) 0 .holding c).request ≠ some x := by
    intro c x hRequest
    by_cases hSame : c = 0
    · rw [hSame] at hRequest
      cases hRequest
    · rw [Function.update_of_ne hSame] at hRequest
      cases hRequest
  have locked : Lib.Steps Serves (fun _ _ w i _ => w.KeepsAnswers i)
      (start { modes := {} } .previewStopped) _ _ _ :=
    .step .start trivial (i := Input.lockAPI 0) ⟨rfl, rfl⟩
  have sent : Lib.Steps Serves (fun _ _ w i _ => w.KeepsAnswers i)
      (start { modes := {} } .previewStopped) _ _ _ :=
    locked.step (fun c n => hAlone c (n, .startPreview))
      (i := Input.processAPI 0 .startPreview {}) ⟨rfl, rfl⟩
  have waits : Lib.Steps Serves (fun _ _ w i _ => w.KeepsAnswers i)
      (start { modes := {} } .previewStopped) _ _ _ :=
    sent.step trivial (i := Input.condWait 0) ⟨rfl, rfl⟩
  have posted : Lib.Steps Serves (fun _ _ w i _ => w.KeepsAnswers i)
      (start { modes := {} } .previewStopped) _ _ _ :=
    waits.step trivial (i := Input.post) ⟨rfl, rfl⟩
  have notified : Lib.Steps Serves (fun _ _ w i _ => w.KeepsAnswers i)
      (start { modes := {} } .previewStopped) _ _ _ :=
    posted.step trivial (i := Input.semWait) ⟨rfl, rfl⟩
  have running : Lib.Steps Serves (fun _ _ w i _ => w.KeepsAnswers i)
      (start { modes := {} } .previewStopped) _ _ _ :=
    notified.step trivial (i := Input.dequeue) ⟨rfl, rfl⟩
  have processed : Lib.Steps Serves (fun _ _ w i _ => w.KeepsAnswers i)
      (start { modes := {} } .previewStopped) _ _ _ :=
    running.step (fun node hNode hBoth => by cases hNode; cases hBoth.1)
      (i := Input.process {}) ⟨rfl, rfl⟩
  have signalled : Lib.Steps Serves (fun _ _ w i _ => w.KeepsAnswers i)
      (start { modes := {} } .previewStopped) _ _ _ :=
    processed.step trivial (i := Input.signal) ⟨rfl, rfl⟩
  have run : Lib.Steps Serves (fun _ _ w i _ => w.KeepsAnswers i)
      (start { modes := {} } .previewStopped) _ _ _ :=
    signalled.step trivial (i := Input.collect 0) ⟨rfl, rfl⟩
  exact ⟨_, own_result_of_run run (List.mem_singleton.mpr rfl)⟩

/-- The channels of the recording agree with the state at every moment. -/
theorem Linearized.agrees {modes : Modes} {es : List CallEvent} (h : Linearized modes es w) :
    HalSystem.Agrees ⟨w.hal, w.state⟩ := by
  have hAgrees := HalSystem.Agrees.run (w := HalSystem.start modes) ⟨rfl, rfl, rfl⟩
    (es.filterMap CallEvent.input)
  have hSystem : ⟨w.hal, w.state⟩ = (HalSystem.start modes).run (es.filterMap CallEvent.input) := by
    rw [← show (OneCaller.start modes).system = HalSystem.start modes from rfl,
      ← OneCaller.run_system, h.system]
  rw [hSystem]
  exact hAgrees

end HalCalls

end KiwiDevice.Hal

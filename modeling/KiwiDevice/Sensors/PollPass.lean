import KiwiDevice.Lib.Lists
import KiwiDevice.Lib.Loop
import KiwiDevice.Sensors.MultihalRuns
import Mathlib.Data.Int.CardIntervalMod

/-!
# One pass of poll

The inner loop of `poll` turns to one queue after the other, until enough events are read or every
queue was found empty. Turn `m` is for the event at place `m / n` of its queue, where `n` is the
number of queues, so the order of the events is known from the queues alone. The check for an
unknown sensor looks at the sensor field of every event, also of those that carry their handle in
the payload.
-/

namespace KiwiDevice.Sensors

open Lib

/-- The sensor of an event of the queue has a global handle. -/
def Registered (t : HandleTables) (p : Nat × SensorsEvent) : Prop :=
  (t.fullToGlobal ⟨p.1, p.2.source⟩).isSome = true

instance (t : HandleTables) (p : Nat × SensorsEvent) : Decidable (Registered t p) :=
  inferInstanceAs (Decidable (_ = true))

/-- The event with the global handle of its sensor, if that is registered. -/
def wanted (t : HandleTables) (p : Nat × SensorsEvent) : Option SensorsEvent :=
  (t.fullToGlobal ⟨p.1, p.2.source⟩).map p.2.setSource

/-- The sensor field of a meta-data event is `-1` just when its sensor is not registered. -/
def MetaMarked (t : HandleTables) (p : Nat × SensorsEvent) : Prop :=
  p.2.type = sensorTypeMetaData → (p.2.sensor ≠ -1 ↔ Registered t p)

instance (t : HandleTables) (p : Nat × SensorsEvent) : Decidable (MetaMarked t p) :=
  inferInstanceAs (Decidable (_ → (_ ↔ _)))

section Check

variable {t : HandleTables} {p : Nat × SensorsEvent}

theorem source_setSource (e : SensorsEvent) (g : Int) : (e.setSource g).source = g := by
  by_cases hMeta : e.type = sensorTypeMetaData
  · simp [SensorsEvent.setSource, SensorsEvent.source, hMeta]
  · simp [SensorsEvent.setSource, SensorsEvent.source, hMeta]

/-- What `poll` delivers of an event is the wanted one, or nothing, if its sensor is registered. -/
theorem delivered_of_registered (h : Registered t p) :
    p.2.delivered t p.1 = none ∨ p.2.delivered t p.1 = wanted t p := by
  obtain ⟨g, hg⟩ := Option.isSome_iff_exists.mp h
  have hCopy : p.2.copyEventRemapHandle t p.1 = p.2.setSource g := by
    rw [SensorsEvent.copyEventRemapHandle, HandleTables.getGlobalHandle, hg, Option.getD_some]
  rw [SensorsEvent.delivered, wanted, hg, hCopy]
  by_cases hSensor : (p.2.setSource g).sensor = -1
  · exact .inl (if_pos hSensor)
  · exact .inr (if_neg hSensor)

theorem delivered_of_not_registered (h : ¬ Registered t p) {e : SensorsEvent}
    (hDelivered : p.2.delivered t p.1 = some e) : e.source = -1 := by
  have hNone : t.fullToGlobal ⟨p.1, p.2.source⟩ = none := by
    rwa [Registered, Option.not_isSome_iff_eq_none] at h
  rw [SensorsEvent.delivered] at hDelivered
  split at hDelivered
  · cases hDelivered
  · cases hDelivered
    rw [SensorsEvent.copyEventRemapHandle, source_setSource, HandleTables.getGlobalHandle, hNone]
    rfl

theorem delivered_eq_wanted_iff (hPos : ∀ f g, t.fullToGlobal f = some g → 1 ≤ g) :
    p.2.delivered t p.1 = wanted t p ↔ MetaMarked t p := by
  rw [MetaMarked, Registered, wanted, SensorsEvent.delivered, SensorsEvent.copyEventRemapHandle,
    HandleTables.getGlobalHandle]
  cases hFull : t.fullToGlobal ⟨p.1, p.2.source⟩ with
  | none =>
    by_cases hMeta : p.2.type = sensorTypeMetaData
    · simp [SensorsEvent.setSource, hMeta]
    · simp [SensorsEvent.setSource, hMeta]
  | some g =>
    have hg := hPos _ _ hFull
    by_cases hMeta : p.2.type = sensorTypeMetaData
    · simp [SensorsEvent.setSource, hMeta]
    · have hNe : g ≠ -1 := by omega
      simp [SensorsEvent.setSource, hMeta, hNe]

end Check

namespace PollState

/-- One round of the inner loop, with the events delivered so far. -/
def readPass (t : HandleTables) (maxReads : Nat) (p : PollState × List SensorsEvent) :
    Option (PollState × List SensorsEvent) :=
  (p.1.step t maxReads .read).map fun r => (r.1, p.2 ++ r.2)

section Turns

variable (queues : List (List SensorsEvent)) (nextReadIndex : Nat)

/-- The event that comes up in the turn, with its queue. -/
def upAt (m : Nat) : Option (Nat × SensorsEvent) :=
  let i := (nextReadIndex + m) % queues.length
  ((queues[i]?.getD [])[m / queues.length]?).map fun e => (i, e)

/-- The events that come up before turn `m`. -/
def cameUp (m : Nat) : List (Nat × SensorsEvent) :=
  (List.range m).filterMap (upAt queues nextReadIndex)

/-- The turns for the queue before turn `m`. -/
def visits (i m : Nat) : Nat := Nat.count (fun k => (nextReadIndex + k) % queues.length = i) m

/-- Among the events that come up before `maxReads` of registered sensors have, the meta-data events
are marked. -/
def MetaChecked (t : HandleTables) (maxReads : Nat) : Prop :=
  ∀ m p, upAt queues nextReadIndex m = some p →
    (cameUp queues nextReadIndex m).countP (fun p => Registered t p) < maxReads → MetaMarked t p

end Turns

/-- The pass has merged the queues: of each queue it has taken a first part, in order, and delivered
what is registered. -/
structure Merges (t : HandleTables) (maxReads : Nat) (queues : List (List SensorsEvent))
    (r : PollState) (out : List SensorsEvent) : Prop where
  atMost : out.length ≤ maxReads
  delivered : out = r.taken.filterMap (wanted t)
  in_order : ∀ i, queues[i]?.getD [] = r.takenFrom i ++ r.queueAt i
  named : ∀ e ∈ out, ∃ f, t.globalToFull e.source = some f
  ended : out.length = maxReads ∨ ∀ i, r.queueAt i = []
  fair : ∀ before i e between e' after,
    r.taken = before ++ (i, e) :: (between ++ (i, e') :: after) →
      i ∉ between.map Prod.fst → (between.map Prod.fst).Nodup

section Order

variable {queues : List (List SensorsEvent)} {nextReadIndex m : Nat} {p : Nat × SensorsEvent}

theorem cameUp_succ : cameUp queues nextReadIndex (m + 1) =
    cameUp queues nextReadIndex m ++ (upAt queues nextReadIndex m).toList := by
  rw [cameUp, List.range_succ, List.filterMap_append]
  cases hUp : upAt queues nextReadIndex m with
  | none => simp [hUp, cameUp]
  | some p => simp [hUp, cameUp]

theorem mem_cameUp : p ∈ cameUp queues nextReadIndex m ↔
    ∃ k < m, upAt queues nextReadIndex k = some p := by
  simp [cameUp]

variable (queues nextReadIndex) in
theorem cameUp_extends {m' : Nat} (h : m ≤ m') :
    cameUp queues nextReadIndex m <+: cameUp queues nextReadIndex m' := by
  induction m', h using Nat.le_induction with
  | base => exact List.prefix_rfl
  | succ k _ ih =>
    rw [cameUp_succ]
    exact ih.trans (List.prefix_append _ _)

variable (nextReadIndex) in
/-- The turns before `m` for the queue of turn `m`. -/
theorem visits_own (hPos : 0 < queues.length) :
    visits queues nextReadIndex ((nextReadIndex + m) % queues.length) m = m / queues.length := by
  have hSame : ∀ k, (nextReadIndex + k) % queues.length = (nextReadIndex + m) % queues.length ↔
      k ≡ m [MOD queues.length] := by
    intro k
    exact ⟨Nat.ModEq.add_left_cancel' nextReadIndex, Nat.ModEq.add_left nextReadIndex⟩
  simp only [visits, hSame]
  rw [Nat.count_modEq_card _ hPos, if_neg (lt_irrefl _), Nat.add_zero]

/-- A queue that has nothing for one turn has nothing for its later ones. -/
theorem upAt_none_add (hPos : 0 < queues.length) (h : upAt queues nextReadIndex m = none)
    (k : Nat) : upAt queues nextReadIndex (m + queues.length * k) = none := by
  have hIndex : (nextReadIndex + (m + queues.length * k)) % queues.length =
      (nextReadIndex + m) % queues.length := by
    rw [← Nat.add_assoc, Nat.add_mul_mod_self_left]
  rw [upAt, Option.map_eq_none_iff, List.getElem?_eq_none_iff] at h ⊢
  rw [hIndex, Nat.add_mul_div_left _ _ hPos]
  exact h.trans (Nat.le_add_right _ _)

theorem upAt_index (h : upAt queues nextReadIndex m = some p) :
    p.1 = (nextReadIndex + m) % queues.length := by
  obtain ⟨_, -, rfl⟩ := Option.map_eq_some_iff.mp h
  rfl

theorem modEq_of_sameQueue {m' : Nat} {i : Nat} {e e' : SensorsEvent}
    (h : upAt queues nextReadIndex m = some (i, e))
    (h' : upAt queues nextReadIndex m' = some (i, e')) : m ≡ m' [MOD queues.length] := by
  have hIndex : i = _ := upAt_index h
  have hIndex' : i = _ := upAt_index h'
  exact Nat.ModEq.add_left_cancel' nextReadIndex (hIndex.symm.trans hIndex')

/-- Between two events of one queue, with none of it in between, there are fewer turns than
queues. -/
theorem turn_le_of_sameQueue (hPos : 0 < queues.length) {m₁ m₂ : Nat} {i : Nat}
    {e e' : SensorsEvent} (h₁ : upAt queues nextReadIndex m₁ = some (i, e))
    (h₂ : upAt queues nextReadIndex m₂ = some (i, e'))
    (hNone : ∀ k, m₁ < k → k < m₂ → ∀ e, upAt queues nextReadIndex k ≠ some (i, e)) :
    m₂ ≤ m₁ + queues.length := by
  by_contra hFar
  have hBetween : m₁ + queues.length < m₂ := not_le.mp hFar
  obtain ⟨k, hk⟩ := (Nat.modEq_iff_dvd' (by omega)).mp (modEq_of_sameQueue h₁ h₂)
  cases hUp : upAt queues nextReadIndex (m₁ + queues.length) with
  | none =>
    have hLater := upAt_none_add hPos hUp (k - 1)
    have hTurn : m₁ + queues.length + queues.length * (k - 1) = m₂ := by
      cases k with
      | zero => omega
      | succ k =>
        rw [Nat.mul_succ] at hk
        simp only [Nat.add_sub_cancel]
        omega
    rw [hTurn, h₂] at hLater
    cases hLater
  | some p =>
    have hIndex : p.1 = i := by
      rw [upAt_index hUp, ← Nat.add_assoc, Nat.add_mod_right]
      exact (upAt_index h₁).symm
    exact hNone _ (by omega) hBetween p.2 (by rw [hUp, ← hIndex])

/-- Between two events taken from one queue, with none of it in between, every other queue has one
event at most. -/
theorem cameUp_fair (hPos : 0 < queues.length) {before between after : List (Nat × SensorsEvent)}
    {i : Nat} {e e' : SensorsEvent}
    (h : cameUp queues nextReadIndex m = before ++ (i, e) :: (between ++ (i, e') :: after))
    (hNone : i ∉ between.map Prod.fst) : (between.map Prod.fst).Nodup := by
  obtain ⟨l₁, l₂, hRange, -, hRest⟩ := List.filterMap_eq_append_iff.mp h
  obtain ⟨skipped, m₁, l₃, rfl, -, hFirst, hRest⟩ := List.filterMap_eq_cons_iff.mp hRest
  obtain ⟨turns, l₄, rfl, hBetween, hRest⟩ := List.filterMap_eq_append_iff.mp hRest
  obtain ⟨idle, m₂, l₅, rfl, hIdle, hSecond, -⟩ := List.filterMap_eq_cons_iff.mp hRest
  have hSorted : (turns ++ (idle ++ m₂ :: l₅)).Pairwise (· < ·) ∧
      ∀ k ∈ turns ++ (idle ++ m₂ :: l₅), m₁ < k := by
    have hAll := List.pairwise_lt_range (n := m)
    rw [hRange] at hAll
    have hTail := (List.pairwise_append.mp (List.pairwise_append.mp hAll).2.1).2.1
    exact ⟨(List.pairwise_cons.mp hTail).2, (List.pairwise_cons.mp hTail).1⟩
  have hBefore : ∀ k ∈ turns, m₁ < k ∧ k < m₂ := by
    intro k hMem
    refine ⟨hSorted.2 k (List.mem_append_left _ hMem), ?_⟩
    exact (List.pairwise_append.mp hSorted.1).2.2 k hMem m₂
      (List.mem_append_right _ List.mem_cons_self)
  have hNear : m₂ ≤ m₁ + queues.length := by
    apply turn_le_of_sameQueue hPos hFirst hSecond
    intro k hLow hHigh e hUp
    have hAll := List.pairwise_lt_range (n := m)
    rw [hRange] at hAll
    have hEarlier := (List.pairwise_append.mp hAll).2.2
    have hSkipped := (List.pairwise_append.mp (List.pairwise_append.mp hAll).2.1).2.2
    have hLater := (List.pairwise_append.mp (List.pairwise_append.mp hSorted.1).2.1).2.1
    have hLast : m₂ ∈ List.range m := by
      rw [hRange]
      simp
    have hMem : k ∈ List.range m := List.mem_range.mpr (hHigh.trans (List.mem_range.mp hLast))
    rw [hRange] at hMem
    simp only [List.mem_append, List.mem_cons] at hMem
    rcases hMem with hMem | hMem | rfl | hMem | hMem | rfl | hMem
    · exact absurd (hEarlier k hMem m₁ (by simp)) hLow.not_gt
    · exact absurd (hSkipped k hMem m₁ List.mem_cons_self) hLow.not_gt
    · exact absurd hLow (lt_irrefl _)
    · apply hNone
      rw [← hBetween]
      exact List.mem_map.mpr ⟨(i, e), List.mem_filterMap.mpr ⟨k, hMem, hUp⟩, rfl⟩
    · rw [hIdle k hMem] at hUp
      cases hUp
    · exact absurd hHigh (lt_irrefl _)
    · exact absurd ((List.pairwise_cons.mp hLater).1 k hMem) hHigh.not_gt
  subst hBetween
  rw [List.Nodup, List.pairwise_map]
  have hTurns : turns.Pairwise fun x y => x < y ∧ y < x + queues.length := by
    apply (List.pairwise_append.mp hSorted.1).1.imp_of_mem
    intro x y hx hy hLt
    have hLow := hBefore x hx
    have hHigh := hBefore y hy
    exact ⟨hLt, by omega⟩
  apply hTurns.filterMap
  rintro x y ⟨hLt, hClose⟩ ⟨j, e⟩ hx ⟨j', e'⟩ hy (rfl : j = j')
  have hDvd := (Nat.modEq_iff_dvd' hLt.le).mp (modEq_of_sameQueue hx hy)
  have hLe := Nat.le_of_dvd (by omega) hDvd
  omega

end Order

section Pass

variable {t : HandleTables} {maxReads : Nat} {queues : List (List SensorsEvent)}
  {nextReadIndex m : Nat} {s s' : PollState} {out o : List SensorsEvent}

/-- The state before turn `m`. -/
structure AtTurn (t : HandleTables) (queues : List (List SensorsEvent)) (nextReadIndex m : Nat)
    (s : PollState) (out : List SensorsEvent) : Prop where
  index : s.nextReadIndex = (nextReadIndex + m) % queues.length
  length : s.queues.length = queues.length
  rest : ∀ i, s.queueAt i = (queues[i]?.getD []).drop (visits queues nextReadIndex i m)
  taken : s.taken = cameUp queues nextReadIndex m
  polls : Polls t (start queues nextReadIndex) (List.replicate m .read) out s
  read : s.eventsRead = out.length
  empties : ∀ k < s.empties, k < m ∧ upAt queues nextReadIndex (m - 1 - k) = none

theorem atTurn_start (t : HandleTables) (h : nextReadIndex < queues.length) :
    AtTurn t queues nextReadIndex 0 (start queues nextReadIndex) [] where
  index := (Nat.mod_eq_of_lt h).symm
  length := rfl
  rest := fun i => by rw [visits, Nat.count_zero]; rfl
  taken := rfl
  polls := ⟨rfl, fun _ => List.append_nil _⟩
  read := rfl
  empties := fun k hk => absurd hk (Nat.not_lt_zero k)

/-- What a round does. -/
inductive ReadStep (t : HandleTables) (s : PollState) : PollState → List SensorsEvent → Prop where
  | empty (h : s.queueAt s.nextReadIndex = []) :
    ReadStep t s { s with
      empties := s.empties + 1
      nextReadIndex := (s.nextReadIndex + 1) % s.queues.length } []
  | event {e : SensorsEvent} {rest : List SensorsEvent}
      (h : s.queueAt s.nextReadIndex = e :: rest) :
    ReadStep t s {
      queues := s.queues.set s.nextReadIndex rest
      nextReadIndex := (s.nextReadIndex + 1) % s.queues.length
      empties := 0
      eventsRead := s.eventsRead + (e.delivered t s.nextReadIndex).toList.length
      taken := s.taken ++ [(s.nextReadIndex, e)] } (e.delivered t s.nextReadIndex).toList

theorem read_cases (h : s.step t maxReads .read = some (s', o)) :
    (s.empties < s.queues.length ∧ s.eventsRead < maxReads) ∧ ReadStep t s s' o := by
  rw [step] at h
  split at h
  · rename_i hGuard
    refine ⟨hGuard, ?_⟩
    cases hQueue : s.queues[s.nextReadIndex]? with
    | none =>
      rw [hQueue] at h
      cases h
    | some events =>
      rw [hQueue] at h
      cases events with
      | nil =>
        cases h
        exact .empty (by rw [queueAt, hQueue]; rfl)
      | cons e rest =>
        cases h
        exact .event (by rw [queueAt, hQueue]; rfl)
  · cases h

theorem getElem?_of_queueAt {i : Nat} {e : SensorsEvent} {rest : List SensorsEvent}
    (h : s.queueAt i = e :: rest) : s.queues[i]? = some (e :: rest) := by
  rw [queueAt] at h
  cases hQueue : s.queues[i]? with
  | none =>
    rw [hQueue] at h
    cases h
  | some events =>
    rw [hQueue] at h
    exact congrArg some h

theorem AtTurn.upAt_eq (hPos : 0 < queues.length) (h : AtTurn t queues nextReadIndex m s out) :
    upAt queues nextReadIndex m =
      (s.queueAt s.nextReadIndex).head?.map fun e => (s.nextReadIndex, e) := by
  rw [h.rest, h.index, visits_own _ hPos, List.head?_drop]
  rfl

theorem visits_succ (i : Nat) : visits queues nextReadIndex i (m + 1) =
    visits queues nextReadIndex i m + if (nextReadIndex + m) % queues.length = i then 1 else 0 :=
  Nat.count_succ _ _

theorem AtTurn.next (hPos : 0 < queues.length) (h : AtTurn t queues nextReadIndex m s out)
    (hStep : s.step t maxReads .read = some (s', o)) :
    AtTurn t queues nextReadIndex (m + 1) s' (out ++ o) := by
  have hHead := h.upAt_eq hPos
  have hPolls : Polls t (start queues nextReadIndex) (List.replicate (m + 1) .read) (out ++ o)
      s' := by
    rw [List.replicate_succ']
    exact h.polls.next hStep
  have hIndex : (s.nextReadIndex + 1) % s.queues.length =
      (nextReadIndex + (m + 1)) % queues.length := by
    rw [h.index, h.length, Nat.mod_add_mod, Nat.add_assoc]
  have hRest : ∀ i, (s.queueAt i).drop (if s.nextReadIndex = i then 1 else 0) =
      (queues[i]?.getD []).drop (visits queues nextReadIndex i (m + 1)) := by
    intro i
    rw [visits_succ, ← List.drop_drop, ← h.rest, h.index]
  cases (read_cases hStep).2 with
  | empty hEmpty =>
    rw [hEmpty] at hHead
    refine ⟨hIndex, h.length, ?_, ?_, hPolls, ?_, ?_⟩
    · intro i
      rw [← hRest i]
      split
      · rename_i hSame
        change s.queueAt i = _
        rw [← hSame, hEmpty]
        rfl
      · rfl
    · rw [cameUp_succ, hHead]
      exact h.taken.trans (List.append_nil _).symm
    · rw [List.append_nil]
      exact h.read
    · rintro (_ | k) hk
      · exact ⟨Nat.succ_pos m, hHead⟩
      · obtain ⟨hLt, hNone⟩ := h.empties k (Nat.lt_of_succ_lt_succ hk)
        refine ⟨Nat.succ_lt_succ hLt, ?_⟩
        rw [← hNone]
        congr 1
        omega
  | @event e rest hEvent =>
    rw [hEvent] at hHead
    refine ⟨hIndex, ?_, ?_, ?_, hPolls, ?_, ?_⟩
    · rw [List.length_set]
      exact h.length
    · intro i
      rw [← hRest i]
      refine (queueAt_set (getElem?_of_queueAt hEvent) rest i).trans ?_
      split
      · rename_i hSame
        rw [← hSame, hEvent]
        rfl
      · rfl
    · rw [cameUp_succ, hHead, ← h.taken]
      rfl
    · rw [List.length_append, ← h.read]
    · intro k hk
      exact absurd hk (Nat.not_lt_zero k)

theorem AtTurn.index_lt (hPos : 0 < queues.length) (h : AtTurn t queues nextReadIndex m s out) :
    s.nextReadIndex < s.queues.length := by
  rw [h.index, h.length]
  exact Nat.mod_lt _ hPos

theorem AtTurn.out_eq (h : AtTurn t queues nextReadIndex m s out) :
    out = (cameUp queues nextReadIndex m).filterMap fun p => p.2.delivered t p.1 := by
  rw [← h.taken]
  exact h.polls.returned

theorem read_none (h : s.step t maxReads .read = none)
    (hIndex : s.nextReadIndex < s.queues.length) :
    s.queues.length ≤ s.empties ∨ maxReads ≤ s.eventsRead := by
  by_contra hGuard
  rw [not_or, not_le, not_le] at hGuard
  rw [step, if_pos hGuard, List.getElem?_eq_getElem hIndex] at h
  split at h <;> simp_all

/-- A round leaves fewer events or comes nearer to having found all queues empty. -/
def readsLeft (p : PollState × List SensorsEvent) : Nat :=
  p.1.queues.flatten.length * (p.1.queues.length + 1) + (p.1.queues.length - p.1.empties)

theorem length_flatten_set {queues : List (List SensorsEvent)} {i : Nat} {e : SensorsEvent}
    {rest : List SensorsEvent} (h : queues[i]? = some (e :: rest)) :
    queues.flatten.length = (queues.set i rest).flatten.length + 1 := by
  induction queues generalizing i with
  | nil => cases h
  | cons first queues ih =>
    cases i with
    | zero =>
      cases h
      simp only [List.set_cons_zero, List.flatten_cons, List.length_append, List.length_cons]
      omega
    | succ i =>
      have hRest := ih h
      simp only [List.set_cons_succ, List.flatten_cons, List.length_append, hRest]
      omega

theorem readsLeft_lt (h : s.step t maxReads .read = some (s', o)) :
    readsLeft (s', out ++ o) < readsLeft (s, out) := by
  obtain ⟨⟨hEmpties, -⟩, hRead⟩ := read_cases h
  cases hRead with
  | empty _ =>
    simp only [readsLeft]
    omega
  | event hEvent =>
    simp only [readsLeft, List.length_set, length_flatten_set (getElem?_of_queueAt hEvent),
      Nat.succ_mul]
    omega

/-- The pass comes to an end. -/
theorem exists_exits (t : HandleTables) (maxReads : Nat) (s : PollState) :
    ∃ r out, Loop.Exits (readPass t maxReads) (s, []) (r, out) := by
  obtain ⟨⟨r, out⟩, hExec⟩ := Loop.exec_isSome (readPass t maxReads) readsLeft (fun _ => True)
    (fun _ _ _ _ => trivial) (fun a b _ hPass => by
      obtain ⟨⟨s', o⟩, hStep, rfl⟩ := Option.map_eq_some_iff.mp hPass
      exact readsLeft_lt hStep) trivial (Nat.lt_succ_self (readsLeft (s, [])))
  exact ⟨r, out, Loop.exec_exits hExec⟩

/-- The pass ends before a turn, with enough events or none in the last turn of each queue. -/
structure Ended (t : HandleTables) (maxReads : Nat) (queues : List (List SensorsEvent))
    (nextReadIndex m : Nat) (r : PollState) (out : List SensorsEvent) : Prop where
  atTurn : AtTurn t queues nextReadIndex m r out
  before : ∀ k < m, ((cameUp queues nextReadIndex k).filterMap fun p =>
    p.2.delivered t p.1).length < maxReads
  atMost : out.length ≤ maxReads
  why : maxReads ≤ out.length ∨ ∀ k < queues.length, k < m ∧
    upAt queues nextReadIndex (m - 1 - k) = none

theorem ended_of_exits (hPos : nextReadIndex < queues.length) {r : PollState}
    (h : Loop.Exits (readPass t maxReads) (start queues nextReadIndex, []) (r, out)) :
    ∃ m, Ended t maxReads queues nextReadIndex m r out := by
  have hLength : 0 < queues.length := Nat.zero_lt_of_lt hPos
  have hTurn : ∃ m, AtTurn t queues nextReadIndex m r out ∧ (∀ k < m,
      ((cameUp queues nextReadIndex k).filterMap fun p => p.2.delivered t p.1).length < maxReads) ∧
      out.length ≤ maxReads := by
    refine h.invariant (fun p => ∃ m, AtTurn t queues nextReadIndex m p.1 p.2 ∧ (∀ k < m,
      ((cameUp queues nextReadIndex k).filterMap fun p => p.2.delivered t p.1).length < maxReads) ∧
      p.2.length ≤ maxReads) ?_ ⟨0, atTurn_start t hPos, by simp, Nat.zero_le _⟩
    rintro ⟨s, out⟩ b ⟨m, hAt, hBefore, -⟩ hPass
    obtain ⟨⟨s', o⟩, hStep, rfl⟩ := Option.map_eq_some_iff.mp hPass
    obtain ⟨⟨-, hGuard⟩, hRead⟩ := read_cases hStep
    have hLt : out.length < maxReads := hAt.read ▸ hGuard
    refine ⟨m + 1, hAt.next hLength hStep, ?_, ?_⟩
    · intro k hk
      rcases Nat.lt_succ_iff_lt_or_eq.mp hk with hLt' | rfl
      · exact hBefore k hLt'
      · rwa [← hAt.out_eq]
    · have hOne : o.length ≤ 1 := by
        cases hRead with
        | empty _ => exact Nat.zero_le 1
        | event _ => exact Option.length_toList_le
      change (out ++ o).length ≤ maxReads
      rw [List.length_append]
      omega
  obtain ⟨m, hAt, hBefore, hMost⟩ := hTurn
  refine ⟨m, hAt, hBefore, hMost, ?_⟩
  have hStop := Option.map_eq_none_iff.mp h.guard
  rcases read_none hStop (hAt.index_lt hLength) with hEmpty | hEnough
  · right
    intro k hk
    have hFound : queues.length ≤ r.empties := hAt.length ▸ hEmpty
    exact hAt.empties k (hk.trans_le hFound)
  · left
    rwa [hAt.read] at hEnough

variable {r : PollState}

theorem exists_turn (hPos : 0 < queues.length) (a : Nat) {i : Nat} (hi : i < queues.length) :
    ∃ j < queues.length, (a + j) % queues.length = i := by
  have hLt := Nat.mod_lt a hPos
  refine ⟨(i + (queues.length - a % queues.length)) % queues.length, Nat.mod_lt _ hPos, ?_⟩
  have hSum : a % queues.length + (i + (queues.length - a % queues.length)) =
      i + queues.length := by
    omega
  rw [Nat.add_mod_mod, ← Nat.mod_add_mod, hSum, Nat.add_mod_right, Nat.mod_eq_of_lt hi]

theorem Ended.empty (hPos : 0 < queues.length) (h : Ended t maxReads queues nextReadIndex m r out)
    (hNone : ∀ k < queues.length, k < m ∧ upAt queues nextReadIndex (m - 1 - k) = none) (i : Nat) :
    r.queueAt i = [] := by
  rw [h.atTurn.rest]
  rcases lt_or_ge i queues.length with hi | hi
  · obtain ⟨hEnough, -⟩ := hNone (queues.length - 1) (by omega)
    obtain ⟨j, hj, hIndex⟩ := exists_turn hPos (nextReadIndex + (m - queues.length)) hi
    obtain ⟨-, hUp⟩ := hNone (queues.length - 1 - j) (by omega)
    have hTurn : m - 1 - (queues.length - 1 - j) = m - queues.length + j := by omega
    rw [Nat.add_assoc] at hIndex
    rw [hTurn, upAt, hIndex, Option.map_eq_none_iff, List.getElem?_eq_none_iff] at hUp
    apply List.drop_eq_nil_of_le
    apply hUp.trans
    rw [← visits_own nextReadIndex hPos, hIndex]
    exact Nat.count_monotone _ (by omega)
  · rw [List.getElem?_eq_none hi]
    exact List.drop_nil

/-- A turn after the end has no event when every queue was found empty. -/
theorem upAt_none_of_le (hPos : 0 < queues.length)
    (hNone : ∀ k < queues.length, k < m ∧ upAt queues nextReadIndex (m - 1 - k) = none) {k : Nat}
    (hLe : m ≤ k) : upAt queues nextReadIndex k = none := by
  obtain ⟨hEnough, -⟩ := hNone (queues.length - 1) (by omega)
  have hLt := Nat.mod_lt (k - (m - queues.length)) hPos
  have hSplit := Nat.mod_add_div (k - (m - queues.length)) queues.length
  obtain ⟨-, hUp⟩ := hNone (queues.length - 1 - (k - (m - queues.length)) % queues.length)
    (by omega)
  have hLater := upAt_none_add hPos hUp ((k - (m - queues.length)) / queues.length)
  rw [← hLater]
  congr 1
  omega

theorem metaChecked_of_marked (h : ∀ i, ∀ e ∈ queues[i]?.getD [], MetaMarked t (i, e)) :
    MetaChecked queues nextReadIndex t maxReads := by
  intro m p hUp _
  obtain ⟨e, hAt, rfl⟩ := Option.map_eq_some_iff.mp hUp
  exact h _ e (List.mem_of_getElem? hAt)

theorem countP_registered (l : List (Nat × SensorsEvent)) :
    l.countP (fun p => Registered t p) = (l.filterMap (wanted t)).length := by
  rw [List.length_filterMap_eq_countP]
  apply List.countP_congr
  intro p _
  rw [decide_eq_true_iff, Registered, wanted, Option.isSome_map]

theorem length_delivered (hPos : ∀ f g, t.fullToGlobal f = some g → 1 ≤ g)
    {l : List (Nat × SensorsEvent)} (h : ∀ p ∈ l, MetaMarked t p) :
    l.filterMap (fun p => p.2.delivered t p.1) = l.filterMap (wanted t) :=
  List.filterMap_congr fun p hMem => (delivered_eq_wanted_iff hPos).mpr (h p hMem)

theorem Ended.marked_iff (hLength : 0 < queues.length)
    (hPos : ∀ f g, t.fullToGlobal f = some g → 1 ≤ g)
    (h : Ended t maxReads queues nextReadIndex m r out) :
    (∀ p ∈ r.taken, MetaMarked t p) ↔ MetaChecked queues nextReadIndex t maxReads := by
  rw [h.atTurn.taken]
  constructor
  · intro hAll k p hUp hFew
    rcases lt_or_ge k m with hLt | hGe
    · exact hAll p (mem_cameUp.mpr ⟨k, hLt, hUp⟩)
    · rcases h.why with hEnough | hNone
      · have hLe := (cameUp_extends queues nextReadIndex hGe).sublist.countP_le
          (p := fun p => Registered t p)
        rw [countP_registered, ← length_delivered hPos hAll, ← h.atTurn.out_eq] at hLe
        omega
      · rw [upAt_none_of_le hLength hNone hGe] at hUp
        cases hUp
  · intro hChecked
    have hTurns : ∀ k ≤ m, ∀ p ∈ cameUp queues nextReadIndex k, MetaMarked t p := by
      intro k
      induction k with
      | zero => simp [cameUp]
      | succ k ih =>
        intro hLe p hMem
        have hBefore := ih (Nat.le_of_succ_le hLe)
        rw [cameUp_succ, List.mem_append, Option.mem_toList] at hMem
        rcases hMem with hMem | hMem
        · exact hBefore p hMem
        · apply hChecked k p hMem
          rw [countP_registered, ← length_delivered hPos hBefore]
          exact h.before k hLe
    exact hTurns m le_rfl

/-- The handles of the tables are positive and lead back to their sensors. -/
structure Known (t : HandleTables) : Prop where
  pos : ∀ f g, t.fullToGlobal f = some g → 1 ≤ g
  back : ∀ f g, t.fullToGlobal f = some g → t.globalToFull g = some f
  full : ∀ f g, t.globalToFull g = some f → 1 ≤ g

theorem Ended.merges_iff (hLength : 0 < queues.length) (hKnown : Known t)
    (h : Ended t maxReads queues nextReadIndex m r out) :
    Merges t maxReads queues r out ↔ ∀ p ∈ r.taken, MetaMarked t p := by
  have hOut : out = r.taken.filterMap fun p => p.2.delivered t p.1 := h.atTurn.polls.returned
  constructor
  · intro hMerges p hMem
    rw [← delivered_eq_wanted_iff hKnown.pos]
    refine eq_of_filterMap_eq ?_ (hOut.symm.trans hMerges.delivered) p hMem
    intro q hTaken
    by_cases hRegistered : Registered t q
    · exact delivered_of_registered hRegistered
    · left
      cases hDelivered : q.2.delivered t q.1 with
      | none => rfl
      | some e =>
        have hOwn : e ∈ out := hOut ▸ List.mem_filterMap.mpr ⟨q, hTaken, hDelivered⟩
        obtain ⟨f, hf⟩ := hMerges.named e hOwn
        rw [delivered_of_not_registered hRegistered hDelivered] at hf
        exact absurd (hKnown.full f _ hf) (by decide)
  · intro hMarked
    have hWanted : out = r.taken.filterMap (wanted t) :=
      hOut.trans (length_delivered hKnown.pos hMarked)
    refine ⟨h.atMost, hWanted, ?_, ?_, ?_, ?_⟩
    · intro i
      have hOrder := h.atTurn.polls.in_order i
      have hNone : arrived (List.replicate m .read) i = [] := by
        simp [arrived]
      rwa [hNone, List.append_nil] at hOrder
    · intro e hMem
      rw [hWanted] at hMem
      obtain ⟨q, -, hq⟩ := List.mem_filterMap.mp hMem
      obtain ⟨g, hg, rfl⟩ := Option.map_eq_some_iff.mp hq
      rw [source_setSource]
      exact ⟨_, hKnown.back _ g hg⟩
    · rcases h.why with hEnough | hNone
      · exact .inl (le_antisymm h.atMost hEnough)
      · exact .inr (h.empty hLength hNone)
    · intro before i e between e' after hTaken
      rw [h.atTurn.taken] at hTaken
      exact cameUp_fair hLength hTaken

end Pass

end PollState

namespace Multihal

variable {modules : List SubModule} {s : Multihal} {is : List Input} {os : List Unit}

theorem known_of_run (run : Lib.Steps (Next modules) Lib.anyStep init is os s) :
    PollState.Known s.tables := by
  have h := invariant_of_run run
  have hLists : ∃ l, s.tables.Lists l := by
    cases hList : s.globalSensorsList with
    | none => exact ⟨[], h.unread hList⟩
    | some list => exact ⟨_, (h.read list hList).tables⟩
  obtain ⟨l, hl⟩ := hLists
  constructor
  · intro f g hg
    exact (hl.known_lt ((hl.global_iff f g).mp hg).1).1
  · intro f g hg
    exact ((hl.global_iff f g).mp hg).1
  · intro f g hg
    exact (hl.known_lt hg).1

/-- One pass of `poll` ends, and it has merged the queues iff the meta-data events that come up
before `maxReads` of registered sensors have are marked. -/
theorem pass_merges_iff (run : Lib.Steps (Next modules) Lib.anyStep init is os s)
    (queues : List (List SensorsEvent)) {nextReadIndex : Nat} (maxReads : Nat)
    (hIndex : nextReadIndex < queues.length) :
    ∃ r out, Lib.Loop.Exits (PollState.readPass s.tables maxReads)
        (PollState.start queues nextReadIndex, []) (r, out) ∧
      (PollState.Merges s.tables maxReads queues r out ↔
        PollState.MetaChecked queues nextReadIndex s.tables maxReads) := by
  have hLength : 0 < queues.length := Nat.zero_lt_of_lt hIndex
  have hKnown := known_of_run run
  obtain ⟨r, out, hExits⟩ := PollState.exists_exits s.tables maxReads
    (PollState.start queues nextReadIndex)
  obtain ⟨m, hEnded⟩ := PollState.ended_of_exits hIndex hExits
  exact ⟨r, out, hExits,
    (hEnded.merges_iff hLength hKnown).trans (hEnded.marked_iff hLength hKnown.pos)⟩

def eventOf (handle : Int) : SensorsEvent := ⟨handle, 1, 0⟩

def flushComplete (handle : Int) : SensorsEvent := ⟨0, sensorTypeMetaData, handle⟩

/-- The second module has an event of an unknown sensor. -/
def threeQueues : List (List SensorsEvent) :=
  [[], [eventOf 5, flushComplete 5, eventOf 9], [eventOf 7]]

theorem pass_merges_registered : ∃ (s : Multihal) (r : PollState) (out : List SensorsEvent),
    Lib.Loop.Exits (PollState.readPass s.tables 4) (PollState.start threeQueues 2, []) (r, out) ∧
      PollState.Merges s.tables 4 threeQueues r out := by
  have opens : Lib.Steps (Next threeModules) Lib.anyStep init _ _ _ :=
    .step .start trivial (i := Input.openSensors oldDevices) (o := []) rfl
  have run : Lib.Steps (Next threeModules) Lib.anyStep init _ _ _ :=
    opens.step trivial (i := Input.getSensorsList) (o := []) rfl
  obtain ⟨r, out, hExits, hMerges⟩ := pass_merges_iff run threeQueues 4 (by decide : 2 < _)
  refine ⟨_, r, out, hExits, hMerges.mpr ?_⟩
  apply PollState.metaChecked_of_marked
  intro i e hMem
  match i with
  | 0 => cases hMem
  | 1 =>
    have hEvents : e = eventOf 5 ∨ e = flushComplete 5 ∨ e = eventOf 9 := by
      simpa [threeQueues] using hMem
    rcases hEvents with rfl | rfl | rfl <;> decide
  | 2 =>
    cases List.mem_singleton.mp hMem
    decide
  | i + 3 => cases hMem

/-- A meta-data event for an unknown local handle is delivered. -/
theorem pass_delivers_unregistered : ∃ (s : Multihal) (is : List Input) (r : PollState),
    Lib.Steps (Next threeModules) Lib.anyStep init is [] s ∧
    Lib.Loop.Exits (PollState.readPass s.tables 4)
      (PollState.start [[], [flushComplete 9], []] 0, []) (r, [flushComplete (-1)]) ∧
    ¬ PollState.Merges s.tables 4 [[], [flushComplete 9], []] r [flushComplete (-1)] := by
  have opens : Lib.Steps (Next threeModules) Lib.anyStep init _ _ _ :=
    .step .start trivial (i := Input.openSensors oldDevices) (o := []) rfl
  have run : Lib.Steps (Next threeModules) Lib.anyStep init _ _ _ :=
    opens.step trivial (i := Input.getSensorsList) (o := []) rfl
  refine ⟨_, _, _, run, Lib.Loop.exec_exits (n := 9) rfl, ?_⟩
  intro h
  obtain ⟨f, hf⟩ := h.named _ List.mem_cons_self
  cases hf

end Multihal

end KiwiDevice.Sensors

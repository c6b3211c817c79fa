import KiwiDevice.Camera.ChannelStart

/-!
# When a failed start is rolled back

The exact condition under which `mm_channel_start`, when it fails, leaves the channel as it was.
-/

namespace KiwiDevice.Camera

namespace MmChannel

/-- No two slots have one handle, where a cleared slot has none. -/
def DistinctSlots (ch : MmChannel) : Prop :=
  ∀ (i j : Nat) (s t : MmStream), ch.streams[i]? = some s → ch.streams[j]? = some t →
    s.myHdl = t.myHdl → 0 < s.myHdl → i = j

theorem Unlinked.distinctSlots {ch₀ ch : MmChannel} {cleared : List Nat}
    (h : Unlinked ch₀ ch cleared) (hDistinct : ch₀.DistinctSlots) : ch.DistinctSlots := by
  have hFrom : ∀ (k : Nat) (s : MmStream), ch.streams[k]? = some s → 0 < s.myHdl →
      ∃ s₀, ch₀.streams[k]? = some s₀ ∧ s.myHdl = s₀.myHdl := by
    intro k s hs hPos
    obtain ⟨s₀, hs₀⟩ := h.of_slot hs
    by_cases hk : k ∈ cleared
    · rw [(h.gone k s hk hs).myHdl] at hPos
      exact absurd hPos (Nat.lt_irrefl 0)
    · exact ⟨s₀, hs₀, (h.stays k s₀ s hk hs₀ hs).myHdl⟩
  intro i j s t hs ht hSame hPos
  obtain ⟨s₀, hs₀, hHdlS⟩ := hFrom i s hs hPos
  obtain ⟨t₀, ht₀, hHdlT⟩ := hFrom j t ht (hSame ▸ hPos)
  exact hDistinct i j s₀ t₀ hs₀ ht₀ (by rw [← hHdlS, ← hHdlT, hSame]) (hHdlS ▸ hPos)

/-- The slot holds a stream that is in use. -/
def InUse (ch : MmChannel) (k : Nat) : Prop := ∃ s, ch.streams[k]? = some s ∧ s.state ≠ .notused

/-- From the slots after the first `n`, `collectStreams` finds each stream in its own slot. -/
theorem collectStreams_sorted {ch : MmChannel} (hDistinct : ch.DistinctSlots) (n : Nat)
    {sObjs : List Nat} (h : ch.collectStreams (ch.streams.drop n) = .ok sObjs) :
    sObjs.Nodup ∧ ∀ k ∈ sObjs, n ≤ k ∧ ch.InUse k := by
  generalize hList : ch.streams.drop n = l at h
  induction l generalizing n sObjs with
  | nil =>
    cases h
    exact ⟨List.nodup_nil, fun k hk => absurd hk List.not_mem_nil⟩
  | cons s rest ih =>
    have hAt : ch.streams[n]? = some s := by
      rw [← List.head?_drop, hList]
      rfl
    have hRest : ch.streams.drop (n + 1) = rest := by
      rw [← List.tail_drop, hList]
      rfl
    have hLater : ∀ {sObjs : List Nat}, ch.collectStreams rest = .ok sObjs →
        sObjs.Nodup ∧ ∀ k ∈ sObjs, n ≤ k ∧ ch.InUse k := by
      intro sObjs hCollect
      obtain ⟨hNodup, hLe⟩ := ih (n + 1) hRest hCollect
      exact ⟨hNodup, fun k hk => ⟨Nat.le_of_succ_le (hLe k hk).1, (hLe k hk).2⟩⟩
    rw [collectStreams] at h
    split at h
    · rename_i hPos
      split at h
      · exact hLater h
      · rename_i k hFound
        split at h
        · cases h
        · split at h
          · cases h
          · rename_i sObjs' hCollect
            cases h
            obtain ⟨hNodup, hLe⟩ := ih (n + 1) hRest hCollect
            obtain ⟨hk, hHit, _⟩ := List.findIdx?_eq_some_iff_getElem.mp hFound
            have hSame : n = k := hDistinct n k s _ hAt (List.getElem?_eq_getElem hk)
              (of_decide_eq_true hHit).2 hPos
            refine ⟨List.nodup_cons.mpr ⟨?_, hNodup⟩, ?_⟩
            · intro hIn
              exact absurd (hLe k hIn).1 (by omega)
            · intro j hj
              rcases List.mem_cons.mp hj with rfl | hj
              · exact ⟨Nat.le_of_eq hSame, _, List.getElem?_eq_getElem hk,
                  (of_decide_eq_true hHit).1⟩
              · exact ⟨Nat.le_of_succ_le (hLe j hj).1, (hLe j hj).2⟩
    · exact hLater h

theorem switch_perm (sObjs : List Nat) (i j : Nat) : (switch sObjs i j).Perm sObjs := by
  rw [switch.eq_def]
  split
  · rename_i a b hi hj
    obtain ⟨hLtI, hAtI⟩ := List.getElem?_eq_some_iff.mp hi
    obtain ⟨hLtJ, hAtJ⟩ := List.getElem?_eq_some_iff.mp hj
    rw [← hAtI, ← hAtJ]
    exact List.set_set_perm hLtI hLtJ
  · exact .refl sObjs

theorem startOrder_slots {ch : MmChannel} (hDistinct : ch.DistinctSlots) {sObjs : List Nat}
    (h : ch.startOrder = .ok sObjs) : sObjs.Nodup ∧ ∀ k ∈ sObjs, ch.InUse k := by
  rw [startOrder] at h
  split at h
  · cases h
  · rename_i collected hCollect
    obtain ⟨hNodup, hSlots⟩ := collectStreams_sorted hDistinct 0 hCollect
    cases h
    split
    · have hPerm := switch_perm collected 0 (ch.metaStreamIdx collected)
      refine ⟨hPerm.nodup_iff.mpr hNodup, ?_⟩
      intro k hk
      exact (hSlots k (hPerm.mem_iff.mp hk)).2
    · exact ⟨hNodup, fun k hk => (hSlots k hk).2⟩

end MmChannel

namespace ChannelWorld

open MmStream (AtRest AfterStart)

variable {w w' : ChannelWorld} {r : ChannelResults} {k : Nat}

/-- The stream in a slot is one of the channel's own. -/
def ownAt (w : ChannelWorld) (k : Nat) : Bool := (w.ch.streams[k]?).any w.ch.isOwn

/-- The start goes past this stream object: nothing of it fails, or it is a borrowed one. -/
def starts (w : ChannelWorld) (r : ChannelResults) (k : Nat) : Bool :=
  !w.ownAt k || (r.streams k).startFailure == none

/-- The events of other streams leave this of a stream and its driver alone. -/
def Private (P : MmStream → Driver → Prop) : Prop :=
  ∀ s d d' handler, Driver.Apart handler d d' → s.myHdl ≠ handler → 0 < s.myHdl → P s d → P s d'

theorem private_afterStart (f : Option StartFailure) : Private fun s d => AfterStart s d f :=
  fun _ _ _ _ hApart hNe hPos h => h.apart hApart hNe hPos

theorem private_requested : Private fun s d => d.requested s.myHdl ≠ 0 := by
  intro s d d' handler hApart hNe _ h
  simp only [hApart.requested s.myHdl hNe]
  exact h

/-- What holds of an own stream in a slot, and the driver. -/
def HasAt (w : ChannelWorld) (k : Nat) (P : MmStream → Driver → Prop) : Prop :=
  ∃ s, w.ch.streams[k]? = some s ∧ w.ch.isOwn s = true ∧ 0 < s.myHdl ∧ P s w.driver

/-- The stream in a slot is as a start with this outcome leaves it. -/
def LeftAs (w : ChannelWorld) (k : Nat) (f : Option StartFailure) : Prop :=
  w.HasAt k fun s d => AfterStart s d f

/-- The stream in a slot is configured, with nothing requested for it and no poll entry. -/
def RestsAt (w : ChannelWorld) (k : Nat) : Prop := w.HasAt k AtRest

theorem HasAt.setOwn {P : MmStream → Driver → Prop} {j : Nat} {s s' : MmStream} {d : Driver}
    (h : w.HasAt j P) (hPrivate : Private P) (hDistinct : w.ch.DistinctSlots)
    (hs : w.ch.streams[k]? = some s) (hNe : j ≠ k) (hApart : Driver.Apart s.myHdl w.driver d) :
    (w.setOwn k s' d).HasAt j P := by
  obtain ⟨t, ht, hOwn, hPos, hHas⟩ := h
  refine ⟨t, ?_, hOwn, hPos, hPrivate t _ _ _ hApart ?_ hPos hHas⟩
  · exact (List.getElem?_set_ne hNe.symm).trans ht
  · intro hSame
    exact hNe (hDistinct j k t s ht hs hSame hPos)

theorem setOwn_at {s s' : MmStream} (hs : w.ch.streams[k]? = some s) (d : Driver) :
    (w.setOwn k s' d).ch.streams[k]? = some s' := by
  obtain ⟨hk, _⟩ := List.getElem?_eq_some_iff.mp hs
  exact List.getElem?_set_self hk

theorem setOwn_slots {s s' : MmStream} (hs : w.ch.streams[k]? = some s)
    (hSame : MmStream.SameStream s s') (d : Driver) :
    MmChannel.Unlinked w.ch (w.setOwn k s' d).ch [] := .setSame w.ch hs hSame

/-- A start that fails at the stream object `k` after those of `front`. -/
structure FailsAt (r : ChannelResults) (w : ChannelWorld) (front : List Nat) (k : Nat)
    (w' : ChannelWorld) : Prop where
  bundle : w'.ch.bundle = w.ch.bundle
  state : w'.ch.state = w.ch.state
  slots : MmChannel.Unlinked w.ch w'.ch []
  front_starts : ∀ j ∈ front, w.starts r j = true
  fails : w.starts r k = false
  running : ∀ j ∈ front, w.ownAt j = true → w'.LeftAs j none
  failed : w'.LeftAs k (r.streams k).startFailure
  others : ∀ f j, j ∉ front → j ≠ k → w.LeftAs j f → w'.LeftAs j f

/-- Own streams at rest take part in a start as these slots say. -/
structure Prepared (w : ChannelWorld) (ks : List Nat) : Prop where
  distinct : w.ch.DistinctSlots
  nodup : ks.Nodup
  atRest : ∀ k ∈ ks, w.ownAt k = true → w.RestsAt k

theorem ownAt_of_unlinked {cleared : List Nat} (h : MmChannel.Unlinked w.ch w'.ch cleared) {j : Nat}
    (hj : j ∉ cleared) : w'.ownAt j = w.ownAt j := by
  rw [ownAt, ownAt]
  cases hs : w.ch.streams[j]? with
  | none =>
    cases hs' : w'.ch.streams[j]? with
    | none => rfl
    | some s' =>
      obtain ⟨s, hSome⟩ := h.of_slot hs'
      cases hs.symm.trans hSome
  | some s =>
    obtain ⟨s', hs'⟩ := h.to_slot hs
    rw [hs', Option.any_some, Option.any_some, h.isOwn_eq (h.stays j s s' hj hs hs')]

theorem starts_of_unlinked (h : MmChannel.Unlinked w.ch w'.ch []) (j : Nat) :
    w'.starts r j = w.starts r j := by
  rw [starts, starts, ownAt_of_unlinked h List.not_mem_nil]

theorem FailsAt.cons {w₁ : ChannelWorld} {front : List Nat} {j : Nat} (h : FailsAt r w₁ front k w')
    (hBundle : w₁.ch.bundle = w.ch.bundle) (hState : w₁.ch.state = w.ch.state)
    (hSlots : MmChannel.Unlinked w.ch w₁.ch []) (hStarts : w.starts r j = true)
    (hRuns : w.ownAt j = true → w₁.LeftAs j none) (hNew : j ∉ front ∧ j ≠ k)
    (hOthers : ∀ f i, i ≠ j → w.LeftAs i f → w₁.LeftAs i f) : FailsAt r w (j :: front) k w' where
  bundle := h.bundle.trans hBundle
  state := h.state.trans hState
  slots := hSlots.trans_same h.slots
  front_starts := by
    intro i hi
    rcases List.mem_cons.mp hi with rfl | hi
    · exact hStarts
    · exact (starts_of_unlinked hSlots i).symm.trans (h.front_starts i hi)
  fails := (starts_of_unlinked hSlots k).symm.trans h.fails
  running := by
    intro i hi hOwn
    rcases List.mem_cons.mp hi with rfl | hi
    · exact h.others none i hNew.1 hNew.2 (hRuns hOwn)
    · exact h.running i hi ((ownAt_of_unlinked hSlots List.not_mem_nil).trans hOwn)
  failed := h.failed
  others := by
    intro f i hi hNe hLeft
    rw [List.mem_cons, not_or] at hi
    exact h.others f i hi.2 hNe (hOthers f i hi.1 hLeft)

theorem Prepared.tail {rest : List Nat} {w₁ : ChannelWorld} (h : Prepared w (k :: rest))
    (hSlots : MmChannel.Unlinked w.ch w₁.ch [])
    (hOthers : ∀ f i, i ≠ k → w.LeftAs i f → w₁.LeftAs i f) : Prepared w₁ rest where
  distinct := hSlots.distinctSlots h.distinct
  nodup := (List.nodup_cons.mp h.nodup).2
  atRest := by
    intro j hj hOwn
    have hNe : j ≠ k := by
      rintro rfl
      exact (List.nodup_cons.mp h.nodup).1 hj
    rw [ownAt_of_unlinked hSlots List.not_mem_nil] at hOwn
    exact hOthers (some .getBuf) j hNe (h.atRest j (List.mem_cons_of_mem k hj) hOwn)

theorem ownAt_eq {s : MmStream} (hs : w.ch.streams[k]? = some s) :
    w.ownAt k = w.ch.isOwn s := by
  rw [ownAt, hs, Option.any_some]

/-- A start that fails has started what comes before the failing stream object, and nothing
after it. -/
theorem startStreams_failsAt {ks : List Nat} (h : Prepared w ks) {i n : Nat}
    (hRun : startStreams r ks i w = .ok (w', some n)) : ∃ front k back,
      ks = front ++ k :: back ∧ n = i + front.length ∧ FailsAt r w front k w' := by
  induction ks generalizing w i with
  | nil => cases hRun
  | cons k rest ih =>
    obtain ⟨hFresh, hNodup⟩ := List.nodup_cons.mp h.nodup
    -- what is left to do after the stream object `k`
    have hGoesOn : ∀ w₁ : ChannelWorld, startStreams r rest (i + 1) w₁ = .ok (w', some n) →
        w₁.ch.bundle = w.ch.bundle → w₁.ch.state = w.ch.state →
        MmChannel.Unlinked w.ch w₁.ch [] → w.starts r k = true →
        (w.ownAt k = true → w₁.LeftAs k none) →
        (∀ f j, j ≠ k → w.LeftAs j f → w₁.LeftAs j f) →
        ∃ front k' back, k :: rest = front ++ k' :: back ∧ n = i + front.length ∧
          FailsAt r w front k' w' := by
      intro w₁ hRest hBundle hState hSlots hStarts hRuns hOthers
      obtain ⟨front, k', back, hSplit, hLength, hFails⟩ := ih (h.tail hSlots hOthers) hRest
      have hNew : k ∉ front ∧ k ≠ k' := by
        rw [hSplit, List.mem_append, List.mem_cons, not_or, not_or] at hFresh
        exact ⟨hFresh.1, hFresh.2.1⟩
      refine ⟨k :: front, k', back, by rw [hSplit]; rfl, ?_, ?_⟩
      · rw [hLength, List.length_cons]
        omega
      · exact hFails.cons hBundle hState hSlots hStarts hRuns hNew hOthers
    rw [startStreams] at hRun
    split at hRun
    · cases hRun
    · rename_i s hs
      split at hRun
      · rename_i hOwn
        have hOwnAt : w.ownAt k = true := (ownAt_eq hs).trans hOwn
        obtain ⟨t, ht, _, hPos, hRest⟩ := h.atRest k List.mem_cons_self hOwnAt
        cases hs.symm.trans ht
        have hNotActive : s.state ≠ .active := by
          rw [hRest.cfg]
          decide
        rw [if_neg hNotActive] at hRun
        obtain ⟨hUp, hLeft⟩ := MmStream.startUp_spec hRest hPos (r.streams k)
        have hSame := s.startUp_same w.driver (r.streams k)
        have hApart := s.startUp_apart w.driver (r.streams k)
        have hSlots := setOwn_slots hs hSame (s.startUp w.driver (r.streams k)).2.1
        have hOthers : ∀ f j, j ≠ k → w.LeftAs j f → (w.setOwn k
            (s.startUp w.driver (r.streams k)).1
            (s.startUp w.driver (r.streams k)).2.1).LeftAs j f :=
          fun f j hNe hOther => hOther.setOwn (private_afterStart f) h.distinct hs hNe hApart
        have hHere : (w.setOwn k (s.startUp w.driver (r.streams k)).1
            (s.startUp w.driver (r.streams k)).2.1).LeftAs k (r.streams k).startFailure := by
          refine ⟨_, setOwn_at hs _, ?_, ?_, hLeft⟩
          · rw [hSlots.isOwn_eq hSame, hOwn]
          · rw [hSame.myHdl]
            exact hPos
        simp only at hRun
        split at hRun
        · rename_i hOk
          have hNone := hUp.mp hOk
          rw [hNone] at hHere
          refine hGoesOn _ hRun rfl rfl hSlots ?_ (fun _ => hHere) hOthers
          rw [starts, hNone]
          exact Bool.or_true _
        · rename_i hFailed
          cases hRun
          refine ⟨[], k, rest, rfl, rfl, rfl, rfl, hSlots, ?_, ?_, ?_, hHere, ?_⟩
          · intro j hj
            cases hj
          · rw [starts, hOwnAt, Bool.not_true, Bool.false_or, beq_eq_false_iff_ne]
            exact fun hNone => hFailed (hUp.mpr hNone)
          · intro j hj
            cases hj
          · intro f j _ hNe hOther
            exact hOthers f j hNe hOther
      · rename_i hBorrowed
        have hOwnAt : w.ownAt k = false := by
          rw [ownAt_eq hs]
          exact Bool.eq_false_iff.mpr hBorrowed
        split at hRun
        · cases hRun
        · refine hGoesOn _ hRun rfl rfl (.refl w.ch) ?_ ?_ ?_
          · rw [starts, hOwnAt]
            rfl
          · intro hOwn
            rw [hOwnAt] at hOwn
            cases hOwn
          · intro f j _ hOther
            exact hOther

theorem stopOwn_putOwn_eq {s : MmStream} (hs : w.ch.streams[k]? = some s) :
    putOwn r (stopOwn r w k) k = w.setOwn k (s.tearDown w.driver (r.streams k)).1
      (s.tearDown w.driver (r.streams k)).2 := by
  have hEvent : ∀ (w : ChannelWorld) (s : MmStream) (evt : StreamEvt),
      w.ch.streams[k]? = some s → (w.streamEvent r evt k).1
        = w.setOwn k (s.fsmFn w.driver evt (r.streams k)).1
          (s.fsmFn w.driver evt (r.streams k)).2.1 := by
    intro w s evt hs
    rw [streamEvent, hs]
    rfl
  have hAgain : ∀ (s t : MmStream) (d d' : Driver),
      (w.setOwn k s d).setOwn k t d' = w.setOwn k t d' := by
    intro s t d d'
    simp only [setOwn, setStream, List.set_set]
  rw [putOwn, stopOwn, hEvent w s .stop hs, hEvent _ _ .unregBuf (setOwn_at hs _), hAgain,
    hEvent _ _ .putBuf (setOwn_at hs _), hAgain]
  rfl

theorem unlinkStream_inactive {s : MmStream} {streamType : CamStreamType}
    (hInactive : w.ch.bundle.isActive = false)
    (h : w.unlinkStream r k s streamType = .ok w') : ∃ p, w' = (w.setLinked p
      ({ (w.linked p).1 with isLinked := false, linkedObj := none }, (w.linked p).2)).setStream
        k {} := by
  rw [unlinkStream] at h
  split at h
  · cases h
  · rename_i p _
    simp only [setLinked, hInactive, Bool.false_eq_true, if_false] at h
    cases h
    exact ⟨p, rfl⟩

/-- The error handling for the stream objects of `ks` while the bundle is not active. -/
structure TornDown (r : ChannelResults) (w : ChannelWorld) (ks : List Nat) (w' : ChannelWorld) :
    Prop where
  bundle : w'.ch.bundle = w.ch.bundle
  state : w'.ch.state = w.ch.state
  slots : MmChannel.Unlinked w.ch w'.ch (ks.filter fun k => !w.ownAt k)
  others : ∀ P, Private P → ∀ j, j ∉ ks → w.HasAt j P → w'.HasAt j P
  torn : ∀ P Q, Private P → Private Q → ∀ j ∈ ks, (∀ s d, 0 < s.myHdl → P s d →
    Q (s.tearDown d (r.streams j)).1 (s.tearDown d (r.streams j)).2) → w.HasAt j P → w'.HasAt j Q

theorem forStreams_tornDown {flushType : MmStream → Option CamStreamType} {ks : List Nat}
    (hDistinct : w.ch.DistinctSlots) (hNodup : ks.Nodup)
    (hInactive : w.ch.bundle.isActive = false)
    (hRun : forStreams (fun w k => putOwn r (stopOwn r w k) k) flushType r ks w = .ok w') :
    TornDown r w ks w' := by
  induction ks generalizing w with
  | nil =>
    cases hRun
    refine ⟨rfl, rfl, .refl _, fun _ _ _ _ h => h, ?_⟩
    intro _ _ _ _ j hj
    cases hj
  | cons k rest ih =>
    obtain ⟨hFresh, hRestNodup⟩ := List.nodup_cons.mp hNodup
    -- what is left to do after the stream object `k`
    have hGoesOn : ∀ w₁ : ChannelWorld,
        forStreams (fun w k => putOwn r (stopOwn r w k) k) flushType r rest w₁ = .ok w' →
        w₁.ch.bundle = w.ch.bundle → w₁.ch.state = w.ch.state →
        MmChannel.Unlinked w.ch w₁.ch ([k].filter fun k => !w.ownAt k) →
        (∀ P, Private P → ∀ j, j ≠ k → w.HasAt j P → w₁.HasAt j P) →
        (∀ P Q : MmStream → Driver → Prop, (∀ s d, 0 < s.myHdl → P s d →
          Q (s.tearDown d (r.streams k)).1 (s.tearDown d (r.streams k)).2) →
          w.HasAt k P → w₁.HasAt k Q) → TornDown r w (k :: rest) w' := by
      intro w₁ hRest hBundle hState hSlots hOthers hHere
      have hTorn := ih (hSlots.distinctSlots hDistinct) hRestNodup (by rw [hBundle, hInactive]) hRest
      have hFilter : rest.filter (fun j => !w₁.ownAt j) = rest.filter fun j => !w.ownAt j := by
        refine List.filter_congr ?_
        intro j hj
        rw [ownAt_of_unlinked hSlots]
        intro hCleared
        cases List.mem_singleton.mp (List.mem_filter.mp hCleared).1
        exact hFresh hj
      refine ⟨hTorn.bundle.trans hBundle, hTorn.state.trans hState, ?_, ?_, ?_⟩
      · have hBoth := hSlots.trans hTorn.slots
        rwa [hFilter, ← List.filter_append] at hBoth
      · intro P hPrivate j hj hHas
        rw [List.mem_cons, not_or] at hj
        exact hTorn.others P hPrivate j hj.2 (hOthers P hPrivate j hj.1 hHas)
      · intro P Q hP hQ j hj hMaps hHas
        rcases List.mem_cons.mp hj with rfl | hIn
        · exact hTorn.others Q hQ j hFresh (hHere P Q hMaps hHas)
        · have hNe : j ≠ k := fun hSame => hFresh (hSame ▸ hIn)
          exact hTorn.torn P Q hP hQ j hIn hMaps (hOthers P hP j hNe hHas)
    rw [forStreams] at hRun
    split at hRun
    · cases hRun
    · rename_i s hs
      split at hRun
      · rename_i hOwn
        have hSame := s.tearDown_same w.driver (r.streams k)
        have hSlots := setOwn_slots hs hSame (s.tearDown w.driver (r.streams k)).2
        have hKept : [k].filter (fun k => !w.ownAt k) = [] := by
          rw [List.filter_singleton, ownAt_eq hs, hOwn]
          rfl
        rw [stopOwn_putOwn_eq hs] at hRun
        refine hGoesOn _ hRun rfl rfl ?_ ?_ ?_
        · rw [hKept]
          exact hSlots
        · intro P hPrivate j hNe hHas
          exact hHas.setOwn hPrivate hDistinct hs hNe (s.tearDown_apart w.driver _)
        · rintro P Q hMaps ⟨t, ht, _, hPos, hHas⟩
          cases hs.symm.trans ht
          refine ⟨_, setOwn_at hs _, ?_, ?_, hMaps s w.driver hPos hHas⟩
          · rw [hSlots.isOwn_eq hSame, hOwn]
          · rw [hSame.myHdl]
            exact hPos
      · rename_i hBorrowed
        have hOwnAt : w.ownAt k = false := (ownAt_eq hs).trans (Bool.eq_false_iff.mpr hBorrowed)
        have hCleared : [k].filter (fun k => !w.ownAt k) = [k] := by
          rw [List.filter_singleton, hOwnAt]
          rfl
        split at hRun
        · cases hRun
        · split at hRun
          · cases hRun
          · rename_i w₁ hUnlink
            obtain ⟨p, hEq⟩ := unlinkStream_inactive hInactive hUnlink
            subst hEq
            refine hGoesOn _ hRun rfl rfl ?_ ?_ ?_
            · rw [hCleared]
              exact (MmChannel.Unlinked.refl w.ch).clear k
            · rintro P _ j hNe ⟨t, ht, hOwn, hHas⟩
              exact ⟨t, (List.getElem?_set_ne hNe.symm).trans ht, hOwn, hHas⟩
            · rintro P Q _ ⟨t, ht, hOwn, _⟩
              cases hs.symm.trans ht
              exact absurd hOwn hBorrowed

theorem qbuf_bundle (w : ChannelWorld) (r : ChannelResults) (buf : BufDef) :
    (w.qbuf r buf).ch.bundle = w.ch.bundle := by
  rw [qbuf]
  split
  · rfl
  · split
    · rfl
    · split
      · exact (w.streamEvent_frame r _ _).bundle
      · split <;> rfl

theorem perform_bundle (r : ChannelResults) (es : List Event) (w : ChannelWorld) :
    (perform r es w).ch.bundle = w.ch.bundle := by
  fun_induction perform r es w with
  | case1 w => rfl
  | case2 w buf es ih => rw [ih, qbuf_bundle]
  | case3 w e es _ ih => exact ih

theorem unlinkStream_isActive {s : MmStream} {streamType : CamStreamType}
    (h : w.unlinkStream r k s streamType = .ok w') :
    w'.ch.bundle.isActive = w.ch.bundle.isActive := by
  rw [unlinkStream] at h
  split at h
  · cases h
  · cases h
    simp only [setStream, flushSuperBufQueue]
    split
    · split
      · rw [perform_bundle]
        rfl
      · rfl
    · rfl

theorem forStreams_isActive {own : ChannelWorld → Nat → ChannelWorld}
    {flushType : MmStream → Option CamStreamType} (hOwn : ∀ w k, OwnFrame w (own w k))
    {ks : List Nat} (h : forStreams own flushType r ks w = .ok w') :
    w'.ch.bundle.isActive = w.ch.bundle.isActive := by
  induction ks generalizing w with
  | nil =>
    cases h
    rfl
  | cons k rest ih =>
    rw [forStreams] at h
    split at h
    · cases h
    · split at h
      · rw [ih h, (hOwn w k).bundle]
      · split at h
        · cases h
        · split at h
          · cases h
          · rename_i hUnlink
            rw [ih h, unlinkStream_isActive hUnlink]

theorem startStreams_bundle {ks : List Nat} {i : Nat} {n : Option Nat}
    (h : startStreams r ks i w = .ok (w', n)) : w'.ch.bundle = w.ch.bundle := by
  induction ks generalizing w i with
  | nil =>
    cases h
    rfl
  | cons k rest ih =>
    rw [startStreams] at h
    split at h
    · cases h
    · split at h
      · split at h
        · cases h
          rfl
        · simp only at h
          split at h
          · rw [ih h]
            rfl
          · cases h
            rfl
      · split at h
        · cases h
        · rw [ih h]
          rfl

/-- A stopped channel whose own streams are configured. Only a start with a callback makes a bundle
active. -/
structure Ready (w : ChannelWorld) : Prop where
  stopped : w.ch.state = .stopped
  callback : w.ch.bundle.isActive = true → w.ch.bundle.superBufNotifyCb ≠ none
  distinct : w.ch.DistinctSlots
  atRest : ∀ k, w.ownAt k = true → w.RestsAt k

/-- A failed start has left nothing behind: a later one finds the same streams in the same
slots, the own ones configured and not bundled, with nothing requested and no poll entry, and
the same bundle. -/
structure RolledBack (w w' : ChannelWorld) : Prop where
  stopped : w'.ch.state = .stopped
  streams : ∀ (k : Nat) (s : MmStream), w.ch.streams[k]? = some s → ∃ s', w'.ch.streams[k]? = some s' ∧
    MmStream.SameStream s s'
  atRest : ∀ k, w.ownAt k = true → w'.RestsAt k
  notBundled : ∀ (k : Nat) (s' : MmStream), w.ownAt k = true → w'.ch.streams[k]? = some s' → s'.isBundled = false
  notifyCb : w'.ch.bundle.superBufNotifyCb = w.ch.bundle.superBufNotifyCb
  userData : w'.ch.bundle.userData = w.ch.bundle.userData
  attr : w'.ch.queue.attr = w.ch.queue.attr

/-- The condition for it: there is no superbuf callback and no own stream is marked as bundled, no
borrowed stream comes before the first own one that fails, and that one does not fail at the
`VIDIOC_QBUF` of a buffer. -/
structure Recoverable (w : ChannelWorld) (r : ChannelResults) (sObjs : List Nat) : Prop where
  noCallback : w.ch.bundle.superBufNotifyCb = none
  notBundled : ∀ (k : Nat) (s : MmStream), w.ownAt k = true → w.ch.streams[k]? = some s → s.isBundled = false
  ownBefore : ∀ k ∈ sObjs.takeWhile (w.starts r), w.ownAt k = true
  notQbuf : ∀ k ∈ (sObjs.dropWhile (w.starts r)).head?, (r.streams k).startFailure ≠ some .qbuf

theorem startBundle_noCallback {ch : MmChannel} (h : ch.bundle.superBufNotifyCb = none)
    (sObjs : List Nat) : ch.startBundle sObjs = ch := by
  rw [MmChannel.startBundle, if_neg (fun hSome => hSome h)]

theorem startBundle_isActive {ch : MmChannel} (h : ch.bundle.superBufNotifyCb ≠ none)
    (sObjs : List Nat) : (ch.startBundle sObjs).bundle.isActive = true := by
  rw [MmChannel.startBundle, if_pos h]

theorem bundle_cleared {sObjs : List Nat} {w₁ : ChannelWorld} {i : Nat} {n : Option Nat}
    (hCallback : w.ch.bundle.superBufNotifyCb ≠ none)
    (hStart : startStreams r sObjs 0 { w with ch := w.ch.startBundle sObjs } = .ok (w₁, n))
    (hUndo : w₁.startErrorHandling r sObjs i = .ok w') : w'.ch.bundle = {} := by
  rw [startErrorHandling] at hUndo
  split at hUndo
  · cases hUndo
  · rename_i w₂ hLoop
    cases hUndo
    have hFrame : ∀ w k, OwnFrame w (putOwn r (stopOwn r w k) k) :=
      fun w k => (stopOwn_frame r w k).trans (putOwn_frame r _ k)
    have hActive : w₂.ch.bundle.isActive = true := by
      rw [forStreams_isActive hFrame hLoop, startStreams_bundle hStart]
      exact startBundle_isActive hCallback sObjs
    show w₂.ch.clearBundle.bundle = {}
    rw [MmChannel.clearBundle, if_pos hActive]

theorem failed_without_callback {sObjs : List Nat} (hReady : w.Ready)
    (hCallback : w.ch.bundle.superBufNotifyCb = none) (hOrder : w.ch.startOrder = .ok sObjs)
    {w₁ : ChannelWorld} {i : Nat}
    (hStart : startStreams r sObjs 0 { w with ch := w.ch.startBundle sObjs } = .ok (w₁, some i))
    (hUndo : w₁.startErrorHandling r sObjs i = .ok w') : ∃ front k back,
      sObjs = front ++ k :: back ∧ FailsAt r w front k w₁ ∧ TornDown r w₁ (front ++ [k]) w' := by
  obtain ⟨hNodup, _⟩ := MmChannel.startOrder_slots hReady.distinct hOrder
  rw [startBundle_noCallback hCallback] at hStart
  have hPrepared : Prepared w sObjs := ⟨hReady.distinct, hNodup, fun k _ hOwn => hReady.atRest k hOwn⟩
  obtain ⟨front, k, back, hSplit, hIndex, hFails⟩ := startStreams_failsAt hPrepared hStart
  have hInactive : w₁.ch.bundle.isActive = false := by
    rw [hFails.bundle, Bool.eq_false_iff]
    exact fun hActive => hReady.callback hActive hCallback
  have hTake : sObjs.take (i + 1) = front ++ [k] := by
    rw [hSplit, hIndex, Nat.zero_add, List.take_append, List.take_of_length_le (Nat.le_succ _),
      Nat.add_sub_cancel_left]
    rfl
  have hTaken : (front ++ [k]).Nodup := by
    rw [← hTake]
    exact hNodup.sublist (List.take_sublist _ _)
  refine ⟨front, k, back, hSplit, hFails, ?_⟩
  rw [startErrorHandling, hTake] at hUndo
  split at hUndo
  · cases hUndo
  · rename_i w₂ hLoop
    have hTorn := forStreams_tornDown (hFails.slots.distinctSlots hReady.distinct) hTaken hInactive
      hLoop
    have hSame : w₂.ch.clearBundle = w₂.ch := by
      rw [MmChannel.clearBundle, hTorn.bundle, hInactive]
      rfl
    rw [hSame] at hUndo
    cases hUndo
    exact hTorn

theorem FailsAt.takeWhile {front : List Nat} {w₁ : ChannelWorld}
    (h : FailsAt r w front k w₁) (back : List Nat) :
    (front ++ k :: back).takeWhile (w.starts r) = front ∧
      (front ++ k :: back).dropWhile (w.starts r) = k :: back := by
  have hNot : ¬ w.starts r k = true := by
    rw [h.fails]
    decide
  rw [List.takeWhile_append_of_pos h.front_starts, List.dropWhile_append_of_pos h.front_starts,
    List.takeWhile_cons_of_neg hNot, List.dropWhile_cons_of_neg hNot, List.append_nil]
  exact ⟨rfl, rfl⟩

/-- Unless the failure is at the `VIDIOC_QBUF` of a buffer, the error handling brings every own
stream back to rest. -/
theorem restsAt_of_loops {front : List Nat} {w₁ : ChannelWorld} (hReady : w.Ready)
    (hFails : FailsAt r w front k w₁) (hTorn : TornDown r w₁ (front ++ [k]) w')
    (hNotQbuf : (r.streams k).startFailure ≠ some .qbuf) {j : Nat} (hOwn : w.ownAt j = true) :
    w'.RestsAt j := by
  have hUndone : ∀ f, f ≠ some .qbuf → j ∈ front ++ [k] → w₁.LeftAs j f → w'.RestsAt j := by
    intro f hNot hIn hLeft
    refine hTorn.torn _ AtRest (private_afterStart f) (private_afterStart (some .getBuf)) j hIn ?_
      hLeft
    intro s d hPos hAfter
    exact MmStream.tearDown_atRest hAfter hNot hPos (r.streams j)
  by_cases hIn : j ∈ front ++ [k]
  · rcases List.mem_append.mp hIn with hFront | hLast
    · exact hUndone none nofun hIn (hFails.running j hFront hOwn)
    · cases List.mem_singleton.mp hLast
      exact hUndone _ hNotQbuf hIn hFails.failed
  · refine hTorn.others AtRest (private_afterStart (some .getBuf)) j hIn ?_
    rw [List.mem_append, List.mem_singleton, not_or] at hIn
    exact hFails.others (some .getBuf) j hIn.1 hIn.2 (hReady.atRest j hOwn)

theorem FailsAt.own {front : List Nat} {w₁ : ChannelWorld} (h : FailsAt r w front k w₁) :
    w.ownAt k = true := by
  have hFails := h.fails
  rw [starts, Bool.or_eq_false_iff, Bool.not_eq_false'] at hFails
  exact hFails.1

theorem rolledBack_of_recoverable {front back sObjs : List Nat} {w₁ : ChannelWorld}
    (hReady : w.Ready) (hSplit : sObjs = front ++ k :: back) (hFails : FailsAt r w front k w₁)
    (hTorn : TornDown r w₁ (front ++ [k]) w') (h : Recoverable w r sObjs) : RolledBack w w' := by
  obtain ⟨hTake, hDrop⟩ := hFails.takeWhile back
  have hOwnBefore := h.ownBefore
  have hNotQbuf := h.notQbuf
  rw [hSplit, hTake] at hOwnBefore
  rw [hSplit, hDrop] at hNotQbuf
  have hBundle := hTorn.bundle.trans hFails.bundle
  have hNothing : (front ++ [k]).filter (fun j => !w₁.ownAt j) = [] := by
    refine List.filter_eq_nil_iff.mpr ?_
    intro j hj
    rw [ownAt_of_unlinked hFails.slots List.not_mem_nil, Bool.not_eq_true', Bool.not_eq_false]
    rcases List.mem_append.mp hj with hj | hj
    · exact hOwnBefore j hj
    · cases List.mem_singleton.mp hj
      exact hFails.own
  have hSlots := hFails.slots.trans_same (hNothing ▸ hTorn.slots)
  refine ⟨?_, ?_, ?_, ?_, ?_, ?_, ?_⟩
  · rw [hTorn.state, hFails.state, hReady.stopped]
  · intro j s hs
    obtain ⟨s', hs'⟩ := hSlots.to_slot hs
    exact ⟨s', hs', hSlots.stays j s s' List.not_mem_nil hs hs'⟩
  · intro j hOwn
    exact restsAt_of_loops hReady hFails hTorn (hNotQbuf k rfl) hOwn
  · intro j s' hOwn hs'
    obtain ⟨s, hs⟩ := hSlots.of_slot hs'
    rw [(hSlots.stays j s s' List.not_mem_nil hs hs').isBundled]
    exact h.notBundled j s hOwn hs
  · rw [hBundle]
  · rw [hBundle]
  · rw [MmChannel.queue, hBundle]

theorem recoverable_of_rolledBack {front back sObjs : List Nat} {w₁ : ChannelWorld}
    (hReady : w.Ready) (hCallback : w.ch.bundle.superBufNotifyCb = none)
    (hOrder : w.ch.startOrder = .ok sObjs) (hSplit : sObjs = front ++ k :: back)
    (hFails : FailsAt r w front k w₁) (hTorn : TornDown r w₁ (front ++ [k]) w')
    (h : RolledBack w w') : Recoverable w r sObjs := by
  obtain ⟨hTake, hDrop⟩ := hFails.takeWhile back
  obtain ⟨_, hInUse⟩ := MmChannel.startOrder_slots hReady.distinct hOrder
  refine ⟨hCallback, ?_, ?_, ?_⟩
  · intro j s hOwn hs
    obtain ⟨s', hs', hSame⟩ := h.streams j s hs
    rw [← hSame.isBundled]
    exact h.notBundled j s' hOwn hs'
  · rw [hSplit, hTake]
    intro j hj
    by_contra hBorrowed
    obtain ⟨s, hs, hUsed⟩ := hInUse j (by rw [hSplit]; exact List.mem_append_left _ hj)
    obtain ⟨s', hs', hSame⟩ := h.streams j s hs
    -- the slot of a borrowed stream is cleared
    have hCleared : j ∈ (front ++ [k]).filter fun j => !w₁.ownAt j := by
      refine List.mem_filter.mpr ⟨List.mem_append_left _ hj, ?_⟩
      rw [ownAt_of_unlinked hFails.slots List.not_mem_nil]
      rw [Bool.eq_false_iff.mpr hBorrowed]
      rfl
    have hGone := hTorn.slots.gone j s' hCleared hs'
    exact hUsed (hSame.notused.mp (hGone.notused.mpr rfl))
  · rw [hSplit, hDrop]
    rintro _ ⟨⟩ hQbuf
    have hLeft := hFails.failed
    rw [hQbuf] at hLeft
    have hAsked : w'.HasAt k fun s d => d.requested s.myHdl ≠ 0 := by
      refine hTorn.torn _ _ (private_afterStart (some .qbuf)) private_requested k
        (List.mem_append_right _ List.mem_cons_self) ?_ hLeft
      intro s d _ hAfter
      exact MmStream.tearDown_requested hAfter (r.streams k)
    obtain ⟨s, hs, _, _, hNotZero⟩ := hAsked
    obtain ⟨s', hs', _, _, hRest⟩ := h.atRest k hFails.own
    cases hs.symm.trans hs'
    exact hNotZero hRest.notRequested

/-- A failed `START` of a stopped channel is rolled back iff the condition holds. -/
theorem start_rolledBack_iff {sObjs : List Nat} (hReady : w.Ready)
    (hOrder : w.ch.startOrder = .ok sObjs) (hFails : w.fsmStoppedStart r = .ok (w', false)) :
    RolledBack w w' ↔ Recoverable w r sObjs := by
  have hStart : w.start r = .ok (w', false) := by
    rw [fsmStoppedStart] at hFails
    split at hFails
    · cases hFails
    · rename_i w'' hStart
      cases hFails
      exact hStart
    · cases hFails
  rw [start, hOrder] at hStart
  simp only at hStart
  split at hStart
  · cases hStart
  · cases hStart
  · rename_i w₁ i hLoop
    split at hStart
    · cases hStart
    · rename_i w'' hUndo
      cases hStart
      constructor
      · intro h
        have hCallback : w.ch.bundle.superBufNotifyCb = none := by
          by_contra hSome
          have hGone := h.notifyCb
          rw [bundle_cleared hSome hLoop hUndo] at hGone
          exact hSome hGone.symm
        obtain ⟨front, k, back, hSplit, hAt, hTorn⟩ :=
          failed_without_callback hReady hCallback hOrder hLoop hUndo
        exact recoverable_of_rolledBack hReady hCallback hOrder hSplit hAt hTorn h
      · intro h
        obtain ⟨front, k, back, hSplit, hAt, hTorn⟩ :=
          failed_without_callback hReady h.noCallback hOrder hLoop hUndo
        exact rolledBack_of_recoverable hReady hSplit hAt hTorn h

/-- A preview and a metadata stream, both configured. -/
def twoConfigured : ChannelWorld where
  ch := {
    myHdl := 1
    state := .stopped
    streams := [
      { myHdl := 256, state := .cfg, streamInfo := some { streamType := .preview },
        chObj := some 1 },
      { myHdl := 257, state := .cfg, streamInfo := some { streamType := .metadata },
        chObj := some 1 }] }
  driver := ⟨fun _ => 0, fun _ => 0⟩
  linked := fun _ => ({}, ⟨fun _ => 0, fun _ => 0⟩)

/-- Two buffers for each stream; the preview stream fails as said. -/
def previewFails (f : StartFailure) : ChannelResults where
  streams := fun k => {
    getBufs := some [true, true]
    statusAlloc := true
    reqbufs := true
    qbuf := fun i => if k = 0 ∧ i = 1 ∧ f = .qbuf then .refused else .queued
    streamOn := !(k = 0 ∧ f = .streamOn) }
  linked := fun _ => ⟨none, false, false, fun _ => .refused, false⟩
  flushAlloc := fun _ => true

theorem twoConfigured_ready : twoConfigured.Ready where
  stopped := rfl
  callback h := by cases h
  distinct := by
    have hHandle : ∀ (k : Nat) (s : MmStream), twoConfigured.ch.streams[k]? = some s →
        s.myHdl = 256 + k := by
      rintro (_ | _ | k) s hs <;> cases hs <;> rfl
    intro i j s t hs ht hSame _
    rw [hHandle i s hs, hHandle j t ht] at hSame
    exact Nat.add_left_cancel hSame
  atRest := by
    rintro (_ | _ | k) hOwn
    · exact ⟨_, rfl, rfl, by decide, rfl, rfl, by decide⟩
    · exact ⟨_, rfl, rfl, by decide, rfl, rfl, by decide⟩
    · cases hOwn

/-- `VIDIOC_STREAMON` of the preview stream fails after the metadata stream has started. -/
theorem start_rolledBack_iff_streamOn : ∃ w',
    twoConfigured.fsmStoppedStart (previewFails .streamOn) = .ok (w', false) ∧
      RolledBack twoConfigured w' := by
  have hOrder : twoConfigured.ch.startOrder = .ok [1, 0] := rfl
  obtain ⟨w', hFails⟩ : ∃ w', twoConfigured.fsmStoppedStart (previewFails .streamOn)
      = .ok (w', false) := ⟨_, rfl⟩
  refine ⟨w', hFails, (start_rolledBack_iff twoConfigured_ready hOrder hFails).mpr ?_⟩
  refine ⟨rfl, ?_, by decide, by decide⟩
  rintro (_ | _ | k) s _ hs <;> cases hs <;> rfl

/-- The second buffer of the preview stream cannot be queued: `VIDIOC_REQBUFS` is not undone. -/
theorem start_keeps_requested : ∃ w',
    twoConfigured.fsmStoppedStart (previewFails .qbuf) = .ok (w', false) ∧
      ¬ RolledBack twoConfigured w' := by
  refine ⟨_, rfl, ?_⟩
  intro h
  obtain ⟨s, hs, _, _, hRest⟩ := h.atRest 0 rfl
  cases hs
  exact absurd hRest.notRequested (by decide)

end ChannelWorld

end KiwiDevice.Camera

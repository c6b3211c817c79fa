import KiwiDevice.Camera.SlotOwners

/-!
# Channel slots over whole runs

The deletion that is still at work when its slot is given away wipes the channel of somebody else.
-/

namespace KiwiDevice.Camera.SlotWorld

variable {w w' : SlotWorld} {t hdl taken : Nat} {i : Fin channelMax} {p : ChannelParams}
  {keeper : Nat → Option Keeper}

theorem Sound.addStep {launched : Bool} {stage : AddStage} (h : w.Sound keeper)
    (hClient : w.clients t = .adding i p stage)
    (hLaunched : ∀ hdl, stage = .launching hdl → launched = true) :
    ∃ keeper', (w.addStep t i p launched stage).Sound keeper' := by
  have hUse : (w.clients t).use = some i.val := by
    rw [hClient]
    rfl
  have hHolds : (w.clients t).holdsCam = true := by
    rw [hClient]
    rfl
  have hContent := h.content t
  rw [hClient] at hContent
  cases stage with
  | numbering =>
    have hIndex := index_utilGenerateHandler (Jpeg.nextHistoryCount w.historyCount)
      (Nat.lt_trans i.isLt (by decide))
    have hPos := utilGenerateHandler_pos w.historyCount i
    refine ⟨keeper, h.work hUse rfl (fun _ _ => rfl) rfl rfl rfl (h.cam_of_step fun _ => hHolds) ?_
      ⟨Nat.ne_of_gt hPos, hIndex, hContent⟩ (h.placed i)⟩
    exact fun k hk => (Option.some.inj hk).symm
  | initing hdl =>
    obtain ⟨hPos, hIndex, -⟩ := hContent
    have hSlot : (w.setSlot i (.init hdl p)).slots i = .init hdl p := setSlot_same
    refine ⟨keeper, h.work hUse rfl (fun j hj => setSlot_of_ne hj) rfl rfl rfl
      (h.cam_of_step fun _ => hHolds) ?_ ⟨hPos, hIndex, hSlot⟩ fun _ => ?_⟩
    · exact fun k hk => (Option.some.inj hk).symm
    · exact (congrArg (fun s : ChannelSlot => Driver.indexByHandler s.channel.myHdl) hSlot).trans
        hIndex
  | launching hdl =>
    obtain ⟨hPos, hIndex, hInit⟩ := hContent
    have hSlot : (w.setSlot i { w.slots i with pollThread := launched }).slots i =
        added (hdl, p) := by
      rw [setSlot_same, hInit, hLaunched hdl rfl]
      rfl
    refine ⟨keeper, h.work hUse rfl (fun j hj => setSlot_of_ne hj) rfl rfl rfl
      (h.cam_of_step fun _ => hHolds) ?_ ⟨hPos, hIndex, hSlot⟩ fun _ => ?_⟩
    · exact fun k hk => (Option.some.inj hk).symm
    · exact (congrArg (fun s : ChannelSlot => Driver.indexByHandler s.channel.myHdl) hSlot).trans
        hIndex
  | stopping hdl =>
    obtain ⟨hPos, hIndex, hAdded⟩ := hContent
    have hSlot : (w.setSlot i { w.slots i with
        channel := { (w.slots i).channel with state := .stopped } }).slots i = added (hdl, p) := by
      rw [setSlot_same, hAdded]
      rfl
    refine ⟨keeper, h.work hUse rfl (fun j hj => setSlot_of_ne hj) rfl rfl rfl
      (h.cam_of_step fun _ => hHolds) ?_ ⟨hPos, hIndex, hSlot⟩ fun _ => ?_⟩
    · exact fun k hk => (Option.some.inj hk).symm
    · exact (congrArg (fun s : ChannelSlot => Driver.indexByHandler s.channel.myHdl) hSlot).trans
        hIndex
  | unlocking hdl => exact ⟨_, h.handOver hClient⟩

theorem Sound.overwrite {s : ChannelSlot} {y : SlotClient} (h : w.Sound keeper)
    (hUse : (w.clients t).use = some i.val) (hTaken : w.takes i = taken)
    (hCam : y.holdsCam = true → (w.clients t).holdsCam = true)
    (hKeep : ∀ k, y.use = some k → k = i)
    (hContent : ((w.overwrite i taken s).setClient t y).Content y)
    (hPlaced : s.channel.myHdl ≠ 0 → Driver.indexByHandler s.channel.myHdl = i) :
    ((w.overwrite i taken s).setClient t y).Sound keeper := by
  have hSlot : (w.setSlot i s).slots i = s := setSlot_same
  have hHdl := congrArg (fun s : ChannelSlot => s.channel.myHdl) hSlot
  refine h.work hUse rfl (fun j hj => setSlot_of_ne hj) rfl rfl (if_pos hTaken)
    (h.cam_of_step hCam) hKeep hContent fun hNe => ?_
  have hIndex := hPlaced (by rw [← hHdl]; exact hNe)
  rwa [← hHdl] at hIndex

theorem Sound.delStep {stage : DelStage} (h : w.Sound keeper)
    (hClient : w.clients t = .deleting i hdl taken stage)
    (hStep : w.delStep t i hdl taken stage = some w') :
    w'.Sound keeper := by
  have hUse : (w.clients t).use = some i.val := by
    rw [hClient]
    rfl
  have hTaken := h.content t
  rw [hClient] at hTaken
  have hKeep : ∀ stage k, (SlotClient.deleting i hdl taken stage).use = some k → k = i :=
    fun _ k hk => (Option.some.inj hk).symm
  cases stage with
  | locking =>
    rw [SlotWorld.delStep] at hStep
    split at hStep
    · cases hStep
      exact h.overwrite hUse hTaken (fun _ => by rw [hClient]; rfl) (hKeep _) hTaken (h.placed i)
    · cases hStep
  | handing =>
    cases hStep
    refine h.work hUse rfl (fun _ _ => rfl) rfl rfl rfl ?_ (hKeep _) hTaken (h.placed i)
    exact h.cam_of_unlock (.inl (h.cam t (by rw [hClient]; rfl))) Bool.noConfusion
  | dispatching =>
    rw [SlotWorld.delStep] at hStep
    split at hStep
    · cases hStep
      exact h.work hUse rfl (fun _ _ => rfl) rfl rfl rfl (h.cam_of_step Bool.noConfusion) (hKeep _)
        hTaken (h.placed i)
    · cases hStep
      exact h.work hUse rfl (fun _ _ => rfl) rfl rfl rfl (h.cam_of_step Bool.noConfusion) (hKeep _)
        hTaken (h.placed i)
  | releasing =>
    cases hStep
    exact h.overwrite hUse hTaken Bool.noConfusion (hKeep _) hTaken (h.placed i)
  | marking =>
    cases hStep
    exact h.overwrite hUse hTaken Bool.noConfusion (hKeep _) hTaken (h.placed i)
  | unlocking rc =>
    cases hStep
    exact h.overwrite hUse hTaken Bool.noConfusion (hKeep _) hTaken (h.placed i)
  | destroying rc =>
    cases hStep
    have hWiped : ((w.overwrite i taken {}).setClient t .idle).Sound keeper :=
      h.overwrite hUse hTaken Bool.noConfusion nofun trivial fun hNe => absurd rfl hNe
    exact ⟨hWiped.cam, hWiped.client, fun t' => (hWiped.content t').congr rfl rfl, hWiped.handle,
      hWiped.holds, hWiped.nodup, hWiped.placed, hWiped.stray⟩

theorem Sound.step {input : Input} (h : w.Sound keeper) (hPatient : w.Patient input)
    (hStep : w.step input = some w') : ∃ keeper', w'.Sound keeper' := by
  cases input with
  | addChannel t p =>
    rw [SlotWorld.step] at hStep
    split at hStep
    · rename_i hClient hCam
      cases hStep
      exact ⟨keeper, h.rest rfl rfl rfl rfl rfl (h.cam_of_unlock (.inr hCam) fun _ => rfl) rfl
        trivial⟩
    · cases hStep
  | delChannel t hdl =>
    rw [SlotWorld.step] at hStep
    split at hStep
    · rename_i hClient hCam
      split at hStep
      · rename_i hMem
        cases hStep
        exact ⟨_, h.delChannel hClient hCam hMem⟩
      · cases hStep
    · cases hStep
  | otherHandle =>
    cases hStep
    exact ⟨keeper, h.cam, h.client, fun t => (h.content t).congr rfl rfl, h.handle, h.holds,
      h.nodup, h.placed, h.stray⟩
  | run t launched =>
    rw [SlotWorld.step] at hStep
    split at hStep
    · cases hStep
    · rename_i p hClient
      split at hStep
      · rename_i i hFree
        cases hStep
        exact ⟨_, h.scan hClient hFree (hPatient.1 p i hClient hFree)⟩
      · cases hStep
        exact ⟨keeper, h.rest rfl rfl rfl rfl rfl
          (h.cam_of_step fun _ => by rw [hClient]; rfl) rfl trivial⟩
    · rename_i i p stage hClient
      cases hStep
      refine h.addStep hClient fun hdl hStage => hPatient.2 i p hdl ?_
      rw [hClient, hStage]
    · rename_i hdl hClient
      have hHolds : (w.clients t).holdsCam = true := by
        rw [hClient]
        rfl
      split at hStep
      · rename_i i hFound
        cases hStep
        have hContent := h.content t
        rw [hClient] at hContent
        obtain ⟨q, hOwn⟩ := hContent
        obtain ⟨j, hj, hIndex, -⟩ := h.found hOwn
        cases hFound.symm.trans hj
        have hUse : (w.clients t).use = some i.val := by
          rw [hClient]
          exact congrArg some hIndex
        exact ⟨keeper, h.work hUse rfl (fun _ _ => rfl) rfl rfl rfl (h.cam_of_step fun _ => hHolds)
          (fun k hk => (Option.some.inj hk).symm) rfl (h.placed i)⟩
      · cases hStep
        exact ⟨keeper, h.rest rfl rfl rfl rfl rfl (h.cam_of_step fun _ => hHolds) rfl trivial⟩
    · rename_i i hdl taken stage hClient
      exact ⟨keeper, h.delStep hClient hStep⟩
    · rename_i hClient
      cases hStep
      exact ⟨keeper, h.rest rfl rfl rfl rfl rfl
        (h.cam_of_unlock (.inl (h.cam t (by rw [hClient]; rfl))) Bool.noConfusion) rfl trivial⟩

theorem sound_start : Sound {} fun _ => none where
  cam := nofun
  client := nofun
  content _ := trivial
  handle := nofun
  holds := nofun
  nodup _ := List.nodup_nil
  placed _ hNe := absurd rfl hNe
  stray := rfl

/-- Each handle finds the channel that was added for it, as it was added; no two handles are equal
or share a slot; and no deletion wrote to a slot that was given to another call. -/
structure OneOwner (w : SlotWorld) : Prop where
  found : ∀ t, ∀ c ∈ w.owned t, ∃ i, w.utilGetChannelByHandler c.1 = some i ∧
    (w.slots i).channel = (ChannelSlot.init c.1 c.2).channel ∧ (w.slots i).pollThread = true
  distinct : ∀ t, ∀ c ∈ w.owned t, ∀ t', ∀ c' ∈ w.owned t',
    c.1 = c'.1 ∨ w.utilGetChannelByHandler c.1 = w.utilGetChannelByHandler c'.1 → t = t' ∧ c = c'
  nodup : ∀ t, (w.owned t).Nodup
  stray : w.stray = []

theorem Sound.oneOwner (h : w.Sound keeper) : w.OneOwner where
  found t c hMem := by
    obtain ⟨i, hFound, -, hSlot⟩ := h.found (h.holds t c hMem)
    refine ⟨i, hFound, ?_, ?_⟩
    · rw [hSlot]
      rfl
    · rw [hSlot]
      rfl
  distinct t c hMem t' c' hMem' hSame := by
    obtain ⟨i, hFound, hIndex, -⟩ := h.found (h.holds t c hMem)
    obtain ⟨i', hFound', hIndex', -⟩ := h.found (h.holds t' c' hMem')
    have hEq : Driver.indexByHandler c.1 = Driver.indexByHandler c'.1 := by
      rcases hSame with hHdl | hSlot
      · rw [hHdl]
      · rw [hFound, hFound'] at hSlot
        rw [hIndex, hIndex', Option.some.inj hSlot]
    have hKeeper := h.handle t c hMem
    rw [hEq, h.handle t' c' hMem'] at hKeeper
    cases hKeeper
    exact ⟨rfl, rfl⟩
  nodup := h.nodup
  stray := h.stray

/-- In every run in which no slot is taken before its deletion has ended, each slot has one
owner. -/
theorem oneOwner_of_patient {is : List Input} {os : List Unit}
    (run : Lib.Steps Next (fun _ _ w i _ => w.Patient i) {} is os w) : w.OneOwner := by
  have hSound : ∃ keeper, w.Sound keeper := by
    apply run.invariant (I := fun w => ∃ keeper, w.Sound keeper) ⟨_, sound_start⟩
    rintro _ _ w i _ w' hPatient ⟨keeper, hSound⟩ hStep
    exact hSound.step hPatient hStep
  obtain ⟨keeper, hSound⟩ := hSound
  exact hSound.oneOwner

theorem oneOwner_of_patient_added : ∃ w : SlotWorld,
    (w.owned 0).map Prod.fst = [256] ∧ w.OneOwner := by
  have locked : Lib.Steps Next (fun _ _ w i _ => w.Patient i) {} _ _ _ :=
    .step .start trivial (i := Input.addChannel 0 {}) (o := []) rfl
  have hScan : ∀ t' i hdl taken stage, Function.update (fun _ => SlotClient.idle) 0
      (.scanning {}) t' ≠ .deleting i hdl taken stage := by
    intro t' i hdl taken stage hDel
    rcases eq_or_ne t' 0 with rfl | hNe
    · cases hDel
    · rw [Function.update_of_ne hNe] at hDel
      cases hDel
  have taken : Lib.Steps Next (fun _ _ w i _ => w.Patient i) {} _ _ _ :=
    locked.step ⟨fun _ i _ _ t' => hScan t' i, fun _ _ _ _ => rfl⟩
      (i := Input.run 0 true) (o := []) rfl
  have numbered : Lib.Steps Next (fun _ _ w i _ => w.Patient i) {} _ _ _ :=
    taken.step ⟨nofun, fun _ _ _ _ => rfl⟩ (i := Input.run 0 true) (o := []) rfl
  have inited : Lib.Steps Next (fun _ _ w i _ => w.Patient i) {} _ _ _ :=
    numbered.step ⟨nofun, fun _ _ _ _ => rfl⟩ (i := Input.run 0 true) (o := []) rfl
  have launched : Lib.Steps Next (fun _ _ w i _ => w.Patient i) {} _ _ _ :=
    inited.step ⟨nofun, fun _ _ _ _ => rfl⟩ (i := Input.run 0 true) (o := []) rfl
  have stopped : Lib.Steps Next (fun _ _ w i _ => w.Patient i) {} _ _ _ :=
    launched.step ⟨nofun, fun _ _ _ _ => rfl⟩ (i := Input.run 0 true) (o := []) rfl
  have run : Lib.Steps Next (fun _ _ w i _ => w.Patient i) {} _ _ _ :=
    stopped.step ⟨nofun, fun _ _ _ _ => rfl⟩ (i := Input.run 0 true) (o := []) rfl
  exact ⟨_, rfl, oneOwner_of_patient run⟩

/-- A slot that was given away in the last steps of a deletion is wiped with its new channel. -/
theorem deletion_wipes_next_channel : ∃ w : SlotWorld,
    Lib.Steps Next Lib.anyStep {} ([.addChannel 0 {}] ++ List.replicate 6 (.run 0 true) ++
      [.delChannel 0 256] ++ List.replicate 6 (.run 0 true) ++ [.addChannel 1 {}] ++
      List.replicate 6 (.run 1 true) ++ List.replicate 2 (.run 0 true)) [] w ∧
    (w.owned 1).map Prod.fst = [512] ∧ w.utilGetChannelByHandler 512 = none ∧
    w.stray ≠ [] ∧ ¬ w.OneOwner := by
  have hRun : (List.foldlM step ({} : SlotWorld) ([.addChannel 0 {}] ++
        List.replicate 6 (.run 0 true) ++ [.delChannel 0 256] ++ List.replicate 6 (.run 0 true) ++
        [.addChannel 1 {}] ++ List.replicate 6 (.run 1 true) ++ List.replicate 2 (.run 0 true))).map
      (fun w => ((w.owned 1).map Prod.fst, w.utilGetChannelByHandler 512, w.stray.length)) =
      some ([512], none, 2) := by
    decide +kernel
  obtain ⟨w, hExec, hEq⟩ := Option.map_eq_some_iff.mp hRun
  simp only [Prod.mk.injEq] at hEq
  obtain ⟨hOwned, hNone, hStray⟩ := hEq
  have hNotEmpty : w.stray ≠ [] := by
    rintro hEmpty
    rw [hEmpty] at hStray
    cases hStray
  exact ⟨w, Lib.Steps.of_silent (fun _ _ _ => id) hExec, hOwned, hNone, hNotEmpty,
    fun hOneOwner => hNotEmpty hOneOwner.stray⟩

end KiwiDevice.Camera.SlotWorld

import KiwiDevice.Camera.ChannelTable
import KiwiDevice.Camera.QueueRuns

/-!
# The scan for the snapshot stream

`mm_channel_handle_metadata` looks at the stream info of one slot after the other until it finds a
snapshot stream. A slot that is free, or whose stream is not configured yet, has none.
-/

namespace KiwiDevice.Camera

/-- The calls for the slots of a stopped channel. -/
inductive SlotCall where
  | addStream (i : Fin channelMax) (r : OpResults)
  | linkStream (i owner : Fin channelMax) (streamId : Nat)
  | delStream (i : Fin channelMax) (streamId : Nat)
  | configStream (i : Fin channelMax) (streamId : Nat) (config : StreamConfig) (r : OpResults)

/-- The stream has stream info iff it is configured. -/
def MmStream.Informed (s : MmStream) : Prop :=
  s.streamInfo = none ↔ s.state = .notused ∨ s.state = .inited ∨ s.state = .acquired

def CameraTable.slotCall (w : CameraTable) : SlotCall → Option CameraTable
  | .addStream i r => some (w.channelAddStream i r).1
  | .linkStream i owner streamId => some (w.channelLinkStream i owner streamId).1
  | .delStream i streamId => (w.channelDelStream i streamId).map Prod.fst
  | .configStream i streamId config r => some (w.channelConfigStream i streamId config r).1

def CameraTable.Informed (w : CameraTable) : Prop :=
  ∀ i, ∀ s ∈ (w.ch i).channel.streams, s.Informed

namespace MmChannel

/-- The call gets as far as the scan for the buffer's own stream. -/
def ScansSlots (ch : MmChannel) (bufInfo : BufInfo) : Prop :=
  ∃ streamObj info metadata, ch.utilGetStreamByHandler bufInfo.streamId = some streamObj ∧
    streamObj.streamInfo = some info ∧ info.streamType = .metadata ∧
    bufInfo.buf.buffer = some metadata ∧ metadata.isMetaInvalid = false ∧
    streamObj.chObj = some ch.myHdl

/-- A snapshot stream stands before every slot without stream info. -/
def SnapshotFirst (streams : List MmStream) : Prop :=
  ∀ front s back, streams = front ++ s :: back → s.streamInfo = none →
    ∃ t ∈ front, ∃ info, t.streamInfo = some info ∧ info.streamType = .snapshot

variable {streams : List MmStream}

theorem findSnapshot_ok_iff :
    (∃ id, findSnapshot streams = .ok id) ↔ SnapshotFirst streams := by
  induction streams with
  | nil =>
    constructor
    · rintro - front s back hSplit
      cases front <;> cases hSplit
    · intro _
      exact ⟨0, rfl⟩
  | cons s rest ih =>
    rw [findSnapshot]
    cases hInfo : s.streamInfo with
    | none =>
      constructor
      · rintro ⟨id, hId⟩
        cases hId
      · intro hFirst
        obtain ⟨t, hMem, _⟩ := hFirst [] s rest rfl hInfo
        cases hMem
    | some info =>
      simp only
      split
      · rename_i hSnapshot
        constructor
        · rintro - front t back hSplit hNone
          cases front with
          | nil =>
            cases hSplit
            rw [hInfo] at hNone
            cases hNone
          | cons t' front =>
            cases hSplit
            exact ⟨_, List.mem_cons_self, info, hInfo, hSnapshot⟩
        · intro _
          exact ⟨_, rfl⟩
      · rename_i hOther
        rw [ih]
        constructor
        · rintro hRest front t back hSplit hNone
          cases front with
          | nil =>
            cases hSplit
            rw [hInfo] at hNone
            cases hNone
          | cons t' front =>
            cases hSplit
            obtain ⟨u, hMem, hSnapshot⟩ := hRest front t back rfl hNone
            exact ⟨u, List.mem_cons_of_mem _ hMem, hSnapshot⟩
        · rintro hAll front t back rfl hNone
          obtain ⟨u, hMem, info', hInfo', hSnapshot⟩ := hAll (s :: front) t back rfl hNone
          rcases List.mem_cons.mp hMem with rfl | hMem
          · rw [hInfo] at hInfo'
            cases hInfo'
            exact absurd hSnapshot hOther
          · exact ⟨u, hMem, info', hInfo', hSnapshot⟩

/-- A metadata buffer is handled without reading through a null pointer iff the scan is not reached
or a snapshot stream stands before every slot without stream info. -/
theorem handleMetadata_safe_iff (ch : MmChannel) (bufInfo : BufInfo) :
    ch.handleMetadata bufInfo ≠ .error .nullDereference ↔
      (ch.ScansSlots bufInfo → SnapshotFirst ch.streams) := by
  rw [← findSnapshot_ok_iff]
  constructor
  · rintro hSafe ⟨streamObj, info, metadata, hStream, hInfo, hType, hBuffer, hValid, hOwn⟩
    cases hFind : findSnapshot ch.streams with
    | ok id => exact ⟨id, rfl⟩
    | error fault =>
      refine absurd ?_ hSafe
      rw [findSnapshot_error hFind] at hFind
      simp [handleMetadata, hStream, hInfo, hType, hBuffer, hValid, hOwn, hFind]
  · intro hScan hFault
    unfold handleMetadata at hFault
    split at hFault
    · cases hFault
    · rename_i streamObj hStream
      split at hFault
      · cases hFault
      · rename_i info hInfo
        split at hFault
        · cases hFault
        · rename_i hType
          split at hFault
          · cases hFault
          · rename_i metadata hBuffer
            dsimp only at hFault
            split at hFault
            · cases hFault
            · rename_i hValid
              split at hFault
              · cases hFault
              · rename_i hOwn
                obtain ⟨id, hId⟩ := hScan ⟨streamObj, info, metadata, hStream, hInfo,
                  not_not.mp hType, hBuffer, by simpa using hValid, not_not.mp hOwn⟩
                rw [hId] at hFault
                simp only at hFault
                split at hFault
                · cases hFault
                · split at hFault <;> cases hFault

end MmChannel

theorem informed_zero : MmStream.Informed {} := by
  simp [MmStream.Informed]

theorem MmStream.setFmt_informed {s : MmStream} (h : s.Informed) (config : StreamConfig)
    (rc : Int) : (s.setFmt config rc).1.Informed := by
  unfold MmStream.setFmt
  split
  · simp [Informed]
  · simp [Informed]
  · exact h
  · exact h

theorem MmStream.release_informed {s : MmStream} (h : s.Informed) : s.release.1.Informed := by
  unfold MmStream.release
  split
  · exact informed_zero
  · exact informed_zero
  · exact h
  · exact h

namespace CameraTable

variable {w w' : CameraTable} {i : Fin channelMax}

theorem setStream_informed (h : w.Informed) {k : Nat} {s : MmStream} (hs : s.Informed) :
    (w.setStream i k s).Informed := by
  intro j t hMem
  by_cases hAt : j = i
  · subst hAt
    simp only [setStream, setChannel, setSlot_same] at hMem
    rcases List.mem_or_eq_of_mem_set hMem with hOld | rfl
    · exact h j t hOld
    · exact hs
  · rw [setStream, setChannel, setSlot_of_ne _ hAt] at hMem
    exact h j t hMem

theorem getD_informed (h : w.Informed) (k : Nat) :
    (((w.ch i).channel.streams[k]?).getD {}).Informed := by
  cases hGet : (w.ch i).channel.streams[k]? with
  | none => exact informed_zero
  | some s => exact h i s (List.mem_of_getElem? hGet)

theorem slotCall_informed (h : w.Informed) {call : SlotCall} (hCall : w.slotCall call = some w') :
    w'.Informed := by
  cases call with
  | addStream i r =>
    cases hCall
    unfold channelAddStream
    split
    · exact h
    · dsimp only
      split
      · exact setStream_informed (w := { w with historyCount := _ }) h informed_zero
      · exact setStream_informed (w := { w with historyCount := _ }) h
          (by simp [MmStream.Informed])
  | linkStream i owner streamId =>
    cases hCall
    unfold channelLinkStream
    dsimp only
    split
    · exact h
    · split
      · rename_i hGet hFree
        have hStream := h owner _ (List.mem_of_getElem? hGet)
        apply setStream_informed h
        exact hStream
      · exact h
  | delStream i streamId =>
    simp only [slotCall, Option.map_eq_some_iff] at hCall
    obtain ⟨deleted, hDel, rfl⟩ := hCall
    unfold channelDelStream at hDel
    dsimp only at hDel
    split at hDel
    · cases hDel
      exact h
    · split at hDel
      · cases hDel
        exact h
      · rename_i s hGet
        split at hDel
        · cases hDel
          exact setStream_informed h (MmStream.release_informed (h i s (List.mem_of_getElem? hGet)))
        · split at hDel
          · cases hDel
          · rename_i p hLinked
            cases hDel
            -- the other channel only forgets the link
            have hOther := getD_informed h (i := placeSlot p) (placeIdx p)
            apply setStream_informed _ informed_zero
            apply setStream_informed h
            exact hOther
  | configStream i streamId config r =>
    cases hCall
    unfold channelConfigStream
    dsimp only
    split
    · exact h
    · split
      · exact h
      · rename_i s hGet
        split
        · exact setStream_informed h
            (MmStream.setFmt_informed (h i s (List.mem_of_getElem? hGet)) config r.configRc)
        · exact h

/-- In every order of the calls it is the free slots and those not configured that have no stream
info. -/
theorem slotCalls_informed {calls : List SlotCall} (h : w.Informed)
    (hCalls : calls.foldlM slotCall w = some w') : w'.Informed := by
  induction calls generalizing w with
  | nil =>
    cases hCalls
    exact h
  | cons call calls ih =>
    rw [List.foldlM_cons] at hCalls
    cases hCall : w.slotCall call with
    | none =>
      rw [hCall] at hCalls
      cases hCalls
    | some next =>
      rw [hCall] at hCalls
      exact ih (slotCall_informed h hCall) hCalls

/-- A free slot with no snapshot stream before it is read by the scan. -/
theorem freeSlot_faults {front back : List MmStream} {s : MmStream} {b : BufInfo} (h : w.Informed)
    (hStreams : (w.ch i).channel.streams = front ++ s :: back) (hFree : s.state = .notused)
    (hFront : ∀ t ∈ front, ∀ info, t.streamInfo = some info → info.streamType ≠ .snapshot)
    (hScans : (w.ch i).channel.ScansSlots b) :
    (w.ch i).channel.handleMetadata b = .error .nullDereference := by
  have hMem : s ∈ (w.ch i).channel.streams := by simp [hStreams]
  have hInfo : s.streamInfo = none := (h i s hMem).mpr (.inl hFree)
  by_contra hSafe
  rw [← Ne, MmChannel.handleMetadata_safe_iff] at hSafe
  obtain ⟨t, hFound, info, hSome, hSnapshot⟩ := hSafe hScans front s back hStreams hInfo
  exact hFront t hFound info hSome hSnapshot

end CameraTable

/-- An active channel with a metadata and a preview stream of its own, and two slots free. -/
def MmChannel.previewChannel : MmChannel where
  myHdl := 1
  state := .active
  bundle := { superBufNotifyCb := some 0 }
  streams := [
    { myHdl := 256, chObj := some 1, state := .active
      streamInfo := some { streamType := .metadata } },
    { myHdl := 513, chObj := some 1, state := .active
      streamInfo := some { streamType := .preview } },
    {}, {}]

theorem MmChannel.previewChannel_faults :
    previewChannel.handleMetadata ⟨256, 1, ⟨256, .metadata, 0, 1, some {}⟩⟩ =
      .error .nullDereference := by
  rfl

end KiwiDevice.Camera

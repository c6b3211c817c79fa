import KiwiDevice.Jpeg.JpegDecode

/-!
# Decode jobs are reported once

The thread is blocked on an answer that is still to come, and `encoding` tells whether the job it
was given is still to be reported and to be taken off the ongoing jobs. An error that comes before
the thread waits does not clear `event_pending`, and neither the thread nor `mm_jpegdec_fbd` looks
whether an error has been reported.
-/

namespace KiwiDevice.Jpeg

namespace DecodeState

/-- The ids of the jobs handed to `mm_jpegdec_process_decoding_job`. -/
def handed (is : List DecodeInput) : List Nat :=
  is.filterMap fun i =>
    match i with
    | .job node => some node
    | _ => none

def reported (os : List JobReport) : List Nat := os.map JobReport.jobId

/-- Where the thread would wait, the answer is there or is still to come. -/
def answerDue (s : DecodeState) : Bool :=
  match s.pc with
  | .lock w => !s.eventPending || decide (w.request ∈ s.outstanding)
  | _ => true

/-- A call that fails here is reported, and no error of the job has been. -/
def mayFail (s : DecodeState) : Bool :=
  match s.pc with
  | .enqueue => false
  | .getParameter => s.encoding
  | .setParameter => s.encoding
  | .useBuffer i => decide (s.numDstBufs ≤ i) || s.encoding
  | .fillThisBuffer => s.encoding
  | _ => true

/-- The thread is about to report a failure or to take the job off. -/
def failing (s : DecodeState) : Bool :=
  match s.pc with
  | .reportError => true
  | .removeJob => true
  | .clearEncoding => true
  | _ => false

/-- A job begins when the answers for the ones before it are there. The thread does not wait for an
answer that has come as an error or that will not come, a wait ends with a signal, the job can be
enqueued, and after an error no call fails and no buffer is filled. -/
def Meets (s : DecodeState) : DecodeInput → Prop
  | .job _ => s.outstanding = []
  | .thread ok => s.answerDue = true ∧ (ok = true ∨ s.mayFail = true)
  | .event _ eEvent => eEvent = .error → s.failing = false
  | .fillBufferDone _ => s.encoding = true
  | .spurious => False

instance (s : DecodeState) (i : DecodeInput) : Decidable (s.Meets i) :=
  match i with
  | .job _ => inferInstanceAs (Decidable (_ = _))
  | .thread _ => inferInstanceAs (Decidable (_ ∧ _))
  | .event _ _ => inferInstanceAs (Decidable (_ → _))
  | .fillBufferDone _ => inferInstanceAs (Decidable (_ = _))
  | .spurious => inferInstanceAs (Decidable False)

/-- The job is ongoing, and its session does not know it yet. -/
structure Begun (jobs : List Nat) (os : List JobReport) (s : DecodeState) : Prop where
  reports : jobs = reported os ++ [s.node]
  ongoing : s.ongoingJobQ = [s.node]
  quiet : s.outstanding = []

/-- `encoding` tells whether the last job is still to be reported. -/
structure Counted (jobs : List Nat) (os : List JobReport) (s : DecodeState) : Prop where
  reports : jobs = reported os ++ if s.encoding then [s.jobId] else []
  ongoing : s.ongoingJobQ = if s.encoding then [s.jobId] else []

/-- The answer that ends the wait is still to come, or it has come, and then it is an error, which
leaves `event_pending` set, or the expected one. -/
def Awaits (s : DecodeState) (w : DecodeWait) : Prop :=
  s.outstanding = [w.request] ∧ s.eventPending = true ∨
    s.outstanding = [] ∧ (s.eventPending = true ∨ s.omxEvent = w.event)

/-- Only the answer for the port can still come. -/
def Late (s : DecodeState) : Prop := s.outstanding = [] ∨ s.outstanding = [.portEnable]

/-- What holds at each place of the thread, for the jobs handed to it. -/
def Sound (jobs : List Nat) (os : List JobReport) (s : DecodeState) : Prop :=
  match s.pc with
  | .enqueue => jobs = reported os ++ [s.node] ∧ s.ongoingJobQ = [] ∧ s.outstanding = []
  | .takeJob => Begun jobs os s
  | .resetEncoding => Begun jobs os s ∧ s.jobId = s.node
  | .setEncoding => Begun jobs os s ∧ s.jobId = s.node
  | .setPending => Counted jobs os s ∧ s.outstanding = [] ∧ s.encoding = true
  | .emptyThisBuffer =>
    Counted jobs os s ∧ s.outstanding = [] ∧ s.eventPending = true ∧ s.encoding = true
  | .lock w => Counted jobs os s ∧ s.Awaits w
  | .blocked w => Counted jobs os s ∧ s.outstanding = [w.request]
  | .woken w =>
    Counted jobs os s ∧ s.outstanding = [] ∧ (s.omxEvent = w.event ∨ s.encoding = false)
  | .disablePending => Counted jobs os s ∧ s.outstanding = []
  | .disableCommand => Counted jobs os s ∧ s.outstanding = [] ∧ s.eventPending = true
  | .getParameter => Counted jobs os s ∧ s.outstanding = []
  | .setParameter => Counted jobs os s ∧ s.outstanding = []
  | .enablePending => Counted jobs os s ∧ s.outstanding = []
  | .enableCommand => Counted jobs os s ∧ s.outstanding = [] ∧ s.eventPending = true
  | .useBuffer _ => Counted jobs os s ∧ s.Awaits .enable
  | .fillThisBuffer => Counted jobs os s ∧ s.outstanding = []
  | .reportError => Counted jobs os s ∧ s.encoding = true ∧ s.Late
  | .removeJob => jobs = reported os ∧ s.ongoingJobQ = [s.jobId] ∧ s.Late
  | .clearEncoding => jobs = reported os ∧ s.ongoingJobQ = [] ∧ s.Late
  | .postSem => Counted jobs os s ∧ s.encoding = false ∧ s.Late
  | .returned =>
    Counted jobs os s ∧ (s.outstanding = [.fillThisBuffer] ∨ s.encoding = false ∧ s.Late)

variable {jobs : List Nat} {is : List DecodeInput} {os o : List JobReport} {s s' : DecodeState}
  {i : DecodeInput} {w : DecodeWait} {request : OmxRequest} {eEvent : OmxEvent} {ok : Bool}
  {n jobId jobSem node : Nat} {eventPending : Bool} {omxEvent : OmxEvent}

@[simp] theorem handed_append (is is' : List DecodeInput) :
    handed (is ++ is') = handed is ++ handed is' :=
  List.filterMap_append

@[simp] theorem reported_append (os o : List JobReport) :
    reported (os ++ o) = reported os ++ reported o :=
  List.map_append

theorem Awaits.late (h : s.Awaits .enable) : s.Late := by
  rcases h with ⟨hOne, -⟩ | ⟨hNone, -⟩
  · exact Or.inr hOne
  · exact Or.inl hNone

theorem sound_afterWait (hCounted : Counted jobs os s) (hQuiet : s.outstanding = [])
    (hEvent : s.omxEvent = w.event ∨ s.encoding = false) :
    Sound jobs os { s with pc := s.afterWait w } := by
  have hReturned : s.omxEvent ≠ w.event → Sound jobs os { s with pc := .returned } := by
    intro hOther
    have hReported : s.encoding = false := hEvent.resolve_left hOther
    exact ⟨⟨hCounted.reports, hCounted.ongoing⟩, Or.inr ⟨hReported, Or.inl hQuiet⟩⟩
  cases w with
  | portSettings =>
    by_cases hExpected : s.omxEvent = .portSettingsChanged
    · rw [afterWait, if_pos hExpected]
      exact ⟨⟨hCounted.reports, hCounted.ongoing⟩, hQuiet⟩
    · rw [afterWait, if_neg hExpected]
      exact hReturned hExpected
  | disable => exact ⟨⟨hCounted.reports, hCounted.ongoing⟩, hQuiet⟩
  | enable =>
    by_cases hExpected : s.omxEvent = .cmdComplete
    · rw [afterWait, if_pos hExpected]
      exact ⟨⟨hCounted.reports, hCounted.ongoing⟩, hQuiet⟩
    · rw [afterWait, if_neg hExpected]
      exact hReturned hExpected

theorem sound_lock (hCounted : Counted jobs os s) (hAwaits : s.Awaits w)
    (hDue : s.eventPending = true → w.request ∈ s.outstanding) :
    Sound jobs os { s with pc := if s.eventPending then .blocked w else s.afterWait w } := by
  by_cases hPending : s.eventPending = true
  · rw [if_pos hPending]
    refine ⟨⟨hCounted.reports, hCounted.ongoing⟩, ?_⟩
    rcases hAwaits with ⟨hOne, -⟩ | ⟨hNone, -⟩
    · exact hOne
    · have hMem := hDue hPending
      rw [hNone] at hMem
      cases hMem
  · rw [if_neg hPending]
    rcases hAwaits with ⟨-, hSet⟩ | ⟨hNone, hEvent⟩
    · exact absurd hSet hPending
    · exact sound_afterWait hCounted hNone (Or.inl (hEvent.resolve_left hPending))

theorem sound_tryTo {next : DecodePc} (hCounted : Counted jobs os s) (hLate : s.Late)
    (hFails : ok = true ∨ s.encoding = true) (hNext : Sound jobs os { s with pc := next }) :
    Sound jobs os (s.tryTo ok next) := by
  cases ok with
  | true => exact hNext
  | false =>
    have hEncoding : s.encoding = true := hFails.resolve_left Bool.false_ne_true
    exact ⟨⟨hCounted.reports, hCounted.ongoing⟩, hEncoding, hLate⟩

theorem sound_thread (h : Sound jobs os s) (hMeets : s.Meets (.thread ok))
    (hStep : s.thread ok = some (s', o)) : Sound jobs (os ++ o) s' := by
  obtain ⟨hDue, hFails⟩ := hMeets
  obtain ⟨n, jobId, encoding, eventPending, event, ongoingJobQ, jobSem, outstanding, node, pc⟩ := s
  cases pc with
  | enqueue =>
    obtain rfl : ok = true := hFails.resolve_right Bool.false_ne_true
    cases hStep
    obtain ⟨hReports, hOngoing, hQuiet⟩ := h
    rw [List.append_nil]
    exact ⟨hReports, congrArg (· ++ [node]) hOngoing, hQuiet⟩
  | takeJob =>
    cases hStep
    rw [List.append_nil]
    exact ⟨⟨h.reports, h.ongoing, h.quiet⟩, rfl⟩
  | resetEncoding =>
    cases hStep
    obtain ⟨hBegun, hJob⟩ := h
    rw [List.append_nil]
    exact ⟨⟨hBegun.reports, hBegun.ongoing, hBegun.quiet⟩, hJob⟩
  | setEncoding =>
    cases hStep
    obtain ⟨hBegun, hJob⟩ := h
    obtain rfl : jobId = node := hJob
    rw [List.append_nil]
    exact ⟨⟨hBegun.reports, hBegun.ongoing⟩, hBegun.quiet, rfl⟩
  | setPending =>
    cases hStep
    obtain ⟨hCounted, hQuiet, hEncoding⟩ := h
    rw [List.append_nil]
    exact ⟨⟨hCounted.reports, hCounted.ongoing⟩, hQuiet, rfl, hEncoding⟩
  | emptyThisBuffer =>
    cases hStep
    obtain ⟨hCounted, hQuiet, hPending, hEncoding⟩ := h
    rw [List.append_nil]
    cases ok with
    | true =>
      have hSent : OmxRequest.emptyThisBuffer :: outstanding = [.emptyThisBuffer] :=
        congrArg _ hQuiet
      exact ⟨⟨hCounted.reports, hCounted.ongoing⟩, Or.inl ⟨hSent, hPending⟩⟩
    | false => exact ⟨⟨hCounted.reports, hCounted.ongoing⟩, hEncoding, Or.inl hQuiet⟩
  | lock w =>
    cases hStep
    rw [List.append_nil]
    apply sound_lock h.1 h.2
    intro hPending
    obtain rfl : eventPending = true := hPending
    simpa [answerDue] using hDue
  | blocked w => cases hStep
  | woken w =>
    cases hStep
    obtain ⟨hCounted, hQuiet, hEvent⟩ := h
    rw [List.append_nil]
    exact sound_afterWait hCounted hQuiet hEvent
  | disablePending =>
    cases hStep
    obtain ⟨hCounted, hQuiet⟩ := h
    rw [List.append_nil]
    exact ⟨⟨hCounted.reports, hCounted.ongoing⟩, hQuiet, rfl⟩
  | disableCommand =>
    cases hStep
    obtain ⟨hCounted, hQuiet, hPending⟩ := h
    rw [List.append_nil]
    cases ok with
    | true =>
      have hSent : OmxRequest.portDisable :: outstanding = [.portDisable] := congrArg _ hQuiet
      exact ⟨⟨hCounted.reports, hCounted.ongoing⟩, Or.inl ⟨hSent, hPending⟩⟩
    | false => exact ⟨⟨hCounted.reports, hCounted.ongoing⟩, hQuiet⟩
  | getParameter =>
    cases hStep
    obtain ⟨hCounted, hQuiet⟩ := h
    rw [List.append_nil]
    apply sound_tryTo hCounted (Or.inl hQuiet) hFails
    exact ⟨⟨hCounted.reports, hCounted.ongoing⟩, hQuiet⟩
  | setParameter =>
    cases hStep
    obtain ⟨hCounted, hQuiet⟩ := h
    rw [List.append_nil]
    apply sound_tryTo hCounted (Or.inl hQuiet) hFails
    exact ⟨⟨hCounted.reports, hCounted.ongoing⟩, hQuiet⟩
  | enablePending =>
    cases hStep
    obtain ⟨hCounted, hQuiet⟩ := h
    rw [List.append_nil]
    exact ⟨⟨hCounted.reports, hCounted.ongoing⟩, hQuiet, rfl⟩
  | enableCommand =>
    cases hStep
    obtain ⟨hCounted, hQuiet, hPending⟩ := h
    rw [List.append_nil]
    constructor
    · exact ⟨hCounted.reports, hCounted.ongoing⟩
    · cases ok with
      | true => exact Or.inl ⟨congrArg (OmxRequest.portEnable :: ·) hQuiet, hPending⟩
      | false => exact Or.inr ⟨hQuiet, Or.inl hPending⟩
  | useBuffer i =>
    obtain ⟨hCounted, hAwaits⟩ := h
    by_cases hMore : i < n
    · simp only [thread, if_pos hMore] at hStep
      cases hStep
      rw [List.append_nil]
      have hReported : ok = true ∨ encoding = true := by
        simpa [mayFail, Nat.not_le.mpr hMore] using hFails
      apply sound_tryTo hCounted hAwaits.late hReported
      exact ⟨⟨hCounted.reports, hCounted.ongoing⟩, hAwaits⟩
    · simp only [thread, if_neg hMore] at hStep
      cases hStep
      rw [List.append_nil]
      exact ⟨⟨hCounted.reports, hCounted.ongoing⟩, hAwaits⟩
  | fillThisBuffer =>
    cases hStep
    obtain ⟨hCounted, hQuiet⟩ := h
    rw [List.append_nil]
    cases ok with
    | true =>
      have hSent : OmxRequest.fillThisBuffer :: outstanding = [.fillThisBuffer] :=
        congrArg _ hQuiet
      exact ⟨⟨hCounted.reports, hCounted.ongoing⟩, Or.inl hSent⟩
    | false =>
      have hEncoding : encoding = true := hFails.resolve_left Bool.false_ne_true
      exact ⟨⟨hCounted.reports, hCounted.ongoing⟩, hEncoding, Or.inl hQuiet⟩
  | reportError =>
    cases hStep
    obtain ⟨hCounted, hEncoding, hLate⟩ := h
    obtain rfl : encoding = true := hEncoding
    refine ⟨?_, hCounted.ongoing, hLate⟩
    rw [reported_append]
    exact hCounted.reports
  | removeJob =>
    cases hStep
    obtain ⟨hReports, hOngoing, hLate⟩ := h
    obtain rfl : ongoingJobQ = [jobId] := hOngoing
    rw [List.append_nil]
    exact ⟨hReports, List.erase_cons_head jobId [], hLate⟩
  | clearEncoding =>
    cases hStep
    obtain ⟨hReports, hOngoing, hLate⟩ := h
    rw [List.append_nil]
    exact ⟨⟨hReports.trans (List.append_nil _).symm, hOngoing⟩, rfl, hLate⟩
  | postSem =>
    cases hStep
    obtain ⟨hCounted, hEncoding, hLate⟩ := h
    rw [List.append_nil]
    exact ⟨⟨hCounted.reports, hCounted.ongoing⟩, Or.inr ⟨hEncoding, hLate⟩⟩
  | returned => cases hStep

theorem eventHandler_expected (s : DecodeState) (w : DecodeWait) :
    s.eventHandler w.event =
      ({ s with omxEvent := w.event, eventPending := false }.signal, []) := by
  cases w <;> rfl

theorem answer_request : w.request.Answer eEvent ↔ eEvent = w.event ∨ eEvent = .error := by
  cases w <;> rfl

theorem eventHandler_error (h : Counted jobs os s) :
    ∃ failed o, s.eventHandler .error = (failed.signal, o) ∧ Counted jobs (os ++ o) failed ∧
      failed.encoding = false ∧ failed.outstanding = s.outstanding ∧
      failed.eventPending = s.eventPending ∧ failed.pc = s.pc := by
  have hReports := h.reports
  have hOngoing := h.ongoing
  let recorded : DecodeState := { s with omxEvent := .error }
  by_cases hEncoding : s.encoding = true
  · have hHandled : s.eventHandler .error = (recorded.jobDone.signal, [.error s.jobId]) :=
      if_pos hEncoding
    rw [if_pos hEncoding] at hReports hOngoing
    refine ⟨_, _, hHandled, ⟨?_, ?_⟩, rfl, rfl, rfl, rfl⟩
    · rw [reported_append]
      exact hReports.trans (List.append_nil _).symm
    · show s.ongoingJobQ.erase s.jobId = []
      rw [hOngoing]
      exact List.erase_cons_head s.jobId []
  · have hHandled : s.eventHandler .error = (recorded.signal, []) := if_neg hEncoding
    refine ⟨_, _, hHandled, ⟨?_, hOngoing⟩, ?_, rfl, rfl, rfl⟩
    · rw [List.append_nil]
      exact hReports
    · exact Bool.eq_false_iff.mpr hEncoding

/-- Where the thread is while an answer can come. -/
def answering : DecodePc → Bool
  | .lock _ => true
  | .blocked _ => true
  | .useBuffer _ => true
  | .reportError => true
  | .removeJob => true
  | .clearEncoding => true
  | .postSem => true
  | .returned => true
  | _ => false

theorem Sound.quiet (h : Sound jobs os s) (hPlace : answering s.pc = false) :
    s.outstanding = [] := by
  obtain ⟨n, jobId, encoding, eventPending, event, ongoingJobQ, jobSem, outstanding, node, pc⟩ := s
  cases pc with
  | enqueue => exact h.2.2
  | takeJob => exact h.quiet
  | resetEncoding => exact h.1.quiet
  | setEncoding => exact h.1.quiet
  | setPending => exact h.2.1
  | emptyThisBuffer => exact h.2.1
  | woken w => exact h.2.1
  | disablePending => exact h.2
  | disableCommand => exact h.2.1
  | getParameter => exact h.2
  | setParameter => exact h.2
  | enablePending => exact h.2
  | enableCommand => exact h.2.1
  | fillThisBuffer => exact h.2
  | _ => cases hPlace

theorem signal_blocked (hPc : s.pc = .blocked w) : s.signal = { s with pc := .woken w } := by
  simp only [signal, hPc]

theorem signal_of_pc (hPc : ∀ w, s.pc ≠ .blocked w) : s.signal = s := by
  rw [signal]
  split
  · rename_i w hBlocked
    exact absurd hBlocked (hPc w)
  · rfl

theorem answer_single (hOne : s.outstanding = [request]) : (s.answer request).outstanding = [] := by
  rw [answer, hOne]
  exact List.erase_cons_head request []

theorem Counted.answer (h : Counted jobs os s) (request : OmxRequest) :
    Counted jobs os (s.answer request) :=
  ⟨h.reports, h.ongoing⟩

/-- The answer that `w` is about ends the wait, or it is an error and the job has been reported. -/
theorem eventHandler_cases (h : Counted jobs os s) (hAnswer : w.request.Answer eEvent) :
    ∃ t o, s.eventHandler eEvent = (t.signal, o) ∧ Counted jobs (os ++ o) t ∧
      t.outstanding = s.outstanding ∧ t.pc = s.pc ∧ (s.encoding = false → t.encoding = false) ∧
      (t.omxEvent = w.event ∨ t.encoding = false ∧ t.eventPending = s.eventPending) := by
  rcases answer_request.mp hAnswer with rfl | rfl
  · refine ⟨_, _, eventHandler_expected s w, ?_, rfl, rfl, id, Or.inl rfl⟩
    rw [List.append_nil]
    exact ⟨h.reports, h.ongoing⟩
  · obtain ⟨t, o, hHandled, hCounted, hEncoding, hOutstanding, hPending, hPc⟩ :=
      eventHandler_error h
    exact ⟨t, o, hHandled, hCounted, hOutstanding, hPc, fun _ => hEncoding,
      Or.inr ⟨hEncoding, hPending⟩⟩

theorem awaits_event (hCounted : Counted jobs os s) (hAwaits : s.Awaits w)
    (hMem : request ∈ s.outstanding) (hAnswer : request.Answer eEvent)
    (hPc : ∀ w, s.pc ≠ .blocked w) :
    ∃ t o, (s.answer request).eventHandler eEvent = (t, o) ∧ Counted jobs (os ++ o) t ∧
      t.Awaits w ∧ t.pc = s.pc := by
  rcases hAwaits with ⟨hOne, hPending⟩ | ⟨hNone, -⟩
  · rw [hOne] at hMem
    obtain rfl := List.mem_singleton.mp hMem
    obtain ⟨t, o, hHandled, hCounted', hOutstanding, hTo, -, hCases⟩ :=
      eventHandler_cases (hCounted.answer w.request) hAnswer
    rw [signal_of_pc (by rwa [hTo])] at hHandled
    refine ⟨t, o, hHandled, hCounted', Or.inr ⟨hOutstanding.trans (answer_single hOne), ?_⟩, hTo⟩
    · rcases hCases with hEvent | ⟨-, hSame⟩
      · exact Or.inr hEvent
      · exact Or.inl (hSame.trans hPending)
  · rw [hNone] at hMem
    cases hMem

theorem late_event (hLate : s.Late) (hMem : request ∈ s.outstanding) :
    request = DecodeWait.enable.request ∧ (s.answer request).outstanding = [] := by
  rcases hLate with hNone | hOne
  · rw [hNone] at hMem
    cases hMem
  · rw [hOne] at hMem
    obtain rfl := List.mem_singleton.mp hMem
    exact ⟨rfl, answer_single hOne⟩

theorem expected_of_failing (hAnswer : w.request.Answer eEvent)
    (hMeets : s.Meets (.event request eEvent)) (hFailing : s.failing = true) :
    eEvent = w.event := by
  apply (answer_request.mp hAnswer).resolve_right
  intro hError
  have hGoesOn := hMeets hError
  rw [hFailing] at hGoesOn
  cases hGoesOn

theorem sound_event (h : Sound jobs os s) (hMeets : s.Meets (.event request eEvent))
    (hMem : request ∈ s.outstanding) (hAnswer : request.Answer eEvent) :
    Sound jobs (os ++ ((s.answer request).eventHandler eEvent).2)
      ((s.answer request).eventHandler eEvent).1 := by
  cases hPc : s.pc with
  | lock w =>
    simp only [Sound, hPc] at h
    obtain ⟨t, o, hHandled, hCounted, hAwaits, hTo⟩ :=
      awaits_event h.1 h.2 hMem hAnswer (by simp [hPc])
    rw [hHandled]
    simp only [Sound, hTo, hPc]
    exact ⟨hCounted, hAwaits⟩
  | useBuffer i =>
    simp only [Sound, hPc] at h
    obtain ⟨t, o, hHandled, hCounted, hAwaits, hTo⟩ :=
      awaits_event h.1 h.2 hMem hAnswer (by simp [hPc])
    rw [hHandled]
    simp only [Sound, hTo, hPc]
    exact ⟨hCounted, hAwaits⟩
  | blocked w =>
    simp only [Sound, hPc] at h
    obtain ⟨hCounted, hOne⟩ := h
    rw [hOne] at hMem
    obtain rfl := List.mem_singleton.mp hMem
    obtain ⟨t, o, hHandled, hCounted', hOutstanding, hTo, -, hCases⟩ :=
      eventHandler_cases (hCounted.answer w.request) hAnswer
    rw [hHandled, signal_blocked (hTo.trans hPc)]
    exact ⟨⟨hCounted'.reports, hCounted'.ongoing⟩, hOutstanding.trans (answer_single hOne),
      hCases.imp_right And.left⟩
  | reportError =>
    simp only [Sound, hPc] at h
    obtain ⟨hCounted, hEncoding, hLate⟩ := h
    obtain ⟨rfl, hNone⟩ := late_event hLate hMem
    obtain rfl := expected_of_failing hAnswer hMeets (by simp [failing, hPc])
    rw [eventHandler_expected, signal_of_pc (by simp [answer, hPc]), List.append_nil]
    simp only [Sound, answer, hPc]
    exact ⟨⟨hCounted.reports, hCounted.ongoing⟩, hEncoding, Or.inl hNone⟩
  | removeJob =>
    simp only [Sound, hPc] at h
    obtain ⟨hReports, hOngoing, hLate⟩ := h
    obtain ⟨rfl, hNone⟩ := late_event hLate hMem
    obtain rfl := expected_of_failing hAnswer hMeets (by simp [failing, hPc])
    rw [eventHandler_expected, signal_of_pc (by simp [answer, hPc]), List.append_nil]
    simp only [Sound, answer, hPc]
    exact ⟨hReports, hOngoing, Or.inl hNone⟩
  | clearEncoding =>
    simp only [Sound, hPc] at h
    obtain ⟨hReports, hOngoing, hLate⟩ := h
    obtain ⟨rfl, hNone⟩ := late_event hLate hMem
    obtain rfl := expected_of_failing hAnswer hMeets (by simp [failing, hPc])
    rw [eventHandler_expected, signal_of_pc (by simp [answer, hPc]), List.append_nil]
    simp only [Sound, answer, hPc]
    exact ⟨hReports, hOngoing, Or.inl hNone⟩
  | postSem =>
    simp only [Sound, hPc] at h
    obtain ⟨hCounted, hEncoding, hLate⟩ := h
    obtain ⟨rfl, hNone⟩ := late_event hLate hMem
    obtain ⟨t, o, hHandled, hCounted', hOutstanding, hTo, hReported, -⟩ :=
      eventHandler_cases (hCounted.answer _) hAnswer
    rw [hHandled, signal_of_pc (by simp [hTo, answer, hPc])]
    simp only [Sound, hTo, answer, hPc]
    exact ⟨hCounted', hReported hEncoding, Or.inl (hOutstanding.trans hNone)⟩
  | returned =>
    simp only [Sound, hPc] at h
    obtain ⟨hCounted, hFill | ⟨hEncoding, hLate⟩⟩ := h
    · rw [hFill] at hMem
      obtain rfl := List.mem_singleton.mp hMem
      obtain rfl : eEvent = .error := hAnswer
      obtain ⟨t, o, hHandled, hCounted', hEncoding, hOutstanding, -, hTo⟩ :=
        eventHandler_error (hCounted.answer _)
      rw [hHandled, signal_of_pc (by simp [hTo, answer, hPc])]
      simp only [Sound, hTo, answer, hPc]
      exact ⟨hCounted', Or.inr ⟨hEncoding, Or.inl (hOutstanding.trans (answer_single hFill))⟩⟩
    · obtain ⟨rfl, hNone⟩ := late_event hLate hMem
      obtain ⟨t, o, hHandled, hCounted', hOutstanding, hTo, hReported, -⟩ :=
        eventHandler_cases (hCounted.answer _) hAnswer
      rw [hHandled, signal_of_pc (by simp [hTo, answer, hPc])]
      simp only [Sound, hTo, answer, hPc]
      exact ⟨hCounted', Or.inr ⟨hReported hEncoding, Or.inl (hOutstanding.trans hNone)⟩⟩
  | _ =>
    rw [h.quiet (by rw [hPc]; rfl)] at hMem
    cases hMem

theorem returned_of_fill (h : Sound jobs os s) (hMem : .fillThisBuffer ∈ s.outstanding) :
    s.pc = .returned ∧ s.outstanding = [.fillThisBuffer] := by
  have hAwaits : ∀ w, ¬ s.Awaits w := by
    rintro w (⟨hOne, -⟩ | ⟨hNone, -⟩)
    · rw [hOne, List.mem_singleton] at hMem
      cases w <;> cases hMem
    · rw [hNone] at hMem
      cases hMem
  have hLate : ¬ s.Late := by
    intro hLate
    cases (late_event hLate hMem).1
  cases hPc : s.pc with
  | lock w =>
    simp only [Sound, hPc] at h
    exact absurd h.2 (hAwaits w)
  | blocked w =>
    simp only [Sound, hPc] at h
    rw [h.2, List.mem_singleton] at hMem
    cases w <;> cases hMem
  | useBuffer i =>
    simp only [Sound, hPc] at h
    exact absurd h.2 (hAwaits .enable)
  | reportError =>
    simp only [Sound, hPc] at h
    exact absurd h.2.2 hLate
  | removeJob =>
    simp only [Sound, hPc] at h
    exact absurd h.2.2 hLate
  | clearEncoding =>
    simp only [Sound, hPc] at h
    exact absurd h.2.2 hLate
  | postSem =>
    simp only [Sound, hPc] at h
    exact absurd h.2.2 hLate
  | returned =>
    simp only [Sound, hPc] at h
    exact ⟨rfl, h.2.resolve_right fun hOther => hLate hOther.2⟩
  | _ =>
    rw [h.quiet (by rw [hPc]; rfl)] at hMem
    cases hMem

theorem sound_fbd (h : Sound jobs os s) (hEncoding : s.encoding = true)
    (hMem : .fillThisBuffer ∈ s.outstanding) (pBuffer : OmxBuffer) :
    Sound jobs (os ++ ((s.answer .fillThisBuffer).fbd pBuffer).2)
      ((s.answer .fillThisBuffer).fbd pBuffer).1 := by
  obtain ⟨hPc, hOne⟩ := returned_of_fill h hMem
  simp only [Sound, hPc] at h
  have hReports := h.1.reports
  have hOngoing := h.1.ongoing
  rw [if_pos hEncoding] at hReports hOngoing
  have hTo : ((s.answer .fillThisBuffer).fbd pBuffer).1.pc = .returned := hPc
  simp only [Sound, hTo]
  refine ⟨⟨?_, ?_⟩, Or.inr ⟨rfl, Or.inl (answer_single hOne)⟩⟩
  · rw [reported_append]
    exact hReports.trans (List.append_nil _).symm
  · show s.ongoingJobQ.erase s.jobId = []
    rw [hOngoing]
    exact List.erase_cons_head s.jobId []

theorem sound_job (h : Sound jobs os s) (hPc : s.pc = .returned) (hQuiet : s.outstanding = [])
    (node : Nat) : Sound (jobs ++ [node]) os { s with node, pc := .enqueue } := by
  simp only [Sound, hPc] at h
  obtain ⟨hCounted, hFill | ⟨hEncoding, -⟩⟩ := h
  · rw [hQuiet] at hFill
    cases hFill
  · have hReports := hCounted.reports
    have hOngoing := hCounted.ongoing
    simp only [hEncoding, Bool.false_eq_true, if_false, List.append_nil] at hReports hOngoing
    exact ⟨congrArg (· ++ [node]) hReports, hOngoing, hQuiet⟩

theorem sound_step (h : Sound (handed is) os s) (hMeets : s.Meets i) (hStep : s.Next i o s') :
    Sound (handed (is ++ [i])) (os ++ o) s' := by
  rw [handed_append]
  cases i with
  | job node =>
    obtain ⟨hPc, hTo⟩ := Option.ite_none_right_eq_some.mp hStep
    cases hTo
    rw [List.append_nil]
    exact sound_job h hPc hMeets node
  | thread ok =>
    rw [show handed [DecodeInput.thread ok] = [] from rfl, List.append_nil]
    exact sound_thread h hMeets hStep
  | event request eEvent =>
    obtain ⟨⟨hMem, hAnswer⟩, hTo⟩ := Option.ite_none_right_eq_some.mp hStep
    rw [show handed [DecodeInput.event request eEvent] = [] from rfl, List.append_nil]
    have hSound := sound_event h hMeets hMem hAnswer
    rwa [Option.some.inj hTo] at hSound
  | fillBufferDone pBuffer =>
    obtain ⟨hMem, hTo⟩ := Option.ite_none_right_eq_some.mp hStep
    cases hTo
    rw [show handed [DecodeInput.fillBufferDone pBuffer] = [] from rfl, List.append_nil]
    exact sound_fbd h hMeets hMem pBuffer
  | spurious => exact hMeets.elim

/-- How far the thread is from its return. -/
def rank (n : Nat) : DecodePc → Nat
  | .enqueue => n + 24
  | .takeJob => n + 23
  | .resetEncoding => n + 22
  | .setEncoding => n + 21
  | .setPending => n + 20
  | .emptyThisBuffer => n + 19
  | .lock .portSettings => n + 18
  | .blocked .portSettings => n + 17
  | .woken .portSettings => n + 17
  | .disablePending => n + 16
  | .disableCommand => n + 15
  | .lock .disable => n + 14
  | .blocked .disable => n + 13
  | .woken .disable => n + 13
  | .getParameter => n + 12
  | .setParameter => n + 11
  | .enablePending => n + 10
  | .enableCommand => n + 9
  | .useBuffer i => n - i + 8
  | .lock .enable => 7
  | .blocked .enable => 6
  | .woken .enable => 6
  | .fillThisBuffer => 5
  | .reportError => 4
  | .removeJob => 3
  | .clearEncoding => 2
  | .postSem => 1
  | .returned => 0

def work (s : DecodeState) : Nat := rank s.numDstBufs s.pc

theorem afterWait_lt (s : DecodeState) (w : DecodeWait) (n : Nat) :
    rank n (s.afterWait w) < rank n (.woken w) := by
  cases w with
  | portSettings =>
    rw [afterWait]
    split <;> simp only [rank] <;> omega
  | disable =>
    simp only [afterWait, rank]
    omega
  | enable =>
    rw [afterWait]
    split <;> simp only [rank] <;> omega

theorem lock_lt (n : Nat) (w : DecodeWait) : rank n (.woken w) < rank n (.lock w) := by
  cases w <;> simp only [rank] <;> omega

theorem blocked_rank (n : Nat) (w : DecodeWait) : rank n (.blocked w) = rank n (.woken w) := by
  cases w <;> rfl

theorem thread_lt (hStep : s.thread ok = some (s', o)) : s'.work < s.work := by
  obtain ⟨n, jobId, encoding, eventPending, event, ongoingJobQ, jobSem, outstanding, node, pc⟩ := s
  cases pc with
  | lock w =>
    cases hStep
    cases eventPending with
    | true =>
      show rank n (.blocked w) < rank n (.lock w)
      rw [blocked_rank]
      exact lock_lt n w
    | false => exact Nat.lt_trans (afterWait_lt _ w n) (lock_lt n w)
  | woken w =>
    cases hStep
    exact afterWait_lt _ w n
  | useBuffer i =>
    by_cases hMore : i < n
    · simp only [thread, if_pos hMore] at hStep
      cases ok <;> cases hStep <;> simp [work, tryTo, rank]
      omega
    · simp only [thread, if_neg hMore] at hStep
      cases hStep
      simp only [work, rank]
      omega
  | blocked w => cases hStep
  | returned => cases hStep
  | _ => cases ok <;> cases hStep <;> simp [work, tryTo, send, rank]

theorem thread_reports (hStep : s.thread ok = some (s', o)) : ∀ r ∈ o, r = .error s.jobId := by
  obtain ⟨n, jobId, encoding, eventPending, event, ongoingJobQ, jobSem, outstanding, node, pc⟩ := s
  cases pc with
  | useBuffer i =>
    simp only [thread] at hStep
    split at hStep <;> cases hStep <;> simp
  | blocked w => cases hStep
  | returned => cases hStep
  | _ => cases ok <;> cases hStep <;> simp

theorem thread_ready (hWaits : ∀ w, s.pc ≠ .blocked w) (hReturned : s.pc ≠ .returned) (ok : Bool) :
    ∃ s' o, s.thread ok = some (s', o) := by
  obtain ⟨n, jobId, encoding, eventPending, event, ongoingJobQ, jobSem, outstanding, node, pc⟩ := s
  cases pc with
  | useBuffer i =>
    simp only [thread]
    split <;> exact ⟨_, _, rfl⟩
  | blocked w => exact absurd rfl (hWaits w)
  | returned => exact absurd rfl hReturned
  | _ => cases ok <;> exact ⟨_, _, rfl⟩

@[simp] theorem signal_work (s : DecodeState) : s.signal.work = s.work := by
  rw [signal]
  split
  · rename_i w hBlocked
    simp only [work, hBlocked, blocked_rank]
  · rfl

theorem eventHandler_work (s : DecodeState) (eEvent : OmxEvent) :
    (s.eventHandler eEvent).1.work = s.work := by
  cases eEvent with
  | error =>
    simp only [eventHandler]
    split <;> exact signal_work _
  | cmdComplete => exact signal_work _
  | portSettingsChanged => exact signal_work _
  | other => rfl

theorem eventHandler_reports (s : DecodeState) (eEvent : OmxEvent) :
    ∀ r ∈ (s.eventHandler eEvent).2, r = .error s.jobId := by
  cases eEvent with
  | error =>
    simp only [eventHandler]
    split <;> simp
  | _ => simp [eventHandler]

theorem step_le (hStep : s.Next i o s') (hJob : ∀ node, i ≠ .job node) : s'.work ≤ s.work := by
  cases i with
  | job node => exact absurd rfl (hJob node)
  | thread ok => exact Nat.le_of_lt (thread_lt hStep)
  | event request eEvent =>
    obtain ⟨-, hTo⟩ := Option.ite_none_right_eq_some.mp hStep
    have hSame := eventHandler_work (s.answer request) eEvent
    rw [Option.some.inj hTo] at hSame
    exact Nat.le_of_eq hSame
  | fillBufferDone pBuffer =>
    obtain ⟨-, hTo⟩ := Option.ite_none_right_eq_some.mp hStep
    cases hTo
    exact Nat.le_refl _
  | spurious =>
    simp only [Next, step] at hStep
    split at hStep
    · rename_i w hBlocked
      cases hStep
      simp only [work, hBlocked, blocked_rank, Nat.le_refl]
    · cases hStep

theorem step_done (hStep : s.Next i o s') {output : JpegOutput} (hMem : .done jobId output ∈ o) :
    ∃ pBuffer, i = .fillBufferDone pBuffer ∧ output = pBuffer.output := by
  cases i with
  | job node =>
    obtain ⟨-, hTo⟩ := Option.ite_none_right_eq_some.mp hStep
    cases hTo
    cases hMem
  | thread ok => cases thread_reports hStep _ hMem
  | event request eEvent =>
    obtain ⟨-, hTo⟩ := Option.ite_none_right_eq_some.mp hStep
    have hReports := eventHandler_reports (s.answer request) eEvent
    rw [Option.some.inj hTo] at hReports
    cases hReports _ hMem
  | fillBufferDone pBuffer =>
    obtain ⟨-, hTo⟩ := Option.ite_none_right_eq_some.mp hStep
    cases hTo
    cases List.mem_singleton.mp hMem
    exact ⟨pBuffer, rfl, rfl⟩
  | spurious =>
    simp only [Next, step] at hStep
    split at hStep <;> cases hStep
    cases hMem

/-- A run in which every step meets the condition. -/
abbrev MeetingRun (s₀ : DecodeState) (is : List DecodeInput) (os : List JobReport)
    (s : DecodeState) : Prop :=
  Lib.Steps Next (fun _ _ s i _ => s.Meets i) s₀ is os s

theorem sound_of_run (run : MeetingRun (idle n jobId eventPending omxEvent jobSem node) is os s) :
    Sound (handed is) os s := by
  apply run.history (I := fun is os s => Sound (handed is) os s)
  · exact ⟨⟨rfl, rfl⟩, Or.inr ⟨rfl, Or.inl rfl⟩⟩
  · intro is os s i o s' hMeets h hStep
    exact sound_step h hMeets hStep

theorem done_of_run (run : MeetingRun (idle n jobId eventPending omxEvent jobSem node) is os s) :
    ∀ id output, .done id output ∈ os →
      ∃ pBuffer, .fillBufferDone pBuffer ∈ is ∧ output = pBuffer.output := by
  apply run.history (I := fun is os _ => ∀ id output, .done id output ∈ os →
    ∃ pBuffer, .fillBufferDone pBuffer ∈ is ∧ output = pBuffer.output)
  · intro id output hMem
    cases hMem
  · intro is os s i o s' _ h hStep id output hMem
    rcases List.mem_append.mp hMem with hOld | hNew
    · obtain ⟨pBuffer, hBefore, hOutput⟩ := h id output hOld
      exact ⟨pBuffer, List.mem_append_left _ hBefore, hOutput⟩
    · obtain ⟨pBuffer, rfl, hOutput⟩ := step_done hStep hNew
      exact ⟨pBuffer, List.mem_append_right _ List.mem_cons_self, hOutput⟩

theorem Sound.reported_prefix (h : Sound jobs os s) : ∃ left, jobs = reported os ++ left := by
  cases hPc : s.pc with
  | enqueue => 
    simp only [Sound, hPc] at h
    exact ⟨_, h.1⟩
  | takeJob =>
    simp only [Sound, hPc] at h
    exact ⟨_, h.reports⟩
  | removeJob =>
    simp only [Sound, hPc] at h
    exact ⟨[], by simpa using h.1⟩
  | clearEncoding =>
    simp only [Sound, hPc] at h
    exact ⟨[], by simpa using h.1⟩
  | _ =>
    simp only [Sound, hPc] at h
    exact ⟨_, h.1.reports⟩

theorem Sound.all_reported (h : Sound jobs os s) (hReturned : s.pc = .returned)
    (hQuiet : s.outstanding = []) : jobs = reported os ∧ s.ongoingJobQ = [] := by
  simp only [Sound, hReturned] at h
  obtain ⟨hCounted, hFill | ⟨hEncoding, -⟩⟩ := h
  · rw [hQuiet] at hFill
    cases hFill
  · simpa [hEncoding] using And.intro hCounted.reports hCounted.ongoing

theorem Sound.blocked (h : Sound jobs os s) (hPc : s.pc = .blocked w) :
    w.request ∈ s.outstanding := by
  simp only [Sound, hPc] at h
  rw [h.2]
  exact List.mem_cons_self

/-- The thread is blocked only while the answer it waits for is still to come; otherwise it goes on,
and is nearer to its return with each of its steps. The jobs are reported in order, none twice,
those that are done with the output of a filled buffer; when the thread has returned and all answers
have come, each job has been reported and none is ongoing. -/
theorem decoded_of_run (run : MeetingRun (idle n jobId eventPending omxEvent jobSem node) is os s) :
    (∀ w, s.pc = .blocked w → w.request ∈ s.outstanding) ∧
    ((∀ w, s.pc ≠ .blocked w) → s.pc ≠ .returned → ∀ ok, ∃ s' o, s.Next (.thread ok) o s') ∧
    (∀ ok o s', s.Next (.thread ok) o s' → s'.work < s.work) ∧
    (∀ i o s', (∀ node, i ≠ .job node) → s.Next i o s' → s'.work ≤ s.work) ∧
    (∃ left, handed is = reported os ++ left) ∧
    (∀ id output, .done id output ∈ os →
      ∃ pBuffer, .fillBufferDone pBuffer ∈ is ∧ output = pBuffer.output) ∧
    (s.pc = .returned → s.outstanding = [] → handed is = reported os ∧ s.ongoingJobQ = []) := by
  have h := sound_of_run run
  refine ⟨fun w => h.blocked, thread_ready, ?_, ?_, h.reported_prefix, done_of_run run,
    h.all_reported⟩
  · intro ok o s' hStep
    exact thread_lt hStep
  · intro i o s' hJob hStep
    exact step_le hStep hJob

def checked (s : DecodeState) (i : DecodeInput) : Option (DecodeState × List JobReport) :=
  if s.Meets i then s.step i else none

theorem meetingRun_of_exec {s₀ : DecodeState} {r : DecodeState × List JobReport}
    (h : Lib.exec (fun _ _ => checked) [] [] s₀ is = some r) : MeetingRun s₀ is r.2 r.1 := by
  apply Lib.Steps.of_exec _ _ _ h
  intro i _ is os s s' o hStep
  rw [checked] at hStep
  obtain ⟨hMeets, hTo⟩ := Option.ite_none_right_eq_some.mp hStep
  exact ⟨hTo, hMeets⟩

def goOn (n : Nat) : List DecodeInput := List.replicate n (.thread true)

/-- A job that is done, and one that ends with an error while the thread waits. -/
def twoJobs : List DecodeInput :=
  List.flatten
    [[.job 1], goOn 7, [.event .emptyThisBuffer .portSettingsChanged], goOn 4,
      [.event .portDisable .cmdComplete], goOn 8, [.event .portEnable .cmdComplete], goOn 2,
      [.fillBufferDone ⟨16, 8⟩], [.job 2], goOn 7, [.event .emptyThisBuffer .error], goOn 1]

theorem twoJobs_run : ∃ s, MeetingRun (idle 2 0 false .cmdComplete 0 0) twoJobs
    [.done 1 ⟨16, 0, 8⟩, .error 2] s ∧ s.pc = .returned ∧ s.outstanding = [] :=
  ⟨_, meetingRun_of_exec (r := (_, _)) rfl, rfl, rfl⟩

theorem twoJobs_decoded : handed twoJobs = [1, 2] ∧
    ∃ s, MeetingRun (idle 2 0 false .cmdComplete 0 0) twoJobs [.done 1 ⟨16, 0, 8⟩, .error 2] s ∧
      handed twoJobs = reported [.done 1 ⟨16, 0, 8⟩, .error 2] ∧ s.ongoingJobQ = [] := by
  obtain ⟨s, run, hPc, hQuiet⟩ := twoJobs_run
  obtain ⟨-, -, -, -, -, -, hAll⟩ := decoded_of_run run
  exact ⟨rfl, s, run, hAll hPc hQuiet⟩

theorem run_of_exec {s₀ : DecodeState} {r : DecodeState × List JobReport}
    (h : Lib.exec (fun _ _ => step) [] [] s₀ is = some r) :
    Lib.Steps Next Lib.anyStep s₀ is r.2 r.1 := by
  apply Lib.Steps.of_exec _ _ _ h
  intro i _ is os s s' o hStep
  exact ⟨hStep, trivial⟩

/-- An error that comes before the thread waits leaves it blocked for ever, though nothing is left
to come; and a job whose port could not be disabled is reported when that fails and when its buffer
is filled. -/
theorem error_before_wait_blocks :
    (∃ is os s, Lib.Steps Next Lib.anyStep (idle 1 0 false .cmdComplete 0 0) is os s ∧
      handed is = [1] ∧ os = [.error 1] ∧ s.pc = .blocked .portSettings ∧ s.outstanding = []) ∧
    ∃ is os s, Lib.Steps Next Lib.anyStep (idle 1 0 false .cmdComplete 0 0) is os s ∧
      handed is = [1] ∧ os = [.error 1, .done 1 ⟨16, 0, 8⟩] ∧ s.pc = .returned ∧
      s.outstanding = [] := by
  let early : List DecodeInput :=
    List.flatten [[.job 1], goOn 6, [.event .emptyThisBuffer .error], goOn 1]
  let twice : List DecodeInput :=
    List.flatten
      [[.job 1], goOn 7, [.event .emptyThisBuffer .portSettingsChanged], goOn 4,
        [.event .portDisable .error], goOn 7, [.event .portEnable .cmdComplete], goOn 2,
        [.fillBufferDone ⟨16, 8⟩]]
  constructor
  · exact ⟨early, _, _, run_of_exec (r := (_, _)) rfl, rfl, rfl, rfl, rfl⟩
  · exact ⟨twice, _, _, run_of_exec (r := (_, _)) rfl, rfl, rfl, rfl, rfl⟩

end DecodeState

end KiwiDevice.Jpeg

import ServiceClient.Proofs.CallHistory

/-!
Cancelling a call. A granted cancellation is final: a call that is cancelled before its handler runs
never gives a value. How the call ends depends on when it was cancelled, before it was resolved or
meanwhile, and a call whose resolution has ended cannot be cancelled any more.
-/

namespace ServiceClient

namespace CallSession

variable {p : Parts} {source : CallSource} {s t : CallSession} {step : CallStep}

/-- A step on a cancelled call that asks for its outcome fails, for the reason that is noticed
first. -/
def Declines (t : CallSession) (step : CallStep) (result : Except Failure Value) : Prop :=
  (t.Resolves step → result = .error .cancelled) ∧ (¬ t.Resolves step → result = .error .shutDown)

theorem not_ok_of_declines {value : Value} : ¬ t.Declines step (.ok value) := by
  rintro ⟨opened, closed⟩
  by_cases resolves : t.Resolves step
  · cases opened resolves
  · cases closed resolves

theorem declines_of_cancelled {result : Except Failure Value} (cancelled : t.call.cancelled = true)
    (answered : (t.step p step).2 = .resolved result) : t.Declines step result := by
  constructor
  · intro resolves
    rw [step_of_resolves resolves, Call.resolve_of_cancelled cancelled] at answered
    exact (CallAnswer.resolved.inj answered).symm
  · intro otherwise
    exact eq_shutDown_of_not_resolves otherwise answered

/-- How a resolution ends that gets a response at most: with the failure of phase one if there is one,
and otherwise as cancelled. If the failure stops the wait and there is no time limit, it does not
end. -/
structure EndsUnhandled (p : Parts) (r : Request) (limit : Value) (late : Prop)
    (answer : CallAnswer) : Prop where
  overdue : late → answer = .resolved (.error (p.overdue r limit))
  failed : ¬ late → ∀ e, e.stops = false → p.exchange r limit = .error e →
    answer = .resolved (.error (p.raised r limit e))
  stopped : ¬ late → ∀ e, e.stops = true → p.exchange r limit = .error e →
    limit.isNull = true ∧ answer = .unending
  received : ¬ late → ∀ response, p.exchange r limit = .ok response →
    answer = .resolved (.error .cancelled)

theorem not_ok_of_endsUnhandled {r : Request} {limit value : Value} {late : Prop} :
    ¬ EndsUnhandled p r limit late (.resolved (.ok value)) := by
  intro ends
  by_cases late : late
  · cases ends.overdue late
  · cases exchanged : p.exchange r limit with
    | error e =>
      cases stops : e.stops with
      | true => cases (ends.stopped late e stops exchanged).2
      | false => cases ends.failed late e stops exchanged
    | ok response => cases ends.received late response exchanged

/-! ### Granted and refused cancellations -/

section Clauses

variable {past future : List Moment} {e : Event} {steps : List CallStep} {answer : CallAnswer}
  (fresh : s.call.Fresh source)

include fresh

/-- A cancellation is refused exactly if the one resolution of the call has ended before, and then
changes nothing. -/
theorem cancel_refused_iff (split : s.history p steps = past ++ .answer t .cancel answer :: future) :
    ∃ granted, answer = .granted granted ∧
      (granted = false ↔ ∃ t' step' result, .answer t' step' (.resolved result) ∈ past ∧
        t'.call.started = false ∧ t'.Attempts step') ∧
      (granted = false → (t.step p .cancel).1 = t) := by
  obtain ⟨before, later, -, rfl, rfl, rfl, -⟩ := of_history_eq_answer split
  have quiet : (s.after p before).newEvents p .cancel = [] :=
    newEvents_of_same (events_of_not_resolves id)
  rw [quiet, List.map_nil, List.append_nil, ← finished_after_iff fresh]
  have steps := steps_step p (s.after p before) .cancel
  generalize (s.after p before).step p .cancel = after at steps
  cases steps with
  | granted unfinished => exact ⟨true, rfl, by simp [unfinished], by simp⟩
  | refused finished => exact ⟨false, rfl, by simp [finished], fun _ => rfl⟩
  | resolved resolves => exact resolves.elim

/-- While a call is resolved a cancellation is refused exactly if the time limit has passed. -/
theorem cancel_refused_meanwhile_iff {granted : Bool}
    (split : s.history p steps = past ++ .event (.cancel granted) :: future) :
    granted = false ↔ .event .timeLimit ∈ past := by
  obtain ⟨resolution⟩ := resolution_of_event fresh split
  have before : resolution.early ++ [.cancel granted] <+: resolution.ended.events :=
    ⟨resolution.late, by simp [resolution.events]⟩
  rw [resolution.event_mem_past]
  exact resolution.ends.logged.refused _ granted before

/-- Granted cancellations alone make a call cancelled. -/
theorem cancelled_iff_granted (uncancelled : s.call.cancelled = false)
    (split : s.history p steps = past ++ .answer t step answer :: future) :
    (t.step p step).1.call.cancelled = true ↔
      ∃ m ∈ past ++ [.answer t step answer], m.cancels? = some true := by
  obtain ⟨before, later, -, rfl, rfl, rfl, -⟩ := of_history_eq_answer split
  have cancelled := cancelled_after_iff (p := p) (.inl fresh) (before ++ [step])
  simpa [uncancelled, after_append, history_append, history] using cancelled

/-- A call that is cancelled between steps is not resolved any more. -/
theorem history_of_cancel
    (split : s.history p steps = past ++ .answer t .cancel (.granted true) :: future) :
    (∀ e, .event e ∉ future) ∧
      ∀ t' step' result, .answer t' step' (.resolved result) ∈ future → t'.Declines step' result := by
  obtain ⟨before, later, -, rfl, answered, -, rfl⟩ := of_history_eq_answer split
  have cancelled : ((s.after p before).step p .cancel).1.call.cancelled = true := by
    have last := cancelled_after_iff (p := p) (.inl fresh) (before ++ [.cancel])
    rw [after_append, after_cons, after_nil, history_append] at last
    exact last.mpr (.inr ⟨.answer (s.after p before) .cancel (.granted true),
      by simp [history, ← answered], rfl⟩)
  have afterwards := history_of_cancelled (p := p) cancelled later
  constructor
  · intro e inside
    obtain ⟨t, step, ⟨⟩, -⟩ := afterwards _ inside
  · intro t' step' result inside
    obtain ⟨t, step, same, cancelled⟩ := afterwards _ inside
    obtain ⟨rfl, rfl, answered⟩ := Moment.answer.inj same
    exact declines_of_cancelled cancelled answered.symm

/-- Before a call is resolved for the first time nothing happens to it. -/
theorem quiet_of_unattempted
    (split : s.history p steps = past ++ .answer t .cancel answer :: future)
    (unattempted : ∀ t' step' answer', .answer t' step' answer' ∈ past → ¬ t'.Attempts step')
    (e : Event) : .event e ∉ past := by
  obtain ⟨before, later, -, rfl, -, rfl, -⟩ := of_history_eq_answer split
  rw [newEvents_of_same (events_of_not_resolves id), List.map_nil, List.append_nil] at unattempted ⊢
  intro inside
  obtain ⟨earlier, others, split⟩ := List.append_of_mem inside
  obtain ⟨resolution⟩ := resolution_of_event fresh split
  have answered : .answer resolution.session resolution.step (.ofAwaited resolution.awaited) ∈
      resolution.late.map .event ++ .answer resolution.session resolution.step
        (.ofAwaited resolution.awaited) :: resolution.rest := by simp
  rw [← resolution.future_eq] at answered
  refine unattempted resolution.session resolution.step (.ofAwaited resolution.awaited) ?_
    resolution.attempts
  exact split ▸ List.mem_append_right _ (List.mem_cons_of_mem _ answered)

/-- A call that is cancelled while it is resolved, before its handler runs, ends with the failure of
phase one or as cancelled, and declines ever after. -/
theorem history_of_cancel_meanwhile
    (split : s.history p steps = past ++ .event (.cancel true) :: future)
    (unhandled : .event .handle ∉ past) :
    .event .handle ∉ future ∧ ∃ r late t step answer rest, source = .request r ∧
      future = List.map .event late ++ .answer t step answer :: rest ∧ t.Attempts step ∧
      EndsUnhandled p r t.call.timeout (.event .timeLimit ∈ future) answer ∧
      ∀ t' step' result, .answer t' step' (.resolved result) ∈ rest → t'.Declines step' result := by
  obtain ⟨resolution⟩ := resolution_of_event fresh split
  have granted : Event.cancel true ∈ resolution.ended.events := by simp [resolution.events]
  have cancelled : resolution.ended.cancelled = true :=
    resolution.ends.logged.cancelled.mpr granted
  have inTime : Event.timeLimit ∉ resolution.early := by
    rw [← resolution.event_mem_past, ← cancel_refused_meanwhile_iff fresh split]
    simp
  have unhandledEarly : Event.handle ∉ resolution.early := by
    rwa [← resolution.event_mem_past]
  have unhandledLate : Event.handle ∉ resolution.late := by
    intro inside
    obtain ⟨between, others, late⟩ := List.append_of_mem inside
    have before : resolution.early ++ .cancel true :: between ++ [.handle] <+:
        resolution.ended.events := ⟨others, by simp [resolution.events, late]⟩
    exact resolution.ends.uncancelled _ before (by simp)
  have limited : Event.timeLimit ∈ resolution.ended.events ↔ .event .timeLimit ∈ future := by
    simp [resolution.events, resolution.event_mem_future, inTime]
  have unhandled : Event.handle ∉ resolution.ended.events := by
    simp [resolution.events, unhandledEarly, unhandledLate]
  have ends : EndsUnhandled p resolution.request resolution.session.call.timeout
      (.event .timeLimit ∈ future) (.ofAwaited resolution.awaited) := by
    rw [← limited]
    constructor
    case overdue =>
      intro late
      rw [resolution.ends.overdue late, CallAnswer.ofAwaited_some]
    case failed =>
      intro inTime e goesOn failed
      rw [resolution.ends.failed inTime e goesOn failed, CallAnswer.ofAwaited_some]
    case stopped =>
      intro inTime e stops failed
      obtain ⟨unlimited, unending⟩ := resolution.ends.stopped inTime e stops failed
      exact ⟨unlimited, by rw [unending, CallAnswer.ofAwaited_none]⟩
    case received =>
      intro inTime response got
      rw [resolution.ends.dropped inTime response got unhandled, CallAnswer.ofAwaited_some]
  refine ⟨by rwa [resolution.event_mem_future], resolution.request, resolution.late,
    resolution.session, resolution.step, _, resolution.rest, resolution.source_eq,
    resolution.future_eq, resolution.attempts, ends, ?_⟩
  intro t' step' result inside
  obtain ⟨t, step, same, -, kept⟩ := resolution.afterwards _ inside
  obtain ⟨rfl, rfl, answered⟩ := Moment.answer.inj same
  exact declines_of_cancelled (kept cancelled) answered.symm

/-- Once the time limit passed the call ends with that, cancelled or not. -/
theorem overdue_of_timeLimit (split : s.history p steps = past ++ .event .timeLimit :: future) :
    ∃ r late t step rest, source = .request r ∧ future = List.map .event late ++
      .answer t step (.resolved (.error (p.overdue r t.call.timeout))) :: rest := by
  obtain ⟨resolution⟩ := resolution_of_event fresh split
  have late : Event.timeLimit ∈ resolution.ended.events := by simp [resolution.events]
  have future_eq := resolution.future_eq
  rw [resolution.ends.overdue late, CallAnswer.ofAwaited_some] at future_eq
  exact ⟨_, _, _, _, _, resolution.source_eq, future_eq⟩

/-- After a granted cancellation the handler does not start to run, and no value is given unless it
ran before. -/
theorem unhandled_of_granted {m : Moment} (split : s.history p steps = past ++ m :: future)
    (granted : m.cancels? = some true) (unhandled : .event .handle ∉ past) :
    .event .handle ∉ future ∧
      ∀ t step value, .answer t step (.resolved (.ok value)) ∉ future := by
  cases m with
  | event e =>
    cases e with
    | cancel g =>
      obtain rfl : g = true := Option.some.inj granted
      obtain ⟨unhandled, r, late, t, step, answer, rest, -, future_eq, -, ends, declines⟩ :=
        history_of_cancel_meanwhile fresh split unhandled
      refine ⟨unhandled, fun t' step' value inside => ?_⟩
      rw [future_eq] at inside
      simp only [List.mem_append, List.mem_map, reduceCtorEq, and_false, exists_false, false_or,
        List.mem_cons, Moment.answer.injEq] at inside
      rcases inside with ⟨-, -, rfl⟩ | inside
      · exact not_ok_of_endsUnhandled ends
      · exact not_ok_of_declines (declines _ _ _ inside)
    | _ => cases granted
  | answer t step answer =>
    have answered : answer = .granted true := by
      cases answer <;> simp_all [Moment.cancels?]
    subst answered
    obtain ⟨before, later, -, -, stepped, -⟩ := of_history_eq_answer split
    obtain rfl := eq_cancel_of_granted stepped.symm
    obtain ⟨quiet, declines⟩ := history_of_cancel fresh split
    constructor
    · exact quiet .handle
    · exact fun t' step' value inside => not_ok_of_declines (declines _ _ _ inside)

end Clauses

/-! ### Cancellation is final -/

/-- How the history `h` of a call goes when it is cancelled, between steps or while it is resolved. -/
structure HonoursCancellation (p : Parts) (source : CallSource) (h : List Moment) : Prop where
  /-- Between steps a cancellation is refused exactly if the one resolution of the call has ended
  before, and then it changes nothing. -/
  refused : ∀ past t answer future, h = past ++ .answer t .cancel answer :: future →
    ∃ granted, answer = .granted granted ∧
      (granted = false ↔ ∃ t' step' result, .answer t' step' (.resolved result) ∈ past ∧
        t'.call.started = false ∧ t'.Attempts step') ∧
      (granted = false → (t.step p .cancel).1 = t)
  /-- While the call is resolved a cancellation is refused exactly if the time limit has passed,
  which ended the call. -/
  refusedMeanwhile : ∀ past granted future, h = past ++ .event (.cancel granted) :: future →
    (granted = false ↔ .event .timeLimit ∈ past)
  /-- Once the time limit passed the call ends with that, whether it is cancelled or a cancellation is
  refused. -/
  overdue : ∀ past future, h = past ++ .event .timeLimit :: future →
    ∃ r late t step rest, source = .request r ∧ future = List.map .event late ++
      .answer t step (.resolved (.error (p.overdue r t.call.timeout))) :: rest
  /-- The call is cancelled by granted cancellations alone. -/
  cancelled : ∀ past t step answer future, h = past ++ .answer t step answer :: future →
    ((t.step p step).1.call.cancelled = true ↔
      ∃ m ∈ past ++ [.answer t step answer], m.cancels? = some true)
  /-- A call that is cancelled before its handler runs never runs it and never gives a value. -/
  final : ∀ past m future, h = past ++ m :: future → m.cancels? = some true →
    .event .handle ∉ past → .event .handle ∉ future ∧
      ∀ t step value, .answer t step (.resolved (.ok value)) ∉ future
  /-- A call that is cancelled between steps asks for nothing more, and for nothing at all if it was
  not resolved before. From then on it fails as cancelled unless the context is shut down. -/
  between : ∀ past t future, h = past ++ .answer t .cancel (.granted true) :: future →
    ((∀ t' step' answer, .answer t' step' answer ∈ past → ¬ t'.Attempts step') →
      ∀ e, .event e ∉ h) ∧
    (∀ e, .event e ∉ future) ∧
    ∀ t' step' result, .answer t' step' (.resolved result) ∈ future → t'.Declines step' result
  /-- A call that is cancelled in phase one fails as phase one does, or as cancelled if there is a
  response, and later attempts fail. -/
  meanwhile : ∀ past future, h = past ++ .event (.cancel true) :: future → .event .handle ∉ past →
    ∃ r late t step answer rest, source = .request r ∧
      future = List.map .event late ++ .answer t step answer :: rest ∧ t.Attempts step ∧
      EndsUnhandled p r t.call.timeout (.event .timeLimit ∈ future) answer ∧
      ∀ t' step' result, .answer t' step' (.resolved result) ∈ rest → t'.Declines step' result

end CallSession

end ServiceClient

import ServiceClient.Proofs.CallHistory

/-!
What the error mapper of a call is told. Failures to get credentials or a response and passed time
limits go through the mapper, once and in phase one alone: every other failure of phase one, every
failure of the handler and every outcome that is known from the start reaches the caller as tasks hand
it over. So the mapper is told of one failure at most, whatever steps are taken on the call.
-/

namespace ServiceClient

/-- The failure that the mapper is told. -/
def Event.told? : Event → Option Failure
  | .mapError e => some e
  | _ => none

/-- What the mapper is told in the course of events. -/
def Event.told (events : List Event) : List Failure := events.filterMap told?

/-- What the mapper is told in a history. -/
def Moment.told (h : List Moment) : List Failure := Event.told (h.filterMap event?)

@[simp] theorem Event.told_nil : told [] = [] := rfl

@[simp] theorem Event.told_append (a b : List Event) : told (a ++ b) = told a ++ told b :=
  List.filterMap_append

@[simp] theorem Moment.told_append (a b : List Moment) : told (a ++ b) = told a ++ told b := by
  simp [told]

@[simp] theorem Moment.told_answer (t : CallSession) (step : CallStep) (answer : CallAnswer)
    (rest : List Moment) : told (.answer t step answer :: rest) = told rest := rfl

theorem Moment.exists_event_of_told {h : List Moment} (heard : told h ≠ []) :
    ∃ e, .event e ∈ h := by
  obtain ⟨e, rest, shape⟩ := List.exists_cons_of_ne_nil heard
  have inside : e ∈ told h := by simp [shape]
  obtain ⟨event, happened, -⟩ := List.mem_filterMap.mp inside
  obtain ⟨m, listed, same⟩ := List.mem_filterMap.mp happened
  cases m with
  | event other => exact ⟨other, listed⟩
  | answer => cases same

namespace Parts

/-- What the mapper hears when it is told of a failure: nothing if there is no mapper. -/
def tells (p : Parts) (e : Failure) : List Failure :=
  match p.mapError with
  | some _ => [e]
  | none => []

/-- What the mapper hears of a failure of phase one. -/
def hears (p : Parts) (r : Request) (limit : Value) : Failure → List Failure
  | .timeout _ => p.tells (Call.timedOut limit r)
  | .credentials message => p.tells (.credentials message)
  | .dispatch message => p.tells (.dispatch message)
  | _ => []

/-- A failure goes through the mapper: the mapper is told of it and of nothing else, and what it makes
of it is raised. Without a mapper the failure itself is raised. -/
def Maps (p : Parts) (e : Failure) (told : List Failure) (answer : CallAnswer) : Prop :=
  match p.mapError with
  | some map => told = [e] ∧ answer = .resolved (.error (map e).raised)
  | none => told = [] ∧ answer = .resolved (.error e)

theorem maps_tells (p : Parts) {e : Failure} (goesOn : e.stops = false) :
    p.Maps e (p.tells e) (.resolved (.error (p.mapped e).raised)) := by
  unfold Maps tells mapped
  cases p.mapError with
  | some map => exact ⟨rfl, rfl⟩
  | none => exact ⟨rfl, by simp [Failure.raised, goesOn]⟩

end Parts

/-- A failure to get credentials or to get a response. -/
def Failure.IsMapped : Failure → Prop
  | .credentials _ | .dispatch _ => True
  | _ => False

/-- How a call for a request ends, given the events of its resolution: what its mapper is told and what
is raised. -/
structure RaisesMapped (p : Parts) (r : Request) (limit : Value) (events : List Event)
    (answer : CallAnswer) : Prop where
  /-- A passed time limit goes through the mapper as a failure to get a response. -/
  overdue : .timeLimit ∈ events →
    p.Maps (Call.timedOut limit r) (Event.told events) answer
  /-- So does a part's own report that a time limit passed. -/
  timedOut : .timeLimit ∉ events → ∀ message, p.exchange r limit = .error (.timeout message) →
    p.Maps (Call.timedOut limit r) (Event.told events) answer
  /-- Failures to get credentials or a response go through the mapper as they are. -/
  mapped : .timeLimit ∉ events → ∀ e, e.IsMapped → p.exchange r limit = .error e →
    p.Maps e (Event.told events) answer
  /-- Every other failure of phase one that does not stop the wait is raised as workers hand it
  over. -/
  unmapped : .timeLimit ∉ events → ∀ e, ¬ e.IsMapped → (∀ message, e ≠ .timeout message) →
    e.stops = false → p.exchange r limit = .error e →
    Event.told events = [] ∧ answer = .resolved (.error e.handedOver)
  /-- A failure that stops the wait is not raised. Only a time limit ends the call then. -/
  stopped : .timeLimit ∉ events → ∀ e, e.stops = true → p.exchange r limit = .error e →
    limit.isNull = true ∧ Event.told events = [] ∧ answer = .unending
  /-- What comes of the handler, value or failure, reaches the caller as tasks hand it over. -/
  handled : .timeLimit ∉ events → ∀ response, p.exchange r limit = .ok response →
    .handle ∈ events → Event.told events = [] ∧
      answer = .resolved ((p.handle response).result.mapError Failure.raised)
  /-- A call that was cancelled before its handler ran ends as cancelled. -/
  dropped : .timeLimit ∉ events → ∀ response, p.exchange r limit = .ok response →
    .handle ∉ events → Event.told events = [] ∧ answer = .resolved (.error .cancelled)

namespace RaisesMapped

variable {p : Parts} {r : Request} {limit : Value} {events : List Event} {answer : CallAnswer}

/-- The mapper hears of one failure at most, and of none if there is a value. -/
theorem told (raises : RaisesMapped p r limit events answer) :
    (Event.told events).length ≤ 1 ∧
      ∀ value, answer = .resolved (.ok value) → Event.told events = [] := by
  have maps (e : Failure) (through : p.Maps e (Event.told events) answer) :
      (Event.told events).length ≤ 1 ∧
        ∀ value, answer = .resolved (.ok value) → Event.told events = [] := by
    unfold Parts.Maps at through
    split at through <;> simp [through.1, through.2]
  have silent (untold : Event.told events = []) :
      (Event.told events).length ≤ 1 ∧
        ∀ value, answer = .resolved (.ok value) → Event.told events = [] := by
    simp [untold]
  by_cases late : .timeLimit ∈ events
  · exact maps _ (raises.overdue late)
  · cases exchanged : p.exchange r limit with
    | ok response =>
      by_cases handled : .handle ∈ events
      · exact silent (raises.handled late response exchanged handled).1
      · exact silent (raises.dropped late response exchanged handled).1
    | error e =>
      cases stops : e.stops with
      | true => exact silent (raises.stopped late e stops exchanged).2.1
      | false =>
        cases e with
        | credentials message =>
          exact maps _ (raises.mapped late (.credentials message) trivial exchanged)
        | dispatch message =>
          exact maps _ (raises.mapped late (.dispatch message) trivial exchanged)
        | timeout message => exact maps _ (raises.timedOut late message exchanged)
        | _ => exact silent (raises.unmapped late _ id (by simp) stops exchanged).1

end RaisesMapped

namespace Call

variable {p : Parts} {c : Call} {r : Request} {e : Failure}

/-! ### While a call waits -/

/-- The mapper was told that the call is overdue, if the call is finished ahead of time, and nothing
else. -/
def TellsOverdue (p : Parts) (e : Failure) (c : Call) : Prop :=
  Event.told c.events = if c.finished then p.tells e else []

theorem told_report (p : Parts) (c : Call) (e : Failure) :
    Event.told (c.report p e).events = Event.told c.events ++ p.tells e := by
  unfold report Parts.tells
  cases p.mapError <;> simp [Event.told, Event.told?]

theorem told_expire (p : Parts) (c : Call) (e : Failure) :
    Event.told (c.expire p e).events = Event.told c.events ++ p.tells e := by
  have passed : Event.told [.timeLimit] = [] := rfl
  rw [expire, told_report, events_log, Event.told_append, passed, List.append_nil]

theorem finished_expire (p : Parts) (c : Call) (e : Failure) : (c.expire p e).finished = true := by
  unfold expire report
  split <;> rfl

theorem TellsOverdue.log (tells : c.TellsOverdue p e) (event : Event)
    (quiet : event.told? = none) : (c.log event).TellsOverdue p e := by
  have same : Event.told (c.log event).events = Event.told c.events := by
    simp [Event.told, quiet]
  rw [TellsOverdue, finished_log, same]
  exact tells

theorem TellsOverdue.interrupt (tells : c.TellsOverdue p e) {overdue? : Option Failure}
    (only : ∀ other ∈ overdue?, other = e) (i : Interruption) :
    (c.interrupt p overdue? i).TellsOverdue p e := by
  cases i with
  | cancel =>
    refine TellsOverdue.log (c := c.cancel.1) ?_ _ rfl
    unfold Call.cancel
    split <;> exact tells
  | timeLimit =>
    cases overdue? with
    | none => exact tells
    | some other =>
      obtain rfl := only other rfl
      cases isOver : c.finished
      · have expired : c.interrupt p (some other) .timeLimit = c.expire p other := by
          simp [Call.interrupt, isOver]
        have before : Event.told c.events = [] := by
          rw [tells, isOver]
          rfl
        rw [expired, TellsOverdue, finished_expire, told_expire, before]
        rfl
      · have same : c.interrupt p (some other) .timeLimit = c := by simp [Call.interrupt, isOver]
        rwa [same]

theorem TellsOverdue.interruptAll (tells : c.TellsOverdue p e) {overdue? : Option Failure}
    (only : ∀ other ∈ overdue?, other = e) (is : List Interruption) :
    (c.interruptAll p overdue? is).TellsOverdue p e := by
  induction is generalizing c with
  | nil => exact tells
  | cons i rest ih => exact ih (tells.interrupt only i)

/-! ### Both phases -/

theorem phaseOne_tellsOverdue (tells : c.TellsOverdue p (timedOut c.timeout r)) :
    (c.phaseOne p r).1.TellsOverdue p (timedOut c.timeout r) := by
  have only : ∀ other ∈ c.overdue? r, other = timedOut c.timeout r := by
    intro other overdue
    unfold overdue? at overdue
    split at overdue
    · cases overdue
    · exact (Option.some.inj overdue).symm
  have queued := tells.interruptAll only p.queue
  unfold phaseOne
  dsimp only
  generalize c.interruptAll p (c.overdue? r) p.queue = free at queued
  split
  next => exact queued
  next =>
    have first := (queued.log .credentials rfl).interruptAll only
      p.credentials.interruptions
    cases p.credentials.result with
    | error => exact first
    | ok keys =>
      have second := (first.log .sign rfl).interruptAll only
        (p.sign keys r).interruptions
      dsimp only
      cases (p.sign keys r).result with
      | error => exact second
      | ok signed =>
        dsimp only
        refine TellsOverdue.interruptAll ?_ only _
        exact TellsOverdue.log second _ rfl

theorem told_fail (c : Call) (r : Request) (e : Failure) :
    Event.told (c.fail p r e).1.events = Event.told c.events ++ p.hears r c.timeout e := by
  cases e with
  | timeout => exact told_report p c _
  | credentials => exact told_report p c _
  | dispatch => exact told_report p c _
  | _ => exact (List.append_nil _).symm

/-- What the mapper is told in a resolution: that the call is overdue, or the failure of phase one as
far as it concerns the mapper. -/
structure Tells (p : Parts) (r : Request) (limit : Value) (events : List Event) : Prop where
  overdue : .timeLimit ∈ events → Event.told events = p.tells (timedOut limit r)
  failed : .timeLimit ∉ events → ∀ e, e.stops = false → p.exchange r limit = .error e →
    Event.told events = p.hears r limit e.handedOver
  stopped : .timeLimit ∉ events → ∀ e, e.stops = true → p.exchange r limit = .error e →
    Event.told events = []
  received : .timeLimit ∉ events → ∀ response, p.exchange r limit = .ok response →
    Event.told events = []

theorem told_of_unfinished (tells : c.TellsOverdue p e) (unfinished : c.finished = false) :
    Event.told c.events = [] := by
  rw [tells, unfinished]
  rfl

/-- The handler is none of the mapper's business. -/
theorem told_handle (tells : c.TellsOverdue p e) (unfinished : c.finished = false)
    (response : Response) : Event.told (c.handle p response).1.events = [] := by
  have handled : (c.handle p response).1.TellsOverdue p e :=
    (tells.log .handle rfl).interruptAll (by simp) _
  exact told_of_unfinished handled ((finished_interruptAll_none _ _).trans unfinished)

section Ended

variable {limit : Value} {events : List Event}

theorem tells_of_overdue (late : .timeLimit ∈ events)
    (told : Event.told events = p.tells (timedOut limit r)) : Tells p r limit events where
  overdue := fun _ => told
  failed := fun inTime => absurd late inTime
  stopped := fun inTime => absurd late inTime
  received := fun inTime => absurd late inTime

/-- A failure of phase one is told as far as it concerns the mapper. -/
theorem tells_of_error (inTime : .timeLimit ∉ events) (exchanged : p.exchange r limit = .error e)
    (failed : e.stops = false → Event.told events = p.hears r limit e.handedOver)
    (stopped : e.stops = true → Event.told events = []) : Tells p r limit events := by
  refine ⟨fun late => absurd late inTime, ?_, ?_, ?_⟩
  · intro _ other goesOn otherwise
    cases exchanged.symm.trans otherwise
    exact failed goesOn
  · intro _ other stops otherwise
    cases exchanged.symm.trans otherwise
    exact stopped stops
  · intro _ response got
    cases exchanged.symm.trans got

/-- Once a response is there the mapper is told nothing. -/
theorem tells_of_response {response : Response} (inTime : .timeLimit ∉ events)
    (got : p.exchange r limit = .ok response) (untold : Event.told events = []) :
    Tells p r limit events := by
  refine ⟨fun late => absurd late inTime, ?_, ?_, fun _ _ _ => untold⟩
  · intro _ e _ failed
    cases got.symm.trans failed
  · intro _ e _ failed
    cases got.symm.trans failed

end Ended

/-- The time limit did not pass in a call that is not finished ahead of time. -/
theorem inTime_of_unfinished (logged : c.Logged) (unfinished : c.finished = false) :
    .timeLimit ∉ c.events := by
  simp [← logged.finished, unfinished]

theorem conclude_tells {result : Except Failure Response} (logged : c.Logged)
    (unfinished : c.finished = false) (tells : c.TellsOverdue p (timedOut c.timeout r))
    (exchanged : result = p.exchange r c.timeout) (ended : (c.conclude p r result).1.Logged) :
    Tells p r c.timeout (c.conclude p r result).1.events := by
  have untold := told_of_unfinished tells unfinished
  have inTime := inTime_of_unfinished logged unfinished
  cases result with
  | error e =>
    cases stops : e.stops with
    | true =>
      have starves : c.conclude p r (.error e) = c.starve p r := by simp [conclude, stops]
      rw [starves]
      cases unlimited : c.timeout.isNull with
      | true =>
        have starved : c.starve p r = (c, none) := by simp [starve, overdue?, unlimited]
        rw [starved]
        exact tells_of_error inTime exchanged.symm (by simp [stops]) fun _ => untold
      | false =>
        have expired : (c.starve p r).1 = c.expire p (timedOut c.timeout r) := by
          simp [starve, overdue?, unlimited]
        rw [expired]
        refine tells_of_overdue (timeLimit_mem_expire c _) ?_
        rw [told_expire, untold, List.nil_append]
    | false =>
      obtain ⟨last, failed, -, finished⟩ := fail_eq (p := p) c r e
      have fails : (c.conclude p r (.error e)).1 = (c.fail p r e.handedOver).1 := by
        simp [conclude, stops]
      rw [fails] at ended ⊢
      have told := told_fail (p := p) c r e.handedOver
      rw [untold, List.nil_append] at told
      have inTime : .timeLimit ∉ (c.fail p r e.handedOver).1.events :=
        inTime_of_unfinished ended (by rw [failed, finished, unfinished])
      exact tells_of_error inTime exchanged.symm (fun _ => told) (by simp [stops])
  | ok response =>
    cases cancelled : c.cancelled with
    | true =>
      have dropped : (c.conclude p r (.ok response)).1 = c := by simp [conclude, cancelled]
      rw [dropped]
      exact tells_of_response inTime exchanged.symm untold
    | false =>
      have handles : (c.conclude p r (.ok response)).1 = (c.handle p response).1 := by
        simp [conclude, cancelled]
      rw [handles] at ended ⊢
      have unfinished : (c.handle p response).1.finished = false :=
        (finished_interruptAll_none _ _).trans unfinished
      exact tells_of_response (inTime_of_unfinished ended unfinished) exchanged.symm
        (told_handle tells ‹_› response)

theorem bothPhases_tells (started : c.started = true) (logged : c.Logged)
    (unlogged : c.events = []) (unfinished : c.finished = false) :
    Tells p r c.timeout (c.bothPhases p r).1.events := by
  have unasked : c.asked = [] := by simp [asked, unlogged]
  have begun : c.TellsOverdue p (timedOut c.timeout r) := by
    simp [TellsOverdue, unlogged, unfinished]
  have tells := phaseOne_tellsOverdue begun
  have spec := phaseOne_ends (p := p) (r := r) logged unasked
  have ended := (bothPhases_ends (p := p) (r := r) started logged unasked).logged
  unfold bothPhases at ended ⊢
  generalize c.phaseOne p r = one at tells spec ended
  obtain ⟨d, result⟩ := one
  obtain ⟨timeout, -, agrees, -, -, exchanged, -⟩ := spec
  dsimp only at *
  rw [← timeout] at tells exchanged ⊢
  cases isOver : d.finished with
  | true =>
    have told : Event.told d.events = p.tells (timedOut d.timeout r) := by rw [tells, if_pos isOver]
    exact tells_of_overdue (agrees.finished.mp isOver) told
  | false =>
    simp only [isOver, Bool.false_eq_true, if_false] at ended
    exact conclude_tells agrees isOver tells (exchanged isOver) ended

/-! ### Resolving a call -/

/-- After credentials that cannot be got nothing is asked for. -/
theorem unasked_of_uncredited {limit : Value} (asked : p.Asked r limit c.asked)
    (uncredited : p.credentials.result = .error e) :
    .sign ∉ c.events ∧ ∀ signed given, .dispatch signed given ∉ c.events := by
  have none (event : Event) (asks : event.asks = true) (other : event ∉ [Event.credentials]) :
      event ∉ c.events := by
    intro happened
    have inside : event ∈ c.asked := mem_asked.mpr ⟨happened, asks⟩
    generalize c.asked = events at asked inside
    cases asked with
    | nothing => cases inside
    | credentials => exact other inside
    | sign got => simp [uncredited] at got
    | dispatch signs | handle signs =>
      obtain ⟨keys, got, -⟩ := signs
      simp [uncredited] at got
  exact ⟨none _ rfl (by simp), fun signed given => none _ rfl (by simp)⟩

theorem raisesMapped_of_ends {limit : Value} {awaited : Awaited}
    (ends : c.Ends p r limit awaited) (tells : Tells p r limit c.events) :
    RaisesMapped p r limit c.events (.ofAwaited awaited) := by
  constructor
  case overdue =>
    intro late
    rw [tells.overdue late, ends.overdue late]
    exact p.maps_tells rfl
  case timedOut =>
    intro inTime message failed
    rw [tells.failed inTime _ rfl failed, ends.failed inTime _ rfl failed]
    exact p.maps_tells rfl
  case mapped =>
    intro inTime e isMapped failed
    cases e with
    | credentials | dispatch =>
      rw [tells.failed inTime _ rfl failed, ends.failed inTime _ rfl failed]
      exact p.maps_tells rfl
    | _ => exact isMapped.elim
  case unmapped =>
    intro inTime e unmapped noTimeout goesOn failed
    rw [tells.failed inTime _ goesOn failed, ends.failed inTime _ goesOn failed]
    cases e with
    | credentials | dispatch => exact absurd trivial unmapped
    | timeout message => exact absurd rfl (noTimeout message)
    | _ => exact ⟨rfl, rfl⟩
  case stopped =>
    intro inTime e stops failed
    obtain ⟨unlimited, unending⟩ := ends.stopped inTime e stops failed
    exact ⟨unlimited, tells.stopped inTime e stops failed, by rw [unending, CallAnswer.ofAwaited_none]⟩
  case handled =>
    intro inTime response got handled
    obtain ⟨other, exchanged, result⟩ := ends.handled handled
    cases got.symm.trans exchanged
    exact ⟨tells.received inTime response got, by rw [result, CallAnswer.ofAwaited_some]⟩
  case dropped =>
    intro inTime response got unhandled
    exact ⟨tells.received inTime response got,
      by rw [ends.dropped inTime response got unhandled, CallAnswer.ofAwaited_some]⟩

theorem resolve_raisesMapped (fresh : c.Fresh (.request r)) (uncancelled : c.cancelled = false) :
    ∃ (d : Call) (awaited : Awaited),
      c.resolve p = ({ d with finished := awaited.isSome }, awaited) ∧
      RaisesMapped p r c.timeout d.events (.ofAwaited awaited) := by
  have logged := fresh.logged uncancelled
  exact ⟨_, _, resolve_eq fresh uncancelled, raisesMapped_of_ends
    (bothPhases_ends (p := p) (c := { c with started := true }) rfl logged fresh.unasked)
    (bothPhases_tells (p := p) (c := { c with started := true }) rfl logged fresh.events
      fresh.finished)⟩

end Call

namespace CallSession

variable {p : Parts} {source : CallSource} {s t : CallSession} {step : CallStep}
  {answer : CallAnswer}

/-- The one resolution of a call tells the mapper of one failure at most, and of none if there is a
value or if the outcome was known from the start. -/
theorem told_of_attempts (fresh : s.call.Fresh source) (attempts : s.Attempts step) :
    (Event.told (s.step p step).1.call.events).length ≤ 1 ∧
    (∀ value, (s.step p step).2 = .resolved (.ok value) →
      Event.told (s.step p step).1.call.events = []) ∧
    ∀ outcome, source = .ready outcome → Event.told (s.step p step).1.call.events = [] ∧
      (s.step p step).2 = .resolved (outcome.mapError Failure.raised) := by
  rw [step_of_resolves attempts.1]
  cases source with
  | ready outcome =>
    rw [Call.resolve_of_ready fresh attempts.2]
    simp [fresh.events]
  | request r =>
    obtain ⟨d, awaited, resolved, raises⟩ := Call.resolve_raisesMapped (p := p) fresh attempts.2
    rw [resolved]
    exact ⟨raises.told.1, raises.told.2, by simp⟩

section Clauses

variable {past future : List Moment} {steps : List CallStep} (fresh : s.call.Fresh source)

include fresh

/-- The first attempt to resolve a call in a history: what happens up to it happens in it, and the
mapper is told nothing after it. -/
theorem resolution_of_answer
    (split : s.history p steps = past ++ .answer t step answer :: future)
    (unstarted : t.call.started = false) (attempts : t.Attempts step) :
    t.call.Fresh source ∧ answer = (t.step p step).2 ∧
      past.filterMap Moment.event? = (t.step p step).1.call.events ∧ Moment.told future = [] := by
  obtain ⟨before, later, -, rfl, rfl, rfl, rfl⟩ := of_history_eq_answer split
  have still : (s.after p before).call.Fresh source := by
    rcases fresh_or_started (p := p) fresh before with still | started
    · exact still
    · simp [started] at unstarted
  have started := started_of_attempts (p := p) still attempts
  refine ⟨still, rfl, ?_, ?_⟩
  · have quiet : (s.history p before).filterMap Moment.event? = [] := by
      refine List.filterMap_eq_nil_iff.mpr fun m inside => ?_
      obtain ⟨t, step, rfl, -⟩ := history_of_fresh fresh still m inside
      rfl
    rw [List.filterMap_append, quiet, newEvents_of_fresh still]
    simp [List.filterMap_map, Function.comp_def, Moment.event?]
  · by_contra heard
    obtain ⟨e, inside⟩ := Moment.exists_event_of_told heard
    obtain ⟨t, step, ⟨⟩, -⟩ := (history_of_started (p := p) started later).2 _ inside

theorem told_eq_of_answer
    (split : s.history p steps = past ++ .answer t step answer :: future)
    (unstarted : t.call.started = false) (attempts : t.Attempts step) :
    Moment.told (s.history p steps) = Event.told (t.step p step).1.call.events := by
  obtain ⟨-, -, events, untold⟩ := resolution_of_answer fresh split unstarted attempts
  rw [split, Moment.told_append, Moment.told_answer, untold, List.append_nil, Moment.told, events]

/-- The mapper is told of nothing unless it is tried to resolve the call. -/
theorem untold_or_attempts (steps : List CallStep) : Moment.told (s.history p steps) = [] ∨
    ∃ past t step answer future, s.history p steps = past ++ .answer t step answer :: future ∧
      t.call.started = false ∧ t.Attempts step := by
  by_cases untold : Moment.told (s.history p steps) = []
  · exact .inl untold
  · obtain ⟨e, inside⟩ := Moment.exists_event_of_told untold
    obtain ⟨past, future, split⟩ := List.append_of_mem inside
    obtain ⟨resolution⟩ := resolution_of_event fresh split
    refine .inr ⟨past ++ .event e :: resolution.late.map .event, resolution.session,
      resolution.step, .ofAwaited resolution.awaited, resolution.rest, ?_, resolution.fresh.started,
      resolution.attempts⟩
    have future_eq := resolution.future_eq
    simp only [split, List.append_assoc, List.cons_append]
    exact congrArg (past ++ .event e :: ·) future_eq

theorem unsigned_of_uncredited {failure : Failure}
    (uncredited : p.credentials.result = .error failure) {e : Event}
    (inside : .event e ∈ s.history p steps) :
    e ≠ .sign ∧ ∀ signed given, e ≠ .dispatch signed given := by
  obtain ⟨past, future, split⟩ := List.append_of_mem inside
  obtain ⟨resolution⟩ := resolution_of_event fresh split
  have happened : e ∈ resolution.ended.events := by simp [resolution.events]
  obtain ⟨unsigned, unsent⟩ := Call.unasked_of_uncredited resolution.ends.asked uncredited
  constructor
  · rintro rfl
    exact unsigned happened
  · rintro signed given rfl
    exact unsent signed given happened

/-- A value is the outcome of the first attempt. -/
theorem attempts_of_ok {value : Value}
    (split : s.history p steps = past ++ .answer t step (.resolved (.ok value)) :: future) :
    t.call.started = false ∧ t.Attempts step := by
  obtain ⟨before, later, -, rfl, answered, -, -⟩ := of_history_eq_answer split
  have resolves : (s.after p before).Resolves step := by
    by_contra otherwise
    cases eq_shutDown_of_not_resolves otherwise answered.symm
  rcases fresh_or_started (p := p) fresh before with still | started
  · refine ⟨still.started, resolves, eq_false_of_ne_true fun cancelled => ?_⟩
    rw [step_of_resolves resolves, Call.resolve_of_cancelled cancelled] at answered
    cases answered
  · rw [step_of_started started resolves] at answered
    cases answered

end Clauses

/-- What the error mapper of a call is told in the history `h` of the call, and what is raised. -/
structure MapsErrors (p : Parts) (source : CallSource) (h : List Moment) : Prop where
  /-- The mapper is told of one failure at most. -/
  once : (Moment.told h).length ≤ 1
  /-- It is told of none as long as it was not tried to resolve the call. -/
  unresolved : (∀ t step answer, .answer t step answer ∈ h → ¬ t.Attempts step) →
    Moment.told h = []
  /-- It is told of none if the call gives a value. -/
  succeeded : ∀ t step value, .answer t step (.resolved (.ok value)) ∈ h → Moment.told h = []
  /-- An outcome that is known from the start is given as tasks hand it over. -/
  ready : ∀ outcome, source = .ready outcome → Moment.told h = [] ∧
    ∀ t step answer, .answer t step answer ∈ h → t.call.started = false → t.Attempts step →
      answer = .resolved (outcome.mapError Failure.raised)
  /-- The first attempt to resolve a call for a request tells the mapper all that it is ever told. -/
  request : ∀ r, source = .request r → ∀ past t step answer future,
    h = past ++ .answer t step answer :: future → t.call.started = false → t.Attempts step →
    Moment.told future = [] ∧
      RaisesMapped p r t.call.timeout (past.filterMap Moment.event?) answer
  /-- Without credentials nothing is signed and nothing is sent. -/
  uncredited : ∀ e, p.credentials.result = .error e →
    .event .sign ∉ h ∧ ∀ signed given, .event (.dispatch signed given) ∉ h

end CallSession

end ServiceClient

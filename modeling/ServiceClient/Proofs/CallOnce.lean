import ServiceClient.Proofs.CallHistory

/-!
The parts of a call are asked at most once, whatever steps are taken on the call and whenever it is
cancelled: all that happens happens in the first step that asks for the outcome while the call is
not cancelled and the context not shut down.
-/

namespace ServiceClient

open Moment

variable {p : Parts} {r : Request}

/-! ### The handler -/

/-- Both phases depend on the handler through what it does with the response. -/
theorem Call.bothPhases_handle {c : Call} (logged : c.Logged) (unasked : c.asked = [])
    {other : Response → Reply Value}
    (agree : ∀ response, p.exchange r c.timeout = .ok response → other response = p.handle response) :
    c.bothPhases { p with handle := other } r = c.bothPhases p r := by
  have spec := phaseOne_ends (p := p) (r := r) logged unasked
  have same : c.phaseOne { p with handle := other } r = c.phaseOne p r := rfl
  unfold bothPhases
  rw [same]
  generalize c.phaseOne p r = one at spec
  obtain ⟨d, result⟩ := one
  cases result with
  | error e => rfl
  | ok response =>
    obtain ⟨signed, signs, received, -⟩ := spec.received response rfl
    have agreed : other response = p.handle response :=
      agree response (Parts.exchange_eq_ok_iff.mpr ⟨signed, signs, received⟩)
    simp only [conclude, Call.handle, agreed]
    rfl

namespace CallSession

variable {s : CallSession} {step : CallStep}

theorem step_parts_of_not_resolves (q : Parts) (otherwise : ¬ s.Resolves step) :
    s.step q step = s.step p step := by
  cases step with
  | await => exact absurd trivial otherwise
  | sync =>
    have closed := closed_of_not_resolves otherwise
    rw [step_of_closed closed, step_of_closed closed]
  | _ => rfl

/-- A call whose resolution began is resolved no more, whatever its parts are. -/
theorem history_parts_of_started (q : Parts) (started : s.call.started = true)
    (steps : List CallStep) :
    s.history q steps = s.history p steps := by
  induction steps generalizing s with
  | nil => rfl
  | cons step rest ih =>
    have same : s.step q step = s.step p step := by
      by_cases resolves : s.Resolves step
      · rw [step_of_started started resolves, step_of_started started resolves]
      · exact step_parts_of_not_resolves q resolves
    rw [history, history, newEvents, newEvents, same, ih (keeps_step started).1.started]

/-- A history depends on the handler through what it does with the response of the one resolution. -/
theorem history_handle (fresh : s.call.Fresh (.request r)) {other : Response → Reply Value}
    (steps : List CallStep)
    (agree : ∀ t step answer, .answer t step answer ∈ s.history p steps → t.call.started = false →
      t.Attempts step → ∀ response, p.exchange r t.call.timeout = .ok response →
      other response = p.handle response) :
    s.history { p with handle := other } steps = s.history p steps := by
  induction steps generalizing s with
  | nil => rfl
  | cons step rest ih =>
    by_cases attempts : s.Attempts step
    · have agreed := agree s step (s.step p step).2 (by simp [history]) fresh.started attempts
      have logged := fresh.logged attempts.2
      have same : s.step { p with handle := other } step = s.step p step := by
        rw [step_of_resolves attempts.1, step_of_resolves attempts.1,
          Call.resolve_eq fresh attempts.2, Call.resolve_eq fresh attempts.2,
          Call.bothPhases_handle logged fresh.unasked agreed]
      rw [history, history, newEvents, newEvents, same,
        history_parts_of_started _ (started_of_attempts fresh attempts)]
    · have same : s.step { p with handle := other } step = s.step p step := by
        by_cases resolves : s.Resolves step
        · have cancelled := cancelled_of_not_attempts resolves attempts
          rw [step_of_resolves resolves, step_of_resolves resolves,
            Call.resolve_of_cancelled cancelled, Call.resolve_of_cancelled cancelled]
        · exact step_parts_of_not_resolves _ resolves
      rw [history, history, newEvents, newEvents, same,
        ih (fresh_of_not_attempts fresh attempts).1 fun t later answer inside =>
          agree t later answer (by simp [history, inside])]

/-! ### One clause after the other -/

section Clauses

variable {past future : List Moment} {e : Event} {steps : List CallStep}
  (fresh : s.call.Fresh (.request r))

include fresh

/-- The parts are asked one after the other, none is left out. -/
theorem parts_history_inOrder (steps : List CallStep) :
    parts (s.history p steps) <+: Part.inOrder := by
  obtain ⟨limit, asked⟩ := asked_after (p := p) (.inl fresh) steps
  have events := events_after (p := p) (.inl fresh) steps
  rw [fresh.events, List.nil_append] at events
  have same : parts (s.history p steps) = (s.after p steps).call.asked.filterMap Event.part? := by
    rw [Call.asked, Event.filterMap_part?_filter, events, List.filterMap_filterMap]
    rfl
  rw [same]
  exact asked.inOrder

/-- A request is sent after credentials were got and it was signed. -/
theorem of_dispatch {signed : Request} {limit : Value}
    (split : s.history p steps = past ++ .event (.dispatch signed limit) :: future) :
    p.Signs r signed ∧ parts past = [.credentials, .sign] := by
  obtain ⟨resolution⟩ := resolution_of_event fresh split
  have same : resolution.request = r := by simpa using resolution.source_eq.symm
  obtain ⟨signs, -, early⟩ := (resolution.asked rfl).of_dispatch
  rw [resolution.parts_past, ← Event.filterMap_part?_filter, early]
  exact ⟨same ▸ signs, rfl⟩

/-- Before the handler runs no cancellation was granted. -/
theorem uncancelled_of_handle (split : s.history p steps = past ++ .event .handle :: future) :
    ∀ m ∈ past, m.cancels? ≠ some true := by
  obtain ⟨resolution⟩ := resolution_of_event fresh split
  intro m inside granted
  rw [resolution.past_eq, List.mem_append] at inside
  rcases inside with inside | inside
  · exact resolution.uncancelled m inside granted
  · obtain ⟨e, inside, rfl⟩ := List.mem_map.mp inside
    have before : resolution.early ++ [.handle] <+: resolution.ended.events :=
      ⟨resolution.late, by simp [resolution.events]⟩
    have uncancelled := resolution.ends.uncancelled _ before
    cases e <;> simp_all [Moment.cancels?]

/-- The handler runs on the response to the request that was sent, and on no other. -/
theorem of_handle (split : s.history p steps = past ++ .event .handle :: future) :
    parts past = [.credentials, .sign, .dispatch] ∧
    ∃ signed limit response, .event (.dispatch signed limit) ∈ past ∧
      (p.dispatch signed limit).result = .ok response ∧
      ∀ other, other response = p.handle response →
        s.history { p with handle := other } steps = s.history p steps := by
  obtain ⟨resolution⟩ := resolution_of_event fresh split
  have same : resolution.request = r := by simpa using resolution.source_eq.symm
  obtain ⟨signed, response, signs, received, early⟩ := (resolution.asked rfl).of_handle
  refine ⟨?_, signed, _, response, ?_, received, ?_⟩
  · rw [resolution.parts_past, ← Event.filterMap_part?_filter, early]
    rfl
  · exact resolution.event_mem_past.mpr (List.mem_of_mem_filter (p := Event.asks) (by simp [early]))
  · intro other agree
    refine history_handle fresh steps fun t step answer inside unstarted attempts got exchanged => ?_
    rw [split] at inside
    have here := resolution.session_eq inside unstarted attempts
    have response_eq : p.exchange r resolution.session.call.timeout = .ok response :=
      Parts.exchange_eq_ok_iff.mpr ⟨signed, same ▸ signs, received⟩
    rw [here, response_eq] at exchanged
    cases exchanged
    exact agree

/-- Once it was tried to resolve the call, further attempts fail and change nothing. -/
theorem refused_of_attempts {t t' : CallSession} {step' : CallStep} {answer answer' : CallAnswer}
    (split : s.history p steps = past ++ .answer t step answer :: future)
    (inside : .answer t' step' answer' ∈ past) (attempts : t'.Attempts step')
    (resolves : t.Resolves step) :
    (answer = .resolved (.error .cancelled) ∨ answer = .resolved (.error .spent)) ∧
      (t.step p step).1 = t := by
  obtain ⟨before, later, -, rfl, rfl, rfl, -⟩ := of_history_eq_answer split
  have earlier : .answer t' step' answer' ∈ s.history p before := by simpa using inside
  rw [step_of_started (started_after fresh earlier attempts) resolves]
  cases (s.after p before).call.cancelled <;> simp

end Clauses

/-- Asking for the outcome on a context that is shut down only adds its answer to a history. -/
theorem history_sync_of_closed {before : List CallStep} (closed : (s.after p before).closed = true)
    (later : List CallStep) :
    s.history p (before ++ .sync :: later) = s.history p before ++
      .answer (s.after p before) .sync (.resolved (.error .shutDown)) ::
        (s.after p before).history p later := by
  rw [history_append, history, newEvents_of_same] <;> rw [step_of_closed closed]
  rfl

/-! ### At most once -/

/-- How the history `h` of a call for a request goes when steps are taken on it. -/
structure AsksOnce (p : Parts) (r : Request) (steps : List CallStep) (h : List Moment) : Prop where
  /-- No part is asked twice. -/
  once : ∀ part, (parts h).count part ≤ 1
  /-- The parts are asked one after the other, none is left out. -/
  inOrder : parts h <+: Part.inOrder
  /-- All that happens to the call happens in the first step that asks for the outcome while the
  call is not cancelled and the context not shut down. -/
  first : ∀ past e future, h = past ++ .event e :: future →
    (∀ t step answer, .answer t step answer ∈ past → ¬ t.Attempts step) ∧
    ∃ late t step answer rest, future = List.map .event late ++ .answer t step answer :: rest ∧
      t.Attempts step
  /-- A request is sent after credentials were got and it was signed. -/
  sent : ∀ past signed limit future, h = past ++ .event (.dispatch signed limit) :: future →
    p.Signs r signed ∧ parts past = [.credentials, .sign]
  /-- The handler runs on the response to the request and on no other, and only if the call was not
  cancelled until then. -/
  handled : ∀ past future, h = past ++ .event .handle :: future →
    (∀ m ∈ past, m.cancels? ≠ some true) ∧ parts past = [.credentials, .sign, .dispatch] ∧
    ∃ signed limit response, .event (.dispatch signed limit) ∈ past ∧
      (p.dispatch signed limit).result = .ok response ∧
      ∀ other, other response = p.handle response →
        (start (.request r)).history { p with handle := other } steps = h
  /-- Once it was tried to resolve the call, further attempts fail and change nothing. -/
  later : ∀ past t step answer future, h = past ++ .answer t step answer :: future →
    (∃ t' step' answer', .answer t' step' answer' ∈ past ∧ t'.Attempts step') → t.Resolves step →
    (answer = .resolved (.error .cancelled) ∨ answer = .resolved (.error .spent)) ∧
      (t.step p step).1 = t
  /-- On a context that is shut down an attempt fails and changes nothing: all goes on as if it had
  not been made. -/
  shutDown : ∀ before after, steps = before ++ after →
    let earlier := (start (.request r)).history p before
    let t := (start (.request r)).after p before
    t.closed = true → t.step p .sync = (t, .resolved (.error .shutDown)) ∧
      ∃ future, h = earlier ++ future ∧
        (start (.request r)).history p (before ++ .sync :: after) =
          earlier ++ .answer t .sync (.resolved (.error .shutDown)) :: future

end CallSession

end ServiceClient

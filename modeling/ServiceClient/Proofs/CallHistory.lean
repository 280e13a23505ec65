import Mathlib.Data.List.Infix
import ServiceClient.Proofs.CallPhases

/-!
Histories of a call: the steps that are taken on it with their answers, and between them what
happens while it is resolved. A call is fresh until a step begins to resolve it, and none does so ever
after, so a history has events in one place only: right before the answer to the one step that resolved
the call.
-/

namespace ServiceClient

/-- What is seen of a call: an event while it is resolved, or a step with the session before it and
its answer. -/
inductive Moment where
  | event (e : Event)
  | answer (before : CallSession) (step : CallStep) (answer : CallAnswer)

namespace Moment

def event? : Moment → Option Event
  | .event e => some e
  | .answer _ _ _ => none

def answer? : Moment → Option CallAnswer
  | .event _ => none
  | .answer _ _ a => some a

/-- The part that is asked for something. -/
def part? (m : Moment) : Option Part := m.event?.bind Event.part?

/-- Whether a cancellation was granted, if the moment is one. -/
def cancels? : Moment → Option Bool
  | .event (.cancel granted) => some granted
  | .answer _ _ (.granted granted) => some granted
  | _ => none

/-- The parts that a history asks, in order. -/
def parts (h : List Moment) : List Part := h.filterMap part?

@[simp] theorem parts_append (a b : List Moment) : parts (a ++ b) = parts a ++ parts b :=
  List.filterMap_append

@[simp] theorem parts_map_event (events : List Event) :
    parts (events.map .event) = events.filterMap Event.part? := by
  simp [parts, List.filterMap_map, Function.comp_def, part?, event?]

end Moment

namespace CallAnswer

@[simp] theorem ofAwaited_some (result : Except Failure Value) :
    ofAwaited (some result) = .resolved result := rfl

@[simp] theorem ofAwaited_none : ofAwaited none = .unending := rfl

theorem ofAwaited_ne_granted (awaited : Call.Awaited) (granted : Bool) :
    ofAwaited awaited ≠ .granted granted := by
  cases awaited <;> simp

end CallAnswer

theorem Call.eq_of_setTimeLimit {c d : Call} {seconds : Value}
    (set : c.setTimeLimit seconds = .ok d) : d = { c with timeout := seconds } := by
  unfold setTimeLimit at set
  split at set
  · cases set
  · split at set
    · cases set
    · exact (Except.ok.inj set).symm

namespace CallSession

variable {p : Parts} {source : CallSource} {s t : CallSession} {step : CallStep}

/-- The step asks for the outcome of the call, and not on a context that is shut down. -/
def Resolves (s : CallSession) : CallStep → Prop
  | .await => True
  | .sync => s.closed = false
  | _ => False

/-- The step asks for the outcome of the call, which is not cancelled, and not on a context that is
shut down. -/
def Attempts (s : CallSession) (step : CallStep) : Prop :=
  s.Resolves step ∧ s.call.cancelled = false

theorem closed_of_not_resolves (otherwise : ¬ s.Resolves .sync) : s.closed = true :=
  eq_true_of_ne_false otherwise

theorem cancelled_of_not_attempts (resolves : s.Resolves step) (otherwise : ¬ s.Attempts step) :
    s.call.cancelled = true :=
  eq_true_of_ne_false fun uncancelled => otherwise ⟨resolves, uncancelled⟩

/-- What happens to the call in a step. -/
def newEvents (p : Parts) (s : CallSession) (step : CallStep) : List Event :=
  (s.step p step).1.call.events.drop s.call.events.length

/-- What steps taken one after the other show of a call. -/
def history (p : Parts) (s : CallSession) : List CallStep → List Moment
  | [] => []
  | step :: rest =>
    (s.newEvents p step).map .event ++ .answer s step (s.step p step).2 ::
      (s.step p step).1.history p rest

/-- The session that steps lead to. -/
def after (p : Parts) (s : CallSession) (steps : List CallStep) : CallSession := (s.run p steps).1

theorem foldl_step (steps : List CallStep) (answers : List CallAnswer) :
    steps.foldl (fun (s, answers) step =>
      let (s, answer) := s.step p step
      (s, answers ++ [answer])) (s, answers) = ((s.run p steps).1, answers ++ (s.run p steps).2) := by
  unfold run
  induction steps generalizing s answers with
  | nil => simp
  | cons step rest ih =>
    rw [List.foldl_cons, List.foldl_cons, ih, ih ([] ++ _)]
    simp

theorem run_cons (steps : List CallStep) : s.run p (step :: steps) =
    (((s.step p step).1.run p steps).1, (s.step p step).2 :: ((s.step p step).1.run p steps).2) :=
  foldl_step steps _

@[simp] theorem after_nil : s.after p [] = s := rfl

@[simp] theorem after_cons (steps : List CallStep) :
    s.after p (step :: steps) = (s.step p step).1.after p steps := by
  rw [after, run_cons]
  rfl

/-- The answers of a history are those of its steps. -/
theorem answers_history (steps : List CallStep) :
    (s.history p steps).filterMap Moment.answer? = (s.run p steps).2 := by
  induction steps generalizing s with
  | nil => rfl
  | cons step rest ih =>
    have none : ((s.newEvents p step).map Moment.event).filterMap Moment.answer? = [] := by
      simp [List.filterMap_map, Function.comp_def, Moment.answer?]
    rw [history, List.filterMap_append, none, run_cons, List.nil_append, List.filterMap_cons, ih]
    rfl

theorem history_append (first second : List CallStep) :
    s.history p (first ++ second) = s.history p first ++ (s.after p first).history p second := by
  induction first generalizing s with
  | nil => rfl
  | cons step rest ih => simp [history, ih]

theorem after_append (first second : List CallStep) :
    s.after p (first ++ second) = (s.after p first).after p second := by
  induction first generalizing s with
  | nil => rfl
  | cons step rest ih => simp [ih]

/-! ### Points of a history -/

/-- A point of a history is an answer or an event. An answer is given by the session that the steps
before it led to. -/
theorem of_history_eq_answer {steps : List CallStep} {past future : List Moment} {t : CallSession}
    {answer : CallAnswer} (split : s.history p steps = past ++ .answer t step answer :: future) :
    ∃ before later, steps = before ++ step :: later ∧ t = s.after p before ∧
      answer = (t.step p step).2 ∧
      past = s.history p before ++ (t.newEvents p step).map .event ∧
      future = (t.step p step).1.history p later := by
  induction steps generalizing s past with
  | nil => simp [history] at split
  | cons first rest ih =>
    rw [history] at split
    -- the point lies past the events of the first step, or among them
    rcases List.append_eq_append_iff.mp split with ⟨gap, rfl, rest'⟩ | ⟨gap, events, rest'⟩
    · cases gap with
      | nil =>
        simp only [List.nil_append, List.cons.injEq, Moment.answer.injEq] at rest'
        obtain ⟨⟨rfl, rfl, rfl⟩, rfl⟩ := rest'
        exact ⟨[], rest, rfl, rfl, rfl, by simp [history], rfl⟩
      | cons m gap =>
        simp only [List.cons_append, List.cons.injEq] at rest'
        obtain ⟨rfl, onward⟩ := rest'
        obtain ⟨before, later, rfl, rfl, rfl, rfl, rfl⟩ := ih onward
        exact ⟨first :: before, later, rfl, by simp, rfl, by simp [history], rfl⟩
    · cases gap with
      | nil =>
        simp only [List.nil_append, List.cons.injEq, Moment.answer.injEq] at rest'
        obtain ⟨⟨rfl, rfl, rfl⟩, rfl⟩ := rest'
        exact ⟨[], rest, rfl, rfl, rfl, by simpa [history] using events.symm, rfl⟩
      | cons m gap =>
        simp only [List.cons_append, List.cons.injEq] at rest'
        obtain ⟨rfl, -⟩ := rest'
        have inside : Moment.answer t step answer ∈ (s.newEvents p first).map Moment.event := by
          rw [events]
          simp
        simp at inside

/-- An event happens in a step of the session that the steps before it led to, and the answer to
that step comes after it. -/
theorem of_history_eq_event {steps : List CallStep} {past future : List Moment} {e : Event}
    (split : s.history p steps = past ++ .event e :: future) :
    ∃ before step later early late, steps = before ++ step :: later ∧
      (s.after p before).newEvents p step = early ++ e :: late ∧
      past = s.history p before ++ early.map .event ∧
      future = late.map .event ++ .answer (s.after p before) step ((s.after p before).step p step).2 ::
        ((s.after p before).step p step).1.history p later := by
  induction steps generalizing s past with
  | nil => simp [history] at split
  | cons first rest ih =>
    rw [history] at split
    -- the point lies past the events of the first step, or among them
    rcases List.append_eq_append_iff.mp split with ⟨gap, rfl, rest'⟩ | ⟨gap, events, rest'⟩
    · cases gap with
      | nil => simp at rest'
      | cons m gap =>
        simp only [List.cons_append, List.cons.injEq] at rest'
        obtain ⟨rfl, onward⟩ := rest'
        obtain ⟨before, step, later, early, late, rfl, events, rfl, rfl⟩ := ih onward
        exact ⟨first :: before, step, later, early, late, rfl, by simpa using events,
          by simp [history], by simp⟩
    · cases gap with
      | nil => simp at rest'
      | cons m gap =>
        simp only [List.cons_append, List.cons.injEq] at rest'
        obtain ⟨rfl, rfl⟩ := rest'
        obtain ⟨early, rest', happened, rfl, others⟩ := List.map_eq_append_iff.mp events
        obtain ⟨e', late, rfl, same, rfl⟩ := List.map_eq_cons_iff.mp others
        cases same
        exact ⟨[], first, rest, early, late, rfl, happened, by simp [history], by simp⟩

/-! ### Steps -/

theorem step_of_resolves (resolves : s.Resolves step) :
    s.step p step =
      ({ s with call := (s.call.resolve p).1 }, .ofAwaited (s.call.resolve p).2) := by
  cases step with
  | await => rfl
  | sync =>
    have opened : s.closed = false := resolves
    simp [CallSession.step, opened]
  | _ => exact resolves.elim

theorem step_of_closed (closed : s.closed = true) :
    s.step p .sync = (s, .resolved (.error .shutDown)) := by
  simp [CallSession.step, closed]

/-- All that a step can do. -/
inductive Steps (p : Parts) (s : CallSession) : CallStep → CallSession × CallAnswer → Prop where
  | limited (seconds : Value) :
      Steps p s (.setTimeLimit seconds) ({ s with call := { s.call with timeout := seconds } }, .done)
  | rejected (seconds : Value) (e : Call.TimeLimitError) :
      Steps p s (.setTimeLimit seconds) (s, .rejected e)
  | unlimited : Steps p s .clearTimeLimit ({ s with call := s.call.clearTimeLimit }, .done)
  | granted (unfinished : s.call.finished = false) :
      Steps p s .cancel ({ s with call := { s.call with cancelled := true } }, .granted true)
  | refused (finished : s.call.finished = true) : Steps p s .cancel (s, .granted false)
  | resolved {step : CallStep} (resolves : s.Resolves step) :
      Steps p s step ({ s with call := (s.call.resolve p).1 }, .ofAwaited (s.call.resolve p).2)
  | shutOut (closed : s.closed = true) : Steps p s .sync (s, .resolved (.error .shutDown))
  | shutDown : Steps p s .shutDown ({ s with closed := true }, .done)
  | reopened : Steps p s .reopen ({ s with closed := false }, .done)

theorem steps_step (p : Parts) (s : CallSession) (step : CallStep) :
    Steps p s step (s.step p step) := by
  by_cases resolves : s.Resolves step
  · rw [step_of_resolves resolves]
    exact .resolved resolves
  · cases step with
    | setTimeLimit seconds =>
      simp only [CallSession.step]
      split
      next set =>
        rw [Call.eq_of_setTimeLimit set]
        exact .limited seconds
      next e _ => exact .rejected seconds e
    | clearTimeLimit => exact .unlimited
    | cancel =>
      cases finished : s.call.finished
      · have granted : s.step p .cancel =
            ({ s with call := { s.call with cancelled := true } }, .granted true) := by
          simp [CallSession.step, Call.cancel, finished]
        rw [granted]
        exact .granted finished
      · have refused : s.step p .cancel = (s, .granted false) := by
          simp [CallSession.step, Call.cancel, finished]
        rw [refused]
        exact .refused finished
    | await => exact absurd trivial resolves
    | sync =>
      have closed := closed_of_not_resolves resolves
      rw [step_of_closed closed]
      exact .shutOut closed
    | shutDown => exact .shutDown
    | reopen => exact .reopened

/-- A step that does not resolve the call may set its time limit, cancel it or replace the
context. -/
theorem step_of_not_resolves (otherwise : ¬ s.Resolves step) :
    ∃ limit cancelled, (s.step p step).1.call =
        { s.call with timeout := limit, cancelled := cancelled } ∧
      (cancelled = true ↔ s.call.cancelled = true ∨ (s.step p step).2 = .granted true) := by
  have steps := steps_step p s step
  generalize s.step p step = after at steps
  cases steps with
  | resolved resolves => exact absurd resolves otherwise
  | _ => exact ⟨_, _, rfl, by simp⟩

theorem eq_cancel_of_granted {granted : Bool} (answered : (s.step p step).2 = .granted granted) :
    step = .cancel := by
  have steps := steps_step p s step
  generalize s.step p step = after at steps answered
  cases steps with
  | granted | refused => rfl
  | resolved => exact absurd answered (CallAnswer.ofAwaited_ne_granted _ _)
  | _ => cases answered

/-- A step that does not resolve the call gives an outcome only to say that the context is shut
down. -/
theorem eq_shutDown_of_not_resolves {result : Except Failure Value} (otherwise : ¬ s.Resolves step)
    (answered : (s.step p step).2 = .resolved result) : result = .error .shutDown := by
  have steps := steps_step p s step
  generalize s.step p step = after at steps answered
  cases steps with
  | resolved resolves => exact absurd resolves otherwise
  | shutOut =>
    cases answered
    rfl
  | _ => cases answered

/-! ### A call is fresh, and then not resolved again -/

/-- A session with a call that was just made and an open context. -/
def start (source : CallSource) : CallSession := { call := { source := source } }

theorem fresh_start (source : CallSource) : (start source).call.Fresh source := ⟨rfl, rfl, rfl, rfl⟩

theorem newEvents_of_fresh (fresh : s.call.Fresh source) :
    s.newEvents p step = (s.step p step).1.call.events := by
  simp [newEvents, fresh.events]

theorem newEvents_of_same (same : (s.step p step).1.call.events = s.call.events) :
    s.newEvents p step = [] := by
  rw [newEvents, same, List.drop_length]

theorem events_of_not_resolves (otherwise : ¬ s.Resolves step) :
    (s.step p step).1.call.events = s.call.events := by
  obtain ⟨limit, cancelled, same, -⟩ := step_of_not_resolves (p := p) otherwise
  rw [same]

/-- A fresh call whose outcome is not asked for, or which is cancelled, stays fresh. -/
theorem fresh_of_not_attempts (fresh : s.call.Fresh source) (otherwise : ¬ s.Attempts step) :
    (s.step p step).1.call.Fresh source ∧ (s.step p step).1.call.events = s.call.events := by
  by_cases resolves : s.Resolves step
  · have cancelled := cancelled_of_not_attempts resolves otherwise
    have refused : (s.step p step).1.call = s.call := by
      rw [step_of_resolves resolves, Call.resolve_of_cancelled cancelled]
    rw [refused]
    exact ⟨fresh, rfl⟩
  · obtain ⟨limit, cancelled, same, -⟩ := step_of_not_resolves (p := p) resolves
    rw [same]
    exact ⟨⟨fresh.source, fresh.started, fresh.finished, fresh.events⟩, rfl⟩

theorem started_of_attempts (fresh : s.call.Fresh source) (attempts : s.Attempts step) :
    (s.step p step).1.call.started = true := by
  rw [step_of_resolves attempts.1]
  cases source with
  | ready outcome => rw [Call.resolve_of_ready fresh attempts.2]
  | request r =>
    obtain ⟨d, awaited, resolved, ends⟩ := Call.resolve_of_request (p := p) fresh attempts.2
    rw [resolved]
    exact ends.started

/-- The call is finished after the step that resolved it, unless that has no end. -/
theorem finished_of_attempts (fresh : s.call.Fresh source) (attempts : s.Attempts step) :
    (s.step p step).1.call.finished = true ↔ ∃ result, (s.step p step).2 = .resolved result := by
  rw [step_of_resolves attempts.1]
  cases source with
  | ready outcome => simp [Call.resolve_of_ready fresh attempts.2]
  | request r =>
    obtain ⟨d, awaited, resolved, -⟩ := Call.resolve_of_request (p := p) fresh attempts.2
    rw [resolved]
    cases awaited <;> simp

/-- A call whose resolution began refuses to be resolved. -/
theorem step_of_started (started : s.call.started = true) (resolves : s.Resolves step) :
    s.step p step = (s, .resolved (.error (if s.call.cancelled then .cancelled else .spent))) := by
  rw [step_of_resolves resolves, Call.resolve_of_started started, CallAnswer.ofAwaited_some]

/-- What is kept of a call whose resolution began. -/
structure Keeps (s t : CallSession) : Prop where
  started : t.call.started = true
  finished : t.call.finished = s.call.finished
  cancelled : s.call.cancelled = true → t.call.cancelled = true

theorem Keeps.trans {u : CallSession} (first : s.Keeps t) (second : t.Keeps u) : s.Keeps u where
  started := second.started
  finished := second.finished.trans first.finished
  cancelled := second.cancelled ∘ first.cancelled

theorem keeps_step (started : s.call.started = true) :
    s.Keeps (s.step p step).1 ∧ (s.step p step).1.call.events = s.call.events := by
  by_cases resolves : s.Resolves step
  · rw [step_of_started started resolves]
    exact ⟨⟨started, rfl, id⟩, rfl⟩
  · obtain ⟨limit, cancelled, same, iff⟩ := step_of_not_resolves (p := p) resolves
    constructor
    · constructor <;> rw [same]
      · exact started
      · exact fun earlier => iff.mpr (.inl earlier)
    · rw [same]

/-- Where each step keeps a property of the session and nothing happens to the call, a history has
answers only, each of a session with the property. -/
theorem history_of_kept {P : CallSession → Prop}
    (kept : ∀ s step, P s →
      P (s.step p step).1 ∧ (s.step p step).1.call.events = s.call.events) (holds : P s)
    (steps : List CallStep) : P (s.after p steps) ∧
      ∀ m ∈ s.history p steps, ∃ t step, m = .answer t step (t.step p step).2 ∧ P t := by
  induction steps generalizing s with
  | nil => exact ⟨holds, by simp [history]⟩
  | cons step rest ih =>
    obtain ⟨next, same⟩ := kept s step holds
    obtain ⟨last, others⟩ := ih next
    refine ⟨by rwa [after_cons], ?_⟩
    simp only [history, newEvents_of_same same, List.map_nil, List.nil_append, List.mem_cons]
    rintro m (rfl | later)
    · exact ⟨s, step, rfl, holds⟩
    · exact others m later

theorem history_of_started (started : s.call.started = true) (steps : List CallStep) :
    s.Keeps (s.after p steps) ∧
      ∀ m ∈ s.history p steps, ∃ t step, m = .answer t step (t.step p step).2 ∧ s.Keeps t :=
  history_of_kept (P := s.Keeps)
    (fun _ _ keeps => ⟨keeps.trans (keeps_step keeps.started).1, (keeps_step keeps.started).2⟩)
    ⟨started, rfl, id⟩ steps

/-- A cancelled call stays so, and nothing happens to it any more. -/
theorem history_of_cancelled (cancelled : s.call.cancelled = true) (steps : List CallStep) :
    ∀ m ∈ s.history p steps, ∃ t step, m = .answer t step (t.step p step).2 ∧
      t.call.cancelled = true := by
  refine (history_of_kept (P := fun s => s.call.cancelled = true) ?_ cancelled steps).2
  intro s step cancelled
  by_cases resolves : s.Resolves step
  · rw [step_of_resolves resolves, Call.resolve_of_cancelled cancelled]
    exact ⟨cancelled, rfl⟩
  · obtain ⟨limit, later, same, iff⟩ := step_of_not_resolves (p := p) resolves
    rw [same]
    exact ⟨iff.mpr (.inl cancelled), rfl⟩

/-- A call that is fresh after steps was fresh all along, and none of the steps resolved it. -/
theorem history_of_fresh (fresh : s.call.Fresh source) {steps : List CallStep}
    (still : (s.after p steps).call.Fresh source) :
    ∀ m ∈ s.history p steps, ∃ t step, m = .answer t step (t.step p step).2 ∧
      t.call.Fresh source ∧ ¬ t.Attempts step := by
  induction steps generalizing s with
  | nil => simp [history]
  | cons step rest ih =>
    rw [after_cons] at still
    have otherwise : ¬ s.Attempts step := by
      intro attempts
      have next := started_of_attempts (p := p) fresh attempts
      have started := (history_of_started (p := p) next rest).1.started
      simp [still.started] at started
    obtain ⟨next, same⟩ := fresh_of_not_attempts (p := p) fresh otherwise
    simp only [history, newEvents_of_same same, List.map_nil, List.nil_append, List.mem_cons]
    rintro m (rfl | later)
    · exact ⟨s, step, rfl, fresh, otherwise⟩
    · exact ih next still m later

theorem fresh_or_started (fresh : s.call.Fresh source) (steps : List CallStep) :
    (s.after p steps).call.Fresh source ∨ (s.after p steps).call.started = true := by
  induction steps generalizing s with
  | nil => exact .inl fresh
  | cons step rest ih =>
    rw [after_cons]
    by_cases attempts : s.Attempts step
    · exact .inr (history_of_started (started_of_attempts fresh attempts) rest).1.started
    · exact ih (fresh_of_not_attempts fresh attempts).1

theorem started_after (fresh : s.call.Fresh source) {steps : List CallStep} {answer : CallAnswer}
    (inside : .answer t step answer ∈ s.history p steps) (attempts : t.Attempts step) :
    (s.after p steps).call.started = true := by
  rcases fresh_or_started (p := p) fresh steps with still | started
  · obtain ⟨t, step, same, -, otherwise⟩ := history_of_fresh fresh still _ inside
    cases same
    exact absurd attempts otherwise
  · exact started

/-- A call is finished once its one resolution has ended. -/
theorem finished_after_iff (fresh : s.call.Fresh source) {steps : List CallStep} :
    (s.after p steps).call.finished = true ↔
      ∃ t step result, .answer t step (.resolved result) ∈ s.history p steps ∧
        t.call.started = false ∧ t.Attempts step := by
  induction steps generalizing s with
  | nil => simp [fresh.finished, history]
  | cons step rest ih =>
    rw [after_cons]
    by_cases attempts : s.Attempts step
    · have started := started_of_attempts (p := p) fresh attempts
      obtain ⟨keeps, answers⟩ := history_of_started (p := p) started rest
      rw [keeps.finished, finished_of_attempts fresh attempts]
      constructor
      · rintro ⟨result, resolved⟩
        exact ⟨s, step, result, by simp [history, resolved], fresh.started, attempts⟩
      · rintro ⟨t, later, result, inside, unstarted, -⟩
        simp only [history, List.mem_append, List.mem_map, reduceCtorEq, and_false, exists_false,
          false_or, List.mem_cons, Moment.answer.injEq] at inside
        rcases inside with ⟨-, -, same⟩ | inside
        · exact ⟨result, same.symm⟩
        · obtain ⟨t', later', same, kept⟩ := answers _ inside
          obtain ⟨rfl, rfl, -⟩ := Moment.answer.inj same
          simp [kept.started] at unstarted
    · obtain ⟨next, same⟩ := fresh_of_not_attempts (p := p) fresh attempts
      rw [ih next]
      constructor
      · rintro ⟨t, later, result, inside, which⟩
        exact ⟨t, later, result, by simp [history, inside], which⟩
      · rintro ⟨t, later, result, inside, unstarted, attempted⟩
        simp only [history, newEvents_of_same same, List.map_nil, List.nil_append, List.mem_cons,
          Moment.answer.injEq] at inside
        rcases inside with ⟨rfl, rfl, -⟩ | inside
        · exact absurd attempted attempts
        · exact ⟨t, later, result, inside, unstarted, attempted⟩

/-! ### Cancellations -/

/-- After a step the call is cancelled if it was before or a cancellation was granted in it. -/
theorem cancelled_step_iff (rests : s.call.Fresh source ∨ s.call.started = true) :
    (s.step p step).1.call.cancelled = true ↔ s.call.cancelled = true ∨
      ∃ m ∈ (s.newEvents p step).map Moment.event ++ [.answer s step (s.step p step).2],
        m.cancels? = some true := by
  by_cases resolves : s.Resolves step
  · have answered := step_of_resolves (p := p) resolves
    cases cancelled : s.call.cancelled
    · rcases rests with fresh | started
      · rw [newEvents_of_fresh fresh]
        cases source with
        | ready outcome =>
          rw [answered, Call.resolve_of_ready fresh cancelled]
          simp [cancelled, fresh.events, Moment.cancels?]
        | request r =>
          obtain ⟨d, awaited, resolved, ends⟩ := Call.resolve_of_request (p := p) fresh cancelled
          rw [answered, resolved]
          simp only [ends.logged.cancelled, Bool.false_eq_true, false_or, List.mem_append,
            List.mem_map, List.mem_singleton]
          constructor
          · exact fun inside => ⟨.event (.cancel true), .inl ⟨_, inside, rfl⟩, rfl⟩
          · rintro ⟨m, ⟨e, inside, rfl⟩ | rfl, granted⟩
            · cases e <;> simp_all [Moment.cancels?]
            · cases awaited <;> cases granted
      · rw [newEvents_of_same (keeps_step started).2, step_of_started started resolves]
        simp [cancelled, Moment.cancels?]
    · simp [answered, Call.resolve_of_cancelled cancelled, cancelled]
  · obtain ⟨limit, cancelled, same, iff⟩ := step_of_not_resolves (p := p) resolves
    rw [newEvents_of_same (events_of_not_resolves resolves), same]
    simp only [iff, List.map_nil, List.nil_append, List.mem_singleton, exists_eq_left]
    refine or_congr_right ?_
    cases (s.step p step).2 <;> simp [Moment.cancels?]

theorem rests_step (rests : s.call.Fresh source ∨ s.call.started = true) :
    (s.step p step).1.call.Fresh source ∨ (s.step p step).1.call.started = true := by
  rcases rests with fresh | started
  · exact fresh_or_started fresh [step]
  · exact .inr (keeps_step started).1.started

/-- A call is cancelled exactly when a cancellation was granted. -/
theorem cancelled_after_iff (rests : s.call.Fresh source ∨ s.call.started = true) (steps : List CallStep) :
    (s.after p steps).call.cancelled = true ↔ s.call.cancelled = true ∨
      ∃ m ∈ s.history p steps, m.cancels? = some true := by
  induction steps generalizing s with
  | nil => simp [history]
  | cons step rest ih =>
    rw [after_cons, ih (rests_step rests), cancelled_step_iff rests, or_assoc]
    simp only [history, List.mem_append, List.mem_cons, List.not_mem_nil, or_false]
    grind

/-! ### What is asked of the parts -/

/-- The events of a history are those that the call logs. -/
theorem events_after (rests : s.call.Fresh source ∨ s.call.started = true) (steps : List CallStep) :
    (s.after p steps).call.events =
      s.call.events ++ (s.history p steps).filterMap Moment.event? := by
  induction steps generalizing s with
  | nil => simp [history]
  | cons step rest ih =>
    have first : (s.step p step).1.call.events = s.call.events ++ s.newEvents p step := by
      rcases rests with fresh | started
      · rw [newEvents_of_fresh fresh, fresh.events, List.nil_append]
      · have same : (s.step p step).1.call.events = s.call.events := (keeps_step started).2
        rw [newEvents_of_same same, same, List.append_nil]
    have events : ((s.newEvents p step).map Moment.event).filterMap Moment.event? =
        s.newEvents p step := by
      simp [List.filterMap_map, Function.comp_def, Moment.event?]
    rw [after_cons, ih (rests_step rests), first, history, List.filterMap_append, events,
      List.append_assoc]
    rfl

/-- Whatever steps are taken on a call for a request, its parts are asked as in one resolution. -/
theorem asked_after {r : Request} (state : s.call.Fresh (.request r) ∨
    s.call.started = true ∧ ∃ limit, p.Asked r limit s.call.asked) (steps : List CallStep) :
    ∃ limit, p.Asked r limit (s.after p steps).call.asked := by
  -- a fresh call has asked for nothing, and one whose resolution began asks for nothing more
  induction steps generalizing s with
  | nil =>
    rcases state with fresh | ⟨-, asked⟩
    · exact ⟨.null, by simpa [Call.asked, fresh.events] using .nothing⟩
    · exact asked
  | cons step rest ih =>
    rw [after_cons]
    refine ih ?_
    rcases state with fresh | ⟨started, asked⟩
    · by_cases attempts : s.Attempts step
      · refine .inr ⟨started_of_attempts fresh attempts, s.call.timeout, ?_⟩
        obtain ⟨d, awaited, resolved, ends⟩ := Call.resolve_of_request (p := p) fresh attempts.2
        rw [step_of_resolves attempts.1, resolved]
        exact ends.asked
      · exact .inl (fresh_of_not_attempts fresh attempts).1
    · have same : (s.step p step).1.call.events = s.call.events := (keeps_step started).2
      refine .inr ⟨(keeps_step started).1.started, ?_⟩
      rwa [Call.asked, same]

/-- The resolution in which an event of a history happens: the steps before it left the call fresh,
those after it resolve it no more. -/
structure Resolution (p : Parts) (source : CallSource) (past : List Moment) (e : Event)
    (future : List Moment) where
  request : Request
  session : CallSession
  step : CallStep
  ended : Call
  awaited : Call.Awaited
  early : List Event
  late : List Event
  quiet : List Moment
  rest : List Moment
  source_eq : source = .request request
  fresh : session.call.Fresh source
  attempts : session.Attempts step
  step_eq : session.step p step =
    ({ session with call := { ended with finished := awaited.isSome } }, .ofAwaited awaited)
  ends : ended.Ends p request session.call.timeout awaited
  events : ended.events = early ++ e :: late
  past_eq : past = quiet ++ early.map .event
  before : ∀ m ∈ quiet, ∃ t step, m = .answer t step (t.step p step).2 ∧
    t.call.Fresh source ∧ ¬ t.Attempts step
  uncancelled : ∀ m ∈ quiet, m.cancels? ≠ some true
  future_eq : future = late.map .event ++ .answer session step (.ofAwaited awaited) :: rest
  afterwards : ∀ m ∈ rest, ∃ t step, m = .answer t step (t.step p step).2 ∧
    t.call.started = true ∧ (ended.cancelled = true → t.call.cancelled = true)

theorem resolution_of_event (fresh : s.call.Fresh source) {steps : List CallStep}
    {past future : List Moment} {e : Event}
    (split : s.history p steps = past ++ .event e :: future) :
    Nonempty (Resolution p source past e future) := by
  obtain ⟨before, step, later, early, late, -, happened, past_eq, future_eq⟩ :=
    of_history_eq_event split
  have still : (s.after p before).call.Fresh source := by
    rcases fresh_or_started (p := p) fresh before with still | started
    · exact still
    · simp [newEvents_of_same (keeps_step started).2] at happened
  have attempts : (s.after p before).Attempts step := by
    by_contra otherwise
    simp [newEvents_of_same (fresh_of_not_attempts still otherwise).2] at happened
  have resolves := step_of_resolves (p := p) attempts.1
  have uncancelled : ∀ m ∈ s.history p before, m.cancels? ≠ some true := by
    intro m inside granted
    have cancelled := (cancelled_after_iff (.inl fresh) before).mpr (.inr ⟨m, inside, granted⟩)
    simp [attempts.2] at cancelled
  cases source with
  | ready outcome =>
    rw [newEvents_of_fresh still, resolves, Call.resolve_of_ready still attempts.2] at happened
    simp [still.events] at happened
  | request r =>
    obtain ⟨d, awaited, resolved, ends⟩ := Call.resolve_of_request (p := p) still attempts.2
    rw [resolved] at resolves
    rw [newEvents_of_fresh still, resolves] at happened
    have started := started_of_attempts (p := p) still attempts
    have afterwards := (history_of_started (p := p) started later).2
    rw [resolves] at future_eq afterwards
    refine ⟨{
      request := r, session := s.after p before, step := step, ended := d, awaited := awaited,
      early := early, late := late, quiet := s.history p before, rest := _,
      source_eq := rfl, fresh := still, attempts := attempts, step_eq := resolves, ends := ends,
      events := happened, past_eq := past_eq, before := history_of_fresh fresh still,
      uncancelled := uncancelled, future_eq := future_eq, afterwards := fun m inside => ?_ }⟩
    obtain ⟨t, later, same, keeps⟩ := afterwards m inside
    exact ⟨t, later, same, keeps.started, keeps.cancelled⟩

namespace Resolution

variable {past future : List Moment} {e : Event} (resolution : Resolution p source past e future)

include resolution

/-- A step in the past of an event is no attempt to resolve the call. -/
theorem not_attempts {t : CallSession} {answer : CallAnswer}
    (inside : .answer t step answer ∈ past) : ¬ t.Attempts step := by
  rw [resolution.past_eq, List.mem_append] at inside
  rcases inside with inside | inside
  · obtain ⟨t, step, same, -, otherwise⟩ := resolution.before _ inside
    cases same
    exact otherwise
  · simp at inside

/-- An event in the past of another happens in the same resolution. -/
theorem event_mem_past {e' : Event} : .event e' ∈ past ↔ e' ∈ resolution.early := by
  have quiet : .event e' ∉ resolution.quiet := by
    intro inside
    obtain ⟨t, step, ⟨⟩, -⟩ := resolution.before _ inside
  have split : .event e' ∈ past ↔ .event e' ∈ resolution.quiet ++ resolution.early.map .event := by
    rw [← resolution.past_eq]
  simpa [quiet] using split

theorem event_mem_future {e' : Event} : .event e' ∈ future ↔ e' ∈ resolution.late := by
  have rest : .event e' ∉ resolution.rest := by
    intro inside
    obtain ⟨t, step, ⟨⟩, -⟩ := resolution.afterwards _ inside
  have split : .event e' ∈ future ↔ .event e' ∈ resolution.late.map .event ++
      .answer resolution.session resolution.step (.ofAwaited resolution.awaited) ::
        resolution.rest := by
    rw [← resolution.future_eq]
  simpa [rest] using split

theorem parts_past : Moment.parts past = resolution.early.filterMap Event.part? := by
  have none : Moment.parts resolution.quiet = [] := by
    refine List.filterMap_eq_nil_iff.mpr fun m inside => ?_
    obtain ⟨t, step, rfl, -⟩ := resolution.before m inside
    rfl
  have split := congrArg Moment.parts resolution.past_eq
  rwa [Moment.parts_append, none, Moment.parts_map_event, List.nil_append] at split

/-- Among what the call asked of its parts is the event, if it is a question. -/
theorem asked (asks : e.asks = true) : p.Asked resolution.request resolution.session.call.timeout
    (resolution.early.filter Event.asks ++ e :: resolution.late.filter Event.asks) := by
  have asked := resolution.ends.asked
  rwa [Call.asked, resolution.events, List.filter_append, List.filter_cons_of_pos asks] at asked

/-- Only one step of a history resolves the call while it is fresh. -/
theorem session_eq {t : CallSession} {answer : CallAnswer}
    (inside : .answer t step answer ∈ past ++ .event e :: future)
    (unstarted : t.call.started = false) (attempts : t.Attempts step) :
    t = resolution.session := by
  rcases List.mem_append.mp inside with earlier | inside
  · exact absurd attempts (resolution.not_attempts earlier)
  · rw [resolution.future_eq] at inside
    simp only [List.mem_cons, reduceCtorEq, false_or, List.mem_append, List.mem_map, and_false,
      exists_false, Moment.answer.injEq] at inside
    rcases inside with ⟨same, -⟩ | afterwards
    · exact same
    · obtain ⟨t, step, same, started, -⟩ := resolution.afterwards _ afterwards
      cases same
      exact absurd started (by simp [unstarted])

end Resolution

/-! ### A call to look at -/

/-- A request for things. -/
def things : Request :=
  { method := "POST", service := "things", region := { name := "us-east-1" }, path := "/",
    endpointName := "things" }

/-- Parts that do what they are asked for; the handler gives the status of the response. -/
def willing : Parts where
  credentials := { result := .ok { accessKeyId := "AKID", secretAccessKey := "SECRET" } }
  sign := fun _ r => { result := .ok r }
  dispatch := fun _ _ => { result := .ok { status := 200 } }
  handle := fun response => { result := .ok (.int response.status) }

end CallSession

end ServiceClient

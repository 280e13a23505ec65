import Mathlib.Data.List.Infix
import ServiceClient.Client.Call
import ServiceClient.Proofs.Outcome

/-!
What one resolution of a call asks of its parts. While a call waits it can be cancelled and its time
limit can pass, as often and in whichever order; none of this asks a part for anything. The
statements are about the log of the call, and what carries them is that the log agrees with the
flags: the call is cancelled when a cancellation was granted, and finished ahead of time when its
time limit passed.
-/

namespace ServiceClient

/-- What a call works with, in the order in which it is asked. -/
inductive Part where
  | credentials
  | sign
  | dispatch
  | handle
  deriving DecidableEq, Repr

def Part.inOrder : List Part := [.credentials, .sign, .dispatch, .handle]

/-- The part that an event asks for something. -/
def Event.part? : Event → Option Part
  | .credentials => some .credentials
  | .sign => some .sign
  | .dispatch _ _ => some .dispatch
  | .handle => some .handle
  | _ => none

def Event.asks (e : Event) : Bool := e.part?.isSome

theorem Event.filterMap_part?_filter (events : List Event) :
    (events.filter Event.asks).filterMap Event.part? = events.filterMap Event.part? := by
  rw [List.filterMap_filter]
  refine List.filterMap_congr fun e _ => ?_
  cases asked : e.part? <;> simp [Event.asks, asked]

/-- Something that happens to a call while it waits. -/
def Event.interrupts : Event → Bool
  | .cancel _ | .timeLimit => true
  | _ => false

namespace Parts

/-- Credentials were got, and with them the request was signed. -/
def Signs (p : Parts) (r signed : Request) : Prop :=
  ∃ keys, p.credentials.result = .ok keys ∧ (p.sign keys r).result = .ok signed

/-- The response that phase one gets, or the failure of the first part that fails. -/
def exchange (p : Parts) (r : Request) (limit : Value) : Except Failure Response := do
  let keys ← p.credentials.result
  let signed ← (p.sign keys r).result
  (p.dispatch signed limit).result

theorem exchange_eq_ok_iff {p : Parts} {r : Request} {limit : Value} {response : Response} :
    p.exchange r limit = .ok response ↔
      ∃ signed, p.Signs r signed ∧ (p.dispatch signed limit).result = .ok response := by
  simp only [exchange, Signs, Except.bind_eq_ok_iff]
  constructor
  · rintro ⟨keys, got, signed, signature, received⟩
    exact ⟨signed, ⟨keys, got, signature⟩, received⟩
  · rintro ⟨signed, ⟨keys, got, signature⟩, received⟩
    exact ⟨keys, got, signed, signature, received⟩

/-- What the caller gets once the time limit of a call passed. -/
def overdue (p : Parts) (r : Request) (limit : Value) : Failure :=
  (p.mapped (Call.timedOut limit r)).raised

/-- What the caller gets for a failure of phase one that does not stop the wait. -/
def raised (p : Parts) (r : Request) (limit : Value) (e : Failure) : Failure :=
  match e.handedOver with
  | .timeout _ => p.overdue r limit
  | .credentials message => (p.mapped (.credentials message)).raised
  | .dispatch message => (p.mapped (.dispatch message)).raised
  | e => e

/-- What a call may have asked of its parts: one after the other, each only if those before it did
what they were asked for, and the request is sent with the time limit. -/
inductive Asked (p : Parts) (r : Request) (limit : Value) : List Event → Prop where
  | nothing : Asked p r limit []
  | credentials : Asked p r limit [.credentials]
  | sign {keys : Credentials} (got : p.credentials.result = .ok keys) :
      Asked p r limit [.credentials, .sign]
  | dispatch {signed : Request} (signs : p.Signs r signed) :
      Asked p r limit [.credentials, .sign, .dispatch signed limit]
  | handle {signed : Request} {response : Response} (signs : p.Signs r signed)
      (received : (p.dispatch signed limit).result = .ok response) :
      Asked p r limit [.credentials, .sign, .dispatch signed limit, .handle]

namespace Asked

variable {p : Parts} {r signed : Request} {limit given : Value} {events before later : List Event}

theorem inOrder (asked : p.Asked r limit events) :
    events.filterMap Event.part? <+: Part.inOrder := by
  cases asked <;> exact ⟨_, rfl⟩

theorem of_dispatch (asked : p.Asked r limit (before ++ .dispatch signed given :: later)) :
    p.Signs r signed ∧ given = limit ∧ before = [.credentials, .sign] := by
  generalize all : before ++ .dispatch signed given :: later = events at asked
  -- the request is the third that is asked for, so `before` has two events
  cases asked <;> rcases before with _ | ⟨_, _ | ⟨_, _ | ⟨_, _ | ⟨_, _⟩⟩⟩⟩ <;> simp_all

theorem of_handle (asked : p.Asked r limit (before ++ .handle :: later)) :
    ∃ signed response, p.Signs r signed ∧ (p.dispatch signed limit).result = .ok response ∧
      before = [.credentials, .sign, .dispatch signed limit] := by
  generalize all : before ++ .handle :: later = events at asked
  cases asked with
  | handle signs received =>
    refine ⟨_, _, signs, received, ?_⟩
    rcases before with _ | ⟨_, _ | ⟨_, _ | ⟨_, _ | ⟨_, _⟩⟩⟩⟩ <;> simp_all
  | _ => rcases before with _ | ⟨_, _ | ⟨_, _ | ⟨_, _⟩⟩⟩ <;> simp_all

end Asked

end Parts

namespace Call

variable {p : Parts} {c d e : Call} {r : Request}

/-- What a call has asked of its parts so far. -/
def asked (c : Call) : List Event := c.events.filter Event.asks

@[simp] theorem events_log (c : Call) (e : Event) : (c.log e).events = c.events ++ [e] := rfl

@[simp] theorem timeout_log (c : Call) (e : Event) : (c.log e).timeout = c.timeout := rfl

@[simp] theorem started_log (c : Call) (e : Event) : (c.log e).started = c.started := rfl

@[simp] theorem cancelled_log (c : Call) (e : Event) : (c.log e).cancelled = c.cancelled := rfl

@[simp] theorem finished_log (c : Call) (e : Event) : (c.log e).finished = c.finished := rfl

theorem asked_log (c : Call) (e : Event) :
    (c.log e).asked = if e.asks then c.asked ++ [e] else c.asked := by
  cases asks : e.asks <;> simp [asked, asks]

/-! ### The log and the flags -/

/-- The log of a call that is not over tells whether it was cancelled and whether its time limit
passed, and a cancellation was refused exactly if the time limit had passed. -/
structure Logged (c : Call) : Prop where
  cancelled : c.cancelled = true ↔ Event.cancel true ∈ c.events
  finished : c.finished = true ↔ Event.timeLimit ∈ c.events
  refused : ∀ past granted, past ++ [.cancel granted] <+: c.events →
    (granted = false ↔ Event.timeLimit ∈ past)

theorem Logged.log (logged : c.Logged) {event : Event} (plain : event.interrupts = false) :
    (c.log event).Logged where
  cancelled := by
    cases event <;> simp_all [Event.interrupts, logged.cancelled]
  finished := by
    cases event <;> simp_all [Event.interrupts, logged.finished]
  refused := by
    intro past granted before
    rcases List.prefix_concat_iff.mp before with same | before
    · have last := (List.append_inj' same rfl).2
      simp only [List.cons.injEq, and_true] at last
      rw [← last] at plain
      cases plain
    · exact logged.refused past granted before

theorem Logged.report (logged : c.Logged) (e : Failure) : (c.report p e).Logged := by
  unfold Call.report
  split
  · exact logged.log rfl
  · exact logged

theorem Logged.cancel (logged : c.Logged) : (c.cancel.1.log (.cancel c.cancel.2)).Logged := by
  cases isOver : c.finished
  · have granted : c.cancel = ({ c with cancelled := true }, true) := by simp [Call.cancel, isOver]
    rw [granted]
    refine ⟨by simp, by simp [logged.finished], fun past granted before => ?_⟩
    rcases List.prefix_concat_iff.mp before with same | before
    · obtain ⟨rfl, last⟩ := List.append_inj' same rfl
      have inTime : Event.timeLimit ∉ c.events := by simp [← logged.finished, isOver]
      simp_all
    · exact logged.refused past granted before
  · have refused : c.cancel = (c, false) := by simp [Call.cancel, isOver]
    rw [refused]
    refine ⟨by simp [logged.cancelled], by simp [logged.finished], fun past granted before => ?_⟩
    rcases List.prefix_concat_iff.mp before with same | before
    · obtain ⟨rfl, last⟩ := List.append_inj' same rfl
      have overdue : Event.timeLimit ∈ c.events := logged.finished.mp isOver
      simp_all
    · exact logged.refused past granted before

theorem Logged.expire (logged : c.Logged) (e : Failure) : (c.expire p e).Logged := by
  have passed : (({ c with finished := true } : Call).log .timeLimit).Logged := by
    refine ⟨by simp [logged.cancelled], by simp, fun past granted before => ?_⟩
    rcases List.prefix_concat_iff.mp before with same | before
    · have last := (List.append_inj' same rfl).2
      simp at last
    · exact logged.refused past granted before
  exact passed.report e

/-! ### Waiting -/

/-- What is kept of a call while it waits: it asks for nothing and only adds to its log. -/
structure Waits (c d : Call) : Prop where
  timeout : d.timeout = c.timeout
  started : d.started = c.started
  asked : d.asked = c.asked
  events : c.events <+: d.events
  logged : c.Logged → d.Logged

theorem Waits.refl (c : Call) : c.Waits c := ⟨rfl, rfl, rfl, List.prefix_refl _, id⟩

theorem Waits.trans (first : c.Waits d) (second : d.Waits e) : c.Waits e where
  timeout := second.timeout.trans first.timeout
  started := second.started.trans first.started
  asked := second.asked.trans first.asked
  events := first.events.trans second.events
  logged := second.logged ∘ first.logged

theorem waits_report (c : Call) (e : Failure) : c.Waits (c.report p e) := by
  refine ⟨?_, ?_, ?_, ?_, fun logged => logged.report e⟩ <;> unfold report <;> split <;>
    simp [asked, Event.asks, Event.part?]

theorem waits_expire (c : Call) (e : Failure) : c.Waits (c.expire p e) := by
  have reported := waits_report (p := p) (({ c with finished := true } : Call).log .timeLimit) e
  refine ⟨reported.timeout, reported.started, ?_, ?_, fun logged => logged.expire e⟩
  · exact reported.asked.trans (asked_log _ _)
  · exact (List.prefix_append _ _).trans reported.events

theorem timeLimit_mem_expire (c : Call) (e : Failure) : .timeLimit ∈ (c.expire p e).events :=
  (waits_report (({ c with finished := true } : Call).log .timeLimit) e).events.subset (by simp)

theorem waits_interrupt (overdue? : Option Failure) (c : Call) (i : Interruption) :
    c.Waits (c.interrupt p overdue? i) := by
  cases i with
  | cancel =>
    refine ⟨?_, ?_, ?_, ?_, Logged.cancel⟩ <;> simp only [interrupt, Call.cancel] <;> split <;>
      simp [asked, Event.asks, Event.part?]
  | timeLimit =>
    cases overdue? with
    | none => exact .refl c
    | some e =>
      cases isOver : c.finished
      · have expired : c.interrupt p (some e) .timeLimit = c.expire p e := by simp [interrupt, isOver]
        rw [expired]
        exact waits_expire c e
      · have same : c.interrupt p (some e) .timeLimit = c := by simp [interrupt, isOver]
        rw [same]
        exact .refl c

theorem waits_interruptAll (overdue? : Option Failure) (c : Call) (is : List Interruption) :
    c.Waits (c.interruptAll p overdue? is) := by
  induction is generalizing c with
  | nil => exact .refl c
  | cons i rest ih => exact (waits_interrupt overdue? c i).trans (ih _)

/-- Without a time limit a call is not finished while it waits. -/
theorem finished_interruptAll_none (c : Call) (is : List Interruption) :
    (c.interruptAll p none is).finished = c.finished := by
  induction is generalizing c with
  | nil => rfl
  | cons i rest ih =>
    refine (ih _).trans ?_
    cases i with
    | cancel =>
      simp only [interrupt, Call.cancel]
      split <;> rfl
    | timeLimit => rfl

/-! ### Phase one -/

theorem mem_asked {event : Event} : event ∈ c.asked ↔ event ∈ c.events ∧ event.asks = true :=
  List.mem_filter

/-- A call since it began to be resolved: it has asked for the events and nothing else. -/
structure Progress (c d : Call) (events : List Event) : Prop where
  timeout : d.timeout = c.timeout
  started : d.started = c.started
  asked : d.asked = events
  logged : d.Logged

namespace Progress

variable {events : List Event} (progress : c.Progress d events)

include progress

theorem wait (overdue? : Option Failure) (is : List Interruption) :
    c.Progress (d.interruptAll p overdue? is) events := by
  have waits := waits_interruptAll (p := p) overdue? d is
  exact ⟨waits.timeout.trans progress.timeout, waits.started.trans progress.started,
    waits.asked.trans progress.asked, waits.logged progress.logged⟩

theorem ask (event : Event) (asks : event.asks = true) :
    c.Progress (d.log event) (events ++ [event]) := by
  have plain : event.interrupts = false := by cases event <;> first | rfl | cases asks
  refine ⟨progress.timeout, progress.started, ?_, progress.logged.log plain⟩
  rw [asked_log, if_pos asks, progress.asked]

theorem withSource (source : CallSource) : c.Progress { d with source := source } events :=
  ⟨progress.timeout, progress.started, progress.asked,
    ⟨progress.logged.cancelled, progress.logged.finished, progress.logged.refused⟩⟩

end Progress

/-- What phase one leaves behind, whichever way it ends. -/
structure PhaseOneEnds (p : Parts) (r : Request) (c : Call)
    (one : Call × Except Failure Response) : Prop where
  timeout : one.1.timeout = c.timeout
  started : one.1.started = c.started
  logged : one.1.Logged
  asked : p.Asked r c.timeout one.1.asked
  unhandled : Event.handle ∉ one.1.asked
  result : one.1.finished = false → one.2 = p.exchange r c.timeout
  received : ∀ response, one.2 = .ok response → ∃ signed, p.Signs r signed ∧
    (p.dispatch signed c.timeout).result = .ok response ∧
    one.1.asked = [.credentials, .sign, .dispatch signed c.timeout]

theorem phaseOneEnds_of_error {events : List Event} {e : Failure} (progress : c.Progress d events)
    (asked : p.Asked r c.timeout events) (unhandled : Event.handle ∉ events)
    (failed : d.finished = false → p.exchange r c.timeout = .error e) :
    PhaseOneEnds p r c (d, .error e) where
  timeout := progress.timeout
  started := progress.started
  logged := progress.logged
  asked := progress.asked ▸ asked
  unhandled := progress.asked ▸ unhandled
  result := fun inTime => (failed inTime).symm
  received := by rintro response ⟨⟩

theorem phaseOne_ends (logged : c.Logged) (unasked : c.asked = []) :
    PhaseOneEnds p r c (c.phaseOne p r) := by
  have begun : c.Progress c [] := ⟨rfl, rfl, unasked, logged⟩
  have queued := begun.wait (p := p) (c.overdue? r) p.queue
  unfold phaseOne
  dsimp only
  generalize c.interruptAll p (c.overdue? r) p.queue = free at queued
  split
  next isOver => exact phaseOneEnds_of_error queued .nothing (by simp) (by simp [isOver])
  next =>
    have first := (queued.ask .credentials rfl).wait (p := p) (c.overdue? r)
      p.credentials.interruptions
    generalize (free.log .credentials).interruptAll p (c.overdue? r)
      p.credentials.interruptions = keyed at first
    cases got : p.credentials.result with
    | error e =>
      exact phaseOneEnds_of_error first .credentials (by simp) fun _ => by simp [Parts.exchange, got]
    | ok keys =>
      have second := (first.ask .sign rfl).wait (p := p) (c.overdue? r)
        (p.sign keys r).interruptions
      dsimp only
      generalize (keyed.log .sign).interruptAll p (c.overdue? r)
        (p.sign keys r).interruptions = ready at second
      cases signature : (p.sign keys r).result with
      | error e =>
        refine phaseOneEnds_of_error second (.sign got) (by simp) fun _ => ?_
        simp [Parts.exchange, got, signature]
      | ok signed =>
        have signs : p.Signs r signed := ⟨keys, got, signature⟩
        have third := ((second.withSource (.request signed)).ask
          (.dispatch signed ready.timeout) rfl).wait (p := p) (c.overdue? r)
          (p.dispatch signed ready.timeout).interruptions
        refine ⟨third.timeout, third.started, third.logged, ?_, ?_, fun _ => ?_, ?_⟩
        · refine third.asked ▸ ?_
          rw [second.timeout]
          exact .dispatch signs
        · refine third.asked ▸ ?_
          simp
        · simp [Parts.exchange, got, signature, second.timeout]
        · intro response received
          rw [← second.timeout]
          exact ⟨signed, signs, received, third.asked⟩

/-! ### Both phases -/

/-- What both phases of a call for a request leave behind, whichever way they end. A failure that
stops the wait is never raised: the time limit ends the call in its place, or nothing does. -/
structure Ends (p : Parts) (r : Request) (limit : Value) (d : Call) (awaited : Awaited) : Prop where
  started : d.started = true
  logged : d.Logged
  asked : p.Asked r limit d.asked
  uncancelled : ∀ past, past ++ [.handle] <+: d.events → Event.cancel true ∉ past
  handled : Event.handle ∈ d.events → ∃ response, p.exchange r limit = .ok response ∧
    awaited = some ((p.handle response).result.mapError Failure.raised)
  overdue : Event.timeLimit ∈ d.events → awaited = some (.error (p.overdue r limit))
  failed : Event.timeLimit ∉ d.events → ∀ e, e.stops = false → p.exchange r limit = .error e →
    awaited = some (.error (p.raised r limit e))
  stopped : Event.timeLimit ∉ d.events → ∀ e, e.stops = true → p.exchange r limit = .error e →
    limit.isNull = true ∧ awaited = none
  dropped : Event.timeLimit ∉ d.events → ∀ response, p.exchange r limit = .ok response →
    Event.handle ∉ d.events → awaited = some (.error .cancelled)

theorem not_mem_of_unhandled {past : List Event} (unhandled : Event.handle ∉ d.asked)
    (before : past ++ [.handle] <+: d.events) : False :=
  unhandled (mem_asked.mpr ⟨before.subset (by simp), rfl⟩)

section Unhandled

variable {limit : Value} {awaited : Awaited} (started : d.started = true) (logged : d.Logged)
  (asked : p.Asked r limit d.asked) (unhandled : Event.handle ∉ d.asked)

include started logged asked unhandled

/-- Without the handler only the failure is to be accounted for. -/
theorem ends_of_unhandled
    (overdue : .timeLimit ∈ d.events → awaited = some (.error (p.overdue r limit)))
    (failed : .timeLimit ∉ d.events → ∀ e, e.stops = false → p.exchange r limit = .error e →
      awaited = some (.error (p.raised r limit e)))
    (stopped : .timeLimit ∉ d.events → ∀ e, e.stops = true → p.exchange r limit = .error e →
      limit.isNull = true ∧ awaited = none)
    (dropped : .timeLimit ∉ d.events → ∀ response, p.exchange r limit = .ok response →
      awaited = some (.error .cancelled)) : Ends p r limit d awaited where
  started := started
  logged := logged
  asked := asked
  uncancelled := fun _ before => absurd before (not_mem_of_unhandled unhandled)
  handled := fun handled => absurd (mem_asked.mpr ⟨handled, rfl⟩) unhandled
  overdue := overdue
  failed := failed
  stopped := stopped
  dropped := fun inTime response got _ => dropped inTime response got

theorem ends_of_overdue (late : .timeLimit ∈ d.events) :
    Ends p r limit d (some (.error (p.overdue r limit))) :=
  ends_of_unhandled started logged asked unhandled (fun _ => rfl) (fun inTime => absurd late inTime)
    (fun inTime => absurd late inTime) fun inTime => absurd late inTime

theorem ends_of_error {e : Failure} (inTime : .timeLimit ∉ d.events)
    (exchanged : p.exchange r limit = .error e)
    (failed : e.stops = false → awaited = some (.error (p.raised r limit e)))
    (stopped : e.stops = true → limit.isNull = true ∧ awaited = none) :
    Ends p r limit d awaited := by
  refine ends_of_unhandled started logged asked unhandled (fun late => absurd late inTime) ?_ ?_ ?_
  · intro _ other goesOn otherwise
    cases exchanged.symm.trans otherwise
    exact failed goesOn
  · intro _ other stops otherwise
    cases exchanged.symm.trans otherwise
    exact stopped stops
  · intro _ response got
    cases exchanged.symm.trans got

/-- A response that is dropped, as the call was cancelled. -/
theorem ends_of_dropped {response : Response} (inTime : .timeLimit ∉ d.events)
    (got : p.exchange r limit = .ok response) : Ends p r limit d (some (.error .cancelled)) := by
  refine ends_of_unhandled started logged asked unhandled (fun late => absurd late inTime) ?_ ?_
    fun _ _ _ => rfl
  · intro _ e _ failed
    cases got.symm.trans failed
  · intro _ e _ failed
    cases got.symm.trans failed

end Unhandled

/-- A failure of phase one is raised as it is or as the mapper has it. -/
theorem fail_eq (c : Call) (r : Request) (e : Failure) :
    ∃ d, c.fail p r e.handedOver = (d, .error (p.raised r c.timeout e)) ∧ c.Waits d ∧
      d.finished = c.finished := by
  have reported (e : Failure) : (c.report p e).finished = c.finished := by
    unfold report
    split <;> rfl
  unfold Parts.raised
  cases e.handedOver with
  | timeout => exact ⟨_, rfl, waits_report c _, reported _⟩
  | credentials => exact ⟨_, rfl, waits_report c _, reported _⟩
  | dispatch => exact ⟨_, rfl, waits_report c _, reported _⟩
  | _ => exact ⟨c, rfl, .refl c, rfl⟩

/-- A wait that a failure stopped is ended by the time limit, or by nothing. -/
theorem starve_ends {e : Failure} (started : c.started = true) (logged : c.Logged)
    (inTime : c.finished = false) (asked : p.Asked r c.timeout c.asked)
    (unhandled : Event.handle ∉ c.asked) (exchanged : p.exchange r c.timeout = .error e)
    (stops : e.stops = true) : Ends p r c.timeout (c.starve p r).1 (c.starve p r).2 := by
  cases unlimited : c.timeout.isNull with
  | true =>
    have starved : c.starve p r = (c, none) := by simp [starve, overdue?, unlimited]
    have untimed : Event.timeLimit ∉ c.events := by simp [← logged.finished, inTime]
    rw [starved]
    refine ends_of_error started logged asked unhandled untimed exchanged ?_ fun _ => ⟨unlimited, rfl⟩
    simp [stops]
  | false =>
    have expired : c.starve p r =
        (c.expire p (timedOut c.timeout r), some (.error (p.overdue r c.timeout))) := by
      simp [starve, overdue?, unlimited, Parts.overdue]
    have waits := waits_expire (p := p) c (timedOut c.timeout r)
    rw [expired]
    refine ends_of_overdue (waits.started.trans started) (waits.logged logged) ?_ ?_
      (timeLimit_mem_expire c _)
    · rwa [waits.asked]
    · rwa [waits.asked]

/-- What comes before the handler is the log of phase one, for there is one handler only. -/
theorem not_cancelled_of_handle (logged : c.Logged) (uncancelled : c.cancelled = false)
    (unhandled : Event.handle ∉ c.asked) (waits : (c.log .handle).Waits d) {past : List Event}
    (before : past ++ [.handle] <+: d.events) : Event.cancel true ∉ past := by
  obtain ⟨future, before⟩ := before
  obtain ⟨late, after⟩ := waits.events
  have split : c.events ++ .handle :: late = past ++ .handle :: future := by
    simpa using after.trans before.symm
  have unhandledBefore : Event.handle ∉ c.events := fun handled =>
    unhandled (mem_asked.mpr ⟨handled, rfl⟩)
  have unhandledAfter : Event.handle ∉ late := by
    have once : (c.log .handle).asked ++ late.filter Event.asks = (c.log .handle).asked := by
      have both := congrArg (List.filter Event.asks) after
      rw [List.filter_append] at both
      exact both.trans waits.asked
    intro handled
    have nothing : late.filter Event.asks = [] := by simpa using once
    exact absurd rfl (List.filter_eq_nil_iff.mp nothing _ handled)
  rw [← ((List.append_cons_inj_of_notMem unhandledBefore unhandledAfter).mp split).1,
    ← logged.cancelled, uncancelled]
  simp

theorem handle_ends {limit : Value} {signed : Request} {response : Response}
    (started : c.started = true) (logged : c.Logged) (inTime : c.finished = false)
    (uncancelled : c.cancelled = false) (signs : p.Signs r signed)
    (received : (p.dispatch signed limit).result = .ok response)
    (asked : c.asked = [.credentials, .sign, .dispatch signed limit]) :
    Ends p r limit (c.handle p response).1 (some (c.handle p response).2) := by
  have got : p.exchange r limit = .ok response :=
    Parts.exchange_eq_ok_iff.mpr ⟨signed, signs, received⟩
  have begun : c.Progress c [.credentials, .sign, .dispatch signed limit] :=
    ⟨rfl, rfl, asked, logged⟩
  have last : c.Progress (c.handle p response).1
      [.credentials, .sign, .dispatch signed limit, .handle] :=
    (begun.ask .handle rfl).wait none (p.handle response).interruptions
  have finished : (c.handle p response).1.finished = false :=
    (finished_interruptAll_none (c.log .handle) _).trans inTime
  have inTime : Event.timeLimit ∉ (c.handle p response).1.events := by
    rw [← last.logged.finished, finished]
    simp
  have handled : Event.handle ∈ (c.handle p response).1.events :=
    (mem_asked.mp (last.asked ▸ by simp)).1
  constructor
  case started => exact last.started.trans started
  case logged => exact last.logged
  case asked =>
    rw [last.asked]
    exact .handle signs received
  case uncancelled =>
    intro past before
    refine not_cancelled_of_handle logged uncancelled ?_ (waits_interruptAll none _ _) before
    simp [asked]
  case handled => exact fun _ => ⟨response, got, rfl⟩
  case overdue => exact fun late => absurd late inTime
  case failed =>
    intro _ e _ failed
    cases got.symm.trans failed
  case stopped =>
    intro _ e _ failed
    cases got.symm.trans failed
  case dropped => exact fun _ _ _ unhandled => absurd handled unhandled

/-- What follows phase one ends with its failure, or with what the handler makes of its response. -/
theorem conclude_ends {result : Except Failure Response} (started : c.started = true)
    (logged : c.Logged) (inTime : c.finished = false) (asked : p.Asked r c.timeout c.asked)
    (unhandled : Event.handle ∉ c.asked) (exchanged : result = p.exchange r c.timeout)
    (received : ∀ response, result = .ok response → ∃ signed, p.Signs r signed ∧
      (p.dispatch signed c.timeout).result = .ok response ∧
      c.asked = [.credentials, .sign, .dispatch signed c.timeout]) :
    Ends p r c.timeout (c.conclude p r result).1 (c.conclude p r result).2 := by
  have untimed : Event.timeLimit ∉ c.events := by simp [← logged.finished, inTime]
  cases result with
  | error e =>
    cases stops : e.stops with
    | true =>
      have starves : c.conclude p r (.error e) = c.starve p r := by simp [conclude, stops]
      rw [starves]
      exact starve_ends started logged inTime asked unhandled exchanged.symm stops
    | false =>
      obtain ⟨last, failed, waits, finished⟩ := fail_eq (p := p) c r e
      have fails : c.conclude p r (.error e) =
          (last, some (.error (p.raised r c.timeout e))) := by simp [conclude, stops, failed]
      rw [fails]
      have untimed : Event.timeLimit ∉ last.events := by
        simp [← (waits.logged logged).finished, finished, inTime]
      refine ends_of_error (waits.started.trans started) (waits.logged logged) ?_ ?_ untimed
        exchanged.symm (fun _ => rfl) (by simp [stops])
      · rwa [waits.asked]
      · rwa [waits.asked]
  | ok response =>
    obtain ⟨signed, signs, got, three⟩ := received response rfl
    cases cancelled : c.cancelled with
    | true =>
      have dropped : c.conclude p r (.ok response) = (c, some (.error .cancelled)) := by
        simp [conclude, cancelled]
      rw [dropped]
      exact ends_of_dropped started logged asked unhandled untimed exchanged.symm
    | false =>
      have handles : c.conclude p r (.ok response) =
          ((c.handle p response).1, some (c.handle p response).2) := by
        simp [conclude, cancelled, Prod.map]
      rw [handles]
      exact handle_ends started logged inTime cancelled signs got three

theorem bothPhases_ends (started : c.started = true) (logged : c.Logged) (unasked : c.asked = []) :
    Ends p r c.timeout (c.bothPhases p r).1 (c.bothPhases p r).2 := by
  have spec := phaseOne_ends (p := p) (r := r) logged unasked
  unfold bothPhases
  generalize c.phaseOne p r = one at spec
  obtain ⟨d, result⟩ := one
  obtain ⟨timeout, same, agrees, asked, unhandled, exchanged, received⟩ := spec
  dsimp only at *
  replace started : d.started = true := same.trans started
  rw [← timeout] at asked exchanged received ⊢
  cases isOver : d.finished with
  | true => exact ends_of_overdue started agrees asked unhandled (agrees.finished.mp isOver)
  | false =>
    exact conclude_ends started agrees isOver asked unhandled (exchanged isOver) received

/-! ### Resolving a call -/

/-- A call that was not resolved yet. -/
structure Fresh (source : CallSource) (c : Call) : Prop where
  source : c.source = source
  started : c.started = false
  finished : c.finished = false
  events : c.events = []

/-- A fresh call that starts to be resolved has logged nothing, and nothing happened to it. -/
theorem Fresh.logged {source : CallSource} (fresh : c.Fresh source)
    (uncancelled : c.cancelled = false) : ({ c with started := true } : Call).Logged := by
  refine ⟨by simp [uncancelled, fresh.events], by simp [fresh.finished, fresh.events], ?_⟩
  intro past granted before
  simp [fresh.events] at before

theorem Fresh.unasked {source : CallSource} (fresh : c.Fresh source) : c.asked = [] := by
  simp [asked, fresh.events]

theorem resolve_of_cancelled (cancelled : c.cancelled = true) :
    c.resolve p = (c, some (.error .cancelled)) := by
  simp [resolve, cancelled]

/-- Once its resolution began, a call is not resolved again. -/
theorem resolve_of_started (started : c.started = true) :
    c.resolve p = (c, some (.error (if c.cancelled then .cancelled else .spent))) := by
  cases cancelled : c.cancelled <;> simp [resolve, cancelled, started]

theorem resolve_of_ready {outcome : Except Failure Value} (fresh : c.Fresh (.ready outcome))
    (uncancelled : c.cancelled = false) : c.resolve p =
      ({ c with started := true, finished := true }, some (outcome.mapError Failure.raised)) := by
  simp [resolve, uncancelled, fresh.started, fresh.source]

theorem resolve_eq (fresh : c.Fresh (.request r)) (uncancelled : c.cancelled = false) :
    c.resolve p =
      let (d, awaited) := ({ c with started := true } : Call).bothPhases p r
      ({ d with finished := awaited.isSome }, awaited) := by
  simp [resolve, uncancelled, fresh.started, fresh.source]

theorem resolve_of_request (fresh : c.Fresh (.request r)) (uncancelled : c.cancelled = false) :
    ∃ d awaited, c.resolve p = ({ d with finished := awaited.isSome }, awaited) ∧
      Ends p r c.timeout d awaited :=
  ⟨_, _, resolve_eq fresh uncancelled,
    bothPhases_ends (p := p) (c := { c with started := true }) rfl (fresh.logged uncancelled)
      fresh.unasked⟩

end Call

end ServiceClient

import ServiceClient.Http.Request
import ServiceClient.Http.Response

/-!
Calls of a service. A call does nothing until it is resolved. Phase one gets credentials, signs the
request and sends it, within a time limit if there is one; phase two hands the response to the
call's handler. A call is resolved once, and cancelling it keeps it from going further. `Parts` is
what a call works with, and the call's events tell what it asked of them.
-/

namespace ServiceClient

/-- Why a call ends without a value. -/
inductive Failure where
  | credentials (message : String)
  | dispatch (message : String)
  /-- A time limit passed, or one of the parts says that one did. -/
  | timeout (message : String)
  | cancelled
  /-- The call was resolved before. -/
  | spent
  /-- The context that should run the call is shut down. -/
  | shutDown
  | other (kind message : String)
  /-- What an error mapper makes of a failure. -/
  | mapped (cause : Failure)
  deriving DecidableEq, Repr

namespace Failure

def message : Failure → String
  | .credentials message | .dispatch message | .timeout message | .other _ message => message
  | .cancelled => ""
  | .spent => "ServiceFuture can only be resolved once"
  | .shutDown => "ExecutionContext has been shut down"
  | .mapped cause => cause.message

/-- Whether a failure is the one that tells the end of an iteration. A task is an iteration itself, so it
cannot fail with it. -/
def stops : Failure → Bool
  | .other kind _ => kind == "StopIteration"
  | _ => false

/-- What a task fails with in its place. -/
def stopped : Failure := .other "RuntimeError" "coroutine raised StopIteration"

/-- What a task fails with that a failure ends. -/
def raised (e : Failure) : Failure := if e.stops then stopped else e

/-- Failures of the pool of workers, each with the one that tasks have for it. -/
def ofPool : List (String × String) := [
  ("concurrent.futures.CancelledError", "CancelledError"),
  ("concurrent.futures.InvalidStateError", "InvalidStateError")]

/-- What a task is told of a worker's failure. -/
def handedOver : Failure → Failure
  | .other kind message => .other ((ofPool.lookup kind).getD kind) message
  | e => e

end Failure

/-- What can happen to a call while it waits. -/
inductive Interruption where
  | cancel
  /-- The time limit passes, if there is one. -/
  | timeLimit
  deriving DecidableEq, Repr

/-- The answer of a part, and what happens while it is awaited. -/
structure Reply (α : Type) where
  result : Except Failure α
  /-- The call is cancelled meanwhile. -/
  cancels : Bool := false
  /-- The time limit passes meanwhile. -/
  late : Bool := false
  /-- What else happens before the answer is there. -/
  further : List Interruption := []

/-- All that happens while an answer is awaited, in order. -/
def Reply.interruptions {α : Type} (reply : Reply α) : List Interruption :=
  (if reply.cancels then [.cancel] else []) ++ (if reply.late then [.timeLimit] else []) ++
    reply.further

/-- What a call works with. -/
structure Parts where
  /-- What happens before a worker is free for phase one. -/
  queue : List Interruption := []
  credentials : Reply Credentials
  sign : Credentials → Request → Reply Request
  /-- Sends a signed request, given the time limit. -/
  dispatch : Request → Value → Reply Response
  handle : Response → Reply Value
  mapError : Option (Failure → Failure) := none

/-- The failure that the mapper, if there is one, makes of a failure. -/
def Parts.mapped (p : Parts) (e : Failure) : Failure :=
  match p.mapError with
  | some map => map e
  | none => e

/-- What a call asks of its parts, and what happens to it meanwhile. -/
inductive Event where
  | credentials
  | sign
  | dispatch (request : Request) (timeout : Value)
  | handle
  | mapError (e : Failure)
  | cancel (granted : Bool)
  /-- The time limit passed, which ends the call. -/
  | timeLimit

/-- Where the outcome of a call comes from. -/
inductive CallSource where
  | request (r : Request)
  /-- The outcome is known from the start. -/
  | ready (outcome : Except Failure Value)

/-- A call and how far it has come. -/
structure Call where
  source : CallSource
  /-- The time limit for phase one in seconds; null if there is none. -/
  timeout : Value := .null
  cancelled : Bool := false
  started : Bool := false
  finished : Bool := false
  events : List Event := []

namespace Call

def ofRequest (r : Request) : Call := { source := .request r }

def ofOutcome (outcome : Except Failure Value) : Call := { source := .ready outcome }

def request? (c : Call) : Option Request :=
  match c.source with
  | .request r => some r
  | .ready _ => none

/-- Why a value is no time limit. -/
inductive TimeLimitError where
  | notPositive
  | notANumber
  deriving DecidableEq, Repr

def TimeLimitError.message : TimeLimitError → String
  | .notPositive => "Timeout must be positive"
  | .notANumber => ""

/-- Whether a number is zero or less. -/
def isNonPositive : Int ⊕ Binary64 → Bool
  | .inl n => n ≤ 0
  | .inr x => x.nonPositive

/-- Sets the time limit for phase one. -/
def setTimeLimit (c : Call) (seconds : Value) : Except TimeLimitError Call :=
  match seconds.asNumber? with
  | none => .error .notANumber
  | some n => if isNonPositive n then .error .notPositive else .ok { c with timeout := seconds }

def clearTimeLimit (c : Call) : Call := { c with timeout := .null }

/-- Cancels a call unless it is finished, and tells whether it did. -/
def cancel (c : Call) : Call × Bool :=
  if c.finished then (c, false) else ({ c with cancelled := true }, true)

def log (c : Call) (e : Event) : Call := { c with events := c.events ++ [e] }

/-- Tells the mapper, if there is one, of a failure. -/
def report (p : Parts) (c : Call) (e : Failure) : Call :=
  match p.mapError with
  | some _ => c.log (.mapError e)
  | none => c

/-- The failure of a call whose time limit passed. -/
def timedOut (limit : Value) (r : Request) : Failure :=
  .dispatch s!"Request timed out after {limit.display} seconds: {r.display}"

/-- The failure that ends a call when its time limit passes, if it has one. -/
def overdue? (c : Call) (r : Request) : Option Failure :=
  if c.timeout.isNull then none else some (timedOut c.timeout r)

/-- Ends a call whose time limit passed. -/
def expire (p : Parts) (c : Call) (e : Failure) : Call :=
  (({ c with finished := true } : Call).log .timeLimit).report p e

/-- What an interruption does to a call; `overdue?` is the failure that ends it when its time limit
passes, if there is a limit. -/
def interrupt (p : Parts) (overdue? : Option Failure) (c : Call) : Interruption → Call
  | .cancel =>
    let (c, granted) := c.cancel
    c.log (.cancel granted)
  | .timeLimit =>
    match overdue? with
    | none => c
    | some e => if c.finished then c else c.expire p e

def interruptAll (p : Parts) (overdue? : Option Failure) (c : Call) :
    List Interruption → Call :=
  List.foldl (interrupt p overdue?) c

/-- Phase one: credentials, signature, dispatch. It is done by a worker, who goes on after the time
limit passed but does not begin then. -/
def phaseOne (p : Parts) (c : Call) (r : Request) : Call × Except Failure Response :=
  let overdue? := c.overdue? r
  let c := c.interruptAll p overdue? p.queue
  if c.finished then (c, .error (timedOut c.timeout r))
  else
    let c := (c.log .credentials).interruptAll p overdue? p.credentials.interruptions
    match p.credentials.result with
    | .error e => (c, .error e)
    | .ok keys =>
      let c := (c.log .sign).interruptAll p overdue? (p.sign keys r).interruptions
      match (p.sign keys r).result with
      | .error e => (c, .error e)
      | .ok signed =>
        let reply := p.dispatch signed c.timeout
        let c := { c with source := .request signed }.log (.dispatch signed c.timeout)
        (c.interruptAll p overdue? reply.interruptions, reply.result)

/-- Ends a call with a failure of phase one that the mapper may replace. -/
def failMapped (p : Parts) (c : Call) (e : Failure) : Call × Except Failure Value :=
  (c.report p e, .error (p.mapped e).raised)

/-- Ends a call with a failure of phase one. Failures to get credentials or a response go through the
mapper, and so does a passed time limit. -/
def fail (p : Parts) (c : Call) (r : Request) : Failure → Call × Except Failure Value
  | .timeout _ => c.failMapped p (timedOut c.timeout r)
  | .credentials message => c.failMapped p (.credentials message)
  | .dispatch message => c.failMapped p (.dispatch message)
  | e => (c, .error e)

/-- What comes of waiting for a call: its outcome, or none if the wait has no end. -/
abbrev Awaited := Option (Except Failure Value)

/-- Waits for a worker that met the end of an iteration. It cannot be handed over, so nothing ends the
wait but the time limit, if there is one. -/
def starve (p : Parts) (c : Call) (r : Request) : Call × Awaited :=
  match c.overdue? r with
  | some e => (c.expire p e, some (.error (p.mapped e).raised))
  | none => (c, none)

/-- Phase two: the handler makes a value of the response. No time limit is set for it. -/
def handle (p : Parts) (c : Call) (response : Response) : Call × Except Failure Value :=
  let reply := p.handle response
  ((c.log .handle).interruptAll p none reply.interruptions, reply.result.mapError Failure.raised)

/-- What follows phase one; a call that was cancelled meanwhile does not reach phase two. -/
def conclude (p : Parts) (c : Call) (r : Request) : Except Failure Response → Call × Awaited
  | .error e => if e.stops then c.starve p r else (c.fail p r e.handedOver).map id some
  | .ok response =>
    if c.cancelled then (c, some (.error .cancelled)) else (c.handle p response).map id some

/-- Both phases of a call, unless its time limit passes in the first. -/
def bothPhases (p : Parts) (c : Call) (r : Request) : Call × Awaited :=
  let (c, result) := c.phaseOne p r
  if c.finished then (c, some (.error (p.mapped (timedOut c.timeout r)).raised))
  else c.conclude p r result

/-- Resolves a call. -/
def resolve (p : Parts) (c : Call) : Call × Awaited :=
  if c.cancelled then (c, some (.error .cancelled))
  else if c.started then (c, some (.error .spent))
  else
    let c := { c with started := true }
    let (c, awaited) := match c.source with
      | .ready outcome => (c, some (outcome.mapError Failure.raised))
      | .request r => c.bothPhases p r
    ({ c with finished := awaited.isSome }, awaited)

end Call

/-- What can be done with a call and the context that runs it. -/
inductive CallStep where
  | setTimeLimit (seconds : Value)
  | clearTimeLimit
  | cancel
  /-- Resolves the call by itself. -/
  | await
  /-- Resolves the call on the context. -/
  | sync
  | shutDown
  /-- Makes a new context. -/
  | reopen

/-- What comes of a step. -/
inductive CallAnswer where
  | done
  | granted (b : Bool)
  | rejected (e : Call.TimeLimitError)
  | resolved (result : Except Failure Value)
  /-- Whoever took the step waits without end. What follows is done by others. -/
  | unending

/-- What comes of a step that waits for a call. -/
def CallAnswer.ofAwaited : Call.Awaited → CallAnswer
  | some result => .resolved result
  | none => .unending

/-- A call beside the context that runs it. -/
structure CallSession where
  call : Call
  closed : Bool := false

namespace CallSession

def step (p : Parts) (s : CallSession) : CallStep → CallSession × CallAnswer
  | .setTimeLimit seconds =>
    match s.call.setTimeLimit seconds with
    | .ok call => ({ s with call }, .done)
    | .error e => (s, .rejected e)
  | .clearTimeLimit => ({ s with call := s.call.clearTimeLimit }, .done)
  | .cancel =>
    let (call, granted) := s.call.cancel
    ({ s with call }, .granted granted)
  | .await =>
    let (call, awaited) := s.call.resolve p
    ({ s with call }, .ofAwaited awaited)
  | .sync =>
    if s.closed then (s, .resolved (.error .shutDown))
    else
      let (call, awaited) := s.call.resolve p
      ({ s with call }, .ofAwaited awaited)
  | .shutDown => ({ s with closed := true }, .done)
  | .reopen => ({ s with closed := false }, .done)

/-- The session after steps, with their answers. -/
def run (p : Parts) (s : CallSession) (steps : List CallStep) : CallSession × List CallAnswer :=
  steps.foldl (fun (s, answers) step =>
    let (s, answer) := s.step p step
    (s, answers ++ [answer])) (s, [])

end CallSession

end ServiceClient

import Drafting.Log.Call
import Drafting.Log.Limits

/-!
# Operations and their calls

An operation is a body that is run step by step: it reads and changes the state, writes records and
calls other operations by name. Around its body an operation has layers of tracing. A layer whose
channel takes records of calls puts one record before those of the body and, unless the body is
interrupted, one after them; what the body gives is what the call gives. Only when the arguments or
the result cannot be shown does the call fail instead.
-/

namespace Drafting.Log

/-- What an operation is called with. -/
structure Arguments where
  positional : List (Value Float)
  named : List (String × Value Float)
  /-- How many calls inside each other are left for showing an argument, beside those that are made
  for one without others in it; nothing where there are too few even for these. -/
  room? : Option Nat := some Headroom.usual

namespace Arguments

/-- Demands that the arguments can be shown. -/
def requireShown (a : Arguments) : Except (Fault Float) Unit := do
  match a.room? with
  | some room => let _ ← shownCall room a.positional a.named
  | none => throw .tooDeep

/-- How many calls inside each other are left for showing the result: two more, as an argument is
shown by a call inside a call. -/
def resultRoom (a : Arguments) : Nat := a.room?.elim 0 (· + 2)

end Arguments

/-- Why an operation has no result: it raised an error, it was interrupted, or what was to be shown
of its call cannot be shown. -/
inductive Failure where
  | raised (kind message : String)
  | interrupted (kind message : String)
  | unshown (fault : Fault Float)

/-- The message of a failure. -/
def Failure.message : Failure → String
  | raised _ message => message
  | interrupted _ message => message
  | unshown fault => fault.message

/-- What a call gives: its result, or why it has none. -/
abbrev Outcome := Except Failure (Value Float)

/-- Whether a call was interrupted. -/
def wasInterrupted : Outcome → Bool
  | .error (.interrupted ..) => true
  | _ => false

/-- Which channels take records of calls. -/
abbrev Verbosity := Channel → Bool

/-- Where an operation is found: its name, or the names of a class and of a member of it. -/
abbrev Path := List String

/-- What remains to be run of a body over a state. -/
inductive Routine (σ : Type) where
  | finish (outcome : Outcome)
  | get (next : σ → Routine σ)
  | set (s : σ) (next : Routine σ)
  | write (severity : Severity) (channel : Channel) (text : String) (next : Routine σ)
  | call (path : Path) (arguments : Arguments) (next : Outcome → Routine σ)

/-- What a body did, in order: the records that it wrote, and the calls that it made with what
happened in each. -/
inductive Course where
  | done
  | note (severity : Severity) (channel : Channel) (text : String) (rest : Course)
  | call (path : Path) (arguments : Arguments) (inner : Course) (outcome : Outcome) (rest : Course)

/-- What comes of a call: the records, what it gives, the state that it leaves and the course that
its body took. -/
structure Run (σ : Type) where
  records : List Record
  outcome : Outcome
  state : σ
  course : Course

variable {σ : Type}

/-- A run that starts with a record. -/
def Run.note (severity : Severity) (channel : Channel) (text : String) (r : Run σ) : Run σ :=
  { r with
    records := .plain severity channel text :: r.records
    course := .note severity channel text r.course }

/-- A run that starts with a call. -/
def Run.after (path : Path) (arguments : Arguments) (called : Run σ) (r : Run σ) : Run σ :=
  { r with
    records := called.records ++ r.records
    course := .call path arguments called.course called.outcome r.course }

/-- Runs a body, given what comes of the calls that it makes. There is no run where one of these has
none. -/
def Routine.run (call : Path → Arguments → σ → Option (Run σ)) : Routine σ → σ → Option (Run σ)
  | finish outcome, s => some ⟨[], outcome, s, .done⟩
  | get next, s => (next s).run call s
  | set s next, _ => next.run call s
  | write severity channel text next, s => (next.run call s).map (.note severity channel text)
  | .call path arguments next, s =>
    (call path arguments s).bind fun called =>
      ((next called.outcome).run call called.state).map (.after path arguments called)

/-- How the calls of an operation are traced. -/
structure Tracing where
  channel : Channel
  name : String
  showResult : Bool

namespace Tracing

/-- The call that is traced. -/
def call (t : Tracing) (arguments : Arguments) : Call :=
  ⟨t.channel, t.name, arguments.positional, arguments.named⟩

/-- What is shown of a result. -/
def shown (t : Tracing) : Shown (Value Float) := if t.showResult then .as id else .hidden

/-- The records at the end of a call: none where it was interrupted. -/
def leave (t : Tracing) (arguments : Arguments) (outcome : Outcome) : List Record :=
  if wasInterrupted outcome then [] else [(t.call arguments).leave t.shown outcome]

/-- Demands that what is to be shown of an outcome can be shown. -/
def requireLeave (t : Tracing) (arguments : Arguments) (outcome : Outcome) :
    Except (Fault Float) Unit :=
  match outcome with
  | .ok result => if t.showResult then requireShown arguments.resultRoom result else .ok ()
  | .error _ => .ok ()

/-- A run with the start and the end of its call on record, unless its result cannot be shown. -/
def close (t : Tracing) (arguments : Arguments) (r : Run σ) : Run σ :=
  let entry := (t.call arguments).entry
  match t.requireLeave arguments r.outcome with
  | .error fault => { r with records := entry :: r.records, outcome := .error (.unshown fault) }
  | .ok _ => { r with records := entry :: r.records ++ t.leave arguments r.outcome }

/-- A call with its start and its end on record, where records of calls are taken. -/
def around (t : Tracing) (verbosity : Verbosity) (arguments : Arguments)
    (body : σ → Option (Run σ)) (s : σ) : Option (Run σ) :=
  if verbosity t.channel then
    match arguments.requireShown with
    | .error fault => some ⟨[], .error (.unshown fault), s, .done⟩
    | .ok _ => (body s).map (t.close arguments)
  else body s

end Tracing

/-- An operation of a module, with the layers of tracing around its body. A body may look at which
channels take records of calls. -/
structure Operation (σ : Type) where
  ownName : String
  home : Option String
  tracing : List Tracing
  body : Verbosity → Arguments → Routine σ

namespace Operation

/-- Whether the calls of an operation are traced. -/
def isTraced (op : Operation σ) : Bool := !op.tracing.isEmpty

/-- The name that calls are recorded under: the one that is given, or its own if that is empty. -/
def label (op : Operation σ) (name : String) : String := if name.isEmpty then op.ownName else name

/-- The operation with its calls traced under a name. One that is traced already stays as it is. -/
def trace (channel : Channel) (name : String) (showResult : Bool) (op : Operation σ) :
    Operation σ :=
  if op.isTraced then op
  else { op with tracing := ⟨channel, op.label name, showResult⟩ :: op.tracing }

/-- Runs an operation, given what comes of the calls that its body makes. -/
def run (op : Operation σ) (verbosity : Verbosity) (call : Path → Arguments → σ → Option (Run σ))
    (arguments : Arguments) : σ → Option (Run σ) :=
  op.tracing.foldr (fun t => t.around verbosity arguments)
    ((op.body verbosity arguments).run call)

end Operation

end Drafting.Log

/-!
# Log records

A record has a severity, a channel and a text. Records of calls, which trace how operations nest,
are marked as such, and so are those that cannot be written because of a value in them. A
computation that writes records is `Logged`: the records in order, and a value.
-/

namespace Drafting.Log

/-- How severe a record is. -/
inductive Severity where
  | debug
  | info
  | warning
  | error
  deriving DecidableEq, Repr

namespace Severity

/-- The name of a severity. -/
def name : Severity → String
  | debug => "DEBUG"
  | info => "INFO"
  | warning => "WARNING"
  | error => "ERROR"

/-- The rank of a severity; a more severe record has a higher one. -/
def rank : Severity → Nat
  | debug => 10
  | info => 20
  | warning => 30
  | error => 40

end Severity

/-- Where in the program a record comes from. -/
inductive Channel where
  | engine
  | facade
  | planar
  | linear
  | serialization
  | command
  | named (name : String)
  deriving DecidableEq, Repr

/-- The name of a channel. -/
def Channel.name : Channel → String
  | engine => "sketch_solver.solver.engine"
  | facade => "sketch_solver.solver.facade"
  | planar => "sketch_solver.solver.solver_2d"
  | linear => "sketch_solver.solver.linalg"
  | serialization => "sketch_solver.serialization"
  | command => "sketch_solver.__main__"
  | named name => name

/-- One line of a log. -/
structure Record where
  severity : Severity
  channel : Channel
  text : String
  isTrace : Bool
  /-- Whether a value in it is nested too deeply to be shown. To write such a record is to fail. -/
  isTooDeep : Bool := false
  deriving DecidableEq, Repr

/-- A record that traces no call. -/
def Record.plain (severity : Severity) (channel : Channel) (text : String) : Record :=
  { severity, channel, text, isTrace := false }

/-- A record that traces a call. -/
def Record.trace (channel : Channel) (text : String) : Record :=
  { severity := .debug, channel, text, isTrace := true }

/-- The records of at least a rank. -/
def atLeast (rank : Nat) (records : List Record) : List Record :=
  records.filter fun r => rank ≤ r.severity.rank

end Log

/-- A value with the records that were written on the way to it. -/
structure Logged (β : Type) where
  records : List Log.Record
  value : β

namespace Logged

variable {β γ : Type}

/-- A value without records. -/
def quiet (value : β) : Logged β := ⟨[], value⟩

/-- Goes on with a value; the records of both parts follow each other. -/
def andThen (l : Logged β) (f : β → Logged γ) : Logged γ :=
  let next := f l.value
  ⟨l.records ++ next.records, next.value⟩

/-- Goes on with the result of what has not failed. -/
def whenOk {ε : Type} (l : Logged (Except ε β)) (f : β → Logged (Except ε γ)) :
    Logged (Except ε γ) :=
  match l.value with
  | .ok x => l.andThen fun _ => f x
  | .error cause => ⟨l.records, .error cause⟩

/-- The results of what is done to the items of a list, one after the other until it fails. -/
def each {ε : Type} (f : β → Logged (Except ε γ)) : List β → Logged (Except ε (List γ))
  | [] => quiet (.ok [])
  | x :: rest => (f x).whenOk fun y => (each f rest).whenOk fun ys => quiet (.ok (y :: ys))

instance : Monad Logged where
  pure := quiet
  bind := andThen

end Logged

end Drafting

import Drafting.Log.Limits
import Drafting.Log.Record

/-!
# Traced calls

A traced call writes one record when it is entered and one when it is left, either with its result
or because it failed; what it gives back is what the call itself gives. Calls inside it are traced
between the two, so the records of nested calls nest. A call that shows values from elsewhere is
watched: its records tell whether they can be shown.
-/

namespace Drafting.Log

/-- What a traced call is known by. -/
structure Call where
  channel : Channel
  name : String
  arguments : List (Value Float)
  named : List (String × Value Float) := []

/-- The record at the start of a call. -/
def Call.entry (call : Call) : Record :=
  .trace call.channel ("-> " ++ call.name ++ "(" ++ callText call.arguments call.named ++ ")")

/-- The record at the end of a call that gave a result. -/
def Call.exit (call : Call) (result : Value Float) : Record :=
  .trace call.channel ("<- " ++ call.name ++ " = " ++ summary .inner result)

/-- The record at the end of a call whose result is not shown. -/
def Call.quietExit (call : Call) : Record := .trace call.channel ("<- " ++ call.name)

/-- The record at the end of a call that failed. -/
def Call.failure (call : Call) : Record := .trace call.channel ("!! " ++ call.name ++ " raised")

/-- How the result of a call is shown when it is left. -/
inductive Shown (β : Type) where
  | hidden
  | as (text : β → Value Float)

/-- The record at the end of a call. -/
def Call.leave {ε β : Type} (call : Call) (shown : Shown β) : Except ε β → Record
  | .error _ => call.failure
  | .ok result =>
    match shown with
    | .hidden => call.quietExit
    | .as text => call.exit (text result)

/-- A call with records around those it writes itself. -/
def Call.traced {ε β : Type} (call : Call) (shown : Shown β) (body : Logged (Except ε β)) :
    Logged (Except ε β) :=
  ⟨call.entry :: body.records ++ [call.leave shown body.value], body.value⟩

/-- Whether a value is nested too deeply to be shown where so much room is left. -/
def isTooDeep (room : Nat) (v : Value Float) : Bool :=
  match requireShown room v with
  | .error .tooDeep => true
  | _ => false

section

variable [Headroom]

/-- The record at the start of a call that is watched. -/
def Call.watchedEntry (call : Call) : Record :=
  { call.entry with
    isTooDeep := (call.arguments ++ call.named.map Prod.snd).any
      (isTooDeep (Headroom.room (.argument call.name))) }

/-- The record at the end of a call that is watched. -/
def Call.watchedLeave {ε β : Type} (call : Call) (shown : β → Value Float) (result : Except ε β) :
    Record :=
  { call.leave (.as shown) result with
    isTooDeep := result.toOption.any fun x =>
      isTooDeep (Headroom.room (.result call.name)) (shown x) }

/-- A call with records around those it writes itself, which tell whether they can be written. -/
def Call.watched {ε β : Type} (call : Call) (shown : β → Value Float)
    (body : Logged (Except ε β)) : Logged (Except ε β) :=
  ⟨call.watchedEntry :: body.records ++ [call.watchedLeave shown body.value], body.value⟩

end

end Drafting.Log

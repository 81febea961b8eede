import Drafting.Command.Arguments
import Drafting.Json.Parser
import Drafting.Plane.Reading
import Drafting.Plane.Session
import Drafting.Sketch.Session
import Drafting.Text.Utf8

/-!
# From a file to a solved sketch

The bytes of a file are read as text, the text as JSON, and the value as a sketch for one of the two
solvers, with options of the command line in place of those in the file. Each stage may end the run:
with an exit status where the file is at fault, with a failure otherwise.
-/

namespace Drafting.Command

/-- What keeps a file from being read or written. -/
inductive FileFailure where
  /-- What the system reports about a path. -/
  | reported (number : Nat) (reason path : String)
  /-- A path with a null character cannot be passed on to the system. -/
  | nullCharacter
  /-- A text with halves of pairs at a position cannot be written as bytes. -/
  | strayHalves (position : Nat) (halves : List Nat)
  deriving Repr, DecidableEq

namespace FileFailure

/-- There is nothing at a path. -/
def missing (path : String) : FileFailure := reported 2 "No such file or directory" path

/-- A path may not be used. -/
def denied (path : String) : FileFailure := reported 13 "Permission denied" path

/-- There is something at a path already. -/
def present (path : String) : FileFailure := reported 17 "File exists" path

/-- A path goes on behind a file. -/
def behindFile (path : String) : FileFailure := reported 20 "Not a directory" path

/-- There is a directory at a path. -/
def isDirectory (path : String) : FileFailure := reported 21 "Is a directory" path

/-- A path, or a name in it, has too many bytes. -/
def tooLong (path : String) : FileFailure := reported 36 "File name too long" path

/-- What keeps a text from being written as bytes, where some halves of pairs may be written. -/
def ofText? (isWritten : Nat → Bool) (s : String) : Option FileFailure :=
  (Text.strayHalves? isWritten 0 s.toList).map fun (position, halves) =>
    strayHalves position halves

/-- What keeps a path from being passed on to the system. -/
def ofPath? (path : String) : Option FileFailure :=
  (ofText? Text.standsForByte path).or
    (if path.toList.contains '\x00' then some nullCharacter else none)

/-- Whether a failure is what the system reports. -/
def isReported : FileFailure → Bool
  | reported .. => true
  | _ => false

/-- The wording of a failure. -/
def message : FileFailure → String
  | reported number reason path =>
    "[Errno " ++ toString number ++ "] " ++ reason ++ ": " ++ Text.quoted path
  | nullCharacter => "embedded null byte"
  | strayHalves position [half] =>
    "'utf-8' codec can't encode character '\\u" ++ String.ofList (Text.hex 4 half) ++
      "' in position " ++ toString position ++ ": surrogates not allowed"
  | strayHalves position halves =>
    "'utf-8' codec can't encode characters in position " ++ toString position ++ "-" ++
      toString (position + halves.length - 1) ++ ": surrogates not allowed"

end FileFailure

/-- The styles of record templates: the sign of each, its name and its usual template. -/
def templateStyles : List (String × String × String) :=
  [("%", "PercentStyle", "%(levelname)s:%(name)s:%(message)s"),
    ("\x7b", "StrFormatStyle", "\x7blevelname\x7d:\x7bname\x7d:\x7bmessage\x7d"),
    ("$", "StringTemplateStyle", "$\x7blevelname\x7d:$\x7bname\x7d:$\x7bmessage\x7d")]

/-- The styles of record templates as text. -/
def templateStylesText : String :=
  let entry (sign name template : String) :=
    Text.quoted sign ++ ": (<class 'logging." ++ name ++ "'>, " ++ Text.quoted template ++ ")"
  "\x7b" ++ ", ".intercalate (templateStyles.map fun (s, n, t) => entry s n t) ++ "\x7d"

/-- A failure that no exit status stands for. A level may also name the table of template styles. -/
inductive Failure where
  | bytes (failure : Text.ByteFailure)
  | number (complaint : Json.Complaint)
  | depth (complaint : Json.Complaint)
  | level (name : String)
  | levelOfStyles
  | fault (cause : Fault Float)
  | file (failure : FileFailure)

/-- The wording of a failure. -/
def Failure.message : Failure → String
  | bytes failure => failure.message
  | number complaint => complaint.text
  | depth complaint => complaint.text
  | level name => "Unknown level: " ++ Text.quoted name
  | levelOfStyles => "Level not an integer or a valid string: " ++ templateStylesText
  | fault cause => cause.message
  | file failure => failure.message

/-- How a run ends. -/
inductive Ending where
  | status (code : Nat)
  | failed (failure : Failure)

/-- A stage of a run: its records, and what it hands on unless the run ends. -/
abbrev Stage (β : Type) := Logged (Except Ending β)

namespace Stage

variable {β γ : Type}

/-- Hands on a value. -/
def pass (x : β) : Stage β := .quiet (.ok x)

/-- Ends the run. -/
def stop (ending : Ending) : Stage β := .quiet (.error ending)

/-- Goes on with what a stage hands on. -/
def next (stage : Stage β) (f : β → Stage γ) : Stage γ :=
  match stage.value with
  | .ok x => stage.andThen fun _ => f x
  | .error ending => ⟨stage.records, .error ending⟩

/-- Writes records. -/
def write (records : List Log.Record) : Stage Unit := ⟨records, .ok ()⟩

end Stage

/-- A record of the command. -/
def commandRecord (severity : Log.Severity) (text : String) : Log.Record :=
  .plain severity .command text

/-- Ends a run whose input is at fault. -/
def refuse {β : Type} (text : String) : Stage β :=
  ⟨[commandRecord .error text], .error (.status 2)⟩

/-- What the bytes of a file hold. -/
def content (path : String) (bytes : List UInt8) : Stage (Value Float) :=
  match Text.decode bytes with
  | .error failure => .stop (.failed (.bytes failure))
  | .ok cs =>
    match Json.read (String.ofList (Text.unifyLines cs)) with
    | .ok v => .pass v
    | .error failure =>
      match failure.complaint with
      | complaint@(.tooManyDigits _) => .stop (.failed (.number complaint))
      | complaint@(.tooDeep _) => .stop (.failed (.depth complaint))
      | _ => refuse (path ++ " is not valid JSON: " ++ failure.message)

/-- The fields that a file holds. -/
def payload (path : String) (file : Except FileFailure (List UInt8)) :
    Stage (List (String × Value Float)) :=
  match file with
  | .error failure =>
    if failure.isReported then refuse ("Cannot read " ++ path ++ ": " ++ failure.message)
    else .stop (.failed (.file failure))
  | .ok bytes =>
    (content path bytes).next fun
      | .record fields => .pass fields
      | _ => refuse (path ++ " must contain a JSON object")

/-- The solver for a file: the one asked for, or the planar one if the file holds its sections. -/
def pickEngine (requested : Option Engine) (fields : List (String × Value Float)) : Engine :=
  match requested with
  | some engine => engine
  | none =>
    if (field? fields "points").isSome || (field? fields "variables").isSome then .planar
    else .gradient

/-- A stage that may end in a fault; one that lies in the form of the sketch is reported. -/
def checked {β : Type} (path : String) (result : Except (Fault Float) β) : Stage β :=
  match result with
  | .ok x => .pass x
  | .error cause =>
    if cause.isMalformed then refuse ("Invalid sketch " ++ path ++ ": " ++ cause.message)
    else .stop (.failed (.fault cause))

/-- A setting as a value; nothing is a list without items. -/
def Setting.toValue {β : Type} (f : β → Value Float) : Setting β → Value Float
  | nothing => .list []
  | value x => f x

/-- The options of a gradient descent with those of the command line. -/
def Arguments.descent (a : Arguments) (o : DescentOptions Float) : DescentOptions Float :=
  { o with
    maxIterations := (a.maxIterations.map (Setting.toValue .int)).getD o.maxIterations
    tolerance := (a.tolerance.map (Setting.toValue .real)).getD o.tolerance
    damping := (a.damping.map (Setting.toValue .real)).getD o.damping
    verbose := if a.verbose then .flag true else o.verbose }

/-- The options of a planar solver with those of the command line. -/
def Arguments.newton (a : Arguments) (o : NewtonOptions Float) : NewtonOptions Float :=
  { o with
    maxIterations := (a.maxIterations.map (Setting.toValue .int)).getD o.maxIterations
    tolerance := (a.tolerance.map (Setting.toValue .real)).getD o.tolerance
    damping := (a.damping.map (Setting.toValue .real)).getD o.damping }

/-- A sketch with what solving it has come to. -/
inductive Solved where
  | gradient (s : Sketch (Value Float) Float Float)
      (run : Except (Fault Float) (Gradient.Solution (Value Float) Float))
  | planar (d : Plane.Drawing String Float)
      (result : Except (Fault Float) (Plane.Solution String Float))

section

variable [Headroom]

/-- A stage that reads something with records of its own. -/
def reading {β : Type} (path : String) (l : Logged (Except (Fault Float) β)) : Stage β :=
  (Stage.write l.records).next fun _ => checked path l.value

/-- Reads and solves a sketch in space. -/
def solveGradient (a : Arguments) (fields : List (String × Value Float)) : Stage Solved :=
  let given := fieldOrNull fields "options"
  let options := Log.Reading.options "SolverOptions" given (DescentOptions.ofValue given)
  (reading a.path options).next fun options =>
    let loaded := Sketch.Front.load (.record fields) (some (a.descent options))
    (reading a.path loaded).next fun s => .pass (.gradient s s.descend)

/-- Reads and solves a planar sketch. -/
def solvePlanar (a : Arguments) (fields : List (String × Value Float)) : Stage Solved :=
  let warning := if a.verbose then
      [commandRecord .warning
        "--verbose only applies to the gradient engine; ignored for 2d sketches"]
    else []
  let given := fieldOrNull fields "options"
  let options := Log.Reading.options "Solver2DOptions" given (NewtonOptions.ofValue given)
  (Stage.write warning).next fun _ =>
    (reading a.path options).next fun options =>
      let loaded := Plane.Session.load (.record fields) (some (a.newton options))
      (reading a.path loaded).next fun d => .pass (.planar d d.solve.result)

/-- Reads and solves what a file holds. -/
def load (a : Arguments) (file : Except FileFailure (List UInt8)) : Stage Solved :=
  (payload a.path file).next fun fields =>
    let engine := pickEngine (a.engine.bind Setting.value?) fields
    let line := commandRecord .info ("Loaded sketch from " ++ a.path ++ " (engine: " ++
      engine.name ++ ")")
    (Stage.write [line]).next fun _ =>
      match engine with
      | .gradient => solveGradient a fields
      | .planar => solvePlanar a fields

end

end Drafting.Command

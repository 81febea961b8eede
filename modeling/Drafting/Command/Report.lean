import Drafting.Command.Load
import Drafting.Json.Printer

/-!
# Reporting a run

What a run prints: the log lines from the level asked for on, a summary of the solution, and where
the solution was written. A run ends with status 0 if the solve has converged, 1 if it has not, and
2 if the command line or the sketch is refused. It breaks off at a log line with a value that is
nested too deeply to be shown, and at a line of the summary that cannot be made or that the standard
output does not take.
-/

namespace Drafting.Command

/-- A character of the name of a level in upper case; some stand for more than one letter. -/
def capitals : Char → String
  | 'ı' => "I"
  | 'ſ' => "S"
  | 'ß' | 'ẞ' => "SS"
  | 'ﬀ' => "FF"
  | 'ﬁ' => "FI"
  | 'ﬂ' => "FL"
  | 'ﬃ' => "FFI"
  | 'ﬄ' => "FFL"
  | 'ﬅ' | 'ﬆ' => "ST"
  | c => String.singleton c.toUpper

/-- The lowest rank of the records that a level lets through, unless the level is none. An unknown
level is taken as the usual one. -/
def rankOfName (level : String) : Except Failure Nat :=
  match String.join (level.toList.map capitals) with
  | "CRITICAL" | "FATAL" => .ok 50
  | "ERROR" => .ok 40
  | "WARN" | "WARNING" => .ok 30
  | "DEBUG" => .ok 10
  | "NOTSET" => .ok 0
  | "BASIC_FORMAT" => .error (.level "%(levelname)s:%(name)s:%(message)s")
  | "_STYLES" => .error .levelOfStyles
  | _ => .ok 20

/-- The lowest rank of the records that a level lets through, which has to be given by a name. -/
def rankOf : Setting String → Except Failure Nat
  | .nothing => .error (.fault (.missingOperation "list" "upper"))
  | .value level => rankOfName level

/-- A record as a line. -/
def recordLine (r : Log.Record) : String :=
  r.severity.name ++ ":" ++ r.channel.name ++ ":" ++ r.text

/-- The standard output. It need not take every line. -/
class Output where
  refusal? : String → Option FileFailure

/-- A standard output that is written as UTF-8 takes every line without lone halves of pairs. -/
instance (priority := low) : Output where
  refusal? := FileFailure.ofText? fun _ => false

/-- Lines that are printed one after the other, until one of them cannot be made or printed. -/
def printed [Output] : List (Except (Fault Float) String) → List String × Option Failure
  | [] => ([], none)
  | .ok line :: rest =>
    match Output.refusal? line with
    | some failure => ([], some (.file failure))
    | none => let (lines, failure?) := printed rest; (line :: lines, failure?)
  | .error fault :: _ => ([], some (.fault fault))

/-- The names among labels, all of which have to be texts. -/
def namesOf (index : Nat) : List (Value Float) → Except (Fault Float) (List String)
  | [] => .ok []
  | .text s :: rest => do return s :: (← namesOf (index + 1) rest)
  | v :: _ => .error (.notName index v.kindName)

/-- The line for what was left out, if anything was. -/
def omittedLine (title : String) (labels : List (Value Float)) :
    List (Except (Fault Float) String) :=
  if labels.isEmpty then []
  else [(namesOf 0 labels).map fun names => title ++ ": " ++ ", ".intercalate names]

/-- A number with six decimals. -/
def decimals (x : Float) : String := (Decimal.Style.fixed 6).text x

/-- The line for an entity. -/
def entityLine (e : Entity (Value Float) Float) : String :=
  "  " ++ e.id.plain ++ " (" ++ e.kind.name ++ ")" ++
    match e.position with
    | some p => ": (" ++ decimals p.x ++ ", " ++ decimals p.y ++ ", " ++ decimals p.z ++ ")"
    | none => ""

/-- The first lines of a summary. -/
def headLines (success : Bool) (iterations : Nat) (residual : Float) : List String :=
  ["Success: " ++ Value.flagText success, "Iterations: " ++ toString iterations,
    "Residual: " ++
      if residual.isFinite then (Decimal.Style.scientific 3).text residual else "inf"]

/-- The summary of a solution in space. -/
def gradientLines (s : Gradient.Solution (Value Float) Float) :
    List (Except (Fault Float) String) :=
  let conflicts := s.conflicts.getD []
  (headLines s.success s.iterations s.residual.toReal ++
    (if conflicts.isEmpty then []
    else "Conflicts:" :: conflicts.map fun id => "  - " ++ id.plain)).map .ok ++
  omittedLine "Skipped" s.diagnostics.skipped ++
  omittedLine "Unsupported" s.diagnostics.unsupported ++
  ("Entities:" :: s.entities.values.map entityLine).map .ok

/-- The summary of a planar solution. -/
def planarLines (s : Plane.Solution String Float) : List (Except (Fault Float) String) :=
  (headLines s.success s.iterations s.residual).map .ok ++
  omittedLine "Skipped" s.diagnostics.skipped ++
  omittedLine "Unsupported" s.diagnostics.unsupported ++
  ("Variables:" :: s.values.entries.map fun (id, x) => "  " ++ id ++ ": " ++ decimals x).map .ok

/-- What is known once a sketch is solved. -/
structure Summary where
  success : Bool
  lines : List (Except (Fault Float) String)
  record : Value Float

/-- The records of a solve that took `elapsed` seconds, and of putting its solution into a
record. -/
def Solved.records [Headroom] (elapsed : Float) : Solved → List Log.Record
  | gradient s run => Sketch.Front.solveRecords s run elapsed
  | planar d result => d.solveRecords result ++
    result.toOption.elim [] fun s => (Plane.Session.solutionRecord d s).records

/-- The summary of a solve that took `elapsed` seconds. -/
def Solved.summary (elapsed : Float) : Solved → Except (Fault Float) Summary
  | gradient s run => (s.conclude run).map fun solution =>
    ⟨solution.success, gradientLines solution, solution.toRecord elapsed⟩
  | planar _ result => result.map fun s => ⟨s.success, planarLines s, s.toRecord⟩

/-- What a run has printed, and how it ends. -/
structure Outcome where
  errors : List String
  output : List String
  ending : Ending

/-- A solution that is still to be written. -/
structure Pending where
  path : String
  record : Value Float

/-- What a run has printed until its solution is to be written. -/
structure Report where
  rank : Nat
  outcome : Outcome
  pending : Option Pending

/-- A path without empty and idle parts. -/
def plainPath (s : String) : String :=
  let parts := (s.splitOn "/").filter fun part => !part.isEmpty && part != "."
  let joined := "/".intercalate parts
  let root := match s.toList with
    | '/' :: '/' :: '/' :: _ => "/"
    | '/' :: '/' :: _ => "//"
    | '/' :: _ => "/"
    | _ => ""
  if root.isEmpty && joined.isEmpty then "." else root ++ joined

/-- The path that a solution is to be written to. -/
def Arguments.outputPath? (a : Arguments) : Option String :=
  ((a.output.bind Setting.value?).filter fun path => !path.isEmpty).map plainPath

/-- Whether a rank lets a record through that is too deep to be shown. -/
def breaksAt (rank : Nat) (r : Log.Record) : Bool := rank ≤ r.severity.rank && r.isTooDeep

/-- The lines of the records that a rank lets through, but for those of calls. -/
def shownLines (rank : Nat) (records : List Log.Record) : List String :=
  ((Log.atLeast rank records).filter fun r => !r.isTrace).map recordLine

/-- The report of a run that has ended before a solution was there. -/
def Report.ended (rank : Nat) (records : List Log.Record) (ending : Ending) : Report :=
  ⟨rank, ⟨shownLines rank records, [], ending⟩, none⟩

/-- The report of a run that breaks off at the first record that is too deep to be shown. -/
def Report.cut (rank : Nat) (records : List Log.Record) : Report :=
  .ended rank (records.takeWhile fun r => !breaksAt rank r) (.failed (.fault .tooDeep))

section

variable [Output]

/-- The report of a run that has a solution. -/
def Report.solved (a : Arguments) (rank : Nat) (records : List Log.Record) (s : Summary) : Report :=
  let errors := shownLines rank records
  match printed s.lines with
  | (lines, some failure) => ⟨rank, ⟨errors, lines, .failed failure⟩, none⟩
  | (lines, none) =>
    ⟨rank, ⟨errors, lines, .status (if s.success then 0 else 1)⟩,
      a.outputPath?.map fun path => ⟨path, s.record⟩⟩

/-- The report of a run with its records, in which reading and solving took `elapsed` seconds. -/
def Report.told (a : Arguments) (rank : Nat) (records : List Log.Record)
    (value : Except Ending Solved) (elapsed : Float) : Report :=
  match value with
  | .error ending => .ended rank records ending
  | .ok solved =>
    match solved.summary elapsed with
    | .error fault => .ended rank records (.failed (.fault fault))
    | .ok summary => .solved a rank records summary

/-- The records of a run in which reading and solving took `elapsed` seconds. -/
def recordsOf [Headroom] (stage : Stage Solved) (elapsed : Float) : List Log.Record :=
  stage.records ++ stage.value.toOption.elim [] (Solved.records elapsed)

/-- The report of a run in which reading and solving took `elapsed` seconds. -/
def report [Headroom] (a : Arguments) (stage : Stage Solved) (elapsed : Float) : Report :=
  match rankOf a.logLevel with
  | .error failure => .ended 0 [] (.failed failure)
  | .ok rank =>
    let records := recordsOf stage elapsed
    if records.any (breaksAt rank) then .cut rank records
    else .told a rank records stage.value elapsed

end

/-- What stands in the way of writing a solution: making its directory, or writing the file. -/
structure Obstacle where
  directory : Option FileFailure := none
  file : Option FileFailure := none

/-- The line for a solution that has been written. -/
def Pending.line (p : Pending) : String := "Solution written to " ++ p.path

/-- The outcome of a run once its solution is written, or could not be. -/
def Report.finish [Output] (r : Report) (obstacle : Obstacle) : Outcome :=
  match r.pending with
  | none => r.outcome
  | some pending =>
    match obstacle.directory with
    | some failure => { r.outcome with ending := .failed (.file failure) }
    | none =>
      let errors := r.outcome.errors ++
        shownLines r.rank [commandRecord .info ("Writing solution to " ++ pending.path)]
      match obstacle.file with
      | some failure => { r.outcome with errors, ending := .failed (.file failure) }
      | none =>
        match Output.refusal? pending.line with
        | some failure => { r.outcome with errors, ending := .failed (.file failure) }
        | none => { r.outcome with errors, output := r.outcome.output ++ [pending.line] }

/-- The text that is written for a solution. -/
def Pending.text (p : Pending) : String := Json.printIndented p.record

/-- The line for a refused command line. -/
def Refusal.line (reason : Refusal) : String := "sketch-solver: error: " ++ reason.message

end Drafting.Command

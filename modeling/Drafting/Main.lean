import Drafting.Command.Report

/-!
# The command

Solves a sketch that is stored as JSON: reads the file, prints the log and the summary, and writes
the solution where that is asked for.
-/

namespace Drafting.Command

/-- The usage of the command. -/
def usage : String :=
  "usage: sketch-solver [-h] [--engine ENGINE] [--max-iterations N] [--tolerance X] " ++
    "[--damping X] [--verbose] [--log-level LEVEL] [--output PATH] path"

/-- What the system has reported about a path. -/
def fileFailure (path : String) : IO.Error → FileFailure
  | .noFileOrDirectory .. => .missing path
  | .permissionDenied .. => .denied path
  | .alreadyExists .. => .present path
  | .inappropriateType .. => .behindFile path
  | .illegalOperation .. => .isDirectory path
  | _ => .reported 5 "Input/output error" path

/-- The bytes of a file. -/
def readBytes (path : String) : IO (Except FileFailure (List UInt8)) := do
  if let some failure := FileFailure.ofPath? path then return .error failure
  try
    let bytes ← IO.FS.readBinFile path
    return .ok bytes.toList
  catch e => return .error (fileFailure path e)

/-- The directory that a path lies in. -/
def directoryOf (path : String) : String :=
  match (path.splitOn "/").dropLast with
  | [] => "."
  | [""] => "/"
  | parts => "/".intercalate parts

/-- Writes a solution, and tells what stood in the way. -/
def writePending (p : Pending) : IO Obstacle := do
  let directory := directoryOf p.path
  if let some failure := FileFailure.ofPath? directory then return { directory := some failure }
  try IO.FS.createDirAll directory
  catch e => return { directory := some (fileFailure directory e) }
  if let some failure := FileFailure.ofPath? p.path then return { file := some failure }
  try IO.FS.writeFile p.path p.text
  catch e => return { file := some (fileFailure p.path e) }
  return {}

/-- Prints an outcome and gives its exit status. -/
def Outcome.print (o : Outcome) : IO UInt32 := do
  for line in o.errors do IO.eprintln line
  for line in o.output do IO.println line
  match o.ending with
  | .status code => return code.toUInt32
  | .failed failure =>
    IO.eprintln failure.message
    return 1

/-- Runs the command with arguments. -/
def run (a : Arguments) : IO UInt32 := do
  let file ← readBytes a.path
  let start ← IO.monoNanosNow
  let stage ← IO.lazyPure fun _ => load a file
  let stop ← IO.monoNanosNow
  let report := report a stage ((stop - start).toFloat / 1e9)
  let obstacle ← match report.pending with
    | some pending => writePending pending
    | none => pure {}
  (report.finish obstacle).print

end Drafting.Command

/-- Reads the command line and runs what it asks for. -/
def main (line : List String) : IO UInt32 :=
  match Drafting.Command.Request.ofWords line with
  | .help => do
    IO.println Drafting.Command.usage
    return 0
  | .refused reason => do
    IO.eprintln Drafting.Command.usage
    IO.eprintln reason.line
    return 2
  | .run arguments => Drafting.Command.run arguments

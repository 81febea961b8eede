import Drafting.Decimal.Numeral
import Drafting.Text.Quoted

/-!
# Command-line arguments

The words of a command line are sorted first: a word is an option if it starts with a dash and names
one, in full or by the beginning of a single name; a number with a minus is no option, and after a
bare double dash nothing is. Then options take their arguments, one word becomes the path of the
sketch, and whatever is left over is refused.
-/

namespace Drafting.Command

/-- The solvers that can be asked for. -/
inductive Engine where
  | gradient
  | planar
  deriving DecidableEq, Repr

/-- The name of a solver. -/
def Engine.name : Engine → String
  | gradient => "gradient"
  | planar => "2d"

/-- All solvers. -/
def Engine.all : List Engine := [gradient, planar]

/-- The options of the command. -/
inductive Flag where
  | help
  | engine
  | maxIterations
  | tolerance
  | damping
  | verbose
  | logLevel
  | output
  deriving DecidableEq, Repr

namespace Flag

/-- All options. -/
def all : List Flag :=
  [help, engine, maxIterations, tolerance, damping, verbose, logLevel, output]

/-- The names of an option. -/
def names : Flag → List String
  | help => ["-h", "--help"]
  | engine => ["--engine"]
  | maxIterations => ["--max-iterations"]
  | tolerance => ["--tolerance"]
  | damping => ["--damping"]
  | verbose => ["--verbose"]
  | logLevel => ["--log-level"]
  | output => ["--output"]

/-- All names with their options. -/
def named : List (String × Flag) := all.flatMap fun flag => flag.names.map fun name => (name, flag)

/-- Whether an option takes an argument. -/
def takesArgument : Flag → Bool
  | help | verbose => false
  | _ => true

end Flag

/-- What an option is set to: a value, or nothing where a bare double dash stands for it. -/
inductive Setting (β : Type) where
  | nothing
  | value (x : β)
  deriving Repr

/-- The value of a setting, if it has one. -/
def Setting.value? {β : Type} : Setting β → Option β
  | nothing => none
  | value x => some x

/-- What the command line asks for. -/
structure Arguments where
  path : String := ""
  engine : Option (Setting Engine) := none
  maxIterations : Option (Setting Int) := none
  tolerance : Option (Setting Float) := none
  damping : Option (Setting Float) := none
  verbose : Bool := false
  logLevel : Setting String := .value "INFO"
  output : Option (Setting String) := none

/-- Why a command line is refused. -/
inductive Refusal where
  | ambiguous (word : String) (names : List String)
  | expectedArgument (flag : Flag)
  | ignoredArgument (flag : Flag) (argument : String)
  | badInteger (flag : Flag) (word : String)
  | badNumber (flag : Flag) (word : String)
  | badChoice (flag : Flag) (word : String) (choices : List String)
  | missingPath
  | unrecognized (words : List String)
  deriving Repr

/-- A refusal about one option. -/
def Flag.complaint (flag : Flag) (text : String) : String :=
  "argument " ++ "/".intercalate flag.names ++ ": " ++ text

/-- The wording of a refusal. -/
def Refusal.message : Refusal → String
  | ambiguous word names =>
    "ambiguous option: " ++ word ++ " could match " ++ ", ".intercalate names
  | expectedArgument flag => flag.complaint "expected one argument"
  | ignoredArgument flag argument =>
    flag.complaint ("ignored explicit argument " ++ Text.quoted argument)
  | badInteger flag word => flag.complaint ("invalid int value: " ++ Text.quoted word)
  | badNumber flag word => flag.complaint ("invalid float value: " ++ Text.quoted word)
  | badChoice flag word choices =>
    flag.complaint ("invalid choice: " ++ Text.quoted word ++ " (choose from " ++
      ", ".intercalate (choices.map Text.quoted) ++ ")")
  | missingPath => "the following arguments are required: path"
  | unrecognized words => "unrecognized arguments: " ++ " ".intercalate words

/-- A word of the command line. -/
inductive Word where
  | separator
  | plain (text : String)
  | unknown (text : String)
  | option (flag : Flag) (explicit : Option String)
  /-- A short option with more letters behind it. -/
  | cluster (flag : Flag) (letters : List Char)
  deriving Repr

/-- A text divided at its first equals sign. -/
def divide (s : String) : String × Option String :=
  let cs := s.toList
  match cs.dropWhile (· != '=') with
  | [] => (s, none)
  | _ :: rest => (String.ofList (cs.takeWhile (· != '=')), some (String.ofList rest))

/-- What a word may mean that names no option in full, by the names of the options. -/
def candidates (word : String) : List (String × Word) :=
  match word.toList with
  | '-' :: '-' :: _ =>
    let (front, explicit) := divide word
    (Flag.named.filter fun (name, _) => name.startsWith front).map fun (name, flag) =>
      (name, .option flag explicit)
  | '-' :: c :: letters =>
    (Flag.named.filter fun (name, _) => name == String.ofList ['-', c]).map fun (name, flag) =>
      (name, .cluster flag letters)
  | _ => []

/-- Characters without a line end after them. -/
def withoutLineEnd (cs : List Char) : List Char :=
  if cs.getLast? = some '\n' then cs.dropLast else cs

/-- Whether a word is a number with a minus: digits, perhaps with a point and more digits. A line
end after them does not matter. -/
def isNegativeNumber (word : String) : Bool :=
  let isDigit (c : Char) : Bool := (Text.digitValue? c).isSome
  match withoutLineEnd word.toList with
  | '-' :: cs =>
    match cs.dropWhile isDigit with
    | [] => !cs.isEmpty
    | '.' :: rest => !rest.isEmpty && rest.all isDigit
    | _ => false
  | _ => false

/-- Sorts a word by the names that it is the beginning of. -/
def sortBeginning (word : String) : Except Refusal Word :=
  match candidates word with
  | [(_, meant)] => .ok meant
  | [] =>
    if isNegativeNumber word || word.toList.contains ' ' then .ok (.plain word)
    else .ok (.unknown word)
  | several => .error (.ambiguous word (several.map Prod.fst))

/-- Sorts a word that starts with a dash and has more to it. -/
def sortOption (word : String) : Except Refusal Word :=
  match Flag.named.lookup word with
  | some flag => .ok (.option flag none)
  | none =>
    match divide word with
    | (front, some explicit) =>
      match Flag.named.lookup front with
      | some flag =>
        if front.startsWith "--" || explicit.isEmpty then .ok (.option flag (some explicit))
        else .ok (.cluster flag explicit.toList)
      | none => sortBeginning word
    | (_, none) => sortBeginning word

/-- Sorts a word before any double dash. -/
def sortWord (word : String) : Except Refusal Word :=
  match word.toList with
  | '-' :: _ :: _ => sortOption word
  | _ => .ok (.plain word)

/-- Sorts the words of a command line. -/
def sortWords : List String → Except Refusal (List Word)
  | [] => .ok []
  | "--" :: rest => .ok (.separator :: rest.map .plain)
  | word :: rest => do
    let first ← sortWord word
    let others ← sortWords rest
    return first :: others

/-- The integer that an argument writes. -/
def integerOf (flag : Flag) (word : String) : Except Refusal Int :=
  match Numeral.integer? word with
  | some n => .ok n
  | none => .error (.badInteger flag word)

/-- The number that an argument writes. -/
def numberOf (flag : Flag) (word : String) : Except Refusal Float :=
  match Numeral.ofText? word with
  | some numeral => .ok numeral.toFloat
  | none => .error (.badNumber flag word)

/-- The solver that an argument names. -/
def engineOf (word : String) : Except Refusal Engine :=
  match Engine.all.find? fun engine => engine.name == word with
  | some engine => .ok engine
  | none => .error (.badChoice .engine word (Engine.all.map Engine.name))

/-- The setting that a word amounts to, which is read unless it is a bare double dash. -/
def settingOf {β : Type} (read : String → Except Refusal β) (word : String) :
    Except Refusal (Setting β) :=
  if word = "--" then .ok .nothing else (read word).map .value

/-- Takes over the argument of an option. -/
def Arguments.set (a : Arguments) (flag : Flag) (word : String) : Except Refusal Arguments :=
  match flag with
  | .engine => do return { a with engine := some (← settingOf engineOf word) }
  | .maxIterations => do return { a with maxIterations := some (← settingOf (integerOf flag) word) }
  | .tolerance => do return { a with tolerance := some (← settingOf (numberOf flag) word) }
  | .damping => do return { a with damping := some (← settingOf (numberOf flag) word) }
  | .logLevel => do return { a with logLevel := ← settingOf .ok word }
  | .output => do return { a with output := some (← settingOf .ok word) }
  | .help | .verbose => .ok a

/-- What a command line comes to. -/
inductive Request where
  | help
  | refused (reason : Refusal)
  | run (arguments : Arguments)

/-- How far a command line has been read. -/
structure Reading where
  arguments : Arguments := {}
  hasPath : Bool := false
  /-- Whether the last word has become the path. -/
  afterPath : Bool := false
  leftOver : List String := []

namespace Reading

/-- Leaves a word over. -/
def leave (r : Reading) (word : String) : Reading :=
  { r with leftOver := r.leftOver ++ [word], afterPath := false }

/-- Takes a word as the path, if there is none yet. -/
def place (r : Reading) (word : String) : Reading :=
  if r.hasPath then r.leave word
  else { r with arguments := { r.arguments with path := word }, hasPath := true, afterPath := true }

/-- Passes a bare double dash, which counts only when the path is settled before it. -/
def pass (r : Reading) : Reading :=
  if r.hasPath && !r.afterPath then r.leave "--" else { r with afterPath := false }

/-- Takes over the argument of an option. -/
def take (r : Reading) (flag : Flag) (word : String) : Except Refusal Reading := do
  return { r with arguments := ← r.arguments.set flag word, afterPath := false }

/-- Notes an option without an argument. -/
def note (r : Reading) (flag : Flag) : Reading :=
  { r with
    arguments := if flag = .verbose then { r.arguments with verbose := true } else r.arguments
    afterPath := false }

/-- What the command line comes to when all words are read. -/
def finish (r : Reading) : Request :=
  if !r.hasPath then .refused .missingPath
  else if r.leftOver.isEmpty then .run r.arguments
  else .refused (.unrecognized r.leftOver)

/-- What letters behind the short option for help come to: each has to be that option again, and an
argument is refused. -/
def letters (flag : Flag) : List Char → Request
  | [] => .help
  | 'h' :: rest => letters flag rest
  | argument => .refused (.ignoredArgument flag (String.ofList argument))

/-- Reads sorted words. -/
def words (r : Reading) : List Word → Request
  | [] => r.finish
  | .plain word :: rest => (r.place word).words rest
  | .separator :: rest => r.pass.words rest
  | .unknown word :: rest => (r.leave word).words rest
  | .cluster flag cs :: _ => letters flag cs
  | .option flag explicit :: rest =>
    if flag.takesArgument then
      match explicit, rest with
      | some word, rest =>
        match r.take flag word with
        | .ok r => r.words rest
        | .error reason => .refused reason
      | none, .plain word :: rest =>
        match r.take flag word with
        | .ok r => r.words rest
        | .error reason => .refused reason
      | none, _ => .refused (.expectedArgument flag)
    else
      match explicit with
      | some word => .refused (.ignoredArgument flag word)
      | none => if flag = .help then .help else (r.note flag).words rest

end Reading

/-- What a command line asks for. -/
def Request.ofWords (line : List String) : Request :=
  match sortWords line with
  | .error reason => .refused reason
  | .ok sorted => ({} : Reading).words sorted

end Drafting.Command

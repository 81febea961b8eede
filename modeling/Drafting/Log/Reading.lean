import Drafting.Log.Call
import Drafting.Options.Reading

/-!
# The log of reading

The traced calls that read the parts of a file. They show what they read, however deeply it is
nested, so that they are watched.
-/

namespace Drafting.Log.Reading

variable {β : Type} [Headroom]

/-- A call that reads something. -/
def call (name : String) (arguments : List (Value Float)) (shown : β → Value Float)
    (body : Logged (Except (Fault Float) β)) : Logged (Except (Fault Float) β) :=
  (Call.mk .serialization name arguments []).watched shown body

/-- Something of a kind as a value that is no data. -/
def instanceOf (kind : String) : Value Float := .object kind (kind ++ "(...)") .full

/-- Options of a kind, if there are any, as a value that is no data. -/
def givenOptions (kind : String) (given? : Option β) : Value Float :=
  given?.elim .null fun _ => instanceOf kind

/-- Reads options of a kind. -/
def options (kind : String) (v : Value Float) (result : Except (Fault Float) β) :
    Logged (Except (Fault Float) β) :=
  call "options_from_dict" [v, .object "type" ("<class '" ++ kind ++ "'>") .full]
    (fun _ => instanceOf kind) (.quiet result)

/-- The options that are given, or those that are read. -/
def optionsFor (kind : String) (given? : Option β) (v : Value Float)
    (result : Except (Fault Float) β) : Logged (Except (Fault Float) β) :=
  match given? with
  | some o => .quiet (.ok o)
  | none => options kind v result

/-- Reads the records in a section of a record. -/
def sectionRecords (v : Value Float) (fields : List (String × Value Float)) (name : String) :
    Logged (Except (Fault Float) (List (Value Float))) :=
  call "_records" [v, .text name] .list (.quiet (Drafting.sectionRecords fields name))

end Drafting.Log.Reading

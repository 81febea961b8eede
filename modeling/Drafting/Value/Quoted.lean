import Drafting.Value.ArrayText

/-!
# Texts of values

`Value.shown` writes a value so that texts are quoted and nesting is visible; it is the form that
messages give. `Value.plain` is the same except for a text, which stands for itself, and an array.
-/

namespace Drafting.Value

variable {α : Type} [Scalar α]

mutual

/-- A value with quotes around its texts. -/
def shown : Value α → String
  | null => "None"
  | flag b => flagText b
  | int n => toString n
  | real x => Scalar.text x
  | complex re im => complexText 128 re im
  | long negative m q => singleText (.binary 128) (long negative m q : Value α)
  | text s => Text.quoted s
  | bytes data => bytesText data
  | list items => "[" ++ ", ".intercalate (shownItems items) ++ "]"
  | tuple [item] => "(" ++ shown item ++ ",)"
  | tuple items => "(" ++ ", ".intercalate (shownItems items) ++ ")"
  | record fields => "\x7b" ++ ", ".intercalate (shownFields fields) ++ "\x7d"
  | mapping entries => "\x7b" ++ ", ".intercalate (shownEntries entries) ++ "\x7d"
  | vector x y z => "Vec3(x=" ++ shown x ++ ", y=" ++ shown y ++ ", z=" ++ shown z ++ ")"
  | array .anything shape data => arrayShown .anything shape data (shownCells data)
  | array kind shape data => arrayShown kind shape data []
  | element kind v => elementShown kind v
  | object _ s _ => s

/-- The items of a sequence, each with quotes around its texts. -/
def shownItems : List (Value α) → List String
  | [] => []
  | item :: rest => shown item :: shownItems rest

/-- The fields of a record, each as a quoted name, a colon and the value. -/
def shownFields : List (String × Value α) → List String
  | [] => []
  | (name, item) :: rest => (Text.quoted name ++ ": " ++ shown item) :: shownFields rest

/-- The entries of a record, each as its name, a colon and the value. -/
def shownEntries : List (Value α × Value α) → List String
  | [] => []
  | (name, item) :: rest => (shown name ++ ": " ++ shown item) :: shownEntries rest

/-- Values of any sort as cells of an array, where a list is marked as such. -/
def shownCells : List (Value α) → List String
  | [] => []
  | list items :: rest =>
    ("list([" ++ ", ".intercalate (shownItems items) ++ "])") :: shownCells rest
  | item :: rest => shown item :: shownCells rest

end

/-- A value as text; a text stands for itself, and an array for its rows. -/
def plain : Value α → String
  | text s => s
  | array .anything [] [v] =>
    match v with
    | text s => s
    | v => v.shown
  | array kind shape data => arrayText kind shape data (shownCells data)
  | element kind v => elementText kind v
  | v => v.shown

end Drafting.Value

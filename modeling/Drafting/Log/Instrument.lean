import Drafting.Log.Operation

/-!
# Instrumented namespaces

A namespace holds operations, classes of operations and data by name. Several names may stand for
one class. Instrumenting a namespace makes those operations traced that belong to its own module and
are not to be skipped; in a class of the module these are the methods other than those named between
double underscores. An operation that is traced already stays as it is, so instrumenting twice is
the same as instrumenting once.
-/

namespace Drafting.Log

variable {σ : Type}

/-- A member of a class. -/
inductive Member (σ : Type) where
  | method (op : Operation σ)
  | static (op : Operation σ)
  | ofClass (op : Operation σ)
  | datum (value : Value Float)

/-- The operation of a member that is one. -/
def Member.operation? : Member σ → Option (Operation σ)
  | method op => some op
  | static op => some op
  | ofClass op => some op
  | datum _ => none

/-- The member with its operation changed. -/
def Member.mapOperation (f : Operation σ → Operation σ) : Member σ → Member σ
  | method op => method (f op)
  | static op => static (f op)
  | ofClass op => ofClass (f op)
  | datum v => datum v

/-- A class of a module. -/
structure OperationClass (σ : Type) where
  name : String
  home : Option String
  members : List (String × Member σ)

/-- What a name in a namespace stands for; a class is given by its place among the classes. -/
inductive Item (σ : Type) where
  | operation (op : Operation σ)
  | group (place : Nat)
  | datum (value : Value Float)

/-- The operation of an item that is one. -/
def Item.operation? : Item σ → Option (Operation σ)
  | operation op => some op
  | _ => none

/-- The item with its operation changed. -/
def Item.mapOperation (f : Operation σ → Operation σ) : Item σ → Item σ
  | operation op => operation (f op)
  | group place => group place
  | datum value => datum value

/-- The place of the class of an item that is one. -/
def Item.place? : Item σ → Option Nat
  | group place => some place
  | _ => none

/-- A module's names, and the classes that they stand for. -/
structure Namespace (σ : Type) where
  home : Option String
  items : List (String × Item σ)
  classes : List (OperationClass σ)

/-- What to leave out when a namespace is instrumented. -/
structure Selection where
  skip : List String
  methods : Bool

/-- Whether a name stands between double underscores. -/
def isReserved (name : String) : Bool := name.startsWith "__" && name.endsWith "__"

/-- The name of a member together with its class. -/
def OperationClass.qualified (g : OperationClass σ) (member : String) : String :=
  g.name ++ "." ++ member

/-- Whether an operation is to be traced under its name in the class. -/
def OperationClass.selects (g : OperationClass σ) (selection : Selection) (name : String)
    (op : Operation σ) : Bool :=
  !isReserved name && !selection.skip.contains name &&
    !selection.skip.contains (g.qualified name) && op.home == g.home

/-- An operation of a class, traced if it is selected. -/
def OperationClass.instrumentOperation (g : OperationClass σ) (channel : Channel)
    (selection : Selection) (name : String) (op : Operation σ) : Operation σ :=
  if g.selects selection name op then op.trace channel (g.qualified name) true else op

/-- The class with its selected operations traced. -/
def OperationClass.instrument (g : OperationClass σ) (channel : Channel) (selection : Selection) :
    OperationClass σ :=
  { g with
    members := g.members.map fun member =>
      (member.1, member.2.mapOperation (g.instrumentOperation channel selection member.1)) }

/-- The member of a class that is an operation of the given name. -/
def OperationClass.operation? (g : OperationClass σ) (member : String) : Option (Operation σ) :=
  (g.members.lookup member).bind Member.operation?

namespace Namespace

/-- Whether an operation is to be traced under its name in the namespace. -/
def selects (n : Namespace σ) (selection : Selection) (name : String) (op : Operation σ) : Bool :=
  !selection.skip.contains name && op.home == n.home

/-- An operation of a namespace, traced if it is selected. -/
def instrumentOperation (n : Namespace σ) (channel : Channel) (selection : Selection)
    (name : String) (op : Operation σ) : Operation σ :=
  if n.selects selection name op then op.trace channel name true else op

/-- A class, with its selected operations traced if it belongs to the module. -/
def instrumentClass (n : Namespace σ) (channel : Channel) (selection : Selection)
    (g : OperationClass σ) : OperationClass σ :=
  if g.home == n.home then g.instrument channel selection else g

/-- The place of the class that a name stands for, if its methods are to be traced. -/
def placeToInstrument? (selection : Selection) (item : String × Item σ) : Option Nat :=
  if selection.methods && !selection.skip.contains item.1 then item.2.place? else none

/-- The namespace with its operations traced. -/
def instrument (n : Namespace σ) (channel : Channel) (selection : Selection) : Namespace σ :=
  { n with
    items := n.items.map fun item =>
      (item.1, item.2.mapOperation (n.instrumentOperation channel selection item.1))
    classes := (n.items.filterMap (placeToInstrument? selection)).foldl
      (fun classes place => classes.modify place (n.instrumentClass channel selection))
      n.classes }

/-- The names of the traced operations of an item. -/
def tracedNamesOf (n : Namespace σ) (name : String) : Item σ → List String
  | .operation op => if op.isTraced then [name] else []
  | .group place =>
    (n.classes[place]?.toList).flatMap fun g => g.members.filterMap fun (member, m) =>
      (m.operation?.filter Operation.isTraced).map fun _ => g.qualified member
  | .datum _ => []

/-- The names of all traced operations. -/
def tracedNames (n : Namespace σ) : List String :=
  n.items.flatMap fun (name, item) => n.tracedNamesOf name item

/-- The class that a name stands for. -/
def group? (n : Namespace σ) (name : String) : Option (OperationClass σ) :=
  ((n.items.lookup name).bind Item.place?).bind fun place => n.classes[place]?

/-- The operation that a name stands for, or a member of a class with that name. -/
def operation? (n : Namespace σ) (path : Path) : Option (Operation σ) :=
  match path with
  | [name] => (n.items.lookup name).bind Item.operation?
  | [name, member] => (n.group? name).bind fun g => g.operation? member
  | _ => none

/-- Calls the operation at a path. There is no run where there is no such operation, and none where
more than so many calls are open at once. -/
def call (n : Namespace σ) (verbosity : Verbosity) :
    Nat → Path → Arguments → σ → Option (Run σ)
  | 0, _, _, _ => none
  | depth + 1, path, arguments, s =>
    (n.operation? path).bind fun op => op.run verbosity (n.call verbosity depth) arguments s

end Namespace

end Drafting.Log

import Drafting.Command.Report

/-!
# Files in memory

A tree of files on which the command can be run without a disk. Paths are followed name by name from
the working directory; every name on the way has to be that of a directory. Directories are where
files lie in them, or where they have been made; those above the working directory are empty but for
it.
-/

namespace Drafting.Command

/-- A place in a tree: the names on the way to it from the working directory. -/
abbrev Place := List String

/-- Files by their places, and directories without files. -/
structure FileTree where
  files : List (Place × List UInt8)
  directories : List Place

namespace FileTree

/-- The names in a path; a path from the root starts with the name of the root. -/
def namesIn (path : String) : List String :=
  let names := (path.splitOn "/").filter fun name => !name.isEmpty && name != "."
  if path.startsWith "/" then "/" :: names else names

/-- The place of a name in the directory at a place. -/
def step (place : Place) (name : String) : Place :=
  if name = ".." then
    match place.getLast? with
    | none | some ".." => place ++ [name]
    | some "/" => place
    | some _ => place.dropLast
  else place ++ [name]

/-- The tree of files that are given by their paths. -/
def ofPaths (files : List (String × List UInt8)) : FileTree where
  files := files.map fun file => ((namesIn file.1).foldl step [], file.2)
  directories := [["/"]]

/-- The bytes of the file at a place. -/
def bytes? (t : FileTree) (place : Place) : Option (List UInt8) := t.files.lookup place

/-- Whether there is a directory at a place. -/
def hasDirectory (t : FileTree) (place : Place) : Bool :=
  place.all (· == "..") || t.directories.contains place ||
    t.files.any fun file => place.isPrefixOf file.1 && place.length < file.1.length

/-- The greatest number of bytes of a name. -/
def nameLimit : Nat := 255

/-- The greatest number of bytes of a path. -/
def pathLimit : Nat := 4095

/-- Follows names from a place; all but the last have to be names of directories. -/
def follow (t : FileTree) (path : String) (place : Place) : List String → Except FileFailure Place
  | [] => .ok place
  | name :: rest =>
    if t.hasDirectory place then
      if nameLimit < name.utf8ByteSize then .error (.tooLong path)
      else t.follow path (step place name) rest
    else if (t.bytes? place).isSome then .error (.behindFile path)
    else .error (.missing path)

/-- The place that a path leads to. -/
def place (t : FileTree) (path : String) : Except FileFailure Place :=
  match FileFailure.ofPath? path with
  | some failure => .error failure
  | none =>
    if path.isEmpty then .error (.missing path)
    else if pathLimit < path.utf8ByteSize then .error (.tooLong path)
    else t.follow path [] (namesIn path)

/-- Whether a path can only be that of a directory. -/
def isOpenEnded (path : String) : Bool := path.endsWith "/" || path.endsWith "/."

/-- The bytes of the file that a path leads to. -/
def read (t : FileTree) (path : String) : Except FileFailure (List UInt8) := do
  let place ← t.place path
  match t.bytes? place with
  | some bytes => if isOpenEnded path then throw (.behindFile path) else return bytes
  | none => throw (if t.hasDirectory place then .isDirectory path else .missing path)

/-- The tree with a directory at the end of a path. -/
def makeDirectory (t : FileTree) (path : String) : Except FileFailure FileTree := do
  let place ← t.place path
  if t.hasDirectory place then return t
  else if (t.bytes? place).isSome then throw (.present path)
  else return { t with directories := place :: t.directories }

/-- The path that names make. -/
def pathOf : List String → String
  | [] => "."
  | "/" :: names => "/" ++ "/".intercalate names
  | names => "/".intercalate names

/-- The tree with a directory under the first `count` of some names, and with those above it. -/
def makeDirectories (t : FileTree) (names : List String) : Nat → Except FileFailure FileTree
  | 0 => .ok t
  | count + 1 =>
    let path := pathOf (names.take (count + 1))
    match t.makeDirectory path with
    | .error (.reported 2 ..) => do
      let above ← t.makeDirectories names count
      above.makeDirectory path
    | result => result

/-- Writes a file, whose directory is made if it is not there. -/
def write (t : FileTree) (path : String) (bytes : List UInt8) : Obstacle × FileTree :=
  let above := (namesIn path).dropLast
  match t.makeDirectories above above.length with
  | .error failure => ({ directory := some failure }, t)
  | .ok t =>
    match t.place path with
    | .error failure => ({ file := some failure }, t)
    | .ok place =>
      if t.hasDirectory place then ({ file := some (.isDirectory path) }, t)
      else
        let others := t.files.filter fun file => file.1 != place
        ({}, { t with files := (place, bytes) :: others })

end FileTree

end Drafting.Command

import Drafting.Headroom
import Drafting.Log.Summary
import Drafting.Value.Arithmetic

/-!
# Limits that are given as values

How much of a value is shown may be asked for by values of any sort. A limit is compared with a
count or a length in whatever way such values compare, and the bound of a part of a sequence has to
be an integer; a limit that no comparison or no part needs is not looked at.
-/

namespace Drafting.Log

/-- How many calls inside each other the level of a list or a tuple takes. -/
def sequenceCost : Nat := 2

/-- How many calls inside each other the level of a record takes. -/
def recordCost : Nat := 1

/-- Whether a value can bound a part of a sequence; nothing stands for no bound. -/
def requireBound : Value Float → Except (Fault Float) Unit
  | .null | .flag _ | .int _ => .ok ()
  | .array kind [] [.int _] => if kind.isNumber then .ok () else .error .badBound
  | _ => .error .badBound

/-- A limit as an integer; a real bounds the same counts as the least integer that is not below
it, and one that is undefined bounds none. -/
def wholeLimit (count : Nat) (limit : Value Float) : Int :=
  match limit.only.toOption.bind Value.number? with
  | some (.whole n) => n
  | some (.real x) => if x.isNaN then count else Scalar.ceil x
  | none => count

/-- The least and the greatest of the counts among elements that are defined. -/
def endCounts (kind : ElementKind) (data : List (Value Float)) : List Int :=
  let counts := (data.filter (isDefined kind)).filterMap fun
    | .int n => some n
    | _ => none
  match counts with
  | [] => []
  | n :: rest => [rest.foldl min n, rest.foldl max n]

/-- Demands that the range of the elements of an array can be shown: the ends of one of lengths of
time have to be plain numbers for it. -/
def requireRange (kind : ElementKind) (data : List (Value Float)) : Except (Fault Float) Unit :=
  match kind.native with
  | .span .. => (endCounts kind data).forM fun n => do
    let _ ← (Value.element kind.native (.int n)).toReal
  | _ => .ok ()

/-- Whether an integer with too many digits is shown of nested lists, tuples and records inside an
array, to a depth. -/
def showsTooLong (depth : Nat) (v : Value Float) : Bool :=
  match depth, v with
  | _, .int n => Numeral.isTooLong n
  | depth + 1, .list items | depth + 1, .tuple items =>
    (items.take nestedLimit).any (showsTooLong depth)
  | depth + 1, .record fields => (firstFields fields).any fun field => showsTooLong depth field.2
  | depth + 1, .mapping entries =>
    (firstEntries entries).any fun (name, item) =>
      showsTooLong depth name || showsTooLong depth item
  | _, _ => false

/-- Demands that an array can be shown, which is shown in full if it is small. -/
def requireArray (isSmall : Bool) (kind : ElementKind) (shape : List Nat)
    (data : List (Value Float)) : Except (Fault Float) Unit :=
  if isSmall then
    if showsTooLong nestedDepth (Value.group shape (data.map (Value.released kind))) then
      .error .tooManyDigits
    else .ok ()
  else requireRange kind data

/-- Demands what is to be demanded inside a value, which takes so many calls for its level. -/
def requireLevel (room cost : Nat) (isEmpty : Bool) (inside : Nat → Except (Fault Float) Unit) :
    Except (Fault Float) Unit :=
  if isEmpty then .ok ()
  else if room < cost then .error .tooDeep
  else inside (room - cost)

mutual

/-- Demands that a value inside another can be shown, where so many calls inside each other are left
beside those that are made for a value without others in it. -/
def requireShown (room : Nat) : Value Float → Except (Fault Float) Unit
  | .array kind shape data =>
    requireArray (decide (data.length ≤ Limits.inner.items)) kind shape data
  | .record fields => requireLevel room recordCost fields.isEmpty fun room =>
    requireFields room Limits.inner.items.toNat fields
  | .mapping entries => requireLevel room recordCost entries.isEmpty fun room =>
    requireEntries room Limits.inner.items.toNat entries
  | .list items | .tuple items => requireLevel room sequenceCost items.isEmpty fun room =>
    requireItems room Limits.inner.items.toNat items
  | .object _ _ (.unclear isEmpty) => .error (.ambiguous isEmpty)
  | _ => .ok ()

/-- Demands that so many items can be shown. -/
def requireItems (room : Nat) : Nat → List (Value Float) → Except (Fault Float) Unit
  | count + 1, item :: rest => do
    requireShown room item
    requireItems room count rest
  | _, _ => .ok ()

/-- Demands that so many fields can be shown. -/
def requireFields (room : Nat) : Nat → List (String × Value Float) → Except (Fault Float) Unit
  | count + 1, (_, item) :: rest => do
    requireShown room item
    requireFields room count rest
  | _, _ => .ok ()

/-- Demands that so many entries can be shown. -/
def requireEntries (room : Nat) :
    Nat → List (Value Float × Value Float) → Except (Fault Float) Unit
  | count + 1, (name, item) :: rest => do
    requireShown room name
    requireShown room item
    requireEntries room count rest
  | _, _ => .ok ()

end

/-- Arguments in short, if all of them can be shown. -/
def shownCall (room : Nat) (arguments : List (Value Float)) (named : List (String × Value Float)) :
    Except (Fault Float) String := do
  arguments.forM (requireShown room)
  named.forM fun argument => requireShown room argument.2
  return callText arguments named

/-- A value in short, within limits on its items and on its length. -/
def summaryWithin (items length v : Value Float) (room : Nat := Headroom.usual) :
    Except (Fault Float) String :=
  let exceeds (operation : ArrayOperation) (accepts : Option Ordering → Bool) (count : Nat)
      (limit : Value Float) : Except (Fault Float) Bool :=
    (Value.int count).isOrdered operation accepts limit
  let sequence (xs : List (Value Float)) : Except (Fault Float) String := do
    let count := xs.length
    requireBound items
    let part := upTo (wholeLimit count items) xs
    requireLevel room sequenceCost part.isEmpty fun room => requireItems room part.length part
    let _ ← exceeds .greater (· == some .gt) count items
    return summary ⟨wholeLimit count items, 300⟩ v
  match v with
  | .array _ _ [] | .record [] | .mapping [] | .object _ _ (.text _) => .ok (summary .inner v)
  | .object _ _ (.unclear isEmpty) => .error (.ambiguous isEmpty)
  | .array kind shape data => do
    let isSmall ← exceeds .lessEqual (fun o => o == some .lt || o == some .eq) data.length items
    requireArray isSmall kind shape data
    return summary ⟨if isSmall then data.length else -1, 300⟩ v
  | .mapping entries => do
    let _ ← exceeds .greaterEqual (fun o => o == some .gt || o == some .eq) 0 items
    let count := (wholeLimit entries.length items).toNat
    requireLevel room recordCost (count == 0) fun room => requireEntries room count entries
    return summary ⟨wholeLimit entries.length items, 300⟩ v
  | .record fields => do
    let _ ← exceeds .greaterEqual (fun o => o == some .gt || o == some .eq) 0 items
    let count := (wholeLimit fields.length items).toNat
    requireLevel room recordCost (count == 0) fun room => requireFields room count fields
    return summary ⟨wholeLimit fields.length items, 300⟩ v
  | .list xs => sequence xs
  | .tuple xs => sequence xs
  | v => do
    let rendered := single v
    if ← exceeds .greater (· == some .gt) rendered.length length then
      requireBound length
      return cutOff (wholeLimit rendered.length length) rendered
    else return rendered

end Drafting.Log

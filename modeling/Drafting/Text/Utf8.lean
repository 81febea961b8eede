import Drafting.Text.Quoted

/-!
# Reading bytes as text

Bytes are read as UTF-8 without any leniency: no overlong forms, no halves of pairs, nothing beyond
the last code point. A failure tells which bytes could not be read, and why.
-/

namespace Drafting.Text

/-- Why bytes could not be read. -/
inductive ByteComplaint where
  | badStart
  | badContinuation
  | cutOff
  deriving DecidableEq, Repr

/-- The bytes from `start` on that could not be read, the first of which is `byte`. -/
structure ByteFailure where
  complaint : ByteComplaint
  start : Nat
  count : Nat
  byte : UInt8
  deriving DecidableEq, Repr

/-- What a complaint about bytes says. -/
def ByteComplaint.text : ByteComplaint → String
  | badStart => "invalid start byte"
  | badContinuation => "invalid continuation byte"
  | cutOff => "unexpected end of data"

/-- The wording of a failure. -/
def ByteFailure.message (f : ByteFailure) : String :=
  "'utf-8' codec can't decode " ++
    (if f.count ≤ 1 then
      "byte 0x" ++ String.ofList (hex 2 f.byte.toNat) ++ " in position " ++ toString f.start
    else
      "bytes in position " ++ toString f.start ++ "-" ++ toString (f.start + f.count - 1)) ++
    ": " ++ f.complaint.text

/-- How many bytes follow a first byte. -/
def followers? (first : Nat) : Option Nat :=
  if first < 0x80 then some 0
  else if first < 0xc2 then none
  else if first < 0xe0 then some 1
  else if first < 0xf0 then some 2
  else if first < 0xf5 then some 3
  else none

/-- The range of the second byte after a first one. -/
def secondRange (first : Nat) : Nat × Nat :=
  if first = 0xe0 then (0xa0, 0xbf)
  else if first = 0xed then (0x80, 0x9f)
  else if first = 0xf0 then (0x90, 0xbf)
  else if first = 0xf4 then (0x80, 0x8f)
  else (0x80, 0xbf)

/-- Whether a byte may stand at a place after the first one. -/
def mayFollow (first place byte : Nat) : Bool :=
  let (low, high) := if place = 1 then secondRange first else (0x80, 0xbf)
  low ≤ byte && byte ≤ high

/-- Why the bytes after a first one do not complete it, and how many of them were good; none if
they do. -/
def badFollower? (first needed place : Nat) : List UInt8 → Option (ByteComplaint × Nat)
  | [] => if place ≤ needed then some (.cutOff, place) else none
  | byte :: rest =>
    if needed < place then none
    else if mayFollow first place byte.toNat then badFollower? first needed (place + 1) rest
    else some (.badContinuation, place)

/-- The code point that a first byte and the bytes after it write. -/
def codePoint (first : Nat) (following : List UInt8) : Nat :=
  let lead := match following.length with
    | 0 => first
    | 1 => first % 0x20
    | 2 => first % 0x10
    | _ => first % 8
  following.foldl (fun n byte => n * 0x40 + byte.toNat % 0x40) lead

/-- The characters that bytes from a position on write, after those read already in reverse. -/
def decodeFrom (fuel position : Nat) (acc : List Char) (bytes : List UInt8) :
    Except ByteFailure (List Char) :=
  match fuel, bytes with
  | fuel + 1, first :: rest =>
    let n := first.toNat
    match followers? n with
    | none => .error ⟨.badStart, position, 1, first⟩
    | some needed =>
      match badFollower? n needed 1 rest with
      | some (complaint, count) => .error ⟨complaint, position, count, first⟩
      | none =>
        let c := Char.ofNat (codePoint n (rest.take needed))
        decodeFrom fuel (position + needed + 1) (c :: acc) (rest.drop needed)
  | _, _ => .ok acc.reverse

/-- The characters that bytes write. -/
def decode (bytes : List UInt8) : Except ByteFailure (List Char) :=
  decodeFrom bytes.length 0 [] bytes

/-- Characters with every line end as a single one. -/
def unifyLines : List Char → List Char
  | '\r' :: '\n' :: rest => '\n' :: unifyLines rest
  | '\r' :: rest => '\n' :: unifyLines rest
  | c :: rest => c :: unifyLines rest
  | [] => []

end Drafting.Text

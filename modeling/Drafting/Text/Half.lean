/-!
# Lone halves of pairs

Characters beyond the first plane are written as pairs of code units in some formats. A text can
hold half of a pair without its partner; such a half is kept as a character of its own. A
character that would be taken for a kept half is held as the two halves that it is written as.
-/

namespace Drafting.Text

/-- The first code unit that is half of a pair. -/
def firstHalf : Nat := 0xd800

/-- How many code units are halves. -/
def halfCount : Nat := 0x800

/-- The character that keeps the first half. -/
def firstKeeper : Nat := 0xb3800

/-- The character that keeps a half. -/
def keepHalf (unit : Nat) : Char := Char.ofNat (firstKeeper + (unit - firstHalf))

/-- The half that a character keeps. -/
def keptHalf? (c : Char) : Option Nat :=
  if firstKeeper ≤ c.toNat ∧ c.toNat < firstKeeper + halfCount then
    some (firstHalf + (c.toNat - firstKeeper))
  else none

/-- The numbers by which texts are put in order: those of the characters, or of the halves that are
kept. -/
def codes (s : String) : List Nat := s.toList.map fun c => (keptHalf? c).getD c.toNat

/-- The code point that two halves make, if the first may stand before the second. -/
def pairCode? (high low : Nat) : Option Nat :=
  if firstHalf ≤ high ∧ high < firstHalf + 0x400 ∧ firstHalf + 0x400 ≤ low ∧
      low < firstHalf + halfCount then
    some (0x10000 + (high - firstHalf) * 0x400 + (low - firstHalf - 0x400))
  else none

/-- The code point of two characters that keep the halves of a pair. -/
def keptPair? (a b : Char) : Option Nat := do
  let high ← keptHalf? a
  let low ← keptHalf? b
  pairCode? high low

/-- A character as it is held in a text. -/
def held (c : Char) : List Char :=
  match keptHalf? c with
  | some _ =>
    let n := c.toNat - 0x10000
    [keepHalf (firstHalf + n / 0x400), keepHalf (firstHalf + 0x400 + n % 0x400)]
  | none => [c]

/-- Whether a half stands for a byte that is part of no text. -/
def standsForByte (half : Nat) : Bool := 0xdc80 ≤ half && half ≤ 0xdcff

/-- The first run of halves that cannot be written as bytes, and its position. Some halves may be
written where they stand alone. -/
def strayHalves? (isWritten : Nat → Bool) (position : Nat) : List Char → Option (Nat × List Nat)
  | [] => none
  | c :: rest =>
    match keptHalf? c with
    | none => strayHalves? isWritten (position + 1) rest
    | some half =>
      match rest with
      | d :: tail =>
        if (keptPair? c d).isSome then strayHalves? isWritten (position + 1) tail
        else if isWritten half then strayHalves? isWritten (position + 1) (d :: tail)
        else
          let run := ((d :: tail).map keptHalf?).takeWhile Option.isSome
          some (position, half :: run.filterMap id)
      | [] => if isWritten half then none else some (position, [half])

end Drafting.Text

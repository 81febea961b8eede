import Drafting.Decimal.Format

/-!
# Amounts of memory

A number of bytes is written in the greatest binary unit that it reaches, with three digits, or with
all digits of its whole part if these are four.
-/

namespace Drafting.Decimal

/-- The binary units, each 1024 times the one before it. -/
def byteUnits : List String := ["bytes", "KiB", "MiB", "GiB", "TiB", "PiB", "EiB"]

/-- The unit that a number of bytes is written in, by its place; the number may round up to the next
one. -/
def byteUnit (bytes : Nat) : Nat :=
  let unit := bytes.log2 / 10
  if (Ratio.mk bytes (power 1024 unit)).round = 1024 then unit + 1 else unit

/-- A positive ratio with three digits and a point, which stays where no digit follows it. -/
def threeDigits (r : Ratio) : String :=
  let inTens := (r.inUnits (-1)).round
  let inHundreds := (r.inUnits (-2)).round
  if inHundreds < 1000 then pointed inHundreds 2
  else if inTens < 1000 then pointed inTens 1
  else digitText r.round ++ "."

/-- A number of bytes with its unit. -/
def byteText (bytes : Nat) : String :=
  let unit := byteUnit bytes
  let shown := if unit = 0 then digitText bytes else threeDigits ⟨bytes, power 1024 unit⟩
  shown ++ " " ++ byteUnits.getD unit ""

end Drafting.Decimal

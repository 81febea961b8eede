import Drafting.Value.ElementText
import Drafting.Value.Elementwise

/-!
# Points in time

A point in time is written as a date, down to the year, the month or the day, perhaps with a time of
the day after it, down to the hour or finer, and with the distance from the standard time. What is
left out is the earliest that there is.
-/

namespace Drafting

/-- A point in time: its day, counted from the beginning of 1970, the time of the day in units of
`10 ^ (-18)` seconds, and the unit down to which it is given. -/
structure Moment where
  day : Int
  time : Nat := 0
  unit : TimeUnit

namespace Moment

/-- What is wrong with a text: it cannot be read on where so many characters are left, or a part of
it is out of range. -/
inductive Flaw where
  | unread (left : Nat)
  | outOfRange (part : String)
  deriving DecidableEq, Repr

/-- How many of the smallest units make up a minute. -/
def perMinute : Nat := 60 * power 10 18

/-- How many of the smallest units make up a day. -/
def perDay : Nat := 1440 * perMinute

/-- How many of a unit have passed since the beginning of 1970. -/
def inUnit (m : Moment) (unit : TimeUnit) : Int :=
  match unit with
  | .year => (Value.dayParts m.day).1 - 1970
  | .month =>
    let (year, month, _) := Value.dayParts m.day
    (year - 1970) * 12 + (month - 1 : Nat)
  | .week => m.day.fdiv 7
  | .day | .any => m.day
  | unit =>
    let units := Value.unitsPerDay unit
    m.day * units + (m.time * units / perDay : Nat)

/-- A point in time that lies so many of a unit after the beginning of 1970. -/
def ofUnits (n : Int) (unit : TimeUnit) : Moment :=
  let units := Value.unitsPerDay unit
  let time := match unit with
    | .year | .month | .week | .day | .any => 0
    | _ => (n.fmod units).toNat * perDay / units
  ⟨Value.dayOf unit n, time, unit⟩

/-- A point in time moved on by minutes. -/
def later (m : Moment) (minutes : Int) : Moment :=
  let time := m.time + minutes * perMinute
  { m with day := m.day + time.fdiv perDay, time := (time.fmod perDay).toNat }

/-- Reads the two digits of a part, which has bounds. -/
def twoDigits (part : String) (low high : Nat) (cs : List Char) : Except Flaw (Nat × List Char) :=
  match cs with
  | a :: b :: rest =>
    let n := Numeral.digitsValue [a, b]
    if !(a.isDigit && b.isDigit) then .error (.unread cs.length)
    else if low ≤ n ∧ n ≤ high then .ok (n, rest)
    else .error (.outOfRange part)
  | _ => .error (.unread cs.length)

/-- Reads a part of a distance from the standard time, of one digit or two. -/
def distancePart (part : String) (high : Nat) (cs : List Char) : Except Flaw (Nat × List Char) :=
  match cs with
  | [a] => if a.isDigit then .ok (Numeral.digitsValue [a], []) else .error (.unread 1)
  | a :: b :: rest =>
    if a.isDigit && !b.isDigit then .ok (Numeral.digitsValue [a], b :: rest)
    else twoDigits ("Timezone " ++ part ++ " offset") 0 high cs
  | [] => .error (.unread 0)

/-- Reads a distance from the standard time without its sign, in minutes. -/
def distance (cs : List Char) : Except Flaw (Nat × List Char) := do
  let (hours, cs) ← distancePart "hours" 23 cs
  match cs with
  | [] => return (60 * hours, [])
  | c :: rest =>
    let (minutes, cs) ← distancePart "minutes" 59 (if c = ':' then rest else cs)
    return (60 * hours + minutes, cs)

/-- Reads the end of a text: nothing, or the distance from the standard time. -/
def ending (m : Moment) (cs : List Char) : Except Flaw Moment := do
  let cs := cs.dropWhile Text.isAsciiBlank
  let (m, rest) ← match cs with
    | 'Z' :: cs => .ok (m, cs)
    | '+' :: cs => (distance cs).map fun (minutes, cs) => (m.later (-minutes), cs)
    | '-' :: cs => (distance cs).map fun (minutes, cs) => (m.later minutes, cs)
    | cs => .ok (m, cs)
  match rest.dropWhile Text.isAsciiBlank with
  | [] => return m
  | rest => throw (.unread rest.length)

/-- Reads the fraction of a second. -/
def fraction (m : Moment) (cs : List Char) : Moment × List Char :=
  let found := (cs.takeWhile Char.isDigit).take 18
  let value := Numeral.digitsValue found * power 10 (18 - found.length)
  ({ m with time := m.time + value, unit := .fraction (max 1 ((found.length + 2) / 3)) },
    cs.drop found.length)

/-- Reads the time of the day, as far as it is there. -/
def clock (m : Moment) (cs : List Char) : Except Flaw (Moment × List Char) := do
  let (hour, cs) ← twoDigits "Hours" 0 23 cs
  let m := { m with time := 60 * hour * perMinute, unit := .hour }
  match cs with
  | ':' :: cs =>
    let (minute, cs) ← twoDigits "Minutes" 0 59 cs
    let m := { m with time := m.time + minute * perMinute, unit := .minute }
    match cs with
    | ':' :: cs =>
      let (second, cs) ← twoDigits "Seconds" 0 59 cs
      let m := { m with time := m.time + second * power 10 18, unit := .second }
      match cs with
      | '.' :: cs => return m.fraction cs
      | cs => return (m, cs)
    | cs => return (m, cs)
  | cs => return (m, cs)

/-- Reads what follows a year. -/
def afterYear (year : Int) (cs : List Char) : Except Flaw Moment := do
  let first := Value.daysBeforeYear year
  match cs with
  | [] => return { day := first, unit := .year }
  | '-' :: cs =>
    let (month, cs) ← twoDigits "Month" 1 12 cs
    let first := first + Value.daysBeforeMonth year (month - 1)
    match cs with
    | [] => return { day := first, unit := .month }
    | '-' :: cs =>
      let (day, cs) ← twoDigits "Day" 1 ((Value.monthLengths year).getD (month - 1) 31) cs
      let m : Moment := { day := first + (day - 1 : Nat), unit := .day }
      match cs with
      | [] => return m
      | c :: rest =>
        if c ≠ 'T' ∧ c ≠ ' ' then throw (.unread cs.length)
        let (m, cs) ← m.clock rest
        m.ending cs
    | cs => throw (.unread cs.length)
  | cs => throw (.unread cs.length)

/-- The point in time that a text writes. A year has a sign or not, which counts at the very front
only, and any number of digits. -/
def ofText (cs : List Char) : Except Flaw Moment :=
  let rest := match cs.dropWhile Text.isAsciiBlank with
    | '-' :: rest | '+' :: rest => rest
    | rest => rest
  if rest.isEmpty then .error (.unread 0)
  else
    let size := Value.wrapped true 64 (Numeral.digitsValue (rest.takeWhile Char.isDigit))
    afterYear (if cs.head? = some '-' then -size else size) (rest.dropWhile Char.isDigit)

end Moment

/-- The finer one of two units of time. -/
def finer (a b : TimeUnit) : TimeUnit :=
  let rank : TimeUnit → Nat
    | .year => 0
    | .month => 1
    | .week => 2
    | .day => 3
    | .hour => 4
    | .minute => 5
    | .second => 6
    | .fraction exponent => 6 + exponent
    | .any => 0
  if rank a < rank b then b else a

namespace Value

/-- Whether a text says that there is no time. -/
def saysNoTime (s : String) : Bool := s.isEmpty || s.toLower == "nat"

/-- A number of units of time, which has to fit a machine word. -/
def timeCount (n : Int) : Except (Fault Float) Int :=
  if -power 2 63 ≤ n ∧ n < power 2 63 then .ok n else .error (.badElement .tooWide)

/-- The whole number that a text writes with blanks and a sign at the front, moved into the range of
a machine word. -/
def countOfText? (s : String) : Option Int :=
  let (negative, digits) := Numeral.takeSign (s.toList.dropWhile Text.isAsciiBlank)
  let n := Numeral.digitsValue digits
  if digits.isEmpty || !digits.all Char.isDigit then none
  else some (max (-power 2 63) (min (power 2 63 - 1) (if negative then Int.negOfNat n else n)))

/-- How many of the smallest units a unit of time takes; years and months are counted as the average
ones. -/
def unitLength : TimeUnit → Nat
  | .year => 12 * 2629746 * power 10 18
  | .month => 2629746 * power 10 18
  | .week => 7 * Moment.perDay
  | unit => Moment.perDay / unitsPerDay unit

/-- A number of units of time as a number of other units. -/
def spanInUnits (n : Int) (count : Nat) (unit : TimeUnit) (count' : Nat) (unit' : TimeUnit) :
    Int :=
  if n = noTime ∨ unit = .any ∨ unit' = .any then n
  else (n * (count * unitLength unit : Nat)).fdiv (count' * unitLength unit' : Nat)

/-- The number of units of time that a value stands for as a length of time. -/
def spanElement (count : Nat) (unit : TimeUnit) (v : Value Float) : Except (Fault Float) Int :=
  let read (s : String) : Except (Fault Float) Int :=
    match countOfText? s with
    | some n => .ok n
    | none => if saysNoTime s then .ok noTime else .error (.notTime "timedelta")
  match v, v.bare with
  | element (.span count' unit') _, int n => .ok (spanInUnits n count' unit' count unit)
  | element .., real x => .ok ((Float64.wholePart? x).getD noTime)
  | _, null => .ok noTime
  | _, flag b => .ok (if b then 1 else 0)
  | _, int n => timeCount n
  | _, text s => read s
  | _, bytes data => read (byteChars data)
  | _, _ => .error (.notTime "timedelta")

/-- The number of units of time that a value stands for as a point in time; it is kept in a machine
word. -/
def momentElement (count : Nat) (unit : TimeUnit) (v : Value Float) :
    Except (Fault Float) Int :=
  let counted (n : Int) : Except (Fault Float) Int :=
    if unit = .any then .error .noTimeUnit else timeCount n
  let read (s : String) : Except (Fault Float) Int :=
    let shown := String.ofList (s.toList.takeWhile (· != '\x00'))
    if saysNoTime s then .ok noTime
    else if unit = .any then .error .noMoment
    else match Moment.ofText s.toList with
      | .ok moment => .ok ((wrapped true 64 (moment.inUnit unit)).fdiv count)
      | .error (.unread left) => .error (.badMoment shown (s.length - left))
      | .error (.outOfRange part) => .error (.momentRange part shown)
  match v, v.bare with
  | element (.moment count' unit') _, int n =>
    if n = noTime ∨ unit = .any ∨ unit' = .any then .ok n
    else .ok (((Moment.ofUnits (n * count') unit').inUnit unit).fdiv count)
  | element .., real x => .ok ((Float64.wholePart? x).getD noTime)
  | _, null => .ok noTime
  | _, flag b => counted (if b then 1 else 0)
  | _, int n => counted n
  | _, text s => read s
  | _, bytes data => read (byteChars data)
  | _, _ => .error (.notTime "datetime")

end Value

end Drafting

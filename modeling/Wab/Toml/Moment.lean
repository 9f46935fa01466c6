import Wab.Accident
import Wab.Binary64
import Wab.Toml.Number

/-!
# Points in time in TOML

A calendar day takes ten characters and a point in time more. Only the places of the numbers count:
what stands between them does not, but for a hyphen somewhere. Behind the seconds there may be
anything; if it is a part of a second that can be read, it must come to less than a second and must
not be negative.

* **`Toml.millionths`**: how much a part of a second comes to.
* **`Toml.moment?`**: the day or the point in time that a text stands for.
* **`Toml.clock?`**: the time of day that a text begins with.
-/

namespace Wab.Toml

/-- The number at the characters from `start` up to `stop`. -/
def numberAt? (s : Text) (start stop : Nat) : Option Int :=
  wholeNumber? ((s.drop start).take (stop - start))

/-- The year has a day more than others. -/
def isLeap (year : Int) : Bool := (year % 4 == 0 && year % 100 != 0) || year % 400 == 0

/-- The number of days of a month. -/
def daysIn (year month : Int) : Int :=
  if month = 2 then if isLeap year then 29 else 28
  else if month = 4 ∨ month = 6 ∨ month = 9 ∨ month = 11 then 30
  else 31

/-- There is a day of these numbers. -/
def isDay (year month day : Int) : Bool :=
  1 ≤ year && year ≤ 9999 && 1 ≤ month && month ≤ 12 && 1 ≤ day && day ≤ daysIn year month

/-- There is a time of day of these numbers. -/
def isClock (hour minute second : Int) : Bool :=
  0 ≤ hour && hour ≤ 23 && 0 ≤ minute && minute ≤ 59 && 0 ≤ second && second ≤ 59

/-- The text has the numbers of a day. -/
def hasDay (s : Text) : Bool :=
  match numberAt? s 0 4, numberAt? s 5 7, numberAt? s 8 10 with
  | some year, some month, some day => isDay year month day
  | _, _, _ => false

/-- The text has the numbers of a time of day behind those of a day. -/
def hasClock (s : Text) : Bool :=
  match numberAt? s 11 13, numberAt? s 14 16, numberAt? s 17 19 with
  | some hour, some minute, some second => isClock hour minute second
  | _, _, _ => false

/-- The hours and the minutes of a zone are numbers. -/
def isZone (zone : Text) : Bool := (numberAt? zone 1 3).isSome && (numberAt? zone 4 6).isSome

/-- The part of a second and the zone, given what follows the point. A letter Z at the end is the
zone; otherwise the zone begins with its sign. -/
def splitZone (s : Text) : Text × Option Text :=
  if s.getLast? = some (.scalar 'Z') ∨ s.getLast? = some (.scalar 'z') then
    (s.dropLast, some ↑"+00:00")
  else
    match Text.cut? ['+'] s, Text.cut? ['-'] s with
    | some (fraction, zone), _ => (fraction, some ('+' :: zone))
    | none, some (fraction, zone) => (fraction, some ('-' :: zone))
    | none, none => (s, none)

/-- The whole millionths of a part of a second, which is a number of that many places. Up to six
places they are exact. From there on they are a product of floating-point numbers, which can round
the part up to a whole second. -/
def millionths (n : Int) (places : Nat) : Except Accident Int :=
  if places ≤ 6 then .ok (n * Nat.pow 10 (6 - places))
  else
    match Binary64.ofNat? n.natAbs with
    | none => .error .fractionTooLong
    | some size => .ok (signed (n < 0) (size.mul (.ofQuotient 1 (Nat.pow 10 (places - 6)))).floor)

/-- The part of a second behind the seconds comes to less than a second and is not negative. It does
not count without a point, next to a malformed zone, or if it is no number. -/
def hasFraction (s : Text) : Except Accident Bool :=
  match s.drop 19 with
  | '.' :: rest =>
    let (fraction, zone) := splitZone rest
    if !(zone.map isZone).getD true then .ok true
    else
      match wholeNumber? fraction with
      | some n => (millionths n fraction.length).map fun n => 0 ≤ n && n < 1000000
      | none => .ok true
  | _ => .ok true

/-- The day or the point in time that a text stands for. The part of a second is looked at first. -/
def moment? (s : Text) : Except Accident (Option Value) := do
  let hasFraction ← hasFraction s
  if !(s.drop 1).contains '-' then return none
  else if s.length = 10 then return if hasDay s then some (.date s) else none
  else return if hasDay s && hasClock s && hasFraction then some (.dateTime s) else none

/-- The hour, minute and second that a text begins with, two digits each with colons between. -/
def clock? : Text → Option (Nat × Nat × Nat)
  | a :: b :: ':' :: c :: d :: ':' :: e :: f :: _ =>
    if [a, b, c, d, e, f].all CodePoint.isDigit then
      some (digitsValue 10 [a, b], digitsValue 10 [c, d], digitsValue 10 [e, f])
    else none
  | _ => none

example : (moment? "1979-05-27T07:32:00.5Z").toOption.map (·.map Value.typeName)
    = some (some "datetime") := by
  decide +kernel

example : (moment? "1979-05/27").toOption.map (·.map Value.typeName)
    = some (some "date") := by
  decide +kernel

example : (moment? "1979-05-27T07:32:00.-5Z").toOption.map Option.isNone = some true := by
  decide +kernel

example : (moment? "1979-02-30").toOption.map Option.isNone = some true := by decide +kernel

example : (millionths 9999999999999999 16).toOption = some 1000000 := by decide +kernel

example : (millionths (Nat.pow 10 309) 310).toOption = none := by decide +kernel

end Wab.Toml

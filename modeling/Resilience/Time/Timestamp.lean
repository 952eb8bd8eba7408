import Resilience.Text.Chars
import Resilience.Text.Digits

/-!
Points of time and their text. A time is written in UTC with the fewest of 0, 3, 6 or 9 decimals
that lose nothing. It is read with any offset, with blanks between its parts, and with parts that
are not filled up with zeros.
-/

namespace Resilience

/-- The first year of the calendar. -/
def firstYear : Int := -262143

/-- The last year of the calendar. -/
def lastYear : Int := 262142

/-- Seconds from the first of January 1970 to the beginning of the first year. -/
def firstSecond : Int := -8334601228800

/-- Seconds from the first of January 1970 to the end of the last year. -/
def endSecond : Int := 8210266876800

/-- Seconds since the first of January 1970, UTC, and nanoseconds. In a leap second, which belongs
to the last second of a minute, the nanoseconds are a thousand million or more. -/
structure Timestamp where
  seconds : Int
  nanos : Nat
  valid : firstSecond ≤ seconds ∧ seconds < endSecond ∧ nanos < 2000000000 ∧
    (1000000000 ≤ nanos → seconds % 60 = 59)
deriving DecidableEq

instance : Inhabited Timestamp := ⟨⟨0, 0, by decide⟩⟩

namespace Timestamp

/-! ## Calendar -/

def isLeap (year : Int) : Bool := year % 4 = 0 && (year % 100 != 0 || year % 400 = 0)

def daysInMonth (year : Int) (month : Nat) : Nat :=
  if month = 2 then (if isLeap year then 29 else 28)
  else if month = 4 ∨ month = 6 ∨ month = 9 ∨ month = 11 then 30
  else 31

/-- Days from the first of January 1970 to a date. The year is taken to begin in March, so that a
leap day is its last day. -/
def daysOfDate (year : Int) (month day : Nat) : Int :=
  let y := if month ≤ 2 then year - 1 else year
  let m : Int := (month + 9) % 12
  365 * y + y / 4 - y / 100 + y / 400 + (153 * m + 2) / 5 + day - 1 - 719468

/-- Days of a cycle of 400 years before one of its years, which begin in March. -/
def yearStart (year : Int) : Int := 365 * year + year / 4 - year / 100

/-- The year of a cycle of 400 years in which a day of it lies. -/
def yearOfCycle (day : Int) : Int := (day - day / 1460 + day / 36524 - day / 146096) / 365

/-- The date that is so many days after the first of March of a year. -/
def dateInYear (year day : Int) : Int × Nat × Nat :=
  let m := (5 * day + 2) / 153
  let month := if m < 10 then m + 3 else m - 9
  (year + (if month ≤ 2 then 1 else 0), month.toNat, (day - (153 * m + 2) / 5 + 1).toNat)

/-- The date that is so many days after the first of January 1970. -/
def dateOfDays (days : Int) : Int × Nat × Nat :=
  let z := days + 719468
  let year := yearOfCycle (z % 146097)
  dateInYear (year + z / 146097 * 400) (z % 146097 - yearStart year)

/-! ## Writing -/

/-- A number with leading zeros up to a width. -/
def padded (width n : Nat) : String :=
  let digits := Nat.toDigits 10 n
  String.ofList (List.replicate (width - digits.length) '0' ++ digits)

def yearText (year : Int) : String :=
  if 0 ≤ year ∧ year ≤ 9999 then padded 4 year.toNat
  else (if year < 0 then "-" else "+") ++ padded 4 year.natAbs

def fractionText (nanos : Nat) : String :=
  if nanos = 0 then ""
  else if nanos % 1000000 = 0 then "." ++ padded 3 (nanos / 1000000)
  else if nanos % 1000 = 0 then "." ++ padded 6 (nanos / 1000)
  else "." ++ padded 9 nanos

def text (t : Timestamp) : String :=
  let (year, month, day) := dateOfDays (t.seconds / 86400)
  let inDay := (t.seconds % 86400).toNat
  yearText year ++ "-" ++ padded 2 month ++ "-" ++ padded 2 day ++ "T" ++
    padded 2 (inDay / 3600) ++ ":" ++ padded 2 (inDay / 60 % 60) ++ ":" ++
    padded 2 (inDay % 60 + t.nanos / 1000000000) ++ fractionText (t.nanos % 1000000000) ++ "Z"

/-! ## Reading -/

def skipBlanks (cs : List Char) : List Char := cs.dropWhile Text.isBlank

/-- One to `most` digits. -/
def number? (most : Nat) (cs : List Char) : Option (Nat × List Char) :=
  let digits := (cs.takeWhile Char.isDigit).take most
  if digits.isEmpty then none else some (Text.digitsValue digits, cs.drop digits.length)

/-- A year of up to four digits, or of any number of digits after a sign. -/
def year? (cs : List Char) : Option (Int × List Char) :=
  match skipBlanks cs with
  | '-' :: cs => (number? cs.length cs).map fun (n, rest) => (-(n : Int), rest)
  | '+' :: cs => (number? cs.length cs).map fun (n, rest) => ((n : Int), rest)
  | cs => (number? 4 cs).map fun (n, rest) => ((n : Int), rest)

/-- Two digits or one, perhaps after blanks, that are in a range. -/
def part? (least most : Nat) (cs : List Char) : Option (Nat × List Char) := do
  let (n, rest) ← number? 2 (skipBlanks cs)
  guard (least ≤ n && n ≤ most)
  some (n, rest)

/-- A mark, perhaps after blanks. -/
def mark? (mark : Char) (cs : List Char) : Option (List Char) :=
  match skipBlanks cs with
  | c :: rest => if c = mark then some rest else none
  | [] => none

/-- Decimals of a second in nanoseconds; what is beyond nine digits is dropped. -/
def fraction? : List Char → Option (Nat × List Char)
  | '.' :: cs =>
    let digits := cs.takeWhile Char.isDigit
    if digits.isEmpty then none
    else
      let nine := digits.take 9
      let filled := nine ++ List.replicate (9 - nine.length) '0'
      some (Text.digitsValue filled, cs.drop digits.length)
  | cs => some (0, cs)

def isZulu (c : Char) : Bool := c = 'Z' || c = 'z'

/-- A signed offset in seconds, after its sign: two digits of hours, two of minutes. -/
def signedOffset? (sign : Int) : List Char → Option (Int × List Char)
  | h :: h' :: rest =>
    if h.isDigit && h'.isDigit then
      match rest.dropWhile (fun c => c = ':' || Text.isBlank c) with
      | m :: m' :: rest =>
        if m.isDigit && m'.isDigit && m ≤ '5' then
          some (sign * (Text.digitsValue [h, h'] * 3600 + Text.digitsValue [m, m'] * 60 : Nat), rest)
        else none
      | _ => none
    else none
  | _ => none

/-- The offset from UTC in seconds. -/
def offset? (cs : List Char) : Option (Int × List Char) :=
  match cs with
  | [] => none
  | c :: rest =>
    if (cs.take 3).map Char.toUpper = ['U', 'T', 'C'] then some (0, cs.drop 3)
    else if isZulu c then some (0, rest)
    else if c = '+' then signedOffset? 1 rest
    else if c = '-' || c = '\u2212' then signedOffset? (-1) rest
    else none

/-- A year, a month and a day, with marks between them. -/
def date? (cs : List Char) : Option ((Int × Nat × Nat) × List Char) := do
  let (year, cs) ← year? cs
  let cs ← mark? '-' cs
  let (month, cs) ← part? 1 12 cs
  let cs ← mark? '-' cs
  let (day, cs) ← part? 1 31 cs
  some ((year, month, day), cs)

/-- What stands between a date and the time of day. -/
def between? : List Char → Option (List Char)
  | c :: rest => if c = 'T' || c = 't' || c = ' ' then some rest else none
  | [] => none

/-- An hour, a minute and a second, with marks between them, and nanoseconds. -/
def timeOfDay? (cs : List Char) : Option ((Nat × Nat × Nat × Nat) × List Char) := do
  let (hour, cs) ← part? 0 23 cs
  let cs ← mark? ':' cs
  let (minute, cs) ← part? 0 59 cs
  let cs ← mark? ':' cs
  let (second, cs) ← part? 0 60 cs
  let (nanos, cs) ← fraction? cs
  some ((hour, minute, second, nanos), cs)

/-- The time with these parts, if there is one. -/
def of? (seconds : Int) (nanos : Nat) : Option Timestamp :=
  if h : firstSecond ≤ seconds ∧ seconds < endSecond ∧ nanos < 2000000000 ∧
      (1000000000 ≤ nanos → seconds % 60 = 59) then
    some ⟨seconds, nanos, h⟩
  else none

/-- The year must be one of the calendar as it is written, and the time must still be one after the
offset has been taken off. -/
def ofText? (text : String) : Option Timestamp := do
  let ((year, month, day), cs) ← date? text.toList
  let cs ← between? cs
  let ((hour, minute, second, nanos), cs) ← timeOfDay? cs
  let (offset, cs) ← offset? (skipBlanks cs)
  guard (skipBlanks cs).isEmpty
  guard (firstYear ≤ year && year ≤ lastYear)
  guard (day ≤ daysInMonth year month)
  guard (-86400 < offset && offset < 86400)
  let inDay := hour * 3600 + minute * 60 + min second 59
  of? (daysOfDate year month day * 86400 + inDay - offset)
    (if second = 60 then nanos + 1000000000 else nanos)

end Timestamp

end Resilience

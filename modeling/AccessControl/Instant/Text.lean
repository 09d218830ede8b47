import AccessControl.Instant.Basic
import AccessControl.Text.Blank
import AccessControl.Text.Digits

/-! # The written form of instants

Instants are written as RFC 3339 prescribes, in UTC. The reader also takes blanks in front of the
numbers and around the offset, numbers without zeros in front, and signed years. -/

namespace AccessControl.Instant

open AccessControl.Text

/-! ## Writing -/

def yearText (year : Int) : String :=
  if 0 ≤ year ∧ year ≤ 9999 then padded 4 year.toNat
  else (if year < 0 then "-" else "+") ++ padded 4 year.natAbs

/-- As many of 0, 3, 6 or 9 digits as show all of the fraction. -/
def fractionText (nano : Nat) : String :=
  if nano = 0 then ""
  else if nano % 1000000 = 0 then "." ++ padded 3 (nano / 1000000)
  else if nano % 1000 = 0 then "." ++ padded 6 (nano / 1000)
  else "." ++ padded 9 nano

def localText (t : Instant) : String :=
  let (year, month, day) := dateOfDays (t.second / 86400)
  let rest := (t.second % 86400).toNat
  let leap := t.nano / 1000000000
  yearText year ++ "-" ++ padded 2 month ++ "-" ++ padded 2 day ++ "T"
    ++ padded 2 (rest / 3600) ++ ":" ++ padded 2 (rest / 60 % 60) ++ ":"
    ++ padded 2 (rest % 60 + leap) ++ fractionText (t.nano % 1000000000)

/-- With `Z` for the offset. -/
def toString (t : Instant) : String := t.localText ++ "Z"

/-- With the offset in digits. -/
def toOffsetString (t : Instant) : String := t.localText ++ "+00:00"

instance : ToString Instant := ⟨toString⟩

/-! ## Reading -/

def skipBlank (cs : List Char) : List Char := cs.dropWhile isBlank

/-- A number in front of a text, after blanks. -/
def numberIn? (least most width : Nat) (cs : List Char) : Option (Nat × List Char) := do
  let (n, rest) ← takeNumber? width (skipBlank cs)
  if least ≤ n ∧ n ≤ most then some (n, rest) else none

def literal? (c : Char) (cs : List Char) : Option (List Char) :=
  match skipBlank cs with
  | d :: rest => if d = c then some rest else none
  | [] => none

/-- A year has up to four digits, and with a sign any number of them. -/
def year? (cs : List Char) : Option (Int × List Char) :=
  match skipBlank cs with
  | '-' :: rest => (takeNumber? rest.length rest).map fun (n, rest) => (-(n : Int), rest)
  | '+' :: rest => (takeNumber? rest.length rest).map fun (n, rest) => ((n : Int), rest)
  | cs => (takeNumber? 4 cs).map fun (n, rest) => ((n : Int), rest)

/-- A date that exists, as a count of days. -/
def date? (cs : List Char) : Option (Int × List Char) := do
  let (year, cs) ← year? cs
  let cs ← literal? '-' cs
  let (month, cs) ← numberIn? 1 12 2 cs
  let cs ← literal? '-' cs
  let (day, cs) ← numberIn? 1 31 2 cs
  if firstYear ≤ year ∧ year ≤ lastYear ∧ day ≤ daysInMonth year month then
    some (daysOfDate year month day, cs)
  else none

/-- A fraction of up to nine digits; further ones are dropped. -/
def fraction? : List Char → Option (Nat × List Char)
  | '.' :: rest => do
    let (n, after) ← takeNumber? 9 rest
    return (n * Nat.pow 10 (9 - (rest.length - after.length)),
      after.dropWhile fun c => (decimalDigit? c).isSome)
  | rest => some (0, rest)

/-- The time of day in seconds and nanoseconds, the second 60 being a leap second. -/
def time? (cs : List Char) : Option (Int × Nat × List Char) := do
  let (hour, cs) ← numberIn? 0 23 2 cs
  let cs ← literal? ':' cs
  let (minute, cs) ← numberIn? 0 59 2 cs
  let cs ← literal? ':' cs
  let (second, cs) ← numberIn? 0 60 2 cs
  let (nano, cs) ← fraction? cs
  let leap := second / 60
  return (hour * 3600 + minute * 60 + (second - leap : Nat), nano + leap * 1000000000, cs)

def offsetDigits? : List Char → Option (Nat × List Char)
  | a :: b :: rest => do return (10 * (← decimalDigit? a) + (← decimalDigit? b), rest)
  | _ => none

def isOffsetMark (c : Char) : Bool := c = ':' || isBlank c

/-- Hours and minutes after a sign, as seconds, less than a day. -/
def signedOffset? (sign : Int) (cs : List Char) : Option (Int × List Char) := do
  let (hours, cs) ← offsetDigits? cs
  let (minutes, cs) ← offsetDigits? (cs.dropWhile isOffsetMark)
  if minutes < 60 ∧ hours < 24 then some (sign * (hours * 3600 + minutes * 60), cs) else none

/-- The offset from UTC in seconds. -/
def offset? (cs : List Char) : Option (Int × List Char) :=
  match cs with
  | 'Z' :: rest => some (0, rest)
  | 'z' :: rest => some (0, rest)
  | '+' :: rest => signedOffset? 1 rest
  | '-' :: rest => signedOffset? (-1) rest
  | '−' :: rest => signedOffset? (-1) rest
  | u :: t :: c :: rest =>
    if u.toUpper = 'U' ∧ t.toUpper = 'T' ∧ c.toUpper = 'C' then some (0, rest) else none
  | _ => none

def dateTimeMark? : List Char → Option (List Char)
  | c :: rest => if c = 'T' ∨ c = 't' ∨ c = ' ' then some rest else none
  | [] => none

def parse? (s : String) : Option Instant := do
  let (days, cs) ← date? s.toList
  let cs ← dateTimeMark? cs
  let (second, nano, cs) ← time? cs
  let (offset, cs) ← offset? (skipBlank cs)
  let t := ofSecond (days * 86400 + second - offset) nano
  if (skipBlank cs).isEmpty ∧ t.isSupported then some t else none

end AccessControl.Instant

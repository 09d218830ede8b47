/-! # Instants

A second has a billion nanoseconds, and a leap second is the second billion of the one before it.
Ticks count both, so that their order is the order in time. -/

namespace AccessControl

structure Instant where
  ticks : Int
deriving DecidableEq, Repr

namespace Instant

def ticksPerSecond : Int := 2000000000

/-- `second` counts from the start of 1970. -/
def ofSecond (second : Int) (nano : Nat) : Instant := ⟨second * ticksPerSecond + nano⟩

def second (t : Instant) : Int := t.ticks / ticksPerSecond

def nano (t : Instant) : Nat := (t.ticks % ticksPerSecond).toNat

instance : LE Instant := ⟨fun a b => a.ticks ≤ b.ticks⟩

instance : LT Instant := ⟨fun a b => a.ticks < b.ticks⟩

instance (a b : Instant) : Decidable (a ≤ b) := inferInstanceAs (Decidable (a.ticks ≤ b.ticks))

instance (a b : Instant) : Decidable (a < b) := inferInstanceAs (Decidable (a.ticks < b.ticks))

theorem le_iff {a b : Instant} : a ≤ b ↔ a.ticks ≤ b.ticks := Iff.rfl

theorem lt_iff {a b : Instant} : a < b ↔ a.ticks < b.ticks := Iff.rfl

theorem not_lt {a b : Instant} : ¬a < b ↔ b ≤ a := Int.not_lt

theorem not_le {a b : Instant} : ¬a ≤ b ↔ b < a := Int.not_le

/-- The hour of the day, from 0 to 23. -/
def hour (t : Instant) : Nat := (t.second % 86400 / 3600).toNat

/-! ## Days and dates -/

/-- The days from the start of 1970 to a date. Years are counted from March, so that a leap day
ends its year. -/
def daysOfDate (year : Int) (month day : Nat) : Int :=
  let year := if month ≤ 2 then year - 1 else year
  let yearOfEra := year % 400
  let dayOfYear : Int := (153 * ((month + 9) % 12) + 2) / 5 + day - 1
  year / 400 * 146097 + yearOfEra * 365 + yearOfEra / 4 - yearOfEra / 100 + dayOfYear - 719468

/-- The year, month and day of a count of days. -/
def dateOfDays (days : Int) : Int × Nat × Nat :=
  let days := days + 719468
  let dayOfEra := days % 146097
  let yearOfEra := (dayOfEra - dayOfEra / 1460 + dayOfEra / 36524 - dayOfEra / 146096) / 365
  let dayOfYear := dayOfEra - (365 * yearOfEra + yearOfEra / 4 - yearOfEra / 100)
  let shifted := (5 * dayOfYear + 2) / 153
  let day := dayOfYear - (153 * shifted + 2) / 5 + 1
  let month := if shifted < 10 then shifted + 3 else shifted - 9
  let year := yearOfEra + days / 146097 * 400 + if month ≤ 2 then 1 else 0
  (year, month.toNat, day.toNat)

def isLeapYear (year : Int) : Bool := year % 4 = 0 ∧ (year % 100 ≠ 0 ∨ year % 400 = 0)

def daysInMonth (year : Int) (month : Nat) : Nat :=
  if month = 2 then if isLeapYear year then 29 else 28
  else if month = 4 ∨ month = 6 ∨ month = 9 ∨ month = 11 then 30
  else 31

/-! ## The supported years -/

def firstYear : Int := -262143

def lastYear : Int := 262142

def earliest : Instant := ofSecond (daysOfDate firstYear 1 1 * 86400) 0

/-- The first instant after the last supported year. -/
def horizon : Instant := ofSecond (daysOfDate (lastYear + 1) 1 1 * 86400) 0

def isSupported (t : Instant) : Bool := earliest ≤ t ∧ t < horizon

/-- The longest span, in minutes, that can be stated at all. -/
def maxMinutes : Int := 153722867280912

/-- Later by a number of seconds, or earlier. From within a leap second, what is later is counted
from the second before it, and what is earlier from the second after it. -/
def addSeconds (t : Instant) (seconds : Int) : Instant :=
  if seconds = 0 then t
  else
    let leap := if seconds < 0 then t.nano / 1000000000 else 0
    ofSecond (t.second + leap + seconds) (t.nano % 1000000000)

/-- Later by a number of minutes, as long as the result is in a supported year. -/
def addMinutes? (t : Instant) (minutes : Int) : Option Instant :=
  let later := t.addSeconds (60 * minutes)
  if later.isSupported then some later else none

def subDays (t : Instant) (days : Nat) : Instant := t.addSeconds (-(86400 * days))

end Instant

end AccessControl

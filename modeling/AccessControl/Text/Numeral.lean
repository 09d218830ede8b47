import AccessControl.Text.Digits

/-! # Numbers written in decimal -/

namespace AccessControl

/-- How a text fails to be a number. -/
inductive NumeralFault where
  | empty
  | badDigit
  | tooLarge
deriving DecidableEq, Repr

def NumeralFault.message : NumeralFault → String
  | .empty => "cannot parse integer from empty string"
  | .badDigit => "invalid digit found in string"
  | .tooLarge => "number too large to fit in target type"

namespace Text

/-- The number that digits continue, at most `most`. The first fault from the left counts. -/
def digitsUpTo (most : Nat) : Nat → List Char → Except NumeralFault Nat
  | n, [] => .ok n
  | n, c :: cs =>
    match decimalDigit? c with
    | none => .error .badDigit
    | some d => if most < 10 * n + d then .error .tooLarge else digitsUpTo most (10 * n + d) cs

def someDigitsUpTo (most : Nat) : List Char → Except NumeralFault Nat
  | [] => .error .badDigit
  | cs => digitsUpTo most 0 cs

/-- A number from zero up to `most`, with or without a plus sign. -/
def natUpTo (most : Nat) (s : String) : Except NumeralFault Nat :=
  match s.toList with
  | [] => .error .empty
  | '+' :: cs => someDigitsUpTo most cs
  | cs => digitsUpTo most 0 cs

/-- A number of 64 bits with a sign, of which a plus can be left out. -/
def int64? (s : String) : Option Int :=
  match s.toList with
  | '-' :: cs => (someDigitsUpTo (UInt64.size / 2) cs).toOption.map fun n => -(n : Int)
  | _ => (natUpTo (UInt64.size / 2 - 1) s).toOption.map Int.ofNat

/-- A positive number of 64 bits with a sign. -/
def positive? (s : String) : Option Nat :=
  match natUpTo (UInt64.size / 2 - 1) s with
  | .ok n => if 0 < n then some n else none
  | .error _ => none

end Text

end AccessControl

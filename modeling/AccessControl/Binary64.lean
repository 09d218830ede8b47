/-! # Quotients as doubles

A double is held as its bits. The quotient of two numbers is rounded to the nearest double, and a
tie goes to the even one. -/

namespace AccessControl.Binary64

/-- `num / den` rounded to the nearest number, a tie to the even one. -/
def roundDiv (num den : Nat) : Nat :=
  let q := num / den
  let r := num % den
  if 2 * r < den then q
  else if den < 2 * r then q + 1
  else if q % 2 = 0 then q else q + 1

/-- `num / den` times a power of `base`, as a fraction. -/
def scale (base num den : Nat) (e : Int) : Nat × Nat :=
  if 0 ≤ e then (num * Nat.pow base e.toNat, den) else (num, den * Nat.pow base (-e).toNat)

/-- The integer part of the binary logarithm of `num / den`. -/
def logRatio (num den : Nat) : Int :=
  let e : Int := (num.log2 : Int) - den.log2
  let (n, d) := scale 2 num den (-e)
  if d ≤ n then e else e - 1

/-- The mantissa that `num / den` has with the exponent `e`. -/
def mantissa (num den : Nat) (e : Int) : Nat :=
  let (n, d) := scale 2 num den (-e)
  roundDiv n d

/-- The fractions that go with each exponent. -/
def fractions : Nat := 0x10000000000000

def infinity : Nat := 0x7FF * fractions

/-- The bits of the double nearest to `num / den`. The smallest exponent is that of the numbers
below the normal ones; a mantissa that rounds up to the next power of two carries into the
exponent by itself. -/
def ofRatio (num den : Nat) : Nat :=
  if num = 0 ∨ den = 0 then 0
  else
    let e := max (logRatio num den - 52) (-1074)
    min infinity (mantissa num den e + (e + 1074).toNat * fractions)

/-- The number that the bits of a finite double without a sign stand for, as a fraction. -/
def toRatio (bits : Nat) : Nat × Nat :=
  let e := bits / fractions
  let m := bits % fractions
  if e = 0 then scale 2 m 1 (-1074) else scale 2 (m + fractions) 1 ((e : Int) - 1075)

/-- The product of two finite doubles without signs. -/
def product (a b : Nat) : Nat :=
  let (an, ad) := toRatio a
  let (bn, bd) := toRatio b
  ofRatio (an * bn) (ad * bd)

/-- The quotient of two finite doubles without signs. -/
def quotient (a b : Nat) : Nat :=
  let (an, ad) := toRatio a
  let (bn, bd) := toRatio b
  ofRatio (an * bd) (ad * bn)

/-- The quotient of two numbers that are doubles themselves, each rounded first. -/
def div (a b : Nat) : Nat := quotient (ofRatio a 1) (ofRatio b 1)

/-- The double nearest to a power of ten. -/
def powerOfTen (e : Nat) : Nat := ofRatio (Nat.pow 10 e) 1

/-- The largest exponent of ten among the doubles. -/
def maxExponent : Nat := 308

/-- A double times a power of ten, each of them rounded before and after, or none where that is
infinite. A power that is no double is made of several, of which two are enough for zero. -/
def timesPowerOfTen? : Nat → Nat → Int → Option Nat
  | steps, f, e =>
    if e.natAbs ≤ maxExponent then
      if 0 ≤ e then
        let f := product f (powerOfTen e.toNat)
        if f = infinity then none else some f
      else some (quotient f (powerOfTen e.natAbs))
    else if f = 0 then some 0
    else if 0 ≤ e then none
    else match steps with
      | 0 => some 0
      | steps + 1 => timesPowerOfTen? steps (quotient f (powerOfTen maxExponent)) (e + maxExponent)

/-- The double that is read where `m * 10 ^ e` is written, for numbers `m` of 64 bits. -/
def ofScientific? (m : Nat) (e : Int) : Option Nat := timesPowerOfTen? 3 (ofRatio m 1) e

/-- The bit that makes a double negative. -/
def signBit : Nat := 0x8000000000000000

/-- The double nearest to `m * 10 ^ e`, or none where that is infinite. The number `m` has at most
`digits` digits, which tells numbers far too large or too small from the rest. -/
def ofDecimal? (negative : Bool) (m digits : Nat) (e : Int) : Option Nat :=
  let sign := if negative then signBit else 0
  if m = 0 ∨ e + digits < -400 then some sign
  else if 400 < e + digits then none
  else
    let (num, den) := scale 10 m 1 e
    let bits := ofRatio num den
    if bits = infinity then none else some (sign + bits)

/-- The nearest decimal number with `digits` digits to a positive double, as a mantissa and an
exponent of ten. -/
def toDecimal (digits : Nat) (bits : Nat) : Nat × Int :=
  let (num, den) := toRatio bits
  let e : Int := logRatio num den * 30103 / 100000 + 1 - digits
  let (n, d) := scale 10 num den (-e)
  (roundDiv n d, e)

/-- The first of the given numbers of digits that is enough for a positive double to read back. -/
def shortest (bits : Nat) : List Nat → Nat × Int
  | [] => toDecimal 18 bits
  | digits :: more =>
    let (m, e) := toDecimal digits bits
    if ofDecimal? false m (digits + 1) e = some bits then (m, e) else shortest bits more

/-- A mantissa and an exponent of ten that read back as the double. -/
def render (bits : Nat) : String :=
  let sign := if signBit ≤ bits then "-" else ""
  let bits := bits % signBit
  if bits = 0 then sign ++ "0.0"
  else
    let (m, e) := shortest bits ((List.range 17).map (· + 1))
    sign ++ toString m ++ "e" ++ toString e

end AccessControl.Binary64

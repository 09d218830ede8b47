/-! # Digits -/

namespace AccessControl.Text

def decimalDigit? (c : Char) : Option Nat :=
  if '0' ≤ c ∧ c ≤ '9' then some (c.toNat - '0'.toNat) else none

/-- Hexadecimal digits of either case. -/
def hexDigit? (c : Char) : Option Nat :=
  if '0' ≤ c ∧ c ≤ '9' then some (c.toNat - '0'.toNat)
  else if 'a' ≤ c ∧ c ≤ 'f' then some (c.toNat - 'a'.toNat + 10)
  else if 'A' ≤ c ∧ c ≤ 'F' then some (c.toNat - 'A'.toNat + 10)
  else none

/-- The lower-case hexadecimal digit of a number below sixteen. -/
def hexDigit (n : Nat) : Char :=
  if n < 10 then Char.ofNat ('0'.toNat + n) else Char.ofNat ('a'.toNat + (n - 10))

theorem hexDigit?_hexDigit {n : Nat} (h : n < 16) : hexDigit? (hexDigit n) = some n := by
  have all : ∀ n < 16, hexDigit? (hexDigit n) = some n := by decide
  exact all n h

/-- The number that a list of digits writes, most significant digit first. -/
def ofDigits (base : Nat) (ds : List Nat) : Nat := ds.foldl (fun n d => base * n + d) 0

/-- The `width` lowest digits of a number, most significant digit first. -/
def toDigits (base : Nat) : Nat → Nat → List Nat
  | 0, _ => []
  | width + 1, n => toDigits base width (n / base) ++ [n % base]

@[simp] theorem length_toDigits (base width n : Nat) : (toDigits base width n).length = width := by
  induction width generalizing n with
  | zero => rfl
  | succ width ih => simp [toDigits, ih]

theorem lt_of_mem_toDigits {base width n d : Nat} (hb : 0 < base)
    (h : d ∈ toDigits base width n) : d < base := by
  induction width generalizing n with
  | zero => simp [toDigits] at h
  | succ width ih =>
    rcases List.mem_append.mp h with h | h
    · exact ih h
    · rw [List.mem_singleton.mp h]
      exact Nat.mod_lt _ hb

theorem ofDigits_toDigits {base : Nat} (width : Nat) {n : Nat} (h : n < Nat.pow base width) :
    ofDigits base (toDigits base width n) = n := by
  induction width generalizing n with
  | zero =>
    have : n = 0 := by simpa using h
    simp [toDigits, ofDigits, this]
  | succ width ih =>
    have hdiv : n / base < Nat.pow base width :=
      Nat.div_lt_of_lt_mul (Nat.lt_of_lt_of_eq h Nat.pow_succ')
    have hrec := ih hdiv
    rw [ofDigits] at hrec
    rw [toDigits, ofDigits, List.foldl_append, hrec]
    exact Nat.div_add_mod n base

/-- The decimal number in front of a text, of one to `most` digits, and what follows it. -/
def takeNumber? (most : Nat) (cs : List Char) : Option (Nat × List Char) :=
  let ds := (cs.take most).takeWhile fun c => (decimalDigit? c).isSome
  if ds.isEmpty then none
  else some (ofDigits 10 (ds.filterMap decimalDigit?), cs.drop ds.length)

/-- A number written with decimal digits only. -/
def ofDecimal? (cs : List Char) : Option Nat :=
  if cs.isEmpty then none else (cs.mapM decimalDigit?).map (ofDigits 10)

/-- A number in decimal, with zeros in front up to the width. -/
def padded (width n : Nat) : String :=
  let s := toString n
  String.ofList (List.replicate (width - s.length) '0') ++ s

end AccessControl.Text

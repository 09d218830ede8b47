import AccessControl.Binary64
import AccessControl.Json.Outline
import AccessControl.Text.Digits

/-! # Reading JSON

Readers take a list of characters and return the rest, or none where the text breaks off. The text
is taken apart as far as it goes; what does not stand for a value is left to whoever uses the
outline. The loops over characters and items, and how deep they are nested, are bounded by the
length of the text, of which each round takes at least one character. -/

namespace AccessControl.Json

namespace Read

open AccessControl.Text

abbrev Reader (α : Type) := List Char → α × Option (List Char)

/-- A bound for the loops, more than the length of the text. -/
abbrev Bound := Nat

def isSpace (c : Char) : Bool := c = ' ' || c = '\t' || c = '\n' || c = '\r'

def skipSpace (cs : List Char) : List Char := cs.dropWhile isSpace

/-! ## Strings -/

/-- The four hexadecimal digits of an escape. -/
def codeUnit? : List Char → Option (Nat × List Char)
  | a :: b :: c :: d :: rest => do
    return (ofDigits 16 [← hexDigit? a, ← hexDigit? b, ← hexDigit? c, ← hexDigit? d], rest)
  | _ => none

def isHighSurrogate (n : Nat) : Bool := 0xD800 ≤ n && n < 0xDC00

def isLowSurrogate (n : Nat) : Bool := 0xDC00 ≤ n && n < 0xE000

/-- The second half of a pair of surrogates, as an escape. -/
def lowSurrogate? : List Char → Option (Nat × List Char)
  | '\\' :: 'u' :: rest => do
    let (low, rest) ← codeUnit? rest
    if isLowSurrogate low then some (low, rest) else none
  | _ => none

/-- The character of an escape, after the backslash and the `u`. Characters beyond the first plane
are written as a pair of surrogates, and one surrogate by itself is no character. -/
def escapedCodePoint? (cs : List Char) : Option (Option Char × List Char) := do
  let (unit, rest) ← codeUnit? cs
  if isHighSurrogate unit then
    match lowSurrogate? rest with
    | some (low, rest) =>
      return (some (Char.ofNat (0x10000 + (unit - 0xD800) * 0x400 + (low - 0xDC00))), rest)
    | none => return (none, rest)
  else if isLowSurrogate unit then return (none, rest)
  else return (some (Char.ofNat unit), rest)

/-- One character between quotation marks. -/
def stringChar? : List Char → Option (Option Char × List Char)
  | '\\' :: '"' :: rest => some (some '"', rest)
  | '\\' :: '\\' :: rest => some (some '\\', rest)
  | '\\' :: '/' :: rest => some (some '/', rest)
  | '\\' :: 'b' :: rest => some (some (Char.ofNat 8), rest)
  | '\\' :: 'f' :: rest => some (some (Char.ofNat 12), rest)
  | '\\' :: 'n' :: rest => some (some '\n', rest)
  | '\\' :: 'r' :: rest => some (some '\r', rest)
  | '\\' :: 't' :: rest => some (some '\t', rest)
  | '\\' :: 'u' :: rest => escapedCodePoint? rest
  | '\\' :: _ => none
  | c :: rest => if c.toNat < 0x20 then none else some (some c, rest)
  | [] => none

/-- The characters up to the closing quotation mark. -/
def stringBody? : Nat → List (Option Char) → List Char → Option (List (Option Char) × List Char)
  | 0, _, _ => none
  | _ + 1, done, '"' :: rest => some (done.reverse, rest)
  | fuel + 1, done, cs => do
    let (c, rest) ← stringChar? cs
    stringBody? fuel (c :: done) rest

/-- A string, after its opening quotation mark. With a surrogate by itself it has no text. -/
def string? (bound : Bound) (cs : List Char) : Option (Option String × List Char) := do
  let (body, rest) ← stringBody? bound [] cs
  return ((body.mapM id).map String.ofList, rest)

/-! ## Numbers -/

def spanDigits (cs : List Char) : List Nat × List Char :=
  ((cs.takeWhile Char.isDigit).filterMap decimalDigit?, cs.dropWhile Char.isDigit)

/-- The parts of a number without its sign. -/
structure NumberParts where
  whole : List Nat
  fraction : Option (List Nat)
  exponent : Option Int

/-- The digits in front of a fraction: one zero, or any number of digits after another first. -/
def wholePart? (cs : List Char) : Option (List Nat × List Char) :=
  match spanDigits cs with
  | ([], _) => none
  | (0 :: _ :: _, _) => none
  | whole => some whole

def fractionPart? : List Char → Option (Option (List Nat) × List Char)
  | '.' :: rest =>
    match spanDigits rest with
    | ([], _) => none
    | (ds, rest) => some (some ds, rest)
  | rest => some (none, rest)

def exponentPart? : List Char → Option (Option Int × List Char)
  | c :: rest =>
    if c = 'e' ∨ c = 'E' then
      let (negative, rest) := match rest with
        | '-' :: rest => (true, rest)
        | '+' :: rest => (false, rest)
        | rest => (false, rest)
      match spanDigits rest with
      | ([], _) => none
      | (ds, rest) =>
        let n : Int := ofDigits 10 ds
        some (some (if negative then -n else n), rest)
    else some (none, c :: rest)
  | [] => some (none, [])

def numberParts? (cs : List Char) : Option (NumberParts × List Char) := do
  let (whole, rest) ← wholePart? cs
  let (fraction, rest) ← fractionPart? rest
  let (exponent, rest) ← exponentPart? rest
  return (⟨whole, fraction, exponent⟩, rest)

/-- A number that digits continue as long as it fits into 64 bits, and the digits that do not. -/
def takeFitting : Nat → List Nat → Nat × List Nat
  | n, [] => (n, [])
  | n, d :: ds => if 10 * n + d < UInt64.size then takeFitting (10 * n + d) ds else (n, d :: ds)

namespace NumberParts

/-- The double that is read. Of digits that do not fit into 64 bits only those before the point
count, and each for a power of ten. -/
def double? (p : NumberParts) : Option Nat :=
  let (m, beyond) := takeFitting 0 p.whole
  let fraction := p.fraction.getD []
  let (m, ignored) := takeFitting m fraction
  let exponent := p.exponent.getD 0
  Binary64.ofScientific? m (beyond.length - (fraction.length - ignored.length) + exponent)

/-- Integers beyond 64 bits and a negative zero are doubles, and a number beyond all doubles is
none. -/
def toNumber? (p : NumberParts) (negative : Bool) : Option Number :=
  let n := ofDigits 10 p.whole
  let isInteger := p.fraction.isNone && p.exponent.isNone
  if isInteger && !negative && n < UInt64.size then some (.integer n)
  else if isInteger && negative && n ≤ UInt64.size / 2 && n ≠ 0 then some (.integer (-n))
  else p.double?.map fun bits => .double (if negative then bits + Binary64.signBit else bits)

end NumberParts

def number? (cs : List Char) : Option (Option Number × List Char) :=
  match cs with
  | '-' :: rest => (numberParts? rest).map fun (p, rest) => (p.toNumber? true, rest)
  | cs => (numberParts? cs).map fun (p, rest) => (p.toNumber? false, rest)

/-! ## Values -/

/-- The items of an array after its first value, up to the closing bracket. -/
def items (inner : Reader Outline) : Nat → List Outline → Reader (List Outline)
  | 0, done, _ => (done.reverse, none)
  | fuel + 1, done, cs =>
    match skipSpace cs with
    | ']' :: rest => (done.reverse, some rest)
    | ',' :: rest =>
      match inner (skipSpace rest) with
      | (o, some rest) => items inner fuel (o :: done) rest
      | (o, none) => ((o :: done).reverse, none)
    | _ => (done.reverse, none)

def array (bound : Bound) (inner : Reader Outline) : Reader (List Outline) := fun cs =>
  match skipSpace cs with
  | ']' :: rest => ([], some rest)
  | cs =>
    match inner cs with
    | (o, some rest) => items inner bound [o] rest
    | (o, none) => ([o], none)

/-- A name and its value, if there is as much as a name. -/
def member (bound : Bound) (inner : Reader Outline) : Reader (Option (Option String × Outline))
  | '"' :: cs =>
    match string? bound cs with
    | none => (none, none)
    | some (name, rest) =>
      match skipSpace rest with
      | ':' :: rest =>
        let (o, rest) := inner (skipSpace rest)
        (some (name, o), rest)
      | _ => (some (name, .broken), none)
  | _ => (none, none)

/-- The members of an object after its first, up to the closing brace. -/
def members (bound : Bound) (inner : Reader Outline) : Nat → List (Option String × Outline) →
    Reader (List (Option String × Outline))
  | 0, done, _ => (done.reverse, none)
  | fuel + 1, done, cs =>
    match skipSpace cs with
    | '}' :: rest => (done.reverse, some rest)
    | ',' :: rest =>
      match member bound inner (skipSpace rest) with
      | (some m, some rest) => members bound inner fuel (m :: done) rest
      | (m, _) => ((m.toList ++ done).reverse, none)
    | _ => (done.reverse, none)

def object (bound : Bound) (inner : Reader Outline) :
    Reader (List (Option String × Outline)) := fun cs =>
  match skipSpace cs with
  | '}' :: rest => ([], some rest)
  | cs =>
    match member bound inner cs with
    | (some m, some rest) => members bound inner bound [m] rest
    | (m, _) => (m.toList, none)

/-- A container that is nested too deep is no value, but has to be written well. -/
def nested (tooDeep : Bool) (o : Outline) : Outline :=
  if !tooDeep then o else if o.isWhole then .beyond else .broken

/-- What is in front of a text, if it is there, and the outline for it. -/
def scalar {α : Type} (make : α → Outline) :
    Option (Option α × List Char) → Outline × Option (List Char)
  | none => (.broken, none)
  | some (none, rest) => (.beyond, some rest)
  | some (some a, rest) => (make a, some rest)

/-- A value whose containers are read by `inner`; blanks in front of it are skipped already. -/
def valueWith (bound : Bound) (inner : Reader Outline) (tooDeep : Bool) : Reader Outline
  | 'n' :: 'u' :: 'l' :: 'l' :: rest => (.null, some rest)
  | 't' :: 'r' :: 'u' :: 'e' :: rest => (.bool true, some rest)
  | 'f' :: 'a' :: 'l' :: 's' :: 'e' :: rest => (.bool false, some rest)
  | '"' :: rest => scalar .string (string? bound rest)
  | '[' :: rest =>
    let (items, rest) := array bound inner rest
    (nested tooDeep (.array items rest.isSome), rest)
  | '{' :: rest =>
    let (members, rest) := object bound inner rest
    (nested tooDeep (.object members rest.isSome), rest)
  | cs => scalar .number (number? cs)

/-- A value. Containers inside each other are values as long as there is room for them. -/
def value (bound : Bound) : Nat → Nat → Reader Outline
  | 0, _, _ => (.broken, none)
  | fuel + 1, room, cs => valueWith bound (value bound fuel (room - 1)) (room = 0) cs

/-- How many containers a value may have inside each other. -/
def maxDepth : Nat := 127

/-- The outline of what is in front of a text, blanks before it skipped. -/
def first : Reader Outline := fun cs =>
  let bound := cs.length + 1
  value bound bound maxDepth (skipSpace cs)

end Read

/-- The outline of a text, and whether nothing but blanks follows it. -/
def read (s : String) : Outline × Bool :=
  match Read.first s.toList with
  | (o, some rest) => (o, (Read.skipSpace rest).isEmpty)
  | (o, none) => (o, false)

/-- A text that is one value and blanks around it. -/
def parse? (s : String) : Option Json :=
  match read s with
  | (o, true) => o.toJson?
  | (_, false) => none

end AccessControl.Json

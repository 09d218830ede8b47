import AccessControl.Text.Split

/-! # Media types

A media type is a type and a subtype, of which the part after the last plus sign is its suffix.
Parameters may follow. They do not matter here, but a type with misshapen parameters is none. -/

namespace AccessControl.Http

structure MediaType where
  type : String
  subtype : String
  suffix : Option String := none
deriving DecidableEq, Repr

namespace MediaType

def isTokenChar (c : Char) : Bool := c.isAlphanum || "!#$%&'*+-.^_`|~".toList.contains c

def isQuotable (c : Char) : Bool := 0x20 ≤ c.toNat && c.toNat ≠ 0x7F

/-- What follows the semicolon after a value, or nothing at the end. -/
def afterValue? : List Char → Option (List Char)
  | [] => some []
  | ';' :: rest => some rest
  | _ => none

/-- What follows a value in quotation marks. There is at least one character in it, which may be a
quotation mark itself. -/
def afterQuoted? : List Char → Option (List Char)
  | [] => none
  | c :: rest => do
    let (value, rest) ← Text.splitFirst? '"' rest
    if isQuotable c && value.all isQuotable then afterValue? (rest.dropWhile (· = ' ')) else none

/-- What follows a value, which is not left out before a semicolon. -/
def afterPlain? (cs : List Char) : Option (List Char) :=
  match cs.takeWhile isTokenChar, cs.dropWhile isTokenChar with
  | [], ';' :: _ => none
  | _, rest => afterValue? rest

/-- What follows a parameter. -/
def afterParameter? (cs : List Char) : Option (List Char) :=
  match cs.takeWhile isTokenChar, cs.dropWhile isTokenChar with
  | _ :: _, '=' :: '"' :: rest => afterQuoted? rest
  | _ :: _, '=' :: rest => afterPlain? rest
  | _, _ => none

/-- Any number of parameters, each read from what the one before it leaves. -/
def areParameters : Nat → List Char → Bool
  | 0, cs => cs.isEmpty
  | fuel + 1, cs =>
    match cs.dropWhile (· = ' ') with
    | [] => true
    | cs => (afterParameter? cs).any (areParameters fuel)

/-- A subtype with its suffix. A plus sign in front belongs to the subtype. -/
def splitSuffix (type : String) (subtype : List Char) : MediaType :=
  match Text.splitLast? '+' subtype with
  | some (front@(_ :: _), suffix) =>
    { type, subtype := String.ofList front, suffix := some (String.ofList suffix) }
  | _ => { type, subtype := String.ofList subtype }

/-- Upper and lower case are the same. -/
def parse? (s : String) : Option MediaType := do
  let (type, rest) ← Text.splitFirst? '/' (s.toList.map Char.toLower)
  let subtype := rest.takeWhile isTokenChar
  let parameters ← afterValue? (rest.dropWhile isTokenChar)
  if type.isEmpty || !type.all isTokenChar || subtype.isEmpty then none
  else if areParameters (parameters.length + 1) parameters then
    some (splitSuffix (String.ofList type) subtype)
  else none

/-- JSON, or a format built on it. -/
def isJson (m : MediaType) : Bool :=
  m.type = "application" && (m.subtype = "json" || m.suffix = some "json")

end MediaType

end AccessControl.Http

import AccessControl.Net.Address
import AccessControl.Text.Split

/-! # Addresses of resources

An address is a scheme and what the scheme makes of the rest: a server behind two slashes, a path, a
query. Main rule: a path is taken apart at its slashes, and of its pieces one dot stands for the
place itself and two dots for the place above. -/

namespace AccessControl

inductive Url.Host where
  | name (s : String)
  | v6 (groups : List Nat)
deriving DecidableEq, Repr

structure Url where
  scheme : String
  /-- A name and a password for the server, as they are written. -/
  user : List Char := []
  host : Option Url.Host := none
  path : List Char
  query : List Char := []
deriving DecidableEq, Repr

namespace Url

open AccessControl.Text

def isEdge (c : Char) : Bool := c.toNat ≤ 0x20

def isBreak (c : Char) : Bool := c = '\t' || c = '\n' || c = '\r'

/-- The address without control characters and blanks around it and without line breaks. -/
def clean (s : String) : List Char :=
  ((s.toList.dropWhile isEdge).reverse.dropWhile isEdge).reverse.filter fun c => !isBreak c

def isSchemeChar (c : Char) : Bool := c.isAlphanum || c = '+' || c = '-' || c = '.'

/-- The scheme in lower case, and what follows it. -/
def scheme? (cs : List Char) : Option (String × List Char) := do
  let (scheme, rest) ← splitFirst? ':' cs
  if (scheme.head?.any Char.isAlpha) ∧ scheme.all isSchemeChar then
    some (String.ofList (scheme.map Char.toLower), rest)
  else none

/-! ## Paths -/

/-- A piece in which a dot may be written by its code. -/
def isDots (n : Nat) : List Char → Bool
  | [] => n = 0
  | '.' :: cs => 0 < n && isDots (n - 1) cs
  | '%' :: '2' :: e :: cs => (e = 'e' || e = 'E') && 0 < n && isDots (n - 1) cs
  | _ => false

/-- A letter for a drive, below which nothing is left. -/
def isDrive : List Char → Bool
  | c :: d :: rest => c.isAlpha && (d = ':' || d = '|') && (rest.head?.all (· = '\\'))
  | _ => false

/-- The place above, of the pieces from the last to the first. -/
def above : List (List Char) → List (List Char)
  | [] => []
  | piece :: pieces => if isDrive piece then piece :: pieces else pieces

/-- The pieces of a path, each with a slash in front, after those that are passed already. -/
def resolve (passed : List (List Char)) : List (List Char) → List (List Char)
  | [] => passed.reverse
  | [piece] =>
    if isDots 1 piece then ([] :: passed).reverse
    else if isDots 2 piece then ([] :: above passed).reverse
    else (piece :: passed).reverse
  | piece :: pieces =>
    if isDots 1 piece then resolve passed pieces
    else if isDots 2 piece then resolve (above passed) pieces
    else resolve (piece :: passed) pieces

/-- A path from the root, with a slash in front. -/
def rooted (cs : List Char) : List Char :=
  (resolve [] (splitAll '/' cs)).flatMap fun piece => '/' :: piece

/-! ## Servers -/

def isEnd (c : Char) : Bool := c = '/' || c = '?' || c = '#'

/-- A character that no host holds. -/
def isForbidden (c : Char) : Bool :=
  "\x00\t\n\r #/:<>?@[\\]^|".toList.contains c

/-- What stands before a colon outside of brackets. -/
def takeHost (bracketed : Bool) : List Char → List Char
  | [] => []
  | c :: cs =>
    if isEnd c || (c = ':' && !bracketed) then []
    else c :: takeHost (c = '[' || (bracketed && c ≠ ']')) cs

def host? : List Char → Option Host
  | '[' :: cs =>
    match splitLast? ']' cs with
    | some (inner, []) =>
      match IpAddress.v6? inner with
      | some (groups, []) => some (.v6 groups)
      | _ => none
    | _ => none
  | cs => if cs.any isForbidden then none else some (.name (String.ofList cs))

/-- What follows a port, which may be left out. -/
def afterPort? : List Char → Option (List Char)
  | ':' :: cs =>
    let digits := cs.takeWhile Char.isDigit
    let rest := cs.dropWhile Char.isDigit
    if (digits.isEmpty || (ofDecimal? digits).any (· ≤ 65535))
        && rest.head?.all (fun c => isEnd c || c = '\\') then some rest
    else none
  | cs => some cs

/-- The name and the password before the last at sign in front of a path, and what follows them. -/
def splitUser (cs : List Char) : Option (List Char) × List Char :=
  let server := cs.takeWhile fun c => !isEnd c
  match splitLast? '@' server with
  | some (user, host) => (some user, host ++ cs.drop server.length)
  | none => (none, cs)

/-- A server and what follows it. Nobody can be named, nor a port, where there is no host. -/
def server? (cs : List Char) : Option (List Char × Option Host × List Char) := do
  let (user, rest) := splitUser cs
  let host := takeHost false rest
  let rest := rest.drop host.length
  if host.isEmpty then
    let isNamed := match user with
      | none | some [':'] => false
      | some [] => !rest.isEmpty
      | some _ => true
    if isNamed || rest.head? = some ':' then none else some ([], none, rest)
  else return (user.getD [], some (← host? host), ← afterPort? rest)

/-! ## Addresses -/

/-- What follows the path. -/
def queryOf (cs : List Char) : List Char :=
  match cs with
  | '?' :: query => query.takeWhile (· ≠ '#')
  | _ => []

def isPathEnd (c : Char) : Bool := c = '?' || c = '#'

/-- The address behind a scheme. -/
def behind? (scheme : String) (cs : List Char) : Option Url :=
  match cs with
  | '/' :: '/' :: cs => do
    let (user, host, cs) ← server? cs
    let path := cs.takeWhile fun c => !isPathEnd c
    let path := match path with
      | [] => []
      | '/' :: path => rooted path
      | path => rooted path
    return { scheme, user, host, path, query := queryOf (cs.dropWhile fun c => !isPathEnd c) }
  | cs =>
    let path := match cs.takeWhile fun c => !isPathEnd c with
      | '/' :: path => rooted path
      | path => path
    some { scheme, path, query := queryOf (cs.dropWhile fun c => !isPathEnd c) }

def parse? (s : String) : Option Url := do
  let (scheme, rest) ← scheme? (clean s)
  behind? scheme rest

end Url

end AccessControl

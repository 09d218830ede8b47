import AccessControl.Text.Split

/-! # Targets of requests

A request is for a path, and may say in a query what it wants there. Its target may also tell in
front of the path which server is meant, and how it is reached. -/

namespace AccessControl.Http

/-- Path and query as they are sent. -/
structure RequestTarget where
  path : List Char
  query : List Char := []
deriving DecidableEq, Repr

namespace RequestTarget

/-! ## Paths and queries -/

def isPathChar (c : Char) : Bool := 0x21 ≤ c.toNat && !"#<>?`".toList.contains c

def isQueryChar (c : Char) : Bool := 0x21 ≤ c.toNat && !"\"#<>".toList.contains c

/-- What follows a number sign belongs to neither of them, and whether there is a path at all. -/
def pathAndQuery? (cs : List Char) : Option RequestTarget :=
  let sent := cs.takeWhile (· ≠ '#')
  let (path, query) := (Text.splitFirst? '?' sent).getD (sent, [])
  if path.all isPathChar && query.all isQueryChar then some { path, query } else none

/-! ## Servers -/

def isSchemeChar (c : Char) : Bool := c.isAlphanum || "+-.~".toList.contains c

def maxSchemeLength : Nat := 64

/-- What follows a scheme, a colon and two slashes. -/
def afterScheme? (cs : List Char) : Option (List Char) :=
  let scheme := cs.takeWhile isSchemeChar
  match cs.dropWhile isSchemeChar with
  | ':' :: '/' :: '/' :: rest => if scheme.length ≤ maxSchemeLength then some rest else none
  | _ => none

/-- A character without a meaning of its own. -/
def isPlainChar (c : Char) : Bool := c.isAlphanum || "!$&'()*+,-.;=_~".toList.contains c

def endsServer (c : Char) : Bool := c = '/' || c = '?' || c = '#'

/-- What matters of a server that is read up to some place. -/
structure ServerPrefix where
  /-- The colons after the last at sign and the last closing bracket. -/
  colons : Nat := 0
  /-- There is a percent sign after them. -/
  hasPercent : Bool := false
  opened : Bool := false
  closed : Bool := false
  endsInAt : Bool := false

namespace ServerPrefix

/-- As many colons as there can be in brackets, and one more. -/
def maxColons : Nat := 8

def next? (s : ServerPrefix) (c : Char) : Option ServerPrefix :=
  let s := { s with endsInAt := c = '@' }
  match c with
  | ':' => if maxColons ≤ s.colons then none else some { s with colons := s.colons + 1 }
  | '[' => if s.hasPercent || s.opened then none else some { s with opened := true }
  | ']' =>
    if !s.opened || s.closed then none
    else some { s with closed := true, colons := 0, hasPercent := false }
  | '@' => some { s with colons := 0, hasPercent := false }
  | '%' => some { s with hasPercent := true }
  | c => if isPlainChar c then some s else none

/-- Brackets are closed, and one colon at most is left, for the port. -/
def isServer (s : ServerPrefix) : Bool :=
  s.opened = s.closed && s.colons ≤ 1 && !s.hasPercent && !s.endsInAt

end ServerPrefix

/-- A host, with a name and a password in front of it or a port behind it, if at all. -/
def isServer (cs : List Char) : Bool :=
  (cs.foldlM ServerPrefix.next? {}).any ServerPrefix.isServer

/-- The target after a server. -/
def afterServer? (cs : List Char) : Option RequestTarget := do
  let server := cs.takeWhile fun c => !endsServer c
  let t ← pathAndQuery? (cs.dropWhile fun c => !endsServer c)
  if server.isEmpty || !isServer server then none
  else some { t with path := if t.path.isEmpty then ['/'] else t.path }

/-! ## Targets -/

/-- A longer target is not looked at. -/
def maxSize : Nat := 65534

def ofChars? (cs : List Char) : Option RequestTarget :=
  match cs with
  | [] => none
  | '/' :: _ => pathAndQuery? cs
  | ['*'] => some { path := ['*'] }
  | cs =>
    match afterScheme? cs with
    | some rest => afterServer? rest
    | none => if isServer cs then some { path := [] } else none

def parse? (s : String) : Option RequestTarget :=
  if maxSize < s.utf8ByteSize then none else ofChars? s.toList

end RequestTarget

end AccessControl.Http

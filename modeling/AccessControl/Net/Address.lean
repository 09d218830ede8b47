import AccessControl.Text.Digits

/-! # Internet addresses and their written forms -/

namespace AccessControl

inductive IpAddress where
  | v4 (a b c d : Nat)
  /-- Eight groups of sixteen bits. -/
  | v6 (groups : List Nat)
deriving DecidableEq, Repr

structure SocketAddress where
  host : IpAddress
  port : Nat
deriving DecidableEq, Repr

namespace IpAddress

open AccessControl.Text

/-! ## Reading -/

/-- A number below 256 without zeros in front. -/
def octet? (cs : List Char) : Option (Nat × List Char) := do
  let (n, rest) ← takeNumber? 3 cs
  if 255 < n ∨ (toString n).length ≠ cs.length - rest.length then none else some (n, rest)

def after? (c : Char) : List Char → Option (List Char)
  | d :: rest => if d = c then some rest else none
  | [] => none

/-- Four octets with dots between them. -/
def dotted? (cs : List Char) : Option ((Nat × Nat × Nat × Nat) × List Char) := do
  let (a, cs) ← octet? cs
  let (b, cs) ← after? '.' cs >>= octet?
  let (c, cs) ← after? '.' cs >>= octet?
  let (d, cs) ← after? '.' cs >>= octet?
  return ((a, b, c, d), cs)

/-- Up to four hexadecimal digits. -/
def group? (cs : List Char) : Option (Nat × List Char) :=
  let ds := (cs.take 4).takeWhile fun c => (hexDigit? c).isSome
  if ds.isEmpty then none else some (ofDigits 16 (ds.filterMap hexDigit?), cs.drop ds.length)

/-- At most `most` groups with colons between them. The last two can be written as octets, and
nothing follows those. Tells whether they are. -/
def groups (first : Bool) : Nat → List Char → List Nat × Bool × List Char
  | 0, cs => ([], false, cs)
  | most + 1, cs =>
    match (if first then some cs else after? ':' cs) with
    | none => ([], false, cs)
    | some own =>
      match (if most = 0 then none else dotted? own) with
      | some ((a, b, c, d), rest) => ([256 * a + b, 256 * c + d], true, rest)
      | none =>
        match group? own with
        | none => ([], false, cs)
        | some (g, rest) =>
          let (gs, isDotted, rest) := groups false most rest
          (g :: gs, isDotted, rest)

/-- Eight groups, or fewer with two colons in the place of at least one group of zero. -/
def v6? (cs : List Char) : Option (List Nat × List Char) :=
  match groups true 8 cs with
  | (front, isDotted, rest) =>
    if front.length = 8 then some (front, rest)
    else if isDotted then none
    else
      match rest with
      | ':' :: ':' :: rest =>
        let (back, _, rest) := groups true (7 - front.length) rest
        some (front ++ List.replicate (8 - front.length - back.length) 0 ++ back, rest)
      | _ => none

def parse? (s : String) : Option IpAddress :=
  match dotted? s.toList with
  | some ((a, b, c, d), []) => some (.v4 a b c d)
  | _ =>
    match v6? s.toList with
    | some (gs, []) => some (.v6 gs)
    | _ => none

/-! ## Writing -/

def dottedText (a b c d : Nat) : String := ".".intercalate ([a, b, c, d].map toString)

/-- Hexadecimal without zeros in front. -/
def groupText (g : Nat) : String :=
  let ds := (toDigits 16 4 g).dropWhile (· = 0)
  String.ofList ((if ds.isEmpty then [0] else ds).map hexDigit)

def groupsText (gs : List Nat) : String := ":".intercalate (gs.map groupText)

/-- How many zeros a list begins with. -/
def leadingZeros (gs : List Nat) : Nat := (gs.takeWhile (· = 0)).length

/-- The first of the longest runs of zeros, as its place and its length. -/
def longestZeros (gs : List Nat) : Nat × Nat :=
  (List.range gs.length).foldl
    (fun best i =>
      let zeros := leadingZeros (gs.drop i)
      if best.2 < zeros then (i, zeros) else best)
    (0, 0)

def v6Text (gs : List Nat) : String :=
  match gs with
  | [0, 0, 0, 0, 0, 0xFFFF, g, h] => "::ffff:" ++ dottedText (g / 256) (g % 256) (h / 256) (h % 256)
  | gs =>
    let (start, length) := longestZeros gs
    if length < 2 then groupsText gs
    else groupsText (gs.take start) ++ "::" ++ groupsText (gs.drop (start + length))

def toString : IpAddress → String
  | v4 a b c d => dottedText a b c d
  | v6 gs => v6Text gs

end IpAddress

def SocketAddress.toString (a : SocketAddress) : String :=
  match a.host with
  | .v4 .. => s!"{a.host.toString}:{a.port}"
  | .v6 _ => s!"[{a.host.toString}]:{a.port}"

end AccessControl

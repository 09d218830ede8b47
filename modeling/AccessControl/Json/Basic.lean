/-! # JSON values -/

namespace AccessControl

/-- An integer, or the bits of a double. -/
inductive Json.Number where
  | integer (value : Int)
  | double (bits : Nat)
deriving DecidableEq, Repr

/-- Members keep the order in which they are written. -/
inductive Json where
  | null
  | bool (value : Bool)
  | number (value : Json.Number)
  | string (value : String)
  | array (items : List Json)
  | object (members : List (String × Json))
deriving Repr, Inhabited

namespace Json

abbrev integer (value : Int) : Json := .number (.integer value)

def ofNat (n : Nat) : Json := integer n

def ofOption {α : Type} (write : α → Json) : Option α → Json
  | none => .null
  | some a => write a

def ofList {α : Type} (write : α → Json) (items : List α) : Json := .array (items.map write)

def ofTexts (items : List String) : Json := ofList .string items

def isNull : Json → Bool
  | .null => true
  | _ => false

/-- The member of an object, the last one where a name is repeated. -/
def get? (name : String) : Json → Option Json
  | .object members => members.reverse.lookup name
  | _ => none

end Json

end AccessControl

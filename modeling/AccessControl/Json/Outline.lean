import AccessControl.Json.Basic

/-! # Outlines of values

A text is taken apart before it is known what is expected of it, and however much of it can be made
out. What comes of it is an outline, which may break off. Main statement: the outline of a value
holds all of it. -/

namespace AccessControl.Json

inductive Outline where
  | null
  | bool (value : Bool)
  | number (value : Number)
  | string (value : String)
  /-- Incomplete where the text breaks off, or goes on with something else. -/
  | array (items : List Outline) (complete : Bool)
  /-- A name is missing where it is no text. -/
  | object (members : List (Option String × Outline)) (complete : Bool)
  /-- Something written well that is no value: a number beyond all doubles, a string with half of a
  pair of surrogates, containers nested too deep. -/
  | beyond
  | broken
deriving Repr, Inhabited

mutual

/-- The outline of a value. -/
def outline : Json → Outline
  | .null => .null
  | .bool b => .bool b
  | .number n => .number n
  | .string s => .string s
  | .array items => .array (outlineItems items) true
  | .object members => .object (outlineMembers members) true

def outlineItems : List Json → List Outline
  | [] => []
  | j :: rest => j.outline :: outlineItems rest

def outlineMembers : List (String × Json) → List (Option String × Outline)
  | [] => []
  | (name, j) :: rest => (some name, j.outline) :: outlineMembers rest

end

namespace Outline

mutual

/-- The value, if the outline is of one. -/
def toJson? : Outline → Option Json
  | .null => some .null
  | .bool b => some (.bool b)
  | .number n => some (.number n)
  | .string s => some (.string s)
  | .array items complete =>
    if complete then (toItems? items).map .array else none
  | .object members complete =>
    if complete then (toMembers? members).map .object else none
  | .beyond | .broken => none

def toItems? : List Outline → Option (List Json)
  | [] => some []
  | o :: rest => do return (← o.toJson?) :: (← toItems? rest)

def toMembers? : List (Option String × Outline) → Option (List (String × Json))
  | [] => some []
  | (name, o) :: rest => do return (← name, ← o.toJson?) :: (← toMembers? rest)

end

mutual

/-- Nothing of it is broken, whether it is a value or not. -/
def isWhole : Outline → Bool
  | .array items complete => complete && allWhole items
  | .object members complete => complete && allMembersWhole members
  | .broken => false
  | _ => true

def allWhole : List Outline → Bool
  | [] => true
  | o :: rest => o.isWhole && allWhole rest

def allMembersWhole : List (Option String × Outline) → Bool
  | [] => true
  | (_, o) :: rest => o.isWhole && allMembersWhole rest

end

end Outline

mutual

@[simp] theorem toJson?_outline : (j : Json) → j.outline.toJson? = some j
  | .null | .bool _ | .number _ | .string _ => rfl
  | .array items => by simp [outline, Outline.toJson?, toItems?_outlineItems items]
  | .object members => by simp [outline, Outline.toJson?, toMembers?_outlineMembers members]

@[simp] theorem toItems?_outlineItems :
    (items : List Json) → Outline.toItems? (outlineItems items) = some items
  | [] => rfl
  | j :: rest => by
    simp [outlineItems, Outline.toItems?, toJson?_outline j, toItems?_outlineItems rest]

@[simp] theorem toMembers?_outlineMembers : (members : List (String × Json)) →
    Outline.toMembers? (outlineMembers members) = some members
  | [] => rfl
  | (_, j) :: rest => by
    simp [outlineMembers, Outline.toMembers?, toJson?_outline j, toMembers?_outlineMembers rest]

end

end AccessControl.Json

import AccessControl.Binary64
import AccessControl.Json.Basic
import AccessControl.Text.Digits

/-! # Writing JSON -/

namespace AccessControl.Json

open AccessControl.Text

/-- A character as it stands between quotation marks. -/
def escape (c : Char) : List Char :=
  if c = '"' then ['\\', '"']
  else if c = '\\' then ['\\', '\\']
  else if c = '\n' then ['\\', 'n']
  else if c = '\r' then ['\\', 'r']
  else if c = '\t' then ['\\', 't']
  else if c.toNat < 0x20 then
    ['\\', 'u', '0', '0', hexDigit (c.toNat / 16), hexDigit (c.toNat % 16)]
  else [c]

def quote (s : String) : String :=
  "\"" ++ String.ofList (s.toList.flatMap escape) ++ "\""

def Number.render : Number → String
  | .integer n => toString n
  | .double bits => Binary64.render bits

mutual

/-- One line, without blanks between the tokens. -/
def render : Json → String
  | .null => "null"
  | .bool b => if b then "true" else "false"
  | .number n => n.render
  | .string s => quote s
  | .array items => "[" ++ renderItems items ++ "]"
  | .object members => "\x7b" ++ renderMembers members ++ "\x7d"

def renderItems : List Json → String
  | [] => ""
  | [j] => j.render
  | j :: rest => j.render ++ "," ++ renderItems rest

def renderMembers : List (String × Json) → String
  | [] => ""
  | [(name, j)] => quote name ++ ":" ++ j.render
  | (name, j) :: rest => quote name ++ ":" ++ j.render ++ "," ++ renderMembers rest

end

end AccessControl.Json

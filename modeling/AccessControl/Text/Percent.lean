import AccessControl.Text.Digits
import AccessControl.Text.Split
import AccessControl.Text.Utf8

/-! # Percent-encoded texts and forms -/

namespace AccessControl.Text

/-- The bytes of a text in which any byte can be written as a percent sign and two hexadecimal
digits. -/
def percentDecode : List Char → List Nat
  | '%' :: a :: b :: rest =>
    match hexDigit? a, hexDigit? b with
    | some h, some l => (16 * h + l) :: percentDecode rest
    | _, _ => bytesOf '%' ++ percentDecode (a :: b :: rest)
  | c :: rest => bytesOf c ++ percentDecode rest
  | [] => []

def unescape? (cs : List Char) : Option String := ofBytes? (percentDecode cs)

/-- A name or a value of a form, where a plus sign stands for a blank. -/
def formText (cs : List Char) : String :=
  ofBytesLossy (percentDecode (cs.map fun c => if c = '+' then ' ' else c))

/-- A name and its value, which is empty where there is no equals sign. -/
def formField (cs : List Char) : String × String :=
  match splitFirst? '=' cs with
  | some (name, value) => (formText name, formText value)
  | none => (formText cs, "")

/-- The names and values of a form. -/
def formFields (cs : List Char) : List (String × String) :=
  ((splitAll '&' cs).filter fun piece => !piece.isEmpty).map formField

end AccessControl.Text

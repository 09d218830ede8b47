import AccessControl.Identifier
import AccessControl.Instant.Basic
import AccessControl.Json.Member

/-! # Values and rows of the database -/

namespace AccessControl.Database

/-- The types that columns can have. -/
inductive ColumnType where
  | uuid
  | text
  | integer
  | boolean
  | jsonb
  | timestamp
deriving DecidableEq, Repr

def ColumnType.name : ColumnType → String
  | uuid => "UUID"
  | text => "TEXT"
  | integer => "INTEGER"
  | boolean => "BOOLEAN"
  | jsonb => "JSONB"
  | timestamp => "TIMESTAMPTZ"

/-- The second at which the year 2000 begins. -/
def epoch : Int := 946684800

/-- What the database keeps of an instant. A part of a microsecond is cut off, towards the start of
the year 2000, and a leap second is the first second of the next minute. -/
def kept (t : Instant) : Instant :=
  let micros := ((t.second - epoch) * 1000000000 + t.nano).tdiv 1000
  .ofSecond (epoch + micros / 1000000) ((micros % 1000000).toNat * 1000)

/-- A value in a row, or one that is bound to a place in a statement. -/
inductive Value where
  | null
  | uuid (u : Uuid)
  | text (s : String)
  /-- An integer of 32 bits. -/
  | integer (n : Int)
  /-- An integer of 64 bits. -/
  | count (n : Int)
  | boolean (b : Bool)
  | jsonb (j : Json)
  | timestamp (t : Instant)
  | uuids (us : List Uuid)
deriving Repr

namespace Value

def ofOption {α : Type} (write : α → Value) : Option α → Value
  | none => null
  | some a => write a

def ofId {kind : Entity} (id : Id kind) : Value := uuid id.uuid

def ofInstant (t : Instant) : Value := timestamp (kept t)

def id? {kind : Entity} : Value → Option (Id kind)
  | uuid u => some ⟨u⟩
  | _ => none

def text? : Value → Option String
  | text s => some s
  | _ => none

def integer? : Value → Option Int
  | integer n => some n
  | _ => none

/-- A count, of which one below zero is taken for zero. -/
def count? : Value → Option Nat
  | count n => some n.toNat
  | _ => none

def boolean? : Value → Option Bool
  | boolean b => some b
  | _ => none

def instant? : Value → Option Instant
  | timestamp t => some t
  | _ => none

/-- What a value is decoded from. -/
def json? {α : Type} (decode : Json.Decoder α) : Value → Option α
  | jsonb j => decode.ofJson? j
  | _ => none

def nullable {α : Type} (read : Value → Option α) : Value → Option (Option α)
  | null => some none
  | v => (read v).map some

end Value

/-- Named values in the order of their columns. -/
structure Row where
  cells : List (String × Value)
deriving Repr

namespace Row

def columns (r : Row) : List String := r.cells.map (·.1)

def values (r : Row) : List Value := r.cells.map (·.2)

/-- The value of a column, the last one where a name is repeated. -/
def get? (r : Row) (column : String) : Option Value := r.cells.reverse.lookup column

def read? {α : Type} (r : Row) (column : String) (read : Value → Option α) : Option α :=
  r.get? column >>= read

/-- The value of a row of one column, whatever its name. -/
def single? {α : Type} (read : Value → Option α) (r : Row) : Option α :=
  r.cells.head? >>= fun c => read c.2

end Row

end AccessControl.Database

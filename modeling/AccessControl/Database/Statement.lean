import AccessControl.Database.Value

/-! # Statements

A statement names its columns together with the values that are bound to them. Its text and the
list of its parameters are read off it. -/

namespace AccessControl.Database

inductive Comparison where
  | equal
  | atLeast
  | below
deriving DecidableEq, Repr

def Comparison.symbol : Comparison → String
  | equal => "="
  | atLeast => ">="
  | below => "<"

/-- What a row has to fulfil. -/
inductive Condition where
  | equals (column : String) (value : Value)
  | isAmong (column : String) (ids : List Uuid)
  /-- One of the tests holds, or the value to compare with is null. -/
  | whenGiven (type : ColumnType) (tests : List (String × Comparison)) (value : Value)
  | isTrue (column : String)
  | isNull (column : String)
  | isNotNull (column : String)
  /-- The columns of two tables are equal. -/
  | joins (left right : String)
  /-- The instant lies further back than a number of days. -/
  | olderThan (column : String) (days : Value)
deriving Repr

structure Selection where
  /-- What each row shows. -/
  columns : List String
  table : String
  conditions : List Condition := []
  group : Option String := none
  order : List String := []
  /-- The greatest number of rows, and how many are left out before them. -/
  page : Option (Nat × Nat) := none
deriving Repr

inductive Statement where
  | start
  | commit
  | select (s : Selection)
  | insert (table : String) (row : Row)
  /-- A row for each row of another table that fulfils the conditions. One column is taken from
  there: `key` is its name and what it is taken from. -/
  | insertFrom (table : String) (key : String × String) (row : Row) (source : String)
      (conditions : List Condition)
  /-- Columns in `touched` get the present time. -/
  | update (table : String) (conditions : List Condition) (changes : Row) (touched : List String)
      (returning : List String)
  | delete (table : String) (joined : Option String) (conditions : List Condition)
deriving Repr

/-! ## Parameters -/

def Condition.params : Condition → List Value
  | equals _ v | whenGiven _ _ v | olderThan _ v => [v]
  | isAmong _ ids => [.uuids ids]
  | isTrue _ | isNull _ | isNotNull _ | joins .. => []

def Condition.allParams (conditions : List Condition) : List Value := conditions.flatMap params

def Selection.pageParams : Option (Nat × Nat) → List Value
  | none => []
  | some (limit, offset) => [.count limit, .count offset]

/-- The values that are bound to the places `$1`, `$2` and so on. -/
def Statement.params : Statement → List Value
  | start | commit => []
  | select s => Condition.allParams s.conditions ++ Selection.pageParams s.page
  | insert _ row => row.values
  | insertFrom _ _ row _ conditions => Condition.allParams conditions ++ row.values
  | update _ conditions changes _ _ => Condition.allParams conditions ++ changes.values
  | delete _ _ conditions => Condition.allParams conditions

/-! ## Texts -/

def commas : List String → String := ", ".intercalate

/-- The place of the `n`th parameter. -/
def place (n : Nat) : String := "$" ++ toString n

/-- The `count` places from the `n`th on. -/
def places (n count : Nat) : List String := (List.range' n count).map place

/-- A list in parentheses. One too long for a line is set off by blanks. -/
def parenthesized (items : List String) : String :=
  let inner := commas items
  if inner.length ≤ 80 then "(" ++ inner ++ ")" else "( " ++ inner ++ " )"

/-- The text of a condition whose parameter has the `n`th place. -/
def Condition.text (n : Nat) : Condition → String
  | equals column _ => s!"{column} = {place n}"
  | isAmong column _ => s!"{column} = ANY({place n})"
  | whenGiven type tests _ =>
    let tests := tests.map fun (column, comparison) => s!"{column} {comparison.symbol} {place n}"
    s!"({place n}::{type.name} IS NULL OR " ++ " OR ".intercalate tests ++ ")"
  | isTrue column => column
  | isNull column => s!"{column} IS NULL"
  | isNotNull column => s!"{column} IS NOT NULL"
  | joins left right => s!"{left} = {right}"
  | olderThan column _ => s!"{column} < now() - make_interval(days => {place n})"

/-- The texts of conditions whose parameters have the places from the `n`th on. -/
def Condition.texts : Nat → List Condition → List String
  | _, [] => []
  | n, c :: rest => c.text n :: texts (n + c.params.length) rest

def Condition.clause (conditions : List Condition) : String :=
  if conditions.isEmpty then "" else " WHERE " ++ " AND ".intercalate (texts 1 conditions)

def Selection.pageText (n : Nat) : Option (Nat × Nat) → String
  | none => ""
  | some _ => s!" LIMIT {place n} OFFSET {place (n + 1)}"

def Selection.text (s : Selection) : String :=
  s!"SELECT {commas s.columns} FROM {s.table}" ++ Condition.clause s.conditions
    ++ (s.group.map fun column => " GROUP BY " ++ column).getD ""
    ++ (if s.order.isEmpty then "" else " ORDER BY " ++ commas s.order)
    ++ pageText ((Condition.allParams s.conditions).length + 1) s.page

/-- The changes whose values have the places from the `n`th on. -/
def changeTexts (n : Nat) (changes : Row) (touched : List String) : List String :=
  ((changes.columns.zip (places n changes.cells.length)).map fun (column, place) =>
      s!"{column} = {place}")
    ++ touched.map fun column => s!"{column} = now()"

def Statement.text : Statement → String
  | start => "BEGIN"
  | commit => "COMMIT"
  | select s => s.text
  | insert table row =>
    s!"INSERT INTO {table} {parenthesized row.columns} "
      ++ s!"VALUES ({commas (places 1 row.cells.length)})"
  | insertFrom table (column, taken) row source conditions =>
    let first := (Condition.allParams conditions).length + 1
    s!"INSERT INTO {table} {parenthesized (column :: row.columns)} "
      ++ s!"SELECT {commas (taken :: places first row.cells.length)} FROM {source}"
      ++ Condition.clause conditions
  | update table conditions changes touched returning =>
    let first := (Condition.allParams conditions).length + 1
    s!"UPDATE {table} SET {commas (changeTexts first changes touched)}"
      ++ Condition.clause conditions
      ++ if returning.isEmpty then "" else " RETURNING " ++ commas returning
  | delete table joined conditions =>
    s!"DELETE FROM {table}" ++ (joined.map fun other => " USING " ++ other).getD ""
      ++ Condition.clause conditions

end AccessControl.Database

import AccessControl.Database.Statement

/-! # The schema of the database

The tables and indexes as data, and the script that creates those that are missing. -/

namespace AccessControl.Database.Schema

/-- What happens to the rows that refer to a deleted one. -/
inductive Deletion where
  | cascade
  | restrict
deriving DecidableEq, Repr

structure Column where
  name : String
  type : ColumnType
  nullable : Bool := false
  /-- The column alone is the primary key. -/
  isKey : Bool := false
  references : Option (String × Deletion) := none
  default : Option String := none
  check : Option String := none
deriving DecidableEq, Repr

structure Table where
  name : String
  columns : List Column
  primaryKey : List String := []
  unique : List String := []
  checks : List String := []
deriving DecidableEq, Repr

structure Index where
  name : String
  table : String
  columns : List String
  condition : Option String := none
deriving DecidableEq, Repr

inductive Item where
  | table (t : Table)
  | index (i : Index)
deriving DecidableEq, Repr

/-! ## Tables and indexes -/

def key : Column := { name := "id", type := .uuid, isKey := true }

def organization : Column :=
  { name := "organization_id", type := .uuid, references := some ("organizations", .cascade) }

def flag (name default : String) : Column := { name, type := .boolean, default := some default }

/-- An instant that is the present one unless it is given. -/
def stamp (name : String) : Column := { name, type := .timestamp, default := some "now()" }

/-- A text that shows something. -/
def shown (name : String) : Column :=
  { name, type := .text, check := some s!"length(trim({name})) > 0" }

def document (name default : String) : Column :=
  { name, type := .jsonb, default := some s!"'{default}'::JSONB" }

def emptyObject : String := "\x7b\x7d"

def organizations : Table where
  name := "organizations"
  columns := [key, shown "name", flag "active" "TRUE", stamp "created_at"]

def roles : Table where
  name := "roles"
  columns := [
    key,
    organization,
    { name := "key", type := .text, check := some "key ~ '^[a-z][a-z0-9_]\x7b0,49\x7d$'" },
    shown "name",
    { name := "priority", type := .integer, check := some "priority BETWEEN 0 AND 1000" },
    flag "is_system" "FALSE",
    flag "is_editable" "TRUE",
    stamp "created_at",
    stamp "updated_at"]
  unique := ["organization_id", "key"]

def rolePermissions : Table where
  name := "role_permissions"
  columns := [
    { name := "role_id", type := .uuid, references := some ("roles", .cascade) },
    { name := "resource_type", type := .text },
    { name := "action", type := .text },
    document "conditions" emptyObject,
    document "scope" emptyObject,
    stamp "created_at"]
  primaryKey := ["role_id", "resource_type", "action"]

/-- The role that a row may refer to, which then cannot be deleted. -/
def heldRole : Column :=
  { name := "role_id", type := .uuid, nullable := true, references := some ("roles", .restrict) }

def memberships : Table where
  name := "memberships"
  columns := [
    organization,
    { name := "user_id", type := .uuid },
    { name := "legacy_role", type := .text, nullable := true,
      check := some "legacy_role IN ('owner', 'admin', 'member', 'viewer')" },
    heldRole,
    flag "active" "TRUE",
    stamp "created_at"]
  primaryKey := ["organization_id", "user_id"]
  checks := ["(legacy_role IS NULL) <> (role_id IS NULL)"]

def teamMemberships : Table where
  name := "team_memberships"
  columns := [
    organization,
    { name := "team_id", type := .text },
    { name := "user_id", type := .uuid }]
  primaryKey := ["organization_id", "team_id", "user_id"]

def permissionDelegations : Table where
  name := "permission_delegations"
  columns := [
    key,
    organization,
    { name := "delegator_id", type := .uuid },
    { name := "delegatee_id", type := .uuid },
    heldRole,
    document "permissions" "[]",
    { name := "starts_at", type := .timestamp },
    { name := "ends_at", type := .timestamp },
    flag "active" "TRUE",
    { name := "revoked_at", type := .timestamp, nullable := true },
    { name := "reason", type := .text, nullable := true },
    stamp "created_at"]
  checks := ["ends_at > starts_at", "delegator_id <> delegatee_id"]

def resourcePermissions : Table where
  name := "resource_permissions"
  columns := [
    key,
    organization,
    { name := "user_id", type := .uuid },
    { name := "resource_type", type := .text },
    { name := "permission_resource_type", type := .text },
    { name := "permission_action", type := .text },
    shown "resource_id",
    { name := "granted", type := .boolean },
    { name := "expires_at", type := .timestamp, nullable := true },
    { name := "revoked_at", type := .timestamp, nullable := true },
    { name := "granted_by", type := .uuid, nullable := true },
    stamp "created_at"]

/-- Entries outlive the organization that they are about. -/
def auditLogEntries : Table where
  name := "audit_log_entries"
  columns := [
    key,
    { name := "organization_id", type := .uuid },
    { name := "actor_id", type := .uuid, nullable := true },
    { name := "action", type := .text },
    { name := "resource_type", type := .text, nullable := true },
    { name := "resource_id", type := .text, nullable := true },
    { name := "permitted", type := .boolean },
    document "context" emptyObject,
    { name := "ip_address", type := .text, nullable := true },
    { name := "user_agent", type := .text, nullable := true },
    stamp "created_at"]

def items : List Item := [
  .table organizations,
  .table roles,
  .table rolePermissions,
  .table memberships,
  .index {
    name := "idx_memberships_role"
    table := "memberships"
    columns := ["organization_id", "role_id"]
    condition := some "role_id IS NOT NULL" },
  .table teamMemberships,
  .index {
    name := "idx_team_memberships_user"
    table := "team_memberships"
    columns := ["organization_id", "user_id"] },
  .table permissionDelegations,
  .index {
    name := "idx_permission_delegations_delegatee"
    table := "permission_delegations"
    columns := ["organization_id", "delegatee_id", "ends_at"] },
  .table resourcePermissions,
  .index {
    name := "idx_resource_permissions_user"
    table := "resource_permissions"
    columns := ["organization_id", "user_id"] },
  .table auditLogEntries,
  .index {
    name := "idx_audit_log_entries_organization_created"
    table := "audit_log_entries"
    columns := ["organization_id", "created_at DESC"] },
  .index {
    name := "idx_audit_log_entries_actor"
    table := "audit_log_entries"
    columns := ["organization_id", "actor_id", "created_at DESC"] }]

/-! ## The script -/

def Deletion.text : Deletion → String
  | cascade => "CASCADE"
  | restrict => "RESTRICT"

def ifGiven {α : Type} (write : α → String) (a : Option α) : String := (a.map write).getD ""

def Column.text (c : Column) : String :=
  c.name ++ " " ++ c.type.name
    ++ (if c.isKey then " PRIMARY KEY" else if c.nullable then " NULL" else " NOT NULL")
    ++ ifGiven
      (fun (table, deletion) => s!" REFERENCES {table}(id) ON DELETE {Deletion.text deletion}")
      c.references
    ++ ifGiven (" DEFAULT " ++ ·) c.default
    ++ ifGiven (fun condition => s!" CHECK ({condition})") c.check

/-- A key over some columns, unless there are none. -/
def keyTexts (title : String) (columns : List String) : List String :=
  if columns.isEmpty then [] else [s!"{title} ({commas columns})"]

def Table.text (t : Table) : String :=
  let parts := t.columns.map Column.text ++ keyTexts "PRIMARY KEY" t.primaryKey
    ++ keyTexts "UNIQUE" t.unique ++ t.checks.map fun condition => s!"CHECK ({condition})"
  s!"CREATE TABLE IF NOT EXISTS {t.name} ( {commas parts} );"

def Index.text (i : Index) : String :=
  s!"CREATE INDEX IF NOT EXISTS {i.name} ON {i.table} ({commas i.columns})"
    ++ ifGiven (" WHERE " ++ ·) i.condition ++ ";"

def Item.text : Item → String
  | table t => t.text
  | index i => i.text

/-- The statements that create what is missing. -/
def script : String := " ".intercalate (items.map Item.text)

end AccessControl.Database.Schema

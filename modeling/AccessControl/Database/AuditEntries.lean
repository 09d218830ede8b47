import AccessControl.Audit.Entry
import AccessControl.Database.Session
import AccessControl.Text.Set

/-! # Audit entries in the database -/

namespace AccessControl.Database.AuditEntries

def columns : List String :=
  ["id", "organization_id", "actor_id", "action", "resource_type", "resource_id", "permitted",
    "context", "ip_address", "user_agent", "created_at"]

def toRow (e : AuditEntry) : Row := ⟨[
  ("id", .ofId e.id),
  ("organization_id", .ofId e.organization),
  ("actor_id", .ofOption .ofId e.actor),
  ("action", .text e.action),
  ("resource_type", .ofOption .text e.resourceType),
  ("resource_id", .ofOption .text e.resourceId),
  ("permitted", .boolean e.permitted),
  ("context", .jsonb (.object e.context)),
  ("ip_address", .ofOption .text e.ipAddress),
  ("user_agent", .ofOption .text e.userAgent),
  ("created_at", .ofInstant e.createdAt)]⟩

def ofRow? (r : Row) : Option AuditEntry := do
  return {
    id := ← r.read? "id" Value.id?
    organization := ← r.read? "organization_id" Value.id?
    actor := ← r.read? "actor_id" (Value.nullable Value.id?)
    action := ← r.read? "action" Value.text?
    resourceType := ← r.read? "resource_type" (Value.nullable Value.text?)
    resourceId := ← r.read? "resource_id" (Value.nullable Value.text?)
    permitted := ← r.read? "permitted" Value.boolean?
    context := ← r.read? "context" (Value.json? .members)
    ipAddress := ← r.read? "ip_address" (Value.nullable Value.text?)
    userAgent := ← r.read? "user_agent" (Value.nullable Value.text?)
    createdAt := ← r.read? "created_at" Value.instant? }

/-! ## Statements -/

def table : String := "audit_log_entries"

def isWithin (w : AuditWindow) : List Condition := [
  .whenGiven .timestamp [("created_at", .atLeast)] (.ofOption .ofInstant w.start),
  .whenGiven .timestamp [("created_at", .below)] (.ofOption .ofInstant w.stop)]

def isOf (organization : Option OrganizationId) : Condition :=
  .whenGiven .uuid [("organization_id", .equal)] (.ofOption .ofId organization)

/-- The greatest number that a count can be. -/
def maxCount : Nat := UInt64.size / 2 - 1

def selectEntries (q : AuditQuery) : Selection where
  columns
  table
  conditions := [
    isOf q.organization,
    .whenGiven .uuid [("actor_id", .equal)] (.ofOption .ofId q.actor),
    .whenGiven .text [("action", .equal)] (.ofOption .text q.action),
    .whenGiven .text [("resource_type", .equal)] (.ofOption .text q.resourceType),
    .whenGiven .boolean [("permitted", .equal)] (.ofOption .boolean q.permitted)]
    ++ isWithin q.window
  order := ["created_at DESC", "id"]
  page := some (min q.limit maxCount, min q.offset maxCount)

def selectTotals (organization : Option OrganizationId) (window : AuditWindow) : Selection where
  columns := [
    "COUNT(*) AS total",
    "COUNT(*) FILTER (WHERE permitted) AS permitted",
    "COUNT(DISTINCT actor_id) AS distinct_actors"]
  table
  conditions := isOf organization :: isWithin window

/-- How often each value of a column occurs. -/
def selectCounts (column : String) (present : List Condition)
    (organization : Option OrganizationId) (window : AuditWindow) : Selection where
  columns := [column ++ " AS label", "COUNT(*) AS count"]
  table
  conditions := isOf organization :: isWithin window ++ present
  group := some column

def deleteOld (organization : OrganizationId) (days : Nat) : Statement :=
  .delete table none [
    .equals "organization_id" (.ofId organization),
    .olderThan "created_at" (.integer days)]

/-! ## What is asked for -/

structure Totals where
  total : Nat
  permitted : Nat
  distinctActors : Nat
deriving DecidableEq, Repr

def Totals.ofRow? (r : Row) : Option Totals := do
  return {
    total := ← r.read? "total" Value.count?
    permitted := ← r.read? "permitted" Value.count?
    distinctActors := ← r.read? "distinct_actors" Value.count? }

def labelCountOfRow? (r : Row) : Option (String × Nat) := do
  return (← r.read? "label" Value.text?, ← r.read? "count" Value.count?)

/-- The counts in the order of their labels. Of a repeated label the last count stands. -/
def sortCounts (counts : List (String × Nat)) : List (String × Nat) :=
  (TextSet.ofList (counts.map (·.1))).toList.map fun l => (l, (counts.reverse.lookup l).getD 0)

def append (e : AuditEntry) : Session Unit :=
  Session.write (.database "append audit log entry") (.insert table (toRow e))

def list (q : AuditQuery) : Session (List AuditEntry) :=
  Session.all "list audit log entries" ofRow? (selectEntries q)

def countBy (column : String) (present : List Condition) (organization : Option OrganizationId)
    (window : AuditWindow) : Session (List (String × Nat)) := do
  return sortCounts (← Session.all "group audit log entries" labelCountOfRow?
    (selectCounts column present organization window))

def summarize (organization : Option OrganizationId) (window : AuditWindow) :
    Session AuditSummary := do
  let totals ← Session.only "summarize audit log" Totals.ofRow? (selectTotals organization window)
  let byAction ← countBy "action" [] organization window
  let byResourceType ←
    countBy "resource_type" [.isNotNull "resource_type"] organization window
  let denied := totals.total - totals.permitted
  return {
    total := totals.total
    permitted := totals.permitted
    denied
    denialRate := denialRate denied totals.total
    distinctActors := totals.distinctActors
    byAction
    byResourceType }

/-- Drop the entries older than a number of days, and tell how many there were. -/
def purge (organization : OrganizationId) (days : Nat) : Session Nat := do
  let answer ← Session.send (.database "purge audit log entries") (deleteOld organization days)
  return answer.affected

end AccessControl.Database.AuditEntries

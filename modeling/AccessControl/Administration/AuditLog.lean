import AccessControl.Administration.Basic

/-! # Administration of the audit log -/

namespace AccessControl.Administration

open Service

def maxPageSize : Nat := 500

def maxExportRows : Nat := 10000

def requireOnLog (s : Setting) (actor : Actor) (action : Action) : Service Unit :=
  Authorization.require s actor action (.ofType .auditLog)

/-- The query, kept to the actor's organization and to the size of a page. -/
def pageQuery (actor : Actor) (q : AuditQuery) : AuditQuery :=
  { q with organization := some actor.organization, limit := max 1 (min q.limit maxPageSize) }

def listEntries (s : Setting) (actor : Actor) (q : AuditQuery) : Service (List AuditEntry) := do
  requireOnLog s actor .read
  Audit.list (pageQuery actor q)

def auditSummary (s : Setting) (actor : Actor) (window : AuditWindow) : Service AuditSummary := do
  requireOnLog s actor .read
  Audit.summary (some actor.organization) window

def exportQuery (actor : Actor) (window : AuditWindow) : AuditQuery :=
  { organization := some actor.organization, window, limit := maxExportRows }

def exportEntries (s : Setting) (actor : Actor) (window : AuditWindow) :
    Service (List AuditEntry) := do
  requireOnLog s actor .exportData
  Audit.list (exportQuery actor window)

def purgeEntries (s : Setting) (actor : Actor) (days : Nat) : Service Nat := do
  requireOnLog s actor .destroy
  let purged ← Audit.purge actor.organization days
  report s (operationRecord actor .entriesPurged ResourceType.auditLog.name
    actor.organization.toString s!"purged {purged} entries older than {days} days")
  return purged

end AccessControl.Administration

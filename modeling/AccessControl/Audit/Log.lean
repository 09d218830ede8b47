import AccessControl.Audit.Entry
import AccessControl.Fault

/-! # The audit log and its queue

Entries are only ever appended, and leave the log when they are purged. A queue may stand in
front: it takes entries at once and hands them on later, in the order in which it took them. -/

namespace AccessControl

structure AuditLog where
  /-- In the order in which they were appended. -/
  entries : List AuditEntry := []

namespace AuditLog

def append (l : AuditLog) (e : AuditEntry) : AuditLog := ⟨l.entries ++ [e]⟩

/-- Newest first, and of one time in the order of the log. -/
def newestFirst (entries : List AuditEntry) : List AuditEntry :=
  entries.mergeSort fun a b => b.createdAt ≤ a.createdAt

def list (l : AuditLog) (q : AuditQuery) : List AuditEntry :=
  ((newestFirst (l.entries.filter q.selects)).drop q.offset).take q.limit

def summarize (l : AuditLog) (organization : Option OrganizationId) (window : AuditWindow) :
    AuditSummary :=
  .ofEntries (l.entries.filter fun e =>
    organization.all (e.organization = ·) && window.contains e.createdAt)

/-- Drop the entries of an organization from before a time. -/
def purge (l : AuditLog) (organization : OrganizationId) (cutoff : Instant) : Nat × AuditLog :=
  let kept := l.entries.filter fun e => e.organization ≠ organization || cutoff ≤ e.createdAt
  (l.entries.length - kept.length, ⟨kept⟩)

end AuditLog

structure AuditQueue where
  /-- How many entries can wait, at least one. -/
  capacity : Nat
  /-- Oldest first. -/
  waiting : List AuditEntry := []
  /-- Nobody takes entries out any more. -/
  stopped : Bool := false

namespace AuditQueue

def ofCapacity (n : Nat) : AuditQueue := { capacity := max n 1 }

/-- How many entries can wait in any queue. -/
def maxCapacity : Nat := UInt64.size / 8 - 1

def create (n : Nat) : Outcome AuditQueue :=
  if maxCapacity < n then .error .queueOverflow else .ok (ofCapacity n)

def push (q : AuditQueue) (e : AuditEntry) : Outcome AuditQueue :=
  if q.stopped then .error .auditQueueStopped
  else if q.waiting.length < q.capacity then .ok { q with waiting := q.waiting ++ [e] }
  else .error .auditQueueFull

/-- Take out the oldest entry. -/
def next? (q : AuditQueue) : Option (AuditEntry × AuditQueue) :=
  match q.waiting with
  | [] => none
  | e :: rest => some (e, { q with waiting := rest })

/-- What waits is lost. -/
def stop (q : AuditQueue) : AuditQueue := { q with waiting := [], stopped := true }

end AuditQueue

end AccessControl

import AccessControl.Audit.Log
import AccessControl.Call
import AccessControl.RuleCache
import AccessControl.Store

/-! # Answering calls in memory

Behind the calls stand a store, an audit log and a cache of rule sets. Any call can be out of
order, and then it fails before it does anything. -/

namespace AccessControl

structure Backend where
  store : Store := {}
  log : AuditLog := {}
  /-- The queue in front of the log, if there is one. -/
  queue : Option AuditQueue := none
  cache : RuleCache := {}
  /-- The time by which old entries are purged. -/
  wall : Instant
  /-- The identifiers of each kind, in the order in which they are given out. -/
  mint : (kind : Entity) → Nat → Id kind
  /-- How many identifiers of each kind are used up. -/
  used : Entity → Nat := fun _ => 0
  /-- The calls that are out of order. -/
  broken : List String := []

namespace Backend

/-- The log takes no entries from its queue under this name. -/
def logWriter : String := "queued_append"

/-- Why a call fails at once, if it does. -/
def outage? (b : Backend) (c : Call) : Option Fault :=
  (c.name?.filter fun name => b.broken.contains name).map .unavailable

/-- The identifier that the next record of a kind gets. It is used up when the record is stored. -/
def nextId (b : Backend) (kind : Entity) : Id kind := b.mint kind (b.used kind + 1)

def useId (b : Backend) (kind : Entity) : Backend :=
  { b with used := fun k => if k = kind then b.used k + 1 else b.used k }

/-- Go on with a changed store, or leave everything as it is. -/
def update (b : Backend) : Outcome Store → Outcome Unit × Backend
  | .ok store => (.ok (), { b with store })
  | .error fault => (.error fault, b)

/-- A change of the store that uses up an identifier. -/
def insert (b : Backend) (kind : Entity) : Outcome Store → Outcome Unit × Backend
  | .ok store => (.ok (), { b.useId kind with store })
  | .error fault => (.error fault, b)

def setMemberRole (b : Backend) (organization : OrganizationId) (user : UserId)
    (role : MemberRole) : Outcome Member × Backend :=
  match b.store.setMemberRole organization user role with
  | .ok (m, store) => (.ok m, { b with store })
  | .error fault => (.error fault, b)

def appendEntry (b : Backend) (e : AuditEntry) : Outcome Unit × Backend :=
  match b.queue with
  | none => (.ok (), { b.useId .auditEntry with log := b.log.append e })
  | some queue =>
    match queue.push e with
    | .ok queue => (.ok (), { b.useId .auditEntry with queue := some queue })
    | .error fault => (.error fault, b)

def purgeEntries (b : Backend) (organization : OrganizationId) (days : Nat) :
    Outcome Nat × Backend :=
  let (purged, log) := b.log.purge organization (b.wall.subDays days)
  (.ok purged, { b with log })

/-- What a call in order answers, and what it leaves behind. -/
def serve : (c : Call) → Backend → Outcome c.Reply × Backend
  | .newId kind, b => (.ok (b.nextId kind), b)
  | .findMember organization user, b => (.ok (b.store.findMember organization user), b)
  | .findRole organization id, b => (.ok (b.store.findRole organization id), b)
  | .listTeams organization user, b => (.ok (b.store.teams organization user), b)
  | .listReceivedDelegations organization user, b =>
    (.ok (b.store.receivedDelegations organization user), b)
  | .listReceivedOverrides organization user, b =>
    (.ok (b.store.receivedOverrides organization user), b)
  | .listRoles organization, b => (.ok (b.store.listRoles organization), b)
  | .findRoleByKey organization key, b => (.ok (b.store.findRoleByKey organization key), b)
  | .createRole role, b => b.insert .role (b.store.createRole role)
  | .updateRole role, b => b.update (b.store.updateRole role)
  | .deleteRole organization id, b => b.update (b.store.deleteRole organization id)
  | .countMembers organization id, b => (.ok (b.store.countMembers organization id), b)
  | .countDelegations organization id, b => (.ok (b.store.countDelegations organization id), b)
  | .addGrant organization id grant, b => b.update (b.store.addGrant organization id grant)
  | .removeGrant organization id permission, b =>
    b.update (b.store.removeGrant organization id permission)
  | .setMemberRole organization user role, b => b.setMemberRole organization user role
  | .createDelegation d, b => b.insert .delegation (b.store.createDelegation d)
  | .findDelegation organization id, b => (.ok (b.store.findDelegation organization id), b)
  | .saveDelegation d, b => b.update (b.store.saveDelegation d)
  | .listDelegations organization user, b => (.ok (b.store.listDelegations organization user), b)
  | .createOverride o, b => b.insert .override (b.store.createOverride o)
  | .findOverride organization id, b => (.ok (b.store.findOverride organization id), b)
  | .saveOverride o, b => b.update (b.store.saveOverride o)
  | .listOverrides organization user, b => (.ok (b.store.listOverrides organization user), b)
  | .cachedRules organization user, b => (.ok (b.cache.get organization user), b)
  | .cacheRules organization user rules ttl, b =>
    (.ok (), { b with cache := b.cache.set organization user rules ttl })
  | .forgetUser organization user, b =>
    (.ok (), { b with cache := b.cache.forgetUser organization user })
  | .forgetOrganization organization, b =>
    (.ok (), { b with cache := b.cache.forgetOrganization organization })
  | .appendEntry e, b => b.appendEntry e
  | .listEntries q, b => (.ok (b.log.list q), b)
  | .summarize organization window, b => (.ok (b.log.summarize organization window), b)
  | .purgeEntries organization days, b => b.purgeEntries organization days

/-- What a call answers, in order or not. -/
def answer (c : Call) (b : Backend) : Outcome c.Reply × Backend :=
  match b.outage? c with
  | some fault => (.error fault, b)
  | none => b.serve c

/-- Run a program of the services. -/
def run {α : Type} (b : Backend) (p : Service α) : Outcome α × Backend := Program.run answer p b

/-! ## The writer of the queue -/

/-- Hand the oldest entry that waits on to the log. While the log refuses entries it is lost. -/
def writeNext (b : Backend) : Backend :=
  match b.queue.bind (·.next?) with
  | none => b
  | some (e, queue) =>
    let log := if b.broken.contains logWriter then b.log else b.log.append e
    { b with queue := some queue, log }

/-- Hand on all entries that wait. -/
def drain (b : Backend) : Backend :=
  Nat.repeat writeNext ((b.queue.map (·.waiting.length)).getD 0) b

def stopWriter (b : Backend) : Backend := { b with queue := b.queue.map .stop }

end Backend

end AccessControl

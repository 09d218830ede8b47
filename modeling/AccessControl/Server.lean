import AccessControl.CacheServer
import AccessControl.Config
import AccessControl.Database.AuditEntries
import AccessControl.Database.Delegations
import AccessControl.Database.Members
import AccessControl.Database.Overrides
import AccessControl.Database.Roles
import AccessControl.Audit.Log
import AccessControl.Http.Handler
import AccessControl.RuleCache

/-! # The server

A server keeps its records in the database. Audit entries wait in its memory until they are
written, and rule sets are remembered in its memory or on a cache server. -/

namespace AccessControl.Server

/-- What the server asks of others. -/
inductive Call where
  | newId (kind : Entity)
  | database (s : Database.Statement)
  | cacheServer (c : CacheServer.Command)

abbrev Call.Reply : Call → Type
  | newId kind => Id kind
  | database s => Database.Reply s
  | cacheServer c => CacheServer.Reply c

abbrev Task (α : Type) := Program Call Call.Reply α

inductive Cache where
  | memory (rules : RuleCache)
  | shared (cache : CacheServer.Cache)

structure State where
  cache : Cache
  queue : AuditQueue

/-- What the keys on a cache server start with. -/
def cacheLabel : String := "tasklane:capabilities"

def State.ofConfig (c : Config) : Outcome State := do
  c.checkCache
  let cache := match c.cacheBackend with
    | .inMemory => Cache.memory {}
    | .redis => .shared ⟨cacheLabel⟩
  return { cache, queue := ← AuditQueue.create c.queueCapacity }

variable {α : Type}

def inDatabase (s : Database.Session α) : Task α :=
  s.expand fun statement => Program.perform (.database statement)

def onCacheServer (s : CacheServer.Session α) : Task α :=
  s.expand fun command => Program.perform (.cacheServer command)

/-! ## Answering the services -/

/-- Records are where the database keeps them. -/
def record (state : State) (s : Database.Session α) : Task (Outcome α × State) := do
  return (← (inDatabase s).attempt, state)

/-- A call of the cache, wherever it is. -/
def remember (state : State) (inMemory : RuleCache → α × RuleCache)
    (onServer : CacheServer.Cache → CacheServer.Session α) : Task (Outcome α × State) :=
  match state.cache with
  | .memory rules =>
    let (a, rules) := inMemory rules
    pure (.ok a, { state with cache := .memory rules })
  | .shared cache => do return (← (onCacheServer (onServer cache)).attempt, state)

def enqueue (state : State) (e : AuditEntry) : Outcome Unit × State :=
  match state.queue.push e with
  | .ok queue => (.ok (), { state with queue })
  | .error fault => (.error fault, state)

def newId (state : State) (kind : Entity) : Task (Outcome (Id kind) × State) := do
  return (← (Program.perform (Call.newId kind) : Task (Id kind)).attempt, state)

open Database in
def answer : (c : AccessControl.Call) → State → Task (Outcome c.Reply × State)
  | .newId kind, s => newId s kind
  | .findMember organization user, s => record s (Members.find organization user)
  | .findRole organization id, s => record s (Roles.find organization id)
  | .listTeams organization user, s => record s (Members.teams organization user)
  | .listReceivedDelegations organization user, s =>
    record s (Delegations.received organization user)
  | .listReceivedOverrides organization user, s => record s (Overrides.received organization user)
  | .listRoles organization, s => record s (Roles.list organization)
  | .findRoleByKey organization key, s => record s (Roles.findByKey organization key)
  | .createRole role, s => record s (Roles.create role)
  | .updateRole role, s => record s (Roles.update role)
  | .deleteRole organization id, s => record s (Roles.delete organization id)
  | .countMembers organization id, s => record s (Roles.countMembers organization id)
  | .countDelegations organization id, s => record s (Roles.countDelegations organization id)
  | .addGrant organization id grant, s => record s (Roles.addGrant organization id grant)
  | .removeGrant organization id permission, s =>
    record s (Roles.removeGrant organization id permission)
  | .setMemberRole organization user role, s => record s (Members.setRole organization user role)
  | .createDelegation d, s => record s (Delegations.create d)
  | .findDelegation organization id, s => record s (Delegations.find organization id)
  | .saveDelegation d, s => record s (Delegations.save d)
  | .listDelegations organization user, s => record s (Delegations.list organization user)
  | .createOverride o, s => record s (Overrides.create o)
  | .findOverride organization id, s => record s (Overrides.find organization id)
  | .saveOverride o, s => record s (Overrides.save o)
  | .listOverrides organization user, s => record s (Overrides.list organization user)
  | .cachedRules organization user, s =>
    remember s (fun rules => (rules.get organization user, rules))
      fun cache => cache.get organization user
  | .cacheRules organization user rules ttl, s =>
    remember s (fun kept => ((), kept.set organization user rules ttl))
      fun cache => cache.set organization user rules ttl
  | .forgetUser organization user, s =>
    remember s (fun kept => ((), kept.forgetUser organization user))
      fun cache => cache.forgetUser organization user
  | .forgetOrganization organization, s =>
    remember s (fun kept => ((), kept.forgetOrganization organization))
      fun cache => cache.forgetOrganization organization
  | .appendEntry e, s => pure (enqueue s e)
  | .listEntries q, s => record s (AuditEntries.list q)
  | .summarize organization window, s => record s (AuditEntries.summarize organization window)
  | .purgeEntries organization days, s => record s (AuditEntries.purge organization days)

def run (p : Service α) (state : State) : Task (Outcome α × State) := p.thread answer state

/-- Answer a request at a time. -/
def respond (c : Config) (now : Instant) (r : Http.Request) (state : State) :
    Task (Outcome Http.Response × State) :=
  run (Http.serve ⟨c.setting now, now⟩ r) state

/-- Write the oldest entry that waits. One that cannot be written is lost. -/
def writeNext (state : State) : Task State :=
  match state.queue.next? with
  | none => pure state
  | some (e, queue) => do
    let _ ← (inDatabase (Database.AuditEntries.append e)).attempt
    return { state with queue }

end AccessControl.Server

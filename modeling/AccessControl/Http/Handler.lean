import AccessControl.Bootstrap
import AccessControl.Http.Body
import AccessControl.Http.Caller
import AccessControl.Http.Query
import AccessControl.Http.Route
import AccessControl.Http.View

/-! # Handling requests

What a request asks for is read before anything is done: the path, the query, the body. Whatever
of it makes no sense to the domain is a fault of the operation, like a missing right. -/

namespace AccessControl.Http

open Administration (Operation)

/-- What the handlers are told besides the request. -/
structure Context where
  setting : Setting
  /-- The time at which responses show what became of a record. -/
  wall : Instant

def readId {kind : Entity} (sent : List Char) : Except Rejection (Id kind) :=
  match Text.unescape? sent >>= Id.ofText? with
  | some id => .ok id
  | none => .error .badPath

def readText (sent : List Char) : Except Rejection String :=
  match Text.unescape? sent with
  | some s => .ok s
  | none => .error .badPath

def readQuery {α : Type} (r : Request) (read : List Char → Option α) : Except Rejection α :=
  match read r.target.query with
  | some a => .ok a
  | none => .error .badQuery

variable (c : Context) (caller : Caller) (organization : OrganizationId)

/-- An operation that the request spells out completely. -/
def operate (op : Operation) (respond : op.Result → Response) : Service Response := do
  let actor ← .ofOutcome (caller.actor organization)
  return respond (← op.perform c.setting actor)

/-- An operation whose argument may make no sense. Who asks is looked at first. -/
def operateOn {α : Type} (argument : Outcome α) (run : Actor → α → Service Response) :
    Service Response := do
  let actor ← .ofOutcome (caller.actor organization)
  let a ← .ofOutcome argument
  run actor a

def answerDecision (body : CheckBody) : Service Response := do
  let (action, target) ← .ofOutcome (body.toCheck organization)
  let e ← Authorization.decide c.setting organization caller.user caller.context action target
  return .ok e.toJson

def answerExplanation (body : CheckBody) : Service Response := do
  let (action, target) ← .ofOutcome (body.toCheck organization)
  return .ok (← Authorization.explain c.setting organization caller.user action target).toJson

def answerCapabilities : Service Response := do
  return .ok (View.capabilities (← Authorization.capabilities c.setting organization caller.user))

/-- Whoever may update the organization can have its first roles made. -/
def answerBootstrap : Service Response := do
  let actor ← .ofOutcome (caller.actor organization)
  Authorization.require c.setting actor .update (.resource (.ofOrganization organization true))
  let roles ← Bootstrap.ensureDefaultRoles organization
  return .ok (.ofList View.role roles)

/-- The handler of an endpoint, once the rest of the request is read. -/
def Endpoint.handler (r : Request) : Endpoint → Except Rejection (Service Response)
  | .authorize => do
    return answerDecision c caller organization (← readBody r CheckBody.decode)
  | .explain => do
    return answerExplanation c caller organization (← readBody r CheckBody.decode)
  | .capabilities => .ok (answerCapabilities c caller organization)
  | .bootstrapRoles => .ok (answerBootstrap c caller organization)
  | .listRoles =>
    .ok (operate c caller organization .listRoles fun rs => .ok (.ofList View.role rs))
  | .createRole => do
    let body ← readBody r RoleBody.decode
    return operateOn caller organization body.toDraft fun actor draft => do
      return .created (View.role (← Administration.createRole c.setting actor draft))
  | .duplicateRole role => do
    let id ← readId role
    let copy ← readBody r decodeRoleCopy
    return operate c caller organization (.duplicateRole id copy) fun v => .created (View.role v)
  | .updateRole role => do
    let id ← readId role
    let change ← readBody r decodeRoleChange
    return operate c caller organization (.updateRole id change) fun v => .ok (View.role v)
  | .deleteRole role => do
    return operate c caller organization (.deleteRole (← readId role)) fun _ => .noContent
  | .addPermission role => do
    let id ← readId role
    let body ← readBody r GrantBody.decode
    return operateOn caller organization body.toDraft fun actor draft => do
      return .created (View.role (← Administration.addPermission c.setting actor id draft))
  | .removePermission role permission => do
    let id ← readId role
    let permission ← readText permission
    return operateOn caller organization (Permission.parse permission) fun actor p => do
      return .ok (View.role (← Administration.removePermission c.setting actor id p))
  | .assignRole user => do
    let user ← readId user
    let role ← readBody r (decodeSingle "role_id" Id.decode)
    return operate c caller organization (.assignRole user role) fun v => .ok (View.member v)
  | .listDelegations => do
    let f ← readQuery r filterOfQuery?
    return operate c caller organization (.listDelegations f) fun ds =>
      .ok (.ofList (View.delegation c.wall) ds)
  | .createDelegation => do
    let body ← readBody r DelegationBody.decode
    return operateOn caller organization body.toRequest fun actor request => do
      let d ← Administration.createDelegation c.setting actor request
      return .created (View.delegation c.wall d)
  | .revokeDelegation delegation => do
    let id ← readId delegation
    return operate c caller organization (.revokeDelegation id) fun d =>
      .ok (View.delegation c.wall d)
  | .extendDelegation delegation => do
    let id ← readId delegation
    let stop ← readBody r (decodeSingle "ends_at" Instant.decode)
    return operate c caller organization (.extendDelegation id stop) fun d =>
      .ok (View.delegation c.wall d)
  | .listOverrides => do
    let f ← readQuery r filterOfQuery?
    return operate c caller organization (.listOverrides f) fun os =>
      .ok (.ofList (View.override c.wall) os)
  | .grantOverride => do
    let body ← readBody r OverrideBody.decode
    return operateOn caller organization body.toRequest fun actor request => do
      let o ← Administration.grantOverride c.setting actor request
      return .created (View.override c.wall o)
  | .revokeOverride override => do
    let id ← readId override
    return operate c caller organization (.revokeOverride id) fun o =>
      .ok (View.override c.wall o)
  | .extendOverride override => do
    let id ← readId override
    let stop ← readBody r (decodeSingle "expires_at" Instant.decode)
    return operate c caller organization (.extendOverride id stop) fun o =>
      .ok (View.override c.wall o)
  | .listEntries => do
    let params ← readQuery r AuditParams.ofQuery?
    return operate c caller organization (.listEntries params.toQuery) fun es =>
      .ok (.ofList AuditEntry.toJson es)
  | .auditSummary => do
    let window ← readQuery r windowOfQuery?
    return operate c caller organization (.auditSummary window) fun v => .ok v.toJson
  | .exportEntries => do
    let window ← readQuery r windowOfQuery?
    return operate c caller organization (.exportEntries window) fun es =>
      .ok (.ofList AuditEntry.toJson es)
  | .purgeEntries => do
    let days ← readBody r (decodeSingle "retention_days" .days)
    return operate c caller organization (.purgeEntries days) fun n => .ok (View.purged n)

/-- The response of a handler, also where it fails. Beyond the calendar there is no response. -/
def settle (p : Service Response) : Service Response := do
  match ← p.attempt with
  | .ok response => return response
  | .error .calendarOverflow => .fail .calendarOverflow
  | .error fault => return .ofFault fault

def Route.handler (c : Context) (r : Request) (caller : Caller) :
    Route → Except Rejection (Service Response)
  | .health => .ok (pure (.ok View.health))
  | .organization id endpoint => do
    let organization ← readId id
    endpoint.handler c caller organization r

/-- The caller counts only on the paths of an organization. -/
def Place.callerOf (r : Request) : Place → Outcome Caller
  | .health => .ok {}
  | .organization .. => Caller.ofRequest r

/-- The response to a request, as it would be sent to one who reads the body. Who asks is looked at
before what is asked. -/
def answerTo (c : Context) (r : Request) : Service Response :=
  match Place.ofPath? r.target.path with
  | none => pure (.ofRejection .unknownPath)
  | some place =>
    match place.callerOf r with
    | .error fault => pure (.ofFault fault)
    | .ok caller =>
      match place.route? r.method with
      | none => pure (.ofRejection .wrongMethod)
      | some route =>
        match route.handler c r caller with
        | .error rejection => pure (.ofRejection rejection)
        | .ok p => settle p

def serve (c : Context) (r : Request) : Service Response := do
  let response ← answerTo c r
  return if r.method = "HEAD" then { response with body := none } else response

end AccessControl.Http
